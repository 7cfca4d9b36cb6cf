/-!
# Text operations

The few operations on texts that the rest of the library shares, each said on the list of
characters: joining, splitting at a character, writing every character by a rule, and case folding
of the ASCII letters.
-/

namespace FormPress.Text

/-- The texts one after another, with a separator between neighbours. -/
def join (separator : String) : List String → String
  | [] => ""
  | s :: rest => rest.foldl (fun text t => text ++ separator ++ t) s

/-- The texts one after another. -/
def concat (texts : List String) : String :=
  texts.foldl (· ++ ·) ""

theorem foldl_append (s : String) (texts : List String) :
    texts.foldl (· ++ ·) s = s ++ concat texts := by
  induction texts generalizing s with
  | nil => simp [concat]
  | cons t rest ih =>
    rw [concat, List.foldl_cons, List.foldl_cons, ih, ih ("" ++ t)]
    simp [String.append_assoc]

@[simp] theorem concat_nil : concat [] = "" := rfl

@[simp] theorem concat_cons (s : String) (rest : List String) :
    concat (s :: rest) = s ++ concat rest := by
  rw [concat, List.foldl_cons, foldl_append]
  simp

theorem toList_concat (texts : List String) :
    (concat texts).toList = texts.flatMap String.toList := by
  induction texts with
  | nil => rfl
  | cons s rest ih => simp [ih]

@[simp] theorem join_nil (separator : String) : join separator [] = "" := rfl

@[simp] theorem join_singleton (separator s : String) : join separator [s] = s := rfl

theorem join_cons (separator s : String) (rest : List String) :
    join separator (s :: rest) = s ++ concat (rest.map (separator ++ ·)) := by
  rw [join]
  induction rest generalizing s with
  | nil => simp
  | cons t rest ih =>
    rw [List.foldl_cons, ih]
    simp [String.append_assoc]

/-- The texts that are not empty, with a separator between neighbours. -/
def joinGiven (separator : String) (texts : List String) : String :=
  join separator (texts.filter (· != ""))

def substitute (rule : Char → List Char) (s : String) : String :=
  String.ofList (s.toList.flatMap rule)

@[simp] theorem toList_substitute (rule : Char → List Char) (s : String) :
    (substitute rule s).toList = s.toList.flatMap rule := by
  simp [substitute]

/-- Split at every occurrence of a character; there is one piece more than occurrences. -/
def splitAt (mark : Char) : List Char → List (List Char)
  | [] => [[]]
  | c :: rest =>
    if c = mark then [] :: splitAt mark rest
    else
      match splitAt mark rest with
      | [] => [[c]]
      | piece :: pieces => (c :: piece) :: pieces

/-- Split at the first occurrence of a character, when there is one. -/
def splitFirst (mark : Char) : List Char → Option (List Char × List Char)
  | [] => none
  | c :: rest =>
    if c = mark then some ([], rest)
    else (splitFirst mark rest).map fun p => (c :: p.1, p.2)

/-- Split at the last occurrence of a character, when there is one. -/
def splitLast (mark : Char) (s : List Char) : Option (List Char × List Char) :=
  (splitFirst mark s.reverse).map fun p => (p.2.reverse, p.1.reverse)

/-- The small letter of an ASCII capital; all other characters stay. -/
def lowerAscii (c : Char) : Char :=
  if 'A' ≤ c ∧ c ≤ 'Z' then Char.ofNat (c.toNat + 32) else c

/-- Small letters in place of the ASCII capitals. -/
def foldAscii (s : String) : String :=
  String.ofList (s.toList.map lowerAscii)

/-- The value of a hexadecimal digit in either case. -/
def hexValue? (c : Char) : Option Nat :=
  if '0' ≤ c ∧ c ≤ '9' then some (c.toNat - 48)
  else if 'a' ≤ c ∧ c ≤ 'f' then some (c.toNat - 87)
  else if 'A' ≤ c ∧ c ≤ 'F' then some (c.toNat - 55)
  else none

/-- A hexadecimal digit in small letters. -/
def hexDigit (n : Nat) : Char :=
  if n < 10 then Char.ofNat (48 + n) else Char.ofNat (87 + n)

/-- The last `width` hexadecimal digits of a number. -/
def hex : Nat → Nat → List Char
  | 0, _ => []
  | width + 1, n => hex width (n / 16) ++ [hexDigit (n % 16)]

/-- The text without its line ends in pairs or alone: each becomes a line feed. -/
def unifyNewlines : List Char → List Char
  | [] => []
  | '\r' :: '\n' :: rest => '\n' :: unifyNewlines rest
  | '\r' :: rest => '\n' :: unifyNewlines rest
  | c :: rest => c :: unifyNewlines rest

/-- Replace every occurrence of a non-empty pattern, from left to right. -/
def replaceAll (pattern replacement : List Char) : Nat → List Char → List Char
  | 0, s => s
  | _ + 1, [] => []
  | fuel + 1, c :: rest =>
    if pattern.isPrefixOf (c :: rest) then
      replacement ++ replaceAll pattern replacement fuel ((c :: rest).drop pattern.length)
    else c :: replaceAll pattern replacement fuel rest

/-- The text begins with the given one. -/
def startsWith (s head : String) : Bool :=
  head.toList.isPrefixOf s.toList

/-- A text stands somewhere in another. -/
def occursIn (pattern : List Char) : List Char → Bool
  | [] => pattern.isEmpty
  | c :: rest => pattern.isPrefixOf (c :: rest) || occursIn pattern rest

/-- The first text stands somewhere in the second. -/
def contains (pattern s : String) : Bool :=
  occursIn pattern.toList s.toList

/-- The decimal digits of a natural number. -/
def decimal (n : Nat) : String :=
  String.ofList (Nat.toDigits 10 n)

/-- The decimal digits of an integer, after a minus sign if it is negative. -/
def decimalInt : Int → String
  | .ofNat n => decimal n
  | .negSucc n => "-" ++ decimal (n + 1)

end FormPress.Text
