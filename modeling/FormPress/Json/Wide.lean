import FormPress.Json.Reader
import FormPress.Json.Writer

/-!
# JSON values with any code points

A text that a program holds need not be one that can be written: half of a surrogate pair has a
code, but is no character. Here are the values whose texts and keys hold any code points, and whose
numbers are whole. They are written as other values are; half of a surrogate pair stands in its text
as it is. The reader takes containers and texts apart by code points, and leaves words and numbers
to the reader of characters.
-/

/-! ## Code points -/

namespace FormPress

/-- A character, or half of a surrogate pair with its index, counted from U+D800. -/
inductive CodePoint where
  | char (c : Char)
  | half (index : Fin 0x800)
deriving DecidableEq, Repr

namespace CodePoint

def toNat : CodePoint → Nat
  | .char c => c.toNat
  | .half index => 0xD800 + index.val

/-- The code point with a code. Beyond the last code it is the null character. -/
def ofNat (n : Nat) : CodePoint :=
  if h : 0xD800 ≤ n ∧ n < 0xE000 then .half ⟨n - 0xD800, by omega⟩ else .char (Char.ofNat n)

def ofChars (s : List Char) : List CodePoint :=
  s.map .char

/-- Every code is the code of a code point. -/
theorem toNat_ofNat {n : Nat} (h : n < 0x110000) : (ofNat n).toNat = n := by
  rw [ofNat]
  split
  · rename_i hhalf
    exact Nat.add_sub_cancel' hhalf.1
  · have hvalid : n.isValidChar := by
      unfold Nat.isValidChar
      omega
    rw [toNat, Char.ofNat, dif_pos hvalid]
    rfl

theorem ofNat_toNat (p : CodePoint) : ofNat p.toNat = p := by
  cases p with
  | char c =>
    have hvalid : c.toNat < 0xD800 ∨ 0xDFFF < c.toNat ∧ c.toNat < 0x110000 := c.valid
    rw [toNat, ofNat, dif_neg (by omega), Char.ofNat_toNat]
  | half index =>
    have hindex := index.isLt
    rw [toNat, ofNat, dif_pos (by omega)]
    simp

end CodePoint

end FormPress

/-! ## Values -/

namespace FormPress

/-- A JSON value with whole numbers, whose texts hold any code points. -/
inductive WideJson where
  | null
  | bool (b : Bool)
  | int (i : Int)
  | text (s : List CodePoint)
  | array (items : List WideJson)
  | object (members : List (List CodePoint × WideJson))
deriving Repr, Inhabited

namespace WideJson

open CodePoint

/-! ## Values with texts of characters -/

/-- A value that is a word or a whole number. -/
def ofScalar? : Json → Option WideJson
  | .null => some .null
  | .bool b => some (.bool b)
  | .int i => some (.int i)
  | _ => none

mutual

/-- The value with the code points of its characters, if its numbers are whole and no text of it
holds a half. -/
def ofJson? : Json → Option WideJson
  | .string s => some (.text (ofChars s.toList))
  | .array items => (ofItems? items).map .array
  | .object members => (ofMembers? members).map .object
  | v => ofScalar? v

def ofItems? : List Json → Option (List WideJson)
  | [] => some []
  | v :: rest => do
    let w ← ofJson? v
    let ws ← ofItems? rest
    return w :: ws

def ofMembers? : List (String × Json) → Option (List (List CodePoint × WideJson))
  | [] => some []
  | (k, v) :: rest => do
    let w ← ofJson? v
    let ws ← ofMembers? rest
    return (ofChars k.toList, w) :: ws

end

/-! ## Writing -/

def escape : CodePoint → List CodePoint
  | .char c => ofChars (Json.escapeChar c)
  | .half index => [.half index]

/-- A text between quotation marks. -/
def writeText (s : List CodePoint) : List CodePoint :=
  .char '"' :: (s.flatMap escape ++ [.char '"'])

mutual

/-- The text of a value. -/
def points (spacing : Json.Spacing) : WideJson → List CodePoint
  | .null => ofChars (Json.chars spacing .null)
  | .bool b => ofChars (Json.chars spacing (.bool b))
  | .int i => ofChars (Json.chars spacing (.int i))
  | .text s => writeText s
  | .array items => .char '[' :: (itemPoints spacing items ++ [.char ']'])
  | .object members => .char '\x7b' :: (memberPoints spacing members ++ [.char '\x7d'])

def itemPoints (spacing : Json.Spacing) : List WideJson → List CodePoint
  | [] => []
  | [v] => points spacing v
  | v :: w :: rest => points spacing v ++ (ofChars spacing.comma ++ itemPoints spacing (w :: rest))

def memberPoints (spacing : Json.Spacing) : List (List CodePoint × WideJson) → List CodePoint
  | [] => []
  | [(k, v)] => writeText k ++ (ofChars spacing.colon ++ points spacing v)
  | (k, v) :: m :: rest =>
    writeText k ++ (ofChars spacing.colon ++ (points spacing v ++
      (ofChars spacing.comma ++ memberPoints spacing (m :: rest))))

end

/-! ## Reading texts -/

/-- The number of four hexadecimal digits, and the rest. -/
def readHex : List CodePoint → Option (Nat × List CodePoint)
  | .char a :: .char b :: .char c :: .char d :: rest =>
    match Text.hexValue? a, Text.hexValue? b, Text.hexValue? c, Text.hexValue? d with
    | some a', some b', some c', some d' => some (((a' * 16 + b') * 16 + c') * 16 + d', rest)
    | _, _, _, _ => none
  | _ => none

/-- The code of a trailing half, written as one, and the rest. -/
def readPartner : List CodePoint → Option (Nat × List CodePoint)
  | .char a :: .char b :: rest =>
    if a = '\\' ∧ b = 'u' then (readHex rest).filter (Json.isLowSurrogate ·.1) else none
  | _ => none

/-- A code point by its code. The codes of both halves of a pair are one character. -/
def readCode (s : List CodePoint) : Option (CodePoint × List CodePoint) :=
  match readHex s with
  | none => none
  | some (n, rest) =>
    match if Json.isHighSurrogate n then readPartner rest else none with
    | none => some (ofNat n, rest)
    | some (m, more) => some (ofNat (0x10000 + (n - 0xD800) * 0x400 + (m - 0xDC00)), more)

/-- A character that is written by a letter or by itself. -/
def escaped? (c : Char) : Option Char :=
  if c = '"' ∨ c = '\\' ∨ c = '/' then some c
  else if c = 'b' then some '\x08'
  else if c = 'f' then some '\x0c'
  else if c = 'n' then some '\n'
  else if c = 'r' then some '\r'
  else if c = 't' then some '\t'
  else none

/-- What follows a backslash. -/
def readEscape : List CodePoint → Option (CodePoint × List CodePoint)
  | .char c :: rest =>
    if c = 'u' then readCode rest else (escaped? c).map fun d => (.char d, rest)
  | _ => none

/-- The body of a text up to its closing quotation mark. -/
def readBody : Nat → List CodePoint → Option (List CodePoint × List CodePoint)
  | 0, _ => none
  | _ + 1, [] => none
  | fuel + 1, .half index :: rest => (readBody fuel rest).map fun r => (.half index :: r.1, r.2)
  | fuel + 1, .char c :: rest =>
    if c = '"' then some ([], rest)
    else if c = '\\' then
      match readEscape rest with
      | none => none
      | some (p, more) => (readBody fuel more).map fun r => (p :: r.1, r.2)
    else if c.toNat < 0x20 then none
    else (readBody fuel rest).map fun r => (.char c :: r.1, r.2)

/-! ## Reading values -/

def isBlank : CodePoint → Bool
  | .char c => Json.isJsonBlank c
  | .half _ => false

/-- A character after blanks, if it is the next one, and the rest. -/
def readMark (mark : Char) (s : List CodePoint) : Option (List CodePoint) :=
  match s.dropWhile isBlank with
  | [] => none
  | p :: rest => if p = .char mark then some rest else none

/-- A text after blanks. -/
def readText (s : List CodePoint) : Option (List CodePoint × List CodePoint) :=
  (readMark '"' s).bind fun rest => readBody (rest.length + 1) rest

/-- A character of a word or of a number. -/
def isWordChar (c : Char) : Bool :=
  c.isAlphanum || c == '-' || c == '+' || c == '.'

/-- The word or number in front, and the rest. -/
def spanWord : List CodePoint → List Char × List CodePoint
  | .char c :: rest =>
    if isWordChar c then (c :: (spanWord rest).1, (spanWord rest).2) else ([], .char c :: rest)
  | rest => ([], rest)

/-- A word or a whole number after blanks. -/
def readScalar (s : List CodePoint) : Option (WideJson × List CodePoint) :=
  let (word, rest) := spanWord (s.dropWhile isBlank)
  match Json.readChars (.ofLength word.length) word with
  | .error _ => none
  | .ok v => (ofScalar? v).map fun w => (w, rest)

mutual

/-- A value after blanks. -/
def readValue : Nat → List CodePoint → Option (WideJson × List CodePoint)
  | 0, _ => none
  | fuel + 1, s =>
    match readMark '[' s with
    | some rest =>
      match readMark ']' rest with
      | some more => some (.array [], more)
      | none => (readItems fuel rest).map fun r => (.array r.1, r.2)
    | none =>
      match readMark '\x7b' s with
      | some rest =>
        match readMark '\x7d' rest with
        | some more => some (.object [], more)
        | none => (readMembers fuel rest).map fun r => (.object r.1, r.2)
      | none =>
        match readText s with
        | some (body, rest) => some (.text body, rest)
        | none => readScalar s

/-- The items of an array, from the first item to the closing bracket. -/
def readItems : Nat → List CodePoint → Option (List WideJson × List CodePoint)
  | 0, _ => none
  | fuel + 1, s =>
    match readValue fuel s with
    | none => none
    | some (v, rest) =>
      match readMark ',' rest with
      | some more => (readItems fuel more).map fun r => (v :: r.1, r.2)
      | none => (readMark ']' rest).map fun more => ([v], more)

/-- The members of an object, from the first key to the closing brace. -/
def readMembers : Nat → List CodePoint → Option (List (List CodePoint × WideJson) × List CodePoint)
  | 0, _ => none
  | fuel + 1, s =>
    match readText s with
    | none => none
    | some (k, afterKey) =>
      match (readMark ':' afterKey).bind (readValue fuel) with
      | none => none
      | some (v, rest) =>
        match readMark ',' rest with
        | some more => (readMembers fuel more).map fun r => ((k, v) :: r.1, r.2)
        | none => (readMark '\x7d' rest).map fun more => ([(k, v)], more)

end

/-- Read a text that holds one value and blanks. A level of nesting takes two steps of the fuel, and
a code point at least. A key that is given twice stays twice. -/
def read (s : List CodePoint) : Option WideJson :=
  match readValue (2 * s.length) s with
  | some (v, rest) => if rest.all isBlank then some v else none
  | none => none

end WideJson

end FormPress
