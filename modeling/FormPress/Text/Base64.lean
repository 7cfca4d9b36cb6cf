/-!
# Base64

Bytes as text: three bytes are four characters of an alphabet of sixty-four, and equals signs fill
up the last group.
-/

namespace FormPress.Text.Base64

/-- The character of a value below sixty-four. -/
def digit (n : Nat) : Char :=
  if n < 26 then Char.ofNat (65 + n)
  else if n < 52 then Char.ofNat (71 + n)
  else if n < 62 then Char.ofNat (n - 4)
  else if n = 62 then '+'
  else '/'

/-- The four characters of three bytes. -/
def group (a b c : UInt8) : List Char :=
  let n := (a.toNat * 256 + b.toNat) * 256 + c.toNat
  [digit (n / 0x40000), digit (n / 0x1000 % 64), digit (n / 64 % 64), digit (n % 64)]

/-- Bytes in groups of three; a group of one or two is filled up. -/
def encodeChars : List UInt8 → List Char
  | [] => []
  | [a] => (group a 0 0).take 2 ++ ['=', '=']
  | [a, b] => (group a b 0).take 3 ++ ['=']
  | a :: b :: c :: rest => group a b c ++ encodeChars rest

def encode (bytes : List UInt8) : String :=
  String.ofList (encodeChars bytes)

/-- Four characters for each group of three bytes or less. -/
theorem length_encodeChars (bytes : List UInt8) :
    (encodeChars bytes).length = 4 * ((bytes.length + 2) / 3) := by
  fun_induction encodeChars bytes with
  | case1 => rfl
  | case2 => simp [group]
  | case3 => simp [group]
  | case4 a b c rest ih =>
    rw [List.length_append, ih]
    simp only [group, List.length_cons, List.length_nil]
    omega

end FormPress.Text.Base64
