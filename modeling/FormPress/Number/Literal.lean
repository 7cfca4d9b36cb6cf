import FormPress.Number.Reading
import FormPress.Text.Points

/-!
# Number literals

The strict forms of numbers in texts. Blanks around a number do not count, and the digits may be
those of any script. An underscore stands between two digits and nowhere else. An integer is a sign
or none, and digits; other numbers are decimals, or one of the words for infinity and NaN.
-/

/-! ## Decimal digits

Most scripts have decimal digits of their own, ten characters one after another from zero to nine.
-/

namespace FormPress.Text

/-- The zeros of all scripts. -/
def zeroPoints : List Nat :=
  (tableWords "
  30 660 6F0 7C0 966 9E6 A66 AE6 B66 BE6 C66 CE6 D66 DE6 E50 ED0 F20 1040 1090 17E0 1810 1946 19D0
  1A80 1A90 1B50 1BB0 1C40 1C50 A620 A8D0 A900 A9D0 A9F0 AA50 ABF0 FF10 104A0 10D30 11066 110F0
  11136 111D0 112F0 11450 114D0 11650 116C0 11730 118E0 11950 11C50 11D50 11DA0 16A60 16AC0 16B50
  1D7CE 1D7D8 1D7E2 1D7EC 1D7F6 1E140 1E2F0 1E950 1FBF0").map hexNumber

/-- The value of a decimal digit of any script. -/
def digitValue? (c : Char) : Option Nat :=
  (zeroPoints.find? fun first => decide (first ≤ c.toNat ∧ c.toNat < first + 10)).map fun first =>
    c.toNat - first

end FormPress.Text

/-! ## Literals -/

namespace FormPress.Number

def isAsciiBlank (c : Char) : Bool :=
  c == ' ' || (0x9 ≤ c.toNat && c.toNat ≤ 0xD)

/-- A character with a blank or digit of any script as that of ASCII. What is neither becomes a
question mark, which stands in no number. -/
def plainChar (c : Char) : Char :=
  if c.toNat < 0x7F then c
  else if Text.isSpace c then ' '
  else ((Text.digitValue? c).map fun d => Char.ofNat (48 + d)).getD '?'

/-- A text in ASCII, without the blanks around it. -/
def plainLiteral (s : String) : List Char :=
  Text.stripBy isAsciiBlank (s.toList.map plainChar)

/-- A text without the underscores between digits; nothing when one stands elsewhere. `afterDigit`
says that a digit was just read. -/
def joinDigits? (afterDigit : Bool) : List Char → Option (List Char)
  | [] => some []
  | '_' :: c :: rest =>
    if afterDigit && isDigit c then (joinDigits? true rest).map (c :: ·) else none
  | c :: rest => if c = '_' then none else (joinDigits? (isDigit c) rest).map (c :: ·)

def readFloatLiteral? (s : String) : Option Binary64 :=
  (joinDigits? false (plainLiteral s)).bind readNumber?

/-- An integer from a literal: its sign and its digits. -/
def readIntLiteral? (s : String) : Option (Bool × List Char) :=
  match joinDigits? false (plainLiteral s) with
  | none => none
  | some body =>
    let (negative, digits) := splitSign body
    if digits.isEmpty || !digits.all isDigit then none else some (negative, digits)

end FormPress.Number
