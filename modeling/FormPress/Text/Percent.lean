import FormPress.Text.Basic
import FormPress.Text.Utf8

/-!
# Percent encoding

A text in a part of an address: a character that the part allows stands for itself, of all others
each byte is written as a percent sign and two hexadecimal digits.
-/

namespace FormPress.Text.Percent

def capitalDigit (n : Nat) : Char :=
  if n < 10 then Char.ofNat (48 + n) else Char.ofNat (55 + n)

def byte (b : UInt8) : List Char :=
  ['%', capitalDigit (b.toNat / 16), capitalDigit (b.toNat % 16)]

def char (c : Char) : List Char :=
  (Utf8.encode (String.ofList [c])).flatMap byte

/-- Letters, digits and the four marks that every part allows. -/
def isUnreserved (c : Char) : Bool :=
  c.isAlphanum || c == '_' || c == '.' || c == '-' || c == '~'

/-- A text in which the allowed characters stand for themselves. -/
def encode (allowed : Char → Bool) (s : String) : String :=
  substitute (fun c => if allowed c then [c] else char c) s

/-- A text in the query of an address; slashes stay. -/
def query (s : String) : String :=
  encode (fun c => isUnreserved c || c == '/') s

/-- A text as the value of a form field in a query: blanks become plus signs. -/
def formValue (s : String) : String :=
  substitute (fun c => if isUnreserved c then [c] else if c = ' ' then ['+'] else char c) s

end FormPress.Text.Percent
