import FormPress.Json.Basic
import FormPress.Number.Layout

/-!
# Writing JSON

One writer with two spacings: `spaced` puts a blank after each comma and colon, `compact` none. In a
string only the quotation mark, the backslash and the control characters below U+0020 are escaped.
-/

namespace FormPress.Json

/-- What stands between items and between a key and its value. -/
structure Spacing where
  comma : List Char
  colon : List Char

/-- A blank after each comma and colon. -/
def spaced : Spacing := ⟨[',', ' '], [':', ' ']⟩

/-- No blanks. -/
def compact : Spacing := ⟨[','], [':']⟩

def escapeChar (c : Char) : List Char :=
  if c = '"' then ['\\', '"']
  else if c = '\\' then ['\\', '\\']
  else if c = '\n' then ['\\', 'n']
  else if c = '\r' then ['\\', 'r']
  else if c = '\t' then ['\\', 't']
  else if c = '\x08' then ['\\', 'b']
  else if c = '\x0c' then ['\\', 'f']
  else if c.toNat < 0x20 then '\\' :: 'u' :: Text.hex 4 c.toNat
  else [c]

/-- A string between quotation marks. -/
def writeString (s : List Char) : List Char :=
  '"' :: s.flatMap escapeChar ++ ['"']

mutual

def chars (spacing : Spacing) : Json → List Char
  | .null => ['n', 'u', 'l', 'l']
  | .bool true => ['t', 'r', 'u', 'e']
  | .bool false => ['f', 'a', 'l', 's', 'e']
  | .int i => (Text.decimalInt i).toList
  | .float x => (NumberLayout.json.write x).toList
  | .string s => writeString s.toList
  | .brokenString shown => writeString shown.toList
  | .array items => '[' :: itemChars spacing items ++ [']']
  | .object members => '\x7b' :: memberChars spacing members ++ ['\x7d']

def itemChars (spacing : Spacing) : List Json → List Char
  | [] => []
  | [v] => chars spacing v
  | v :: w :: rest => chars spacing v ++ spacing.comma ++ itemChars spacing (w :: rest)

def memberChars (spacing : Spacing) : List (String × Json) → List Char
  | [] => []
  | [(k, v)] => writeString k.toList ++ spacing.colon ++ chars spacing v
  | (k, v) :: m :: rest =>
    writeString k.toList ++ spacing.colon ++ chars spacing v ++ spacing.comma ++
      memberChars spacing (m :: rest)

end

/-- The text of a value. -/
def write (spacing : Spacing) (v : Json) : String :=
  String.ofList (chars spacing v)

end FormPress.Json
