import FormPress.Text.Basic
import FormPress.Text.Blank

/-!
# Authored text in stylesheets

Three places where a stylesheet takes text of the author: the value of a declaration, the address of
an image, and a block of rules. In each the text is made unable to leave its place: a value loses
the characters that end declarations and rules, an address has them written by their codes, and a
block cannot close the style element.
-/

namespace FormPress.Style

/-- A character that could end a declaration, a rule or the style element. -/
def endsValue (c : Char) : Bool :=
  c == ';' || c == '\x7b' || c == '\x7d' || c == '<' || c == '>' || c == '\\' ||
    c.toNat < 0x20 || c.toNat == 0x7F

def valueChars (s : List Char) : List Char :=
  Text.stripBy Text.isBlank (s.filter fun c => !endsValue c)

/-- A text as the value of a declaration. -/
def value (s : String) : String :=
  String.ofList (valueChars s.toList)

/-- One character of an address between quotation marks. -/
def addressChar (c : Char) : List Char :=
  if c = '"' then ['%', '2', '2']
  else if c = '\\' then ['%', '5', 'C']
  else if c = '<' then ['%', '3', 'C']
  else if c = '>' then ['%', '3', 'E']
  else if c = '\n' ∨ c = '\r' then []
  else [c]

/-- An address between quotation marks, or the word for no image. -/
def imageAddress (s : String) : String :=
  if s = "" then "none" else "url(\"" ++ Text.substitute addressChar s ++ "\")"

/-- Put a backslash into every place where an end tag could begin. -/
def sealTags : List Char → List Char
  | '<' :: '/' :: rest => '<' :: '\\' :: '/' :: sealTags rest
  | c :: rest => c :: sealTags rest
  | [] => []

/-- A block of authored rules. -/
def block (s : String) : String :=
  String.ofList (sealTags s.toList)

end FormPress.Style
