import FormPress.Text.Basic

/-!
# Markup

Markup as a tree with one writer. Texts and attribute values are escaped where they are written, so
no text of a form can end an attribute or open a tag; the only way around that is the constructor
`raw`. Line breaks between elements are texts like any other.
-/

namespace FormPress

/-- An attribute with a value, or a bare one. -/
structure Attribute where
  name : String
  value : Option String := none
deriving DecidableEq, Repr

inductive Markup where
  /-- A text, escaped when written. -/
  | text (s : String)
  /-- A character reference by name or number. -/
  | entity (name : String)
  /-- Markup of the author, written as it is. -/
  | raw (s : String)
  /-- An element with content and an end tag. -/
  | element (tag : String) (attributes : List Attribute) (children : List Markup)
  /-- An element that has no content and no end tag. -/
  | void (tag : String) (attributes : List Attribute)
  /-- An element of a drawing, closed in its start tag. -/
  | closed (tag : String) (attributes : List Attribute)
deriving Repr, Inhabited

namespace Markup

/-- One character of a text or an attribute value. -/
def escapeChar (c : Char) : List Char :=
  if c = '&' then ['&', 'a', 'm', 'p', ';']
  else if c = '<' then ['&', 'l', 't', ';']
  else if c = '>' then ['&', 'g', 't', ';']
  else if c = '\'' then ['&', '#', '3', '9', ';']
  else if c = '"' then ['&', '#', '3', '4', ';']
  else [c]

/-- The escaped form of a text, the same in content and in attribute values. -/
def escape (s : String) : String :=
  Text.substitute escapeChar s

end Markup

/-- An attribute as it stands in a tag, with the blank before it. -/
def Attribute.write (a : Attribute) : String :=
  match a.value with
  | none => " " ++ a.name
  | some v => " " ++ a.name ++ "=\"" ++ Markup.escape v ++ "\""

namespace Markup

def startTag (tag : String) (attributes : List Attribute) : String :=
  "<" ++ tag ++ Text.concat (attributes.map Attribute.write) ++ ">"

/-- A start tag that closes its element. -/
def closedTag (tag : String) (attributes : List Attribute) : String :=
  "<" ++ tag ++ Text.concat (attributes.map Attribute.write) ++ "/>"

def endTag (tag : String) : String :=
  "</" ++ tag ++ ">"

mutual

/-- Write a piece after a text. -/
def writeAfter (out : String) : Markup → String
  | .text s => out ++ escape s
  | .entity name => out ++ "&" ++ name ++ ";"
  | .raw s => out ++ s
  | .element tag attributes children =>
    writeListAfter (out ++ startTag tag attributes) children ++ endTag tag
  | .void tag attributes => out ++ startTag tag attributes
  | .closed tag attributes => out ++ closedTag tag attributes

/-- Write pieces after a text, one after another. -/
def writeListAfter (out : String) : List Markup → String
  | [] => out
  | m :: rest => writeListAfter (writeAfter out m) rest

end

/-- The written form of a piece. -/
def write (m : Markup) : String :=
  writeAfter "" m

/-- The written form of several pieces. -/
def writeList (ms : List Markup) : String :=
  writeListAfter "" ms

/-! ### Building markup -/

def attr (name value : String) : Attribute :=
  ⟨name, some value⟩

def bare (name : String) : Attribute :=
  ⟨name, none⟩

/-- A bare attribute that stands only under a condition. -/
def bareIf (name : String) (condition : Bool) : List Attribute :=
  if condition then [bare name] else []

/-- A line break with the indentation of the next line. -/
def newline (indent : Nat) : Markup :=
  .text (String.ofList ('\n' :: List.replicate indent ' '))

/-- Pieces on lines of their own. -/
def onLines (indent : Nat) (ms : List Markup) : List Markup :=
  ms.flatMap fun m => [newline indent, m]

/-- An element with each child on a line of its own, two columns further in than its own tags. -/
def block (indent : Nat) (tag : String) (attributes : List Attribute) (children : List Markup) :
    Markup :=
  .element tag attributes (onLines (indent + 2) children ++ [newline indent])

/-- An element with a single text. -/
def label (tag : String) (attributes : List Attribute) (s : String) : Markup :=
  .element tag attributes [.text s]

/-! ### Lemmas -/

mutual

theorem writeAfter_eq (out : String) (m : Markup) : writeAfter out m = out ++ write m := by
  cases m with
  | text s => simp [write, writeAfter]
  | entity name => simp [write, writeAfter, String.append_assoc]
  | raw s => simp [write, writeAfter]
  | element tag attributes children =>
    rw [write, writeAfter, writeAfter, writeListAfter_eq, writeListAfter_eq ("" ++ _)]
    simp [String.append_assoc]
  | void tag attributes => simp [write, writeAfter]
  | closed tag attributes => simp [write, writeAfter]

theorem writeListAfter_eq (out : String) (ms : List Markup) :
    writeListAfter out ms = out ++ writeList ms := by
  cases ms with
  | nil => simp [writeList, writeListAfter]
  | cons m rest =>
    rw [writeList, writeListAfter, writeListAfter, writeListAfter_eq,
      writeListAfter_eq (writeAfter "" m), writeAfter_eq, writeAfter_eq ""]
    simp [String.append_assoc]

end

@[simp] theorem write_text (s : String) : write (.text s) = escape s := by
  simp [write, writeAfter]

@[simp] theorem write_element (tag : String) (attributes : List Attribute)
    (children : List Markup) :
    write (.element tag attributes children) =
      startTag tag attributes ++ writeList children ++ endTag tag := by
  rw [write, writeAfter, writeListAfter_eq]
  simp

@[simp] theorem writeList_nil : writeList [] = "" := rfl

@[simp] theorem writeList_cons (m : Markup) (rest : List Markup) :
    writeList (m :: rest) = write m ++ writeList rest := by
  rw [writeList, writeListAfter, writeListAfter_eq]
  rfl

end Markup

end FormPress
