import FormPress.Text.Basic

/-!
# Stylesheets

A stylesheet as a list of rules with their declarations, and one writer. A rule is written on one
line or on several; rules under a media query are written on one line each.
-/

namespace FormPress.Style

/-- A property with its value. -/
abbrev Declaration := String × String

inductive Item where
  /-- A rule on one line. -/
  | short (selector : String) (declarations : List Declaration)
  /-- A rule with its declarations on lines of their own. -/
  | long (selector : String) (lines : List (List Declaration))
  /-- Rules that hold under a media query. -/
  | media (query : String) (rules : List (String × List Declaration))
  /-- The stages of an animation. -/
  | keyframes (name : String) (frames : List (String × List Declaration))
  /-- A remark. -/
  | comment (s : String)
deriving Repr

abbrev Sheet := List Item

/-- A declaration with its end mark. -/
def writeDeclaration (d : Declaration) : String :=
  d.1 ++ ": " ++ d.2 ++ ";"

def writeDeclarations (ds : List Declaration) : String :=
  Text.join " " (ds.map writeDeclaration)

/-- What stands after a selector or a query, between braces. -/
def writeBody (head : String) (body : String) : String :=
  head ++ " \x7b" ++ body ++ "\x7d"

/-- A rule on one line. -/
def writeShort (selector : String) (ds : List Declaration) : String :=
  writeBody selector (" " ++ writeDeclarations ds ++ " ")

/-- Lines between the lines of the braces, further in. -/
def writeLines (head : String) (lines : List String) : String :=
  writeBody head (Text.concat (lines.map fun l => "\n  " ++ l) ++ "\n")

/-- A stage of an animation; its declarations are set close. -/
def writeFrame (frame : String × List Declaration) : String :=
  writeBody frame.1 (" " ++ Text.join "; " (frame.2.map fun d => d.1 ++ ":" ++ d.2) ++ " ")

/-- The written form of an item. -/
def Item.write : Item → String
  | .short selector ds => writeShort selector ds
  | .long selector lines => writeLines selector (lines.map writeDeclarations)
  | .media query rules => writeLines ("@media " ++ query) (rules.map fun r => writeShort r.1 r.2)
  | .keyframes name frames =>
    writeBody ("@keyframes " ++ name) (" " ++ Text.join " " (frames.map writeFrame) ++ " ")
  | .comment s => "/* " ++ s ++ " */"

/-- The written form of a stylesheet. -/
def write (sheet : Sheet) : String :=
  Text.join "\n" (sheet.map Item.write)

/-- Several declarations, each on a line of its own. -/
def each (ds : List Declaration) : List (List Declaration) :=
  ds.map fun d => [d]

end FormPress.Style
