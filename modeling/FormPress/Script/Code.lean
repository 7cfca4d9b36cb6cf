import FormPress.Json.Wide
import FormPress.Json.Writer

/-!
# Code of the page's script

The script as a tree of lines and blocks. A line is made of fixed code and of literals, so what
comes from a form enters the script in one way only. Blocks carry their braces themselves and are
written two columns further in.
-/

namespace FormPress.Script

/-! ### Literals

A value as a literal of the page's script. The characters that could end the script element or an
attribute, and the two line separators, are written by their codes; so a literal never closes what
is around it. -/

/-- A character that is written by its code. -/
def needsCode (c : Char) : Bool :=
  c == '<' || c == '>' || c == '&' || c == '\'' || c.toNat == 0x2028 || c.toNat == 0x2029

def literalChar (c : Char) : List Char :=
  if needsCode c then '\\' :: 'u' :: Text.hex 4 c.toNat else [c]

def literal (v : Json) : String :=
  Text.substitute literalChar (v.write Json.spaced)

def literalPoint : CodePoint → List CodePoint
  | .char c => CodePoint.ofChars (literalChar c)
  | .half index => [.half index]

/-- A value whose texts hold any code points, as a literal. -/
def wideLiteral (v : WideJson) : List CodePoint :=
  (v.points Json.spaced).flatMap literalPoint

/-! ### Lines and blocks -/

inductive Piece where
  /-- Fixed code. -/
  | code (s : String)
  /-- A value, written as a literal. -/
  | value (v : Json)
deriving Repr

abbrev Line := List Piece

/-- Code that is the same in every script. -/
instance : Coe String Line := ⟨fun s => [.code s]⟩

inductive Code where
  /-- A single line. -/
  | line (pieces : Line)
  /-- Blocks that follow one another, each between braces after its head, and what follows the last
  brace. -/
  | block (arms : List (Line × List Code)) (tail : Line)
deriving Repr, Inhabited

def Piece.write : Piece → String
  | .code s => s
  | .value v => literal v

def writeLine (pieces : Line) : String :=
  Text.concat (pieces.map Piece.write)

/-- A text at an indentation; an empty line has none. -/
def indented (indent : Nat) (s : String) : String :=
  if s = "" then "" else String.ofList (List.replicate indent ' ') ++ s

mutual

def Code.lines (indent : Nat) : Code → List String
  | .line pieces => [indented indent (writeLine pieces)]
  | .block arms tail => armLines indent "" arms tail

/-- The lines of blocks; `lead` closes the block before. -/
def armLines (indent : Nat) (lead : String) : List (Line × List Code) → Line → List String
  | [], tail => [indented indent (lead ++ writeLine tail)]
  | (head, body) :: rest, tail =>
    indented indent (lead ++ writeLine head ++ "\x7b") ::
      (listLines (indent + 2) body ++ armLines indent "\x7d" rest tail)

/-- The lines of several pieces of code. -/
def listLines (indent : Nat) : List Code → List String
  | [] => []
  | c :: rest => c.lines indent ++ listLines indent rest

end

def write (part : List Code) : String :=
  Text.join "\n" (listLines 0 part)

/-! ### Building code -/

/-- A line of fixed code. -/
def code (s : String) : Code :=
  .line [.code s]

/-- An empty line. -/
def blank : Code :=
  .line []

def block (head : Line) (body : List Code) (tail : Line) : Code :=
  .block [(head, body)] tail

/-- A text as a literal. -/
def quoted (s : String) : Piece :=
  .value (.string s)

def function (signature : String) (body : List Code) : Code :=
  block [.code ("function " ++ signature ++ " ")] body []

/-- Parts one after another, with an empty line between neighbours. -/
def paragraphs : List (List Code) → List Code
  | [] => []
  | [part] => part
  | part :: next :: rest => part ++ blank :: paragraphs (next :: rest)

end FormPress.Script
