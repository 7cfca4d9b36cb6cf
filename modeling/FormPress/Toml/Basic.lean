import FormPress.Number.Binary64
import FormPress.Number.Reading
import FormPress.Table
import FormPress.Text.Quoted

/-!
# TOML values and faults

The values of TOML documents, and the two ways in which a document grows: a table behind a path is
changed, and a list of tables gets one more. A path that leads through a list of tables means the
last table of the list. A document can also be wrong: a fault says what is wrong with it, and where,
by the line and the column of a character, both from one, or by the end of the document.
-/

/-! ## Values -/

namespace FormPress

namespace Toml

/-- A day of the calendar. -/
structure Date where
  year : Nat
  month : Nat
  day : Nat
deriving DecidableEq, Repr

structure TimeOfDay where
  hour : Nat
  minute : Nat
  second : Nat
  microsecond : Nat
deriving DecidableEq, Repr

/-- A day, a time, or both; a day with a time may give its offset from universal time in minutes. -/
inductive Moment where
  | date (day : Date)
  | time (clock : TimeOfDay)
  | dateTime (day : Date) (clock : TimeOfDay) (offset : Option Int)
deriving DecidableEq, Repr

end Toml

inductive Toml where
  | string (s : String)
  | int (i : Int)
  | float (x : Binary64)
  | bool (b : Bool)
  | moment (m : Toml.Moment)
  | array (items : List Toml)
  | table (entries : List (String × Toml))
deriving Repr, Inhabited

namespace Toml

abbrev Entries := List (String × Toml)

/-- The parts of a dotted key. -/
abbrev Key := List String

/-- A value that holds other values. -/
def isContainer : Toml → Bool
  | .array _ => true
  | .table _ => true
  | _ => false

/-- Change the table behind a path, making the tables on the way that are missing. Where a list
stands on the way, its last table is meant if `throughLists` says so; there is no result if anything
else stands there. -/
def alter (throughLists : Bool) (change : Entries → Option Entries) :
    Key → Entries → Option Entries
  | [], t => change t
  | k :: path, t =>
    match Table.lookup k t with
    | none => (alter throughLists change path []).map fun inner => Table.assign k (.table inner) t
    | some (.table entries) =>
      (alter throughLists change path entries).map fun inner => Table.assign k (.table inner) t
    | some (.array items) =>
      match throughLists, items.getLast? with
      | true, some (.table entries) =>
        (alter throughLists change path entries).map fun inner =>
          Table.assign k (.array (items.dropLast ++ [.table inner])) t
      | _, _ => none
    | some _ => none

/-- Add an empty table to the list of tables under a name. -/
def appendTable (name : String) (t : Entries) : Option Entries :=
  match Table.lookup name t with
  | none => some (Table.assign name (.array [.table []]) t)
  | some (.array items) => some (Table.assign name (.array (items ++ [.table []])) t)
  | some _ => none

/-- A path without its last part, and that part. -/
def splitKey : Key → Key × String
  | [] => ([], "")
  | [k] => ([], k)
  | k :: rest => let (parent, stem) := splitKey rest; (k :: parent, stem)

theorem alter_nil (throughLists : Bool) (change : Entries → Option Entries) (t : Entries) :
    alter throughLists change [] t = change t := rfl

end Toml

end FormPress

/-! ## Faults -/

namespace FormPress.Toml

/-- What can be wrong with a document. -/
inductive Problem where
  | invalidStatement
  | trailingText
  | declaredTwice (key : Key)
  | redefined (key : Key)
  | immutable (key : Key)
  | overwritten
  | duplicateKey (name : String)
  | openHeader
  | openListHeader
  | missingEquals
  | badKeyStart
  | openArray
  | openInlineTable
  | openString
  | openLiteral (mark : String)
  | strayBackslash
  | badHex
  | notScalar
  | illegalCharacter (c : Char)
  | invalidCharacter (c : Char)
  | badDate
  | badValue
  | tooManyDigits (count : Nat)
deriving DecidableEq, Repr

/-- A key as messages show it: its quoted parts in parentheses, a single part with a comma. -/
def showKey : Key → String
  | [k] => "(" ++ Text.Quoted.write k ++ ",)"
  | key => "(" ++ Text.join ", " (key.map Text.Quoted.write) ++ ")"

def Problem.message : Problem → String
  | .invalidStatement => "Invalid statement"
  | .trailingText => "Expected newline or end of document after a statement"
  | .declaredTwice key => "Cannot declare " ++ showKey key ++ " twice"
  | .redefined key => "Cannot redefine namespace " ++ showKey key
  | .immutable key => "Cannot mutate immutable namespace " ++ showKey key
  | .overwritten => "Cannot overwrite a value"
  | .duplicateKey name => "Duplicate inline table key " ++ Text.Quoted.write name
  | .openHeader => "Expected ']' at the end of a table declaration"
  | .openListHeader => "Expected ']]' at the end of an array declaration"
  | .missingEquals => "Expected '=' after a key in a key/value pair"
  | .badKeyStart => "Invalid initial character for a key part"
  | .openArray => "Unclosed array"
  | .openInlineTable => "Unclosed inline table"
  | .openString => "Unterminated string"
  | .openLiteral mark => "Expected " ++ Text.Quoted.write mark
  | .strayBackslash => "Unescaped '\\' in a string"
  | .badHex => "Invalid hex value"
  | .notScalar => "Escaped character is not a Unicode scalar value"
  | .illegalCharacter c => "Illegal character " ++ Text.Quoted.write (String.singleton c)
  | .invalidCharacter c => "Found invalid character " ++ Text.Quoted.write (String.singleton c)
  | .badDate => "Invalid date or datetime"
  | .badValue => "Invalid value"
  | .tooManyDigits count => Number.tooManyDigits count

/-- A problem, and the text from the character at fault on. -/
abbrev Stop := Problem × List Char

inductive Place where
  | character (line column : Nat)
  | finish
deriving DecidableEq, Repr

def Place.text : Place → String
  | .character line column =>
    "(at line " ++ Text.decimal line ++ ", column " ++ Text.decimal column ++ ")"
  | .finish => "(at end of document)"

/-- The place after `before`, where `rest` begins. -/
def placeOf (before rest : List Char) : Place :=
  match rest with
  | [] => .finish
  | _ :: _ =>
    .character (before.count '\n' + 1) ((before.reverse.takeWhile (· != '\n')).length + 1)

structure Fault where
  problem : Problem
  place : Place
deriving DecidableEq, Repr

/-- The wording of a fault. The size of an integer is refused without a place. -/
def Fault.message (f : Fault) : String :=
  match f.problem with
  | .tooManyDigits _ => f.problem.message
  | _ => f.problem.message ++ " " ++ f.place.text

/-- The fault of a text at which reading stopped. -/
def Fault.ofStop (text : List Char) (stop : Stop) : Fault :=
  ⟨stop.1, placeOf (text.take (text.length - stop.2.length)) stop.2⟩

end FormPress.Toml
