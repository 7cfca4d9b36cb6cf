import FormPress.Json.Basic
import FormPress.Number.Layout
import FormPress.Number.Literal
import FormPress.Text.Quoted

/-!
# Values in places of text and number

How a value of any kind stands in a place that takes text: a text is itself, numbers and truth
values are written in words and digits, and the items of lists and objects are quoted. As a bound or
step it stands for an amount: a whole number as an integer, other numbers by their shortest digits.
A text counts as the number that it holds, but a whole number must be written as an integer. What is
no number is at fault.
-/

/-! ## Values as plain text -/

namespace FormPress.Json

/-- The name of the kind of a value in messages. -/
def kindName : Json → String
  | .null => "NoneType"
  | .bool _ => "bool"
  | .int _ => "int"
  | .float _ => "float"
  | .string _ | .brokenString _ => "str"
  | .array _ => "list"
  | .object _ => "dict"

mutual

/-- A value inside a list or an object. -/
def displayInner : Json → String
  | .null => "None"
  | .bool true => "True"
  | .bool false => "False"
  | .int i => Text.decimalInt i
  | .float x => NumberLayout.source.write x
  | .string s => Text.Quoted.write s
  | .brokenString shown => Text.Quoted.write shown
  | .array items => "[" ++ Text.join ", " (displayItems items) ++ "]"
  | .object members => "\x7b" ++ Text.join ", " (displayMembers members) ++ "\x7d"

def displayItems : List Json → List String
  | [] => []
  | v :: rest => displayInner v :: displayItems rest

def displayMembers : List (String × Json) → List String
  | [] => []
  | (k, v) :: rest => (Text.Quoted.write k ++ ": " ++ displayInner v) :: displayMembers rest

end

/-- A value as text. -/
def display : Json → String
  | .string s => s
  | v => displayInner v

/-- A value as text, or nothing for `null`. -/
def displayOrEmpty : Json → String
  | .null => ""
  | v => display v

/-- A value that counts as given as text, or nothing. -/
def displayGiven (v : Json) : String :=
  if v.isGiven then display v else ""

end FormPress.Json

/-! ## Values as amounts -/

namespace FormPress

/-- Why a value is no amount. -/
inductive AmountFault where
  | noNumber (kind : String)
  | noWidth (kind : String)
  | unreadable (text : String)
  | noInteger (text : String)
  | tooLarge
  | tooManyDigits (count : Nat)
deriving DecidableEq, Repr

def AmountFault.message : AmountFault → String
  | .noNumber kind =>
    "float() argument must be a string or a real number, not " ++ Text.Quoted.write kind
  | .noWidth kind =>
    "'<=' not supported between instances of " ++ Text.Quoted.write kind ++ " and 'int'"
  | .unreadable text => "could not convert string to float: " ++ Text.Quoted.write text
  | .noInteger text =>
    "invalid literal for int() with base 10: " ++ Text.Quoted.write text
  | .tooLarge => "int too large to convert to float"
  | .tooManyDigits count => Number.tooManyDigits count

namespace Json

def intAmount (i : Int) : Except AmountFault String :=
  match Binary64.ofInt i with
  | .infinite _ => .error .tooLarge
  | _ => .ok (Text.decimalInt i)

def textAmount (s : String) : Except AmountFault String :=
  match Number.readFloatLiteral? s with
  | none => .error (.unreadable s)
  | some x =>
    if !x.isWhole then .ok x.label
    else
      match Number.readIntLiteral? s with
      | none => .error (.noInteger s)
      | some (negative, digits) =>
        if Number.digitLimit < digits.length then .error (.tooManyDigits digits.length)
        else
          let n : Int := Number.digitsValue digits
          .ok (Text.decimalInt (if negative then -n else n))

/-- A value as an amount; nothing is written for `null`. -/
def amount : Json → Except AmountFault String
  | .null => .ok ""
  | .bool b => intAmount (if b then 1 else 0)
  | .int i => intAmount i
  | .float x => .ok x.label
  | .string s => textAmount s
  | v => .error (.noNumber v.kindName)

/-- A value as a width in percent, if it is one. -/
def width? : Json → Except AmountFault (Option Binary64)
  | .null => .ok none
  | .bool b => .ok (some (.ofInt (if b then 1 else 0)))
  | .int i => .ok (some (.ofInt i))
  | .float x => .ok (some x)
  | v => .error (.noWidth v.kindName)

end Json

end FormPress
