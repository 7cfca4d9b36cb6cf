import FormPress.Decode.Checked
import FormPress.Form.Vocabulary
import FormPress.Number.Layout
import FormPress.Number.Reading

/-!
# Scalars

The checks of single values. Each takes a JSON value and is lenient in its own way: numbers may
stand for texts, words and digits for booleans, texts for numbers.
-/

namespace FormPress.Decode

/-- A text only. -/
def plainText : Json → Checked String
  | .string s => .valid s
  | .brokenString _ => .fail .brokenText
  | _ => .fail .notText

/-- A text, or a number written as one in the given layout. -/
def text (layout : NumberLayout) : Json → Checked String
  | .string s => .valid s
  | .int i => .valid (Text.decimalInt i)
  | .float x => .valid (layout.write x)
  | _ => .fail .notText

/-- `null` for no value. -/
def optional {α : Type} (check : Json → Checked α) : Json → Checked (Option α)
  | .null => .valid none
  | v => (check v).map some

/-- The words for the two truth values, in any case. -/
def boolWord? (s : String) : Option Bool :=
  let w := Text.foldAscii s
  if w ∈ ["0", "off", "f", "false", "n", "no"] then some false
  else if w ∈ ["1", "on", "t", "true", "y", "yes"] then some true
  else none

/-- An integer of a signed 64-bit word. -/
def fitsWord (i : Int) : Bool :=
  decide (-0x8000000000000000 ≤ i ∧ i < 0x8000000000000000)

/-- A whole number of a float that lies strictly inside the signed 64-bit range. -/
def insideWord (i : Int) : Bool :=
  decide (-0x8000000000000000 < i ∧ i < 0x8000000000000000)

/-- The truth value of zero or one. -/
def boolOfInt (i : Int) : Checked Bool :=
  if i = 0 then .valid false
  else if i = 1 then .valid true
  else if fitsWord i then .fail .unreadableBool
  else .fail .notBool

/-- A truth value, one of its words, or zero or one. -/
def bool : Json → Checked Bool
  | .bool b => .valid b
  | .int i => boolOfInt i
  | .float x =>
    if x.isWhole && insideWord x.truncate then boolOfInt x.truncate else .fail .notBool
  | .string s =>
    match boolWord? s with
    | some b => .valid b
    | none => .fail .unreadableBool
  | .brokenString _ => .fail .brokenText
  | _ => .fail .notBool

/-- An integer: a whole number, a truth value as zero or one, or a text of either. -/
def int : Json → Checked Int
  | .bool b => .valid (if b then 1 else 0)
  | .int i => .valid i
  | .float x =>
    match x with
    | .finite _ _ _ =>
      if !x.isWhole then .fail .fractionalInt
      else if insideWord x.truncate then .valid x.truncate
      else .fail .oversizedInt
    | _ => .fail .notFinite
  | .string s =>
    match Number.readInt s with
    | .ok i => .valid i
    | .error .unreadable => .fail .unreadableInt
    | .error .tooLong => .fail .oversizedInt
  | .brokenString _ => .fail .brokenText
  | _ => .fail .notInt

/-- A number: also a truth value as zero or one, or a text. -/
def number : Json → Checked Binary64
  | .bool b => .valid (.ofInt (if b then 1 else 0))
  | .int i => .valid (.ofInt i)
  | .float x => .valid x
  | .string s =>
    match Number.readFloat? s with
    | some x => .valid x
    | none => .fail .unreadableNumber
  | _ => .fail .notNumber

/-- A number that is not beyond all finite ones. -/
def notInfinite : Binary64 → Checked Binary64
  | .infinite _ => .fail .notNumber
  | x => .valid x

/-- A number, but not an integer that is beyond all of them. -/
def boundedNumber : Json → Checked Binary64
  | .int i => notInfinite (.ofInt i)
  | v => number v

def intAtLeast (limit : Int) (v : Json) : Checked Int :=
  (int v).bind fun i => if limit ≤ i then .valid i else .fail (.outOfBounds (.atLeast limit))

/-- A percentage, the ends included. -/
def percentage (v : Json) : Checked Binary64 :=
  (number v).bind fun x =>
    if !x.le (.ofInt 100) then .fail (.outOfBounds (.atMost 100))
    else if !(Binary64.ofInt 0).le x then .fail (.outOfBounds (.atLeast 0))
    else .valid x

/-- A percentage strictly between the ends. -/
def innerPercentage (v : Json) : Checked Binary64 :=
  (number v).bind fun x =>
    if !x.lt (.ofInt 100) then .fail (.outOfBounds (.below 100))
    else if !(Binary64.ofInt 0).lt x then .fail (.outOfBounds (.above 0))
    else .valid x

def word {α : Type} [Vocabulary α] : Json → Checked α
  | .string s =>
    match (Vocabulary.ofName? s : Option α) with
    | some a => .valid a
    | none => .fail (.notOneOf ((Vocabulary.all : List α).map Vocabulary.name))
  | _ => .fail (.notOneOf ((Vocabulary.all : List α).map Vocabulary.name))

def itemsFrom {α : Type} (check : Json → Checked α) : Nat → List Json → List (Checked α)
  | _, [] => []
  | i, v :: rest => (check v).under (.index i) :: itemsFrom check (i + 1) rest

/-- A list of values of one kind. -/
def list {α : Type} (check : Json → Checked α) : Json → Checked (List α)
  | .array items => .all (itemsFrom check 0 items)
  | _ => .fail .notArray

/-- An object whose values are of one kind, with any keys. Of a key that stands more than once every
value is checked and the last stays. -/
def table {α : Type} (check : Json → Checked α) : Json → Checked (List (String × α))
  | .object members =>
    (Checked.all (members.map fun (k, v) =>
      ((check v).map fun a => (k, a)).under (.key k))).map Table.ofEntries
  | _ => .fail .notObject

/-- The path step of a key that is itself at fault. -/
def keyStep : Step := .key "[key]"

/-- A key that is an integer, with a checked value. A fault of the key comes before one of the
value. -/
def intKeyed {α : Type} (check : Json → Checked α) (key : String) (v : Json) :
    Checked (Int × α) :=
  (Checked.apply (((int (.string key)).under keyStep).map Prod.mk) (check v)).under (.key key)

/-- An object with integers for keys; of keys that are equal as integers the last value stays. -/
def intTable {α : Type} (check : Json → Checked α) : Json → Checked (List (Int × α))
  | .object members =>
    (Checked.all (members.map fun (k, v) => intKeyed check k v)).map Table.ofEntries
  | _ => .fail .notObject

end FormPress.Decode
