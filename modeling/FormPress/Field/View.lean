import FormPress.Field.Condition
import FormPress.Markup.Basic
import FormPress.Number.Binary64
import FormPress.Text.Blank

/-!
# Views of fields

What all renderings of a field share: its place on the grid, its options with their markers, and
three lists of attributes, for the group around a field, for its control, and for a control that
offers choices. The lists have slots in a fixed order; an empty slot is not written.
-/

namespace FormPress

/-- Attributes in order; one without a value is not written. -/
abbrev Slots := List (String × Option String)

def Slots.attributes (slots : Slots) : List Attribute :=
  slots.filterMap fun slot => slot.2.map fun v => Markup.attr slot.1 v

/-- Give several slots new values, each at its place, or at the end if it is new. -/
def Slots.override (slots : Slots) (entries : Slots) : Slots :=
  Table.assignAll slots entries

/-- An empty value under a condition. -/
def flagSlot (condition : Bool) : Option String :=
  if condition then some "" else none

/-! ## Places on the grid -/

def gridColumns : Nat := 12

def Binary64.half : Binary64 := .ofRatio false 1 2

/-- The columns for a width in percent, at least one and rounded to the nearest; no number for a
full row. -/
def columnSpan (width : Option Binary64) : Except NumberFault (Option Nat) :=
  match width with
  | none => .ok none
  | some w =>
    if w.le .zero || (Binary64.ofInt 100).le w then .ok none
    else
      (((w.scaleBy gridColumns 1).scaleBy 1 100).add .half).whole.map fun n =>
        some (Nat.min (Nat.max n.toNat 1) gridColumns)

/-! ## Options -/

def valueSeparator : String := ", "

/-- The values that a default names: its parts between commas, without blanks around them. -/
def Field.defaultValues (f : Field) : List String :=
  match given? f.defaultValue with
  | none => []
  | some s => (Text.splitAt ',' s.toList).map fun part =>
      String.ofList (Text.stripBy Text.isBlank part)

/-- An option with its marker attributes, and whether it is chosen at first. -/
structure ChoiceView where
  label : String
  value : String
  entries : List (String × String)
  isChosen : Bool
deriving DecidableEq, Repr

/-- The markers of an option: its condition, then its address. -/
def Field.choiceEntries (f : Field) (c : Choice) : List (String × String) :=
  (match f.choiceCondition? c with
    | some condition => condition.entries
    | none => []) ++
  (match given? c.address with
    | some address => [("data-address", address)]
    | none => [])

def Field.choiceView (f : Field) (c : Choice) : ChoiceView :=
  ⟨c.label, c.value, f.choiceEntries c, f.defaultValues.contains c.value⟩

/-- The marker attributes of an option. -/
def ChoiceView.attributes (c : ChoiceView) : List Attribute :=
  c.entries.map fun e => Markup.attr e.1 e.2

/-! ## Fields -/

/-- A field with what its renderings share. -/
structure FieldView where
  field : Field
  span : Option Nat
  choices : List ChoiceView
deriving Repr

def Field.view (f : Field) : Except NumberFault FieldView :=
  (columnSpan f.width).map fun span => ⟨f, span, f.options.map f.choiceView⟩

/-- The kinds that mark the layout of the form and have no label. -/
def FieldKind.isLayoutMark : FieldKind → Bool
  | .pageBreak | .sectionBreak => true
  | _ => false

/-- The kinds that only show something and are never submitted. -/
def FieldKind.isNotice : FieldKind → Bool
  | .heading | .paragraph | .banner | .divider | .htmlSnippet | .spacer => true
  | _ => false

/-- The wire name of the digits of a phone number, which are not submitted. -/
def Field.rawName (f : Field) : String :=
  f.name ++ "_raw"

/-- Whether the label of a field carries the mark of a required field. -/
def Field.hasRequiredMark (f : Field) : Bool :=
  f.isRequired && !(f.kind.any FieldKind.isLayoutMark)

/-- The class of a field that waits to be revealed. -/
def revealClass : String := "ff-reveal"

namespace FieldView

/-- The classes of the group around a field. -/
def groupClasses (v : FieldView) (base : String) (animate : Bool) : List String :=
  base :: (given? v.field.cssClass).toList ++ (if animate then [revealClass] else [])

/-- The attributes of the group around a field. -/
def group (v : FieldView) (base : String) (animate : Bool) : Slots :=
  [("class", some (Text.join " " (v.groupClasses base animate))),
   ("data-field-id", some v.field.id),
   ("data-field-name", some v.field.name),
   ("data-field-type", some v.field.kindName),
   ("data-conditions", given? (some v.field.rulesText)),
   ("data-required", if v.field.isRequired then some "true" else none),
   ("data-always-hidden", if v.field.isHidden then some "true" else none),
   ("hidden", flagSlot v.field.isHidden),
   ("style", v.span.map fun n =>
     "grid-column: span " ++ Text.decimal n ++ " / span " ++ Text.decimal n)]

def control (v : FieldView) (type : Option String) : Slots :=
  let f := v.field
  [("type", type),
   ("id", some f.id),
   ("name", some f.name),
   ("class", some "form-input"),
   ("placeholder", given? f.placeholder),
   ("value", given? f.defaultValue),
   ("required", flagSlot f.isRequired),
   ("readonly", flagSlot f.isReadOnly),
   ("disabled", flagSlot f.isDisabled),
   ("minlength", f.minLength.map Text.decimalInt),
   ("maxlength", f.maxLength.map Text.decimalInt),
   ("min", f.min.map Binary64.label),
   ("max", f.max.map Binary64.label),
   ("step", f.step.map Binary64.label),
   ("pattern", given? f.pattern),
   ("accept", given? f.accept),
   ("autocomplete", given? f.autocomplete)]

/-- The attributes of a control that offers choices: no text, no bounds. -/
def choice (v : FieldView) : Slots :=
  (v.control none).override
    [("placeholder", none), ("value", none), ("readonly", none), ("minlength", none),
     ("maxlength", none), ("min", none), ("max", none), ("step", none), ("pattern", none),
     ("accept", none)]

end FieldView

end FormPress
