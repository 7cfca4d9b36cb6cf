import FormPress.Form.Basic
import FormPress.Json.Writer

/-!
# Conditions in markup

What the page needs to show or hide parts of a form: a marker on an option, and the rules of a field
as a JSON text. References stand as the author wrote them.
-/

namespace FormPress

/-- The condition of one option: the field compares so with the value. For `Operator.oneOf` the
value is a JSON list of values. -/
structure ChoiceCondition where
  fieldId : String
  operator : Operator
  value : String
deriving DecidableEq, Repr

/-- The dependent options of a field, when they name a source and have a group. -/
def Field.activeDependent? (f : Field) : Option DependentChoices :=
  f.dependent.filter fun d => d.sourceId != "" && !d.groups.isEmpty

/-- The source values whose groups list an option value. -/
def DependentChoices.sourcesOf (d : DependentChoices) (value : String) : List String :=
  (d.groups.filter fun g => g.visible.contains value).map (·.sourceValue)

/-- The condition for some values of a source: none of them means no condition. -/
def ChoiceCondition.ofSources? (sourceId : String) : List String → Option ChoiceCondition
  | [] => none
  | [value] => some ⟨sourceId, .equals, value⟩
  | values => some ⟨sourceId, .oneOf, (Json.array (values.map .string)).write Json.spaced⟩

/-- The condition of an option, if it is not always shown. Active dependent options decide alone;
else the option's own rule does, when it names a field. -/
def Field.choiceCondition? (f : Field) (c : Choice) : Option ChoiceCondition :=
  match f.activeDependent? with
  | some d => ChoiceCondition.ofSources? d.sourceId (d.sourcesOf c.value)
  | none =>
    match c.rule.filter (·.fieldId != "") with
    | some r => some ⟨r.fieldId, r.operator, r.value⟩
    | none => none

/-- The marker attributes of a condition. -/
def ChoiceCondition.entries (c : ChoiceCondition) : List (String × String) :=
  [("data-cond-field", c.fieldId), ("data-cond-op", c.operator.name), ("data-cond-val", c.value)]

/-- A rule as the page reads it. -/
def Rule.json (r : Rule) : Json :=
  .object
    [("field", .string r.dependsOn), ("operator", .string r.operator.name),
     ("value", .string r.value), ("action", .string r.action.name),
     ("actionValue", (r.actionValue.map Json.string).getD .null)]

/-- The rules of a field as a JSON text, empty when there are none. -/
def Field.rulesText (f : Field) : String :=
  if f.rules.isEmpty then "" else (Json.array (f.rules.map Rule.json)).write Json.compact

end FormPress
