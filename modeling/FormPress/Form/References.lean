import FormPress.Field.Condition
import FormPress.Field.Formula
import FormPress.Log
import FormPress.Text.Quoted

/-!
# References between fields

Rules, dependent options, option rules, lookups and formulas name other fields. A reference that
names no field is dangling; references that come back to their field form a cycle. A report lists
both. A lenient check writes the report to the log and goes on, a strict one refuses the form.
-/

namespace FormPress

/-- The place of a field's description that holds a reference. -/
inductive ReferenceSource where
  | rule
  | dependentOptions
  | option (value : String)
  | lookup
  | formula
deriving DecidableEq, Repr

/-- How a report names the place. -/
def ReferenceSource.text : ReferenceSource → String
  | .rule => "conditional rule"
  | .dependentOptions => "dependent options"
  | .option value => "option " ++ Text.Quoted.write value
  | .lookup => "lookup"
  | .formula => "formula"

/-- A reference that a field makes. -/
structure Reference where
  fieldId : String
  target : String
  source : ReferenceSource
deriving DecidableEq, Repr

def Field.formulaReferences (f : Field) : List String :=
  (f.formula.map Formula.references).getD []

/-- The references of the options: the source of active dependent options, else what the rules of
the single options name. -/
def Field.choiceReferences (f : Field) : List Reference :=
  match f.activeDependent? with
  | some d => [⟨f.id, d.sourceId, .dependentOptions⟩]
  | none =>
    f.options.filterMap fun c =>
      (c.rule.filter (·.fieldId != "")).map fun r => ⟨f.id, r.fieldId, .option c.value⟩

def Field.lookupReferences (f : Field) : List Reference :=
  match f.lookup.filter (·.sourceId != "") with
  | some l => [⟨f.id, l.sourceId, .lookup⟩]
  | none => []

/-- All references of a field, in the order of its description. -/
def Field.references (f : Field) : List Reference :=
  (f.rules.map fun r => ⟨f.id, r.dependsOn, .rule⟩) ++
    (f.choiceReferences ++
      (f.lookupReferences ++ f.formulaReferences.map fun target => ⟨f.id, target, .formula⟩))

/-- The ids of the fields that a field depends on, each once. -/
def Field.dependencies (fields : List Field) (f : Field) : List String :=
  Table.distinct (f.references.filterMap fun r => (resolve? fields r.target).map (·.id))

/-- A graph of ids: every id with the ids it points to. -/
abbrev Graph := List (String × List String)

/-- The dependencies of all fields by id. Of fields with one id the last counts, at the place of the
first. -/
def dependencyGraph (fields : List Field) : Graph :=
  Table.ofEntries (fields.map fun f => (f.id, f.dependencies fields))

/-- The references that name no field. -/
def danglingReferences (fields : List Field) : List Reference :=
  fields.flatMap fun f => f.references.filter fun r => (resolve? fields r.target).isNone

namespace Graph

def targets (g : Graph) (id : String) : List String :=
  (Table.lookup id g).getD []

/-- The state of a walk: the ids that are left for good, and the cycles met so far, the last
first. -/
structure Walk where
  done : List String := []
  found : List (List String) := []

/-- The part of a path, given from its end, that starts at an id. -/
def cycleFrom (id : String) (path : List String) : List String :=
  path.reverse.dropWhile (· != id)

mutual

/-- Walk on from an id at the end of a path. A path has no id twice, so it is at most as long as the
graph, which bounds the fuel. -/
def visit (g : Graph) : Nat → List String → String → Walk → Walk
  | 0, _, _, w => w
  | fuel + 1, path, id, w =>
    let after := visitAll g fuel (id :: path) (g.targets id) w
    { after with done := id :: after.done }

/-- Take the steps from the end of a path to each of the ids. -/
def visitAll (g : Graph) : Nat → List String → List String → Walk → Walk
  | _, _, [], w => w
  | fuel, path, id :: rest, w =>
    if id ∈ path then
      visitAll g fuel path rest { w with found := cycleFrom id path :: w.found }
    else if id ∈ w.done then visitAll g fuel path rest w
    else visitAll g fuel path rest (visit g fuel path id w)

end

/-- Every cycle met by a depth-first walk, each from the field at which the walk entered it. -/
def cycles (g : Graph) : List (List String) :=
  (visitAll g (g.length + 1) [] (g.map (·.1)) {}).found.reverse

end Graph

/-- What a check of the references finds. -/
structure ReferenceReport where
  dangling : List Reference
  cycles : List (List String)
deriving DecidableEq, Repr

def ReferenceReport.ofFields (fields : List Field) : ReferenceReport :=
  ⟨danglingReferences fields, (dependencyGraph fields).cycles⟩

/-- Nothing was found. -/
def ReferenceReport.isClean (r : ReferenceReport) : Bool :=
  r.dangling.isEmpty && r.cycles.isEmpty

def Reference.line (r : Reference) : String :=
  "field " ++ Text.Quoted.write r.fieldId ++ ": " ++ r.source.text ++
    " references unknown field " ++ Text.Quoted.write r.target

/-- The line of a cycle, which ends where it began. -/
def cycleLine (cycle : List String) : String :=
  "dependency cycle: " ++ Text.join " -> " (cycle ++ cycle.take 1)

def ReferenceReport.lines (r : ReferenceReport) : List String :=
  r.dangling.map Reference.line ++ r.cycles.map cycleLine

/-- Why a strict check refuses a form. -/
inductive ReferenceFault where
  | dangling (formId : String) (report : ReferenceReport)
  | cyclic (formId : String) (report : ReferenceReport)
deriving DecidableEq, Repr

/-- The wording of a refusal: a head line and the report. -/
def ReferenceFault.message : ReferenceFault → String
  | .dangling formId report =>
    Text.join "\n"
      (("Form " ++ Text.Quoted.write formId ++ " has dangling field references:") :: report.lines)
  | .cyclic formId report =>
    Text.join "\n"
      (("Form " ++ Text.Quoted.write formId ++ " has cyclic field dependencies:") :: report.lines)

/-- Check the references of a form. A dangling reference weighs more than a cycle. -/
def Form.checkReferences (form : Form) (strict : Bool) :
    Logged (Except ReferenceFault ReferenceReport) :=
  let report := ReferenceReport.ofFields form.fields
  if report.isClean then pure (.ok report)
  else if strict then
    pure (.error (if report.dangling.isEmpty then .cyclic form.id report
      else .dangling form.id report))
  else
    ⟨report.lines.map fun line =>
        ⟨.warning, .conditions, "Form " ++ Text.Quoted.write form.id ++ ": " ++ line⟩,
      .ok report⟩

end FormPress
