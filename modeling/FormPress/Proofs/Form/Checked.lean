import FormPress.Proofs.Form.Cycles

/-!
# Checked references

What a check of the references says about a form: it is clean when every reference of every field
resolves and no field depends on itself, through whatever others. A strict check refuses the other
forms, a lenient one writes its report to the log.

A reference either names a field, and then the graph of dependencies follows it, or it names none,
and then the check reports it. Report and graph go through the references of the fields separately;
together they leave none out and take none twice.
-/

namespace FormPress

/-! ## Dependencies -/

variable {fields : List Field}

theorem mem_of_resolve? {reference : String} {f : Field}
    (h : resolve? fields reference = some f) : f ∈ fields := by
  unfold resolve? at h
  split at h
  · contradiction
  · split at h
    · rename_i g hg
      obtain rfl := Option.some.inj h
      exact List.mem_of_find?_eq_some hg
    · exact List.mem_of_find?_eq_some h

/-- The id of a declared field names a field of this id. -/
theorem exists_resolve?_id {f : Field} (hf : f ∈ fields) (hid : f.id ≠ "") :
    ∃ g, resolve? fields f.id = some g ∧ g.id = f.id := by
  cases hfind : fields.find? (·.id == f.id) with
  | none => exact absurd (List.find?_eq_none.1 hfind f hf) (by simp)
  | some g =>
    have hg := List.find?_some hfind
    exact ⟨g, by rw [resolve?, if_neg hid, hfind], by simpa using hg⟩

theorem mem_ids_dependencyGraph {id : String} :
    id ∈ (dependencyGraph fields).ids ↔ ∃ f ∈ fields, f.id = id := by
  rw [Graph.ids, dependencyGraph, Table.mem_keys_ofEntries]
  simp

/-- Dependencies are ids of fields. -/
theorem closed_dependencyGraph (fields : List Field) : (dependencyGraph fields).Closed := by
  intro a b hedge
  have hentry : ∃ targets, (a, targets) ∈ dependencyGraph fields ∧ b ∈ targets := by
    unfold Graph.Edge Graph.targets at hedge
    cases hlookup : Table.lookup a (dependencyGraph fields) with
    | none =>
      rw [hlookup] at hedge
      simp at hedge
    | some targets =>
      rw [hlookup] at hedge
      exact ⟨targets, Table.mem_of_lookup hlookup, hedge⟩
  obtain ⟨targets, hentry, hb⟩ := hentry
  obtain ⟨f, -, hf⟩ := List.mem_map.1 (Table.mem_of_mem_ofEntries hentry)
  obtain ⟨rfl, rfl⟩ := Prod.mk.inj hf
  rw [Field.dependencies, Table.mem_distinct] at hb
  obtain ⟨r, -, hr⟩ := List.mem_filterMap.1 hb
  obtain ⟨target, htarget, rfl⟩ := Option.map_eq_some_iff.1 hr
  exact mem_ids_dependencyGraph.2 ⟨target, mem_of_resolve? htarget, rfl⟩

/-- With distinct ids the graph has one entry for each field, in declared sequence. -/
theorem dependencyGraph_of_nodup (hids : (fields.map (·.id)).Nodup) :
    dependencyGraph fields = fields.map fun f => (f.id, f.dependencies fields) :=
  Table.ofEntries_of_nodup (by rwa [List.map_map])

theorem ids_dependencyGraph_of_nodup (hids : (fields.map (·.id)).Nodup) :
    (dependencyGraph fields).ids = fields.map (·.id) := by
  rw [Graph.ids, dependencyGraph_of_nodup hids, List.map_map]
  rfl

theorem lookup_dependencyGraph (hids : (fields.map (·.id)).Nodup) {f : Field} (hf : f ∈ fields) :
    Table.lookup f.id (dependencyGraph fields) = some (f.dependencies fields) := by
  have hkeys : (dependencyGraph fields).ids.Nodup := by
    rwa [ids_dependencyGraph_of_nodup hids]
  rw [Table.lookup_eq_some_iff hkeys, dependencyGraph_of_nodup hids]
  exact List.mem_map_of_mem hf

/-! ## Forms -/

namespace Form

/-- Some reference of some field names no field. -/
def RefersNowhere (form : Form) : Prop :=
  ∃ f ∈ form.fields, ∃ r ∈ f.references, resolve? form.fields r.target = none

/-- Some field depends on itself, be it through other fields. -/
def DependsInCircle (form : Form) : Prop :=
  (dependencyGraph form.fields).HasCycle

/-- What a check finds in a form, strict or not. -/
def report (form : Form) : ReferenceReport :=
  .ofFields form.fields

/-- The line of the log for a line of a report. -/
def warning (form : Form) (line : String) : LogLine :=
  ⟨.warning, .conditions, "Form " ++ Text.Quoted.write form.id ++ ": " ++ line⟩

variable {form : Form}

theorem isEmpty_dangling_iff : form.report.dangling.isEmpty = true ↔ ¬form.RefersNowhere := by
  have hnil : form.report.dangling = [] ↔
      ∀ f ∈ form.fields, ∀ r ∈ f.references, resolve? form.fields r.target ≠ none := by
    simp [report, ReferenceReport.ofFields, danglingReferences, List.flatMap_eq_nil_iff]
  rw [List.isEmpty_iff, hnil, RefersNowhere]
  push Not
  exact Iff.rfl

theorem isEmpty_cycles_iff : form.report.cycles.isEmpty = true ↔ ¬form.DependsInCircle := by
  rw [List.isEmpty_iff]
  exact Graph.cycles_eq_nil_iff (closed_dependencyGraph form.fields)

theorem isClean_report_iff :
    form.report.isClean = true ↔ ¬form.RefersNowhere ∧ ¬form.DependsInCircle := by
  rw [ReferenceReport.isClean, Bool.and_eq_true, isEmpty_dangling_iff, isEmpty_cycles_iff]

theorem lines_of_isClean (h : form.report.isClean = true) : form.report.lines = [] := by
  rw [ReferenceReport.isClean, Bool.and_eq_true, List.isEmpty_iff, List.isEmpty_iff] at h
  rw [ReferenceReport.lines, h.1, h.2]
  rfl

/-- A lenient check hands out the report, and the log has a warning for each of its lines. -/
theorem checkReferences_false :
    form.checkReferences false = ⟨form.report.lines.map form.warning, .ok form.report⟩ := by
  unfold checkReferences
  dsimp only
  split
  · rename_i hclean
    rw [lines_of_isClean hclean]
    rfl
  · rfl

/-- A strict check accepts a clean form. -/
theorem checkReferences_true_of_isClean (h : form.report.isClean = true) :
    (form.checkReferences true).result = .ok form.report := by
  unfold report at h
  unfold checkReferences
  dsimp only
  rw [if_pos h]
  rfl

/-- Where a reference names no field, a strict check says so, whatever else it finds. -/
theorem checkReferences_true_of_refersNowhere (h : form.RefersNowhere) :
    (form.checkReferences true).result = .error (.dangling form.id form.report) := by
  have hdirty : ¬form.report.isClean = true := fun hclean => (isClean_report_iff.1 hclean).1 h
  have hdangling : ¬form.report.dangling.isEmpty = true := fun hnone =>
    isEmpty_dangling_iff.1 hnone h
  unfold report at hdirty hdangling
  unfold checkReferences
  dsimp only
  rw [if_neg hdirty, if_pos rfl, if_neg hdangling]
  rfl

/-- Where all references name fields, but in a circle, a strict check names the circle. -/
theorem checkReferences_true_of_dependsInCircle (hresolved : ¬form.RefersNowhere)
    (h : form.DependsInCircle) :
    (form.checkReferences true).result = .error (.cyclic form.id form.report) := by
  have hdirty : ¬form.report.isClean = true := fun hclean => (isClean_report_iff.1 hclean).2 h
  have hdangling : form.report.dangling.isEmpty = true := isEmpty_dangling_iff.2 hresolved
  unfold report at hdirty hdangling
  unfold checkReferences
  dsimp only
  rw [if_neg hdirty, if_pos rfl, if_pos hdangling]
  rfl

/-- The three answers of a strict check. -/
theorem checkReferences_true_cases (form : Form) :
    (form.RefersNowhere ∧
      (form.checkReferences true).result = .error (.dangling form.id form.report)) ∨
    (¬form.RefersNowhere ∧ form.DependsInCircle ∧
      (form.checkReferences true).result = .error (.cyclic form.id form.report)) ∨
    (¬form.RefersNowhere ∧ ¬form.DependsInCircle ∧
      (form.checkReferences true).result = .ok form.report) := by
  by_cases hnowhere : form.RefersNowhere
  · exact .inl ⟨hnowhere, checkReferences_true_of_refersNowhere hnowhere⟩
  · by_cases hcircle : form.DependsInCircle
    · exact .inr (.inl ⟨hnowhere, hcircle,
        checkReferences_true_of_dependsInCircle hnowhere hcircle⟩)
    · have hclean := isClean_report_iff.2 ⟨hnowhere, hcircle⟩
      exact .inr (.inr ⟨hnowhere, hcircle, checkReferences_true_of_isClean hclean⟩)

end Form

/-- A refusal is worded as a head line and the lines of the report. -/
theorem ReferenceFault.exists_message (formId : String) (report : ReferenceReport) :
    (∃ head, (dangling formId report).message = Text.join "\n" (head :: report.lines)) ∧
      ∃ head, (cyclic formId report).message = Text.join "\n" (head :: report.lines) :=
  ⟨⟨_, rfl⟩, ⟨_, rfl⟩⟩

end FormPress

/-! ## Resolved and dangling references -/

namespace FormPress

variable {fields : List Field}

theorem mem_danglingReferences {r : Reference} :
    r ∈ danglingReferences fields ↔
      ∃ f ∈ fields, r ∈ f.references ∧ resolve? fields r.target = none := by
  simp [danglingReferences]

theorem danglingReferences_eq_filter (fields : List Field) :
    danglingReferences fields =
      (fields.flatMap Field.references).filter fun r => (resolve? fields r.target).isNone := by
  rw [danglingReferences, List.filter_flatMap]

/-- The ids of the fields that the references of a field name, in the order of the references. -/
def Field.namedIds (fields : List Field) (f : Field) : List String :=
  f.references.filterMap fun r => (resolve? fields r.target).map (·.id)

/-- The graph has the ids of the fields, in declared sequence, and under each id the ids that the
references of its field name: each once, in the order of first reference. -/
structure Graph.Follows (g : Graph) (fields : List Field) : Prop where
  ids_eq : g.ids = fields.map (·.id)
  firsts : ∀ f ∈ fields, ∃ targets, Table.lookup f.id g = some targets ∧
    Table.Firsts (f.namedIds fields) targets ∧ ∀ id ∈ targets, id ∈ g.ids

theorem follows_dependencyGraph (hids : (fields.map (·.id)).Nodup) :
    (dependencyGraph fields).Follows fields where
  ids_eq := ids_dependencyGraph_of_nodup hids
  firsts := by
    intro f hf
    refine ⟨_, lookup_dependencyGraph hids hf, Table.firsts_distinct _, fun id hid => ?_⟩
    refine closed_dependencyGraph fields f.id id ?_
    rw [Graph.Edge, Graph.targets, lookup_dependencyGraph hids hf]
    exact hid

/-- **Every reference is accounted for exactly once.** One that names no field is reported, one that
names a field is not, and the graph leads to this field. The report has the references that name no
field, as often as they are made and in declared sequence; the graph has nothing but the ids that
references name. -/
theorem references_accounted (hids : (fields.map (·.id)).Nodup) :
    (∀ f ∈ fields, ∀ r ∈ f.references,
      (resolve? fields r.target = none ∧ r ∈ danglingReferences fields) ∨
      ∃ t ∈ fields, resolve? fields r.target = some t ∧ r ∉ danglingReferences fields ∧
        ∃ targets, Table.lookup f.id (dependencyGraph fields) = some targets ∧ t.id ∈ targets) ∧
    danglingReferences fields =
      (fields.flatMap Field.references).filter (fun r => (resolve? fields r.target).isNone) ∧
    (dependencyGraph fields).Follows fields := by
  refine ⟨fun f hf r hr => ?_, danglingReferences_eq_filter fields, follows_dependencyGraph hids⟩
  cases hresolve : resolve? fields r.target with
  | none => exact .inl ⟨rfl, mem_danglingReferences.2 ⟨f, hf, hr, hresolve⟩⟩
  | some t =>
    have hnot : r ∉ danglingReferences fields := by
      intro hdangling
      obtain ⟨-, -, -, hnone⟩ := mem_danglingReferences.1 hdangling
      rw [hresolve] at hnone
      contradiction
    obtain ⟨targets, hlookup, hfirsts, -⟩ := (follows_dependencyGraph hids).firsts f hf
    have hid : t.id ∈ targets := by
      rw [hfirsts.mem_iff]
      exact List.mem_filterMap.2 ⟨r, hr, by rw [hresolve, Option.map_some]⟩
    exact .inr ⟨t, mem_of_resolve? hresolve, rfl, hnot, targets, hlookup, hid⟩

/-- Fields that refer to each other by id and by name, to one field twice, and to fields that do not
exist: one by a rule of an option, another by a formula and twice by rules. -/
def crossedFields : List Field :=
  [{ id := "a", name := "first", kindName := "radio"
     options := [{ value := "x", rule := some { fieldId := "ghost" } }, { value := "y" }]
     rules := [{ dependsOn := "b" }] },
   { id := "b", name := "a", kindName := "formula"
     rules := [{ dependsOn := "gone" }, { dependsOn := "first" }, { dependsOn := "gone" }]
     formula := some { expression := "{ a } + {nowhere} * {b}", referenced := ["b"] } }]

theorem references_accounted_crossedFields :
    (crossedFields.map (·.id)).Nodup ∧
    (danglingReferences crossedFields).map (·.target) = ["ghost", "gone", "gone", "nowhere"] ∧
    (dependencyGraph crossedFields).Follows crossedFields ∧
    Table.lookup "b" (dependencyGraph crossedFields) = some ["a", "b"] := by
  have hids : (crossedFields.map (·.id)).Nodup := by decide
  obtain ⟨-, hdangling, hfollows⟩ := references_accounted hids
  refine ⟨hids, ?_, hfollows, by decide⟩
  rw [hdangling]
  decide

end FormPress
