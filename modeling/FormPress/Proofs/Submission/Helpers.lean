import FormPress.Proofs.Form.Pages
import FormPress.Submission.Plan

/-!
# Names of helper inputs

A phone number has a helper input, named after its field, and a submission passes over every input
with such a name. Nothing keeps an author from giving another field that very name. The names that
dates and networks are sent under end in other ways, so a value is lost exactly where a field that
is sent under its own name is named like the helper of a phone number.
-/

namespace FormPress

/-- The inputs that a submission takes from a page, each a name with a text: all but the helpers. -/
def SubmissionPlan.takenInputs (p : SubmissionPlan) (inputs : List (String × String)) :
    List (String × String) :=
  inputs.filter fun i => !p.internalNames.contains i.1

theorem SubmissionPlan.takenInputs_eq_self_iff {p : SubmissionPlan}
    {inputs : List (String × String)} :
    p.takenInputs inputs = inputs ↔ ∀ i ∈ inputs, i.1 ∉ p.internalNames := by
  rw [takenInputs, List.filter_eq_self]
  simp

namespace Field

variable {f t : Field} {name : String}

/-! ## Names that are sent -/

/-- What follows the name of a field in the names that it sends. -/
def nameEnds : List String :=
  ["", "_start", "_end"] ++ FieldView.socialNetworks.map fun n => "_" ++ n.1

theorem exists_nameEnd (h : name ∈ f.submittedNames) :
    ∃ ending ∈ nameEnds, name = f.name ++ ending := by
  have hown (h : name ∈ [f.name]) : ∃ ending ∈ nameEnds, name = f.name ++ ending :=
    ⟨"", by decide, by rw [String.append_empty, List.mem_singleton.1 h]⟩
  unfold submittedNames at h
  split at h
  · exact hown h
  · split at h
    · exact nomatch h
    · split at h
      · rcases List.mem_cons.1 h with rfl | h
        · exact ⟨"_start", by decide, rfl⟩
        · exact ⟨"_end", by decide, List.mem_singleton.1 h⟩
      · obtain ⟨n, hn, rfl⟩ := List.mem_map.1 h
        refine ⟨"_" ++ n.1, ?_, String.append_assoc ..⟩
        exact List.mem_append_right _ (List.mem_map.2 ⟨n, hn, rfl⟩)
      · exact hown h

/-- Only the own name of a field can be the name of a helper. -/
theorem eq_name_of_mem_submittedNames (h : name ∈ f.submittedNames) (hraw : name = t.rawName) :
    name = f.name := by
  obtain ⟨ending, hending, rfl⟩ := exists_nameEnd h
  have hlast : (f.name ++ ending).toList.getLast? = some 'w' := by
    rw [hraw, rawName]
    simp
  have hends : (nameEnds.all fun e => e.toList.getLast? != some 'w') = true := by decide
  have hend := List.all_eq_true.1 hends ending hending
  rw [String.toList_append, List.getLast?_append] at hlast
  cases h : ending.toList.getLast? with
  | none =>
    have hempty : ending = "" := String.toList_eq_nil_iff.1 (List.getLast?_eq_none_iff.1 h)
    rw [hempty, String.append_empty]
  | some c =>
    rw [h] at hlast hend
    rw [Option.some_or] at hlast
    exact absurd hlast (bne_iff_ne.1 hend)

end Field

/-! ## Names of a form -/

theorem mem_internalNames {fields : List Field} {name : String} :
    name ∈ internalNames fields ↔ ∃ t ∈ fields, t.kind = some .tel ∧ name = t.rawName := by
  rw [internalNames, List.mem_map]
  constructor
  · rintro ⟨t, ht, hname⟩
    obtain ⟨hmem, hkind⟩ := List.mem_filter.1 ht
    exact ⟨t, hmem, beq_iff_eq.1 hkind, hname.symm⟩
  · rintro ⟨t, ht, hkind, hname⟩
    exact ⟨t, List.mem_filter.2 ⟨ht, beq_iff_eq.2 hkind⟩, hname.symm⟩

namespace Form

variable {form : Form} {name : String}

theorem mem_sheetColumns :
    name ∈ form.sheetColumns ↔ ∃ f ∈ form.fields, name ∈ f.submittedNames := by
  simp [sheetColumns, mem_sortedFields]

/-- No field that is sent under its own name is named like the helper of a phone number. -/
def HelpersApart (form : Form) : Prop :=
  ∀ t ∈ form.fields, t.kind = some .tel → ∀ f ∈ form.fields, f.name ∈ f.submittedNames →
    f.name ≠ t.rawName

theorem internalNames_submissionPlan (form : Form) (settings : Settings) :
    (form.submissionPlan settings).result.internalNames = internalNames form.fields := rfl

theorem columns_notMem_internalNames_iff :
    (∀ name ∈ form.sheetColumns, name ∉ internalNames form.fields) ↔ form.HelpersApart := by
  constructor
  · intro h t ht htel f hf hname hraw
    exact h f.name (mem_sheetColumns.2 ⟨f, hf, hname⟩) (mem_internalNames.2 ⟨t, ht, htel, hraw⟩)
  · intro h name hcolumn hinternal
    obtain ⟨f, hf, hname⟩ := mem_sheetColumns.1 hcolumn
    obtain ⟨t, ht, htel, hraw⟩ := mem_internalNames.1 hinternal
    obtain rfl := Field.eq_name_of_mem_submittedNames hname hraw
    exact h t ht htel f hf hname hraw

/-- **No value is passed over exactly when no field is named like a helper.** The columns of a form
are apart from the helpers of its plan, and whatever inputs a page has under the names of columns
are all taken, exactly when no field that is sent under its own name has the name of the helper of a
phone number. -/
theorem columns_taken_iff (form : Form) (settings : Settings) :
    ((∀ name ∈ form.sheetColumns,
        name ∉ (form.submissionPlan settings).result.internalNames) ↔ form.HelpersApart) ∧
    ((∀ inputs : List (String × String), (∀ i ∈ inputs, i.1 ∈ form.sheetColumns) →
        (form.submissionPlan settings).result.takenInputs inputs = inputs) ↔
      form.HelpersApart) := by
  rw [internalNames_submissionPlan, ← columns_notMem_internalNames_iff]
  refine ⟨Iff.rfl, fun h name hname => ?_, fun h inputs hinputs => ?_⟩
  · have htaken := h [(name, "")] (List.forall_mem_singleton.2 hname)
    exact SubmissionPlan.takenInputs_eq_self_iff.1 htaken _ (List.mem_singleton_self _)
  · exact SubmissionPlan.takenInputs_eq_self_iff.2 fun i hi => h i.1 (hinputs i hi)

/-- A form with a phone number and a text that is named like its helper. -/
def helperForm : Form :=
  { fields := [{ id := "t", name := "phone", kindName := "tel" },
               { id := "r", name := "phone_raw" }] }

/-- The names of the fields are distinct and not empty, but what is entered as the text is lost. -/
theorem columns_helperForm :
    (helperForm.fields.map Field.name).Nodup ∧ (∀ f ∈ helperForm.fields, f.name ≠ "") ∧
      "phone_raw" ∈ helperForm.sheetColumns ∧
      "phone_raw" ∈ (helperForm.submissionPlan {}).result.internalNames ∧
      (helperForm.submissionPlan {}).result.takenInputs
        [("phone", "+911"), ("phone_raw", "back door")] = [("phone", "+911")] := by
  refine ⟨by decide, by decide,
    mem_sheetColumns.2 ⟨_, List.mem_cons_of_mem _ List.mem_cons_self, ?_⟩, by decide, by decide⟩
  decide

end Form

end FormPress
