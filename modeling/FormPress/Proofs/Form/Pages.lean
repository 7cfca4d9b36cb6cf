import FormPress.Form.Pages

/-!
# The fields of pages

Going through the pages of a form one meets every field in ascending order, the page breaks apart.
The pages are numbered from zero, one more than there are page breaks.
-/

namespace FormPress

theorem flatten_fieldGroups (fields : List Field) :
    (fieldGroups fields).flatten = fields.filter (!·.isPageBreak) := by
  induction fields with
  | nil => rfl
  | cons f rest ih =>
    rw [fieldGroups]
    by_cases hf : f.isPageBreak = true
    · simp [hf, ih]
    · cases hgroups : fieldGroups rest with
      | nil => exact absurd hgroups (fieldGroups_ne_nil rest)
      | cons group groups =>
        rw [hgroups] at ih
        simpa [hf] using ih

theorem flatMap_fields_numberPages (count index : Nat) (groups : List (List Field)) :
    (numberPages count index groups).flatMap Page.fields = groups.flatten := by
  induction groups generalizing index with
  | nil => rfl
  | cons fields rest ih => simp [numberPages, ih]

/-- The fields of all pages, one page after another. -/
theorem flatMap_fields_paginate (fields : List Field) :
    (paginate fields).flatMap Page.fields =
      (sortedFields fields).filter (!·.isPageBreak) := by
  rw [paginate, flatMap_fields_numberPages, flatten_fieldGroups]

@[simp] theorem mem_sortedFields {fields : List Field} {f : Field} :
    f ∈ sortedFields fields ↔ f ∈ fields :=
  List.mem_mergeSort

/-! ## Indices -/

theorem index_numberPages (count index : Nat) (groups : List (List Field)) :
    (numberPages count index groups).map Page.index = List.range' index groups.length := by
  induction groups generalizing index with
  | nil => rfl
  | cons fields rest ih => simp [numberPages, ih, List.range'_succ]

theorem count_of_mem_numberPages {count index : Nat} {groups : List (List Field)} {p : Page}
    (hp : p ∈ numberPages count index groups) : p.count = count := by
  induction groups generalizing index with
  | nil => contradiction
  | cons fields rest ih =>
    rw [numberPages, List.mem_cons] at hp
    rcases hp with rfl | hp
    · rfl
    · exact ih hp

/-- The number of page breaks in a form. -/
def pageBreaks (fields : List Field) : Nat :=
  (fields.filter Field.isPageBreak).length

/-- The groups of the sorted fields are as many as the breaks ask for, whatever the order is. -/
theorem length_fieldGroups_sortedFields (fields : List Field) :
    (fieldGroups (sortedFields fields)).length = pageBreaks fields + 1 := by
  have hperm : (sortedFields fields).Perm fields := List.mergeSort_perm _ _
  rw [length_fieldGroups, (hperm.filter _).length_eq, pageBreaks]

theorem index_paginate (fields : List Field) :
    (paginate fields).map Page.index = List.range (pageBreaks fields + 1) := by
  rw [paginate, index_numberPages, length_fieldGroups_sortedFields, List.range_eq_range']

theorem count_of_mem_paginate {fields : List Field} {p : Page} (hp : p ∈ paginate fields) :
    p.count = pageBreaks fields + 1 := by
  rw [count_of_mem_numberPages hp, length_fieldGroups_sortedFields]

end FormPress
