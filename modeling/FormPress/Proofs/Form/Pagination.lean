import FormPress.Proofs.Form.Declaration

/-!
# Pages put together again

The ascending order holds the declared fields, none before one of lower order and those of one order
in the sequence of their declaration. Its pages, with the page breaks put back between them, are the
ascending order itself: nothing is lost, nothing is there twice and nothing changes its place.
-/

namespace FormPress

/-! ## The ascending order -/

/-- The order of a field compares as equal to a number. -/
def Field.ranksAs (x : Binary64) (f : Field) : Bool :=
  decide (f.order.Same x)

/-- A list holds the given fields in ascending order, and those of one order as they were given. -/
structure IsAscending (fields sorted : List Field) : Prop where
  perm : sorted.Perm fields
  ascending : sorted.Pairwise fun f g => f.order.le g.order = true
  stable : ∀ x, sorted.filter (Field.ranksAs x) = fields.filter (Field.ranksAs x)

variable {fields : List Field}

/-- Fields of one order are sorted as they were declared, so they stay so. -/
theorem filter_ranksAs_sortedFields (hnumber : ∀ f ∈ fields, f.order ≠ .nan) (x : Binary64) :
    (sortedFields fields).filter (Field.ranksAs x) = fields.filter (Field.ranksAs x) := by
  have hsorted : (fields.filter (Field.ranksAs x)).Pairwise
      fun f g => f.order.standsBefore g.order = true := by
    refine List.pairwise_of_forall_mem_list fun f hf g hg => ?_
    rw [List.mem_filter, Field.ranksAs, decide_eq_true_eq] at hf hg
    exact hf.2.standsBefore (hnumber f hf.1) (hnumber g hg.1) hg.2
  have hsublist : (fields.filter (Field.ranksAs x)).Sublist (sortedFields fields) := by
    rw [sortedFields_eq_mergeSort hnumber]
    refine List.sublist_mergeSort ?_ ?_ hsorted List.filter_sublist
    · exact fun f g k hfg hgk => Binary64.standsBefore_trans hfg hgk
    · intro f g
      rw [Bool.or_eq_true]
      exact Binary64.standsBefore_total f.order g.order
  have hperm : (sortedFields fields).Perm fields := List.mergeSort_perm _ _
  have hfilter := hsublist.filter (Field.ranksAs x)
  simp only [List.filter_filter, Bool.and_self] at hfilter
  exact (hfilter.eq_of_length (hperm.filter _).length_eq.symm).symm

theorem isAscending_sortedFields (hnumber : ∀ f ∈ fields, f.order ≠ .nan) :
    IsAscending fields (sortedFields fields) where
  perm := List.mergeSort_perm _ _
  ascending := by
    refine (pairwise_sortedFields hnumber).imp_of_mem fun {f g} hf hg hfg => ?_
    rw [mem_sortedFields] at hf hg
    rw [Binary64.le_eq_standsBefore (hnumber f hf) (hnumber g hg), hfg]
  stable := filter_ranksAs_sortedFields hnumber

/-! ## Pages and page breaks -/

/-- Groups of fields one after another, with a mark behind each as long as there are marks. -/
def separate : List (List Field) → List Field → List Field
  | [], marks => marks
  | group :: rest, [] => group ++ separate rest []
  | group :: rest, mark :: marks => group ++ mark :: separate rest marks

/-- A field in front of the first group. -/
theorem separate_cons (f : Field) (group : List Field) (groups : List (List Field))
    (marks : List Field) :
    separate ((f :: group) :: groups) marks = f :: separate (group :: groups) marks := by
  cases marks <;> rfl

theorem separate_fieldGroups (fields : List Field) :
    separate (fieldGroups fields) (fields.filter Field.isPageBreak) = fields := by
  induction fields with
  | nil => rfl
  | cons f rest ih =>
    rw [fieldGroups]
    by_cases hf : f.isPageBreak = true
    · rw [if_pos hf, List.filter_cons_of_pos hf, separate, ih]
      rfl
    · rw [if_neg hf, List.filter_cons_of_neg hf]
      cases hgroups : fieldGroups rest with
      | nil => exact absurd hgroups (fieldGroups_ne_nil rest)
      | cons group groups =>
        rw [hgroups] at ih
        rw [separate_cons, ih]

theorem map_fields_numberPages (count index : Nat) (groups : List (List Field)) :
    (numberPages count index groups).map Page.fields = groups := by
  induction groups generalizing index with
  | nil => rfl
  | cons fields rest ih => rw [numberPages, List.map_cons, ih]

theorem map_fields_paginate (fields : List Field) :
    (paginate fields).map Page.fields = fieldGroups (sortedFields fields) := by
  rw [paginate, map_fields_numberPages]

theorem length_paginate (fields : List Field) :
    (paginate fields).length = pageBreaks fields + 1 := by
  rw [paginate, length_numberPages, length_fieldGroups_sortedFields]

/-- What stands at an index of the pages around some page breaks. -/
structure Page.StandsAt (p : Page) (index breaks : Nat) : Prop where
  index_eq : p.index = index
  count_eq : p.count = breaks + 1
  hasPrevious_iff : p.hasPrevious = true ↔ 0 < index
  hasNext_iff : p.hasNext = true ↔ index < breaks
  isLast_iff : p.isLast = true ↔ index = breaks
  noBreak : ∀ f ∈ p.fields, f.isPageBreak = false

theorem standsAt_of_getElem? {index : Nat} {p : Page} (h : (paginate fields)[index]? = some p) :
    p.StandsAt index (pageBreaks fields) := by
  have hmem : p ∈ paginate fields := List.mem_of_getElem? h
  have hcount : p.count = pageBreaks fields + 1 := count_of_mem_paginate hmem
  obtain ⟨hlt, -⟩ := List.getElem?_eq_some_iff.1 h
  rw [length_paginate] at hlt
  have hindex : p.index = index := by
    have hmap := congrArg (·[index]?) (index_paginate fields)
    simp only [List.getElem?_map, h, Option.map_some, List.getElem?_range hlt] at hmap
    exact Option.some.inj hmap
  have hnext : p.hasNext = true ↔ index < pageBreaks fields := by
    rw [Page.hasNext, decide_eq_true_eq, hindex, hcount]
    omega
  refine ⟨hindex, hcount, ?_, hnext, ?_, fun f hf => ?_⟩
  · rw [Page.hasPrevious, decide_eq_true_eq, hindex]
  · rw [Page.isLast, Bool.not_eq_true', ← Bool.not_eq_true, hnext]
    omega
  · have hpages : f ∈ (paginate fields).flatMap Page.fields := List.mem_flatMap.2 ⟨p, hmem, hf⟩
    rw [flatMap_fields_paginate, List.mem_filter, Bool.not_eq_true'] at hpages
    exact hpages.2

/-- **The pages with the page breaks between them are the fields in ascending order.** So there is
one page more than page breaks, and none of them is on a page. -/
theorem separate_paginate (hnumber : ∀ f ∈ fields, f.order ≠ .nan) :
    IsAscending fields (sortedFields fields) ∧
    separate ((paginate fields).map Page.fields) ((sortedFields fields).filter Field.isPageBreak) =
      sortedFields fields ∧
    (paginate fields).length = pageBreaks fields + 1 ∧
    (∀ (index : Nat) (p : Page), (paginate fields)[index]? = some p →
      p.StandsAt index (pageBreaks fields)) ∧
    paginate [] = [⟨0, [], 1⟩] := by
  refine ⟨isAscending_sortedFields hnumber, ?_, length_paginate fields,
    fun index p h => standsAt_of_getElem? h, ?_⟩
  · rw [map_fields_paginate, separate_fieldGroups]
  · simp [paginate, sortedFields, fieldGroups, numberPages]

/-- Fields with page breaks in front, behind and next to each other, two of them of the order of
other fields. -/
def brokenFields : List Field :=
  [{ id := "last", kindName := "page-break", order := .infinite false },
   { id := "b", order := .ofInt 1 },
   { id := "first", kindName := "page-break", order := .ofInt (-1) },
   { id := "second", kindName := "page-break", order := .ofInt 1 },
   { id := "a", order := .zero },
   { id := "c", order := .ofInt 1 }]

theorem separate_paginate_brokenFields :
    (∀ f ∈ brokenFields, f.order ≠ .nan) ∧
    IsAscending brokenFields (sortedFields brokenFields) ∧
    separate ((paginate brokenFields).map Page.fields)
        ((sortedFields brokenFields).filter Field.isPageBreak) = sortedFields brokenFields ∧
    (paginate brokenFields).length = 4 := by
  have hnumber : ∀ f ∈ brokenFields, f.order ≠ .nan := by decide +kernel
  obtain ⟨hascending, hpages, hlength, -⟩ := separate_paginate hnumber
  exact ⟨hnumber, hascending, hpages, hlength.trans (by decide)⟩

end FormPress
