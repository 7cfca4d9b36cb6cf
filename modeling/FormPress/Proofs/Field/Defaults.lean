import FormPress.Field.View
import FormPress.Proofs.Text.Lines
import FormPress.Proofs.Text.Splits

/-!
# Values that a default names

A default may name several values, between commas and with blanks around them. A value that has
neither a comma nor blanks at its ends is an item; every value that a default names is one. Items
that are joined by the separator of values are what the joined text names, each at its place.
-/

namespace FormPress

/-! ## Items -/

/-- A text that names itself where values are told apart by commas. -/
structure IsItem (v : String) : Prop where
  notComma : ',' ∉ v.toList
  strip_eq : Text.strip v = v

/-- The values that a text names. -/
def itemsOf (s : List Char) : List String :=
  (Text.splitAt ',' s).map fun part => String.ofList (Text.stripBy Text.isBlank part)

theorem isItem_of_mem_itemsOf {s : List Char} {v : String} (h : v ∈ itemsOf s) : IsItem v := by
  obtain ⟨part, hpart, rfl⟩ := List.mem_map.1 h
  constructor
  · rw [String.toList_ofList]
    exact fun hcomma => Text.notMem_of_mem_splitAt hpart (Text.mem_of_mem_stripBy hcomma)
  · rw [Text.strip, String.toList_ofList, Text.stripBy_stripBy]

theorem IsItem.itemsOf_eq {v : String} (h : IsItem v) : itemsOf v.toList = [v] := by
  rw [itemsOf, Text.splitAt_of_notMem h.notComma, List.map_singleton]
  exact congrArg (fun w => [w]) h.strip_eq

theorem itemsOf_append (s t : List Char) :
    itemsOf (s ++ ',' :: t) = itemsOf s ++ itemsOf t := by
  rw [itemsOf, Text.splitAt_append, List.map_append]
  rfl

/-- A blank in front of a text belongs to no value. -/
theorem itemsOf_blank (s : List Char) : itemsOf (' ' :: s) = itemsOf s := by
  obtain ⟨part, parts, hparts⟩ := List.exists_cons_of_ne_nil (Text.splitAt_ne_nil ',' s)
  have hblank : Text.stripBy Text.isBlank (' ' :: part) = Text.stripBy Text.isBlank part :=
    Text.stripBy_cons_of_pos (by decide) part
  rw [itemsOf, itemsOf, hparts, Text.splitAt_cons_of_ne (by decide) hparts, List.map_cons,
    List.map_cons, hblank]

/-- **Joined items are told apart again.** -/
theorem itemsOf_join {v : String} {vs : List String} (h : ∀ w ∈ v :: vs, IsItem w) :
    itemsOf (Text.join valueSeparator (v :: vs)).toList = v :: vs := by
  induction vs generalizing v with
  | nil => exact (h v List.mem_cons_self).itemsOf_eq
  | cons w rest ih =>
    obtain ⟨hv, hrest⟩ := List.forall_mem_cons.1 h
    have hseparator : valueSeparator.toList = [',', ' '] := by decide
    rw [Text.join_cons_cons, String.toList_append, String.toList_append, hseparator,
      List.cons_append, List.singleton_append, itemsOf_append, itemsOf_blank, hv.itemsOf_eq,
      ih hrest, List.singleton_append]

/-! ## Defaults -/

namespace Field

variable {f : Field} {d : String}

theorem defaultValues_of_given (hd : f.defaultValue = some d) (hne : d ≠ "") :
    f.defaultValues = itemsOf d.toList := by
  rw [defaultValues, hd, given?, Option.filter_some_pos (by simpa using hne)]
  rfl

/-- A default that is an item names itself and nothing else; another default does not name
itself. -/
theorem isItem_iff_mem_defaultValues (hd : f.defaultValue = some d) (hne : d ≠ "") :
    IsItem d ↔ d ∈ f.defaultValues := by
  rw [defaultValues_of_given hd hne]
  exact ⟨fun h => by simp [h.itemsOf_eq], isItem_of_mem_itemsOf⟩

/-- A default of joined items names these items. -/
theorem defaultValues_join {vs : List String} (hvs : ∀ v ∈ vs, v ≠ "" ∧ IsItem v)
    (hd : f.defaultValue = some (Text.join valueSeparator vs)) : f.defaultValues = vs := by
  cases vs with
  | nil =>
    rw [defaultValues, hd]
    rfl
  | cons v rest =>
    have hne : Text.join valueSeparator (v :: rest) ≠ "" := by
      rw [Text.join_cons]
      intro hempty
      exact (hvs v List.mem_cons_self).1 (String.append_eq_empty_iff.1 hempty).1
    rw [defaultValues_of_given hd hne, itemsOf_join fun w hw => (hvs w hw).2]

end Field

end FormPress
