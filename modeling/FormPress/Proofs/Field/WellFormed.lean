import FormPress.Proofs.Field.Rendered

/-!
# Well-formed fields

All names in the markup of a field are plain, so a field is written as one well-formed element: no
label, option, rule, default or text of help can open or close a tag, or end an attribute.
-/

namespace FormPress

open Markup

/-! ## Names of attributes -/

/-- The names under which options are marked. -/
def markerNames : List String :=
  ["data-cond-field", "data-cond-op", "data-cond-val", "data-address"]

theorem isName_of_mem_markerNames : ∀ name ∈ markerNames, IsName name := by
  simp only [markerNames, List.forall_mem_cons, List.not_mem_nil, false_implies, implies_true,
    and_true]
  repeat' apply And.intro
  all_goals exact isName_ofList rfl

theorem Field.mem_markerNames {f : Field} {c : Choice} {e : String × String}
    (he : e ∈ f.choiceEntries c) : e.1 ∈ markerNames := by
  rw [Field.choiceEntries, List.mem_append] at he
  rcases he with he | he
  · split at he
    · simp only [ChoiceCondition.entries, List.mem_cons, List.not_mem_nil, or_false] at he
      rcases he with rfl | rfl | rfl <;> simp [markerNames]
    · simp at he
  · split at he
    · rw [List.mem_singleton] at he
      subst he
      simp [markerNames]
    · simp at he

namespace FieldView

variable {f : Field} {v : FieldView} {fields : List Field} {a : Attribute}

/-- The options of a view are those of its field. -/
theorem exists_choice (hv : f.view = .ok v) {c : ChoiceView} (hc : c ∈ v.choices) :
    ∃ d ∈ f.options, c = f.choiceView d := by
  rw [Field.choices_of_view hv, List.mem_map] at hc
  obtain ⟨d, hd, rfl⟩ := hc
  exact ⟨d, hd, rfl⟩

theorem Carries.isName (hv : f.view = .ok v) (h : v.Carries fields a) : IsName a.name := by
  cases h with
  | plain h _ => exact isName_of_mem_plainNames _ h
  | marker hc he =>
    obtain ⟨d, -, rfl⟩ := exists_choice hv hc
    exact isName_of_mem_markerNames _ (Field.mem_markerNames he)
  | source hl hs => exact isName_ofList rfl

theorem Identifies.isName (h : v.Identifies a) : IsName a.name := by
  cases h with
  | plain h _ => exact isName_of_mem_plainNames _ h
  | id => exact isName_ofList rfl
  | name => exact isName_ofList rfl
  | rules h => exact isName_ofList rfl

end FieldView

/-! ## One element -/

namespace Field

variable {o : RenderOptions} {fields : List Field} {f : Field} {m : Markup}

/-- The markup of a field is sound, with plain names only. -/
theorem sound_render (hraw : f.HoldsNoRaw o) (h : f.render o fields = .ok m) :
    m.Sound fun a => IsName a.name := by
  obtain ⟨v, hv, hroot⟩ := rooted_render hraw h
  refine hroot.sound.mono fun a ha => ?_
  rcases ha with ha | ha
  · exact ha.isName
  · exact ha.isName hv

/-- **A field is written as one well-formed element, whatever its texts.** -/
theorem isElement_render (hraw : f.HoldsNoRaw o) (h : f.render o fields = .ok m) :
    IsElement m.write.toList := by
  obtain ⟨v, hv, hroot⟩ := rooted_render hraw h
  exact isElement_write (sound_render hraw h) hroot.isElement

/-- A snippet whose content looks like markup. -/
def closingSnippet : Field :=
  { id := "s", kindName := "html-snippet", helpText := some "</div><script>'\"&" }

/-- Where markup of the author is not allowed, the content of a snippet is a text. -/
theorem isElement_closingSnippet :
    ∃ m, closingSnippet.render {} [closingSnippet] = .ok m ∧ IsElement m.write.toList := by
  have h : closingSnippet.render {} [closingSnippet] = .ok _ := rfl
  exact ⟨_, h, isElement_render (.inl rfl) h⟩

end Field

end FormPress
