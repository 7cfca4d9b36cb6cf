import FormPress.Proofs.Field.WellFormed
import FormPress.Proofs.Form.Checked
import FormPress.Proofs.Json.RoundTrip
import FormPress.Proofs.Markup.Reader

/-!
# References in the markup of fields

The markup of a field refers to other fields by the rules at its root, by the markers of its options
and by the source of a lookup. In a form without dangling references each of them resolves, so a
form that passes a strict check shows none that does not.
-/

namespace FormPress

open Markup

/-! ## Attributes that refer to fields -/

/-- A reference that resolves to a field of the list. -/
def Resolves (fields : List Field) (reference : String) : Prop :=
  ∃ f ∈ fields, resolve? fields reference = some f

/-- A text that holds rules, each of which names a field of the list. -/
def RulesResolve (fields : List Field) (text : String) : Prop :=
  ∃ rules, Json.read (.ofLength text.length) text = .ok (.array rules) ∧
    ∀ r ∈ rules, ∃ reference,
      r.member? "field" = some (.string reference) ∧ Resolves fields reference

/-- Every reference that an attribute holds resolves. -/
structure Attribute.RefersWithin (fields : List Field) (a : Attribute) : Prop where
  marker : a.name = "data-cond-field" → ∃ reference, a.value = some reference ∧
    Resolves fields reference
  source : a.name = "data-lookup-source" → ∃ reference, a.value = some reference ∧
    Resolves fields reference
  rules : a.name = "data-conditions" → ∃ text, a.value = some text ∧ RulesResolve fields text

variable {fields : List Field} {f : Field} {reference : String}

theorem resolves_of_isSome (h : (resolve? fields reference).isSome = true) :
    Resolves fields reference := by
  obtain ⟨f, hf⟩ := Option.isSome_iff_exists.1 h
  exact ⟨f, mem_of_resolve? hf, hf⟩

/-- The id of a declared field resolves, if it is not empty. -/
theorem resolves_id (hf : f ∈ fields) (hid : f.id ≠ "") : Resolves fields f.id := by
  obtain ⟨g, hg, -⟩ := exists_resolve?_id hf hid
  exact ⟨g, mem_of_resolve? hg, hg⟩

theorem refersWithin_of_name {a : Attribute}
    (h : a.name ≠ "data-cond-field" ∧ a.name ≠ "data-lookup-source" ∧
      a.name ≠ "data-conditions") : a.RefersWithin fields where
  marker := fun hname => absurd hname h.1
  source := fun hname => absurd hname h.2.1
  rules := fun hname => absurd hname h.2.2

theorem refersWithin_of_plain {a : Attribute} (h : a.name ∈ plainNames) :
    a.RefersWithin fields := by
  refine refersWithin_of_name ⟨?_, ?_, ?_⟩
  · rintro hname
    simp [hname] at h
  · rintro hname
    simp [hname] at h
  · rintro hname
    simp [hname] at h

/-! ## References of a checked form -/

/-- Where nothing dangles, every reference of every field resolves. -/
theorem resolves_of_mem_references (hclean : danglingReferences fields = []) (hf : f ∈ fields)
    {r : Reference} (hr : r ∈ f.references) : Resolves fields r.target := by
  apply resolves_of_isSome
  have hnone := List.flatMap_eq_nil_iff.1 hclean f hf
  rw [List.filter_eq_nil_iff] at hnone
  simpa [Option.isSome_iff_ne_none] using hnone r hr

/-- What the check takes for the references of the options, the markup shows. -/
theorem mem_choiceReferences {c : Choice} {condition : ChoiceCondition} (hc : c ∈ f.options)
    (h : f.choiceCondition? c = some condition) :
    ∃ r ∈ f.choiceReferences, r.target = condition.fieldId := by
  unfold Field.choiceCondition? at h
  split at h
  · rename_i d hd
    have hfield : condition.fieldId = d.sourceId := by
      unfold ChoiceCondition.ofSources? at h
      split at h
      · contradiction
      · obtain rfl := Option.some.inj h
        rfl
      · obtain rfl := Option.some.inj h
        rfl
    rw [Field.choiceReferences, hd, hfield]
    exact ⟨_, List.mem_singleton_self _, rfl⟩
  · rename_i hnone
    rw [Field.choiceReferences, hnone]
    split at h
    · rename_i r hr
      obtain rfl := Option.some.inj h
      exact ⟨⟨f.id, r.fieldId, .option c.value⟩,
        List.mem_filterMap.2 ⟨c, hc, by rw [hr, Option.map_some]⟩, rfl⟩
    · contradiction

theorem resolves_choice (hclean : danglingReferences fields = []) (hf : f ∈ fields) {c : Choice}
    {condition : ChoiceCondition} (hc : c ∈ f.options)
    (h : f.choiceCondition? c = some condition) : Resolves fields condition.fieldId := by
  obtain ⟨r, hr, htarget⟩ := mem_choiceReferences hc h
  rw [← htarget]
  refine resolves_of_mem_references hclean hf ?_
  simp [Field.references, hr]

theorem resolves_rule (hclean : danglingReferences fields = []) (hf : f ∈ fields) {r : Rule}
    (hr : r ∈ f.rules) : Resolves fields r.dependsOn := by
  have hmem : (⟨f.id, r.dependsOn, .rule⟩ : Reference) ∈ f.references := by
    rw [Field.references, List.mem_append]
    exact .inl (List.mem_map.2 ⟨r, hr, rfl⟩)
  exact resolves_of_mem_references hclean hf hmem

/-- The source of a lookup is written as the id of the field that it resolves to, and this id
resolves again. -/
theorem resolves_lookupSource (hclean : danglingReferences fields = []) (hf : f ∈ fields)
    {l : Lookup} (hl : f.lookup = some l) (hs : FieldView.lookupSource l fields ≠ "") :
    Resolves fields (FieldView.lookupSource l fields) := by
  unfold FieldView.lookupSource at hs ⊢
  split at hs
  · rename_i g hg
    exact resolves_id (mem_of_resolve? hg) hs
  · have hmem : (⟨f.id, l.sourceId, .lookup⟩ : Reference) ∈ f.references := by
      simp [Field.references, Field.lookupReferences, hl, Option.filter, hs]
    exact resolves_of_mem_references hclean hf hmem

/-! ## Rules as a text -/

theorem exact_json (r : Rule) : Json.Exact r.json := by
  cases hvalue : r.actionValue with
  | none => simp [Rule.json, hvalue, Json.Exact, Json.ExactMembers]
  | some value => simp [Rule.json, hvalue, Json.Exact, Json.ExactMembers]

/-- The rules of a field are read back from their text. -/
theorem read_rulesText (h : f.rulesText ≠ "") :
    Json.read (.ofLength f.rulesText.length) f.rulesText =
      .ok (.array (f.rules.map Rule.json)) := by
  unfold Field.rulesText at h ⊢
  split at h
  · contradiction
  · rename_i hrules
    rw [if_neg hrules]
    exact Json.read_write Json.plain_compact
      (Json.exact_array (List.forall_mem_map.2 fun r _ => exact_json r))

theorem rulesResolve_rulesText (hclean : danglingReferences fields = []) (hf : f ∈ fields)
    (h : f.rulesText ≠ "") : RulesResolve fields f.rulesText := by
  refine ⟨_, read_rulesText h, List.forall_mem_map.2 fun r hr => ⟨r.dependsOn, ?_, ?_⟩⟩
  · simp [Rule.json, Json.member?, Table.lookup]
  · exact resolves_rule hclean hf hr

/-! ## The markup of a field -/

variable {v : FieldView} {a : Attribute}

theorem refersWithin_of_identifies (hclean : danglingReferences fields = []) (hf : f ∈ fields)
    (hv : f.view = .ok v) (h : v.Identifies a) : a.RefersWithin fields := by
  cases h with
  | plain h _ => exact refersWithin_of_plain h
  | id => exact refersWithin_of_name (by simp [attr])
  | name => exact refersWithin_of_name (by simp [attr])
  | rules h =>
    rw [Field.field_of_view hv] at h ⊢
    exact
      { marker := fun hname => absurd hname (by simp [attr])
        source := fun hname => absurd hname (by simp [attr])
        rules := fun _ => ⟨_, rfl, rulesResolve_rulesText hclean hf h⟩ }

theorem refersWithin_of_entry (hclean : danglingReferences fields = []) (hf : f ∈ fields)
    {c : Choice} (hc : c ∈ f.options) {e : String × String} (he : e ∈ f.choiceEntries c) :
    (attr e.1 e.2).RefersWithin fields := by
  rw [Field.choiceEntries, List.mem_append] at he
  rcases he with he | he
  · split at he
    · rename_i condition hcondition
      simp only [ChoiceCondition.entries, List.mem_cons, List.not_mem_nil, or_false] at he
      rcases he with rfl | rfl | rfl
      · exact
          { marker := fun _ => ⟨_, rfl, resolves_choice hclean hf hc hcondition⟩
            source := fun hname => absurd hname (by simp [attr])
            rules := fun hname => absurd hname (by simp [attr]) }
      · exact refersWithin_of_name (by simp [attr])
      · exact refersWithin_of_name (by simp [attr])
    · simp at he
  · split at he
    · rw [List.mem_singleton] at he
      subst he
      exact refersWithin_of_name (by simp [attr])
    · simp at he

theorem refersWithin_of_carries (hclean : danglingReferences fields = []) (hf : f ∈ fields)
    (hv : f.view = .ok v) (h : v.Carries fields a) : a.RefersWithin fields := by
  cases h with
  | plain h _ => exact refersWithin_of_plain h
  | marker hc he =>
    obtain ⟨d, hd, rfl⟩ := FieldView.exists_choice hv hc
    exact refersWithin_of_entry hclean hf hd he
  | source hl hs =>
    rw [Field.field_of_view hv] at hl
    exact
      { marker := fun hname => absurd hname (by simp [attr])
        source := fun _ => ⟨_, rfl, resolves_lookupSource hclean hf hl hs⟩
        rules := fun hname => absurd hname (by simp [attr]) }

namespace Field

variable {o : RenderOptions} {m : Markup}

/-- Around markup of the author there is only the root of the field. -/
theorem tags_render_of_raw (hraw : ¬f.HoldsNoRaw o) (h : f.render o fields = .ok m) :
    ∃ v, f.view = .ok v ∧ m.tags = [⟨"div", (v.group "html-snippet" o.animate).attributes⟩] := by
  obtain ⟨hraw, hkind⟩ : o.rawHtml = true ∧ f.kind = some .htmlSnippet := by
    simpa [HoldsNoRaw] using hraw
  obtain ⟨v, hv, h⟩ := bind_eq_ok.1 h
  rw [hkind] at h
  obtain ⟨control, hcontrol, h⟩ := bind_eq_ok.1 h
  obtain rfl := Except.ok.inj hcontrol
  obtain rfl := Except.ok.inj h
  refine ⟨v, hv, ?_⟩
  simp [FieldView.htmlSnippet, hraw, FieldKind.standsAlone, FieldKind.isNotice,
    FieldKind.isLayoutMark]

/-- **In a form without dangling references every reference in the markup of a field resolves:**
every marker of an option, every source of a lookup and every rule. The tags of the tree are those
that a reader finds in the written text, unless it holds markup of the author. -/
theorem refersWithin_render {form : Form} (hclean : danglingReferences form.fields = [])
    (hf : f ∈ form.fields) (h : f.render o form.fields = .ok m) :
    (f.HoldsNoRaw o → readTags m.write = m.tags) ∧
      ∀ t ∈ m.tags, ∀ a ∈ t.attributes, a.RefersWithin form.fields := by
  refine ⟨fun hraw => readTags_write (sound_render hraw h), fun t ht a ha => ?_⟩
  by_cases hraw : f.HoldsNoRaw o
  · obtain ⟨v, hv, hroot⟩ := rooted_render hraw h
    rcases hroot.sound.of_mem_tags ht a ha with ha | ha
    · exact refersWithin_of_identifies hclean hf hv ha
    · exact refersWithin_of_carries hclean hf hv ha
  · obtain ⟨v, hv, htags⟩ := tags_render_of_raw hraw h
    rw [htags, List.mem_singleton] at ht
    subst ht
    exact refersWithin_of_identifies hclean hf hv
      (FieldView.identifies_of_mem_group (by decide) a ha)

/-- A form whose second field refers to its first by an option, by a rule and by name. -/
def referringForm : Form :=
  { fields :=
      [{ id := "a", name := "first" },
       { id := "b", kindName := "select",
         options := [{ label := "B", value := "b", rule := some { fieldId := "a" } }],
         rules := [{ dependsOn := "first", value := "<&>" }] }] }

theorem refersWithin_referringForm :
    ∃ f ∈ referringForm.fields, ∃ m, f.render {} referringForm.fields = .ok m ∧
      ((f.HoldsNoRaw {} → readTags m.write = m.tags) ∧
        ∀ t ∈ m.tags, ∀ a ∈ t.attributes, a.RefersWithin referringForm.fields) := by
  have hclean : danglingReferences referringForm.fields = [] := by decide
  have hf : referringForm.fields[1] ∈ referringForm.fields := List.getElem_mem _
  have h : referringForm.fields[1].render {} referringForm.fields = .ok _ := rfl
  exact ⟨_, hf, _, h, refersWithin_render hclean hf h⟩

/-- A form whose only field is markup of its author, which looks like a marked option. -/
def markedSnippet : Form :=
  { fields :=
      [{ id := "s", kindName := "html-snippet",
         helpText := some "<i data-cond-field=\"ghost\"></i>" }] }

/-- The check does not look into markup of the author, and where it is allowed it is written as it
stands. -/
theorem not_refersWithin_markedSnippet :
    danglingReferences markedSnippet.fields = [] ∧
      ∃ f ∈ markedSnippet.fields, ∃ m,
        f.render { rawHtml := true } markedSnippet.fields = .ok m ∧
          ∃ t ∈ readTags m.write, ∃ a ∈ t.attributes, ¬a.RefersWithin markedSnippet.fields := by
  refine ⟨by decide, markedSnippet.fields[0], List.getElem_mem _, _, rfl,
    ⟨"i", [attr "data-cond-field" "ghost"]⟩, ?_, attr "data-cond-field" "ghost",
    List.mem_singleton_self _, ?_⟩
  · decide +kernel
  · intro h
    obtain ⟨reference, hvalue, g, -, hg⟩ := h.marker rfl
    obtain rfl := Option.some.inj hvalue
    have hnone : resolve? markedSnippet.fields "ghost" = none := by decide
    rw [hnone] at hg
    contradiction

end Field

end FormPress
