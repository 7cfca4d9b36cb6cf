import FormPress.Proofs.Field.References

/-!
# Identity of fields

The root of a field's markup carries the id of the field, its name and its rules, whichever way the
kind of the field builds that root; nothing inside it does. The rules and the table of a lookup are
JSON texts in attributes, and reading the attributes and then the texts gives them back.
-/

namespace FormPress

open Markup

namespace FieldView

variable {v : FieldView} {fields : List Field} {f : Field} {a : Attribute}

/-! ## Names inside a field -/

theorem Carries.mem_names (hv : f.view = .ok v) (h : v.Carries fields a) :
    a.name ∈ "data-lookup-source" :: (markerNames ++ plainNames) := by
  cases h with
  | plain h _ => exact List.mem_cons_of_mem _ (List.mem_append_right _ h)
  | marker hc he =>
    obtain ⟨c, -, rfl⟩ := exists_choice hv hc
    exact List.mem_cons_of_mem _ (List.mem_append_left _ (Field.mem_markerNames he))
  | source hl hs => exact List.mem_cons_self

/-- The names under which a root identifies its field. -/
def identityNames : List String :=
  ["data-field-id", "data-field-name", "data-conditions"]

theorem Carries.notMem_identityNames (hv : f.view = .ok v) (h : v.Carries fields a) :
    a.name ∉ identityNames := by
  have hdisjoint : ∀ name ∈ "data-lookup-source" :: (markerNames ++ plainNames),
      name ∉ identityNames := by
    simp [identityNames, markerNames, plainNames]
  exact hdisjoint _ (h.mem_names hv)

/-! ## Roots -/

/-- What attributes say about the field: its id, its name, and its rules when it has any. -/
structure Identity (v : FieldView) (attributes : List Attribute) : Prop where
  id : valueOf? "data-field-id" attributes = some v.field.id
  name : valueOf? "data-field-name" attributes = some v.field.name
  rules : valueOf? "data-conditions" attributes = given? (some v.field.rulesText)

/-- The first tag of a piece of markup identifies the field. -/
def RootIdentifies (v : FieldView) (m : Markup) : Prop :=
  ∃ name attributes inner, m.tags = ⟨name, attributes⟩ :: inner ∧ v.Identity attributes

theorem identity_group (base : String) (animate : Bool) :
    v.Identity (v.group base animate).attributes where
  id := by simp [group, Slots.valueOf?_cons_of_ne]
  name := by simp [group, Slots.valueOf?_cons_of_ne]
  rules := by simp [group, Slots.valueOf?_cons_of_ne, Slots.valueOf?_cons_eq]

/-- Slots under other names do not change what attributes say about the field. -/
theorem Identity.override {slots entries : Slots} (h : v.Identity slots.attributes)
    (hentries : ∀ e ∈ entries, e.1 ∉ identityNames) :
    v.Identity (slots.override entries).attributes := by
  have hother {key : String} (hkey : key ∈ identityNames) : ∀ e ∈ entries, e.1 ≠ key :=
    fun e he heq => hentries e he (heq ▸ hkey)
  refine ⟨?_, ?_, ?_⟩
  · rw [Slots.valueOf?_override (hother (by simp [identityNames])), h.id]
  · rw [Slots.valueOf?_override (hother (by simp [identityNames])), h.name]
  · rw [Slots.valueOf?_override (hother (by simp [identityNames])), h.rules]

/-- A hidden input carries the identity of its field among its own attributes. -/
theorem rootIdentifies_hiddenInput : v.RootIdentifies v.hiddenInput := by
  refine ⟨_, _, _, tags_void _ _, ?_, ?_, ?_⟩
  · simp [Slots.valueOf?_cons_of_ne]
  · simp [Slots.valueOf?_cons_of_ne]
  · simp [Slots.valueOf?_cons_of_ne, Slots.valueOf?_cons_eq]

theorem rootIdentifies_grouped (animate : Bool) (control : Markup) :
    v.RootIdentifies (v.grouped animate control) :=
  ⟨_, _, _, tags_block .., identity_group _ _⟩

/-- The names of the attributes around the control of a group. -/
def aroundNames : List String :=
  ["class", "for", "data-field-id", "data-field-name", "data-field-type", "data-conditions",
   "data-required", "data-always-hidden", "hidden", "style"]

/-- In a group whose control is one tag, an attribute under another name is an attribute of this
tag. -/
theorem tags_grouped_of_single (v : FieldView) {key : String} (hkey : key ∉ aroundNames)
    (animate : Bool) {control : Markup} {t : Tag} (ht : control.tags = [t]) :
    ∃ root before after, (v.grouped animate control).tags = root :: (before ++ t :: after) ∧
      ∀ u ∈ root :: (before ++ after), valueOf? key u.attributes = none := by
  have hne {name : String} (hname : name ∈ aroundNames) : name ≠ key :=
    fun heq => hkey (heq ▸ hname)
  have hclass : "class" ≠ key := hne (by simp [aroundNames])
  have htags := v.tags_grouped animate control
  rw [ht, List.singleton_append] at htags
  refine ⟨_, _, _, htags, ?_⟩
  rw [List.forall_mem_cons, List.forall_mem_append]
  refine ⟨?_, ?_, ?_⟩
  · have hgroup : ∀ s ∈ v.group "form-group" animate, s.1 ∈ aroundNames := by
      simp [group, aroundNames]
    apply valueOf?_eq_none
    intro a ha
    obtain ⟨s, hs, value, -, rfl⟩ := Slots.exists_of_mem_attributes ha
    exact hne (hgroup s hs)
  · have hfor : "for" ≠ key := hne (by simp [aroundNames])
    unfold labelMarkup
    split
    · simp [valueOf?_attr_of_ne, hclass, hfor]
    · simp [valueOf?_attr_of_ne, hclass, hfor]
  · cases given? v.field.helpText with
    | none => simp
    | some text => simp [valueOf?_attr_of_ne, hclass]

/-- The input of a lookup shows its table. -/
theorem tags_lookup (v : FieldView) (fields : List Field) :
    ∃ name attributes, (v.lookup fields).tags = [⟨name, attributes⟩] ∧
      valueOf? "data-lookup-map" attributes =
        some ((lookupJson ((v.field.lookup.map (·.table)).getD [])).write Json.compact) := by
  refine ⟨_, _, tags_void _ _, ?_⟩
  exact Slots.valueOf?_override_self
    [("readonly", some ""), ("class", some "form-input lookup-field"),
     ("data-lookup-source", _)] (by simp)

variable {o : RenderOptions} {kind : FieldKind} {m : Markup}

/-- Every kind that stands alone puts the identity at its root, a page break apart. -/
theorem rootIdentifies_controlOf (hkind : kind.standsAlone = true) (hbreak : kind ≠ .pageBreak)
    (h : v.controlOf fields o kind = .ok m) : v.RootIdentifies m := by
  cases kind with
  | hidden => exact Except.ok.inj h ▸ rootIdentifies_hiddenInput
  | heading => exact Except.ok.inj h ▸ ⟨_, _, _, tags_label .., identity_group _ _⟩
  | paragraph => exact Except.ok.inj h ▸ ⟨_, _, _, tags_label .., identity_group _ _⟩
  | banner => exact Except.ok.inj h ▸ ⟨_, _, _, tags_block .., identity_group _ _⟩
  | divider => exact Except.ok.inj h ▸ ⟨_, _, _, tags_void .., identity_group _ _⟩
  | htmlSnippet => exact Except.ok.inj h ▸ ⟨_, _, _, tags_element .., identity_group _ _⟩
  | sectionBreak => exact Except.ok.inj h ▸ ⟨_, _, _, tags_block .., identity_group _ _⟩
  | spacer =>
    have hstyle : v.Identity ((v.group "form-spacer" o.animate).override
        [("style", some ("height: " ++ v.gapHeight))]).attributes :=
      (identity_group _ _).override (by simp [identityNames])
    exact Except.ok.inj h ▸ ⟨_, _, _, tags_element .., hstyle⟩
  | pageBreak => contradiction
  | _ => contradiction

end FieldView

namespace Field

variable {f : Field} {o : RenderOptions} {fields : List Field} {m : Markup}

theorem rootIdentifies_render {v : FieldView} (hv : f.view = .ok v)
    (hbreak : f.kind ≠ some .pageBreak) (h : f.render o fields = .ok m) : v.RootIdentifies m := by
  unfold render at h
  rw [hv] at h
  obtain ⟨w, hw, h⟩ := bind_eq_ok.1 h
  obtain rfl := Except.ok.inj hw
  split at h
  · obtain rfl := Except.ok.inj h
    exact FieldView.rootIdentifies_grouped _ _
  · rename_i kind hkind
    obtain ⟨control, hcontrol, h⟩ := bind_eq_ok.1 h
    split at h
    · rename_i halone
      obtain rfl := Except.ok.inj h
      have hne : kind ≠ .pageBreak := fun heq => hbreak (heq ▸ hkind)
      exact FieldView.rootIdentifies_controlOf halone hne hcontrol
    · obtain rfl := Except.ok.inj h
      exact FieldView.rootIdentifies_grouped _ _

/-! ## Rules and tables -/

/-- The text of the rules is empty only when there are none. -/
theorem rulesText_eq_empty_iff : f.rulesText = "" ↔ f.rules = [] := by
  unfold rulesText
  cases f.rules with
  | nil => simp
  | cons r rest => simp [Json.write, Json.chars]

/-- The table of a lookup is read back from the attribute that holds it. -/
theorem read_lookupJson (table : List (String × String)) :
    let text := (FieldView.lookupJson table).write Json.compact
    Json.read (.ofLength text.length) text = .ok (FieldView.lookupJson table) := by
  refine Json.read_write Json.plain_compact (Json.exact_object ?_)
  exact List.forall_mem_map.2 fun e _ => by simp [Json.Exact]

/-- The table of a field's lookup; a field without a lookup has an empty one. -/
def lookupTable (f : Field) : List (String × String) :=
  (f.lookup.map (·.table)).getD []

/-- In the markup of a lookup field one input, which is not the root, shows the table. -/
theorem lookupMap_render {v : FieldView} (hv : f.view = .ok v) (hkind : f.kind = some .lookup)
    (h : f.render o fields = .ok m) :
    ∃ root before input after, m.tags = root :: (before ++ input :: after) ∧
      valueOf? "data-lookup-map" input.attributes =
        some ((FieldView.lookupJson f.lookupTable).write Json.compact) ∧
      ∀ t ∈ root :: (before ++ after), valueOf? "data-lookup-map" t.attributes = none := by
  obtain rfl : v.field = f := field_of_view hv
  obtain ⟨control, hcontrol, hm⟩ := exists_control_grouped hv hkind rfl h
  obtain rfl := Except.ok.inj hcontrol
  obtain ⟨name, slots, hlookup, htable⟩ := FieldView.tags_lookup v fields
  have hkey : "data-lookup-map" ∉ FieldView.aroundNames := by simp [FieldView.aroundNames]
  obtain ⟨root, before, after, htags, hothers⟩ :=
    v.tags_grouped_of_single hkey o.animate hlookup
  exact ⟨root, before, _, after, hm ▸ htags, htable, hothers⟩

/-! ## The markup of a field -/

/-- **The identity of a field and its rules are read back from its markup.** The first tag is the
root; no tag inside identifies a field. -/
theorem identity_render (hbreak : f.kind ≠ some .pageBreak) (hraw : f.HoldsNoRaw o)
    (h : f.render o fields = .ok m) :
    ∃ root inner, readTags m.write = root :: inner ∧
      valueOf? "data-field-id" root.attributes = some f.id ∧
      valueOf? "data-field-name" root.attributes = some f.name ∧
      (∀ t ∈ inner, ∀ a ∈ t.attributes,
        a.name ≠ "data-field-id" ∧ a.name ≠ "data-field-name" ∧ a.name ≠ "data-conditions") ∧
      (f.rules = [] → valueOf? "data-conditions" root.attributes = none) ∧
      (f.rules ≠ [] → ∃ text, valueOf? "data-conditions" root.attributes = some text ∧
        Json.read (.ofLength text.length) text =
          .ok (.array (f.rules.map fun r => .object
            [("field", .string r.dependsOn), ("operator", .string r.operator.name),
             ("value", .string r.value), ("action", .string r.action.name),
             ("actionValue", (r.actionValue.map Json.string).getD .null)]))) ∧
      (f.kind = some .lookup →
        (∃ t ∈ inner, (valueOf? "data-lookup-map" t.attributes).isSome) ∧
        ∀ t ∈ root :: inner, ∀ text, valueOf? "data-lookup-map" t.attributes = some text →
          Json.read (.ofLength text.length) text =
            .ok (.object (f.lookupTable.map fun e => (e.1, .string e.2)))) := by
  obtain ⟨v, hv, hrooted⟩ := rooted_render hraw h
  obtain ⟨name, attributes, inner, htags, hidentity⟩ := rootIdentifies_render hv hbreak h
  obtain rfl : v.field = f := field_of_view hv
  have hread : readTags m.write = ⟨name, attributes⟩ :: inner := by
    rw [readTags_write (sound_render hraw h), htags]
  refine ⟨⟨name, attributes⟩, inner, hread, hidentity.id, hidentity.name, ?_, ?_, ?_, ?_⟩
  · intro t ht a ha
    have hname := (hrooted.of_mem_inner htags t ht a ha).notMem_identityNames hv
    simpa [FieldView.identityNames] using hname
  · intro hrules
    rw [hidentity.rules, rulesText_eq_empty_iff.2 hrules]
    rfl
  · intro hrules
    have htext : v.field.rulesText ≠ "" := fun hempty => hrules (rulesText_eq_empty_iff.1 hempty)
    refine ⟨v.field.rulesText, ?_, read_rulesText htext⟩
    rw [hidentity.rules, given?, Option.filter_some_pos (by simpa using htext)]
  · intro hkind
    obtain ⟨root, before, input, after, hsplit, hinput, hothers⟩ := lookupMap_render hv hkind h
    rw [htags] at hsplit
    obtain ⟨rfl, rfl⟩ := List.cons.inj hsplit
    refine ⟨⟨input, by simp, by simp [hinput]⟩, ?_⟩
    intro t ht text htext
    by_cases heq : t = input
    · rw [heq, hinput] at htext
      obtain rfl := Option.some.inj htext
      exact read_lookupJson _
    · have hother : t ∈ (⟨name, attributes⟩ :: (before ++ after) : List Tag) := by
        simpa [heq] using ht
      rw [hothers t hother] at htext
      contradiction

/-- A lookup field with a rule, whose texts need both escapes. -/
def quotedLookup : Field :=
  { id := "\"a\" & <b>", name := "n", kindName := "lookup"
    rules := [{ dependsOn := "c\\\"", value := "'\n'" }]
    lookup := some { sourceId := "c", table := [("k\"", "<\\>")] } }

theorem identity_quotedLookup :
    ∃ m, quotedLookup.render {} [quotedLookup] = .ok m ∧
      ∃ root inner, readTags m.write = root :: inner ∧
        valueOf? "data-field-id" root.attributes = some "\"a\" & <b>" ∧
        ∃ text, valueOf? "data-conditions" root.attributes = some text ∧
          Json.read (.ofLength text.length) text =
            .ok (.array [.object
              [("field", .string "c\\\""), ("operator", .string "equals"),
               ("value", .string "'\n'"), ("action", .string "show"),
               ("actionValue", .null)]]) := by
  have h : quotedLookup.render {} [quotedLookup] = .ok _ := rfl
  obtain ⟨root, inner, hread, hid, -, -, -, hrules, -⟩ :=
    identity_render (by decide) (.inl rfl) h
  exact ⟨_, h, root, inner, hread, hid, hrules (by decide)⟩

end Field

end FormPress
