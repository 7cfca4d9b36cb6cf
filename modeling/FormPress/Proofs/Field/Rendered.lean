import FormPress.Proofs.Field.Controls
import FormPress.Proofs.Markup.Grammar
import FormPress.Proofs.Result

/-!
# Rendered fields

The markup of a field is one element. Its root identifies the field, and all that stands inside is
sound. Markup of the author stands only in the snippet of a form that allows it.
-/

namespace FormPress

open Markup

/-! ## Roots -/

/-- A single element, with `R` at the attributes of its root and sound inside. -/
def Markup.Rooted (R P : Attribute → Prop) : Markup → Prop
  | .element name attributes children =>
    name ∈ elementNames ∧ (∀ a ∈ attributes, R a) ∧ ∀ m ∈ children, m.Sound P
  | .void name attributes => name ∈ voidNames ∧ ∀ a ∈ attributes, R a
  | _ => False

namespace Markup

variable {R P : Attribute → Prop}

theorem rooted_element {name : String} {attributes : List Attribute} {children : List Markup} :
    Rooted R P (.element name attributes children) ↔
      name ∈ elementNames ∧ (∀ a ∈ attributes, R a) ∧ ∀ m ∈ children, m.Sound P :=
  Iff.rfl

theorem rooted_void {name : String} {attributes : List Attribute} :
    Rooted R P (.void name attributes) ↔ name ∈ voidNames ∧ ∀ a ∈ attributes, R a :=
  Iff.rfl

theorem rooted_label {name : String} {attributes : List Attribute} {s : String} :
    Rooted R P (label name attributes s) ↔ name ∈ elementNames ∧ ∀ a ∈ attributes, R a := by
  simp [label, rooted_element]

theorem rooted_block {indent : Nat} {name : String} {attributes : List Attribute}
    {children : List Markup} :
    Rooted R P (block indent name attributes children) ↔
      name ∈ elementNames ∧ (∀ a ∈ attributes, R a) ∧ ∀ m ∈ children, m.Sound P := by
  simp [block, rooted_element, or_imp, forall_and]

theorem Rooted.sound {m : Markup} (h : m.Rooted R P) : m.Sound fun a => R a ∨ P a := by
  cases m with
  | element name attributes children =>
    obtain ⟨hname, hroot, hchildren⟩ := rooted_element.1 h
    rw [sound_element]
    exact ⟨hname, fun a ha => .inl (hroot a ha),
      fun m hm => (hchildren m hm).mono fun a ha => .inr ha⟩
  | void name attributes =>
    obtain ⟨hname, hroot⟩ := rooted_void.1 h
    rw [sound_void]
    exact ⟨hname, fun a ha => .inl (hroot a ha)⟩
  | _ => exact h.elim

/-- The tags behind the first are sound. -/
theorem Rooted.of_mem_inner {m : Markup} (h : m.Rooted R P) {root : Tag} {inner : List Tag}
    (htags : m.tags = root :: inner) : ∀ t ∈ inner, ∀ a ∈ t.attributes, P a := by
  intro t ht
  cases m with
  | element name attributes children =>
    obtain ⟨-, -, hchildren⟩ := rooted_element.1 h
    rw [tags_element] at htags
    obtain ⟨-, rfl⟩ := List.cons.inj htags
    obtain ⟨m, hm, ht⟩ := List.mem_flatMap.1 ht
    exact (hchildren m hm).of_mem_tags ht
  | void name attributes =>
    rw [tags_void] at htags
    obtain ⟨-, rfl⟩ := List.cons.inj htags
    contradiction
  | _ => exact h.elim

theorem Rooted.isElement {m : Markup} (h : m.Rooted R P) : m.isElement = true := by
  cases m with
  | element name attributes children => rfl
  | void name attributes => rfl
  | _ => exact h.elim

end Markup

/-! ## Groups -/

namespace FieldView

variable {v : FieldView} {fields : List Field} {base : String} {animate : Bool}

theorem identifies_attr {name value : String} (h : name ∈ plainNames)
    (hclass : name = "class" → value ≠ "submit-btn") : v.Identifies (attr name value) :=
  .plain h (attr_ne_submitClass hclass)

theorem identifies_rules {value : String} (h : given? (some v.field.rulesText) = some value) :
    v.Identifies (attr "data-conditions" value) := by
  simp only [given?, Option.filter_eq_some_iff, Option.some.injEq, bne_iff_ne] at h
  obtain ⟨rfl, hne⟩ := h
  exact .rules hne

/-- A group has classes of its own in front of those of the author. -/
theorem each_group (hbase : ¬base.toList <+: "submit-btn".toList) :
    Slots.Each v.Identifies (v.group base animate) := by
  have hclasses : Text.join " " (v.groupClasses base animate) ≠ "submit-btn" := by
    rw [groupClasses, List.cons_append, Text.join_cons]
    exact ne_submit_of_not_prefix hbase _
  unfold group
  simp only [Slots.each_cons, Slots.each_nil, and_true]
  refine ⟨?_, ?_, ?_, ?_, fun _ => identifies_rules, ?_, ?_, ?_, ?_⟩
  · rintro _ ⟨⟩
    exact identifies_attr (by simp) fun _ => hclasses
  · rintro _ ⟨⟩
    exact .id
  · rintro _ ⟨⟩
    exact .name
  · exact fun _ _ => identifies_attr (by simp) (by simp)
  · exact fun _ _ => identifies_attr (by simp) (by simp)
  · exact fun _ _ => identifies_attr (by simp) (by simp)
  · exact fun _ _ => identifies_attr (by simp) (by simp)
  · exact fun _ _ => identifies_attr (by simp) (by simp)

theorem identifies_of_mem_group (hbase : ¬base.toList <+: "submit-btn".toList) :
    ∀ a ∈ (v.group base animate).attributes, v.Identifies a :=
  Slots.Each.attributes (each_group hbase)

theorem sound_labelMarkup : v.labelMarkup.Sound (v.Carries fields) := by
  rw [labelMarkup, sound_element]
  refine ⟨by simp [elementNames], by simp [carries_attr],
    List.forall_mem_cons.2 ⟨sound_text _, ?_⟩⟩
  split
  · simp [elementNames, carries_attr]
  · simp

/-- The tags of a group: its root, its label, its control, its help. -/
theorem tags_grouped (v : FieldView) (animate : Bool) (control : Markup) :
    (v.grouped animate control).tags =
      ⟨"div", (v.group "form-group" animate).attributes⟩ ::
        (v.labelMarkup.tags ++ (control.tags ++ ((given? v.field.helpText).map
          (label "span" [attr "class" "help-text"])).toList.flatMap tags)) := by
  simp [grouped]

theorem rooted_grouped {control : Markup} (h : control.Sound (v.Carries fields)) :
    (v.grouped animate control).Rooted v.Identifies (v.Carries fields) := by
  rw [grouped, rooted_block]
  refine ⟨by simp [elementNames], identifies_of_mem_group (by decide), ?_⟩
  simp [sound_labelMarkup, h, elementNames, carries_attr]

/-! ## Fields that stand alone -/

theorem rooted_hiddenInput : v.hiddenInput.Rooted v.Identifies (v.Carries fields) := by
  rw [hiddenInput, inputOf, rooted_void]
  refine ⟨by simp [voidNames], Slots.Each.attributes ?_⟩
  simp only [Slots.each_cons, Slots.each_nil, and_true]
  refine ⟨?_, ?_, ?_, ?_, ?_, ?_, fun _ => identifies_rules⟩
  · exact fun _ _ => identifies_attr (by simp) (by simp)
  · exact fun _ _ => identifies_attr (by simp) (by simp)
  · exact fun _ _ => identifies_attr (by simp) (by simp)
  · exact fun _ _ => identifies_attr (by simp) (by simp)
  · rintro _ ⟨⟩
    exact .id
  · rintro _ ⟨⟩
    exact .name

theorem rooted_heading : (v.heading animate).Rooted v.Identifies (v.Carries fields) := by
  rw [heading, rooted_label]
  exact ⟨by simp [elementNames], identifies_of_mem_group (by decide)⟩

theorem rooted_paragraph : (v.paragraph animate).Rooted v.Identifies (v.Carries fields) := by
  rw [paragraph, rooted_label]
  exact ⟨by simp [elementNames], identifies_of_mem_group (by decide)⟩

theorem rooted_banner : (v.banner animate).Rooted v.Identifies (v.Carries fields) := by
  rw [banner, rooted_block]
  refine ⟨by simp [elementNames], identifies_of_mem_group (by decide), ?_⟩
  simp [bannerImage, elementNames, carries_attr, or_imp, forall_and]

theorem rooted_divider : (v.divider animate).Rooted v.Identifies (v.Carries fields) := by
  rw [divider, rooted_void]
  exact ⟨by simp [voidNames], identifies_of_mem_group (by decide)⟩

theorem rooted_htmlSnippet :
    (v.htmlSnippet false animate).Rooted v.Identifies (v.Carries fields) := by
  rw [htmlSnippet, rooted_element]
  exact ⟨by simp [elementNames], identifies_of_mem_group (by decide), by simp⟩

theorem rooted_spacer : (v.spacer animate).Rooted v.Identifies (v.Carries fields) := by
  rw [spacer, rooted_element]
  refine ⟨by simp [elementNames], ?_, by simp⟩
  apply Slots.Each.attributes (Slots.Each.override (each_group (by decide)) _)
  simp [identifies_attr]

theorem rooted_sectionBreak :
    (v.sectionBreak animate).Rooted v.Identifies (v.Carries fields) := by
  rw [sectionBreak, rooted_block]
  refine ⟨by simp [elementNames], identifies_of_mem_group (by decide), ?_⟩
  simp [elementNames, carries_attr]

theorem rooted_pageBreak : v.pageBreak.Rooted v.Identifies (v.Carries fields) := by
  rw [pageBreak, rooted_element]
  refine ⟨by simp [elementNames], ?_, by simp⟩
  simp only [List.forall_mem_cons, List.not_mem_nil, false_implies, implies_true, and_true]
  exact ⟨identifies_attr (by simp) (by simp), identifies_attr (by simp) (by simp), .id,
    .plain (by simp [bare]) (bare_ne_submitClass _)⟩

/-! ## Every kind -/

variable {o : RenderOptions} {kind : FieldKind} {m : Markup}

/-- The control of a kind that stands in a group. -/
theorem sound_controlOf (hkind : kind.standsAlone = false)
    (h : v.controlOf fields o kind = .ok m) : m.Sound (v.Carries fields) := by
  cases kind with
  | hidden | heading | paragraph | banner | divider | htmlSnippet | spacer | sectionBreak
  | pageBreak => contradiction
  | rating | starRating =>
    obtain ⟨count, -, rfl⟩ := map_eq_ok.1 h
    exact sound_starRow _ count
  | opinionScale =>
    rw [controlOf, opinionScale] at h
    obtain ⟨low, -, h⟩ := bind_eq_ok.1 h
    obtain ⟨high, -, h⟩ := bind_eq_ok.1 h
    split at h
    · contradiction
    · obtain rfl := Except.ok.inj h
      exact sound_scaleRow low high
  | image | video | pdfViewer => exact Except.ok.inj h ▸ sound_fileInput _
  | textarea => exact Except.ok.inj h ▸ sound_longText
  | address => exact Except.ok.inj h ▸ sound_address
  | tel => exact Except.ok.inj h ▸ sound_phone
  | currency => exact Except.ok.inj h ▸ sound_currency
  | dateRange => exact Except.ok.inj h ▸ sound_dateRange
  | lookup => exact Except.ok.inj h ▸ sound_lookup
  | formula => exact Except.ok.inj h ▸ sound_formula
  | select => exact Except.ok.inj h ▸ sound_dropDown
  | multiselect => exact Except.ok.inj h ▸ sound_multiList
  | radio | multipleChoice | checkboxes => exact Except.ok.inj h ▸ sound_optionGroup _
  | checkbox => exact Except.ok.inj h ▸ sound_checkbox
  | switch => exact Except.ok.inj h ▸ sound_switch
  | pictureChoice => exact Except.ok.inj h ▸ sound_pictureChoice
  | ranking => exact Except.ok.inj h ▸ sound_ranking
  | signature => exact Except.ok.inj h ▸ sound_signature
  | voiceRecording => exact Except.ok.inj h ▸ sound_voiceRecording
  | richText => exact Except.ok.inj h ▸ sound_richText
  | socialLinks => exact Except.ok.inj h ▸ sound_socialLinks
  | sectionCollapse => exact Except.ok.inj h ▸ sound_sectionCollapse
  | subform => exact Except.ok.inj h ▸ sound_subform
  | submissionPicker => exact Except.ok.inj h ▸ sound_submissionPicker
  | _ => exact Except.ok.inj h ▸ sound_nativeInput _

/-- The control of a kind that stands alone. -/
theorem rooted_controlOf (hkind : kind.standsAlone = true)
    (hraw : o.rawHtml = false ∨ kind ≠ .htmlSnippet)
    (h : v.controlOf fields o kind = .ok m) : m.Rooted v.Identifies (v.Carries fields) := by
  cases kind with
  | hidden => exact Except.ok.inj h ▸ rooted_hiddenInput
  | heading => exact Except.ok.inj h ▸ rooted_heading
  | paragraph => exact Except.ok.inj h ▸ rooted_paragraph
  | banner => exact Except.ok.inj h ▸ rooted_banner
  | divider => exact Except.ok.inj h ▸ rooted_divider
  | htmlSnippet =>
    obtain hraw | hkind := hraw
    · rw [controlOf, hraw] at h
      exact Except.ok.inj h ▸ rooted_htmlSnippet
    · contradiction
  | spacer => exact Except.ok.inj h ▸ rooted_spacer
  | sectionBreak => exact Except.ok.inj h ▸ rooted_sectionBreak
  | pageBreak => exact Except.ok.inj h ▸ rooted_pageBreak
  | _ => contradiction

end FieldView

/-! ## Fields -/

namespace Field

variable {o : RenderOptions} {fields : List Field} {f : Field} {v : FieldView} {m : Markup}

/-- The field holds no markup of the author: its form does not allow it, or it is no snippet. -/
def HoldsNoRaw (o : RenderOptions) (f : Field) : Prop :=
  o.rawHtml = false ∨ f.kind ≠ some .htmlSnippet

theorem field_of_view (h : f.view = .ok v) : v.field = f := by
  obtain ⟨span, -, rfl⟩ := map_eq_ok.1 h
  rfl

theorem choices_of_view (h : f.view = .ok v) : v.choices = f.options.map f.choiceView := by
  obtain ⟨span, -, rfl⟩ := map_eq_ok.1 h
  rfl

/-- The markup of a field of a known kind is its control, alone or in a group. -/
theorem exists_control {kind : FieldKind} (hv : f.view = .ok v) (hkind : f.kind = some kind)
    (h : f.render o fields = .ok m) :
    ∃ control, v.controlOf fields o kind = .ok control ∧
      (if kind.standsAlone then control else v.grouped o.animate control) = m := by
  obtain ⟨w, hw, h⟩ := bind_eq_ok.1 h
  obtain rfl := Except.ok.inj (hv.symm.trans hw)
  rw [hkind] at h
  obtain ⟨control, hcontrol, h⟩ := bind_eq_ok.1 h
  exact ⟨control, hcontrol, Except.ok.inj h⟩

theorem exists_control_grouped {kind : FieldKind} (hv : f.view = .ok v) (hkind : f.kind = some kind)
    (hgroup : kind.standsAlone = false) (h : f.render o fields = .ok m) :
    ∃ control, v.controlOf fields o kind = .ok control ∧ v.grouped o.animate control = m := by
  obtain ⟨control, hcontrol, hm⟩ := exists_control hv hkind h
  rw [hgroup, if_neg Bool.false_ne_true] at hm
  exact ⟨control, hcontrol, hm⟩

/-- The markup of a field is one element of the vocabulary. -/
theorem rooted_render (hraw : f.HoldsNoRaw o) (h : f.render o fields = .ok m) :
    ∃ v, f.view = .ok v ∧ m.Rooted v.Identifies (v.Carries fields) := by
  obtain ⟨v, hv, h⟩ := bind_eq_ok.1 h
  refine ⟨v, hv, ?_⟩
  split at h
  · obtain rfl := Except.ok.inj h
    exact FieldView.rooted_grouped (FieldView.sound_nativeInput _)
  · rename_i kind hkind
    obtain ⟨control, hcontrol, h⟩ := bind_eq_ok.1 h
    have hraw' : o.rawHtml = false ∨ kind ≠ .htmlSnippet :=
      hraw.imp_right fun hne heq => hne (by rw [hkind, heq])
    split at h
    · rename_i halone
      obtain rfl := Except.ok.inj h
      exact FieldView.rooted_controlOf halone hraw' hcontrol
    · rename_i halone
      obtain rfl := Except.ok.inj h
      exact FieldView.rooted_grouped
        (FieldView.sound_controlOf (by simpa using halone) hcontrol)

end Field

end FormPress
