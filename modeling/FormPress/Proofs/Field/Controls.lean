import FormPress.Proofs.Field.Attributes

/-!
# Controls of fields

Every control is built from the vocabulary of fields, and its attributes are what `Carries` allows.
There is one lemma for each control; a control that shows its options has one for an option too.
-/

namespace FormPress.FieldView

open Markup

variable {v : FieldView} {fields : List Field}

/-! ## Inputs -/

theorem sound_inputOf {slots : Slots} (h : Slots.Each (v.Carries fields) slots) :
    (inputOf slots).Sound (v.Carries fields) := by
  rw [inputOf, sound_void]
  exact ⟨by simp [voidNames], h.attributes⟩

/-- An input with some slots of its own under plain names. -/
theorem sound_inputOf_control {type : Option String} {entries : Slots}
    (h : ∀ e ∈ entries, PlainSlot e) :
    (inputOf ((v.control type).override entries)).Sound (v.Carries fields) :=
  sound_inputOf ((each_control type).override (each_plain h))

theorem sound_nativeInput (type : String) : (v.nativeInput type).Sound (v.Carries fields) :=
  sound_inputOf (each_control _)

theorem sound_fileInput (accept : String) : (v.fileInput accept).Sound (v.Carries fields) :=
  sound_inputOf_control (by simp)

theorem sound_textArea {rows : String} {changes : Slots}
    (h : ∀ e ∈ changes, PlainSlot e) :
    (v.textArea rows changes).Sound (v.Carries fields) := by
  rw [textArea, sound_label]
  refine ⟨by simp [elementNames], Slots.Each.attributes ?_⟩
  exact ((each_control none).override (each_plain (by simp))).override (each_plain h)

theorem sound_longText : v.longText.Sound (v.Carries fields) :=
  sound_textArea (by simp)

theorem sound_address : v.address.Sound (v.Carries fields) :=
  sound_textArea (by simp)

theorem sound_countryOption (entry : String × String) :
    (countryOption entry).Sound (v.Carries fields) := by
  simp [countryOption, carries_attr, carries_bare, elementNames]

theorem sound_phone : v.phone.Sound (v.Carries fields) := by
  rw [phone, sound_block]
  refine ⟨by simp [elementNames], by simp [carries_attr], ?_⟩
  simp only [List.forall_mem_cons, sound_block, sound_void]
  refine ⟨⟨by simp [elementNames], by simp [carries_attr, carries_bare], ?_⟩,
    sound_inputOf_control (by simp), by simp [voidNames, carries_attr], by simp⟩
  exact List.forall_mem_map.2 fun entry _ => sound_countryOption entry

theorem sound_currency : v.currency.Sound (v.Carries fields) := by
  simp [currency, elementNames, carries_attr, sound_inputOf_control]

theorem sound_rangeDate (part title : String) :
    (v.rangeDate part title).Sound (v.Carries fields) := by
  simp [rangeDate, voidNames, carries_attr, carries_bare, or_imp, forall_and]

theorem sound_dateRange : v.dateRange.Sound (v.Carries fields) := by
  simp [dateRange, elementNames, entityNames, carries_attr, sound_rangeDate]

/-- A lookup names the source that it resolves to. -/
theorem sound_lookup : (v.lookup fields).Sound (v.Carries fields) := by
  unfold lookup
  refine sound_inputOf ((each_control _).override ?_)
  simp only [Slots.each_cons, Slots.each_nil, and_true]
  refine ⟨fun _ _ => carries_attr (by simp) (by simp), ?_, ?_,
    fun _ _ => carries_attr (by simp) (by simp)⟩
  · rintro _ ⟨⟩
    exact carries_attr (by simp) (by simp)
  · intro source hsource
    cases hl : v.field.lookup with
    | none => simp [hl, given?] at hsource
    | some l =>
      simp only [hl, Option.map_some, Option.getD_some, given?, Option.filter_eq_some_iff,
        Option.some.injEq, bne_iff_ne] at hsource
      obtain ⟨rfl, hne⟩ := hsource
      exact .source hl hne

theorem sound_formula : (v.formula fields).Sound (v.Carries fields) :=
  sound_inputOf_control (by simp)

/-! ## Options -/

theorem sound_listOption {c : ChoiceView} (hc : c ∈ v.choices) :
    (listOption c).Sound (v.Carries fields) := by
  rw [listOption, sound_label, List.cons_append, List.forall_mem_cons, List.forall_mem_append]
  exact ⟨by simp [elementNames], carries_attr (by simp) (by simp), carries_choice hc,
    by simp [carries_bare]⟩

theorem sound_promptOption : v.promptOption.Sound (v.Carries fields) := by
  simp [promptOption, elementNames, carries_attr, carries_bare]

theorem sound_dropDown : v.dropDown.Sound (v.Carries fields) := by
  rw [dropDown, sound_block, List.forall_mem_cons]
  exact ⟨by simp [elementNames], each_choice.attributes, sound_promptOption,
    List.forall_mem_map.2 fun _ hc => sound_listOption hc⟩

theorem sound_multiList : v.multiList.Sound (v.Carries fields) := by
  rw [multiList, sound_block]
  exact ⟨by simp [elementNames], (each_choice.override (each_plain (by simp))).attributes,
    List.forall_mem_map.2 fun _ hc => sound_listOption hc⟩

theorem sound_groupOption (type : String) {c : ChoiceView} (hc : c ∈ v.choices) :
    (v.groupOption type c).Sound (v.Carries fields) := by
  have hclass : type ++ "-option" ≠ "submit-btn" := append_ne_submit type (by decide)
  rw [groupOption, sound_block, List.forall_mem_cons]
  refine ⟨by simp [elementNames], ⟨carries_attr (by simp) fun _ => hclass, carries_choice hc⟩, ?_⟩
  simp [elementNames, voidNames, carries_attr, carries_bare, or_imp, forall_and]

theorem sound_optionGroup (type : String) : (v.optionGroup type).Sound (v.Carries fields) := by
  have hclass : type ++ "-group" ≠ "submit-btn" := append_ne_submit type (by decide)
  rw [optionGroup, sound_block]
  exact ⟨by simp [elementNames], by simp [carries_attr, hclass],
    List.forall_mem_map.2 fun _ hc => sound_groupOption type hc⟩

theorem sound_boxOf {css : String} (h : css ≠ "submit-btn") :
    (v.boxOf css).Sound (v.Carries fields) :=
  sound_inputOf (each_choice.override (each_plain (by simp [h])))

theorem sound_singleCheckbox : v.singleCheckbox.Sound (v.Carries fields) := by
  simp [singleCheckbox, elementNames, carries_attr, sound_boxOf]

theorem sound_checkbox : v.checkbox.Sound (v.Carries fields) := by
  unfold checkbox
  split
  · exact sound_singleCheckbox
  · exact sound_optionGroup _

theorem sound_switch : v.switch.Sound (v.Carries fields) := by
  simp [switch, elementNames, carries_attr, sound_boxOf]

theorem sound_pictureOption {c : ChoiceView} (hc : c ∈ v.choices) :
    (v.pictureOption c).Sound (v.Carries fields) := by
  rw [pictureOption, sound_block, List.forall_mem_cons]
  refine ⟨by simp [elementNames], ⟨carries_attr (by simp) (by simp), carries_choice hc⟩, ?_⟩
  simp [voidNames, carries_attr, carries_bare, or_imp, forall_and]

theorem sound_pictureChoice : v.pictureChoice.Sound (v.Carries fields) := by
  rw [pictureChoice, sound_block]
  exact ⟨by simp [elementNames], by simp [carries_attr],
    List.forall_mem_map.2 fun _ hc => sound_pictureOption hc⟩

theorem sound_moveButton (direction title : String) {arrow : String} (h : arrow ∈ entityNames) :
    (moveButton direction title arrow).Sound (v.Carries fields) := by
  simp [moveButton, elementNames, carries_attr, h]

theorem sound_rankingItem (c : ChoiceView) : (rankingItem c).Sound (v.Carries fields) := by
  have up : (moveButton "up" "Move up" "uarr").Sound (v.Carries fields) :=
    sound_moveButton _ _ (by simp [entityNames])
  have down : (moveButton "down" "Move down" "darr").Sound (v.Carries fields) :=
    sound_moveButton _ _ (by simp [entityNames])
  simp [rankingItem, elementNames, carries_attr, up, down]

theorem sound_ranking : v.ranking.Sound (v.Carries fields) := by
  rw [ranking, sound_block]
  refine ⟨by simp [elementNames], by simp [carries_attr], ?_⟩
  simp only [List.forall_mem_cons, sound_block, sound_void]
  exact ⟨⟨by simp [elementNames], by simp [carries_attr],
    List.forall_mem_map.2 fun c _ => sound_rankingItem c⟩,
    by simp [voidNames, carries_attr], by simp⟩

/-! ## Scales -/

theorem sound_star {css : String} (h : css ≠ "submit-btn") (value : Int) :
    ∀ m ∈ v.star css value, m.Sound (v.Carries fields) := by
  simp [star, elementNames, voidNames, entityNames, carries_attr, carries_bare, or_imp, forall_and,
    h]

theorem sound_starRow (base : String) (count : Int) :
    (v.starRow base count).Sound (v.Carries fields) := by
  have hrow : base ++ "-group star-scale" ≠ "submit-btn" := append_ne_submit base (by decide)
  have hstar : base ++ "-star" ≠ "submit-btn" := append_ne_submit base (by decide)
  rw [starRow, sound_block]
  refine ⟨by simp [elementNames], by simp [carries_attr, hrow], fun m hm => ?_⟩
  obtain ⟨value, -, hm⟩ := List.mem_flatMap.1 hm
  exact sound_star hstar value m hm

theorem sound_scaleOption (value : Int) : (v.scaleOption value).Sound (v.Carries fields) := by
  simp [scaleOption, elementNames, voidNames, carries_attr, carries_bare, or_imp, forall_and]

theorem sound_scaleEnds (low high : Int) : (scaleEnds low high).Sound (v.Carries fields) := by
  simp [scaleEnds, elementNames, carries_attr]

theorem sound_scaleRow (low high : Int) : (v.scaleRow low high).Sound (v.Carries fields) := by
  rw [scaleRow, sound_block, List.forall_mem_append]
  refine ⟨by simp [elementNames], by simp [carries_attr], ?_, ?_⟩
  · split
    · simp [sound_scaleEnds]
    · simp
  · rw [List.forall_mem_singleton, sound_block]
    exact ⟨by simp [elementNames], by simp [carries_attr],
      List.forall_mem_map.2 fun value _ => sound_scaleOption value⟩

/-! ## Widgets -/

theorem sound_button {css title : String} {attributes : List Attribute} (hcss : css ≠ "submit-btn")
    (h : ∀ a ∈ attributes, v.Carries fields a) :
    (button css attributes title).Sound (v.Carries fields) := by
  rw [button, sound_label, List.forall_mem_cons, List.forall_mem_cons]
  exact ⟨by simp [elementNames], carries_attr (by simp) (by simp),
    carries_attr (by simp) fun _ => hcss, h⟩

theorem sound_widgetInput {attributes : List Attribute}
    (h : ∀ a ∈ attributes, v.Carries fields a) :
    (v.widgetInput attributes).Sound (v.Carries fields) := by
  rw [widgetInput, sound_void, List.forall_mem_append, List.forall_mem_append]
  refine ⟨by simp [voidNames], ⟨by simp [carries_attr], h⟩, ?_⟩
  split
  · simp [carries_attr]
  · simp

theorem sound_signature : v.signature.Sound (v.Carries fields) := by
  simp [signature, elementNames, carries_attr, sound_button, sound_widgetInput]

theorem sound_voiceRecording : v.voiceRecording.Sound (v.Carries fields) := by
  simp [voiceRecording, elementNames, carries_attr, carries_bare, sound_button, sound_widgetInput]

theorem sound_richText : v.richText.Sound (v.Carries fields) := by
  simp [richText, editorCommands, elementNames, carries_attr, sound_button, sound_widgetInput]

theorem sound_socialLinks : v.socialLinks.Sound (v.Carries fields) := by
  rw [socialLinks, sound_block]
  refine ⟨by simp [elementNames], by simp [carries_attr], List.forall_mem_map.2 fun n _ => ?_⟩
  simp [voidNames, carries_attr]

theorem sound_sectionCollapse : v.sectionCollapse.Sound (v.Carries fields) := by
  simp [sectionCollapse, elementNames, carries_attr, carries_bare, sound_button]

theorem sound_subform : subform.Sound (v.Carries fields) := by
  simp [subform, elementNames, carries_attr]

theorem sound_submissionPicker : v.submissionPicker.Sound (v.Carries fields) := by
  rw [submissionPicker, sound_block]
  refine ⟨by simp [elementNames], each_choice.attributes, ?_⟩
  simp [elementNames, carries_attr, carries_bare]

end FormPress.FieldView
