import FormPress.Proofs.Field.Rendered

/-!
# Wire names

The names under which the inputs, lists and text areas in the markup of a field send their values,
read off its tags. There is one lemma for each control; a control that repeats an input sends under
one name as often as it has options or values.
-/

namespace FormPress

open Markup

/-- The tags whose element sends a value. -/
def senderNames : List String :=
  ["input", "select", "textarea"]

/-- The wire name of the element that a tag begins. -/
def Tag.wireName? (t : Tag) : Option String :=
  if t.name ∈ senderNames then valueOf? "name" t.attributes else none

/-- The wire names of tags. -/
def wireNames (ts : List Tag) : List String :=
  ts.filterMap Tag.wireName?

@[simp] theorem wireNames_nil : wireNames [] = [] := rfl

@[simp] theorem wireNames_append (ts us : List Tag) :
    wireNames (ts ++ us) = wireNames ts ++ wireNames us :=
  List.filterMap_append

theorem wireNames_cons (name : String) (attributes : List Attribute) (rest : List Tag) :
    wireNames (⟨name, attributes⟩ :: rest) =
      (if name ∈ senderNames then (valueOf? "name" attributes).toList else []) ++
        wireNames rest := by
  by_cases h : name ∈ senderNames
  · cases hs : valueOf? "name" attributes with
    | none => simp [wireNames, Tag.wireName?, h, hs]
    | some s => simp [wireNames, Tag.wireName?, h, hs]
  · simp [wireNames, Tag.wireName?, h]

theorem wireNames_flatMap {α : Type} (xs : List α) (g : α → List Tag) :
    wireNames (xs.flatMap g) = xs.flatMap fun x => wireNames (g x) := by
  induction xs with
  | nil => rfl
  | cons x rest ih => simp [ih]

/-- Pieces without senders. -/
theorem wireNames_flatMap_eq_nil {α : Type} {xs : List α} {g : α → List Tag}
    (h : ∀ x ∈ xs, wireNames (g x) = []) : wireNames (xs.flatMap g) = [] := by
  rw [wireNames_flatMap]
  exact List.flatMap_eq_nil_iff.2 h

/-- Pieces that all send under one name. -/
theorem wireNames_flatMap_eq_replicate {α : Type} {xs : List α} {g : α → List Tag} {s : String}
    (h : ∀ x ∈ xs, wireNames (g x) = [s]) :
    wireNames (xs.flatMap g) = List.replicate xs.length s := by
  rw [wireNames_flatMap]
  induction xs with
  | nil => rfl
  | cons x rest ih =>
    rw [List.flatMap_cons, h x (by simp), ih fun y hy => h y (List.mem_cons_of_mem _ hy)]
    rfl

namespace FieldView

variable {v : FieldView}

/-! ## Inputs -/

theorem valueOf?_control (type : Option String) :
    valueOf? "name" (v.control type).attributes = some v.field.name := by
  unfold control
  rw [Slots.valueOf?_cons_of_ne _ _ (by decide), Slots.valueOf?_cons_of_ne _ _ (by decide),
    Slots.valueOf?_cons_self]

theorem valueOf?_control_override {type : Option String} {entries : Slots}
    (h : ∀ e ∈ entries, e.1 ≠ "name") :
    valueOf? "name" ((v.control type).override entries).attributes = some v.field.name := by
  rw [Slots.valueOf?_override h, valueOf?_control]

theorem valueOf?_choice : valueOf? "name" v.choice.attributes = some v.field.name :=
  valueOf?_control_override (by simp)

theorem valueOf?_choice_override {entries : Slots} (h : ∀ e ∈ entries, e.1 ≠ "name") :
    valueOf? "name" (v.choice.override entries).attributes = some v.field.name := by
  rw [Slots.valueOf?_override h, valueOf?_choice]

theorem wireNames_inputOf (slots : Slots) :
    wireNames (inputOf slots).tags = (valueOf? "name" slots.attributes).toList := by
  simp [inputOf, wireNames_cons, senderNames]

theorem wireNames_nativeInput (type : String) :
    wireNames (v.nativeInput type).tags = [v.field.name] := by
  simp [nativeInput, wireNames_inputOf, valueOf?_control]

theorem wireNames_fileInput (accept : String) :
    wireNames (v.fileInput accept).tags = [v.field.name] := by
  simp [fileInput, wireNames_inputOf, valueOf?_control_override]

theorem wireNames_hiddenInput : wireNames v.hiddenInput.tags = [v.field.name] := by
  rw [hiddenInput, wireNames_inputOf, Slots.valueOf?_cons_of_ne _ _ (by decide),
    Slots.valueOf?_cons_of_ne _ _ (by decide), Slots.valueOf?_cons_self]
  rfl

theorem wireNames_textArea {rows : String} {changes : Slots} (h : ∀ e ∈ changes, e.1 ≠ "name") :
    wireNames (v.textArea rows changes).tags = [v.field.name] := by
  simp [textArea, wireNames_cons, senderNames, Slots.valueOf?_override h, valueOf?_control_override]

theorem wireNames_currency : wireNames v.currency.tags = [v.field.name] := by
  simp [currency, wireNames_cons, senderNames, wireNames_inputOf, valueOf?_control_override]

theorem wireNames_countryOption (entry : String × String) :
    wireNames (countryOption entry).tags = [] := by
  simp [countryOption, wireNames_cons, senderNames]

theorem valueOf?_phoneDigits :
    valueOf? "name" ((v.control (some "tel")).override
      [("id", some (v.field.id ++ "_number")), ("name", some v.field.rawName), ("value", none),
       ("min", none), ("max", none), ("step", none), ("accept", none),
       ("class", some "form-input phone-number-input"), ("data-phone-raw", some ""),
       ("placeholder", some (v.placeholderOr "Phone number"))]).attributes =
      some v.field.rawName :=
  Slots.valueOf?_override_self [("id", some (v.field.id ++ "_number"))] (by simp)

/-- A phone sends its digits under the name of a helper, and the whole number under its own. -/
theorem wireNames_phone : wireNames v.phone.tags = [v.field.rawName, v.field.name] := by
  have hcodes : wireNames ((countryCodes.map countryOption).flatMap tags) = [] := by
    rw [List.flatMap_map]
    exact wireNames_flatMap_eq_nil fun e _ => wireNames_countryOption e
  have hselect : valueOf? "name"
      ([attr "id" (v.field.id ++ "_code"), attr "class" "form-input country-code-select",
        attr "aria-label" "Country code", bare "data-phone-code"] ++
        bareIf "disabled" v.field.isDisabled) = none := by
    apply valueOf?_eq_none
    simp [attr, bare, or_imp, forall_and]
  have hhidden : valueOf? "name"
      [attr "type" "hidden", attr "id" v.field.id, attr "name" v.field.name] =
        some v.field.name := by
    simp [valueOf?, attr]
  simp only [phone, tags_block, tags_void, List.flatMap_cons, List.flatMap_nil, List.append_nil,
    wireNames_append, wireNames_cons, hcodes, hselect, hhidden, wireNames_inputOf,
    valueOf?_phoneDigits]
  simp [senderNames]

theorem wireNames_rangeDate (part title : String) :
    wireNames (v.rangeDate part title).tags = [v.field.name ++ "_" ++ part] := by
  simp [rangeDate, wireNames_cons, senderNames, valueOf?, attr]

theorem wireNames_dateRange :
    wireNames v.dateRange.tags =
      [v.field.name ++ "_" ++ "start", v.field.name ++ "_" ++ "end"] := by
  simp [dateRange, wireNames_cons, senderNames, wireNames_rangeDate]

theorem wireNames_lookup (fields : List Field) :
    wireNames (v.lookup fields).tags = [v.field.name] := by
  simp [lookup, wireNames_inputOf, valueOf?_control_override]

theorem wireNames_formula (fields : List Field) :
    wireNames (v.formula fields).tags = [v.field.name] := by
  simp [formula, wireNames_inputOf, valueOf?_control_override]

/-! ## Options -/

theorem wireNames_listOption (c : ChoiceView) : wireNames (listOption c).tags = [] := by
  simp [listOption, wireNames_cons, senderNames]

theorem wireNames_listOptions (choices : List ChoiceView) :
    wireNames ((choices.map listOption).flatMap tags) = [] := by
  rw [List.flatMap_map]
  exact wireNames_flatMap_eq_nil fun c _ => wireNames_listOption c

theorem wireNames_dropDown : wireNames v.dropDown.tags = [v.field.name] := by
  rw [dropDown, tags_block, wireNames_cons, List.flatMap_cons, wireNames_append,
    wireNames_listOptions, valueOf?_choice]
  simp [promptOption, wireNames_cons, senderNames]

theorem wireNames_multiList : wireNames v.multiList.tags = [v.field.name] := by
  rw [multiList, tags_block, wireNames_cons, wireNames_listOptions,
    valueOf?_choice_override (by simp)]
  simp [senderNames]

/-- A group sends one value under the name of its field for each of its options. -/
theorem wireNames_optionGroup (type : String) :
    wireNames (v.optionGroup type).tags = List.replicate v.choices.length v.field.name := by
  have hoption (c : ChoiceView) : wireNames (v.groupOption type c).tags = [v.field.name] := by
    simp [groupOption, wireNames_cons, senderNames, valueOf?, attr]
  rw [optionGroup, tags_block, wireNames_cons, List.flatMap_map,
    wireNames_flatMap_eq_replicate fun c _ => hoption c]
  simp [senderNames]

theorem wireNames_boxOf (css : String) : wireNames (v.boxOf css).tags = [v.field.name] := by
  simp [boxOf, wireNames_inputOf, valueOf?_choice_override]

theorem wireNames_singleCheckbox : wireNames v.singleCheckbox.tags = [v.field.name] := by
  cases htext : given? v.field.placeholder with
  | none => simp [singleCheckbox, htext, wireNames_cons, senderNames, wireNames_boxOf]
  | some s => simp [singleCheckbox, htext, wireNames_cons, senderNames, wireNames_boxOf]

theorem wireNames_switch : wireNames v.switch.tags = [v.field.name] := by
  simp [switch, wireNames_cons, senderNames, wireNames_boxOf]

theorem wireNames_pictureChoice :
    wireNames v.pictureChoice.tags = List.replicate v.choices.length v.field.name := by
  have hoption (c : ChoiceView) : wireNames (v.pictureOption c).tags = [v.field.name] := by
    simp [pictureOption, wireNames_cons, senderNames, valueOf?, attr]
  rw [pictureChoice, tags_block, wireNames_cons, List.flatMap_map,
    wireNames_flatMap_eq_replicate fun c _ => hoption c]
  simp [senderNames]

theorem wireNames_ranking : wireNames v.ranking.tags = [v.field.name] := by
  have hitem (c : ChoiceView) : wireNames (rankingItem c).tags = [] := by
    simp [rankingItem, moveButton, wireNames_cons, senderNames]
  have hitems : wireNames ((v.choices.map rankingItem).flatMap tags) = [] := by
    rw [List.flatMap_map]
    exact wireNames_flatMap_eq_nil fun c _ => hitem c
  simp [ranking, wireNames_cons, senderNames, hitems, valueOf?, attr]

/-! ## Scales -/

theorem wireNames_starRow (base : String) (count : Int) :
    wireNames (v.starRow base count).tags = List.replicate count.toNat v.field.name := by
  have hstar (value : Int) :
      wireNames ((v.star (base ++ "-star") value).flatMap tags) = [v.field.name] := by
    simp [star, wireNames_cons, senderNames, valueOf?, attr]
  rw [starRow, tags_block, wireNames_cons, List.flatMap_assoc,
    wireNames_flatMap_eq_replicate fun value _ => hstar value]
  simp [senderNames, between]

theorem wireNames_scaleRow (low high : Int) :
    wireNames (v.scaleRow low high).tags =
      List.replicate (high + 1 - low).toNat v.field.name := by
  have hoption (value : Int) : wireNames (v.scaleOption value).tags = [v.field.name] := by
    simp [scaleOption, wireNames_cons, senderNames, valueOf?, attr]
  have hends : wireNames
      ((if low ≤ high then [scaleEnds low high] else []).flatMap tags) = [] := by
    split
    · simp [scaleEnds, wireNames_cons, senderNames]
    · rfl
  have hcount : (between low high).length = (high + 1 - low).toNat := by simp [between]
  have hvalues : wireNames (((between low high).map v.scaleOption).flatMap tags) =
      List.replicate (high + 1 - low).toNat v.field.name := by
    rw [List.flatMap_map, wireNames_flatMap_eq_replicate fun value _ => hoption value, hcount]
  rw [scaleRow, tags_block, wireNames_cons, List.flatMap_append, wireNames_append, hends]
  simp [wireNames_cons, senderNames, hvalues]

/-! ## Widgets -/

theorem wireNames_widgetInput (attributes : List Attribute) :
    wireNames (v.widgetInput attributes).tags = [v.field.name] := by
  simp [widgetInput, wireNames_cons, senderNames, valueOf?, attr]

theorem wireNames_button (css title : String) (attributes : List Attribute) :
    wireNames (button css attributes title).tags = [] := by
  simp [button, wireNames_cons, senderNames]

theorem wireNames_signature : wireNames v.signature.tags = [v.field.name] := by
  simp [signature, wireNames_cons, senderNames, wireNames_widgetInput, wireNames_button]

theorem wireNames_voiceRecording : wireNames v.voiceRecording.tags = [v.field.name] := by
  simp [voiceRecording, wireNames_cons, senderNames, wireNames_widgetInput, wireNames_button]

theorem wireNames_richText : wireNames v.richText.tags = [v.field.name] := by
  simp [richText, editorCommands, wireNames_cons, senderNames, wireNames_widgetInput,
    wireNames_button]

theorem wireNames_socialLinks :
    wireNames v.socialLinks.tags = socialNetworks.map fun n => v.field.name ++ "_" ++ n.1 := by
  simp [socialLinks, socialNetworks, wireNames_cons, senderNames, valueOf?, attr]

theorem wireNames_sectionCollapse : wireNames v.sectionCollapse.tags = [] := by
  cases htext : given? v.field.defaultValue with
  | none => simp [sectionCollapse, htext, wireNames_cons, senderNames, wireNames_button]
  | some s => simp [sectionCollapse, htext, wireNames_cons, senderNames, wireNames_button]

theorem wireNames_subform : wireNames subform.tags = [] := by
  simp [subform, wireNames_cons, senderNames]

theorem wireNames_submissionPicker : wireNames v.submissionPicker.tags = [v.field.name] := by
  rw [submissionPicker, tags_block, wireNames_cons, valueOf?_choice]
  simp [wireNames_cons, senderNames]

/-! ## Groups and notices -/

theorem wireNames_grouped (animate : Bool) (control : Markup) :
    wireNames (v.grouped animate control).tags = wireNames control.tags := by
  have hlabel : wireNames v.labelMarkup.tags = [] := by
    unfold labelMarkup
    split
    · simp [wireNames_cons, senderNames]
    · simp [wireNames_cons, senderNames]
  cases htext : given? v.field.helpText with
  | none => simp [grouped, htext, wireNames_cons, senderNames, hlabel]
  | some s => simp [grouped, htext, wireNames_cons, senderNames, hlabel]

theorem wireNames_banner (animate : Bool) : wireNames (v.banner animate).tags = [] := by
  cases htext : given? v.field.helpText with
  | none => simp [banner, htext, wireNames_cons, senderNames]
  | some s => simp [banner, htext, bannerImage, wireNames_cons, senderNames]

theorem wireNames_sectionBreak (animate : Bool) : wireNames (v.sectionBreak animate).tags = [] := by
  cases htext : given? v.field.helpText with
  | none => simp [sectionBreak, htext, wireNames_cons, senderNames]
  | some s => simp [sectionBreak, htext, wireNames_cons, senderNames]

theorem wireNames_htmlSnippet (rawHtml animate : Bool) :
    wireNames (v.htmlSnippet rawHtml animate).tags = [] := by
  cases rawHtml with
  | false => simp [htmlSnippet, wireNames_cons, senderNames]
  | true => simp [htmlSnippet, wireNames_cons, senderNames]

/-- What stands alone sends nothing, a hidden input apart. -/
theorem wireNames_controlOf_alone {fields : List Field} {o : RenderOptions} {kind : FieldKind}
    {m : Markup} (halone : kind.standsAlone = true) (hhidden : kind ≠ .hidden)
    (h : v.controlOf fields o kind = .ok m) : wireNames m.tags = [] := by
  cases kind with
  | hidden => contradiction
  | heading =>
    obtain rfl := Except.ok.inj h
    simp [heading, wireNames_cons, senderNames]
  | paragraph =>
    obtain rfl := Except.ok.inj h
    simp [paragraph, wireNames_cons, senderNames]
  | banner => exact Except.ok.inj h ▸ wireNames_banner _
  | divider =>
    obtain rfl := Except.ok.inj h
    simp [divider, wireNames_cons, senderNames]
  | htmlSnippet => exact Except.ok.inj h ▸ wireNames_htmlSnippet _ _
  | spacer =>
    obtain rfl := Except.ok.inj h
    simp [spacer, wireNames_cons, senderNames]
  | sectionBreak => exact Except.ok.inj h ▸ wireNames_sectionBreak _
  | pageBreak =>
    obtain rfl := Except.ok.inj h
    simp [pageBreak, wireNames_cons, senderNames]
  | _ => contradiction

end FieldView

end FormPress
