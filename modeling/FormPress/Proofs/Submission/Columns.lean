import FormPress.Proofs.Field.WellFormed
import FormPress.Proofs.Field.WireNames
import FormPress.Proofs.Form.Pages
import FormPress.Proofs.Markup.Reader
import FormPress.Proofs.Table
import FormPress.Submission.Plan

/-!
# Columns and wire names

Two descriptions of what a form sends: the wire names that a reader finds in the written markup of
its fields, page by page, and the columns of the spreadsheet. They agree. A group without options or
a scale without values shows no input, so such a field has a column and no wire name.
-/

namespace FormPress

open Markup

namespace Field

/-! ## Names of a field -/

/-- The names of a field each once, without the name of its helper. -/
def ownNames (f : Field) (names : List String) : List String :=
  (Table.distinct names).filter fun name => !(internalNames [f]).contains name

/-- What a reader of the written markup collects from a field. -/
def collectedNames (f : Field) (m : Markup) : List String :=
  f.ownNames (wireNames (readTags m.write))

/-- The field shows an input for every name that it sends: a group has options, and a scale has
values. -/
def OffersValues (f : Field) : Prop :=
  match f.kind with
  | some .radio | some .multipleChoice | some .checkboxes | some .pictureChoice => f.options ≠ []
  | some .rating | some .starRating =>
    ∀ count, FieldView.nonzeroOr FieldView.defaultStars f.max = .ok count → 1 ≤ count
  | some .opinionScale =>
    ∀ low high, FieldView.boundOr FieldView.defaultScale.1 f.min = .ok low →
      FieldView.boundOr FieldView.defaultScale.2 f.max = .ok high → low ≤ high
  | _ => True

/-- The names found in the markup of a field are names that it sends, and all of them if the field
offers values. -/
structure Sends (f : Field) (names : List String) : Prop where
  sublist : (f.ownNames names).Sublist f.submittedNames
  eq : f.OffersValues → f.ownNames names = f.submittedNames

variable {f : Field} {fields : List Field} {o : RenderOptions} {m : Markup} {kind : FieldKind}

theorem sends_of_eq {names : List String} (h : f.ownNames names = f.submittedNames) :
    f.Sends names where
  sublist := h ▸ List.Sublist.refl _
  eq := fun _ => h

theorem internalNames_of_ne_tel (h : f.kind ≠ some .tel) : internalNames [f] = [] := by
  simp [internalNames, h]

theorem ownNames_of_ne_tel (h : f.kind ≠ some .tel) (names : List String) :
    f.ownNames names = Table.distinct names := by
  rw [ownNames, internalNames_of_ne_tel h]
  simp

/-- A field that shows its only name as often as it has options or values. -/
theorem sends_replicate {n : Nat} (htel : f.kind ≠ some .tel) (hnames : f.submittedNames = [f.name])
    (hn : f.OffersValues → n ≠ 0) : f.Sends (List.replicate n f.name) := by
  have hown : f.ownNames (List.replicate n f.name) = if n = 0 then [] else [f.name] := by
    rw [ownNames_of_ne_tel htel, Table.distinct_replicate]
  constructor
  · rw [hown, hnames]
    split
    · exact List.nil_sublist _
    · exact List.Sublist.refl _
  · intro hvalues
    rw [hown, hnames, if_neg (hn hvalues)]

theorem sends_singleton (htel : f.kind ≠ some .tel) (hnames : f.submittedNames = [f.name]) :
    f.Sends [f.name] :=
  sends_replicate (n := 1) htel hnames fun _ => by omega

/-- Most kinds send one value, under the name of the field. -/
structure SendsOne (kind : FieldKind) : Prop where
  notSilent : kind.isSilent = false
  ne_tel : kind ≠ .tel
  ne_dateRange : kind ≠ .dateRange
  ne_socialLinks : kind ≠ .socialLinks

theorem SendsOne.submittedNames (hone : SendsOne kind) (hkind : f.kind = some kind) :
    f.submittedNames = [f.name] := by
  obtain ⟨hsilent, -, hdate, hsocial⟩ := hone
  unfold Field.submittedNames
  rw [hkind]
  simp only [hsilent]
  split
  · contradiction
  · rfl

theorem SendsOne.sends_replicate (hone : SendsOne kind) (hkind : f.kind = some kind) {n : Nat}
    {names : List String} (h : names = List.replicate n f.name) (hn : f.OffersValues → n ≠ 0) :
    f.Sends names := by
  have htel : f.kind ≠ some .tel := by
    rw [hkind]
    exact fun heq => hone.ne_tel (Option.some.inj heq)
  rw [h]
  exact Field.sends_replicate htel (hone.submittedNames hkind) hn

theorem SendsOne.sends (hone : SendsOne kind) (hkind : f.kind = some kind) {names : List String}
    (h : names = [f.name]) : f.Sends names :=
  hone.sends_replicate (n := 1) hkind h fun _ => by omega

/-- A kind that sends nothing. -/
theorem sends_nil (hkind : f.kind = some kind) (hsilent : kind.isSilent = true)
    {names : List String} (h : names = []) : f.Sends names := by
  refine sends_of_eq ?_
  simp [h, ownNames, Table.distinct, Field.submittedNames, hkind, hsilent]

/-! ## Every kind -/

variable {v : FieldView}

theorem sends_tel (hkind : f.kind = some .tel) : f.Sends [f.rawName, f.name] := by
  have hraw : f.name ≠ f.rawName := by
    intro h
    have hlength := congrArg String.length h
    simp [rawName] at hlength
  have hinternal : internalNames [f] = [f.rawName] := by simp [internalNames, hkind]
  have hnames : f.submittedNames = [f.name] := by
    simp [submittedNames, hkind, FieldKind.isSilent, FieldKind.isLayoutMark, FieldKind.isNotice]
  refine sends_of_eq ?_
  rw [ownNames, hinternal, Table.distinct_of_nodup (by simp [Ne.symm hraw]), hnames]
  simp [hraw]

theorem sends_dateRange (hkind : f.kind = some .dateRange) :
    f.Sends [f.name ++ "_" ++ "start", f.name ++ "_" ++ "end"] := by
  have htel : f.kind ≠ some .tel := by simp [hkind]
  refine sends_of_eq ?_
  rw [ownNames_of_ne_tel htel,
    Table.distinct_of_nodup (by simp [String.append_assoc, String.append_right_inj])]
  simp [submittedNames, hkind, FieldKind.isSilent, FieldKind.isLayoutMark, FieldKind.isNotice,
    String.append_assoc]

theorem sends_socialLinks (hkind : f.kind = some .socialLinks) :
    f.Sends (FieldView.socialNetworks.map fun n => f.name ++ "_" ++ n.1) := by
  have htel : f.kind ≠ some .tel := by simp [hkind]
  have hnodup : (FieldView.socialNetworks.map fun n => f.name ++ "_" ++ n.1).Nodup := by
    simp [FieldView.socialNetworks, String.append_assoc, String.append_right_inj]
  refine sends_of_eq ?_
  rw [ownNames_of_ne_tel htel, Table.distinct_of_nodup hnodup]
  simp [submittedNames, hkind, FieldKind.isSilent, FieldKind.isLayoutMark, FieldKind.isNotice]

theorem length_choices (hv : f.view = .ok v) : v.choices.length = f.options.length := by
  rw [choices_of_view hv, List.length_map]

/-- A group of options. -/
theorem sends_options (hv : f.view = .ok v) (hone : SendsOne kind) (hkind : f.kind = some kind)
    (hoffers : f.OffersValues → f.options ≠ []) :
    f.Sends (List.replicate v.choices.length v.field.name) := by
  rw [field_of_view hv, length_choices hv]
  refine hone.sends_replicate hkind rfl fun hvalues hzero => ?_
  exact hoffers hvalues (List.eq_nil_of_length_eq_zero hzero)

theorem sendsOne (h : (!kind.isSilent && kind != .tel && kind != .dateRange &&
    kind != .socialLinks) = true) : SendsOne kind := by
  simp only [Bool.and_eq_true, Bool.not_eq_true', bne_iff_ne] at h
  exact ⟨h.1.1.1, h.1.1.2, h.1.2, h.2⟩

theorem sends_stars (hv : f.view = .ok v) (hone : SendsOne kind) (hkind : f.kind = some kind)
    (hoffers : f.OffersValues → ∀ count,
      FieldView.nonzeroOr FieldView.defaultStars f.max = .ok count → 1 ≤ count)
    {base : String} (h : v.stars base = .ok m) : f.Sends (wireNames m.tags) := by
  rw [FieldView.stars, field_of_view hv] at h
  obtain ⟨count, hcount, rfl⟩ := map_eq_ok.1 h
  refine hone.sends_replicate hkind (n := count.toNat) ?_ fun hvalues => ?_
  · rw [FieldView.wireNames_starRow, field_of_view hv]
  · have hpos := hoffers hvalues count hcount
    omega

theorem sends_opinionScale (hv : f.view = .ok v) (hkind : f.kind = some .opinionScale)
    (h : v.opinionScale = .ok m) : f.Sends (wireNames m.tags) := by
  rw [FieldView.opinionScale, field_of_view hv] at h
  obtain ⟨low, hlow, h⟩ := bind_eq_ok.1 h
  obtain ⟨high, hhigh, h⟩ := bind_eq_ok.1 h
  split at h
  · contradiction
  · obtain rfl := Except.ok.inj h
    have hone : SendsOne .opinionScale := sendsOne rfl
    refine hone.sends_replicate hkind (n := (high + 1 - low).toNat) ?_ fun hvalues => ?_
    · rw [FieldView.wireNames_scaleRow, field_of_view hv]
    · simp only [OffersValues, hkind] at hvalues
      have hle := hvalues low high hlow hhigh
      omega

theorem sends_checkbox (hv : f.view = .ok v) (hkind : f.kind = some .checkbox) :
    f.Sends (wireNames v.checkbox.tags) := by
  have hone : SendsOne .checkbox := sendsOne rfl
  unfold FieldView.checkbox
  split
  · rw [FieldView.wireNames_singleCheckbox, field_of_view hv]
    exact hone.sends hkind rfl
  · rename_i hchoices
    rw [FieldView.checkboxGroup, FieldView.wireNames_optionGroup, field_of_view hv]
    refine hone.sends_replicate hkind rfl fun _ hzero => hchoices ?_
    rw [List.isEmpty_iff, List.eq_nil_of_length_eq_zero hzero]

open FieldView in
/-- What stands in the markup of a kind is what the kind sends. -/
theorem sends_controlOf (hv : f.view = .ok v) (hkind : f.kind = some kind)
    (h : v.controlOf fields o kind = .ok m) : f.Sends (wireNames m.tags) := by
  have hname : [v.field.name] = [f.name] := by rw [field_of_view hv]
  cases kind with
  | heading | paragraph | banner | divider | htmlSnippet | spacer | sectionBreak | pageBreak =>
    exact sends_nil hkind rfl (wireNames_controlOf_alone rfl (by decide) h)
  | sectionCollapse =>
    exact sends_nil hkind rfl (Except.ok.inj h ▸ wireNames_sectionCollapse)
  | subform => exact sends_nil hkind rfl (Except.ok.inj h ▸ wireNames_subform)
  | tel =>
    obtain rfl := Except.ok.inj h
    rw [wireNames_phone, field_of_view hv]
    exact sends_tel hkind
  | dateRange =>
    obtain rfl := Except.ok.inj h
    rw [wireNames_dateRange, field_of_view hv]
    exact sends_dateRange hkind
  | socialLinks =>
    obtain rfl := Except.ok.inj h
    rw [wireNames_socialLinks, field_of_view hv]
    exact sends_socialLinks hkind
  | radio | multipleChoice =>
    obtain rfl := Except.ok.inj h
    rw [radioGroup, wireNames_optionGroup]
    exact sends_options hv (sendsOne rfl) hkind (by simp [OffersValues, hkind])
  | checkboxes =>
    obtain rfl := Except.ok.inj h
    rw [checkboxGroup, wireNames_optionGroup]
    exact sends_options hv (sendsOne rfl) hkind (by simp [OffersValues, hkind])
  | pictureChoice =>
    obtain rfl := Except.ok.inj h
    rw [wireNames_pictureChoice]
    exact sends_options hv (sendsOne rfl) hkind (by simp [OffersValues, hkind])
  | checkbox =>
    obtain rfl := Except.ok.inj h
    exact sends_checkbox hv hkind
  | rating | starRating =>
    exact sends_stars hv (sendsOne rfl) hkind (by simp [OffersValues, hkind]) h
  | opinionScale => exact sends_opinionScale hv hkind h
  | hidden => exact (sendsOne rfl).sends hkind (Except.ok.inj h ▸ wireNames_hiddenInput.trans hname)
  | image | video | pdfViewer =>
    exact (sendsOne rfl).sends hkind (Except.ok.inj h ▸ (wireNames_fileInput _).trans hname)
  | textarea =>
    exact (sendsOne rfl).sends hkind (Except.ok.inj h ▸ (wireNames_textArea (by simp)).trans hname)
  | address =>
    exact (sendsOne rfl).sends hkind (Except.ok.inj h ▸ (wireNames_textArea (by simp)).trans hname)
  | currency =>
    exact (sendsOne rfl).sends hkind (Except.ok.inj h ▸ wireNames_currency.trans hname)
  | lookup =>
    exact (sendsOne rfl).sends hkind (Except.ok.inj h ▸ (wireNames_lookup _).trans hname)
  | formula =>
    exact (sendsOne rfl).sends hkind (Except.ok.inj h ▸ (wireNames_formula _).trans hname)
  | select =>
    exact (sendsOne rfl).sends hkind (Except.ok.inj h ▸ wireNames_dropDown.trans hname)
  | multiselect =>
    exact (sendsOne rfl).sends hkind (Except.ok.inj h ▸ wireNames_multiList.trans hname)
  | switch => exact (sendsOne rfl).sends hkind (Except.ok.inj h ▸ wireNames_switch.trans hname)
  | ranking => exact (sendsOne rfl).sends hkind (Except.ok.inj h ▸ wireNames_ranking.trans hname)
  | signature =>
    exact (sendsOne rfl).sends hkind (Except.ok.inj h ▸ wireNames_signature.trans hname)
  | voiceRecording =>
    exact (sendsOne rfl).sends hkind (Except.ok.inj h ▸ wireNames_voiceRecording.trans hname)
  | richText => exact (sendsOne rfl).sends hkind (Except.ok.inj h ▸ wireNames_richText.trans hname)
  | submissionPicker =>
    exact (sendsOne rfl).sends hkind (Except.ok.inj h ▸ wireNames_submissionPicker.trans hname)
  | _ =>
    exact (sendsOne rfl).sends hkind (Except.ok.inj h ▸ (wireNames_nativeInput _).trans hname)

/-- A field of an unknown kind sends its name, as a text input does. -/
theorem sends_unknown (hkind : f.kind = none) : f.Sends [f.name] := by
  have hnames : f.submittedNames = [f.name] := by
    unfold submittedNames
    rw [hkind]
  exact sends_singleton (by simp [hkind]) hnames

theorem sends_render (h : f.render o fields = .ok m) : f.Sends (wireNames m.tags) := by
  obtain ⟨v, hv, h⟩ := bind_eq_ok.1 h
  split at h
  · rename_i hkind
    obtain rfl := Except.ok.inj h
    rw [FieldView.wireNames_grouped, FieldView.wireNames_nativeInput, field_of_view hv]
    exact sends_unknown hkind
  · rename_i kind hkind
    obtain ⟨control, hcontrol, h⟩ := bind_eq_ok.1 h
    obtain rfl := Except.ok.inj h
    have hsends := sends_controlOf hv hkind hcontrol
    split
    · exact hsends
    · rw [FieldView.wireNames_grouped]
      exact hsends

/-- What a reader collects from a field, it sends. -/
theorem sends_readTags (hraw : f.HoldsNoRaw o) (h : f.render o fields = .ok m) :
    f.Sends (wireNames (readTags m.write)) := by
  rw [readTags_write (sound_render hraw h)]
  exact sends_render h

/-- A page break is on no page, and it sends nothing. -/
theorem submittedNames_of_isPageBreak (h : f.isPageBreak = true) : f.submittedNames = [] := by
  have hkind : f.kind = some .pageBreak := by simpa [isPageBreak] using h
  unfold submittedNames
  rw [hkind]
  rfl

end Field

/-! ## All pages -/

namespace Form

/-- The wire names collected from the markup of a form, page by page and field by field. -/
def collectedNames (form : Form) (o : RenderOptions) : Except NumberFault (List String) := do
  let fields := (paginate form.fields).flatMap Page.fields
  let names ← fields.mapM fun f => (f.render o form.fields).map f.collectedNames
  return names.flatten

theorem flatMap_submittedNames_pages (form : Form) :
    ((paginate form.fields).flatMap Page.fields).flatMap Field.submittedNames =
      form.sheetColumns := by
  rw [flatMap_fields_paginate, sheetColumns]
  induction sortedFields form.fields with
  | nil => rfl
  | cons f rest ih =>
    by_cases hf : f.isPageBreak = true
    · simp [hf, ih, Field.submittedNames_of_isPageBreak hf]
    · simp [hf, ih]

/-- **The wire names in the markup are the columns of the spreadsheet.** Each field shows only names
that it sends; when all fields offer values, going through the pages gives exactly the columns. -/
theorem collectedNames_eq_sheetColumns {form : Form} {o : RenderOptions} (hraw : o.rawHtml = false)
    (hrender : ∀ f ∈ form.fields, ∃ m, f.render o form.fields = .ok m) :
    (∀ f ∈ form.fields, ∀ m, f.render o form.fields = .ok m →
      (f.collectedNames m).Sublist f.submittedNames) ∧
    ((∀ f ∈ form.fields, f.OffersValues) →
      form.collectedNames o = .ok form.sheetColumns) := by
  have hsends (f : Field) (m : Markup) (h : f.render o form.fields = .ok m) :=
    Field.sends_readTags (.inl hraw) h
  refine ⟨fun f _ m h => (hsends f m h).sublist, fun hvalues => ?_⟩
  have hfield : ∀ f ∈ (paginate form.fields).flatMap Page.fields,
      (f.render o form.fields).map f.collectedNames = .ok f.submittedNames := by
    intro f hf
    rw [flatMap_fields_paginate, List.mem_filter, mem_sortedFields] at hf
    obtain ⟨m, hm⟩ := hrender f hf.1
    rw [hm]
    exact congrArg Except.ok ((hsends f m hm).eq (hvalues f hf.1))
  have hnames := mapM_eq_ok hfield
  rw [collectedNames, hnames, ← flatMap_submittedNames_pages]
  rfl

/-- A form with a group, a page break, a phone number and a row of stars, in two orders. -/
def contactForm : Form :=
  { fields :=
      [{ id := "t", name := "phone", kindName := "tel", order := .ofInt 3 },
       { id := "r", name := "kind", kindName := "radio",
         options := [{ label := "A", value := "a" }, { label := "B", value := "b" }] },
       { id := "p", kindName := "page-break", order := .ofInt 2 },
       { id := "s", name := "stars", kindName := "rating", order := .ofInt 4 }] }

theorem collectedNames_contactForm :
    (∀ f ∈ contactForm.fields, ∃ m, f.render {} contactForm.fields = .ok m) ∧
      (∀ f ∈ contactForm.fields, f.OffersValues) ∧
        contactForm.collectedNames {} = .ok contactForm.sheetColumns := by
  have hrender : ∀ f ∈ contactForm.fields, ∃ m, f.render {} contactForm.fields = .ok m := by
    intro f hf
    simp only [contactForm, List.mem_cons, List.not_mem_nil, or_false] at hf
    rcases hf with rfl | rfl | rfl | rfl
    · exact ⟨_, rfl⟩
    · exact ⟨_, rfl⟩
    · exact ⟨_, rfl⟩
    · exact ⟨_, rfl⟩
  have hvalues : ∀ f ∈ contactForm.fields, f.OffersValues := by
    intro f hf
    simp only [contactForm, List.mem_cons, List.not_mem_nil, or_false] at hf
    rcases hf with rfl | rfl | rfl | rfl
    · exact trivial
    · exact List.cons_ne_nil _ _
    · exact trivial
    · intro count hcount
      obtain rfl := Except.ok.inj hcount
      decide
  exact ⟨hrender, hvalues, (collectedNames_eq_sheetColumns rfl hrender).2 hvalues⟩

end Form

end FormPress
