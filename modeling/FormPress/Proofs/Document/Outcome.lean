import FormPress.Form.File
import FormPress.Proofs.Document.Compile
import FormPress.Proofs.Field.Measure

/-!
# Outcomes of a compilation

A compilation is refused by its references or ends with a document, unless a field that is not
measurable stands on a page. Loading admits such fields: a bound may be any number.
-/

namespace FormPress.Form

variable {o : RenderOptions} {all fields : List Field} {form : Form} {settings : Settings}

/-- Pages are all rendered exactly when every field on them is measurable. -/
theorem exists_renderPages_iff {pages : List Page} :
    (∃ rendered, (renderPages o all pages).result = .ok rendered) ↔
      ∀ f ∈ pages.flatMap Page.fields, f.IsMeasurable := by
  constructor
  · rintro ⟨rendered, hrendered⟩ f hf
    obtain ⟨p, hp, hf⟩ := List.mem_flatMap.1 hf
    obtain ⟨r, -, -, hfields⟩ := exists_of_mem_forall₂ (renderPages_eq_ok hrendered).flip hp
    obtain ⟨m, -, hm⟩ := exists_of_mem_forall₂ hfields.flip hf
    exact Field.exists_render_iff.1 ⟨m, hm⟩
  · intro h
    exact exists_renderPages fun f hf => Field.exists_render_iff.2 (h f hf)

/-- Every field that stands on a page is measurable. -/
def IsMeasurable (form : Form) : Prop :=
  ∀ f ∈ form.fields, f.kind ≠ some .pageBreak → f.IsMeasurable

theorem forall_mem_pages_iff :
    (∀ f ∈ (paginate form.fields).flatMap Page.fields, f.IsMeasurable) ↔ form.IsMeasurable := by
  rw [flatMap_fields_paginate]
  constructor
  · intro h f hf hkind
    refine h f (List.mem_filter.2 ⟨mem_sortedFields.2 hf, ?_⟩)
    simpa [Field.isPageBreak] using hkind
  · intro h f hf
    obtain ⟨hmem, hkind⟩ := List.mem_filter.1 hf
    refine h f (mem_sortedFields.1 hmem) ?_
    simpa [Field.isPageBreak] using hkind

theorem exists_assemble_iff (form : Form) (settings : Settings) (logo : Option String) :
    (∃ html, (form.assemble settings logo).result = .ok html) ↔ form.IsMeasurable := by
  rw [← forall_mem_pages_iff]
  constructor
  · rintro ⟨html, hhtml⟩
    obtain ⟨rendered, hrendered, -⟩ := assemble_eq_ok hhtml
    exact exists_renderPages_iff.1 ⟨rendered, hrendered⟩
  · intro h
    obtain ⟨rendered, hrendered⟩ := exists_renderPages_iff.2 h
    exact ⟨_, assemble_of_rendered logo hrendered⟩

/-- A compilation whose references are accepted ends with a document, or in a number. -/
theorem compile_of_accepted_cases (logo : Option String) {report : ReferenceReport}
    (hcheck : (form.checkReferences settings.strict).result = .ok report) :
    (form.IsMeasurable ∧ ∃ html, (form.compile settings logo).result = .ok html) ∨
      (¬form.IsMeasurable ∧
        ∃ fault, (form.compile settings logo).result = .error (.number fault)) := by
  rw [compile_of_accepted logo hcheck]
  have hassemble := exists_assemble_iff form settings logo
  cases h : (form.assemble settings logo).result with
  | ok html => exact .inl ⟨hassemble.1 ⟨html, h⟩, html, rfl⟩
  | error fault =>
    refine .inr ⟨fun hmeasurable => ?_, fault, rfl⟩
    obtain ⟨html, hhtml⟩ := hassemble.2 hmeasurable
    rw [h] at hhtml
    cases hhtml

/-- **A compilation ends with a document or is refused by the references of its form, unless the
references are accepted and a field on a page is not measurable.** A field is rendered exactly when
it is measurable, whatever the options of the rendering and the fields around it. -/
theorem compile_settles_iff (form : Form) (settings : Settings) (logo : Option String) :
    (((∃ html, (form.compile settings logo).result = .ok html) ∨
      ∃ fault, (form.compile settings logo).result = .error (.references fault)) ↔
      (∃ fault, (form.checkReferences settings.strict).result = .error fault) ∨
        form.IsMeasurable) ∧
    ∀ (f : Field) (o : RenderOptions) (fields : List Field),
      (∃ m, f.render o fields = .ok m) ↔ f.IsMeasurable := by
  refine ⟨?_, fun f o fields => Field.exists_render_iff⟩
  cases hcheck : (form.checkReferences settings.strict).result with
  | error fault =>
    exact iff_of_true (.inr ⟨fault, compile_of_refused logo hcheck⟩) (.inl ⟨fault, rfl⟩)
  | ok report =>
    rcases compile_of_accepted_cases logo hcheck with ⟨h, html, hhtml⟩ | ⟨h, fault, hfault⟩
    · exact iff_of_true (.inl ⟨html, hhtml⟩) (.inr h)
    · refine iff_of_false ?_ ?_
      · rw [hfault]
        rintro (⟨html, hhtml⟩ | ⟨fault, hrefused⟩)
        · cases hhtml
        · cases hrefused
      · rintro (⟨fault, hrefused⟩ | hmeasurable)
        · cases hrefused
        · exact h hmeasurable

/-- A form with a field whose width is a NaN. -/
def unmeasurableForm : Form :=
  { fields := [{ id := "a", name := "a", width := some .nan }] }

/-- Loading accepts a width that is a NaN, and no document comes of it. -/
theorem compile_unmeasurableForm :
    Form.ofText "form.json" "\x7b\"fields\": [\x7b\"id\": \"a\", \"width\": \"nan\"\x7d]\x7d" =
        .ok unmeasurableForm ∧
      (∀ f ∈ unmeasurableForm.fields, ∀ m, f.render {} unmeasurableForm.fields ≠ .ok m) ∧
      ∃ fault, (unmeasurableForm.compile {} none).result = .error (.number fault) := by
  refine ⟨by decide +kernel, ?_, ?_⟩
  · rw [unmeasurableForm, List.forall_mem_singleton]
    intro m hm
    exact (Field.exists_render_iff.1 ⟨m, hm⟩).width rfl
  · have hcheck : (unmeasurableForm.checkReferences (Settings.strict {})).result =
        .ok (.ofFields unmeasurableForm.fields) := checkReferences_lenient unmeasurableForm
    rcases compile_of_accepted_cases none hcheck with ⟨h, -⟩ | ⟨-, h⟩
    · exact absurd rfl (h _ (List.mem_singleton_self _) (by decide)).width
    · exact h

end FormPress.Form
