import FormPress.Document.Compile
import FormPress.Proofs.Form.Checked
import FormPress.Proofs.Form.Pages
import FormPress.Proofs.Result
import Mathlib.Data.List.Forall2

/-!
# Compiled documents

What a document is made of: the parts of its form, with the rendered fields on their pages. A field
stands in the document as `Field.render` gives it.
-/

namespace FormPress

namespace Form

/-- How the fields of a form are rendered. -/
def renderOptions (form : Form) (settings : Settings) : RenderOptions :=
  ⟨settings.allowRawHtml, form.animations.animatesFields⟩

/-- The parts of the document of a form with its rendered pages. -/
def parts (form : Form) (settings : Settings) (logo : Option String)
    (rendered : List (Page × List Markup)) : DocumentParts where
  form := form
  language := settings.language
  fontStylesheet := settings.fontStylesheet
  logo := if form.theme.showLogo then logo else none
  stylesheet := (form.stylesheet (paginate form.fields)).result
  script := (form.script settings (paginate form.fields)).result
  pages := rendered

theorem exists_of_mem_forall₂ {α β : Type} {R : α → β → Prop} {xs : List α} {ys : List β}
    (h : List.Forall₂ R xs ys) {y : β} (hy : y ∈ ys) : ∃ x ∈ xs, R x y := by
  induction h with
  | nil => contradiction
  | cons hxy _ ih =>
    rcases List.mem_cons.1 hy with rfl | hy
    · exact ⟨_, List.mem_cons_self, hxy⟩
    · obtain ⟨x, hx, hR⟩ := ih hy
      exact ⟨x, List.mem_cons_of_mem _ hx, hR⟩

variable {o : RenderOptions} {all fields : List Field} {ms : List Markup}

/-- Fields are rendered one by one, in their order. -/
theorem renderFields_eq_ok (h : (renderFields o all fields).result = .ok ms) :
    List.Forall₂ (fun f m => f.render o all = .ok m) fields ms := by
  induction fields generalizing ms with
  | nil =>
    obtain rfl := Except.ok.inj h
    exact .nil
  | cons f rest ih =>
    rw [renderFields, Logged.result_bind] at h
    cases hf : f.render o all with
    | error fault =>
      rw [show (f.renderLogged o all).result = .error fault from hf] at h
      contradiction
    | ok m =>
      rw [show (f.renderLogged o all).result = .ok m from hf] at h
      obtain ⟨others, hothers, rfl⟩ := map_eq_ok.1 h
      exact .cons hf (ih hothers)

/-- Pages are rendered one by one, each with its fields. -/
theorem renderPages_eq_ok {pages : List Page} {rendered : List (Page × List Markup)}
    (h : (renderPages o all pages).result = .ok rendered) :
    List.Forall₂
      (fun p r => r.1 = p ∧ List.Forall₂ (fun f m => f.render o all = .ok m) p.fields r.2)
      pages rendered := by
  induction pages generalizing rendered with
  | nil =>
    obtain rfl := Except.ok.inj h
    exact .nil
  | cons p rest ih =>
    rw [renderPages, Logged.result_bind] at h
    cases hp : (renderFields o all p.fields).result with
    | error fault =>
      rw [hp] at h
      contradiction
    | ok ms =>
      rw [hp] at h
      obtain ⟨others, hothers, rfl⟩ := map_eq_ok.1 h
      exact .cons ⟨rfl, renderFields_eq_ok hp⟩ (ih hothers)

theorem map_fst_renderPages {pages : List Page} {rendered : List (Page × List Markup)}
    (h : (renderPages o all pages).result = .ok rendered) : rendered.map Prod.fst = pages := by
  have hpages := renderPages_eq_ok h
  clear h
  induction hpages with
  | nil => rfl
  | cons hpage _ ih => rw [List.map_cons, hpage.1, ih]

variable {form : Form} {settings : Settings} {logo : Option String} {html : String}
  {rendered : List (Page × List Markup)}

/-- Markup on a page is that of a field of the form. -/
theorem exists_field (h : (renderPages o all (paginate form.fields)).result = .ok rendered)
    {page : Page × List Markup} (hpage : page ∈ rendered) {m : Markup} (hm : m ∈ page.2) :
    ∃ f ∈ form.fields, f.render o all = .ok m := by
  obtain ⟨p, hp, -, hfields⟩ := exists_of_mem_forall₂ (renderPages_eq_ok h) hpage
  obtain ⟨f, hf, hrender⟩ := exists_of_mem_forall₂ hfields hm
  have hsorted : f ∈ (paginate form.fields).flatMap Page.fields :=
    List.mem_flatMap.2 ⟨p, hp, hf⟩
  rw [flatMap_fields_paginate, List.mem_filter, mem_sortedFields] at hsorted
  exact ⟨f, hsorted.1, hrender⟩

/-- Once the pages are rendered, the document is written from its parts. -/
theorem result_assemble (form : Form) (settings : Settings) (logo : Option String) :
    (form.assemble settings logo).result =
      (renderPages (form.renderOptions settings) form.fields (paginate form.fields)).result.map
        fun rendered => (form.parts settings logo rendered).write := by
  rw [assemble]
  dsimp only
  rw [Logged.result_bind, Logged.result_bind, renderOptions]
  cases (renderPages ⟨settings.allowRawHtml, form.animations.animatesFields⟩ form.fields
      (paginate form.fields)).result with
  | error fault => rfl
  | ok rendered => rfl

theorem assemble_eq_ok (h : (form.assemble settings logo).result = .ok html) :
    ∃ rendered,
      (renderPages (form.renderOptions settings) form.fields (paginate form.fields)).result =
        .ok rendered ∧
      html = (form.parts settings logo rendered).write := by
  rw [result_assemble] at h
  obtain ⟨rendered, hrendered, hhtml⟩ := map_eq_ok.1 h
  exact ⟨rendered, hrendered, hhtml.symm⟩

/-- **A document is written from the parts of its form.** -/
theorem compile_eq_ok (h : (form.compile settings logo).result = .ok html) :
    ∃ rendered,
      (renderPages (form.renderOptions settings) form.fields (paginate form.fields)).result =
        .ok rendered ∧
      html = (form.parts settings logo rendered).write := by
  rw [compile, Logged.result_bind] at h
  cases hcheck : (form.checkReferences settings.strict).result with
  | error fault =>
    rw [hcheck] at h
    contradiction
  | ok u =>
    rw [hcheck] at h
    dsimp only at h
    rw [Logged.result_bind] at h
    cases hassemble : (form.assemble settings logo).result with
    | error fault =>
      rw [hassemble] at h
      contradiction
    | ok text =>
      rw [hassemble] at h
      obtain rfl : text = html := Except.ok.inj h
      exact assemble_eq_ok hassemble

/-! ## Faults -/

/-- A form whose references are refused has no document for that reason. -/
theorem compile_of_refused {fault : ReferenceFault} (logo : Option String)
    (hcheck : (form.checkReferences settings.strict).result = .error fault) :
    (form.compile settings logo).result = .error (.references fault) := by
  rw [compile, Logged.result_bind, hcheck]
  rfl

/-- When the references are accepted, the form has a document unless a field has a fault. -/
theorem compile_of_accepted {report : ReferenceReport} (logo : Option String)
    (hcheck : (form.checkReferences settings.strict).result = .ok report) :
    (form.compile settings logo).result =
      (form.assemble settings logo).result.mapError .number := by
  rw [compile, Logged.result_bind, hcheck]
  dsimp only
  rw [Logged.result_bind]
  cases (form.assemble settings logo).result with
  | error fault => rfl
  | ok html => rfl

/-! ## Documents exist -/

/-- A check that is not strict accepts every form. -/
theorem checkReferences_lenient (form : Form) :
    (form.checkReferences false).result = .ok (.ofFields form.fields) := by
  rw [checkReferences_false]
  rfl

theorem exists_renderFields (h : ∀ f ∈ fields, ∃ m, f.render o all = .ok m) :
    ∃ ms, (renderFields o all fields).result = .ok ms := by
  induction fields with
  | nil => exact ⟨[], rfl⟩
  | cons f rest ih =>
    obtain ⟨m, hm⟩ := h f (by simp)
    obtain ⟨others, hothers⟩ := ih fun g hg => h g (List.mem_cons_of_mem _ hg)
    refine ⟨m :: others, ?_⟩
    rw [renderFields, Logged.result_bind]
    rw [show (f.renderLogged o all).result = .ok m from hm]
    dsimp only
    rw [Logged.result_bind, hothers]
    rfl

theorem exists_renderPages {pages : List Page}
    (h : ∀ f ∈ pages.flatMap Page.fields, ∃ m, f.render o all = .ok m) :
    ∃ rendered, (renderPages o all pages).result = .ok rendered := by
  induction pages with
  | nil => exact ⟨[], rfl⟩
  | cons p rest ih =>
    rw [List.flatMap_cons, List.forall_mem_append] at h
    obtain ⟨ms, hms⟩ := exists_renderFields h.1
    obtain ⟨others, hothers⟩ := ih h.2
    refine ⟨(p, ms) :: others, ?_⟩
    rw [renderPages, Logged.result_bind, hms]
    dsimp only
    rw [Logged.result_bind, hothers]
    rfl

theorem assemble_of_rendered (logo : Option String)
    (hrendered : (renderPages (form.renderOptions settings) form.fields
      (paginate form.fields)).result = .ok rendered) :
    (form.assemble settings logo).result = .ok (form.parts settings logo rendered).write := by
  rw [result_assemble, hrendered]
  rfl

/-- A form has a document when its references are accepted and each of its fields renders. -/
theorem exists_compile (logo : Option String) {report : ReferenceReport}
    (hcheck : (form.checkReferences settings.strict).result = .ok report)
    (hrender : ∀ f ∈ form.fields,
      ∃ m, f.render (form.renderOptions settings) form.fields = .ok m) :
    ∃ html, (form.compile settings logo).result = .ok html := by
  have hpages : ∀ f ∈ (paginate form.fields).flatMap Page.fields,
      ∃ m, f.render (form.renderOptions settings) form.fields = .ok m := by
    intro f hf
    rw [flatMap_fields_paginate, List.mem_filter, mem_sortedFields] at hf
    exact hrender f hf.1
  obtain ⟨rendered, hrendered⟩ := exists_renderPages hpages
  refine ⟨(form.parts settings logo rendered).write, ?_⟩
  rw [compile_of_accepted logo hcheck, assemble_of_rendered logo hrendered]
  rfl

end Form

end FormPress
