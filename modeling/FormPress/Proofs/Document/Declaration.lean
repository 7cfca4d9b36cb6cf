import FormPress.Proofs.Command.Check
import FormPress.Proofs.Form.Declaration

/-!
# Documents and the order of declaration

A document comes out the same in whatever sequence the fields of its form are declared, as long as
they are told apart by id, by name and by order. A field is rendered among others only as far as
references resolve among them; all else in a document is made of the ascending order, and of what
holds for some field.
-/

namespace FormPress

/-! ## Fields and pages -/

variable {o : RenderOptions} {fields others : List Field}

theorem FieldView.controlOf_congr (h : resolve? fields = resolve? others) (v : FieldView)
    (kind : FieldKind) : v.controlOf fields o kind = v.controlOf others o kind := by
  have hsource (l : Lookup) : lookupSource l fields = lookupSource l others := by
    rw [lookupSource, lookupSource, h]
  have hpiece : Formula.Piece.resolve fields = Formula.Piece.resolve others := by
    funext p
    rw [Formula.Piece.resolve, Formula.Piece.resolve, h]
  have hlookup : v.lookup fields = v.lookup others := by
    simp only [lookup, hsource]
  have hformula : v.formula fields = v.formula others := by
    simp only [formula, Formula.resolve, hpiece]
  cases kind with
  | lookup => exact congrArg Except.ok hlookup
  | formula => exact congrArg Except.ok hformula
  | _ => rfl

/-- A field is rendered among others as far as references resolve among them. -/
theorem Field.render_congr (h : resolve? fields = resolve? others) (f : Field) :
    f.render o fields = f.render o others := by
  simp only [render, FieldView.controlOf_congr h]

namespace Form

theorem renderFields_congr (h : resolve? fields = resolve? others) (fs : List Field) :
    renderFields o fields fs = renderFields o others fs := by
  induction fs with
  | nil => rfl
  | cons f rest ih =>
    rw [renderFields, renderFields, ih, Field.renderLogged, Field.renderLogged,
      Field.render_congr h]

theorem renderPages_congr (h : resolve? fields = resolve? others) (pages : List Page) :
    renderPages o fields pages = renderPages o others pages := by
  induction pages with
  | nil => rfl
  | cons p rest ih => rw [renderPages, renderPages, ih, renderFields_congr h]

/-! ## Parts -/

variable {form : Form} {settings : Settings} {logo : Option String}

theorem sheetColumns_declaring (h : form.fields.Perm others) (hapart : FieldsApart form.fields) :
    (form.declaring others).sheetColumns = form.sheetColumns := by
  rw [sheetColumns, sheetColumns, sortedFields_perm h hapart]
  rfl

theorem conversions_declaring (h : form.fields.Perm others) (hapart : FieldsApart form.fields) :
    (form.declaring others).conversions = form.conversions := by
  have hfirst (kind : FieldKind) :
      (form.declaring others).firstNameOf? kind = form.firstNameOf? kind := by
    rw [firstNameOf?, firstNameOf?, sortedFields_perm h hapart]
    rfl
  rw [conversions, conversions, hfirst, hfirst]
  rfl

theorem submissionPlan_declaring (h : form.fields.Perm others) (hapart : FieldsApart form.fields)
    (settings : Settings) :
    (form.declaring others).submissionPlan settings = form.submissionPlan settings := by
  have hsheet : (form.declaring others).sheetTarget settings = form.sheetTarget settings := by
    simp only [sheetTarget, sheetColumns_declaring h hapart]
    rfl
  have hnames : internalNames (form.declaring others).fields = internalNames form.fields :=
    (internalNames_perm h hapart).symm
  simp only [submissionPlan, hsheet, hnames, conversions_declaring h hapart]
  rfl

theorem script_declaring (h : form.fields.Perm others) (hapart : FieldsApart form.fields)
    (settings : Settings) (pages : List Page) :
    (form.declaring others).script settings pages = form.script settings pages := by
  have hnames : internalNames (form.declaring others).fields = internalNames form.fields :=
    (internalNames_perm h hapart).symm
  simp only [script, submissionPlan_declaring h hapart, hnames]
  rfl

theorem parts_declaring (h : form.fields.Perm others) (hapart : FieldsApart form.fields)
    (settings : Settings) (logo : Option String) (rendered : List (Page × List Markup)) :
    (form.declaring others).parts settings logo rendered =
      { form.parts settings logo rendered with form := form.declaring others } := by
  have hpages : paginate (form.declaring others).fields = paginate form.fields :=
    (paginate_perm h hapart).symm
  simp only [parts, hpages, script_declaring h hapart]
  rfl

end Form

namespace DocumentParts

variable {d : DocumentParts}

/-- A document shows the place for an address when some option has one, whichever field it is of. -/
theorem addressDisplay_declaring (h : d.form.fields.Perm others) :
    addressDisplay { d with form := d.form.declaring others } = d.addressDisplay := by
  have hshows : showsAddress { d with form := d.form.declaring others } = d.showsAddress :=
    (h.any_eq).symm
  rw [addressDisplay, addressDisplay, hshows]

/-- Nothing else in a document goes by the fields of its form. -/
theorem write_declaring (h : d.form.fields.Perm others) :
    write { d with form := d.form.declaring others } = d.write := by
  have hcontainer : container { d with form := d.form.declaring others } = d.container := by
    rw [container, container, addressDisplay_declaring h]
    rfl
  have hframe : frame { d with form := d.form.declaring others } = d.frame := by
    rw [frame, frame, hcontainer]
    rfl
  have hbody : body { d with form := d.form.declaring others } = d.body := by
    rw [body, body, hframe]
    rfl
  rw [write, write, markup, markup, hbody]
  rfl

end DocumentParts

namespace Form

variable {form : Form}

/-! ## Compilations -/

theorem write_parts_declaring (h : form.fields.Perm others) (hapart : FieldsApart form.fields)
    (settings : Settings) (logo : Option String) (rendered : List (Page × List Markup)) :
    ((form.declaring others).parts settings logo rendered).write =
      (form.parts settings logo rendered).write := by
  rw [parts_declaring h hapart]
  exact DocumentParts.write_declaring (d := form.parts settings logo rendered) h

theorem assemble_declaring (h : form.fields.Perm others) (hapart : FieldsApart form.fields)
    (settings : Settings) (logo : Option String) :
    ((form.declaring others).assemble settings logo).result =
      (form.assemble settings logo).result := by
  have hpages : paginate (form.declaring others).fields = paginate form.fields :=
    (paginate_perm h hapart).symm
  have hresolve : resolve? (form.declaring others).fields = resolve? form.fields :=
    (resolve?_perm h hapart).symm
  have hoptions : (form.declaring others).renderOptions settings = form.renderOptions settings :=
    rfl
  rw [result_assemble, result_assemble, hpages, hoptions, renderPages_congr hresolve]
  simp only [write_parts_declaring h hapart]

/-- **What comes of a form does not depend on the sequence in which its fields are declared**, as
long as they are told apart by id, by name and by order, and at most one is a phone number. A lenient
compilation ends in the same way, with the same document or the same fault; the pages, the columns
of the spreadsheet and the fields reported as address and phone number are the same; and a strict
compilation is refused for a dangling reference, or for a cycle, in either sequence or in none. -/
theorem outcome_declaring {form : Form} {others : List Field} (h : form.fields.Perm others)
    (hapart : FieldsApart form.fields) (settings : Settings) (logo : Option String) :
    (form.declaring others).outcome settings logo false = form.outcome settings logo false ∧
    paginate others = paginate form.fields ∧
    (form.declaring others).sheetColumns = form.sheetColumns ∧
    (form.declaring others).conversions.emailField = form.conversions.emailField ∧
    (form.declaring others).conversions.phoneField = form.conversions.phoneField ∧
    ((∃ id report, (form.declaring others).outcome settings logo true =
        .error (.references (.dangling id report))) ↔
      ∃ id report, form.outcome settings logo true =
        .error (.references (.dangling id report))) ∧
    ((∃ id report, (form.declaring others).outcome settings logo true =
        .error (.references (.cyclic id report))) ↔
      ∃ id report, form.outcome settings logo true =
        .error (.references (.cyclic id report))) := by
  have hnowhere : (form.declaring others).RefersNowhere ↔ form.RefersNowhere :=
    (refersNowhere_perm (form.declaring others) h hapart).symm
  have hcircle : (form.declaring others).DependsInCircle ↔ form.DependsInCircle :=
    (dependsInCircle_perm (form.declaring others) h hapart).symm
  refine ⟨?_, (paginate_perm h hapart).symm, sheetColumns_declaring h hapart, ?_, ?_, ?_, ?_⟩
  · rw [outcome_false, outcome_false, assemble_declaring h hapart]
  · rw [conversions_declaring h hapart]
  · rw [conversions_declaring h hapart]
  · rw [outcome_true_dangling_iff, outcome_true_dangling_iff, hnowhere]
  · rw [outcome_true_cyclic_iff, outcome_true_cyclic_iff, hnowhere, hcircle]

/-- A form with a phone number, a price that is looked up by its name, and a total. -/
def orderForm : Form :=
  { id := "order"
    fields :=
      [{ id := "total", name := "sum", kindName := "formula", order := .ofInt 3
         formula := some { expression := "{price} * 2" } },
       { id := "p", name := "price", kindName := "lookup", order := .ofInt 2
         lookup := some { sourceId := "t", table := [("1", "10")] } },
       { id := "t", name := "phone", kindName := "tel", order := .ofInt 1 }] }

theorem outcome_orderForm :
    orderForm.fields.Perm orderForm.fields.reverse ∧ FieldsApart orderForm.fields ∧
      (orderForm.declaring orderForm.fields.reverse).outcome {} none false =
        orderForm.outcome {} none false := by
  have hperm : orderForm.fields.Perm orderForm.fields.reverse := (List.reverse_perm _).symm
  have hapart : FieldsApart orderForm.fields := by
    refine ⟨by decide, by decide, by decide +kernel, ?_, by decide⟩
    unfold Binary64.Same
    decide +kernel
  exact ⟨hperm, hapart, (outcome_declaring hperm hapart {} none).1⟩

end Form

end FormPress
