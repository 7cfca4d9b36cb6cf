import FormPress.Command.Run
import FormPress.Proofs.Document.Compile
import FormPress.Proofs.Form.Checked

/-!
# Three ways to check a form

A strict compilation refuses a form by its references, a lenient one only logs them, and the check
command prints them. All three go by the same report: what the first refuses is what the second
warns of and the third lists.
-/

namespace FormPress

open Command

namespace Form

/-- What compiling a form comes to when strictness is set. -/
def outcome (form : Form) (settings : Settings) (logo : Option String) (strict : Bool) :
    Except CompileFault String :=
  (form.compile { settings with strict := strict } logo).result

variable {form : Form} {settings : Settings} {logo : Option String}

theorem outcome_of_refused {strict : Bool} {fault : ReferenceFault}
    (h : (form.checkReferences strict).result = .error fault) :
    form.outcome settings logo strict = .error (.references fault) :=
  compile_of_refused logo h

/-- Beside the check, strictness has no part in a compilation. -/
theorem outcome_of_accepted {strict : Bool} {report : ReferenceReport}
    (h : (form.checkReferences strict).result = .ok report) :
    form.outcome settings logo strict = (form.assemble settings logo).result.mapError .number :=
  compile_of_accepted logo h

theorem outcome_false :
    form.outcome settings logo false = (form.assemble settings logo).result.mapError .number :=
  outcome_of_accepted (checkReferences_lenient form)

/-- No fault of the references comes out of the steps after the check. -/
theorem outcome_false_ne_references (fault : ReferenceFault) :
    form.outcome settings logo false ≠ .error (.references fault) := by
  rw [outcome_false]
  intro h
  cases hassemble : (form.assemble settings logo).result with
  | error number =>
    rw [hassemble] at h
    cases h
  | ok html =>
    rw [hassemble] at h
    cases h

/-- The three outcomes of a strict compilation. -/
theorem outcome_true_cases (form : Form) (settings : Settings) (logo : Option String) :
    (form.RefersNowhere ∧
      form.outcome settings logo true = .error (.references (.dangling form.id form.report))) ∨
    (¬form.RefersNowhere ∧ form.DependsInCircle ∧
      form.outcome settings logo true = .error (.references (.cyclic form.id form.report))) ∨
    (¬form.RefersNowhere ∧ ¬form.DependsInCircle ∧
      form.outcome settings logo true = form.outcome settings logo false) := by
  rcases form.checkReferences_true_cases with ⟨hnowhere, h⟩ | ⟨hresolved, hcircle, h⟩ |
    ⟨hresolved, hacyclic, h⟩
  · exact .inl ⟨hnowhere, outcome_of_refused h⟩
  · exact .inr (.inl ⟨hresolved, hcircle, outcome_of_refused h⟩)
  · exact .inr (.inr ⟨hresolved, hacyclic, (outcome_of_accepted h).trans outcome_false.symm⟩)

theorem outcome_true_dangling_iff :
    (∃ id report,
      form.outcome settings logo true = .error (.references (.dangling id report))) ↔
      form.RefersNowhere := by
  rcases form.outcome_true_cases settings logo with ⟨hnowhere, h⟩ | ⟨hresolved, -, h⟩ |
    ⟨hresolved, -, h⟩
  · exact iff_of_true ⟨_, _, h⟩ hnowhere
  · refine iff_of_false ?_ hresolved
    rintro ⟨id, report, hdangling⟩
    rw [h] at hdangling
    cases hdangling
  · refine iff_of_false ?_ hresolved
    rintro ⟨id, report, hdangling⟩
    exact outcome_false_ne_references _ (h.symm.trans hdangling)

theorem outcome_true_cyclic_iff :
    (∃ id report,
      form.outcome settings logo true = .error (.references (.cyclic id report))) ↔
      ¬form.RefersNowhere ∧ form.DependsInCircle := by
  rcases form.outcome_true_cases settings logo with ⟨hnowhere, h⟩ | ⟨hresolved, hcircle, h⟩ |
    ⟨-, hacyclic, h⟩
  · refine iff_of_false ?_ fun hcircle => hcircle.1 hnowhere
    rintro ⟨id, report, hcyclic⟩
    rw [h] at hcyclic
    cases hcyclic
  · exact iff_of_true ⟨_, _, h⟩ ⟨hresolved, hcircle⟩
  · refine iff_of_false ?_ fun hcircle => hacyclic hcircle.2
    rintro ⟨id, report, hcyclic⟩
    exact outcome_false_ne_references _ (h.symm.trans hcyclic)

/-- A refusal tells every line of the report. -/
theorem exists_message_of_outcome_true {fault : ReferenceFault}
    (hfault : form.outcome settings logo true = .error (.references fault)) :
    ∃ head, fault.message = Text.join "\n" (head :: form.report.lines) := by
  rcases form.outcome_true_cases settings logo with ⟨-, h⟩ | ⟨-, -, h⟩ | ⟨-, -, h⟩
  · rw [h] at hfault
    obtain rfl : ReferenceFault.dangling form.id form.report = fault := by
      cases hfault
      rfl
    exact (ReferenceFault.exists_message form.id form.report).1
  · rw [h] at hfault
    obtain rfl : ReferenceFault.cyclic form.id form.report = fault := by
      cases hfault
      rfl
    exact (ReferenceFault.exists_message form.id form.report).2
  · exact absurd (h.symm.trans hfault) (outcome_false_ne_references fault)

end Form

/-! ## The command -/

/-- The check command works on the report of the form. -/
theorem Command.Surroundings.check_of_loaded {w : Surroundings} {config : String} {r : Request}
    {settings : Settings} {form : Form} (verbose : Bool)
    (hload : (w.loadBoth config r.form).result = .ok (settings, form)) :
    w.check config verbose r =
      let lines := (w.loadBoth config r.form).lines ++ form.report.lines.map form.warning
      if form.report.isClean then
        { printed := form.id ++ ": ok\n", lines := some lines, verbose := verbose }
      else
        { exitCode := 1, printed := Text.concat (form.report.lines.map (· ++ "\n")),
          lines := some lines, verbose := verbose } := by
  unfold Command.Surroundings.check
  dsimp only
  rw [hload]
  dsimp only
  rw [Form.checkReferences_false]

/-- The check command says that a form is fine when a strict check accepts it; else it prints the
report. -/
theorem Command.Surroundings.check_cases {w : Surroundings} {config : String} {r : Request}
    {settings : Settings} {form : Form} (verbose : Bool)
    (hload : (w.loadBoth config r.form).result = .ok (settings, form)) :
    (w.check config verbose r).unexpected = none ∧
    (((∃ report, (form.checkReferences true).result = .ok report) ∧
      (w.check config verbose r).exitCode = 0 ∧
      (w.check config verbose r).printed = form.id ++ ": ok\n") ∨
    ((∃ fault, (form.checkReferences true).result = .error fault) ∧
      (w.check config verbose r).exitCode = 1 ∧
      (w.check config verbose r).printed =
        Text.concat (form.report.lines.map (· ++ "\n")))) := by
  rw [check_of_loaded verbose hload]
  dsimp only
  by_cases hclean : form.report.isClean = true
  · rw [if_pos hclean]
    exact ⟨rfl, .inl ⟨⟨_, Form.checkReferences_true_of_isClean hclean⟩, rfl, rfl⟩⟩
  · rw [if_neg hclean]
    refine ⟨rfl, .inr ⟨?_, rfl, rfl⟩⟩
    rcases form.checkReferences_true_cases with ⟨-, h⟩ | ⟨-, -, h⟩ | ⟨hresolved, hacyclic, -⟩
    · exact ⟨_, h⟩
    · exact ⟨_, h⟩
    · exact absurd (Form.isClean_report_iff.2 ⟨hresolved, hacyclic⟩) hclean

/-- **The three ways to check a form agree.** A strict compilation is refused for a dangling
reference exactly when some reference names no field, for a cycle exactly when there is none but the
graph of the dependencies has a cycle, and either refusal tells the whole report; every other
strict compilation comes to the same as a lenient one. A lenient check accepts every form, with one
warning for each line of the report. The check command, once settings and form are loaded, ends well
exactly when a strict check accepts the form; else it prints the report. -/
theorem Form.checks_agree (form : Form) (settings : Settings) (logo : Option String) :
    ((∃ id report,
      form.outcome settings logo true = .error (.references (.dangling id report))) ↔
      form.RefersNowhere) ∧
    ((∃ id report,
      form.outcome settings logo true = .error (.references (.cyclic id report))) ↔
      ¬form.RefersNowhere ∧ form.DependsInCircle) ∧
    (∀ fault, form.outcome settings logo true = .error (.references fault) →
      ∃ head, fault.message = Text.join "\n" (head :: form.report.lines)) ∧
    (¬form.RefersNowhere → ¬form.DependsInCircle →
      form.outcome settings logo true = form.outcome settings logo false) ∧
    form.checkReferences false = ⟨form.report.lines.map form.warning, .ok form.report⟩ ∧
    ∀ (w : Surroundings) (config : String) (verbose : Bool) (r : Request) (loaded : Settings),
      (w.loadBoth config r.form).result = .ok (loaded, form) →
      ∃ o, w.perform config verbose r .check = .done o ∧ o.unexpected = none ∧
        (((∃ report, (form.checkReferences true).result = .ok report) ∧
          o.exitCode = 0 ∧ o.printed = form.id ++ ": ok\n") ∨
        ((∃ fault, (form.checkReferences true).result = .error fault) ∧
          o.exitCode = 1 ∧
          o.printed = Text.concat (form.report.lines.map (· ++ "\n")))) := by
  refine ⟨outcome_true_dangling_iff, outcome_true_cyclic_iff, ?_, ?_, checkReferences_false, ?_⟩
  · intro fault hfault
    exact exists_message_of_outcome_true hfault
  · intro hresolved hacyclic
    rcases form.outcome_true_cases settings logo with ⟨h, -⟩ | ⟨-, h, -⟩ | ⟨-, -, h⟩
    · exact absurd h hresolved
    · exact absurd h hacyclic
    · exact h
  · intro w config verbose r loaded hload
    exact ⟨w.check config verbose r, rfl, Surroundings.check_cases verbose hload⟩

/-- A form of two fields that are shown depending on each other. -/
def Form.mutualForm : Form :=
  { fields := [{ id := "a", rules := [{ dependsOn := "b" }] },
               { id := "b", rules := [{ dependsOn := "a" }] }] }

theorem Form.outcome_mutualForm :
    ∃ id report, mutualForm.outcome {} none true = .error (.references (.cyclic id report)) := by
  have hresolved : ¬mutualForm.RefersNowhere := by
    rw [← isEmpty_dangling_iff]
    decide
  have hforth : (dependencyGraph mutualForm.fields).Edge "a" "b" := by
    unfold Graph.Edge
    decide
  have hback : (dependencyGraph mutualForm.fields).Edge "b" "a" := by
    unfold Graph.Edge
    decide
  have hcircle : mutualForm.DependsInCircle := ⟨"a", .tail (.single hforth) hback⟩
  exact (checks_agree mutualForm {} none).2.1.2 ⟨hresolved, hcircle⟩

end FormPress
