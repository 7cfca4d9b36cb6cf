import FormPress.Proofs.Script.Parts
import FormPress.Proofs.Text.Lines

/-!
# The declaration of the images

The images that the pages of a form swap are declared in a line of the script, as a literal. No
other line begins like this one: the lines of blocks are indented, what stands between blocks begins
with a brace, and the fixed code at the top begins in other ways. So the declaration can be found in
the text of the script, and a reader of JSON gets the images back.
-/

namespace FormPress.Script

open Text (linesWhere)

/-- How the line begins that declares the images. -/
def imagesMark : List Char :=
  "var heroImages = ".toList

/-- Whether a line declares the images. -/
def declaresImages (line : List Char) : Bool :=
  imagesMark.isPrefixOf line

/-! ## Other lines -/

/-- Whether a text and all that begin with it begin otherwise. -/
def beginsApart (s : List Char) : Bool :=
  !imagesMark.isPrefixOf s && !s.isPrefixOf imagesMark

theorem declaresImages_append {s : List Char} (h : beginsApart s = true) (t : List Char) :
    declaresImages (s ++ t) = false := by
  rw [beginsApart, Bool.and_eq_true, Bool.not_eq_true', Bool.not_eq_true', Bool.eq_false_iff,
    Bool.eq_false_iff, Ne, Ne, List.isPrefixOf_iff_prefix, List.isPrefixOf_iff_prefix] at h
  rw [declaresImages, Bool.eq_false_iff, Ne, List.isPrefixOf_iff_prefix]
  intro hmark
  rcases List.prefix_or_prefix_of_prefix hmark (List.prefix_append s t) with hle | hle
  · exact h.1 hle
  · exact h.2 hle

/-- Fixed code that begins otherwise. -/
structure Apart (s : String) : Prop where
  begins : beginsApart s.toList = true

theorem apart_ofList {cs : List Char} (h : beginsApart cs = true) : Apart (String.ofList cs) :=
  ⟨by rwa [String.toList_ofList]⟩

theorem Apart.declaresImages {s : String} (h : Apart s) (t : String) :
    declaresImages (s ++ t).toList = false := by
  rw [String.toList_append]
  exact declaresImages_append h.begins t.toList

theorem Apart.append {s : String} (h : Apart s) (t : String) : Apart (s ++ t) := by
  have hmark := h.declaresImages t
  have hbegins := h.begins
  rw [Script.declaresImages] at hmark
  rw [beginsApart, Bool.and_eq_true, Bool.not_eq_true', Bool.not_eq_true'] at hbegins
  constructor
  rw [beginsApart, hmark, Bool.not_false, Bool.true_and, Bool.not_eq_true', Bool.eq_false_iff,
    Ne, List.isPrefixOf_iff_prefix, String.toList_append]
  intro hprefix
  have hwhole : s.toList <+: imagesMark := (List.prefix_append _ _).trans hprefix
  rw [← List.isPrefixOf_iff_prefix, hbegins.2] at hwhole
  contradiction

/-- Code at the top whose first line begins otherwise. -/
def Code.Apart : Code → Prop
  | .line [] => True
  | .line (.code s :: _) => Script.Apart s
  | .block ((.code s :: _, _) :: _) _ => Script.Apart s
  | .line (.value _ :: _) | .block _ _ => False

section Pieces

variable {s : String} {l tail : Line} {body : List Code} {arms : List (Line × List Code)}

@[simp] theorem apart_blank : blank.Apart :=
  trivial

@[simp] theorem apart_code : (code s).Apart ↔ Apart s :=
  Iff.rfl

@[simp] theorem apart_line : (Code.line (.code s :: tail)).Apart ↔ Apart s :=
  Iff.rfl

@[simp] theorem apart_blocks : (Code.block ((.code s :: l, body) :: arms) tail).Apart ↔ Apart s :=
  Iff.rfl

@[simp] theorem apart_block : (block (.code s :: l) body tail).Apart ↔ Apart s :=
  Iff.rfl

@[simp] theorem apart_function {signature : String} : (function signature body).Apart := by
  have hfunction : Apart "function " := apart_ofList rfl
  rw [function, apart_block, String.append_assoc]
  exact hfunction.append _

end Pieces

/-! ### Indented lines -/

mutual

theorem exists_indented_of_mem_lines {indent : Nat} {c : Code} {s : String}
    (h : s ∈ c.lines indent) : ∃ n t, indent ≤ n ∧ s = indented n t := by
  cases c with
  | line pieces =>
    rw [Code.lines, List.mem_singleton] at h
    exact ⟨indent, _, Nat.le_refl _, h⟩
  | block arms tail => exact exists_indented_of_mem_armLines h

theorem exists_indented_of_mem_armLines {indent : Nat} {lead : String}
    {arms : List (Line × List Code)} {tail : Line} {s : String}
    (h : s ∈ armLines indent lead arms tail) : ∃ n t, indent ≤ n ∧ s = indented n t := by
  cases arms with
  | nil =>
    rw [armLines, List.mem_singleton] at h
    exact ⟨indent, _, Nat.le_refl _, h⟩
  | cons arm rest =>
    obtain ⟨head, body⟩ := arm
    rw [armLines, List.mem_cons, List.mem_append] at h
    rcases h with rfl | hbody | hrest
    · exact ⟨indent, _, Nat.le_refl _, rfl⟩
    · obtain ⟨n, t, hn, rfl⟩ := exists_indented_of_mem_listLines hbody
      exact ⟨n, t, by omega, rfl⟩
    · exact exists_indented_of_mem_armLines hrest

theorem exists_indented_of_mem_listLines {indent : Nat} {part : List Code} {s : String}
    (h : s ∈ listLines indent part) : ∃ n t, indent ≤ n ∧ s = indented n t := by
  cases part with
  | nil => simp [listLines] at h
  | cons c rest =>
    rw [listLines, List.mem_append] at h
    rcases h with h | h
    · exact exists_indented_of_mem_lines h
    · exact exists_indented_of_mem_listLines h

end

theorem indented_zero (s : String) : indented 0 s = s := by
  unfold indented
  split
  · rename_i hs
    exact hs.symm
  · simp

theorem declaresImages_indented {indent : Nat} (h : 0 < indent) (s : String) :
    declaresImages (indented indent s).toList = false := by
  obtain ⟨n, rfl⟩ : ∃ n, indent = n + 1 := ⟨indent - 1, by omega⟩
  unfold indented
  split
  · rfl
  · rw [String.toList_append, String.toList_ofList]
    rfl

/-! ### Lines at the top -/

theorem declaresImages_armLines {arms : List (Line × List Code)} {tail : Line} :
    ∀ s ∈ armLines 0 "\x7d" arms tail, declaresImages s.toList = false := by
  have hbrace : Apart "\x7d" := apart_ofList rfl
  induction arms with
  | nil =>
    rw [armLines, List.forall_mem_singleton, indented_zero]
    exact hbrace.declaresImages _
  | cons arm rest ih =>
    obtain ⟨head, body⟩ := arm
    rw [armLines, List.forall_mem_cons, List.forall_mem_append, indented_zero,
      String.append_assoc]
    refine ⟨hbrace.declaresImages _, fun s hs => ?_, ih⟩
    obtain ⟨n, t, hn, rfl⟩ := exists_indented_of_mem_listLines hs
    exact declaresImages_indented (by omega) t

theorem Code.Apart.declaresImages {c : Code} (h : c.Apart) :
    ∀ s ∈ c.lines 0, Script.declaresImages s.toList = false := by
  unfold Code.Apart at h
  split at h
  · rw [Code.lines, List.forall_mem_singleton, indented_zero]
    rfl
  · rw [Code.lines, List.forall_mem_singleton, indented_zero, writeLine, List.map_cons,
      Text.concat_cons]
    exact h.declaresImages _
  · rw [Code.lines, armLines, List.forall_mem_cons, List.forall_mem_append, indented_zero,
      String.empty_append, writeLine, List.map_cons, Text.concat_cons, String.append_assoc]
    refine ⟨h.declaresImages _, fun s hs => ?_, declaresImages_armLines⟩
    obtain ⟨n, t, hn, rfl⟩ := exists_indented_of_mem_listLines hs
    exact declaresImages_indented (by omega) t
  · exact h.elim
  · exact h.elim

theorem listLines_append (indent : Nat) (left right : List Code) :
    listLines indent (left ++ right) = listLines indent left ++ listLines indent right := by
  induction left with
  | nil => rfl
  | cons c rest ih => rw [List.cons_append, listLines, listLines, ih, List.append_assoc]

theorem declaresImages_listLines {part : List Code} (h : ∀ c ∈ part, c.Apart) :
    ∀ s ∈ listLines 0 part, declaresImages s.toList = false := by
  induction part with
  | nil => simp [listLines]
  | cons c rest ih =>
    rw [List.forall_mem_cons] at h
    rw [listLines, List.forall_mem_append]
    exact ⟨h.1.declaresImages, ih h.2⟩

theorem filter_listLines {part : List Code} (h : ∀ c ∈ part, c.Apart) :
    ((listLines 0 part).map String.toList).filter declaresImages = [] := by
  rw [List.filter_eq_nil_iff, List.forall_mem_map]
  intro s hs
  simp [declaresImages_listLines h s hs]

theorem linesWhere_write {part : List Code} (h : ListAll Neat part) :
    linesWhere declaresImages (write part).toList =
      ((listLines 0 part).map String.toList).filter declaresImages := by
  have hlines : ∀ s ∈ listLines 0 part, '\n' ∉ s.toList :=
    fun s hs => (lineRule_inLine.listLines 0 h s hs).newline
  rw [write, Text.linesWhere_join rfl]
  generalize listLines 0 part = lines at hlines
  induction lines with
  | nil => rfl
  | cons s rest ih =>
    rw [List.forall_mem_cons] at hlines
    rw [List.flatMap_cons, List.map_cons, List.filter_cons, ih hlines.2,
      Text.linesWhere_of_notMem hlines.1]
    split
    all_goals rfl

/-- Parts of the script in which nothing declares images. -/
theorem linesWhere_of_apart {part : List Code} (hneat : ListAll Neat part)
    (hapart : ∀ c ∈ part, c.Apart) : linesWhere declaresImages (write part).toList = [] := by
  rw [linesWhere_write hneat, filter_listLines hapart]

/-! ## The parts of the script -/

theorem forall_mem_paragraphs {P : Code → Prop} (hblank : P blank) {parts : List (List Code)}
    (h : ∀ part ∈ parts, ∀ c ∈ part, P c) : ∀ c ∈ paragraphs parts, P c := by
  fun_induction paragraphs parts with
  | case1 => simp
  | case2 part => exact h part (by simp)
  | case3 part next rest ih =>
    rw [List.forall_mem_append, List.forall_mem_cons]
    exact ⟨h part (by simp), hblank, ih fun p hp => h p (List.mem_cons_of_mem _ hp)⟩

theorem apart_access (internalNames : List String) : ∀ c ∈ access internalNames, c.Apart := by
  apply forall_mem_paragraphs apart_blank
  simp only [formHandles, isInternal, toArray, findField, controlsOf, controlValues, fieldValue,
    setFieldValue, isShown, isRequiredNow, markError, validateScope, List.forall_mem_cons,
    List.not_mem_nil, false_implies, implies_true, and_true, apart_function, apart_code,
    apart_line, true_and]
  repeat' apply And.intro
  all_goals exact apart_ofList rfl

theorem apart_conditions : ∀ c ∈ conditions, c.Apart := by
  apply forall_mem_paragraphs apart_blank
  simp only [operators, evaluate, applyFieldRules, applyOptionRules, applyLookups, safeFormula,
    applyFormulas, refreshConditions, conditionListeners, List.forall_mem_cons,
    List.not_mem_nil, false_implies, implies_true, and_true, apart_function, apart_code,
    apart_block, true_and]
  repeat' apply And.intro
  all_goals exact apart_ofList rfl

theorem apart_widgets : ∀ c ∈ widgets, c.Apart := by
  apply forall_mem_paragraphs apart_blank
  simp only [notify, phoneWidgets, signatureWidgets, voiceWidgets, richTextWidgets,
    rankingWidgets, collapseWidgets, addressHandle, refreshAddress, addressListener,
    List.forall_mem_cons, List.not_mem_nil, false_implies, implies_true, and_true, apart_function,
    apart_code, apart_block, true_and]
  repeat' apply And.intro
  all_goals exact apart_ofList rfl

theorem apart_reveal (e : Entrances) : ∀ c ∈ reveal e, c.Apart := by
  apply forall_mem_paragraphs apart_blank
  simp only [revealHandles, revealOne, revealWhenSeen, List.forall_mem_cons, List.not_mem_nil,
    false_implies, implies_true, and_true, apart_function, apart_blocks, apart_line,
    true_and]
  repeat' apply And.intro
  all_goals exact apart_ofList rfl

theorem apart_submission (p : SubmissionPlan) : ∀ c ∈ submission p, c.Apart := by
  rw [submission, List.forall_mem_append]
  constructor
  · apply forall_mem_paragraphs apart_blank
    simp only [confettiSettings, launchConfetti, List.forall_mem_cons, List.not_mem_nil,
      false_implies, implies_true, and_true, apart_function, apart_code]
    repeat' apply And.intro
    all_goals first | exact apart_ofList rfl | exact Apart.append (apart_ofList rfl) _
  · apply forall_mem_paragraphs apart_blank
    simp only [submitHandles, attributionParams, collectValues, setBusy, showError,
      fireConversions, relayToSheet, recordSubmission, finish, onSuccess, firstInvalidPage,
      submitListener, List.forall_mem_append, List.forall_mem_map, List.forall_mem_cons,
      List.not_mem_nil, false_implies, implies_true, and_true, apart_function, apart_code,
      apart_block, apart_line, apart_blank, true_and]
    repeat' apply And.intro
    all_goals first | exact apart_ofList rfl | exact fun _ _ => apart_ofList rfl

/-! ## The declaration -/

/-- The line that declares images. -/
def imagesLine (images : List (Option String)) : List Char :=
  imagesMark ++ ((literal (heroJson images)).toList ++ [';'])

theorem declaresImages_imagesLine (images : List (Option String)) :
    declaresImages (imagesLine images) = true := by
  rw [declaresImages, List.isPrefixOf_iff_prefix]
  exact List.prefix_append _ _

/-- The code of the declaration. -/
def declaration (images : List (Option String)) : Code :=
  .line [.code "var heroImages = ", .value (heroJson images), .code ";"]

theorem lines_declaration (images : List (Option String)) :
    ((declaration images).lines 0).map String.toList = [imagesLine images] := by
  have hmark : "var heroImages = ".toList = imagesMark := rfl
  have hend : ";".toList = [';'] := rfl
  have hwrite : writeLine [.code "var heroImages = ", .value (heroJson images), .code ";"] =
      "var heroImages = " ++ (literal (heroJson images) ++ ";") := by
    simp only [writeLine, List.map_cons, List.map_nil, Text.concat_cons, Text.concat_nil,
      Piece.write, String.append_empty]
  rw [declaration, Code.lines, indented_zero, hwrite, List.map_singleton, String.toList_append,
    String.toList_append, hmark, hend, imagesLine]

/-- The part for pages: the declaration, and code that declares nothing. -/
theorem exists_paging (images : List (Option String)) :
    ∃ before after, paging images = before ++ declaration images :: after ∧
      (∀ c ∈ before, c.Apart) ∧ ∀ c ∈ after, c.Apart := by
  refine ⟨[code "var pages = toArray(form.querySelectorAll(\".form-page\"));",
      code "var pageDots = toArray(document.querySelectorAll(\".page-dot\"));"],
    code "var currentPage = 0;" :: blank ::
      paragraphs [swapHeroImage, goToPage images, pageListener], rfl, ?_, ?_⟩
  · simp only [List.forall_mem_cons, List.not_mem_nil, false_implies, implies_true, and_true,
      apart_code]
    exact ⟨apart_ofList rfl, apart_ofList rfl⟩
  · rw [List.forall_mem_cons, List.forall_mem_cons]
    refine ⟨apart_code.2 (apart_ofList rfl), apart_blank, forall_mem_paragraphs apart_blank ?_⟩
    simp only [swapHeroImage, goToPage, pageListener, List.forall_mem_cons, List.not_mem_nil,
      false_implies, implies_true, and_true, true_and, apart_function, apart_block, apart_line]
    exact ⟨apart_ofList rfl, apart_ofList rfl⟩

/-- **The part for pages declares the images once.** -/
theorem linesWhere_paging (images : List (Option String)) :
    linesWhere declaresImages (write (paging images)).toList = [imagesLine images] := by
  obtain ⟨before, after, hpaging, hbefore, hafter⟩ := exists_paging images
  have hone : [imagesLine images].filter declaresImages = [imagesLine images] :=
    List.filter_cons_of_pos (declaresImages_imagesLine images)
  rw [linesWhere_write (neat_paging images), hpaging, listLines_append, listLines,
    List.map_append, List.map_append, List.filter_append, List.filter_append,
    filter_listLines hbefore, filter_listLines hafter, lines_declaration, hone]
  rfl

end FormPress.Script
