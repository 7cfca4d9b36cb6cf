import FormPress.Proofs.Script.Neat
import FormPress.Script.Conditions
import FormPress.Script.Paging
import FormPress.Script.Reveal
import FormPress.Script.Submission
import FormPress.Script.Widgets

/-!
# The parts of the script

Every part of the page's script is neat. Each proof opens the part into its fixed texts and looks at
them one by one; the values of a form do not occur in what is left.
-/

namespace FormPress.Script

/-! ## Fields, conditions and widgets -/

theorem neat_access (internalNames : List String) : ListAll Neat (access internalNames) := by
  apply listAll_paragraphs
  simp only [formHandles, isInternal, toArray, findField, controlsOf, controlValues, fieldValue,
    setFieldValue, isShown, isRequiredNow, markError, validateScope, all_function, all_block,
    all_code, lineAll_quoted, List.cons_append, List.nil_append, listAll_nil, listAll_cons,
    all_line, all_blocks, armsAll_nil, armsAll_cons, lineAll_nil, lineAll_code,
    lineAll_value, List.forall_mem_cons, List.not_mem_nil, false_implies, implies_true, and_true]
  repeat' apply And.intro
  all_goals repeat' first | exact neat_ofList rfl rfl | rfl | apply Neat.append

theorem neat_conditions : ListAll Neat conditions := by
  apply listAll_paragraphs
  simp only [operators, evaluate, applyFieldRules, applyOptionRules, applyLookups, safeFormula,
    applyFormulas, refreshConditions, conditionListeners, all_function, all_block, all_code,
    all_blank, List.cons_append, List.nil_append, listAll_nil, listAll_cons, all_blocks,
    armsAll_nil, armsAll_cons, lineAll_nil, lineAll_code, List.forall_mem_cons,
    List.not_mem_nil, false_implies, implies_true, true_and, and_true]
  repeat' apply And.intro
  all_goals repeat' first | exact neat_ofList rfl rfl | rfl | apply Neat.append

theorem neat_widgets : ListAll Neat widgets := by
  apply listAll_paragraphs
  simp only [notify, phoneWidgets, signatureWidgets, voiceWidgets, richTextWidgets, rankingWidgets,
    collapseWidgets, addressHandle, refreshAddress, addressListener, all_function, all_block,
    all_code, lineAll_quoted, all_blank, listAll_nil, listAll_cons, all_line,
    all_blocks, armsAll_nil, armsAll_cons, lineAll_nil, lineAll_code, List.forall_mem_cons,
    List.not_mem_nil, false_implies, implies_true, true_and, and_true]
  repeat' apply And.intro
  all_goals repeat' first | exact neat_ofList rfl rfl | rfl | apply Neat.append

/-! ## Pages and entrances -/

theorem neat_paging (heroImages : List (Option String)) : ListAll Neat (paging heroImages) := by
  apply listAll_paragraphs
  simp only [pageHandles, swapHeroImage, goToPage, pageListener, all_function, all_block,
    all_code, listAll_nil, listAll_cons, all_line, lineAll_nil, lineAll_code,
    lineAll_value, List.forall_mem_cons, List.not_mem_nil, false_implies, implies_true, and_true]
  repeat' apply And.intro
  all_goals repeat' first | exact neat_ofList rfl rfl | rfl | apply Neat.append

theorem neat_reveal (e : Entrances) : ListAll Neat (reveal e) := by
  apply listAll_paragraphs
  simp only [revealHandles, revealOne, revealWhenSeen, all_function, all_block, all_code,
    lineAll_quoted, listAll_nil, listAll_cons, all_line, all_blocks, armsAll_nil,
    armsAll_cons, lineAll_nil, lineAll_code, lineAll_value, List.forall_mem_cons,
    List.not_mem_nil, false_implies, implies_true, and_true]
  repeat' apply And.intro
  all_goals repeat' first | exact neat_ofList rfl rfl | rfl | apply Neat.append

/-! ## Submission -/

theorem neat_confetti : ListAll Neat confetti := by
  apply listAll_paragraphs
  simp only [confettiSettings, launchConfetti, all_function, all_block, all_code, all_blank,
    listAll_nil, listAll_cons, all_blocks, armsAll_nil, armsAll_cons, lineAll_nil,
    lineAll_code, List.forall_mem_cons, List.not_mem_nil, false_implies, implies_true, true_and,
    and_true]
  repeat' apply And.intro
  all_goals repeat' first | exact neat_ofList rfl rfl | rfl | apply Neat.append

theorem neat_attributionParams (defaults : List (String × String)) :
    ListAll Neat (attributionParams defaults) := by
  simp only [attributionParams, all_function, all_block, all_code, all_blank, listAll_nil,
    listAll_cons, all_line, lineAll_nil, lineAll_code, lineAll_value, true_and, and_true]
  repeat' apply And.intro
  all_goals repeat' first | exact neat_ofList rfl rfl | rfl | apply Neat.append

/-- A reported value and the code behind it. -/
theorem neat_reported (name : Option String) {s : String} (hs : Neat false s) :
    LineAll Neat false (reported name ++ [.code s]) := by
  unfold reported
  split
  · exact ⟨neat_ofList rfl rfl, rfl, neat_ofList rfl rfl, hs, trivial⟩
  · exact ⟨neat_ofList rfl rfl, hs, trivial⟩

theorem neat_fireConversions (c : Conversions) : ListAll Neat (fireConversions c) := by
  refine ⟨neat_function (neat_ofList rfl rfl) ?_, trivial⟩
  rw [listAll_append, listAll_append, listAll_map]
  refine ⟨⟨?_, ?_⟩, ?_⟩
  · split
    · simp only [all_block, all_code, listAll_nil, listAll_cons, all_line, lineAll_nil,
        lineAll_code, List.cons_append, List.nil_append, stillAfter_false, and_true]
      repeat' apply And.intro
      all_goals first | exact neat_ofList rfl rfl | exact neat_reported _ (neat_ofList rfl rfl)
    · trivial
  · split
    · simp only [all_block, all_code, listAll_nil, listAll_cons, lineAll_nil,
        lineAll_code, and_true]
      exact ⟨neat_ofList rfl rfl, neat_ofList rfl rfl⟩
    · trivial
  · intro target _
    simp only [all_block, lineAll_quoted, listAll_nil, listAll_cons, all_line,
      lineAll_nil, lineAll_code, and_true]
    repeat' apply And.intro
    all_goals first | exact neat_ofList rfl rfl | rfl

theorem neat_authorization (apiKey : String) : (authorization apiKey).All Neat :=
  ⟨neat_ofList rfl rfl, rfl, neat_ofList rfl rfl, trivial⟩

theorem neat_relayRow (s : SheetTarget) : ListAll Neat (relayRow s) := by
  have hkey : ListAll Neat (if s.apiKey.shown = "" then [] else [authorization s.apiKey.shown]) := by
    split
    · trivial
    · exact ⟨neat_authorization s.apiKey.shown, trivial⟩
  simp only [relayRow, all_block, all_code, lineAll_quoted, listAll_nil, listAll_cons,
    all_line, all_blocks, armsAll_nil, armsAll_cons, lineAll_nil, lineAll_code,
    lineAll_value, listAll_append, hkey, and_true, true_and]
  repeat' apply And.intro
  all_goals first | exact neat_ofList rfl rfl | rfl

theorem neat_recordEntry (p : SubmissionPlan) (l : LoggerTarget) :
    ListAll Neat (recordEntry p l) := by
  have hkey : ListAll Neat (if l.apiKey.shown = "" then []
      else [.line [.code "headers.apikey = ", quoted l.apiKey.shown, .code ";"],
        authorization l.apiKey.shown]) := by
    split
    · trivial
    · exact ⟨⟨neat_ofList rfl rfl, rfl, neat_ofList rfl rfl, trivial⟩,
        neat_authorization l.apiKey.shown, trivial⟩
  simp only [recordEntry, listAll_append, hkey, and_true]
  simp only [all_block, all_code, lineAll_quoted, listAll_nil, listAll_cons, all_line,
    all_blocks, armsAll_nil, armsAll_cons, lineAll_nil, lineAll_code, and_true]
  repeat' apply And.intro
  all_goals repeat' first | exact neat_ofList rfl rfl | rfl | apply Neat.append

theorem neat_finish (p : SubmissionPlan) : ListAll Neat (finish p) := by
  refine ⟨neat_function (neat_ofList rfl rfl) ⟨?_, ?_⟩, trivial⟩
  · simp only [all_code]
    exact neat_ofList rfl rfl
  · split
    · simp only [redirect, all_block, lineAll_quoted, listAll_nil, listAll_cons, all_line,
        lineAll_nil, lineAll_code, lineAll_value, and_true]
      repeat' apply And.intro
      all_goals first | exact neat_ofList rfl rfl | rfl
    · simp only [thank, all_code, lineAll_quoted, listAll_nil, listAll_cons, all_line,
        lineAll_nil, lineAll_code, and_true]
      repeat' apply And.intro
      all_goals first | exact neat_ofList rfl rfl | rfl

theorem neat_postToWebhook (w : WebhookTarget) (withAttribution : Bool) :
    ListAll Neat (postToWebhook w withAttribution) := by
  simp only [postToWebhook, all_block, all_code, lineAll_quoted, all_blank, listAll_nil,
    listAll_cons, all_line, all_blocks, armsAll_nil, armsAll_cons, lineAll_nil,
    lineAll_code, lineAll_value, true_and, and_true]
  repeat' apply And.intro
  all_goals first | exact neat_ofList rfl rfl | rfl | (split <;> exact neat_ofList rfl rfl)

theorem neat_submitListener (p : SubmissionPlan) : ListAll Neat (submitListener p) := by
  simp only [submitListener, all_block, listAll_nil, listAll_cons, all_line,
    listAll_append, and_true]
  simp only [all_code, all_blank, lineAll_nil, lineAll_code, true_and, and_true]
  repeat' apply And.intro
  all_goals first | exact neat_ofList rfl rfl | split
  all_goals first
    | exact neat_ofList rfl rfl
    | exact neat_postToWebhook _ _
    | exact ⟨all_code.2 (neat_ofList rfl rfl), trivial⟩

theorem neat_submitHandler (p : SubmissionPlan) : ListAll Neat (submitHandler p) := by
  have hrelay : ListAll Neat (relayToSheet p) :=
    ⟨neat_function (neat_ofList rfl rfl) (listAll_flatMap fun s _ => neat_relayRow s), trivial⟩
  have hrecord : ListAll Neat (recordSubmission p) :=
    ⟨neat_function (neat_ofList rfl rfl) (listAll_flatMap fun l _ => neat_recordEntry p l),
      trivial⟩
  apply listAll_paragraphs
  simp only [List.forall_mem_append, List.forall_mem_cons, List.forall_mem_map, List.not_mem_nil,
    false_implies, implies_true, and_true, neat_attributionParams, neat_fireConversions, hrelay,
    hrecord, neat_finish, neat_submitListener, true_and]
  simp only [submitHandles, collectValues, setBusy, showError, onSuccess, firstInvalidPage,
    all_function, all_block, all_code, lineAll_quoted, listAll_nil, listAll_cons, all_line,
    all_blocks, armsAll_nil, armsAll_cons, lineAll_nil, lineAll_code, and_true]
  repeat' apply And.intro
  all_goals repeat' first | exact neat_ofList rfl rfl | rfl | apply Neat.append

theorem neat_submission (p : SubmissionPlan) : ListAll Neat (submission p) :=
  listAll_append.2 ⟨neat_confetti, neat_submitHandler p⟩

end FormPress.Script
