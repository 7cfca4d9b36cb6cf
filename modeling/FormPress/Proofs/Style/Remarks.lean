import FormPress.Proofs.Style.Pieces
import FormPress.Proofs.Style.Shape
import FormPress.Proofs.Text.Occurrences
import FormPress.Proofs.Text.Remarks

/-!
# Remarks in the stylesheet of a theme

A value loses the characters that end a declaration, yet it keeps the two marks around a remark. So a
value that opens a remark takes with it what follows. The rules behind the variables of a theme hold
no mark and cannot close it; the rule of the variables comes through whole exactly when none of its
values opens a remark.
-/

namespace FormPress.Style

open Text (Unmarked unmarked_ofList unremarked opening closing occursIn)

theorem textRule_unmarked : TextRule Unmarked where
  append := Unmarked.append
  seam := by
    simp only [seams, List.forall_mem_cons, List.not_mem_nil, false_implies, implies_true, and_true]
    repeat' apply And.intro
    all_goals exact unmarked_ofList rfl

/-! ## The rules behind the variables -/

theorem unmarked_gradient {first last : String} (hfirst : Unmarked first) (hlast : Unmarked last) :
    Unmarked (gradient first last) := by
  unfold gradient
  repeat' apply Unmarked.append
  all_goals first | exact hfirst | exact hlast | exact unmarked_ofList rfl

theorem unmarked_pageBackground (t : Theme) : Unmarked (pageBackground t) := by
  unfold pageBackground
  split
  · exact unmarked_ofList rfl
  · exact unmarked_gradient (unmarked_ofList rfl) (unmarked_ofList rfl)

theorem unmarked_pageRules (t : Theme) : ∀ s ∈ Sheet.texts (pageRules t), Unmarked s := by
  simp only [pageRules, forall_texts_cons, forall_texts_nil, forall_texts_short, forall_texts_each,
    forall_texts_long, forall_declarationTexts_cons, forall_declarationTexts_nil,
    List.forall_mem_cons, List.not_mem_nil, false_implies, implies_true, unmarked_pageBackground,
    true_and, and_true]
  repeat' apply And.intro
  all_goals exact unmarked_ofList rfl

theorem unmarked_headerRules (t : Theme) : ∀ s ∈ Sheet.texts (headerRules t), Unmarked s := by
  have hpadding : Unmarked t.headerPaddingTop := by
    unfold Theme.headerPaddingTop
    split
    · exact unmarked_ofList rfl
    · exact unmarked_ofList rfl
  simp only [headerRules, forall_texts_cons, forall_texts_nil, forall_texts_short,
    forall_texts_each, forall_declarationTexts_cons, forall_declarationTexts_nil, and_true]
  repeat' apply And.intro
  all_goals repeat' first | exact unmarked_ofList rfl | exact hpadding | apply Unmarked.append

theorem unmarked_groupRules : ∀ s ∈ Sheet.texts groupRules, Unmarked s := by
  simp only [groupRules, onLines, Text.join_cons, Text.concat_cons, Text.concat_nil, List.map_cons,
    List.map_nil, forall_texts_cons, forall_texts_nil, forall_texts_short, forall_texts_each,
    forall_declarationTexts_cons, forall_declarationTexts_nil, and_true]
  repeat' apply And.intro
  all_goals repeat' first | exact unmarked_ofList rfl | apply Unmarked.append

theorem unmarked_inputRules : ∀ s ∈ Sheet.texts inputRules, Unmarked s := by
  have harrow : Unmarked dropDownArrow := by
    unfold dropDownArrow
    repeat' apply Unmarked.append
    all_goals exact unmarked_ofList rfl
  simp only [inputRules, forall_texts_cons, forall_texts_nil, forall_texts_short,
    forall_texts_each, forall_declarationTexts_cons, forall_declarationTexts_nil, and_true]
  repeat' apply And.intro
  all_goals repeat' first | exact unmarked_ofList rfl | exact harrow | apply Unmarked.append

theorem unmarked_scaleRules : ∀ s ∈ Sheet.texts scaleRules, Unmarked s := by
  simp only [scaleRules, onLines, Text.join_cons, Text.concat_cons, Text.concat_nil, List.map_cons,
    List.map_nil, forall_texts_cons, forall_texts_nil, forall_texts_short,
    forall_declarationTexts_cons, forall_declarationTexts_nil, and_true]
  repeat' apply And.intro
  all_goals repeat' first | exact unmarked_ofList rfl | apply Unmarked.append

theorem unmarked_controlRules : ∀ s ∈ Sheet.texts controlRules, Unmarked s := by
  simp only [controlRules, forall_texts_append]
  refine ⟨⟨⟨⟨⟨⟨⟨⟨unmarked_inputRules, ?_⟩, unmarked_scaleRules⟩, ?_⟩, ?_⟩, ?_⟩, ?_⟩, ?_⟩, ?_⟩
  all_goals
    simp only [choiceRules, rankingRules, switchRules, pictureRules, compoundRules, widgetRules,
      noticeRules, forall_texts_cons, forall_texts_nil, forall_texts_short, forall_texts_each,
      forall_texts_long, forall_declarationTexts_cons, forall_declarationTexts_nil,
      List.forall_mem_cons, List.not_mem_nil, false_implies, implies_true, and_true]
    repeat' apply And.intro
    all_goals exact unmarked_ofList rfl

theorem unmarked_submitRules : ∀ s ∈ Sheet.texts submitRules, Unmarked s := by
  simp only [submitRules, forall_texts_cons, forall_texts_nil, forall_texts_short,
    forall_texts_each, forall_declarationTexts_cons, forall_declarationTexts_nil, and_true]
  repeat' apply And.intro
  all_goals first | exact unmarked_ofList rfl | apply unmarked_gradient
  all_goals exact unmarked_ofList rfl

theorem unmarked_narrowRules : ∀ s ∈ Sheet.texts narrowRules, Unmarked s := by
  simp only [narrowRules, forall_texts_cons, forall_texts_nil, forall_texts_media,
    forall_ruleTexts_cons, forall_ruleTexts_nil, forall_declarationTexts_cons,
    forall_declarationTexts_nil, and_true]
  repeat' apply And.intro
  all_goals exact unmarked_ofList rfl

/-- The rules of a theme behind its variables. -/
def furtherRules (t : Theme) : Sheet :=
  pageRules t ++ headerRules t ++ groupRules ++ controlRules ++ submitRules ++ narrowRules

theorem unmarked_furtherRules (t : Theme) : Unmarked (write (furtherRules t)) := by
  apply textRule_unmarked.write
  simp only [furtherRules, forall_texts_append]
  exact ⟨⟨⟨⟨⟨unmarked_pageRules t, unmarked_headerRules t⟩, unmarked_groupRules⟩,
    unmarked_controlRules⟩, unmarked_submitRules⟩, unmarked_narrowRules⟩

theorem write_cons {i : Item} {sheet : Sheet} (h : sheet ≠ []) :
    write (i :: sheet) = i.write ++ ("\n" ++ write sheet) := by
  cases sheet with
  | nil => contradiction
  | cons next rest => exact Text.join_cons_cons "\n" i.write next.write (rest.map Item.write)

/-- The stylesheet of the classic layout is the rule of the variables with further rules behind. -/
theorem writeTheme_classic (t : Theme) (i : LayoutImage) :
    writeTheme t .classic i = write (themeVariables t) ++ ("\n" ++ write (furtherRules t)) := by
  have hsheet : themeSheet t = themeVariables t ++ furtherRules t := by
    simp only [themeSheet, furtherRules, List.append_assoc]
  have hlayout : writeLayout .classic i = "" := if_pos rfl
  have hfurther : furtherRules t ≠ [] := by
    simp only [furtherRules, pageRules, List.cons_append]
    exact List.cons_ne_nil _ _
  rw [writeTheme_eq, hlayout, if_pos rfl, String.append_empty, hsheet]
  exact write_cons hfurther

/-- The further rules begin with a selector and a brace. -/
theorem exists_write_furtherRules (t : Theme) :
    ∃ rest, write (furtherRules t) = "[hidden]" ++ (" \x7b" ++ rest) := by
  simp only [furtherRules, pageRules, List.cons_append, write, List.map_cons, Text.join_cons,
    Item.write, writeShort, writeBody, String.append_assoc]
  exact ⟨_, rfl⟩

/-! ## The rule of the variables -/

/-- All declarations of an item. -/
def Item.declarations : Item → List Declaration
  | .short _ ds => ds
  | .long _ lines => lines.flatten
  | .media _ rules => rules.flatMap (·.2)
  | .keyframes _ frames => frames.flatMap (·.2)
  | .comment _ => []

/-- The declarations of the variables of a theme. -/
def rootDeclarations (t : Theme) : List Declaration :=
  (themeVariables t).flatMap Item.declarations

theorem themeVariables_eq (t : Theme) :
    themeVariables t = [.long ":root" (each (rootDeclarations t))] := by
  simp only [rootDeclarations, themeVariables, List.flatMap_cons, List.flatMap_nil, List.append_nil,
    Item.declarations, each, List.map_cons, List.map_nil, List.flatten_cons, List.flatten_nil,
    List.cons_append, List.nil_append]

theorem slash_notMem_ofList {cs : List Char} (h : cs.all (· != '/') = true) :
    '/' ∉ (String.ofList cs).toList := by
  rw [String.toList_ofList]
  intro hslash
  simpa using List.all_eq_true.1 h '/' hslash

/-- Names have no slash, and names and values bring no structure. -/
theorem rootDeclarations_plain (t : Theme) :
    ∀ d ∈ rootDeclarations t, '/' ∉ d.1.toList ∧ bones d.1 = "" ∧ bones d.2 = "" := by
  have hgradient : bones (gradient "var(--primary-color)" "var(--secondary-color)") = "" :=
    bones_gradient (bones_ofList rfl) (bones_ofList rfl)
  simp only [rootDeclarations, themeVariables, List.flatMap_cons, List.flatMap_nil, List.append_nil,
    Item.declarations, each, List.map_cons, List.map_nil, List.flatten_cons, List.flatten_nil,
    List.cons_append, List.nil_append, List.forall_mem_cons, bones_value, bones_name, bones_shadow,
    hgradient, List.not_mem_nil, false_implies, implies_true, and_true]
  repeat' apply And.intro
  all_goals first | exact bones_ofList rfl | exact slash_notMem_ofList rfl

/-- A declaration on a line of its own. -/
def declarationLine (d : Declaration) : List Char :=
  "\n  ".toList ++ (d.1.toList ++ ':' :: ' ' :: (d.2.toList ++ [';']))

/-- What stands between the braces of a rule on several lines, and the closing brace. -/
def ruleInner (ds : List Declaration) : List Char :=
  ds.flatMap declarationLine ++ ['\n', '\x7d']

theorem toList_write_each (selector : String) (ds : List Declaration) :
    (Item.write (.long selector (each ds))).toList =
      selector.toList ++ " \x7b".toList ++ ruleInner ds := by
  have hline (d : Declaration) :
      ("\n  " ++ writeDeclarations [d]).toList = declarationLine d := by
    simp [writeDeclarations, writeDeclaration, declarationLine]
  simp only [Item.write, writeLines, writeBody, each, List.map_map, String.toList_append,
    Text.toList_concat, List.flatMap_map, Function.comp, hline, ruleInner]
  simp

/-- The rule of the variables, cut behind its brace. -/
theorem toList_write_themeVariables (t : Theme) :
    (write (themeVariables t)).toList =
      ":root".toList ++ " \x7b".toList ++ ruleInner (rootDeclarations t) := by
  rw [themeVariables_eq]
  exact toList_write_each ":root" (rootDeclarations t)

/-- In a declaration whose name has no slash only the value can open a remark. -/
theorem occursIn_declarationLine {d : Declaration} (h : '/' ∉ d.1.toList) (rest : List Char) :
    occursIn opening (declarationLine d ++ rest) =
      (Text.contains "/*" d.2 || occursIn opening rest) := by
  have hopening : opening ≠ [] := List.cons_ne_nil _ _
  have hname : occursIn opening d.1.toList = false :=
    Text.occursIn_eq_false_of_notMem (List.mem_cons_self ..) h
  have hskip {c : Char} (hc : c ∉ opening) (t : List Char) :
      occursIn opening (c :: t) = occursIn opening t :=
    Text.occursIn_cons_of_notMem hopening hc t
  have hline : declarationLine d ++ rest =
      '\n' :: ' ' :: ' ' :: (d.1.toList ++ ':' :: ' ' :: (d.2.toList ++ ';' :: rest)) := by
    simp [declarationLine]
  rw [hline, hskip (by decide), hskip (by decide), hskip (by decide),
    Text.occursIn_append_cons hopening (by decide), hname, Bool.false_or, hskip (by decide),
    Text.occursIn_append_cons hopening (by decide)]
  rfl

theorem occursIn_ruleInner {ds : List Declaration} (h : ∀ d ∈ ds, '/' ∉ d.1.toList) :
    occursIn opening (ruleInner ds) = ds.any fun d => Text.contains "/*" d.2 := by
  rw [ruleInner]
  induction ds with
  | nil => rfl
  | cons d rest ih =>
    obtain ⟨hd, hrest⟩ := List.forall_mem_cons.1 h
    rw [List.flatMap_cons, List.append_assoc, occursIn_declarationLine hd, ih hrest, List.any_cons]

theorem notMem_of_bones_eq_empty {s : String} {c : Char} (h : bones s = "")
    (hc : isShaping c = true) : c ∉ s.toList := by
  intro hmem
  have hshape : c ∈ shape s := List.mem_filter.2 ⟨hmem, hc⟩
  rw [← String.toList_ofList (l := shape s), ← bones, h] at hshape
  contradiction

/-- Behind its own brace the rule of the variables opens no other. -/
theorem brace_notMem_ruleInner {ds : List Declaration}
    (h : ∀ d ∈ ds, bones d.1 = "" ∧ bones d.2 = "") : '\x7b' ∉ ruleInner ds := by
  rw [ruleInner, List.mem_append, List.mem_flatMap]
  rintro (⟨d, hd, hmem⟩ | hmem)
  · obtain ⟨hname, hvalue⟩ := h d hd
    have hnotName := notMem_of_bones_eq_empty (c := '\x7b') hname rfl
    have hnotValue := notMem_of_bones_eq_empty (c := '\x7b') hvalue rfl
    simp [declarationLine, hnotName, hnotValue] at hmem
  · simp at hmem

/-! ## Remarks in the rule of the variables -/

/-- A part of a rule that holds its closing brace cannot be read off other rules without a brace that
opens one. -/
theorem not_prefix_of_brace {part head rest : List Char} (hclose : '\x7d' ∈ part)
    (hopen : '\x7b' ∉ part) (hhead : '\x7d' ∉ head) : ¬part <+: head ++ '\x7b' :: rest := by
  intro hbegin
  have hpart : part <+: head := (Text.prefix_append_cons_iff hopen head rest).1 hbegin
  exact hhead (hpart.subset hclose)

/-- An opened remark leaves less of the rule than there was, and the rules behind cannot stand in for
what is missing. -/
theorem not_prefix_of_opening {inner further : List Char} (hopening : occursIn opening inner = true)
    (hlast : ∃ front, inner = front ++ ['\x7d']) (hbrace : '\x7b' ∉ inner)
    (hmarks : occursIn opening further = false ∧ occursIn closing further = false)
    (hfurther : ∃ head rest, further = head ++ '\x7b' :: rest ∧ '\x7d' ∉ head) :
    ¬inner <+: unremarked false (inner ++ further) := by
  obtain ⟨front, rfl⟩ := hlast
  obtain ⟨after, hafter⟩ :=
    Text.exists_unremarked_append (c := '\x7d') (by decide) (by decide) false front
  have hlength := Text.length_unremarked_lt hopening
  rw [List.append_assoc, List.singleton_append, hafter]
  generalize unremarked false (front ++ ['\x7d']) = kept at hlength
  intro hbegin
  -- What is left of the rule is its beginning; the rest of it would have to come from behind.
  obtain ⟨missing, hmissing⟩ := List.prefix_of_prefix_length_le (List.prefix_append _ _) hbegin
    (Nat.le_of_lt hlength)
  have hbehind : missing <+: unremarked after further := by
    rwa [← hmissing, List.prefix_append_right_inj] at hbegin
  have hne : missing ≠ [] := by
    rintro rfl
    rw [List.append_nil] at hmissing
    rw [hmissing] at hlength
    exact Nat.lt_irrefl _ hlength
  have hclose : '\x7d' ∈ missing := by
    have hlast := congrArg List.getLast? hmissing
    rw [List.getLast?_append, List.getLast?_eq_some_getLast hne, Option.some_or,
      List.getLast?_concat, Option.some_inj] at hlast
    exact hlast ▸ List.getLast_mem hne
  have hopen : '\x7b' ∉ missing := fun hmem =>
    hbrace (hmissing ▸ List.mem_append_right _ hmem)
  cases after with
  | true =>
    rw [Text.unremarked_true_of_not_occursIn hmarks.2, List.prefix_nil] at hbehind
    exact hne hbehind
  | false =>
    obtain ⟨head, rest, rfl, hhead⟩ := hfurther
    rw [Text.unremarked_of_not_occursIn hmarks.1] at hbehind
    exact not_prefix_of_brace hclose hopen hhead hbehind

theorem exists_furtherRules (t : Theme) :
    ∃ head rest, ("\n" ++ write (furtherRules t)).toList = head ++ '\x7b' :: rest ∧
      '\x7d' ∉ head := by
  obtain ⟨rest, hrest⟩ := exists_write_furtherRules t
  refine ⟨"\n[hidden] ".toList, rest.toList, ?_, by decide⟩
  rw [hrest]
  simp

/-- The stylesheet of the classic layout in three parts: the selector of the variables, what stands
behind its brace, and the further rules. -/
theorem toList_writeTheme_classic (t : Theme) (i : LayoutImage) :
    (writeTheme t .classic i).toList = ":root".toList ++ " \x7b".toList ++
      (ruleInner (rootDeclarations t) ++ ("\n" ++ write (furtherRules t)).toList) := by
  rw [writeTheme_classic, String.toList_append, toList_write_themeVariables, List.append_assoc]

/-- The further rules open no remark and close none. -/
theorem not_occursIn_furtherRules (t : Theme) :
    occursIn opening ("\n" ++ write (furtherRules t)).toList = false ∧
      occursIn closing ("\n" ++ write (furtherRules t)).toList = false :=
  Text.not_occursIn_of_unmarkedFrom
    (Unmarked.append (unmarked_ofList rfl) (unmarked_furtherRules t)).1

theorem exists_ruleInner (ds : List Declaration) :
    ∃ front, ruleInner ds = front ++ ['\x7d'] :=
  ⟨ds.flatMap declarationLine ++ ['\n'], by rw [ruleInner, List.append_assoc]; rfl⟩

/-- Without an opened remark nothing of the stylesheet is dropped. -/
theorem unremarked_writeTheme {t : Theme} (i : LayoutImage)
    (h : ∀ d ∈ rootDeclarations t, Text.contains "/*" d.2 = false) :
    unremarked false (writeTheme t .classic i).toList = (writeTheme t .classic i).toList := by
  have hinner : occursIn opening (ruleInner (rootDeclarations t)) = false := by
    rw [occursIn_ruleInner fun d hd => (rootDeclarations_plain t d hd).1, List.any_eq_false]
    simpa using h
  rw [toList_writeTheme_classic, Text.unremarked_append_of_notMem (by decide)]
  obtain ⟨front, hfront⟩ := exists_ruleInner (rootDeclarations t)
  rw [Text.unremarked_of_not_occursIn]
  have hclose : '\x7d' ∉ opening := by decide
  have hsplit (rest : List Char) : occursIn opening (front ++ '\x7d' :: rest) =
      (occursIn opening front || occursIn opening rest) :=
    Text.occursIn_append_cons (List.cons_ne_nil _ _) hclose front rest
  rw [hfront, hsplit] at hinner
  rw [hfront, List.append_assoc, List.singleton_append, hsplit, (not_occursIn_furtherRules t).1,
    Bool.or_false]
  exact (Bool.or_eq_false_iff.1 hinner).1

/-- A value that opens a remark breaks the rule of the variables. -/
theorem not_prefix_unremarked {t : Theme} (i : LayoutImage)
    (h : ¬∀ d ∈ rootDeclarations t, Text.contains "/*" d.2 = false) :
    ¬(write (themeVariables t)).toList <+:
      unremarked false (writeTheme t .classic i).toList := by
  have hplain := rootDeclarations_plain t
  have hopening : occursIn opening (ruleInner (rootDeclarations t)) = true := by
    rw [occursIn_ruleInner fun d hd => (hplain d hd).1, List.any_eq_true]
    simpa using h
  have hbrace := brace_notMem_ruleInner fun d hd => (hplain d hd).2
  rw [toList_writeTheme_classic, Text.unremarked_append_of_notMem (by decide),
    toList_write_themeVariables, List.prefix_append_right_inj]
  exact not_prefix_of_opening hopening (exists_ruleInner _) hbrace (not_occursIn_furtherRules t)
    (exists_furtherRules t)

/-- **The variables of a theme come through exactly when no value opens a remark.** Without remarks
the stylesheet of the classic layout still begins with the rule of the variables, every declaration
with the value that it was given, exactly when no value holds the opening mark; then nothing of the
stylesheet is dropped. -/
theorem themeVariables_unremarked_iff (t : Theme) (i : LayoutImage) :
    ((write (themeVariables t)).toList <+: unremarked false (writeTheme t .classic i).toList ↔
      ∀ d ∈ rootDeclarations t, Text.contains "/*" d.2 = false) ∧
    (unremarked false (writeTheme t .classic i).toList = (writeTheme t .classic i).toList ↔
      ∀ d ∈ rootDeclarations t, Text.contains "/*" d.2 = false) := by
  have hbegins : (write (themeVariables t)).toList <+: (writeTheme t .classic i).toList := by
    rw [writeTheme_classic, String.toList_append]
    exact List.prefix_append _ _
  have hbroken := not_prefix_unremarked (t := t) i
  refine ⟨⟨fun hbegin => ?_, fun h => ?_⟩, fun hsame => ?_, unremarked_writeTheme i⟩
  · exact Decidable.not_not.1 fun h => hbroken h hbegin
  · rwa [unremarked_writeTheme i h]
  · exact Decidable.not_not.1 fun h => hbroken h (hsame.symm ▸ hbegins)

/-- A theme whose first colour opens a remark. -/
def remarkTheme : Theme :=
  { primaryColor := "/*" }

/-- The colour keeps the mark, and the rule of the variables is lost behind it. -/
theorem themeVariables_swallowed :
    value remarkTheme.primaryColor = "/*" ∧
    ¬(write (themeVariables remarkTheme)).toList <+:
      unremarked false (writeTheme remarkTheme .classic {}).toList := by
  have hvalue : value remarkTheme.primaryColor = "/*" := rfl
  refine ⟨hvalue, not_prefix_unremarked {} fun h => ?_⟩
  have hfirst : ("--primary-color", value remarkTheme.primaryColor) ∈ rootDeclarations remarkTheme :=
    List.mem_cons_self ..
  have hcontains := h _ hfirst
  rw [hvalue] at hcontains
  contradiction

end FormPress.Style
