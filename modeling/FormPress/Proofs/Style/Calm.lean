import FormPress.Proofs.Style.Pieces
import FormPress.Proofs.Text.Occurrences
import FormPress.Style.Token
import Mathlib.Tactic.SplitIfs

/-!
# Calm stylesheets

A stylesheet is calm when its selectors, properties and values are. Authored texts enter in three
places: a value and an address lose every `<`, and a block of authored rules has every end tag
broken up.
-/

namespace FormPress.Style

open Text (Calm calmFrom calm_ofList calm_of_notMem calm_empty)

/-! ## Authored texts -/

theorem calm_value (s : String) : Calm (value s) := by
  apply calm_of_notMem
  rw [value, String.toList_ofList, valueChars]
  intro hmem
  have hkept := (List.mem_filter.1 (Text.mem_of_mem_stripBy hmem)).2
  revert hkept
  decide

theorem notMem_addressChar (c : Char) : '<' ∉ addressChar c := by
  unfold addressChar
  split_ifs with hquote hback hlt
  · decide
  · decide
  · decide
  · decide
  · decide
  · rw [List.mem_singleton]
    exact Ne.symm hlt

theorem calm_imageAddress (s : String) : Calm (imageAddress s) := by
  have haddress : Calm (Text.substitute addressChar s) := by
    apply calm_of_notMem
    rw [Text.toList_substitute, List.mem_flatMap]
    rintro ⟨c, -, hc⟩
    exact notMem_addressChar c hc
  unfold imageAddress
  split
  · exact calm_ofList rfl
  · exact (Calm.append (calm_ofList rfl) haddress).append (calm_ofList rfl)

/-- A text that goes on with another character than `/` is calm behind a `<` as well. -/
theorem calmFrom_true {s : List Char} (hne : s ≠ []) (hhead : s.head? ≠ some '/')
    (h : calmFrom false s = true) : calmFrom true s = true := by
  cases s with
  | nil => contradiction
  | cons c rest =>
    have hc : (c == '/') = false := by
      apply beq_false_of_ne
      rintro rfl
      exact hhead rfl
    rw [calmFrom, hc]
    rwa [calmFrom] at h

theorem head?_sealTags (s : List Char) : (sealTags s).head? = s.head? := by
  unfold sealTags
  split <;> rfl

/-- Authored rules are calm on a line of their own: a `<` at their end meets the line break. -/
theorem calmFrom_sealTags (s : List Char) : calmFrom false (sealTags s ++ ['\n']) = true := by
  fun_induction sealTags s with
  | case1 rest ih => exact ih
  | case2 c rest hrest ih =>
    by_cases hc : c = '<'
    · subst hc
      have hhead : (sealTags rest ++ ['\n']).head? ≠ some '/' := by
        rw [List.head?_append, head?_sealTags]
        cases rest with
        | nil => decide
        | cons d tail =>
          intro hd
          obtain rfl := Option.some.inj hd
          exact hrest tail rfl rfl
      exact calmFrom_true (by simp) hhead ih
    · rw [List.cons_append, calmFrom, beq_false_of_ne hc]
      exact ih
  | case3 => rfl

theorem calm_block (s : String) : Calm (block s ++ "\n") := by
  constructor
  rw [String.toList_append, block, String.toList_ofList]
  exact calmFrom_sealTags s.toList

/-! ## Sheets -/

/-- Properties and values are calm. -/
def DeclarationsCalm : List Declaration → Prop
  | [] => True
  | (name, value) :: rest => Calm name ∧ Calm value ∧ DeclarationsCalm rest

/-- All lines of declarations are calm. -/
def LinesCalm : List (List Declaration) → Prop
  | [] => True
  | ds :: rest => DeclarationsCalm ds ∧ LinesCalm rest

/-- Selectors and declarations are calm. -/
def RulesCalm : List (String × List Declaration) → Prop
  | [] => True
  | (selector, ds) :: rest => Calm selector ∧ DeclarationsCalm ds ∧ RulesCalm rest

/-- All texts of an item are calm. -/
def Item.IsCalm : Item → Prop
  | .short selector ds => Calm selector ∧ DeclarationsCalm ds
  | .long selector lines => Calm selector ∧ LinesCalm lines
  | .media query rules => Calm query ∧ RulesCalm rules
  | .keyframes name frames => Calm name ∧ RulesCalm frames
  | .comment s => Calm s

/-- All items of a stylesheet are calm. -/
def SheetCalm : Sheet → Prop
  | [] => True
  | i :: rest => i.IsCalm ∧ SheetCalm rest

theorem linesCalm_each {ds : List Declaration} : LinesCalm (each ds) ↔ DeclarationsCalm ds := by
  induction ds with
  | nil => simp [each, LinesCalm, DeclarationsCalm]
  | cons d rest ih =>
    obtain ⟨name, value⟩ := d
    simp only [each, List.map_cons, LinesCalm, DeclarationsCalm, and_true, and_assoc]
    rw [← ih, each]

theorem sheetCalm_append {left right : Sheet} :
    SheetCalm (left ++ right) ↔ SheetCalm left ∧ SheetCalm right := by
  induction left with
  | nil => simp [SheetCalm]
  | cons i rest ih => simp [SheetCalm, ih, and_assoc]

theorem sheetCalm_map {α : Type} {xs : List α} {item : α → Item} :
    SheetCalm (xs.map item) ↔ ∀ a ∈ xs, (item a).IsCalm := by
  induction xs with
  | nil => simp [SheetCalm]
  | cons a rest ih => simp [SheetCalm, ih]

theorem sheetCalm_flatMap {α : Type} {xs : List α} {sheet : α → Sheet}
    (h : ∀ a ∈ xs, SheetCalm (sheet a)) : SheetCalm (xs.flatMap sheet) := by
  induction xs with
  | nil => simp [SheetCalm]
  | cons a rest ih =>
    rw [List.flatMap_cons, sheetCalm_append]
    exact ⟨h a (by simp), ih fun b hb => h b (List.mem_cons_of_mem _ hb)⟩

/-! ## Written sheets -/

theorem DeclarationsCalm.calm_of_mem {ds : List Declaration} (h : DeclarationsCalm ds) :
    ∀ d ∈ ds, Calm d.1 ∧ Calm d.2 := by
  induction ds with
  | nil => simp
  | cons d rest ih =>
    obtain ⟨name, value⟩ := d
    exact List.forall_mem_cons.2 ⟨⟨h.1, h.2.1⟩, ih h.2.2⟩

theorem LinesCalm.calm_of_mem {lines : List (List Declaration)} (h : LinesCalm lines) :
    ∀ ds ∈ lines, DeclarationsCalm ds := by
  induction lines with
  | nil => simp
  | cons ds rest ih => exact List.forall_mem_cons.2 ⟨h.1, ih h.2⟩

theorem RulesCalm.calm_of_mem {rules : List (String × List Declaration)} (h : RulesCalm rules) :
    ∀ r ∈ rules, Calm r.1 ∧ DeclarationsCalm r.2 := by
  induction rules with
  | nil => simp
  | cons r rest ih =>
    obtain ⟨selector, ds⟩ := r
    exact List.forall_mem_cons.2 ⟨⟨h.1, h.2.1⟩, ih h.2.2⟩

theorem SheetCalm.calm_of_mem {sheet : Sheet} (h : SheetCalm sheet) :
    ∀ i ∈ sheet, i.IsCalm := by
  induction sheet with
  | nil => simp
  | cons i rest ih => exact List.forall_mem_cons.2 ⟨h.1, ih h.2⟩

theorem DeclarationsCalm.texts {ds : List Declaration} (h : DeclarationsCalm ds) :
    ∀ s ∈ declarationTexts ds, Calm s := by
  rw [declarationTexts, List.forall_mem_flatMap]
  intro d hd
  obtain ⟨hname, hvalue⟩ := h.calm_of_mem d hd
  exact List.forall_mem_cons.2 ⟨hname, List.forall_mem_singleton.2 hvalue⟩

theorem RulesCalm.texts {rules : List (String × List Declaration)} (h : RulesCalm rules) :
    ∀ s ∈ ruleTexts rules, Calm s := by
  rw [ruleTexts, List.forall_mem_flatMap]
  intro r hr
  obtain ⟨hselector, hds⟩ := h.calm_of_mem r hr
  exact List.forall_mem_cons.2 ⟨hselector, hds.texts⟩

theorem Item.IsCalm.texts {i : Item} (h : i.IsCalm) : ∀ s ∈ i.texts, Calm s := by
  cases i with
  | short selector ds => exact List.forall_mem_cons.2 ⟨h.1, h.2.texts⟩
  | long selector lines =>
    refine List.forall_mem_cons.2 ⟨h.1, List.forall_mem_flatMap.2 fun ds hds => ?_⟩
    exact (h.2.calm_of_mem ds hds).texts
  | media query rules => exact List.forall_mem_cons.2 ⟨h.1, h.2.texts⟩
  | keyframes name frames => exact List.forall_mem_cons.2 ⟨h.1, h.2.texts⟩
  | comment s =>
    have hremark : Calm s := h
    exact List.forall_mem_singleton.2
      ((Calm.append (calm_ofList rfl) hremark).append (calm_ofList rfl))

theorem textRule_calm : TextRule Calm where
  append := Calm.append
  seam := by
    simp only [seams, List.forall_mem_cons, List.not_mem_nil, false_implies, implies_true, and_true]
    repeat' apply And.intro
    all_goals exact calm_ofList rfl

/-- **A calm stylesheet is written as a calm text.** -/
theorem calm_write {sheet : Sheet} (h : SheetCalm sheet) : Calm (write sheet) :=
  textRule_calm.write (List.forall_mem_flatMap.2 fun i hi => (h.calm_of_mem i hi).texts)

end FormPress.Style
