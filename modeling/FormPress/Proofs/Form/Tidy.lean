import FormPress.Form.Load
import FormPress.Proofs.Decode.Dumped
import FormPress.Proofs.Form.Loaded
import FormPress.Proofs.Json.Tidy
import Mathlib.Data.List.Nodup

/-!
# Dumps that are tidy

The dump of a loaded form fits the reader of form files: its numbers are canonical and short, and a
form is at most seven containers deep. Inside a field each key stands once as well, so that nothing
is dropped from a field before it is read.
-/

namespace FormPress.Dump

open Json (Allowance Fits Tidy tidy_array tidy_object fits_object)

variable {α : Type} {a : Allowance} {depth : Nat} {dump : α → Json}

/-! ## Values of attributes -/

@[simp] theorem tidy_word [Vocabulary α] (x : α) : Tidy a depth (word x) :=
  Json.tidy_string _

theorem tidy_optional {o : Option α} (h : ∀ x ∈ o, Tidy a depth (dump x)) :
    Tidy a depth (optional dump o) := by
  cases o with
  | none => exact Json.tidy_null
  | some x => exact h x rfl

@[simp] theorem tidy_optional_text (o : Option String) : Tidy a depth (optional .string o) :=
  tidy_optional fun s _ => Json.tidy_string s

theorem tidy_list {items : List α} (h : ∀ x ∈ items, Tidy a depth (dump x)) :
    Tidy a (depth + 1) (list dump items) := by
  refine tidy_array fun v hv => ?_
  obtain ⟨x, hx, rfl⟩ := List.mem_map.1 hv
  exact h x hx

@[simp] theorem tidy_list_text (items : List String) :
    Tidy a (depth + 1) (list .string items) :=
  tidy_list fun s _ => Json.tidy_string s

theorem tidy_table {entries : List (String × String)} (h : (entries.map Prod.fst).Nodup) :
    Tidy a (depth + 1) (table entries) := by
  refine tidy_object ?_ fun m hm => ?_
  · rw [List.map_map]
    exact h
  · obtain ⟨e, -, rfl⟩ := List.mem_map.1 hm
    exact Json.tidy_string e.2

variable {number : Binary64 → Json}

theorem tidy_int {i : Int} (h : Number.IsShort i) : Tidy Load.allowance depth (.int i) :=
  ⟨h, rfl⟩

theorem tidy_number (hnumber : IsSpelling number) {x : Binary64} (hx : x.IsCanonical) :
    Tidy Load.allowance depth (number x) := by
  rcases hnumber x with h | h
  · rw [h]
    exact ⟨⟨hx, by decide⟩, rfl⟩
  · rw [h]
    exact Json.tidy_string _

/-! ## Records inside fields -/

theorem tidy_choiceRule (r : ChoiceRule) : Tidy a (depth + 1) (choiceRule r) := by
  refine tidy_object ?_ ?_
  · simp only [List.map_cons, List.map_nil]
    decide
  · simp

theorem tidy_choice (c : Choice) : Tidy a (depth + 2) (choice c) := by
  have hrule : Tidy a (depth + 1) (optional choiceRule c.rule) :=
    tidy_optional fun r _ => tidy_choiceRule r
  refine tidy_object ?_ ?_
  · simp only [List.map_cons, List.map_nil]
    decide
  · simp [hrule]

theorem tidy_choiceGroup (g : ChoiceGroup) : Tidy a (depth + 2) (choiceGroup g) := by
  refine tidy_object ?_ ?_
  · simp only [List.map_cons, List.map_nil]
    decide
  · simp

theorem tidy_dependentChoices (d : DependentChoices) :
    Tidy a (depth + 4) (dependentChoices d) := by
  have hgroups : Tidy a (depth + 3) (list choiceGroup d.groups) :=
    tidy_list fun g _ => tidy_choiceGroup g
  refine tidy_object ?_ ?_
  · simp only [List.map_cons, List.map_nil]
    decide
  · simp [hgroups]

theorem tidy_rule (r : Rule) : Tidy a (depth + 1) (rule r) := by
  refine tidy_object ?_ ?_
  · simp only [List.map_cons, List.map_nil]
    decide
  · simp

theorem tidy_lookup {l : Lookup} (hl : (l.table.map Prod.fst).Nodup) :
    Tidy a (depth + 2) (lookup l) := by
  refine tidy_object ?_ ?_
  · simp only [List.map_cons, List.map_nil]
    decide
  · simp [tidy_table hl]

theorem tidy_formula (f : Formula) : Tidy a (depth + 2) (formula f) := by
  refine tidy_object ?_ ?_
  · simp only [List.map_cons, List.map_nil]
    decide
  · simp

theorem tidy_field (hnumber : IsSpelling number) {f : Field} (hf : f.IsLoaded) :
    Tidy Load.allowance (depth + 5) (fieldWith number f) := by
  have hminLength : Tidy Load.allowance (depth + 4) (optional .int f.minLength) :=
    tidy_optional fun i hi => tidy_int (hf.minLength i hi)
  have hmaxLength : Tidy Load.allowance (depth + 4) (optional .int f.maxLength) :=
    tidy_optional fun i hi => tidy_int (hf.maxLength i hi)
  have hnumbers {o : Option Binary64} (h : ∀ x ∈ o, x.IsCanonical) :
      Tidy Load.allowance (depth + 4) (optional number o) :=
    tidy_optional fun x hx => tidy_number hnumber (h x hx)
  have hoptions : Tidy Load.allowance (depth + 4) (list choice f.options) :=
    tidy_list fun c _ => tidy_choice c
  have hrules : Tidy Load.allowance (depth + 4) (list rule f.rules) :=
    tidy_list fun r _ => tidy_rule r
  have hlookup : Tidy Load.allowance (depth + 4) (optional lookup f.lookup) :=
    tidy_optional fun l hl => tidy_lookup (hf.lookup l hl)
  have hformula : Tidy Load.allowance (depth + 4) (optional formula f.formula) :=
    tidy_optional fun g _ => tidy_formula g
  have hdependent : Tidy Load.allowance (depth + 4) (optional dependentChoices f.dependent) :=
    tidy_optional fun d _ => tidy_dependentChoices d
  refine tidy_object ?_ ?_
  · simp only [List.map_cons, List.map_nil]
    decide
  · simp [hminLength, hmaxLength, hnumbers hf.min, hnumbers hf.max, hnumbers hf.step,
      hnumbers hf.width, hoptions, hrules, hlookup, hformula, hdependent,
      tidy_number hnumber hf.order]

/-! ## Records of the form -/

theorem tidy_theme (t : Theme) : Tidy a (depth + 1) (theme t) := by
  refine tidy_object ?_ ?_
  · simp only [List.map_cons, List.map_nil]
    decide
  · simp

theorem tidy_webhook {w : Webhook} (hw : (w.headers.map Prod.fst).Nodup) :
    Tidy a (depth + 2) (webhook w) := by
  have hdefaults : Tidy a (depth + 1) (attributionDefaults w.attributionDefaults) := by
    refine tidy_object ?_ ?_
    · simp only [List.map_cons, List.map_nil]
      decide
    · simp
  refine tidy_object ?_ ?_
  · simp only [List.map_cons, List.map_nil]
    decide
  · simp [tidy_table hw, hdefaults]

theorem tidy_pixels (p : Pixels) : Tidy a (depth + 1) (pixels p) := by
  refine tidy_object ?_ ?_
  · simp only [List.map_cons, List.map_nil]
    decide
  · simp

theorem tidy_spreadsheet (s : Spreadsheet) : Tidy a (depth + 1) (spreadsheet s) := by
  refine tidy_object ?_ ?_
  · simp only [List.map_cons, List.map_nil]
    decide
  · simp

theorem tidy_entrances {e : Entrances} (he : e.IsLoaded) :
    Tidy Load.allowance (depth + 1) (entrances e) := by
  refine tidy_object ?_ ?_
  · simp only [List.map_cons, List.map_nil]
    decide
  · simp [tidy_int he.duration.2, tidy_int he.staggerDelay.2]

/-- Short integers have different texts, so a table keeps its keys apart. -/
theorem tidy_intTable {entries : List (Int × String)} (hkeys : (entries.map Prod.fst).Nodup)
    (hshort : ∀ e ∈ entries, Number.IsShort e.1) : Tidy a (depth + 1) (intTable entries) := by
  refine tidy_object ?_ fun m hm => ?_
  · have htexts : ((entries.map Prod.fst).map Text.decimalInt).Nodup := by
      refine List.Nodup.map_on (fun i hi j hj h => ?_) hkeys
      obtain ⟨e, he, rfl⟩ := List.mem_map.1 hi
      obtain ⟨g, hg, rfl⟩ := List.mem_map.1 hj
      have hread := Number.readInt_decimalInt (hshort e he)
      rw [h, Number.readInt_decimalInt (hshort g hg)] at hread
      exact (Except.ok.inj hread).symm
    rw [List.map_map] at htexts ⊢
    exact htexts
  · obtain ⟨e, -, rfl⟩ := List.mem_map.1 hm
    exact Json.tidy_string e.2

/-- **The dump of a loaded form is tidy to the reader of form files.** -/
theorem tidy_form (hnumber : IsSpelling number) {form : Form} (hform : form.IsLoaded) :
    Tidy Load.allowance (depth + 7) (formWith number form) := by
  have hfields : Tidy Load.allowance (depth + 6) (list (fieldWith number) form.fields) :=
    tidy_list fun f hf => tidy_field hnumber (hform.fields f hf)
  have hheroes : Tidy Load.allowance (depth + 6) (intTable form.pageHeroImages) :=
    tidy_intTable hform.pageHeroImages.1 hform.pageHeroImages.2
  refine tidy_object ?_ ?_
  · simp only [List.map_cons, List.map_nil]
    decide
  · simp [hfields, hheroes, tidy_theme, tidy_entrances hform.animations, tidy_webhook hform.headers,
      tidy_pixels, tidy_spreadsheet,
      tidy_number hnumber hform.layoutImagePositionX.isCanonical,
      tidy_number hnumber hform.layoutImagePositionY.isCanonical,
      tidy_number hnumber hform.layoutImagePanelWidth.isCanonical]

end FormPress.Dump
