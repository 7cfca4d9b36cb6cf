import FormPress.Decode.Scalar
import FormPress.Form.Dump
import FormPress.Form.Vocabulary
import FormPress.Proofs.Decode.Records
import FormPress.Proofs.Number.Texts

/-!
# Dumped values

A dumped value passes its check and comes out as it was. For texts, words, truth values and integers
there is nothing to ask; a number must be canonical where it is written as a text, and a table must
have each key once. A word is found by its name: a vocabulary lists all its members, and no two of
them have one name.
-/

namespace FormPress

/-! ## Words of vocabularies -/

/-- A vocabulary whose members are found by their names. -/
class LawfulVocabulary (α : Type) [Vocabulary α] : Prop where
  ofName?_name : ∀ a : α, Vocabulary.ofName? (Vocabulary.name a) = some a

attribute [simp] LawfulVocabulary.ofName?_name

instance : LawfulVocabulary Operator where
  ofName?_name := fun a => by cases a <;> rfl

instance : LawfulVocabulary RuleAction where
  ofName?_name := fun a => by cases a <;> rfl

instance : LawfulVocabulary PageLayout where
  ofName?_name := fun a => by cases a <;> rfl

instance : LawfulVocabulary GridLayout where
  ofName?_name := fun a => by cases a <;> rfl

instance : LawfulVocabulary ImageFit where
  ofName?_name := fun a => by cases a <;> rfl

instance : LawfulVocabulary Shadow where
  ofName?_name := fun a => by cases a <;> rfl

instance : LawfulVocabulary Alignment where
  ofName?_name := fun a => by cases a <;> rfl

instance : LawfulVocabulary SendMethod where
  ofName?_name := fun a => by cases a <;> rfl

instance : LawfulVocabulary Easing where
  ofName?_name := fun a => by cases a <;> rfl

instance : LawfulVocabulary LogoEntrance where
  ofName?_name := fun a => by cases a <;> rfl

instance : LawfulVocabulary TitleEntrance where
  ofName?_name := fun a => by cases a <;> rfl

instance : LawfulVocabulary HeaderEntrance where
  ofName?_name := fun a => by cases a <;> rfl

instance : LawfulVocabulary FieldEntrance where
  ofName?_name := fun a => by cases a <;> rfl

instance : LawfulVocabulary FooterEntrance where
  ofName?_name := fun a => by cases a <;> rfl

instance : LawfulVocabulary CursivePart where
  ofName?_name := fun a => by cases a <;> rfl

/-! ## Dumps and their checks -/

/-- Ways to write the numbers of a dump: each as it is, or as its text in the source layout. -/
def Dump.IsSpelling (number : Binary64 → Json) : Prop :=
  ∀ x, number x = .float x ∨ number x = .string (NumberLayout.source.write x)

theorem Dump.isSpelling_float : IsSpelling .float := fun _ => .inl rfl

namespace Decode

variable {α : Type} {check : Json → Checked α} {dump : α → Json}

/-! ## Single values -/

@[simp] theorem text_string (layout : NumberLayout) (s : String) :
    text layout (.string s) = .valid s := rfl

@[simp] theorem bool_bool (b : Bool) : bool (.bool b) = .valid b := rfl

@[simp] theorem int_int (i : Int) : int (.int i) = .valid i := rfl

@[simp] theorem word_dump [Vocabulary α] [LawfulVocabulary α] (a : α) :
    word (Dump.word a) = .valid a := by
  simp [word, Dump.word]

theorem intAtLeast_int {limit i : Int} (h : limit ≤ i) :
    intAtLeast limit (.int i) = .valid i := by
  rw [intAtLeast, int_int, Checked.bind, if_pos h]

variable {number : Binary64 → Json} {x : Binary64}

theorem number_spelled (hnumber : Dump.IsSpelling number) (hx : x.IsCanonical) :
    Decode.number (number x) = .valid x := by
  rcases hnumber x with h | h
  · rw [h]
    rfl
  · rw [h, Decode.number, Number.readFloat?_write hx]

theorem boundedNumber_spelled (hnumber : Dump.IsSpelling number) (hx : x.IsCanonical) :
    boundedNumber (number x) = .valid x := by
  have hread := number_spelled hnumber hx
  rcases hnumber x with h | h
  · rw [h]
    rfl
  · rw [h] at hread ⊢
    exact hread

/-! ## Optional values and lists -/

theorem optional_of_ne_null {v : Json} (h : v ≠ .null) :
    optional check v = (check v).map some := by
  unfold optional
  split
  · contradiction
  · rfl

theorem optional_dump {o : Option α} (hnull : ∀ a, dump a ≠ .null)
    (h : ∀ a ∈ o, check (dump a) = .valid a) :
    optional check (Dump.optional dump o) = .valid o := by
  cases o with
  | none => rfl
  | some a => rw [Dump.optional, optional_of_ne_null (hnull a), h a rfl]; rfl

@[simp] theorem optional_text (layout : NumberLayout) (o : Option String) :
    optional (text layout) (Dump.optional .string o) = .valid o :=
  optional_dump (fun _ => nofun) fun _ _ => rfl

@[simp] theorem optional_int (o : Option Int) :
    optional int (Dump.optional .int o) = .valid o :=
  optional_dump (fun _ => nofun) fun _ _ => rfl

theorem ne_null_of_isSpelling (hnumber : Dump.IsSpelling number) (x : Binary64) :
    number x ≠ .null := by
  rcases hnumber x with h | h
  · rw [h]
    nofun
  · rw [h]
    nofun

theorem optional_number (hnumber : Dump.IsSpelling number) {o : Option Binary64}
    (ho : ∀ x ∈ o, x.IsCanonical) :
    optional boundedNumber (Dump.optional number o) = .valid o :=
  optional_dump (ne_null_of_isSpelling hnumber) fun x hx => boundedNumber_spelled hnumber (ho x hx)

theorem all_itemsFrom {items : List α} (h : ∀ a ∈ items, check (dump a) = .valid a) (i : Nat) :
    Checked.all (itemsFrom check i (items.map dump)) = .valid items := by
  induction items generalizing i with
  | nil => rfl
  | cons a rest ih =>
    rw [List.forall_mem_cons] at h
    rw [List.map_cons, itemsFrom, h.1, Checked.all, ih h.2]
    rfl

theorem list_dump {items : List α} (h : ∀ a ∈ items, check (dump a) = .valid a) :
    list check (Dump.list dump items) = .valid items :=
  all_itemsFrom h 0

@[simp] theorem list_text (layout : NumberLayout) (items : List String) :
    list (text layout) (Dump.list .string items) = .valid items :=
  list_dump fun _ _ => rfl

/-! ## Tables -/

theorem all_map_valid {checked : α → Checked α} {items : List α}
    (h : ∀ a ∈ items, checked a = .valid a) : Checked.all (items.map checked) = .valid items := by
  induction items with
  | nil => rfl
  | cons a rest ih =>
    rw [List.forall_mem_cons] at h
    rw [List.map_cons, Checked.all, h.1, ih h.2]
    rfl

theorem table_dump (layout : NumberLayout) {entries : List (String × String)}
    (h : (entries.map Prod.fst).Nodup) :
    table (text layout) (Dump.table entries) = .valid entries := by
  rw [Dump.table, table, List.map_map, all_map_valid, Checked.map_valid,
    Table.ofEntries_of_nodup h]
  exact fun _ _ => rfl

theorem intTable_dump (layout : NumberLayout) {entries : List (Int × String)}
    (hkeys : (entries.map Prod.fst).Nodup) (hshort : ∀ e ∈ entries, Number.IsShort e.1) :
    intTable (text layout) (Dump.intTable entries) = .valid entries := by
  have hentry : ∀ e ∈ entries,
      intKeyed (text layout) (Text.decimalInt e.1) (.string e.2) = .valid e := by
    intro e he
    simp [intKeyed, int, Number.readInt_decimalInt (hshort e he), Checked.under_valid]
  rw [Dump.intTable, intTable, List.map_map, all_map_valid, Checked.map_valid,
    Table.ofEntries_of_nodup hkeys]
  exact hentry

end Decode

end FormPress
