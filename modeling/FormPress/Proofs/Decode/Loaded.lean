import FormPress.Decode.Scalar
import FormPress.Proofs.Decode.Records
import FormPress.Proofs.Json.Leaves

/-!
# Values that passed a check

What a check lets through, when the numbers of the document are as a reader leaves them: numbers are
canonical, also those that were given as texts or truth values, integers are short, and a table has
each key once.
-/

namespace FormPress

namespace Number

/-! ## Numbers given as texts -/

theorem isCanonical_of_readDecimal? {negative : Bool} {s : List Char} {x : Binary64}
    (h : readDecimal? negative s = some x) : x.IsCanonical := by
  have hvalue {whole fraction tail : List Char}
      (hread : (if whole.isEmpty && fraction.isEmpty then none
        else (readExponent? tail).map fun e =>
          Binary64.ofDecimal negative (digitsValue (whole ++ fraction)) (e - fraction.length)) =
        some x) : x.IsCanonical := by
    split at hread
    · exact nomatch hread
    · obtain ⟨e, -, rfl⟩ := Option.map_eq_some_iff.1 hread
      exact Binary64.isCanonical_ofDecimal _ _ _
  unfold readDecimal? at h
  exact hvalue h

theorem isCanonical_of_readNumber? {s : List Char} {x : Binary64} (h : readNumber? s = some x) :
    x.IsCanonical := by
  unfold readNumber? at h
  dsimp only at h
  split at h
  · exact Option.some.inj h ▸ trivial
  · split at h
    · exact Option.some.inj h ▸ trivial
    · exact isCanonical_of_readDecimal? h

theorem isCanonical_of_readFloat? {s : String} {x : Binary64} (h : readFloat? s = some x) :
    x.IsCanonical := by
  unfold readFloat? at h
  split at h
  · rename_i y hy
    exact Option.some.inj h ▸ isCanonical_of_readNumber? hy
  · split at h
    · exact isCanonical_of_readNumber? h
    · exact nomatch h

end Number

namespace Decode

variable {α : Type} {v : Json}

/-! ## Numbers -/

theorem isCanonical_of_number {digits : Nat} {x : Binary64} (hv : v.HasReadNumbers digits)
    (h : number v = .valid x) : x.IsCanonical := by
  cases v with
  | bool b =>
    rw [number] at h
    exact Checked.valid.inj h ▸ Binary64.isCanonical_ofInt _
  | int i =>
    rw [number] at h
    exact Checked.valid.inj h ▸ Binary64.isCanonical_ofInt _
  | float y =>
    rw [number] at h
    exact Checked.valid.inj h ▸ hv
  | string s =>
    rw [number] at h
    split at h
    · rename_i hread
      exact Checked.valid.inj h ▸ Number.isCanonical_of_readFloat? hread
    · exact nomatch h
  | null | brokenString | array items | object members => exact nomatch h

theorem isCanonical_of_notInfinite {x y : Binary64} (hy : y.IsCanonical)
    (h : notInfinite y = .valid x) : x.IsCanonical := by
  cases y with
  | finite negative significand scale => exact Checked.valid.inj h ▸ hy
  | infinite negative => exact nomatch h
  | nan => exact Checked.valid.inj h ▸ hy

theorem isCanonical_of_boundedNumber {digits : Nat} {x : Binary64} (hv : v.HasReadNumbers digits)
    (h : boundedNumber v = .valid x) : x.IsCanonical := by
  cases v with
  | int i =>
    rw [boundedNumber] at h
    exact isCanonical_of_notInfinite (Binary64.isCanonical_ofInt i) h
  | null | bool b | float y | string s | brokenString | array items | object members =>
    exact isCanonical_of_number hv h

theorem natAbs_lt_of_insideWord {i : Int} (h : insideWord i = true) :
    i.natAbs < 0x8000000000000000 := by
  have hbounds := of_decide_eq_true h
  omega

theorem isShort_of_int {i : Int} (hv : v.HasReadNumbers Number.digitLimit)
    (h : int v = .valid i) : Number.IsShort i := by
  cases v with
  | bool b =>
    rw [int] at h
    refine Checked.valid.inj h ▸ Number.isShort_of_natAbs_lt ?_
    cases b
    · decide
    · decide
  | int j =>
    rw [int] at h
    exact Checked.valid.inj h ▸ hv
  | float x =>
    cases x with
    | finite negative significand scale =>
      rw [int] at h
      split at h
      · exact nomatch h
      · split at h
        · rename_i hinside
          exact Checked.valid.inj h ▸ Number.isShort_of_natAbs_lt (natAbs_lt_of_insideWord hinside)
        · exact nomatch h
    | infinite negative => exact nomatch h
    | nan => exact nomatch h
  | string s =>
    rw [int] at h
    split at h
    · rename_i hread
      exact Checked.valid.inj h ▸ Number.isShort_of_readInt hread
    · exact nomatch h
    · exact nomatch h
  | null | brokenString | array items | object members => exact nomatch h

theorem bind_eq_valid {β : Type} {x : Checked α} {f : α → Checked β} {b : β}
    (h : x.bind f = .valid b) : ∃ a, x = .valid a ∧ f a = .valid b := by
  cases x with
  | valid a => exact ⟨a, rfl, h⟩
  | invalid faults => exact nomatch h

theorem intAtLeast_eq_valid {limit i : Int} (h : intAtLeast limit v = .valid i) :
    limit ≤ i ∧ int v = .valid i := by
  obtain ⟨j, hj, h⟩ := bind_eq_valid h
  split at h
  · rename_i hlimit
    obtain rfl := Checked.valid.inj h
    exact ⟨hlimit, hj⟩
  · exact nomatch h

/-- A percentage that passed its check passes it again, however it is given. -/
theorem percentage_of_number {w : Json} {x : Binary64} (h : percentage v = .valid x) :
    number v = .valid x ∧ (number w = .valid x → percentage w = .valid x) := by
  obtain ⟨y, hy, hbounds⟩ := bind_eq_valid h
  have hsame : x = y := by
    split at hbounds
    · exact nomatch hbounds
    · split at hbounds
      · exact nomatch hbounds
      · exact (Checked.valid.inj hbounds).symm
  subst hsame
  refine ⟨hy, fun hw => ?_⟩
  rw [percentage, hw]
  exact hbounds

theorem innerPercentage_of_number {w : Json} {x : Binary64} (h : innerPercentage v = .valid x) :
    number v = .valid x ∧ (number w = .valid x → innerPercentage w = .valid x) := by
  obtain ⟨y, hy, hbounds⟩ := bind_eq_valid h
  have hsame : x = y := by
    split at hbounds
    · exact nomatch hbounds
    · split at hbounds
      · exact nomatch hbounds
      · exact (Checked.valid.inj hbounds).symm
  subst hsame
  refine ⟨hy, fun hw => ?_⟩
  rw [innerPercentage, hw]
  exact hbounds

/-! ## Optional values, lists and tables -/

theorem optional_eq_valid {check : Json → Checked α} {o : Option α}
    (h : optional check v = .valid o) : ∀ a ∈ o, check v = .valid a := by
  rintro a rfl
  unfold optional at h
  split at h
  · exact nomatch h
  · obtain ⟨b, hb, hsome⟩ := Checked.map_eq_valid_iff.1 h
    exact Option.some.inj hsome ▸ hb

theorem all_eq_valid {xs : List (Checked α)} {as : List α} (h : Checked.all xs = .valid as) :
    ∀ a ∈ as, .valid a ∈ xs := by
  induction xs generalizing as with
  | nil =>
    obtain rfl := Checked.valid.inj h
    simp
  | cons x rest ih =>
    obtain ⟨f, others, hf, hothers, rfl⟩ := Checked.apply_eq_valid_iff.1 h
    obtain ⟨a, rfl, rfl⟩ := Checked.map_eq_valid_iff.1 hf
    rw [List.forall_mem_cons]
    exact ⟨List.mem_cons_self, fun b hb => List.mem_cons_of_mem _ (ih hothers b hb)⟩

theorem mem_itemsFrom {check : Json → Checked α} {items : List Json} {i : Nat} {a : α}
    (h : .valid a ∈ itemsFrom check i items) : ∃ w ∈ items, check w = .valid a := by
  induction items generalizing i with
  | nil => exact nomatch h
  | cons w rest ih =>
    rcases List.mem_cons.1 h with h | h
    · exact ⟨w, List.mem_cons_self, Checked.under_eq_valid_iff.1 h.symm⟩
    · obtain ⟨u, hu, hcheck⟩ := ih h
      exact ⟨u, List.mem_cons_of_mem _ hu, hcheck⟩

/-- The values of a list passed the check of their items. -/
theorem list_eq_valid {digits : Nat} {check : Json → Checked α} {as : List α}
    (hv : v.HasReadNumbers digits) (h : list check v = .valid as) :
    ∀ a ∈ as, ∃ w, w.HasReadNumbers digits ∧ check w = .valid a := by
  intro a ha
  cases v with
  | array items =>
    obtain ⟨w, hw, hcheck⟩ := mem_itemsFrom (all_eq_valid h a ha)
    exact ⟨w, Json.hasReadNumbers_array.1 hv w hw, hcheck⟩
  | null | bool b | int j | float x | string s | brokenString | object members => exact nomatch h

theorem nodup_keys_of_table {check : Json → Checked α} {entries : List (String × α)}
    (h : table check v = .valid entries) : (entries.map Prod.fst).Nodup := by
  cases v with
  | object members =>
    obtain ⟨all, -, rfl⟩ := Checked.map_eq_valid_iff.1 h
    exact Table.nodup_keys_ofEntries all
  | null | bool b | int j | float x | string s | brokenString | array items => exact nomatch h

theorem isShort_of_intKeyed {check : Json → Checked α} {key : String} {e : Int × α}
    (h : intKeyed check key v = .valid e) : Number.IsShort e.1 := by
  obtain ⟨f, a, hf, -, rfl⟩ := Checked.apply_eq_valid_iff.1 (Checked.under_eq_valid_iff.1 h)
  obtain ⟨i, hi, rfl⟩ := Checked.map_eq_valid_iff.1 hf
  exact isShort_of_int (v := .string key) trivial (Checked.under_eq_valid_iff.1 hi)

theorem keys_of_intTable {check : Json → Checked α} {entries : List (Int × α)}
    (h : intTable check v = .valid entries) :
    (entries.map Prod.fst).Nodup ∧ ∀ e ∈ entries, Number.IsShort e.1 := by
  cases v with
  | object members =>
    obtain ⟨all, hall, rfl⟩ := Checked.map_eq_valid_iff.1 h
    refine ⟨Table.nodup_keys_ofEntries all, fun e he => ?_⟩
    have hentry := all_eq_valid hall e (Table.mem_of_mem_ofEntries he)
    obtain ⟨m, -, hm⟩ := List.mem_map.1 hentry
    exact isShort_of_intKeyed hm
  | null | bool b | int j | float x | string s | brokenString | array items => exact nomatch h

end Decode

end FormPress
