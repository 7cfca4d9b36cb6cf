import FormPress.Number.Reading

/-!
# Decimal digits

The digits of a natural number are read back as the number, and no zero stands in front of them.
-/

namespace FormPress.Number

theorem isDigit_eq (c : Char) : isDigit c = c.isDigit := by
  rw [isDigit, Char.isDigit, Bool.decide_and]
  rfl

theorem isDigit_of_mem_toDigits {n : Nat} {c : Char} (h : c ∈ Nat.toDigits 10 n) :
    isDigit c = true := by
  rw [isDigit_eq]
  exact Nat.isDigit_of_mem_toDigits (by omega) (by omega) h

theorem accumulate_eq (n : Nat) (ds : List Char) :
    accumulate n ds = Nat.ofDigitChars 10 ds n := by
  induction ds generalizing n with
  | nil => rfl
  | cons c rest ih =>
    have hzero : '0'.toNat = 48 := rfl
    calc accumulate n (c :: rest)
        = accumulate (n * 10 + (c.toNat - 48)) rest := rfl
      _ = Nat.ofDigitChars 10 rest (10 * n + (c.toNat - 48)) := by rw [ih, Nat.mul_comm]
      _ = Nat.ofDigitChars 10 (c :: rest) n := by rw [Nat.ofDigitChars_cons, hzero]

theorem digitsValue_toDigits (n : Nat) : digitsValue (Nat.toDigits 10 n) = n := by
  rw [digitsValue, accumulate_eq, Nat.ofDigitChars_ten_toDigits]

theorem decimal_inj {m n : Nat} : Text.decimal m = Text.decimal n ↔ m = n := by
  constructor
  · intro h
    have hvalues := congrArg (fun s : String => digitsValue s.toList) h
    simpa [Text.decimal, digitsValue_toDigits] using hvalues
  · rintro rfl
    rfl

/-- An integer is written as a sign, where it is negative, and its digits. -/
theorem toList_decimalInt (i : Int) :
    (Text.decimalInt i).toList = (if i < 0 then ['-'] else []) ++ Nat.toDigits 10 i.natAbs := by
  cases i with
  | ofNat n => simp [Text.decimalInt, Text.decimal]
  | negSucc n =>
    have hneg : Int.negSucc n < 0 := Int.negSucc_lt_zero n
    simp [Text.decimalInt, Text.decimal, hneg]

theorem decimalInt_inj {i j : Int} : Text.decimalInt i = Text.decimalInt j ↔ i = j := by
  refine ⟨fun h => ?_, congrArg _⟩
  have hinjective := Function.LeftInverse.injective digitsValue_toDigits
  have hsign (n : Nat) : '-' ∉ Nat.toDigits 10 n := fun hmem =>
    absurd (isDigit_of_mem_toDigits hmem) (by decide)
  have hchars := congrArg String.toList h
  rw [toList_decimalInt, toList_decimalInt] at hchars
  by_cases hi : i < 0
  · by_cases hj : j < 0
    · rw [if_pos hi, if_pos hj] at hchars
      have habs : i.natAbs = j.natAbs := hinjective (List.append_cancel_left hchars)
      omega
    · rw [if_pos hi, if_neg hj, List.nil_append] at hchars
      exact absurd (hchars ▸ List.mem_cons_self) (hsign j.natAbs)
  · by_cases hj : j < 0
    · rw [if_neg hi, if_pos hj, List.nil_append] at hchars
      exact absurd (hchars ▸ List.mem_cons_self) (hsign i.natAbs)
    · rw [if_neg hi, if_neg hj, List.nil_append, List.nil_append] at hchars
      have habs : i.natAbs = j.natAbs := hinjective hchars
      omega

theorem digitChar_eq_zero {d : Nat} (hd : d < 10) (h : Nat.digitChar d = '0') : d = 0 := by
  have hval := Nat.toNat_digitChar_sub_48_of_lt_ten hd
  rw [h] at hval
  exact hval.symm

/-- Only the digits of zero begin with a zero. -/
theorem eq_zero_of_head_toDigits {n : Nat} {rest : List Char}
    (h : Nat.toDigits 10 n = '0' :: rest) : n = 0 := by
  induction n using Nat.strongRecOn generalizing rest with
  | ind n ih =>
    by_cases hn : n < 10
    · rw [Nat.toDigits_of_lt_base hn, List.cons.injEq] at h
      exact digitChar_eq_zero hn h.1
    · rw [Nat.toDigits_of_base_le (by omega) (by omega)] at h
      cases hd : Nat.toDigits 10 (n / 10) with
      | nil => exact absurd hd Nat.toDigits_ne_nil
      | cons c cs =>
        rw [hd, List.cons_append, List.cons.injEq] at h
        have hzero : n / 10 = 0 := ih (n / 10) (by omega) (by rw [hd, h.1])
        omega

/-- Digits before a text that does not go on with a digit. -/
theorem spanDigits_append {ds rest : List Char} (hds : ∀ c ∈ ds, isDigit c = true)
    (hrest : ∀ c ∈ rest.head?, isDigit c = false) : spanDigits (ds ++ rest) = (ds, rest) := by
  have htake : rest.takeWhile isDigit = [] := by
    cases rest with
    | nil => rfl
    | cons c cs => simp [hrest c rfl]
  have hdrop : rest.dropWhile isDigit = rest := by
    cases rest with
    | nil => rfl
    | cons c cs => simp [hrest c rfl]
  rw [spanDigits, List.takeWhile_append_of_pos hds, List.dropWhile_append_of_pos hds, htake, hdrop,
    List.append_nil]

/-! ## Runs of digits -/

theorem isDigit_of_mem_spanDigits {s : List Char} : ∀ c ∈ (spanDigits s).1, isDigit c = true :=
  fun _ hc => (List.all_eq_true.1 List.all_takeWhile) _ hc

theorem accumulate_lt {ds : List Char} (h : ∀ c ∈ ds, isDigit c = true) (n : Nat) :
    accumulate n ds < (n + 1) * Nat.pow 10 ds.length := by
  induction ds generalizing n with
  | nil => exact Nat.lt_of_lt_of_eq (Nat.lt_succ_self n) (Nat.mul_one (n + 1)).symm
  | cons c rest ih =>
    rw [List.forall_mem_cons] at h
    have hdigit : c.toNat - 48 ≤ 9 := by
      have hmost : c ≤ '9' := (of_decide_eq_true h.1).2
      have hnat : c.toNat ≤ 57 := hmost
      omega
    calc accumulate n (c :: rest)
        < (n * 10 + (c.toNat - 48) + 1) * Nat.pow 10 rest.length := ih h.2 _
      _ ≤ (n + 1) * 10 * Nat.pow 10 rest.length := Nat.mul_le_mul_right _ (by omega)
      _ = (n + 1) * Nat.pow 10 (rest.length + 1) := by
        rw [Nat.mul_assoc, Nat.mul_comm 10]
        rfl

/-- A run of digits has a value with no more digits. -/
theorem length_toDigits_digitsValue {ds : List Char} (hne : ds ≠ [])
    (h : ∀ c ∈ ds, isDigit c = true) : (Nat.toDigits 10 (digitsValue ds)).length ≤ ds.length := by
  rw [Nat.length_toDigits_le_iff (by omega) (List.length_pos_iff.2 hne)]
  have hlt := accumulate_lt h 0
  rwa [Nat.zero_add, Nat.one_mul] at hlt

theorem le_accumulate (n : Nat) (ds : List Char) : n * Nat.pow 10 ds.length ≤ accumulate n ds := by
  induction ds generalizing n with
  | nil => exact Nat.le_of_eq (Nat.mul_one n)
  | cons c rest ih =>
    calc n * Nat.pow 10 (rest.length + 1)
        = n * 10 * Nat.pow 10 rest.length := by
          rw [Nat.mul_assoc, Nat.mul_comm 10]
          rfl
      _ ≤ (n * 10 + (c.toNat - 48)) * Nat.pow 10 rest.length := Nat.mul_le_mul_right _ (by omega)
      _ ≤ accumulate n (c :: rest) := ih _

/-- A run of digits that does not start with a zero has as many digits as its value. -/
theorem length_toDigits_of_ne_zero {c : Char} {rest : List Char}
    (h : ∀ d ∈ c :: rest, isDigit d = true) (hzero : c ≠ '0') :
    (Nat.toDigits 10 (digitsValue (c :: rest))).length = (c :: rest).length := by
  refine Nat.le_antisymm (length_toDigits_digitsValue (List.cons_ne_nil _ _) h) ?_
  have hfirst : 0 < c.toNat - 48 := by
    have hleast : '0' ≤ c := (of_decide_eq_true (h c List.mem_cons_self)).1
    have hnat : 48 ≤ c.toNat := hleast
    have hne : c.toNat ≠ 48 := fun heq => hzero (Char.toNat_inj.1 heq)
    omega
  have hvalue : Nat.pow 10 rest.length ≤ digitsValue (c :: rest) := by
    refine Nat.le_trans ?_ (le_accumulate (0 * 10 + (c.toNat - 48)) rest)
    exact Nat.le_mul_of_pos_left _ (by omega)
  cases hrest : rest with
  | nil => exact List.length_pos_iff.2 Nat.toDigits_ne_nil
  | cons d more =>
    refine Nat.not_lt.1 fun hlength => ?_
    have hle : (Nat.toDigits 10 (digitsValue (c :: rest))).length ≤ rest.length := by
      rw [hrest]
      exact Nat.le_of_lt_succ hlength
    have hlt := (Nat.length_toDigits_le_iff (by omega) (by simp [hrest])).1 hle
    exact absurd hvalue (Nat.not_le.2 hlt)

theorem natAbs_signed (negative : Bool) (n : Nat) :
    (if negative then -(n : Int) else (n : Int)).natAbs = n := by
  split
  · omega
  · omega

/-! ## Short integers -/

/-- An integer that is not longer than texts of integers may be. -/
def IsShort (i : Int) : Prop :=
  (Nat.toDigits 10 i.natAbs).length ≤ digitLimit

theorem isShort_of_natAbs_lt {i : Int} (h : i.natAbs < 0x8000000000000000) : IsShort i := by
  have hlength : (Nat.toDigits 10 i.natAbs).length ≤ 19 :=
    (Nat.length_toDigits_le_iff (by omega) (by omega)).2 (Nat.lt_trans h (by decide))
  exact Nat.le_trans hlength (by decide)

theorem isShort_signed {ds : List Char} (negative : Bool) (hne : ds ≠ [])
    (hds : ∀ c ∈ ds, isDigit c = true) (hlength : ds.length ≤ digitLimit) :
    IsShort (if negative then -(digitsValue ds : Int) else digitsValue ds) := by
  rw [IsShort, natAbs_signed]
  exact Nat.le_trans (length_toDigits_digitsValue hne hds) hlength

/-- An integer in its strict form is short. -/
theorem isShort_of_readStrictInt {s : List Char} {i : Int} (h : readStrictInt s = .ok i) :
    IsShort i := by
  have hread (negative : Bool) {ds rest : List Char} (hds : ∀ c ∈ ds, isDigit c = true)
      (hresult : (if ds.isEmpty then .error .unreadable
        else if ds.head? = some '0' then
          if ds.length = 1 && rest.isEmpty then
            .ok (if negative then -(digitsValue ds : Int) else digitsValue ds)
          else .error .unreadable
        else if digitLimit < ds.length then .error .tooLong
        else if rest.isEmpty then .ok (if negative then -(digitsValue ds : Int) else digitsValue ds)
        else .error .unreadable : Except IntFault Int) = .ok i) : IsShort i := by
    split at hresult
    · contradiction
    · rename_i hempty
      have hne : ds ≠ [] := by simpa using hempty
      split at hresult
      · split at hresult
        · rename_i hone
          simp only [Bool.and_eq_true, decide_eq_true_eq] at hone
          exact Except.ok.inj hresult ▸ isShort_signed _ hne hds (by rw [hone.1]; decide)
        · contradiction
      · split at hresult
        · contradiction
        · rename_i hlimit
          split at hresult
          · exact Except.ok.inj hresult ▸ isShort_signed _ hne hds (Nat.not_lt.1 hlimit)
          · contradiction
  unfold readStrictInt at h
  dsimp only at h
  split at h
  · exact hread true isDigit_of_mem_spanDigits h
  · exact hread false isDigit_of_mem_spanDigits h

theorem isShort_of_readInt {s : String} {i : Int} (h : readInt s = .ok i) : IsShort i := by
  unfold readInt at h
  split at h
  · dsimp only at h
    split at h
    · exact isShort_of_readStrictInt h
    · cases h
  · exact isShort_of_readStrictInt h

end FormPress.Number
