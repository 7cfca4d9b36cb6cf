import FormPress.Number.Binary64

/-!
# Finite numbers

Rounding to the nearest number does not leave the finite numbers as long as the number of units is
far from the greatest scale. The bounds are powers of two: a number below one of them is finite, and
the arithmetic moves the exponent of the bound by a few.
-/

namespace FormPress.Binary64

/-- Neither an infinity nor a NaN. -/
structure IsFinite (x : Binary64) : Prop where
  ne_nan : x ≠ .nan
  ne_infinite : ∀ negative, x ≠ .infinite negative

/-- A finite number of at most `2^bits` units. -/
structure Within (bits : Nat) (x : Binary64) : Prop where
  isFinite : x.IsFinite
  magnitude_le : x.magnitude ≤ Nat.pow 2 bits

theorem isFinite_finite (negative : Bool) (significand scale : Nat) :
    (finite negative significand scale).IsFinite where
  ne_nan := by simp
  ne_infinite := by simp

/-- Only a finite number has a whole part. -/
theorem exists_whole_iff {x : Binary64} : (∃ n, x.whole = .ok n) ↔ x.IsFinite := by
  cases x with
  | finite negative significand scale =>
    exact iff_of_true ⟨_, rfl⟩ (isFinite_finite negative significand scale)
  | infinite negative =>
    refine iff_of_false ?_ fun h => h.ne_infinite negative rfl
    rintro ⟨n, hn⟩
    cases hn
  | nan =>
    refine iff_of_false ?_ fun h => h.ne_nan rfl
    rintro ⟨n, hn⟩
    cases hn

theorem whole_of_isFinite {x : Binary64} (h : x.IsFinite) : x.whole = .ok x.truncate := by
  cases x with
  | finite negative significand scale => rfl
  | infinite negative => exact absurd rfl (h.ne_infinite negative)
  | nan => exact absurd rfl h.ne_nan

theorem Within.mono {x : Binary64} {bits more : Nat} (h : x.Within bits) (hle : bits ≤ more) :
    x.Within more where
  isFinite := h.isFinite
  magnitude_le := Nat.le_trans h.magnitude_le (Nat.pow_le_pow_right (by omega) hle)

/-! ## Rounding -/

theorem roundHalfEven_le (num den : Nat) : roundHalfEven num den ≤ num / den + 1 := by
  unfold roundHalfEven
  dsimp only
  split
  · omega
  · split
    · omega
    · omega

/-- A rounded significand has 53 bits, or is the least with 54. -/
theorem roundHalfEven_le_significand (num den : Nat) :
    roundHalfEven num (den * Nat.pow 2 (Nat.log2 (num / den) - 52)) ≤ Nat.pow 2 53 := by
  have hlog : num / den < Nat.pow 2 (Nat.log2 (num / den) + 1) := Nat.lt_log2_self
  have hpow : Nat.pow 2 (Nat.log2 (num / den) + 1) ≤
      Nat.pow 2 (Nat.log2 (num / den) - 52 + 53) :=
    Nat.pow_le_pow_right (by omega) (by omega)
  have hsplit : Nat.pow 2 (Nat.log2 (num / den) - 52 + 53) =
      Nat.pow 2 (Nat.log2 (num / den) - 52) * Nat.pow 2 53 := Nat.pow_add 2 _ _
  have hquotient : num / (den * Nat.pow 2 (Nat.log2 (num / den) - 52)) < Nat.pow 2 53 := by
    rw [← Nat.div_div_eq_div_mul]
    apply Nat.div_lt_of_lt_mul
    omega
  have hround := roundHalfEven_le num (den * Nat.pow 2 (Nat.log2 (num / den) - 52))
  omega

/-- A significand of 53 bits at a scale. -/
theorem within_finite {significand scale bits : Nat} (negative : Bool)
    (hsignificand : significand ≤ Nat.pow 2 53) (hscale : scale + 53 ≤ bits) :
    (finite negative significand scale).Within bits where
  isFinite := isFinite_finite negative significand scale
  magnitude_le :=
    calc significand * Nat.pow 2 scale
        ≤ Nat.pow 2 53 * Nat.pow 2 scale := Nat.mul_le_mul_right _ hsignificand
      _ = Nat.pow 2 (53 + scale) := (Nat.pow_add 2 53 scale).symm
      _ ≤ Nat.pow 2 bits := Nat.pow_le_pow_right (by omega) (by omega)

theorem within_pack {significand scale bits : Nat} (negative : Bool)
    (hsignificand : significand ≤ Nat.pow 2 53) (hscale : scale + 53 ≤ bits)
    (hbits : bits ≤ 2097) : (pack negative significand scale).Within bits := by
  unfold pack maxScale
  by_cases htop : significand = Nat.pow 2 53
  · rw [if_pos htop, if_neg (by omega)]
    refine ⟨isFinite_finite _ _ _, ?_⟩
    calc Nat.pow 2 52 * Nat.pow 2 (scale + 1)
        = Nat.pow 2 (52 + (scale + 1)) := (Nat.pow_add 2 52 (scale + 1)).symm
      _ ≤ Nat.pow 2 bits := Nat.pow_le_pow_right (by omega) (by omega)
  · rw [if_neg htop, if_neg (by omega)]
    exact within_finite negative hsignificand hscale

theorem within_ofUnits {num den bits : Nat} (negative : Bool) (hleast : 53 ≤ bits)
    (hbits : bits ≤ 2097) (h : num / den < Nat.pow 2 bits) :
    (ofUnits negative num den).Within bits := by
  have hlog : Nat.log2 (num / den) < bits := by
    by_cases hzero : num / den = 0
    · rw [hzero, Nat.log2_zero]
      omega
    · exact (Nat.log2_lt hzero).2 h
  exact within_pack negative (roundHalfEven_le_significand num den) (by omega) hbits

/-! ## Arithmetic -/

theorem natAbs_units (x : Binary64) : x.units.natAbs = x.magnitude := by
  cases x with
  | finite negative significand scale =>
    unfold units magnitude
    cases negative with
    | false => exact Int.natAbs_natCast _
    | true =>
      dsimp only
      rw [if_pos rfl, Int.natAbs_neg, Int.natAbs_natCast]
  | infinite negative => rfl
  | nan => rfl

theorem Within.scaleBy {x : Binary64} {bits num : Nat} (h : x.Within bits) (more den : Nat)
    (hnum : num ≤ Nat.pow 2 more) (hleast : 53 ≤ bits) (hbits : bits + more + 1 ≤ 2097) :
    (x.scaleBy num den).Within (bits + more + 1) := by
  cases x with
  | finite negative significand scale =>
    refine within_ofUnits negative (by omega) hbits ?_
    have hmagnitude : significand * Nat.pow 2 scale ≤ Nat.pow 2 bits := h.magnitude_le
    have hproduct : significand * Nat.pow 2 scale * num ≤ Nat.pow 2 (bits + more) := by
      rw [show Nat.pow 2 (bits + more) = Nat.pow 2 bits * Nat.pow 2 more from
        Nat.pow_add 2 bits more]
      exact Nat.mul_le_mul hmagnitude hnum
    calc significand * Nat.pow 2 scale * num / den
        ≤ significand * Nat.pow 2 scale * num := Nat.div_le_self _ _
      _ ≤ Nat.pow 2 (bits + more) := hproduct
      _ < Nat.pow 2 (bits + more + 1) := Nat.pow_lt_pow_right (by omega) (by omega)
  | infinite negative => exact absurd rfl (h.isFinite.ne_infinite negative)
  | nan => exact absurd rfl h.isFinite.ne_nan

theorem within_ofSignedUnits {u : Int} {bits : Nat} (zeroSign : Bool) (hleast : 53 ≤ bits)
    (hbits : bits ≤ 2097) (h : u.natAbs < Nat.pow 2 bits) :
    (ofSignedUnits zeroSign u).Within bits := by
  unfold ofSignedUnits
  split
  · refine ⟨isFinite_finite _ _ _, ?_⟩
    rw [magnitude, Nat.zero_mul]
    exact Nat.zero_le _
  · refine within_ofUnits _ hleast hbits ?_
    rwa [Nat.div_one]

theorem Within.add {x y : Binary64} {bits : Nat} (hx : x.Within bits) (hy : y.Within bits)
    (hleast : 53 ≤ bits) (hbits : bits + 2 ≤ 2097) : (x.add y).Within (bits + 2) := by
  cases x with
  | nan => exact absurd rfl hx.isFinite.ne_nan
  | infinite negative => exact absurd rfl (hx.isFinite.ne_infinite negative)
  | finite n s k =>
    cases y with
    | nan => exact absurd rfl hy.isFinite.ne_nan
    | infinite negative => exact absurd rfl (hy.isFinite.ne_infinite negative)
    | finite m t l =>
      refine within_ofSignedUnits _ (by omega) hbits ?_
      have hleft := hx.magnitude_le
      have hright := hy.magnitude_le
      rw [← natAbs_units] at hleft hright
      have hsum := Int.natAbs_add_le (units (.finite n s k)) (units (.finite m t l))
      have hpos : 0 < Nat.pow 2 bits := Nat.pow_pos (by omega)
      have hpow : Nat.pow 2 (bits + 2) = Nat.pow 2 bits * 4 := Nat.pow_add 2 bits 2
      omega

/-! ## Comparison -/

theorem le_nan (x : Binary64) : x.le .nan = false := by
  cases x with
  | finite negative significand scale => rfl
  | infinite negative => rfl
  | nan => rfl

/-- A number between zero and a finite one is finite, and of no more units. -/
theorem within_of_not_le {x y : Binary64} {bits : Nat} (hx : x ≠ .nan) (hlow : x.le .zero = false)
    (hhigh : y.le x = false) (hy : y.Within bits) : x.Within bits := by
  cases x with
  | nan => exact absurd rfl hx
  | infinite sign =>
    cases sign with
    | false =>
      cases y with
      | nan => exact absurd rfl hy.isFinite.ne_nan
      | infinite negative => exact absurd rfl (hy.isFinite.ne_infinite negative)
      | finite negative significand scale => cases hhigh
    | true => cases hlow
  | finite sign t l =>
    cases y with
    | nan => exact absurd rfl hy.isFinite.ne_nan
    | infinite negative => exact absurd rfl (hy.isFinite.ne_infinite negative)
    | finite negative significand scale =>
      refine ⟨isFinite_finite _ _ _, ?_⟩
      have hpositive : (0 : Int) < units (.finite sign t l) := by
        have h : (!decide (units zero < units (.finite sign t l))) = false := hlow
        have hzero : units zero = 0 := by simp [units, zero]
        simpa [hzero] using h
      have hless : units (.finite sign t l) < units (.finite negative significand scale) := by
        have h : (!decide (units (.finite sign t l) <
          units (.finite negative significand scale))) = false := hhigh
        simpa using h
      have hmagnitude := hy.magnitude_le
      rw [← natAbs_units] at hmagnitude ⊢
      omega

end FormPress.Binary64
