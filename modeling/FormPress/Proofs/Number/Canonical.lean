import FormPress.Proofs.Number.Finite

/-!
# Canonical numbers

Rounding leaves a number in one form: the significand has 53 bits, or fewer at the least scale, and
the scale is that of a finite number. Every number that is made of units, of a fraction, of an
integer or of a decimal is canonical, and a canonical number is the nearest one to its own units.
-/

namespace FormPress.Binary64

/-- A number in the form in which rounding leaves it. -/
def IsCanonical : Binary64 → Prop
  | .finite _ significand scale =>
    significand < Nat.pow 2 53 ∧ (scale = 0 ∨ Nat.pow 2 52 ≤ significand) ∧ scale ≤ maxScale
  | _ => True

/-! ## Rounded numbers -/

theorem le_roundHalfEven (num den : Nat) : num / den ≤ roundHalfEven num den := by
  unfold roundHalfEven
  dsimp only
  split
  · exact Nat.le_refl _
  · split
    · omega
    · omega

/-- Above the least scale a rounded significand has 53 bits. -/
theorem significand_le_roundHalfEven {num den : Nat} (h : 52 < Nat.log2 (num / den)) :
    Nat.pow 2 52 ≤ roundHalfEven num (den * Nat.pow 2 (Nat.log2 (num / den) - 52)) := by
  have hpos : num / den ≠ 0 := by
    intro hzero
    rw [hzero, Nat.log2_zero] at h
    omega
  have hleast : Nat.pow 2 (Nat.log2 (num / den)) ≤ num / den := Nat.log2_self_le hpos
  have hsplit : Nat.pow 2 (Nat.log2 (num / den)) =
      Nat.pow 2 52 * Nat.pow 2 (Nat.log2 (num / den) - 52) := by
    rw [← show Nat.pow 2 (52 + (Nat.log2 (num / den) - 52)) =
      Nat.pow 2 52 * Nat.pow 2 (Nat.log2 (num / den) - 52) from Nat.pow_add 2 _ _]
    congr 1
    omega
  have hscale : 0 < Nat.pow 2 (Nat.log2 (num / den) - 52) := Nat.pow_pos (by omega)
  refine Nat.le_trans ?_ (le_roundHalfEven _ _)
  rw [← Nat.div_div_eq_div_mul, Nat.le_div_iff_mul_le hscale, ← hsplit]
  exact hleast

theorem isCanonical_pack {significand scale : Nat} (negative : Bool)
    (hmost : significand ≤ Nat.pow 2 53) (hleast : scale = 0 ∨ Nat.pow 2 52 ≤ significand) :
    (pack negative significand scale).IsCanonical := by
  unfold pack
  split
  · split
    · trivial
    · exact ⟨by decide, .inr (Nat.le_refl _), by omega⟩
  · split
    · trivial
    · exact ⟨by omega, hleast, by omega⟩

theorem isCanonical_ofUnits (negative : Bool) (num den : Nat) :
    (ofUnits negative num den).IsCanonical := by
  refine isCanonical_pack negative (roundHalfEven_le_significand num den) ?_
  by_cases hscale : Nat.log2 (num / den) - 52 = 0
  · exact .inl hscale
  · exact .inr (significand_le_roundHalfEven (by omega))

theorem isCanonical_ofInt (i : Int) : (ofInt i).IsCanonical :=
  isCanonical_ofUnits _ _ _

theorem isCanonical_zero (negative : Bool) : (finite negative 0 0).IsCanonical :=
  ⟨by decide, .inl rfl, by decide⟩

theorem isCanonical_ofDecimal (negative : Bool) (coefficient : Nat) (exponent : Int) :
    (ofDecimal negative coefficient exponent).IsCanonical := by
  unfold ofDecimal
  split
  · exact isCanonical_zero negative
  · split
    · trivial
    · split
      · exact isCanonical_zero negative
      · split
        · exact isCanonical_ofUnits _ _ _
        · exact isCanonical_ofUnits _ _ _

/-! ## Rounding a canonical number -/

theorem roundHalfEven_mul (num den : Nat) {m : Nat} (hm : 0 < m) :
    roundHalfEven (num * m) (den * m) = roundHalfEven num den := by
  have hlow : 2 * (num % den * m) < den * m ↔ 2 * (num % den) < den := by
    rw [← Nat.mul_assoc]
    exact Nat.mul_lt_mul_right hm
  have hhigh : den * m < 2 * (num % den * m) ↔ den < 2 * (num % den) := by
    rw [← Nat.mul_assoc]
    exact Nat.mul_lt_mul_right hm
  unfold roundHalfEven
  simp only [Nat.mul_div_mul_right num den hm, Nat.mul_mod_mul_right, hlow, hhigh]

theorem roundHalfEven_one (n : Nat) {m : Nat} (hm : 0 < m) : roundHalfEven (n * m) m = n := by
  have hone : roundHalfEven n 1 = n := by
    simp [roundHalfEven, Nat.mod_one]
  have hscaled := roundHalfEven_mul n 1 hm
  rwa [Nat.one_mul, hone] at hscaled

/-- The nearest number depends on the fraction only. -/
theorem ofUnits_mul (negative : Bool) (num den : Nat) {m : Nat} (hm : 0 < m) :
    ofUnits negative (num * m) (den * m) = ofUnits negative num den := by
  unfold ofUnits
  simp only [Nat.mul_div_mul_right num den hm, Nat.mul_right_comm den m, roundHalfEven_mul _ _ hm]

theorem ofUnits_mul_self (negative : Bool) (units : Nat) {m : Nat} (hm : 0 < m) :
    ofUnits negative (units * m) m = ofUnits negative units 1 := by
  have hscaled := ofUnits_mul negative units 1 hm
  rwa [Nat.one_mul] at hscaled

theorem log2_mul_pow {n : Nat} (hn : n ≠ 0) (k : Nat) :
    Nat.log2 (n * Nat.pow 2 k) = Nat.log2 n + k := by
  induction k with
  | zero => rw [show Nat.pow 2 0 = 1 from rfl, Nat.mul_one, Nat.add_zero]
  | succ k ih =>
    have hpow : 0 < Nat.pow 2 k := Nat.pow_pos (by omega)
    have hprod : n * Nat.pow 2 k ≠ 0 := Nat.mul_ne_zero hn (Nat.ne_of_gt hpow)
    have hdouble : n * Nat.pow 2 (k + 1) = 2 * (n * Nat.pow 2 k) := by
      rw [show Nat.pow 2 (k + 1) = Nat.pow 2 k * 2 from rfl, ← Nat.mul_assoc, Nat.mul_comm]
    rw [hdouble, Nat.log2_two_mul hprod, ih, Nat.add_assoc]

/-- Behind its significand a canonical number has as many bits as its scale says. -/
theorem log2_magnitude {negative : Bool} {significand scale : Nat}
    (h : (finite negative significand scale).IsCanonical) :
    Nat.log2 (significand * Nat.pow 2 scale) - 52 = scale := by
  obtain ⟨hmost, rfl | hleast, -⟩ := h
  · rw [show Nat.pow 2 0 = 1 from rfl, Nat.mul_one]
    by_cases hzero : significand = 0
    · rw [hzero, Nat.log2_zero]
    · have hlog : Nat.log2 significand < 53 := (Nat.log2_lt hzero).2 hmost
      omega
  · have hpos : significand ≠ 0 := by
      rintro rfl
      exact absurd hleast (by decide)
    have hlow : 52 ≤ Nat.log2 significand := (Nat.le_log2 hpos).2 hleast
    have hhigh : Nat.log2 significand < 53 := (Nat.log2_lt hpos).2 hmost
    rw [log2_mul_pow hpos]
    omega

/-- A canonical number is the nearest one to its units. -/
theorem ofUnits_magnitude {negative : Bool} {significand scale : Nat}
    (h : (finite negative significand scale).IsCanonical) :
    ofUnits negative (significand * Nat.pow 2 scale) 1 = .finite negative significand scale := by
  have hround :
      roundHalfEven (significand * Nat.pow 2 scale) (1 * Nat.pow 2 scale) = significand := by
    rw [Nat.one_mul]
    exact roundHalfEven_one significand (Nat.pow_pos (by omega))
  obtain ⟨hmost, -, hscale⟩ := id h
  unfold ofUnits
  dsimp only
  rw [Nat.div_one, log2_magnitude h, hround, pack, if_neg (Nat.ne_of_lt hmost),
    if_neg (Nat.not_lt.2 hscale)]

end FormPress.Binary64
