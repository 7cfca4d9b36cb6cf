import FormPress.Number.Layout
import FormPress.Proofs.Number.Canonical

/-!
# Shortest decimals read back

The shortest decimal of a canonical number reads back as the number, with either sign. A hit of the
search reads back by what a hit is; without one the exact decimal stands in, whose units are those
of the number; and trailing zeros may be moved into the exponent.
-/

namespace FormPress.Binary64

/-! ## Signs -/

/-- The number with a sign. -/
def signed (negative : Bool) : Binary64 → Binary64
  | .finite _ significand scale => .finite negative significand scale
  | .infinite _ => .infinite negative
  | .nan => .nan

theorem pack_signed (negative : Bool) (significand scale : Nat) :
    pack negative significand scale = (pack false significand scale).signed negative := by
  unfold pack
  split
  · split
    · rfl
    · rfl
  · split
    · rfl
    · rfl

@[simp] theorem ofDecimal_zero (negative : Bool) (exponent : Int) :
    ofDecimal negative 0 exponent = .finite negative 0 0 := if_pos rfl

/-- The magnitude of a decimal's number does not depend on its sign. -/
theorem ofDecimal_signed (negative : Bool) (coefficient : Nat) (exponent : Int) :
    ofDecimal negative coefficient exponent =
      (ofDecimal false coefficient exponent).signed negative := by
  unfold ofDecimal
  split
  · rfl
  · split
    · rfl
    · split
      · rfl
      · split
        · exact pack_signed _ _ _
        · exact pack_signed _ _ _

/-! ## Powers of ten -/

theorem digitCount_mul_ten {n : Nat} (hn : n ≠ 0) : digitCount (n * 10) = digitCount n + 1 := by
  have hbase : 10 ≤ n * 10 := by omega
  rw [digitCount, Nat.toDigits_of_base_le (by omega) hbase, Nat.mul_div_cancel n (by omega),
    List.length_append, List.length_singleton, digitCount]

/-- The fraction that a decimal stands for, over a power of ten. -/
theorem ofRatio_mul (negative : Bool) (num den : Nat) {m : Nat} (hm : 0 < m) :
    ofRatio negative (num * m) (den * m) = ofRatio negative num den := by
  rw [ofRatio, Nat.mul_right_comm, ofUnits_mul negative _ _ hm, ofRatio]

theorem pow_ten_succ (n : Nat) : Nat.pow 10 (n + 1) = Nat.pow 10 n * 10 := rfl

/-- A zero behind the digits may be moved into the exponent. -/
theorem ofDecimal_mul_ten (negative : Bool) (coefficient : Nat) (exponent : Int) :
    ofDecimal negative (coefficient * 10) exponent =
      ofDecimal negative coefficient (exponent + 1) := by
  by_cases hzero : coefficient = 0
  · rw [hzero, Nat.zero_mul, ofDecimal_zero, ofDecimal_zero]
  · have hten : coefficient * 10 ≠ 0 := by omega
    have hcount : (digitCount (coefficient * 10) : Int) + exponent =
        digitCount coefficient + (exponent + 1) := by
      rw [digitCount_mul_ten hzero]
      omega
    have hratio : (if 0 ≤ exponent then
          ofRatio negative (coefficient * 10 * Nat.pow 10 exponent.toNat) 1
        else ofRatio negative (coefficient * 10) (Nat.pow 10 (-exponent).toNat)) =
        if 0 ≤ exponent + 1 then
          ofRatio negative (coefficient * Nat.pow 10 (exponent + 1).toNat) 1
        else ofRatio negative coefficient (Nat.pow 10 (-(exponent + 1)).toNat) := by
      by_cases hnat : 0 ≤ exponent
      · obtain ⟨n, rfl⟩ := Int.eq_ofNat_of_zero_le hnat
        have hnext : ((n : Int) + 1).toNat = n + 1 := by omega
        rw [if_pos hnat, if_pos (by omega), hnext, Int.toNat_natCast, pow_ten_succ, Nat.mul_assoc,
          Nat.mul_comm 10]
      · obtain ⟨n, rfl⟩ : ∃ n : Nat, exponent = -((n + 1 : Nat) : Int) :=
          ⟨(-exponent - 1).toNat, by omega⟩
        have hden : (- -((n + 1 : Nat) : Int)).toNat = n + 1 := by omega
        rw [if_neg hnat, hden, pow_ten_succ, ofRatio_mul negative _ _ (by omega)]
        cases n with
        | zero =>
          rw [if_pos (by omega)]
          exact congrArg (ofRatio negative · 1) (Nat.mul_one coefficient).symm
        | succ n =>
          have hnext : (-(-((n + 1 + 1 : Nat) : Int) + 1)).toNat = n + 1 := by omega
          rw [if_neg (by omega), hnext]
    unfold ofDecimal
    rw [if_neg hten, if_neg hzero, hcount, hratio]

theorem ofDecimal_mul_pow (negative : Bool) (coefficient n : Nat) (exponent : Int) :
    ofDecimal negative (coefficient * Nat.pow 10 n) exponent =
      ofDecimal negative coefficient (exponent + n) := by
  induction n generalizing exponent with
  | zero => simp
  | succ n ih =>
    rw [show coefficient * Nat.pow 10 (n + 1) = coefficient * Nat.pow 10 n * 10 from
      (Nat.mul_assoc _ _ _).symm, ofDecimal_mul_ten, ih]
    congr 1
    omega

/-! ## The search -/

theorem readsAs_neighbour {tie : Tie} {x : Binary64} {num den : Nat} {exponent : Int} {d : Decimal}
    (h : neighbour? tie x num den exponent = some d) : readsAs x d = true := by
  have heither (first second : Decimal)
      (hd : (if readsAs x first then some first
        else if readsAs x second then some second else none) = some d) : readsAs x d = true := by
    split at hd
    · rename_i hfirst
      exact Option.some.inj hd ▸ hfirst
    · split at hd
      · rename_i hsecond
        exact Option.some.inj hd ▸ hsecond
      · contradiction
  exact heither _ _ h

theorem readsAs_searchDigits {tie : Tie} {x : Binary64} {num den : Nat} {leading : Int}
    {fuel count : Nat} {d : Decimal} (h : searchDigits tie x num den leading fuel count = some d) :
    readsAs x d = true := by
  induction fuel generalizing count with
  | zero => contradiction
  | succ fuel ih =>
    rw [searchDigits] at h
    split at h
    · rename_i hfound
      exact readsAs_neighbour (hfound.trans h)
    · exact ih h

theorem readsAs_trim {x : Binary64} {d : Decimal} (fuel : Nat) (h : readsAs x d = true) :
    readsAs x (d.trim fuel) = true := by
  induction fuel generalizing d with
  | zero => exact h
  | succ fuel ih =>
    rw [Decimal.trim]
    split
    · rename_i hten
      apply ih
      have hcoefficient : d.coefficient / 10 * 10 = d.coefficient := by omega
      rw [readsAs] at h ⊢
      dsimp only
      rwa [← ofDecimal_mul_ten, hcoefficient]
    · exact h

theorem digitCount_le {n m k : Nat} (hk : 0 < k) (hn : n < m) (hm : m ≤ Nat.pow 10 k) :
    digitCount n ≤ k :=
  (Nat.length_toDigits_le_iff (by omega) hk).2 (Nat.lt_of_lt_of_le hn hm)

theorem lt_digitCount {n m k : Nat} (hk : 0 < k) (hm : Nat.pow 10 k ≤ m) (hn : m ≤ n) :
    k < digitCount n := by
  rw [← Nat.not_le, digitCount, Nat.length_toDigits_le_iff (by omega) hk, Nat.not_lt]
  exact Nat.le_trans hm hn

-- The powers below are too large to be computed on the way: lemmas about them have a variable for
-- the exponent, and closed facts are left to the kernel.

theorem pow_two_le {m n : Nat} (h : m ≤ n) : Nat.pow 2 m ≤ Nat.pow 2 n :=
  Nat.pow_le_pow_right (by omega) h

theorem magnitude_lt {significand scale : Nat}
    (h : (finite false significand scale).IsCanonical) :
    significand * Nat.pow 2 scale < Nat.pow 2 1024 * Nat.pow 2 1074 := by
  obtain ⟨hmost, -, hscale⟩ := h
  have hpow : Nat.pow 2 scale ≤ Nat.pow 2 maxScale := pow_two_le hscale
  have hsplit : Nat.pow 2 53 * Nat.pow 2 maxScale = Nat.pow 2 1024 * Nat.pow 2 1074 := by
    decide +kernel
  calc significand * Nat.pow 2 scale
      < Nat.pow 2 53 * Nat.pow 2 scale :=
        Nat.mul_lt_mul_of_pos_right hmost (Nat.pow_pos (by omega))
    _ ≤ Nat.pow 2 53 * Nat.pow 2 maxScale := Nat.mul_le_mul_left _ hpow
    _ = Nat.pow 2 1024 * Nat.pow 2 1074 := hsplit

/-- A whole number of units, written with as many places behind the point as a unit has. -/
theorem ofDecimal_units {units unit places : Nat}
    (hunit : unit * unitsPerOne = Nat.pow 10 places) (hplaces : 0 < places)
    (hpos : units * unit ≠ 0) (hmost : digitCount (units * unit) ≤ places + 310)
    (hleast : places ≤ digitCount (units * unit) + 330) :
    ofDecimal false (units * unit) (-places) = ofUnits false units 1 := by
  have hexponent : (- -(places : Int)).toNat = places := by omega
  have hden : 0 < Nat.pow 10 places := Nat.pow_pos (by omega)
  rw [ofDecimal, if_neg hpos, if_neg (by omega), if_neg (by omega), if_neg (by omega), hexponent,
    ofRatio, Nat.mul_assoc, hunit, ofUnits_mul_self false units hden]

/-- The exact decimal of a canonical number has the units of the number. -/
theorem readsAs_exactDecimal {significand scale : Nat}
    (h : (finite false significand scale).IsCanonical) (hpos : significand ≠ 0) :
    readsAs (finite false significand scale) (exactDecimal (finite false significand scale)) =
      true := by
  have hunits : 0 < significand * Nat.pow 2 scale :=
    Nat.mul_pos (Nat.pos_of_ne_zero hpos) (Nat.pow_pos (by omega))
  have hmagnitude := magnitude_lt h
  have hfivePos : 0 < Nat.pow 5 1074 := by decide +kernel
  have hten : Nat.pow 5 1074 * unitsPerOne = Nat.pow 10 1074 := by decide +kernel
  have hmost : Nat.pow 2 1024 * Nat.pow 2 1074 * Nat.pow 5 1074 ≤ Nat.pow 10 1384 := by
    decide +kernel
  have hleast : Nat.pow 10 744 ≤ Nat.pow 5 1074 := by decide +kernel
  rw [readsAs, exactDecimal, magnitude, beq_iff_eq]
  generalize hfive : Nat.pow 5 1074 = five at hfivePos hten hmost hleast ⊢
  generalize hunit : significand * Nat.pow 2 scale = units at hunits hmagnitude ⊢
  generalize Nat.pow 2 1024 * Nat.pow 2 1074 = bound at hmagnitude hmost
  have hprod : units * five < bound * five :=
    Nat.mul_lt_mul_of_pos_right hmagnitude hfivePos
  have hcountMost := digitCount_le (by omega) hprod hmost
  have hcountLeast := lt_digitCount (by omega) hleast (Nat.le_mul_of_pos_left five hunits)
  have hzero : units * five ≠ 0 := Nat.ne_of_gt (Nat.mul_pos hunits hfivePos)
  have hexact := ofDecimal_units hten (by omega) hzero (by omega) (by omega)
  rw [← ofUnits_magnitude h, hunit]
  exact hexact

/-- **The shortest decimal of a canonical number reads back as the number.** -/
theorem ofDecimal_shortest (tie : Tie) {negative : Bool} {significand scale : Nat}
    (h : (finite negative significand scale).IsCanonical) (hpos : significand ≠ 0) :
    ofDecimal negative ((finite negative significand scale).shortest tie).coefficient
        ((finite negative significand scale).shortest tie).exponent =
      .finite negative significand scale := by
  have hreads : readsAs (finite false significand scale)
      ((finite negative significand scale).shortest tie) = true := by
    apply readsAs_trim
    cases hfound : searchDigits tie (finite false significand scale)
        (finite false significand scale).magnitude unitsPerOne
        (leadingExponent (finite false significand scale).magnitude unitsPerOne) 17 1 with
    | some d => exact readsAs_searchDigits hfound
    | none => exact readsAs_exactDecimal h hpos
  rw [ofDecimal_signed, beq_iff_eq.1 hreads, signed]

end FormPress.Binary64
