import FormPress.Number.Binary64

/-!
# Comparison of numbers

The numbers apart from NaN lie on a line from minus infinity to infinity, and the comparison of two
of them is that of their places on it. Beside a NaN no comparison holds; on the line a NaN is put
beside the zeros, so that any two numbers can be compared there.
-/

namespace FormPress.Binary64

/-- Before all finite numbers, among them, or behind them. -/
def rank : Binary64 → Int
  | .finite _ _ _ => 0
  | .infinite negative => if negative then -1 else 1
  | .nan => 0

/-- A number stands no later than another one on the line. -/
def standsBefore (x y : Binary64) : Bool :=
  decide (x.rank < y.rank) || (x.rank == y.rank && decide (x.units ≤ y.units))

/-- Two numbers that compare as equal: the same number, or the two zeros. -/
def Same (x y : Binary64) : Prop :=
  x.le y = true ∧ y.le x = true

instance (x y : Binary64) : Decidable (x.Same y) :=
  inferInstanceAs (Decidable (_ ∧ _))

variable {x y z : Binary64}

theorem standsBefore_iff :
    x.standsBefore y = true ↔ x.rank < y.rank ∨ x.rank = y.rank ∧ x.units ≤ y.units := by
  simp [standsBefore]

theorem standsBefore_trans (hxy : x.standsBefore y = true) (hyz : y.standsBefore z = true) :
    x.standsBefore z = true := by
  rw [standsBefore_iff] at *
  omega

theorem standsBefore_total (x y : Binary64) :
    x.standsBefore y = true ∨ y.standsBefore x = true := by
  rw [standsBefore_iff, standsBefore_iff]
  omega

theorem lt_eq_not_standsBefore (hx : x ≠ .nan) (hy : y ≠ .nan) :
    x.lt y = !y.standsBefore x := by
  cases x with
  | nan => exact absurd rfl hx
  | infinite n =>
    cases y with
    | nan => exact absurd rfl hy
    | infinite m => cases n <;> cases m <;> rfl
    | finite m t l => cases n <;> simp [lt, standsBefore, rank]
  | finite n s k =>
    cases y with
    | nan => exact absurd rfl hy
    | infinite m => cases m <;> simp [lt, standsBefore, rank]
    | finite m t l => simp [lt, standsBefore, rank, ← decide_not, Int.not_le]

theorem le_eq_standsBefore (hx : x ≠ .nan) (hy : y ≠ .nan) : x.le y = x.standsBefore y := by
  have hle : x.le y = !y.lt x := by
    cases x with
    | nan => exact absurd rfl hx
    | infinite n =>
      cases y with
      | nan => exact absurd rfl hy
      | infinite m => rfl
      | finite m t l => rfl
    | finite n s k =>
      cases y with
      | nan => exact absurd rfl hy
      | infinite m => rfl
      | finite m t l => rfl
  rw [hle, lt_eq_not_standsBefore hy hx, Bool.not_not]

theorem ne_nan_of_le (h : x.le y = true) : y ≠ .nan := by
  rintro rfl
  cases x <;> exact nomatch h

/-- Numbers that compare as equal to one number stand beside each other. -/
theorem Same.standsBefore (hx : x ≠ .nan) (hy : y ≠ .nan) (hxz : x.Same z) (hyz : y.Same z) :
    x.standsBefore y = true := by
  have hz : z ≠ .nan := ne_nan_of_le hxz.1
  have hbefore : x.standsBefore z = true := (le_eq_standsBefore hx hz).symm.trans hxz.1
  have hbehind : z.standsBefore y = true := (le_eq_standsBefore hz hy).symm.trans hyz.2
  exact standsBefore_trans hbefore hbehind

end FormPress.Binary64
