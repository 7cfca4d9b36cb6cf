import FormPress.Proofs.Field.Rendered
import FormPress.Proofs.Number.Finite
import FormPress.Proofs.Result

/-!
# Measurable fields

A field is rendered unless a count cannot be made of one of its numbers. For a width only a NaN
counts as such, since all other widths beyond the row are full rows; for the stars and for the ends
of an opinion scale the infinities do too, and a scale must not have more values than a list.
-/

namespace FormPress

open FieldView

/-- All counts that a field's rendering makes of its numbers exist. -/
structure Field.IsMeasurable (f : Field) : Prop where
  width : f.width ≠ some .nan
  stars : f.kind = some .rating ∨ f.kind = some .starRating → ∀ x ∈ f.max, x.IsFinite
  ends : f.kind = some .opinionScale → ∀ x, x ∈ f.min ∨ x ∈ f.max → x.IsFinite
  count : f.kind = some .opinionScale →
    (f.max.map Binary64.truncate).getD defaultScale.2 + 1 -
      (f.min.map Binary64.truncate).getD defaultScale.1 ≤ greatestCount

/-! ## Widths -/

theorem within_ofInt_hundred : (Binary64.ofInt 100).Within 1081 := by
  have heq : Binary64.ofInt 100 = .finite false (Nat.mul 100 (Nat.pow 2 46)) 1028 := by
    decide +kernel
  rw [heq]
  exact Binary64.within_finite false (by decide) (by omega)

theorem within_half : Binary64.half.Within 1087 := by
  have heq : Binary64.half = .finite false (Nat.pow 2 52) 1021 := by
    decide +kernel
  rw [heq]
  exact Binary64.within_finite false (by decide) (by omega)

/-- The columns of a width within the row can be counted. -/
theorem isFinite_columns {w : Binary64} (hw : w.Within 1081) :
    (((w.scaleBy gridColumns 1).scaleBy 1 100).add .half).IsFinite := by
  have hcolumns : (w.scaleBy gridColumns 1).Within 1086 :=
    hw.scaleBy 4 1 (by decide) (by omega) (by omega)
  have hpart : ((w.scaleBy gridColumns 1).scaleBy 1 100).Within 1087 :=
    hcolumns.scaleBy 0 100 (by decide) (by omega) (by omega)
  exact (hpart.add within_half (by omega) (by omega)).isFinite

/-- Every width but a NaN has a place on the grid. -/
theorem exists_columnSpan_iff {width : Option Binary64} :
    (∃ span, columnSpan width = .ok span) ↔ width ≠ some .nan := by
  cases width with
  | none => exact iff_of_true ⟨none, rfl⟩ (by simp)
  | some w =>
    unfold columnSpan
    dsimp only
    constructor
    · rintro ⟨span, hspan⟩ hnan
      obtain rfl := Option.some.inj hnan
      rw [Binary64.le_nan, show Binary64.nan.le .zero = false from rfl] at hspan
      cases hspan
    · intro hne
      by_cases hfull : (w.le .zero || (Binary64.ofInt 100).le w) = true
      · exact ⟨none, if_pos hfull⟩
      · rw [if_neg hfull]
        rw [Bool.not_eq_true, Bool.or_eq_false_iff] at hfull
        have hw : w.Within 1081 :=
          Binary64.within_of_not_le (fun h => hne (congrArg some h)) hfull.1 hfull.2
            within_ofInt_hundred
        rw [Binary64.whole_of_isFinite (isFinite_columns hw)]
        exact ⟨_, rfl⟩

variable {f : Field} {v : FieldView} {o : RenderOptions} {fields : List Field}

theorem exists_view_iff : (∃ v, f.view = .ok v) ↔ f.width ≠ some .nan := by
  rw [← exists_columnSpan_iff]
  exact exists_map_iff

/-! ## Scales -/

theorem exists_nonzeroOr_iff (standing : Int) {bound : Option Binary64} :
    (∃ n, nonzeroOr standing bound = .ok n) ↔ ∀ x ∈ bound, x.IsFinite := by
  cases bound with
  | none => exact iff_of_true ⟨standing, rfl⟩ (by simp)
  | some x =>
    have hbound : (∀ y ∈ some x, y.IsFinite) ↔ x.IsFinite := by simp
    rw [hbound]
    unfold nonzeroOr
    cases hzero : x.isZero with
    | false =>
      rw [Option.filter_some_pos (by simp [hzero])]
      exact Binary64.exists_whole_iff
    | true =>
      rw [Option.filter_some_neg (by simp [hzero])]
      refine iff_of_true ⟨standing, rfl⟩ ?_
      cases x with
      | finite negative significand scale => exact Binary64.isFinite_finite _ _ _
      | infinite negative => cases hzero
      | nan => cases hzero

theorem exists_stars_iff {base : String} :
    (∃ m, v.stars base = .ok m) ↔ ∀ x ∈ v.field.max, x.IsFinite := by
  rw [← exists_nonzeroOr_iff defaultStars]
  exact exists_map_iff

theorem exists_boundOr_iff {standing : Int} {bound : Option Binary64} :
    (∃ n, boundOr standing bound = .ok n) ↔ ∀ x ∈ bound, x.IsFinite := by
  cases bound with
  | none => exact iff_of_true ⟨standing, rfl⟩ (by simp)
  | some x =>
    have hbound : (∀ y ∈ some x, y.IsFinite) ↔ x.IsFinite := by simp
    rw [hbound]
    exact Binary64.exists_whole_iff

theorem boundOr_of_isFinite {standing : Int} {bound : Option Binary64}
    (h : ∀ x ∈ bound, x.IsFinite) :
    boundOr standing bound = .ok ((bound.map Binary64.truncate).getD standing) := by
  cases bound with
  | none => rfl
  | some x => exact Binary64.whole_of_isFinite (h x rfl)

/-- An opinion scale whose ends are finite. -/
theorem opinionScale_of_isFinite (hmin : ∀ x ∈ v.field.min, x.IsFinite)
    (hmax : ∀ x ∈ v.field.max, x.IsFinite) :
    v.opinionScale =
      let low := (v.field.min.map Binary64.truncate).getD defaultScale.1
      let high := (v.field.max.map Binary64.truncate).getD defaultScale.2
      if greatestCount < high + 1 - low then .error .tooMany else .ok (v.scaleRow low high) := by
  unfold opinionScale
  rw [boundOr_of_isFinite hmin, boundOr_of_isFinite hmax]
  rfl

theorem exists_opinionScale_iff :
    (∃ m, v.opinionScale = .ok m) ↔
      (∀ x, x ∈ v.field.min ∨ x ∈ v.field.max → x.IsFinite) ∧
        (v.field.max.map Binary64.truncate).getD defaultScale.2 + 1 -
          (v.field.min.map Binary64.truncate).getD defaultScale.1 ≤ greatestCount := by
  constructor
  · rintro ⟨m, hm⟩
    have hbounds := hm
    obtain ⟨low, hlow, hrest⟩ := bind_eq_ok.1 hbounds
    obtain ⟨high, hhigh, -⟩ := bind_eq_ok.1 hrest
    have hmin := exists_boundOr_iff.1 ⟨low, hlow⟩
    have hmax := exists_boundOr_iff.1 ⟨high, hhigh⟩
    refine ⟨fun x hx => hx.elim (hmin x) (hmax x), ?_⟩
    rw [opinionScale_of_isFinite hmin hmax] at hm
    refine Int.not_lt.1 fun hmany => ?_
    rw [if_pos hmany] at hm
    cases hm
  · rintro ⟨hfinite, hcount⟩
    rw [opinionScale_of_isFinite (fun x hx => hfinite x (.inl hx)) fun x hx => hfinite x (.inr hx)]
    exact ⟨_, if_neg (Int.not_lt.2 hcount)⟩

/-! ## All kinds -/

/-- Only the scales make counts of the numbers of a field. -/
theorem exists_controlOf_iff (kind : FieldKind) :
    (∃ m, v.controlOf fields o kind = .ok m) ↔
      (kind = .rating ∨ kind = .starRating → ∀ x ∈ v.field.max, x.IsFinite) ∧
      (kind = .opinionScale → (∀ x, x ∈ v.field.min ∨ x ∈ v.field.max → x.IsFinite) ∧
        (v.field.max.map Binary64.truncate).getD defaultScale.2 + 1 -
          (v.field.min.map Binary64.truncate).getD defaultScale.1 ≤ greatestCount) := by
  cases kind
  case rating =>
    rw [show v.controlOf fields o .rating = v.stars "rating" from rfl]
    simpa using exists_stars_iff
  case starRating =>
    rw [show v.controlOf fields o .starRating = v.stars "star-rating" from rfl]
    simpa using exists_stars_iff
  case opinionScale =>
    rw [show v.controlOf fields o .opinionScale = v.opinionScale from rfl]
    simpa using exists_opinionScale_iff
  all_goals exact iff_of_true ⟨_, rfl⟩ ⟨by simp, by simp⟩

/-- **A field is rendered exactly when it is measurable.** -/
theorem Field.exists_render_iff :
    (∃ m, f.render o fields = .ok m) ↔ f.IsMeasurable := by
  unfold Field.render
  constructor
  · rintro ⟨m, hm⟩
    obtain ⟨v, hv, hm⟩ := bind_eq_ok.1 hm
    have hwidth : f.width ≠ some .nan := exists_view_iff.1 ⟨v, hv⟩
    have hfield : v.field = f := field_of_view hv
    cases hkind : f.kind with
    | none => exact ⟨hwidth, by simp [hkind], by simp [hkind], by simp [hkind]⟩
    | some kind =>
      rw [hkind] at hm
      obtain ⟨control, hcontrol, -⟩ := bind_eq_ok.1 hm
      obtain ⟨hstars, hscale⟩ := (exists_controlOf_iff kind).1 ⟨control, hcontrol⟩
      rw [hfield] at hstars hscale
      refine ⟨hwidth, ?_, ?_, ?_⟩
      · intro h
        exact hstars (by simpa [hkind] using h)
      · intro h
        exact (hscale (by simpa [hkind] using h)).1
      · intro h
        exact (hscale (by simpa [hkind] using h)).2
  · rintro ⟨hwidth, hstars, hends, hcount⟩
    obtain ⟨v, hv⟩ := exists_view_iff.2 hwidth
    have hfield : v.field = f := field_of_view hv
    rw [hv]
    cases hkind : f.kind with
    | none => exact ⟨_, rfl⟩
    | some kind =>
      obtain ⟨control, hcontrol⟩ : ∃ m, v.controlOf fields o kind = .ok m := by
        rw [exists_controlOf_iff, hfield]
        rw [hkind] at hstars hends hcount
        refine ⟨?_, ?_⟩
        · intro h
          exact hstars (h.imp (congrArg some) (congrArg some))
        · intro h
          exact ⟨hends (congrArg some h), hcount (congrArg some h)⟩
      refine ⟨if kind.standsAlone then control else v.grouped o.animate control, ?_⟩
      exact bind_eq_ok.2 ⟨v, rfl, bind_eq_ok.2 ⟨control, hcontrol, rfl⟩⟩

end FormPress
