import FormPress.Submission.Plan
import FormPress.Text.Mask
import Mathlib.Data.List.DropRight

/-!
# What a mask reveals

The mask of a text shows its two ends and nothing of what stands between them, as long as at least
one character is kept: texts that are longer than their two ends together have the same mask exactly
when they have the same ends. Shorter texts are masked whole. Where no character is to be kept, the
end that is kept is the whole text.
-/

namespace FormPress

namespace Text

/-- Two texts have the same first and the same last `k` characters. -/
def SameEnds (k : Nat) (s t : String) : Prop :=
  s.toList.take k = t.toList.take k ∧ s.toList.rtake k = t.toList.rtake k

variable {k : Nat} {s t : String}

/-! ## Ends -/

theorem headPart_natCast {α : Type} (k : Nat) (s : List α) : headPart k s = s.take k := by
  rw [headPart, if_pos (Int.natCast_nonneg k), Int.toNat_natCast]

theorem tailPart_zero {α : Type} (s : List α) : tailPart 0 s = s := by
  rw [tailPart, if_pos (Int.le_refl 0), Int.toNat_zero, List.drop_zero]

theorem tailPart_neg_natCast {α : Type} (hk : k ≠ 0) (s : List α) :
    tailPart (-k) s = s.rtake k := by
  have hneg : ¬(0 : Int) ≤ -k := by omega
  rw [tailPart, if_neg hneg, Int.neg_neg, Int.toNat_natCast, List.rtake]

theorem length_take_of_long (h : 2 * k < s.length) : (s.toList.take k).length = k := by
  rw [List.length_take, String.length_toList]
  omega

/-! ## Masks -/

theorem mask_of_short (h : s.length ≤ 2 * k) : mask (some s) k = maskMark := by
  have hshort : (s.length : Int) ≤ k * 2 := by omega
  rw [mask, if_pos (.inr hshort)]

theorem mask_of_long (h : 2 * k < s.length) :
    mask (some s) k =
      String.ofList (s.toList.take k) ++ maskMark ++ String.ofList (tailPart (-k) s.toList) := by
  have hlong : ¬(s.length = 0 ∨ (s.length : Int) ≤ k * 2) := by omega
  rw [mask, if_neg hlong, headPart_natCast]

/-- Where no character is kept, the whole text stands behind the mark. -/
theorem mask_zero (hs : s ≠ "") : mask (some s) 0 = maskMark ++ s := by
  have hlength : s.length ≠ 0 := fun h => hs (String.length_eq_zero_iff.1 h)
  have hlong := mask_of_long (k := 0) (s := s) (by omega)
  rw [Int.natCast_zero, Int.neg_zero, tailPart_zero] at hlong
  simpa using hlong

/-- **A mask with ends tells texts apart by their ends alone.** -/
theorem mask_eq_iff (hk : k ≠ 0) (hs : 2 * k < s.length) (ht : 2 * k < t.length) :
    mask (some s) k = mask (some t) k ↔ SameEnds k s t := by
  rw [mask_of_long hs, mask_of_long ht, tailPart_neg_natCast hk, tailPart_neg_natCast hk]
  constructor
  · intro h
    have hlists := congrArg String.toList h
    simp only [String.toList_append, String.toList_ofList, List.append_assoc] at hlists
    have hlength : (s.toList.take k).length = (t.toList.take k).length := by
      rw [length_take_of_long hs, length_take_of_long ht]
    obtain ⟨hhead, hrest⟩ := List.append_inj hlists hlength
    exact ⟨hhead, List.append_cancel_left hrest⟩
  · rintro ⟨hhead, htail⟩
    rw [hhead, htail]

/-- **A mask hides all but the ends exactly when it keeps some.** No text, and a text that is not
longer than its two ends together, are masked whole. Of two longer texts with the same ends the
masks are the same, unless no character is to be kept. -/
theorem mask_hides_iff (k : Nat) :
    mask none k = maskMark ∧ (∀ s : String, s.length ≤ 2 * k → mask (some s) k = maskMark) ∧
      ((∀ s t : String, s ≠ "" → t ≠ "" → 2 * k < s.length → 2 * k < t.length → SameEnds k s t →
        mask (some s) k = mask (some t) k) ↔ k ≠ 0) := by
  refine ⟨rfl, fun s => mask_of_short, ?_, ?_⟩
  · rintro hagree rfl
    have hmasks := hagree "a" "b" (by decide) (by decide) (by decide) (by decide) ⟨rfl, rfl⟩
    rw [Int.natCast_zero, mask_zero (by decide), mask_zero (by decide)] at hmasks
    exact absurd hmasks (by decide)
  · intro hk s t _ _ hs ht hends
    exact (mask_eq_iff hk hs ht).2 hends

/-- Two tokens that differ in the middle, and one that has nothing but its ends. -/
theorem mask_hides_tokens :
    mask (some "tok_abc89") 2 = mask (some "to--89") 2 ∧ mask (some "to89") 2 = "***" := by
  obtain ⟨-, hshort, hagree⟩ := mask_hides_iff 2
  exact ⟨hagree.2 (by decide) _ _ (by decide) (by decide) (by decide) (by decide) ⟨rfl, rfl⟩,
    hshort _ (by decide)⟩

/-- Texts that have no more than their empty ends in common have different masks when no character
is to be kept: all of both is shown. -/
theorem mask_nothingKept :
    2 * 0 < "abc".length ∧ 2 * 0 < "abd".length ∧ SameEnds 0 "abc" "abd" ∧
      mask (some "abc") 0 = "***abc" ∧ mask (some "abd") 0 = "***abd" :=
  ⟨by decide, by decide, ⟨rfl, rfl⟩, by decide, by decide⟩

end Text

namespace Form

/-- The form with another token for its webhook. -/
def withToken (form : Form) (token : Option String) : Form :=
  { form with webhook := { form.webhook with token := token } }

/-- **The log shows nothing of a token but its ends.** What it says about a webhook is the same for
tokens with the same ends. -/
theorem lines_webhookTarget_withToken (form : Form) {s t : String} (hs : 4 < s.length)
    (ht : 4 < t.length) (hends : Text.SameEnds 2 s t) :
    (form.withToken (some s)).webhookTarget.lines =
      (form.withToken (some t)).webhookTarget.lines := by
  have hmask : Text.mask (some s) 2 = Text.mask (some t) 2 :=
    (Text.mask_eq_iff (k := 2) (by decide) hs ht).2 hends
  unfold webhookTarget withToken
  dsimp only
  split
  · rfl
  · split
    · rfl
    · rw [Logged.lines_bind, Logged.lines_bind, hmask]
      rfl

end Form

end FormPress
