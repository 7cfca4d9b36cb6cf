import FormPress.Proofs.Text.Splits
import FormPress.Text.Slug

/-!
# File name stems of titles

A title leaves a stem exactly when it has a word character or a hyphen; so a title of blanks and
signs leaves none. No title leaves a slash in its stem: slashes are not kept, and no other character
has a slash for its small letter.
-/

namespace FormPress.Text

variable {s : List Char} {c : Char}

/-! ## Classes of characters -/

/-- Two lists of ranges are apart when no code point of the first is in the second. -/
theorem inRanges_eq_false_of_apart {ranges others : List (Nat × Nat)} {n : Nat}
    (hapart : (ranges.all fun r =>
      (List.range' r.1 (r.2 + 1 - r.1)).all fun m => !inRanges others m) = true)
    (h : inRanges ranges n = true) : inRanges others n = false := by
  obtain ⟨r, hr, hlow, hhigh⟩ := exists_range_of_inRanges h
  have hmem : n ∈ List.range' r.1 (r.2 + 1 - r.1) := by
    rw [List.mem_range'_1]
    omega
  have hpoint := List.all_eq_true.1 (List.all_eq_true.1 hapart r hr) n hmem
  simpa using hpoint

/-- No blank is a word character. -/
theorem isWord_eq_false_of_isBlank (h : isBlank c = true) : isWord c = false := by
  rw [isBlank, Bool.or_eq_true, Bool.and_eq_true, decide_eq_true_eq, decide_eq_true_eq] at h
  rcases h with hspace | ⟨hlow, hhigh⟩
  · exact inRanges_eq_false_of_apart (by decide +kernel) hspace
  · have hseparator : inRanges [(0x1C, 0x1F)] c.toNat = true := by
      rw [inRanges, if_neg (by omega), if_pos hhigh]
    exact inRanges_eq_false_of_apart (by decide) hseparator

/-- What a title leaves of itself by a single character: a word character or a hyphen. -/
def isStemChar (c : Char) : Bool :=
  isWord c || c == '-'

theorem keptInSlug_iff : keptInSlug c = true ↔ isStemChar c = true ∨ isBlank c = true := by
  rw [keptInSlug, isStemChar, Bool.or_eq_true, Bool.or_eq_true, Bool.or_eq_true, or_right_comm]

theorem isBlank_eq_false_of_isStemChar (h : isStemChar c = true) : isBlank c = false := by
  rw [isStemChar, Bool.or_eq_true, beq_iff_eq] at h
  rcases h with hword | rfl
  · refine Bool.eq_false_iff.2 fun hblank => ?_
    rw [isWord_eq_false_of_isBlank hblank] at hword
    cases hword
  · decide

/-! ## Small letters -/

/-- A code point below the small letters of all runs is the small letter of itself alone. -/
theorem eq_of_shiftCase_eq {runs : List CaseRun} {low n : Nat}
    (hruns : ∀ r ∈ runs, (low : Int) < r.first + r.shift) (h : shiftCase runs n = low) :
    n = low := by
  induction runs with
  | nil => exact h
  | cons r rest ih =>
    obtain ⟨hr, hrest⟩ := List.forall_mem_cons.1 hruns
    rw [shiftCase] at h
    split at h
    · exact h
    · split at h
      · omega
      · exact ih hrest h

theorem slash_lt_caseRuns : ∀ r ∈ caseRuns, ('/'.toNat : Int) < r.first + r.shift := by
  have hall : (caseRuns.all fun r => decide (('/'.toNat : Int) < r.first + r.shift)) = true := by
    decide
  exact fun r hr => of_decide_eq_true (List.all_eq_true.1 hall r hr)

/-- A character has the code point that it is made from, or that is none and it has zero. -/
theorem toNat_ofNat_cases (n : Nat) : (Char.ofNat n).toNat = n ∨ (Char.ofNat n).toNat = 0 := by
  by_cases hvalid : n.isValidChar
  · rw [Char.ofNat, dif_pos hvalid]
    exact .inl rfl
  · rw [Char.ofNat, dif_neg hvalid]
    exact .inr rfl

/-- No other character has a slash for its small letter. -/
theorem slash_notMem_lowerChar (before after : List Char) (h : c ≠ '/') :
    '/' ∉ lowerChar before c after := by
  unfold lowerChar
  split
  · decide
  · split
    · split
      · decide
      · decide
    · rw [List.mem_singleton]
      intro heq
      have hpoint : shiftCase caseRuns c.toNat = '/'.toNat := by
        rcases toNat_ofNat_cases (shiftCase caseRuns c.toNat) with hvalue | hzero
        · rw [← hvalue, ← heq]
        · rw [← heq] at hzero
          exact absurd hzero (by decide)
      exact h (Char.toNat_inj.1 (eq_of_shiftCase_eq slash_lt_caseRuns hpoint))

theorem slash_notMem_lowerFrom (before : List Char) (h : '/' ∉ s) : '/' ∉ lowerFrom before s := by
  induction s generalizing before with
  | nil => exact List.not_mem_nil
  | cons c rest ih =>
    rw [List.mem_cons, not_or] at h
    rw [lowerFrom, List.mem_append, not_or]
    exact ⟨slash_notMem_lowerChar _ _ (Ne.symm h.1), ih _ h.2⟩

theorem lower_eq_nil_iff : lower s = [] ↔ s = [] := by
  cases s with
  | nil => exact iff_of_true rfl rfl
  | cons c rest =>
    have hne : lowerChar [] c rest ≠ [] := by
      unfold lowerChar
      split
      · exact List.cons_ne_nil _ _
      · split
        · exact List.cons_ne_nil _ _
        · exact List.cons_ne_nil _ _
    refine iff_of_false (fun h => ?_) (List.cons_ne_nil _ _)
    exact hne (List.append_eq_nil_iff.1 h).1

/-! ## Runs of separators -/

theorem mem_of_mem_hyphenate {inRun : Bool} (h : c ∈ hyphenate inRun s) : c = '-' ∨ c ∈ s := by
  induction s generalizing inRun with
  | nil => exact absurd h List.not_mem_nil
  | cons d rest ih =>
    rw [hyphenate] at h
    split at h
    · split at h
      · exact (ih h).imp_right (List.mem_cons_of_mem _)
      · rcases List.mem_cons.1 h with hc | hrest
        · exact .inl hc
        · exact (ih hrest).imp_right (List.mem_cons_of_mem _)
    · rcases List.mem_cons.1 h with rfl | hrest
      · exact .inr List.mem_cons_self
      · exact (ih hrest).imp_right (List.mem_cons_of_mem _)

theorem hyphenate_eq_nil_iff : hyphenate false s = [] ↔ s = [] := by
  cases s with
  | nil => exact iff_of_true rfl rfl
  | cons c rest =>
    rw [hyphenate, if_neg Bool.false_ne_true]
    split
    · exact iff_of_false (List.cons_ne_nil _ _) (List.cons_ne_nil _ _)
    · exact iff_of_false (List.cons_ne_nil _ _) (List.cons_ne_nil _ _)

/-! ## Stems -/

/-- **A title leaves nothing when it has neither a word character nor a hyphen.** -/
theorem slugChars_eq_nil_iff : slugChars s = [] ↔ ∀ c ∈ s, isStemChar c = false := by
  rw [slugChars, hyphenate_eq_nil_iff, lower_eq_nil_iff, stripBy_eq_nil_iff]
  simp only [List.mem_filter]
  constructor
  · intro h c hc
    refine Bool.eq_false_iff.2 fun hstem => ?_
    have hblank := h c ⟨hc, keptInSlug_iff.2 (.inl hstem)⟩
    rw [isBlank_eq_false_of_isStemChar hstem] at hblank
    cases hblank
  · rintro h c ⟨hc, hkept⟩
    refine (keptInSlug_iff.1 hkept).resolve_left ?_
    rw [h c hc]
    exact Bool.false_ne_true

/-- **No title leaves a slash.** -/
theorem slash_notMem_slugChars (s : List Char) : '/' ∉ slugChars s := by
  have hkept : '/' ∉ stripBy isBlank (s.filter keptInSlug) := by
    intro h
    have hslash := (List.mem_filter.1 (mem_of_mem_stripBy h)).2
    exact absurd hslash (by decide)
  intro h
  rcases mem_of_mem_hyphenate h with hhyphen | hlower
  · exact absurd hhyphen (by decide)
  · exact slash_notMem_lowerFrom [] hkept hlower

/-- The stem of a title is that which the title leaves, or the given text when it leaves nothing. -/
theorem slug_of_ne_nil {title fallback : String} (h : slugChars title.toList ≠ []) :
    slug title fallback = String.ofList (slugChars title.toList) := by
  obtain ⟨c, rest, hstem⟩ := List.exists_cons_of_ne_nil h
  rw [slug, hstem]

theorem slug_of_eq_nil {title fallback : String} (h : slugChars title.toList = []) :
    slug title fallback = fallback := by
  rw [slug, h]

end FormPress.Text
