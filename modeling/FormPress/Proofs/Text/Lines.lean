import FormPress.Proofs.Text.Occurrences

/-!
# Lines of a text

The lines of a text that have a property. Texts joined by line breaks add up their lines.
-/

namespace FormPress.Text

/-- The lines of a text that have a property. -/
def linesWhere (p : List Char → Bool) (s : List Char) : List (List Char) :=
  (splitAt '\n' s).filter p

theorem splitAt_ne_nil (mark : Char) (s : List Char) : splitAt mark s ≠ [] := by
  cases s with
  | nil => simp [splitAt]
  | cons c rest =>
    rw [splitAt]
    split
    · simp
    · split
      all_goals simp

theorem splitAt_cons_of_ne {mark c : Char} {rest piece : List Char} {pieces : List (List Char)}
    (hc : c ≠ mark) (hrest : splitAt mark rest = piece :: pieces) :
    splitAt mark (c :: rest) = (c :: piece) :: pieces := by
  rw [splitAt, if_neg hc, hrest]

theorem splitAt_append (mark : Char) (s t : List Char) :
    splitAt mark (s ++ mark :: t) = splitAt mark s ++ splitAt mark t := by
  induction s with
  | nil => simp [splitAt]
  | cons c rest ih =>
    by_cases hc : c = mark
    · rw [List.cons_append, splitAt, if_pos hc, splitAt, if_pos hc, ih, List.cons_append]
    · obtain ⟨piece, pieces, hrest⟩ := List.exists_cons_of_ne_nil (splitAt_ne_nil mark rest)
      have hwhole : splitAt mark (rest ++ mark :: t) = piece :: (pieces ++ splitAt mark t) := by
        rw [ih, hrest, List.cons_append]
      rw [List.cons_append, splitAt_cons_of_ne hc hwhole, splitAt_cons_of_ne hc hrest,
        List.cons_append]

theorem splitAt_of_notMem {mark : Char} {s : List Char} (h : mark ∉ s) : splitAt mark s = [s] := by
  induction s with
  | nil => rfl
  | cons c rest ih =>
    rw [List.mem_cons, not_or] at h
    exact splitAt_cons_of_ne (Ne.symm h.1) (ih h.2)

/-- No piece holds the mark. -/
theorem notMem_of_mem_splitAt {mark : Char} {s piece : List Char} (h : piece ∈ splitAt mark s) :
    mark ∉ piece := by
  induction s generalizing piece with
  | nil => simp_all [splitAt]
  | cons c rest ih =>
    by_cases hc : c = mark
    · rw [splitAt, if_pos hc, List.mem_cons] at h
      rcases h with rfl | h
      · exact List.not_mem_nil
      · exact ih h
    · obtain ⟨first, others, hrest⟩ := List.exists_cons_of_ne_nil (splitAt_ne_nil mark rest)
      rw [hrest] at ih
      rw [splitAt_cons_of_ne hc hrest, List.mem_cons] at h
      rcases h with rfl | h
      · rw [List.mem_cons, not_or]
        exact ⟨Ne.symm hc, ih List.mem_cons_self⟩
      · exact ih (List.mem_cons_of_mem _ h)

variable {p : List Char → Bool}

theorem linesWhere_append (p : List Char → Bool) (s t : List Char) :
    linesWhere p (s ++ '\n' :: t) = linesWhere p s ++ linesWhere p t := by
  rw [linesWhere, splitAt_append, List.filter_append]
  rfl

theorem linesWhere_of_notMem {s : List Char} (h : '\n' ∉ s) :
    linesWhere p s = if p s then [s] else [] := by
  rw [linesWhere, splitAt_of_notMem h, List.filter_cons, List.filter_nil]

/-- Texts joined by line breaks. -/
theorem linesWhere_join (hp : p [] = false) (texts : List String) :
    linesWhere p (join "\n" texts).toList = texts.flatMap fun s => linesWhere p s.toList := by
  induction texts with
  | nil => simp [linesWhere, splitAt, hp]
  | cons s rest ih =>
    cases rest with
    | nil => simp
    | cons t rest =>
      have hbreak : "\n".toList = ['\n'] := rfl
      rw [join_cons_cons, String.toList_append, String.toList_append, hbreak, List.cons_append,
        List.nil_append, linesWhere_append, ih, List.flatMap_cons, List.flatMap_cons,
        List.flatMap_cons]

/-- Empty texts have no line that matters. -/
theorem linesWhere_joinGiven (hp : p [] = false) (texts : List String) :
    linesWhere p (joinGiven "\n" texts).toList = texts.flatMap fun s => linesWhere p s.toList := by
  have hempty : linesWhere p "".toList = [] := by
    simp [linesWhere, splitAt, hp]
  rw [joinGiven, linesWhere_join hp]
  induction texts with
  | nil => rfl
  | cons s rest ih =>
    by_cases hs : s = ""
    · rw [List.filter_cons_of_neg (by simp [hs]), ih, List.flatMap_cons, hs, hempty,
        List.nil_append]
    · rw [List.filter_cons_of_pos (by simp [hs]), List.flatMap_cons, ih, List.flatMap_cons]

end FormPress.Text
