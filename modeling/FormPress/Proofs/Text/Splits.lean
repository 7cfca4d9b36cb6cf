import FormPress.Text.Basic
import FormPress.Text.Blank
import Mathlib.Data.List.DropRight

/-!
# Texts in two parts, and trimmed texts

A text is split at the first mark in it; the part in front has no mark. Characters of a class at the
ends of a text do not count when it is trimmed, and what is trimmed once stays as it is.
-/

namespace FormPress.Text

/-! ## The first mark -/

variable {mark : Char} {front rest s : List Char}

theorem splitFirst_append (h : mark ∉ front) (rest : List Char) :
    splitFirst mark (front ++ mark :: rest) = some (front, rest) := by
  induction front with
  | nil => rw [List.nil_append, splitFirst, if_pos rfl]
  | cons c front ih =>
    obtain ⟨hc, hfront⟩ := not_or.1 (mt List.mem_cons.2 h)
    rw [List.cons_append, splitFirst, if_neg (Ne.symm hc), ih hfront]
    rfl

theorem notMem_of_splitFirst (h : splitFirst mark s = some (front, rest)) : mark ∉ front := by
  induction s generalizing front with
  | nil => exact nomatch h
  | cons c s ih =>
    rw [splitFirst] at h
    split at h
    · cases h
      exact List.not_mem_nil
    · rename_i hc
      obtain ⟨parts, hparts, heq⟩ := Option.map_eq_some_iff.1 h
      cases heq
      exact List.not_mem_cons_of_ne_of_not_mem (Ne.symm hc) (ih hparts)

/-! ## Trimmed texts -/

variable {p : Char → Bool} {c : Char}

theorem stripBy_cons_of_pos (h : p c = true) (s : List Char) :
    stripBy p (c :: s) = stripBy p s := by
  rw [stripBy, List.dropWhile_cons_of_pos h, stripBy]

theorem stripBy_concat_of_pos (h : p c = true) (s : List Char) :
    stripBy p (s ++ [c]) = stripBy p s := by
  rw [stripBy, List.dropWhile_append, List.dropWhile_cons_of_pos h, List.dropWhile_nil]
  split
  · rename_i hempty
    rw [stripBy, List.isEmpty_iff.1 hempty]
  · rw [List.reverse_append, List.reverse_singleton, List.singleton_append,
      List.dropWhile_cons_of_pos h, stripBy]

/-- A text whose first and last characters count is trimmed already. -/
theorem stripBy_of_ends {d : Char} (hfirst : p c = false) (hlast : p d = false)
    (s : List Char) : stripBy p (c :: (s ++ [d])) = c :: (s ++ [d]) := by
  have hreverse : (c :: (s ++ [d])).reverse = d :: (s.reverse ++ [c]) := by simp
  rw [stripBy, List.dropWhile_cons_of_neg (by simp [hfirst]), hreverse,
    List.dropWhile_cons_of_neg (by simp [hlast]), ← hreverse, List.reverse_reverse]

/-- Trimming leaves nothing of a text of which no character counts. -/
theorem stripBy_eq_nil_iff : stripBy p s = [] ↔ ∀ c ∈ s, p c = true := by
  have hstrip : stripBy p s = (s.dropWhile p).rdropWhile p := rfl
  rw [hstrip, List.rdropWhile_eq_nil_iff]
  constructor
  · intro hrest c hc
    rw [← List.takeWhile_append_dropWhile (p := p) (l := s), List.mem_append] at hc
    exact hc.elim List.mem_takeWhile_imp (hrest c)
  · intro hall c hc
    exact hall c ((List.dropWhile_sublist p).subset hc)

/-- What is trimmed once stays as it is. -/
theorem stripBy_stripBy (p : Char → Bool) (s : List Char) :
    stripBy p (stripBy p s) = stripBy p s := by
  have hstrip (t : List Char) : stripBy p t = (t.dropWhile p).rdropWhile p := rfl
  -- what is left begins where the text without its first blanks begins
  have hfirst : (stripBy p s).dropWhile p = stripBy p s := by
    rw [List.dropWhile_eq_self_iff]
    intro hlength
    have hfront : stripBy p s <+: s.dropWhile p := List.rdropWhile_prefix p _
    rw [hfront.getElem]
    exact List.dropWhile_get_zero_not p s (hlength.trans_le hfront.length_le)
  rw [hstrip (stripBy p s), hfirst, hstrip s, List.rdropWhile_idempotent]

end FormPress.Text
