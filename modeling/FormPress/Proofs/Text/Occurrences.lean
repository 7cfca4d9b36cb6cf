import FormPress.Text.Basic

/-!
# Occurrences and calm texts

How often a pattern stands in a text, without regard to the case of the ASCII letters. A calm text
has no place at which an end tag begins, whatever follows it: it adds nothing to the number of end
tags of the text that it is a part of. Calm texts can be put together freely.
-/

namespace FormPress.Text

/-- The number of places at which a pattern in small letters stands in a text. -/
def occurrences (pattern : List Char) : List Char → Nat
  | [] => 0
  | c :: rest =>
    (if pattern.isPrefixOf ((c :: rest).map lowerAscii) then 1 else 0) + occurrences pattern rest

/-- The beginning of an end tag: the pattern `</` and letters. -/
def endTagPattern (letters : List Char) : List Char :=
  '<' :: '/' :: letters

theorem eq_of_lowerAscii_eq {c d : Char} (hd : d.toNat < 97) (h : lowerAscii c = d) : c = d := by
  unfold lowerAscii at h
  split at h
  · rename_i hc
    have hlow : 65 ≤ c.toNat := UInt32.le_iff_toNat_le.1 (Char.le_def.1 hc.1)
    have hhigh : c.toNat ≤ 90 := UInt32.le_iff_toNat_le.1 (Char.le_def.1 hc.2)
    have hvalid : (c.toNat + 32).isValidChar := .inl (by omega)
    have hvalue : d.toNat = c.toNat + 32 := by
      rw [← h, Char.ofNat, dif_pos hvalid]
      rfl
    omega
  · exact h

variable {letters : List Char}

theorem occurrences_cons_of_ne {c : Char} (rest : List Char) (h : c ≠ '<') :
    occurrences (endTagPattern letters) (c :: rest) =
      occurrences (endTagPattern letters) rest := by
  have hc : ('<' == lowerAscii c) = false := by
    rw [beq_eq_false_iff_ne]
    exact fun heq => h (eq_of_lowerAscii_eq (by decide) heq.symm)
  simp [occurrences, endTagPattern, List.isPrefixOf, hc]

theorem occurrences_cons_cons_of_ne {c d : Char} (rest : List Char) (h : d ≠ '/') :
    occurrences (endTagPattern letters) (c :: d :: rest) =
      occurrences (endTagPattern letters) (d :: rest) := by
  have hd : ('/' == lowerAscii d) = false := by
    rw [beq_eq_false_iff_ne]
    exact fun heq => h (eq_of_lowerAscii_eq (by decide) heq.symm)
  rw [occurrences]
  simp [endTagPattern, List.isPrefixOf, hd]

/-! ## Calm texts -/

/-- Each `<` is followed by another character than `/`; `opened` says that a `<` was just read. -/
def calmFrom (opened : Bool) : List Char → Bool
  | [] => !opened
  | c :: rest => !(opened && c == '/') && calmFrom (c == '<') rest

/-- No end tag begins in the text, whatever follows. -/
structure Calm (s : String) : Prop where
  calmFrom_toList : calmFrom false s.toList = true

theorem calm_ofList {cs : List Char} (h : calmFrom false cs = true) : Calm (String.ofList cs) :=
  ⟨by rwa [String.toList_ofList]⟩

theorem calmFrom_append {opened : Bool} {left right : List Char}
    (hleft : calmFrom opened left = true) (hright : calmFrom false right = true) :
    calmFrom opened (left ++ right) = true := by
  induction left generalizing opened with
  | nil =>
    cases opened with
    | false => exact hright
    | true => contradiction
  | cons c rest ih =>
    rw [calmFrom, Bool.and_eq_true] at hleft
    rw [List.cons_append, calmFrom, hleft.1, ih hleft.2]
    rfl

theorem Calm.append {s t : String} (hs : Calm s) (ht : Calm t) : Calm (s ++ t) := by
  constructor
  rw [String.toList_append]
  exact calmFrom_append hs.1 ht.1

theorem calmFrom_of_notMem {s : List Char} (h : '<' ∉ s) : calmFrom false s = true := by
  induction s with
  | nil => rfl
  | cons c rest ih =>
    rw [List.mem_cons, not_or] at h
    have hc : (c == '<') = false := by simpa using Ne.symm h.1
    rw [calmFrom, hc, ih h.2]
    rfl

/-- A `<` before another character than `/`, and no other `<` behind it. -/
theorem calmFrom_lt_cons {c : Char} {rest : List Char} (hc : c ≠ '/') (h : '<' ∉ c :: rest) :
    calmFrom false ('<' :: c :: rest) = true := by
  rw [List.mem_cons, not_or] at h
  have hslash : (c == '/') = false := beq_false_of_ne hc
  have hopen : (c == '<') = false := beq_false_of_ne (Ne.symm h.1)
  have hrest : calmFrom false rest = true := calmFrom_of_notMem h.2
  simp [calmFrom, hslash, hopen, hrest]

theorem calm_of_notMem {s : String} (h : '<' ∉ s.toList) : Calm s :=
  ⟨calmFrom_of_notMem h⟩

theorem calm_empty : Calm "" :=
  calm_of_notMem (by simp)

theorem calm_concat {texts : List String} (h : ∀ s ∈ texts, Calm s) : Calm (concat texts) := by
  induction texts with
  | nil => exact calm_empty
  | cons s rest ih =>
    rw [concat_cons]
    exact (h s (by simp)).append (ih fun t ht => h t (List.mem_cons_of_mem _ ht))

theorem join_cons_cons (separator s t : String) (rest : List String) :
    join separator (s :: t :: rest) = s ++ (separator ++ join separator (t :: rest)) := by
  rw [join_cons, join_cons, List.map_cons, concat_cons, String.append_assoc]

theorem calm_join {separator : String} {texts : List String} (hseparator : Calm separator)
    (h : ∀ s ∈ texts, Calm s) : Calm (join separator texts) := by
  cases texts with
  | nil => exact calm_empty
  | cons s rest =>
    rw [join_cons]
    refine (h s (by simp)).append (calm_concat (List.forall_mem_map.2 fun t ht => ?_))
    exact hseparator.append (h t (List.mem_cons_of_mem _ ht))

-- A `<` at the end of what was read is still open; the statement carries it in front of the text.
theorem occurrences_append_of_calmFrom {opened : Bool} {s : List Char} (t : List Char)
    (h : calmFrom opened s = true) :
    occurrences (endTagPattern letters) ((if opened then ['<'] else []) ++ s ++ t) =
      occurrences (endTagPattern letters) t := by
  induction s generalizing opened with
  | nil =>
    cases opened with
    | false => rfl
    | true => contradiction
  | cons c rest ih =>
    rw [calmFrom, Bool.and_eq_true] at h
    have hrest : occurrences (endTagPattern letters) (c :: (rest ++ t)) =
        occurrences (endTagPattern letters) t := by
      have hih := ih h.2
      by_cases hc : c = '<'
      · subst hc
        exact hih
      · rw [beq_false_of_ne hc] at hih
        rw [occurrences_cons_of_ne _ hc]
        exact hih
    cases opened with
    | false => exact hrest
    | true =>
      have hc : c ≠ '/' := by simpa using h.1
      exact (occurrences_cons_cons_of_ne (rest ++ t) hc).trans hrest

/-- A calm text adds no end tag to a text that it begins. -/
theorem Calm.occurrences_append {s : String} (h : Calm s) (t : List Char) :
    occurrences (endTagPattern letters) (s.toList ++ t) =
      occurrences (endTagPattern letters) t :=
  occurrences_append_of_calmFrom t h.1

end FormPress.Text
