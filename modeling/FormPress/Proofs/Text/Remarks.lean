import FormPress.Text.Basic

/-!
# Texts and their remarks

A stylesheet may hold remarks between two marks, which a reader drops. A text in which no mark opens
a remark stays as it is; an open remark takes what follows up to the next closing mark, or up to the
end. An unmarked text brings no mark into the text that it is a part of, and unmarked texts can be
put together freely.
-/

namespace FormPress.Text

/-! ## Remarks -/

/-- The mark that opens a remark. -/
def opening : List Char := ['/', '*']

/-- The mark that closes a remark. -/
def closing : List Char := ['*', '/']

/-- A text without its remarks, the first of which may be open already. A remark without a closing
mark goes to the end of the text. -/
def unremarked : (inside : Bool) → List Char → List Char
  | _, [] => []
  | false, '/' :: '*' :: rest => unremarked true rest
  | false, c :: rest => c :: unremarked false rest
  | true, '*' :: '/' :: rest => unremarked false rest
  | true, _ :: rest => unremarked true rest

theorem occursIn_cons_iff {pattern rest : List Char} {c : Char} :
    occursIn pattern (c :: rest) = true ↔ pattern <+: c :: rest ∨ occursIn pattern rest = true := by
  rw [occursIn, Bool.or_eq_true, List.isPrefixOf_iff_prefix]

theorem occursIn_cons_eq_false_iff {pattern rest : List Char} {c : Char} :
    occursIn pattern (c :: rest) = false ↔
      ¬pattern <+: c :: rest ∧ occursIn pattern rest = false := by
  rw [← Bool.not_eq_true, occursIn_cons_iff, not_or, Bool.not_eq_true]

/-- A pattern at the beginning does not reach over a character that is no part of it. -/
theorem prefix_append_cons_iff {pattern : List Char} {c : Char} (hc : c ∉ pattern)
    (s t : List Char) : pattern <+: s ++ c :: t ↔ pattern <+: s := by
  refine ⟨fun h => ?_, fun h => h.trans (List.prefix_append _ _)⟩
  rcases List.prefix_or_prefix_of_prefix h (List.prefix_append s (c :: t)) with hs | ⟨u, rfl⟩
  · exact hs
  · have hu : u <+: c :: t := (List.prefix_append_right_inj s).1 h
    cases u with
    | nil => simp
    | cons d tail =>
      obtain ⟨rfl, -⟩ := List.cons_prefix_cons.1 hu
      exact absurd (by simp) hc

theorem occursIn_cons_of_notMem {pattern : List Char} {c : Char} (hne : pattern ≠ [])
    (hc : c ∉ pattern) (t : List Char) : occursIn pattern (c :: t) = occursIn pattern t := by
  have hstart : ¬pattern <+: c :: t := by
    rw [← List.nil_append (c :: t), prefix_append_cons_iff hc, List.prefix_nil]
    exact hne
  rw [Bool.eq_iff_iff, occursIn_cons_iff]
  exact or_iff_right hstart

/-- A character that is no part of a pattern parts the text for it. -/
theorem occursIn_append_cons {pattern : List Char} {c : Char} (hne : pattern ≠ [])
    (hc : c ∉ pattern) (s t : List Char) :
    occursIn pattern (s ++ c :: t) = (occursIn pattern s || occursIn pattern t) := by
  induction s with
  | nil =>
    have hnil : occursIn pattern [] = false := List.isEmpty_eq_false_iff.2 hne
    rw [List.nil_append, occursIn_cons_of_notMem hne hc, hnil, Bool.false_or]
  | cons d rest ih =>
    rw [Bool.eq_iff_iff, List.cons_append, occursIn_cons_iff, ih, Bool.or_eq_true, Bool.or_eq_true,
      occursIn_cons_iff, ← List.cons_append, prefix_append_cons_iff hc, or_assoc]

theorem occursIn_eq_false_of_notMem {pattern s : List Char} {c : Char} (hc : c ∈ pattern)
    (h : c ∉ s) : occursIn pattern s = false := by
  induction s with
  | nil => exact List.isEmpty_eq_false_iff.2 (List.ne_nil_of_mem hc)
  | cons d rest ih =>
    refine occursIn_cons_eq_false_iff.2 ⟨fun hbegin => h (hbegin.subset hc), ih fun hrest => ?_⟩
    exact h (List.mem_cons_of_mem d hrest)

theorem unremarked_false_cons {c : Char} {rest : List Char} (h : ¬opening <+: c :: rest) :
    unremarked false (c :: rest) = c :: unremarked false rest := by
  rw [unremarked]
  rintro tail rfl rfl
  exact h ⟨tail, rfl⟩

theorem unremarked_true_cons {c : Char} {rest : List Char} (h : ¬closing <+: c :: rest) :
    unremarked true (c :: rest) = unremarked true rest := by
  rw [unremarked]
  rintro tail rfl rfl
  exact h ⟨tail, rfl⟩

/-- What opens no remark stays as it is. -/
theorem unremarked_of_not_occursIn {s : List Char} (h : occursIn opening s = false) :
    unremarked false s = s := by
  induction s with
  | nil => rfl
  | cons c rest ih =>
    obtain ⟨hbegin, hrest⟩ := occursIn_cons_eq_false_iff.1 h
    rw [unremarked_false_cons hbegin, ih hrest]

/-- A remark that nothing closes takes the whole text. -/
theorem unremarked_true_of_not_occursIn {s : List Char} (h : occursIn closing s = false) :
    unremarked true s = [] := by
  induction s with
  | nil => rfl
  | cons c rest ih =>
    obtain ⟨hbegin, hrest⟩ := occursIn_cons_eq_false_iff.1 h
    rw [unremarked_true_cons hbegin, ih hrest]

/-- Text in front that has no slash stays. -/
theorem unremarked_append_of_notMem {s : List Char} (h : '/' ∉ s) (t : List Char) :
    unremarked false (s ++ t) = s ++ unremarked false t := by
  induction s with
  | nil => rfl
  | cons c rest ih =>
    rw [List.mem_cons, not_or] at h
    rw [List.cons_append, unremarked_false_cons, ih h.2, List.cons_append]
    exact fun hbegin => h.1 (List.cons_prefix_cons.1 hbegin).1

theorem length_unremarked_le (inside : Bool) (s : List Char) :
    (unremarked inside s).length ≤ s.length := by
  fun_induction unremarked inside s with
  | case1 => exact Nat.le_refl _
  | case2 rest ih => simp only [List.length_cons]; omega
  | case3 c rest _ ih => simpa only [List.length_cons, Nat.add_le_add_iff_right] using ih
  | case4 rest ih => simp only [List.length_cons]; omega
  | case5 c rest _ ih => simp only [List.length_cons]; omega

/-- A remark makes the text shorter. -/
theorem length_unremarked_lt {s : List Char} (h : occursIn opening s = true) :
    (unremarked false s).length < s.length := by
  induction s with
  | nil => contradiction
  | cons c rest ih =>
    by_cases hbegin : opening <+: c :: rest
    · obtain ⟨tail, htail⟩ := hbegin
      have hle := length_unremarked_le true tail
      rw [← htail]
      simp only [opening, List.cons_append, List.nil_append, unremarked, List.length_cons]
      omega
    · have hrest := ih ((occursIn_cons_iff.1 h).resolve_left hbegin)
      rw [unremarked_false_cons hbegin]
      simpa only [List.length_cons, Nat.add_lt_add_iff_right] using hrest

/-- What is read behind a character that is part of no mark depends on the text before it only by
whether a remark is open there. -/
theorem exists_unremarked_append {c : Char} (hslash : c ≠ '/') (hstar : c ≠ '*') (inside : Bool)
    (s : List Char) : ∃ after, ∀ t, unremarked inside (s ++ c :: t) =
      unremarked inside (s ++ [c]) ++ unremarked after t := by
  have hopening : c ∉ opening := by simp [opening, hslash, hstar]
  have hclosing : c ∉ closing := by simp [closing, hslash, hstar]
  fun_induction unremarked inside s with
  | case1 inside =>
    refine ⟨inside, fun t => ?_⟩
    cases inside with
    | false => simp [unremarked, hslash]
    | true => simp [unremarked, hstar]
  | case2 rest ih => simpa [unremarked] using ih
  | case3 d rest hnext ih =>
    have hkeep (t : List Char) : ¬opening <+: d :: (rest ++ c :: t) := by
      rw [← List.cons_append, prefix_append_cons_iff hopening]
      rintro ⟨tail, htail⟩
      obtain ⟨rfl, rfl⟩ := List.cons_eq_cons.1 htail
      exact hnext tail rfl rfl
    obtain ⟨after, hafter⟩ := ih
    refine ⟨after, fun t => ?_⟩
    rw [List.cons_append, List.cons_append, unremarked_false_cons (hkeep t),
      unremarked_false_cons (hkeep []), hafter, List.cons_append]
  | case4 rest ih => simpa [unremarked] using ih
  | case5 d rest hnext ih =>
    have hskip (t : List Char) : ¬closing <+: d :: (rest ++ c :: t) := by
      rw [← List.cons_append, prefix_append_cons_iff hclosing]
      rintro ⟨tail, htail⟩
      obtain ⟨rfl, rfl⟩ := List.cons_eq_cons.1 htail
      exact hnext tail rfl rfl
    obtain ⟨after, hafter⟩ := ih
    refine ⟨after, fun t => ?_⟩
    rw [List.cons_append, List.cons_append, unremarked_true_cons (hskip t),
      unremarked_true_cons (hskip []), hafter]

/-! ## Texts without marks -/

/-- Two neighbours are a mark of a remark. -/
def isRemarkMark (c d : Char) : Bool :=
  [c, d] == opening || [c, d] == closing

/-- No mark stands in the text, also not together with the character in front, and the text does not
end in half of the mark that opens. -/
def unmarkedFrom (before : Char) : List Char → Bool
  | [] => before != '/'
  | c :: rest => !isRemarkMark before c && unmarkedFrom c rest

/-- A text that brings no mark into the text that it is a part of. -/
structure Unmarked (s : String) : Prop where
  unmarkedFrom_toList : unmarkedFrom '*' s.toList = true

theorem unmarked_ofList {cs : List Char} (h : unmarkedFrom '*' cs = true) :
    Unmarked (String.ofList cs) :=
  ⟨by rwa [String.toList_ofList]⟩

theorem unmarkedFrom_cons {before c : Char} {rest : List Char} :
    unmarkedFrom before (c :: rest) = true ↔
      isRemarkMark before c = false ∧ unmarkedFrom c rest = true := by
  rw [unmarkedFrom, Bool.and_eq_true, Bool.not_eq_true']

/-- A text may stand behind any character that is no slash when it may stand behind a star. -/
theorem unmarkedFrom_of_ne {before : Char} {s : List Char} (hbefore : before ≠ '/')
    (h : unmarkedFrom '*' s = true) : unmarkedFrom before s = true := by
  cases s with
  | nil => exact bne_iff_ne.2 hbefore
  | cons c rest =>
    obtain ⟨hmark, hrest⟩ := unmarkedFrom_cons.1 h
    have hc : c ≠ '/' := by
      rintro rfl
      contradiction
    refine unmarkedFrom_cons.2 ⟨?_, hrest⟩
    simp [isRemarkMark, opening, closing, hbefore, hc]

theorem unmarkedFrom_append {before : Char} {left right : List Char}
    (hleft : unmarkedFrom before left = true) (hright : unmarkedFrom '*' right = true) :
    unmarkedFrom before (left ++ right) = true := by
  induction left generalizing before with
  | nil => exact unmarkedFrom_of_ne (bne_iff_ne.1 hleft) hright
  | cons c rest ih =>
    obtain ⟨hmark, hrest⟩ := unmarkedFrom_cons.1 hleft
    exact unmarkedFrom_cons.2 ⟨hmark, ih hrest⟩

theorem Unmarked.append {s t : String} (hs : Unmarked s) (ht : Unmarked t) : Unmarked (s ++ t) := by
  constructor
  rw [String.toList_append]
  exact unmarkedFrom_append hs.1 ht.1

theorem not_occursIn_of_unmarkedFrom {before : Char} {s : List Char}
    (h : unmarkedFrom before s = true) :
    occursIn opening s = false ∧ occursIn closing s = false := by
  induction s generalizing before with
  | nil => exact ⟨rfl, rfl⟩
  | cons c rest ih =>
    obtain ⟨-, hrest⟩ := unmarkedFrom_cons.1 h
    obtain ⟨hopening, hclosing⟩ := ih hrest
    refine ⟨occursIn_cons_eq_false_iff.2 ⟨?_, hopening⟩,
      occursIn_cons_eq_false_iff.2 ⟨?_, hclosing⟩⟩
    · rintro ⟨tail, htail⟩
      obtain ⟨rfl, rfl⟩ := List.cons_eq_cons.1 htail
      exact absurd (unmarkedFrom_cons.1 hrest).1 (by decide)
    · rintro ⟨tail, htail⟩
      obtain ⟨rfl, rfl⟩ := List.cons_eq_cons.1 htail
      exact absurd (unmarkedFrom_cons.1 hrest).1 (by decide)

end FormPress.Text
