import FormPress.Proofs.Text.Occurrences

/-!
# Places of a pattern

How often a pattern stands in a text, letter by letter, and what a text is when it is cut before the
first place of a pattern. A text is inert when it adds no place to what follows it. A pattern with a
quotation mark in it stands only around a quotation mark of the text, so it is enough to look at
those: what is left of the mark must end like the pattern, and what is right of it begin so.
-/

namespace FormPress.Text

/-- The number of places at which a pattern stands in a text. -/
def places (pattern : List Char) : List Char → Nat
  | [] => 0
  | c :: rest => (if pattern.isPrefixOf (c :: rest) then 1 else 0) + places pattern rest

/-- A text in two parts, cut before the first place of a pattern. -/
def cutAt (pattern : List Char) : List Char → List Char × List Char
  | [] => ([], [])
  | c :: rest =>
    if pattern.isPrefixOf (c :: rest) then ([], c :: rest)
    else (c :: (cutAt pattern rest).1, (cutAt pattern rest).2)

/-- A text that adds no place of a pattern to what follows it. -/
def Inert (pattern s : List Char) : Prop :=
  ∀ t, places pattern (s ++ t) = places pattern t

variable {pattern s t : List Char}

theorem places_cons (pattern : List Char) (c : Char) (rest : List Char) :
    places pattern (c :: rest) =
      (if pattern.isPrefixOf (c :: rest) then 1 else 0) + places pattern rest := rfl

theorem places_le_append (pattern s t : List Char) :
    places pattern t ≤ places pattern (s ++ t) := by
  induction s with
  | nil => exact Nat.le_refl _
  | cons c rest ih =>
    rw [List.cons_append, places_cons]
    omega

theorem places_cons_of_not_prefix {c : Char} {rest : List Char}
    (h : ¬pattern.isPrefixOf (c :: rest) = true) :
    places pattern (c :: rest) = places pattern rest := by
  rw [places_cons, if_neg h, Nat.zero_add]

/-! ## Inert texts -/

/-- No place begins in an inert text, whatever follows it. -/
theorem Inert.not_prefix {c : Char} {rest : List Char} (h : Inert pattern (c :: rest))
    (t : List Char) : ¬pattern.isPrefixOf (c :: (rest ++ t)) = true := by
  intro hprefix
  have hplaces := h t
  have hle := places_le_append pattern rest t
  rw [List.cons_append, places_cons, if_pos hprefix] at hplaces
  omega

theorem Inert.tail {c : Char} {rest : List Char} (h : Inert pattern (c :: rest)) :
    Inert pattern rest := by
  intro t
  have hplaces := h t
  rwa [List.cons_append, places_cons_of_not_prefix (h.not_prefix t)] at hplaces

/-- A text without the first character of a pattern. -/
theorem inert_of_notMem {c : Char} (letters : List Char) (h : c ∉ s) :
    Inert (c :: letters) s := by
  intro t
  induction s with
  | nil => rfl
  | cons d rest ih =>
    rw [List.mem_cons, not_or] at h
    have hhead : ¬(c :: letters).isPrefixOf (d :: (rest ++ t)) = true := by
      rw [List.isPrefixOf, Bool.and_eq_true, beq_iff_eq]
      exact fun heq => h.1 heq.1
    rw [List.cons_append, places_cons_of_not_prefix hhead, ih h.2]

theorem occurrences_le_append (pattern s t : List Char) :
    occurrences pattern t ≤ occurrences pattern (s ++ t) := by
  induction s with
  | nil => exact Nat.le_refl _
  | cons c rest ih =>
    rw [List.cons_append, occurrences]
    omega

/-- A text that adds no place in either case is inert for a pattern in small letters. -/
theorem inert_of_occurrences (hlower : pattern.map lowerAscii = pattern)
    (h : ∀ t, occurrences pattern (s ++ t) = occurrences pattern t) : Inert pattern s := by
  intro t
  induction s with
  | nil => rfl
  | cons c rest ih =>
    have hrest : ∀ t, occurrences pattern (rest ++ t) = occurrences pattern t ∧
        ¬pattern.isPrefixOf ((c :: (rest ++ t)).map lowerAscii) = true := by
      intro t
      have hplaces := h t
      have hle := occurrences_le_append pattern rest t
      rw [List.cons_append, occurrences] at hplaces
      split at hplaces
      · omega
      · rename_i hhead
        exact ⟨by omega, hhead⟩
    have hhead : ¬pattern.isPrefixOf (c :: (rest ++ t)) = true := by
      intro hprefix
      apply (hrest t).2
      rw [List.isPrefixOf_iff_prefix] at hprefix ⊢
      rw [← hlower]
      exact List.IsPrefix.map lowerAscii hprefix
    rw [List.cons_append, places_cons_of_not_prefix hhead, ih fun t => (hrest t).1]

/-! ## Cuts -/

/-- An inert text stands before the cut. -/
theorem Inert.cutAt_append (h : Inert pattern s) (t : List Char) :
    cutAt pattern (s ++ t) = (s ++ (cutAt pattern t).1, (cutAt pattern t).2) := by
  induction s with
  | nil => rfl
  | cons c rest ih =>
    rw [List.cons_append, cutAt, if_neg (h.not_prefix t), ih h.tail]
    rfl

/-- A cut at the beginning. -/
theorem cutAt_of_prefix {c : Char} {letters : List Char} (t : List Char) :
    cutAt (c :: letters) (c :: letters ++ t) = ([], c :: letters ++ t) := by
  have hprefix : (c :: letters).isPrefixOf (c :: (letters ++ t)) = true :=
    List.isPrefixOf_iff_prefix.2 (List.prefix_append (c :: letters) t)
  rw [List.cons_append, cutAt, if_pos hprefix]

/-! ## Quotation marks -/

/-- Two texts up to their first quotation marks. -/
theorem prefix_quote_iff {left right rest : List Char} (hleft : '"' ∉ left) (hs : '"' ∉ s) :
    left ++ '"' :: right <+: s ++ '"' :: rest ↔ left = s ∧ right <+: rest := by
  induction left generalizing s with
  | nil =>
    cases s with
    | nil => simp
    | cons d s =>
      rw [List.mem_cons, not_or] at hs
      simp [hs.1]
  | cons c left ih =>
    rw [List.mem_cons, not_or] at hleft
    cases s with
    | nil => simp [Ne.symm hleft.1]
    | cons d s =>
      rw [List.mem_cons, not_or] at hs
      simp [ih hleft.2 hs.2, and_assoc]

/-- The first quotation mark of a text, if it has one, stands behind a character that is none of
the letters. -/
def Barred (letters : List Char) : List Char → Prop
  | [] => True
  | c :: rest => c ≠ '"' ∧ (c ∉ letters ∨ Barred letters rest)

variable {letters : List Char}

theorem barred_cons {c : Char} {rest : List Char} (hquote : c ≠ '"') (hc : c ∉ letters) :
    Barred letters (c :: rest) :=
  ⟨hquote, .inl hc⟩

theorem Barred.append (ht : Barred letters t) (hs : '"' ∉ s) : Barred letters (s ++ t) := by
  induction s with
  | nil => exact ht
  | cons c rest ih =>
    rw [List.mem_cons, not_or] at hs
    exact ⟨Ne.symm hs.1, .inr (ih hs.2)⟩

/-- No text of the letters reaches the quotation mark behind another character. -/
theorem Barred.not_prefix {left right : List Char} (ht : Barred letters t)
    (hleft : ∀ c ∈ left, c ∈ letters) : ¬left ++ '"' :: right <+: t := by
  induction left generalizing t with
  | nil =>
    cases t with
    | nil => simp
    | cons c rest =>
      rw [List.nil_append, List.cons_prefix_cons]
      exact fun h => ht.1 h.1.symm
  | cons d left ih =>
    cases t with
    | nil => simp
    | cons c rest =>
      rw [List.cons_append, List.cons_prefix_cons]
      rintro ⟨rfl, hrest⟩
      rcases ht.2 with hnone | hbarred
      · exact hnone (hleft d List.mem_cons_self)
      · exact ih hbarred (fun c hc => hleft c (List.mem_cons_of_mem _ hc)) hrest

/-- A text without quotation marks is inert before a barred one. -/
theorem places_append_of_barred {right : List Char} (hs : '"' ∉ s) (ht : Barred letters t) :
    places (letters ++ '"' :: right) (s ++ t) = places (letters ++ '"' :: right) t := by
  induction s with
  | nil => rfl
  | cons c rest ih =>
    have hbarred : Barred letters (c :: rest ++ t) := ht.append hs
    have hhead : ¬(letters ++ '"' :: right).isPrefixOf (c :: (rest ++ t)) = true := by
      rw [List.isPrefixOf_iff_prefix]
      exact hbarred.not_prefix fun _ hc => hc
    rw [List.mem_cons, not_or] at hs
    rw [List.cons_append, places_cons_of_not_prefix hhead, ih hs.2]

/-- The places around the first quotation mark of a text. -/
theorem places_quote {left right rest : List Char} (hne : left ≠ []) (hleft : '"' ∉ left)
    (hs : '"' ∉ s) :
    places (left ++ '"' :: right) (s ++ '"' :: rest) =
      (if left <:+ s ∧ right <+: rest then 1 else 0) + places (left ++ '"' :: right) rest := by
  induction s with
  | nil =>
    have hhead : ¬(left ++ '"' :: right).isPrefixOf ('"' :: rest) = true := by
      rw [List.isPrefixOf_iff_prefix, ← List.nil_append ('"' :: rest),
        prefix_quote_iff hleft hs]
      exact fun h => hne h.1
    have hnone : ¬(left <:+ [] ∧ right <+: rest) := by
      rw [List.suffix_nil]
      exact fun h => hne h.1
    rw [List.nil_append, places_cons_of_not_prefix hhead, if_neg hnone, Nat.zero_add]
  | cons c s ih =>
    have hhead : (left ++ '"' :: right).isPrefixOf (c :: (s ++ '"' :: rest)) = true ↔
        left = c :: s ∧ right <+: rest := by
      rw [List.isPrefixOf_iff_prefix]
      exact prefix_quote_iff (s := c :: s) hleft hs
    have hapart : left = c :: s → ¬left <:+ s := by
      intro heq hsuffix
      have hlength := hsuffix.length_le
      rw [heq, List.length_cons] at hlength
      omega
    rw [List.mem_cons, not_or] at hs
    rw [List.cons_append, places_cons, ih hs.2]
    simp only [hhead, List.suffix_cons_iff]
    by_cases hright : right <+: rest
    · by_cases hwhole : left = c :: s
      · simp [hright, hwhole, hwhole ▸ hapart hwhole]
      · simp [hright, hwhole]
    · simp [hright]

end FormPress.Text
