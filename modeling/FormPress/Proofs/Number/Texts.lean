import FormPress.Proofs.Number.Numeral
import FormPress.Proofs.Number.Written

/-!
# Numbers from texts

A number in the source layout may be given as a text again: no blanks stand around its text, and its
parts are read in their order. So may an integer that is not too long.
-/

namespace FormPress.Number

/-! ## Characters -/

theorem isSpace_of_isNumberChar {c : Char} (h : isNumberChar c = true) :
    Text.isSpace c = false := by
  have hspaces : ∀ r ∈ Text.spaceRanges, ∀ i < r.2 + 1 - r.1,
      isNumberChar (Char.ofNat (r.1 + i)) = false := by decide
  rw [Bool.eq_false_iff]
  intro hspace
  obtain ⟨r, hr, hfirst, hlast⟩ := Text.exists_range_of_inRanges hspace
  have hnot := hspaces r hr (c.toNat - r.1) (by omega)
  rw [Nat.add_sub_cancel' hfirst, Char.ofNat_toNat, h] at hnot
  contradiction

theorem stripBy_of_forall {p : Char → Bool} {s : List Char} (h : ∀ c ∈ s, p c = false) :
    Text.stripBy p s = s := by
  have hdrop (t : List Char) (ht : ∀ c ∈ t, p c = false) : t.dropWhile p = t := by
    cases t with
    | nil => rfl
    | cons c rest => rw [List.dropWhile_cons, ht c (by simp)]; rfl
  rw [Text.stripBy, hdrop s h, hdrop s.reverse fun c hc => h c (List.mem_reverse.1 hc),
    List.reverse_reverse]

/-! ## Decimals -/

theorem readExponent?_chars {e : Option (Bool × List Char)}
    (he : ∀ p ∈ e, p.2 ≠ [] ∧ ∀ c ∈ p.2, isDigit c = true) :
    readExponent? (Numeral.exponentChars e) = some (Numeral.power e) := by
  cases e with
  | none => rfl
  | some p =>
    obtain ⟨negative, ds⟩ := p
    obtain ⟨hne, hds⟩ : ds ≠ [] ∧ ∀ c ∈ ds, isDigit c = true := he (negative, ds) rfl
    have hall : ds.all isDigit = true := List.all_eq_true.2 hds
    cases negative with
    | false => simp [Numeral.exponentChars, readExponent?, splitSign, hne, hall, Numeral.power]
    | true => simp [Numeral.exponentChars, readExponent?, splitSign, hne, hall, Numeral.power]

theorem readDecimal?_chars {t : Numeral} (ht : t.Fit) (negative : Bool) :
    readDecimal? negative t.chars = some (t.value negative) := by
  have hexponent := readExponent?_chars ht.isDigit_exponent
  have hend : ∀ c ∈ ([] : List Char).head?, isDigit c = false := by simp
  have hspan := spanDigits_append ht.isDigit_whole (t.isDigit_head_fraction hend)
  have hspanFraction := spanDigits_append ht.isDigit_fraction
    (Numeral.isDigit_head_exponent t.exponent hend)
  rw [List.append_nil] at hspan hspanFraction
  rw [Numeral.chars, readDecimal?, hspan]
  by_cases hfraction : t.fraction = []
  · cases hpower : t.exponent with
    | none => exact (ht.fractional.elim (· hfraction) (· hpower)).elim
    | some e =>
      obtain ⟨minus, es⟩ := e
      rw [hpower] at hexponent
      simp only [Numeral.exponentChars] at hexponent
      simp [hfraction, Numeral.fractionChars, Numeral.exponentChars, ht.whole_ne_nil, hexponent,
        Numeral.value, hpower]
  · simp [Numeral.fractionChars_of_ne_nil hfraction, hspanFraction, ht.whole_ne_nil, hexponent,
      Numeral.value]

/-! ## Numbers -/

theorem splitSign_of_isDigit {c : Char} (h : isDigit c = true) (rest : List Char) :
    splitSign (c :: rest) = (false, c :: rest) := by
  unfold splitSign
  split
  · rename_i heq
    rw [(List.cons.inj heq).1] at h
    contradiction
  · rename_i heq
    rw [(List.cons.inj heq).1] at h
    contradiction
  · rfl

theorem lowerAscii_of_isDigit {c : Char} (h : isDigit c = true) : Text.lowerAscii c = c := by
  have hmost : c ≤ '9' := (of_decide_eq_true h).2
  have hnot : ¬('A' ≤ c ∧ c ≤ 'Z') := fun hletter =>
    absurd (Char.le_trans hletter.1 hmost) (by decide)
  exact if_neg hnot

/-- No word for a number begins with a digit. -/
theorem foldAscii_ne {c d : Char} (h : isDigit c = true) (hd : isDigit d = false)
    (rest word : List Char) :
    Text.foldAscii (String.ofList (c :: rest)) ≠ String.ofList (d :: word) := by
  intro heq
  have hhead := congrArg (fun s : String => s.toList.head?) heq
  simp only [Text.foldAscii, String.toList_ofList, List.map_cons, lowerAscii_of_isDigit h,
    List.head?_cons, Option.some.injEq] at hhead
  rw [hhead, hd] at h
  contradiction

/-- A number is read after its sign, unless a word stands for it. -/
theorem readNumber?_chars {t : Numeral} (ht : t.Fit) (negative : Bool) :
    readNumber? ((if negative then ['-'] else []) ++ t.chars) = some (t.value negative) := by
  obtain ⟨c, ds, hchars⟩ : ∃ c ds, t.chars = c :: ds := by
    refine List.exists_cons_of_ne_nil fun hnil => ht.whole_ne_nil ?_
    exact (List.append_eq_nil_iff.1 hnil).1
  have hc : isDigit c = true := by
    obtain ⟨d, es, hwhole⟩ := List.exists_cons_of_ne_nil ht.whole_ne_nil
    rw [Numeral.chars, hwhole] at hchars
    rw [← (List.cons.inj hchars).1]
    exact ht.isDigit_whole d (by simp [hwhole])
  have hsplit : splitSign ((if negative then ['-'] else []) ++ t.chars) = (negative, t.chars) := by
    cases negative with
    | true => rfl
    | false => rw [hchars]; exact splitSign_of_isDigit hc ds
  have hword (d : Char) (hd : isDigit d = false) (word : List Char) :=
    foldAscii_ne hc hd ds word
  have hread := readDecimal?_chars ht negative
  rw [readNumber?, hsplit]
  dsimp only
  rw [hchars] at hread ⊢
  have hinfinite := not_or.2
    ⟨hword 'i' rfl ['n', 'f'], hword 'i' rfl ['n', 'f', 'i', 'n', 'i', 't', 'y']⟩
  rw [if_neg hinfinite, if_neg (hword 'n' rfl ['a', 'n'])]
  exact hread

/-- **A number is read back from its text in the source layout.** -/
theorem readFloat?_write {x : Binary64} (hx : x.IsCanonical) :
    readFloat? (NumberLayout.source.write x) = some x := by
  have hstrip := stripBy_of_forall fun c hc =>
    isSpace_of_isNumberChar ((NumberLayout.isNumeral_source x).isNumberChar_of_mem c hc)
  have hread : readNumber? (NumberLayout.source.write x).toList = some x := by
    cases x with
    | nan => decide +kernel
    | infinite negative =>
      cases negative with
      | false => decide +kernel
      | true => decide +kernel
    | finite negative significand scale =>
      obtain ⟨t, ht, htext, hvalue⟩ := NumberLayout.exists_numeral NumberLayout.isReadable_source hx
      rw [htext, readNumber?_chars ht, hvalue]
  rw [readFloat?, hstrip, hread]

/-! ## Integers -/

theorem readStrictInt_append {ds : List Char} (negative : Bool) (hne : ds ≠ [])
    (hds : ∀ c ∈ ds, isDigit c = true) (hzero : ∀ rest, ds = '0' :: rest → rest = [])
    (hlength : ds.length ≤ digitLimit) :
    readStrictInt ((if negative then ['-'] else []) ++ ds) =
      .ok (if negative then -(digitsValue ds : Int) else digitsValue ds) := by
  obtain ⟨c, rest, rfl⟩ := List.exists_cons_of_ne_nil hne
  have hspan : spanDigits (c :: rest ++ []) = (c :: rest, []) := spanDigits_append hds (by simp)
  rw [List.append_nil] at hspan
  have hminus : c ≠ '-' := by
    rintro rfl
    exact absurd (hds '-' (by simp)) (by decide)
  rw [List.length_cons] at hlength
  by_cases hc : c = '0'
  · subst hc
    obtain rfl := hzero rest rfl
    cases negative with
    | false => simp [readStrictInt, hspan]
    | true => simp [readStrictInt, hspan]
  · cases negative with
    | false => simpa [readStrictInt, hspan, hminus, hc] using hlength
    | true => simpa [readStrictInt, hspan, hc] using hlength

/-- **An integer is read back from its text**, unless the text is too long. -/
theorem readInt_decimalInt {i : Int} (h : IsShort i) : readInt (Text.decimalInt i) = .ok i := by
  have hzero (rest : List Char) (hds : Nat.toDigits 10 i.natAbs = '0' :: rest) : rest = [] := by
    rw [eq_zero_of_head_toDigits hds] at hds
    simpa using hds.symm
  have hread := readStrictInt_append (decide (i < 0)) Nat.toDigits_ne_nil
    (fun c hc => isDigit_of_mem_toDigits hc) hzero h
  have hvalue : (if decide (i < 0) then -(i.natAbs : Int) else i.natAbs) = i := by
    by_cases hneg : i < 0
    · rw [if_pos (decide_eq_true hneg)]
      omega
    · rw [if_neg (by simpa using hneg)]
      omega
  rw [digitsValue_toDigits, hvalue] at hread
  rw [readInt, toList_decimalInt]
  simp only [decide_eq_true_eq] at hread
  rw [hread]

end FormPress.Number
