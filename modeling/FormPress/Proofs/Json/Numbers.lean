import FormPress.Proofs.Json.Steps
import FormPress.Proofs.Number.Written

/-!
# Numbers of JSON texts

A reader of JSON takes the parts of a written number one after another, and makes its value of them.
-/

namespace FormPress.Json

variable {a : Allowance} {rest : List Char}

theorem EndsNumber.isDigit_head (h : EndsNumber rest) :
    ∀ c ∈ rest.head?, Number.isDigit c = false :=
  fun c hc => (h c hc).1

theorem requireDigit_append {ds : List Char} (hne : ds ≠ [])
    (hds : ∀ c ∈ ds, Number.isDigit c = true) (rest : List Char) :
    requireDigit (ds ++ rest) = .ok () := by
  cases ds with
  | nil => contradiction
  | cons c cs => simp [requireDigit, hds c (by simp)]

/-! ## Exponents -/

theorem readExponent_chars {ds : List Char} (negative : Bool) (hne : ds ≠ [])
    (hds : ∀ c ∈ ds, Number.isDigit c = true) (hrest : EndsNumber rest) :
    readExponent ((if negative then '-' else '+') :: (ds ++ rest)) =
      .ok (Numeral.power (some (negative, ds)), rest) := by
  have hspan := Number.spanDigits_append hds hrest.isDigit_head
  have hdigit := requireDigit_append hne hds rest
  cases negative with
  | false => simp [readExponent, hdigit, hspan, Numeral.power, bind, Except.bind, pure, Except.pure]
  | true => simp [readExponent, hdigit, hspan, Numeral.power, bind, Except.bind, pure, Except.pure]

/-- An exponent, where there is one. -/
def readPower : List Char → Except Stop (Int × List Char)
  | 'e' :: tail => readExponent tail
  | 'E' :: tail => readExponent tail
  | rest => .ok (0, rest)

theorem readPower_of_ne {s : List Char} (hlower : ∀ tail, s ≠ 'e' :: tail)
    (hupper : ∀ tail, s ≠ 'E' :: tail) : readPower s = .ok (0, s) := by
  unfold readPower
  split
  · exact absurd rfl (hlower _)
  · exact absurd rfl (hupper _)
  · rfl

theorem readPower_chars {e : Option (Bool × List Char)}
    (he : ∀ p ∈ e, p.2 ≠ [] ∧ ∀ c ∈ p.2, Number.isDigit c = true) (hrest : EndsNumber rest) :
    readPower (Numeral.exponentChars e ++ rest) = .ok (Numeral.power e, rest) := by
  cases e with
  | none =>
    refine readPower_of_ne (fun tail h => ?_) fun tail h => ?_
    · subst h
      exact (hrest 'e' rfl).2.2.1 rfl
    · subst h
      exact (hrest 'E' rfl).2.2.2 rfl
  | some p =>
    obtain ⟨negative, ds⟩ := p
    obtain ⟨hne, hds⟩ : ds ≠ [] ∧ ∀ c ∈ ds, Number.isDigit c = true := he (negative, ds) rfl
    exact readExponent_chars negative hne hds hrest

/-! ## Parts -/

/-- Behind a point stand digits and an exponent or none. -/
theorem readNumberTail_point {whole s fraction tail : List Char} (negative : Bool)
    (hwhole : whole.length ≤ a.wholeDigits) (hdigit : requireDigit s = .ok ())
    (hspan : Number.spanDigits s = (fraction, tail)) :
    readNumberTail a negative whole ('.' :: s) =
      (readPower tail).map fun p =>
        (.float (.ofDecimal negative (Number.digitsValue (whole ++ fraction))
          (p.1 - fraction.length)), p.2) := by
  have hlimit : ¬a.wholeDigits < whole.length := Nat.not_lt.2 hwhole
  simp only [readNumberTail, limitDigits, hdigit, hspan, List.head?_cons, Option.any_some,
    BEq.rfl, Bool.true_or, Bool.not_true, Bool.false_eq_true, if_false, hlimit, bind, Except.bind,
    pure, Except.pure]
  split
  · rfl
  · rfl
  · rename_i hlower hupper
    rw [readPower_of_ne hlower hupper]
    rfl

/-- An integer part may be followed by an exponent alone. -/
theorem readNumberTail_exponent {whole : List Char} (negative : Bool)
    (hwhole : whole.length ≤ a.wholeDigits) (tail : List Char) :
    readNumberTail a negative whole ('e' :: tail) =
      (readExponent tail).map fun p =>
        (.float (.ofDecimal negative (Number.digitsValue whole) p.1), p.2) := by
  have hlimit : ¬a.wholeDigits < whole.length := Nat.not_lt.2 hwhole
  simp [readNumberTail, limitDigits, hlimit, bind, Except.bind, pure, Except.pure]
  rfl

/-- The digits in front of the point are read; the other parts follow. -/
theorem readNumberTail_chars {t : Numeral} (ht : t.Fit) (negative : Bool)
    (hlimit : 16 ≤ a.wholeDigits) (hrest : EndsNumber rest) :
    readNumberTail a negative t.whole
        (Numeral.fractionChars t.fraction ++ (Numeral.exponentChars t.exponent ++ rest)) =
      .ok (.float (t.value negative), rest) := by
  have hwhole : t.whole.length ≤ a.wholeDigits := Nat.le_trans ht.length_whole hlimit
  have hpower := readPower_chars ht.isDigit_exponent hrest
  by_cases hfraction : t.fraction = []
  · obtain ⟨whole, fraction, exponent⟩ := t
    subst hfraction
    cases exponent with
    | none => exact (ht.fractional.elim (· rfl) (· rfl)).elim
    | some e =>
      obtain ⟨minus, ds⟩ := e
      have hread : readExponent ((if minus then '-' else '+') :: (ds ++ rest)) = _ := hpower
      have htail := readNumberTail_exponent negative hwhole
        ((if minus then '-' else '+') :: (ds ++ rest))
      rw [hread] at htail
      simpa [Numeral.fractionChars, Numeral.exponentChars, Numeral.value, Except.map] using htail
  · have hspan := Number.spanDigits_append ht.isDigit_fraction
      (Numeral.isDigit_head_exponent t.exponent hrest.isDigit_head)
    have hdigit := requireDigit_append hfraction ht.isDigit_fraction
      (Numeral.exponentChars t.exponent ++ rest)
    rw [Numeral.fractionChars_of_ne_nil hfraction, List.cons_append,
      readNumberTail_point negative hwhole hdigit hspan, hpower]
    rfl

/-- **A written number is read as its value**, by a reader that lets its digits pass. -/
theorem readNumber_chars {t : Numeral} (ht : t.Fit) (negative : Bool)
    (hlimit : 16 ≤ a.wholeDigits) (hrest : EndsNumber rest) :
    readNumber a negative (t.chars ++ rest) = .ok (.float (t.value negative), rest) := by
  rw [Numeral.chars, List.append_assoc, List.append_assoc,
    readNumber_append negative ht.whole_ne_nil ht.isDigit_whole ht.eq_zero
      (t.isDigit_head_fraction hrest.isDigit_head),
    readNumberTail_chars ht negative hlimit hrest]

/-! ## Values -/

theorem readValue_nan (fuel depth : Nat) (rest : List Char) :
    readValue a (fuel + 1) depth (['N', 'a', 'N'] ++ rest) = .ok (.float .nan, rest) := by
  rw [List.cons_append, readValue, skipBlanks_cons _ rfl]
  simp [readWord, Except.map]

theorem readNumber_infinity (negative : Bool) (rest : List Char) :
    readNumber a negative (['I', 'n', 'f', 'i', 'n', 'i', 't', 'y'] ++ rest) =
      .ok (.float (.infinite negative), rest) := by
  simp [readNumber, readWord, Except.map]

theorem readValue_infinity (fuel depth : Nat) (rest : List Char) :
    readValue a (fuel + 1) depth (['I', 'n', 'f', 'i', 'n', 'i', 't', 'y'] ++ rest) =
      .ok (.float (.infinite false), rest) := by
  rw [← readNumber_infinity (a := a), List.cons_append, readValue, skipBlanks_cons _ rfl]
  simp

/-- A number is read back: a canonical one from its digits, the others from their words. -/
theorem readValue_float {x : Binary64} (hx : x.IsCanonical) (spacing : Spacing)
    (hlimit : 16 ≤ a.wholeDigits) (fuel depth : Nat) (hrest : EndsNumber rest) :
    readValue a (fuel + 1) depth (chars spacing (.float x) ++ rest) = .ok (.float x, rest) := by
  cases x with
  | nan => exact readValue_nan fuel depth rest
  | infinite negative =>
    cases negative with
    | false => exact readValue_infinity fuel depth rest
    | true => exact (readValue_minus fuel depth _).trans (readNumber_infinity true rest)
  | finite negative significand scale =>
    obtain ⟨t, ht, htext, hvalue⟩ := NumberLayout.exists_numeral NumberLayout.isReadable_json hx
    have hread := readNumber_chars ht negative hlimit hrest
    rw [hvalue] at hread
    rw [chars, htext]
    cases negative with
    | true => exact (readValue_minus fuel depth _).trans hread
    | false =>
      obtain ⟨c, ds, hwhole⟩ := List.exists_cons_of_ne_nil ht.whole_ne_nil
      have hc : Number.isDigit c = true := ht.isDigit_whole c (by simp [hwhole])
      have hchars : t.chars = c :: (ds ++
          (Numeral.fractionChars t.fraction ++ Numeral.exponentChars t.exponent)) := by
        rw [Numeral.chars, hwhole, List.cons_append]
      rw [hchars] at hread ⊢
      exact (readValue_digit fuel depth _ hc).trans hread

end FormPress.Json
