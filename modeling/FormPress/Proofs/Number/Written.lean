import FormPress.Number.Layout
import FormPress.Proofs.Number.Decimal
import FormPress.Proofs.Number.Shortest

/-!
# Written numbers

A written number is a sign and a decimal: digits before a point, digits behind it, and an exponent.
The decimal of a canonical number is `Fit` for every reader of numbers, and its value is the number.
Readers are left with the parts; what the layouts do with the digits is settled here.
-/

namespace FormPress

/-- The parts of a number in a text, after its sign. -/
structure Numeral where
  whole : List Char
  fraction : List Char
  /-- The sign and the digits of an exponent. -/
  exponent : Option (Bool × List Char)

namespace Numeral

/-- An exponent as written: there is always a sign. -/
def exponentChars : Option (Bool × List Char) → List Char
  | none => []
  | some (negative, ds) => 'e' :: (if negative then '-' else '+') :: ds

/-- The point and the digits behind it. -/
def fractionChars : List Char → List Char
  | [] => []
  | c :: rest => '.' :: c :: rest

theorem fractionChars_of_ne_nil {ds : List Char} (h : ds ≠ []) : fractionChars ds = '.' :: ds := by
  cases ds with
  | nil => contradiction
  | cons c rest => rfl

def chars (t : Numeral) : List Char :=
  t.whole ++ (fractionChars t.fraction ++ exponentChars t.exponent)

def power : Option (Bool × List Char) → Int
  | none => 0
  | some (negative, ds) =>
    if negative then -(Number.digitsValue ds : Int) else Number.digitsValue ds

/-- The number that the parts stand for. -/
def value (t : Numeral) (negative : Bool) : Binary64 :=
  .ofDecimal negative (Number.digitsValue (t.whole ++ t.fraction))
    (power t.exponent - t.fraction.length)

/-- Parts that all readers of numbers agree on: no zero stands in front of other digits, and it is
not an integer. -/
structure Fit (t : Numeral) : Prop where
  whole_ne_nil : t.whole ≠ []
  isDigit_whole : ∀ c ∈ t.whole, Number.isDigit c = true
  eq_zero : ∀ rest, t.whole = '0' :: rest → rest = []
  length_whole : t.whole.length ≤ 16
  isDigit_fraction : ∀ c ∈ t.fraction, Number.isDigit c = true
  isDigit_exponent : ∀ e ∈ t.exponent, e.2 ≠ [] ∧ ∀ c ∈ e.2, Number.isDigit c = true
  fractional : t.fraction ≠ [] ∨ t.exponent ≠ none

variable {rest : List Char}

/-- What follows the digits behind a point is no digit. -/
theorem isDigit_head_exponent (e : Option (Bool × List Char))
    (hrest : ∀ c ∈ rest.head?, Number.isDigit c = false) :
    ∀ c ∈ (exponentChars e ++ rest).head?, Number.isDigit c = false := by
  cases e with
  | none => exact hrest
  | some e =>
    intro c hc
    obtain rfl := Option.some.inj hc
    rfl

/-- What follows the integer part is no digit. -/
theorem isDigit_head_fraction (t : Numeral)
    (hrest : ∀ c ∈ rest.head?, Number.isDigit c = false) :
    ∀ c ∈ (fractionChars t.fraction ++ (exponentChars t.exponent ++ rest)).head?,
      Number.isDigit c = false := by
  by_cases hfraction : t.fraction = []
  · rw [hfraction]
    exact isDigit_head_exponent t.exponent hrest
  · rw [fractionChars_of_ne_nil hfraction]
    intro c hc
    obtain rfl := Option.some.inj hc
    rfl

end Numeral

namespace Number

/-! ## Zeros among the digits -/

theorem accumulate_append (n : Nat) (ds es : List Char) :
    accumulate n (ds ++ es) = accumulate (accumulate n ds) es := by
  induction ds generalizing n with
  | nil => rfl
  | cons c rest ih => exact ih _

theorem accumulate_zeros (n k : Nat) :
    accumulate n (List.replicate k '0') = n * Nat.pow 10 k := by
  induction k generalizing n with
  | zero => exact (Nat.mul_one n).symm
  | succ k ih =>
    calc accumulate n (List.replicate (k + 1) '0')
        = accumulate (n * 10) (List.replicate k '0') := rfl
      _ = n * (10 * Nat.pow 10 k) := by rw [ih, Nat.mul_assoc]
      _ = n * Nat.pow 10 (k + 1) := by rw [Nat.mul_comm 10]; rfl

/-- Zeros in front of the digits do not count. -/
theorem digitsValue_zeros_append (k : Nat) (ds : List Char) :
    digitsValue (List.replicate k '0' ++ ds) = digitsValue ds := by
  rw [digitsValue, accumulate_append, accumulate_zeros, Nat.zero_mul, digitsValue]

theorem digitsValue_append_zeros (ds : List Char) (k : Nat) :
    digitsValue (ds ++ List.replicate k '0') = digitsValue ds * Nat.pow 10 k := by
  rw [digitsValue, accumulate_append, accumulate_zeros, digitsValue]

theorem isDigit_of_mem_replicate {k : Nat} {c : Char} (h : c ∈ List.replicate k '0') :
    isDigit c = true := by
  obtain rfl := List.eq_of_mem_replicate h
  rfl

end Number

namespace NumberLayout

open Binary64 (ofDecimal)

/-- The parts as which a decimal is written. -/
structure Shows (t : Numeral) (s : String) (n : Nat) (exponent : Int) : Prop where
  fit : t.Fit
  chars : s.toList = t.chars
  value : ∀ negative, t.value negative = ofDecimal negative n exponent

variable {n : Nat} {leading : Int}

/-- The digits of a positive number begin with another digit than zero. -/
theorem head_ne_zero (hn : n ≠ 0) (rest : List Char) : Nat.toDigits 10 n ≠ '0' :: rest :=
  fun h => hn (Number.eq_zero_of_head_toDigits h)

/-! ## Positions -/

/-- A number below one: zeros stand between the point and the digits. -/
theorem shows_below (hleading : leading < 0) :
    ∃ t : Numeral, Shows t (writePositional ".0" (Nat.toDigits 10 n) leading) n
      (leading + 1 - (Nat.toDigits 10 n).length) := by
  have hne : List.replicate (-leading - 1).toNat '0' ++ Nat.toDigits 10 n ≠ [] := by
    simp [Nat.toDigits_ne_nil]
  refine ⟨⟨['0'], List.replicate (-leading - 1).toNat '0' ++ Nat.toDigits 10 n, none⟩,
    ⟨by simp, by simp [Number.isDigit], by simp, by simp, ?_, by simp, .inl hne⟩, ?_,
    fun negative => ?_⟩
  · rw [List.forall_mem_append]
    exact ⟨fun c hc => Number.isDigit_of_mem_replicate hc,
      fun c hc => Number.isDigit_of_mem_toDigits hc⟩
  · rw [writePositional, if_pos hleading, Numeral.chars, Numeral.fractionChars_of_ne_nil hne]
    simp [zeros, Numeral.exponentChars]
  · have hvalue : Number.digitsValue
        (['0'] ++ (List.replicate (-leading - 1).toNat '0' ++ Nat.toDigits 10 n)) = n := by
      rw [← List.append_assoc]
      exact (Number.digitsValue_zeros_append ((-leading - 1).toNat + 1) _).trans
        (Number.digitsValue_toDigits n)
    rw [Numeral.value, hvalue, Numeral.power, List.length_append, List.length_replicate]
    congr 1
    omega

/-- A whole number: zeros fill the places up to the point. -/
theorem shows_whole (hn : n ≠ 0) (hleading : leading < 16)
    (hcount : ((Nat.toDigits 10 n).length : Int) ≤ leading + 1) :
    ∃ t : Numeral, Shows t (writePositional ".0" (Nat.toDigits 10 n) leading) n
      (leading + 1 - (Nat.toDigits 10 n).length) := by
  have hpos : 0 < (Nat.toDigits 10 n).length := List.length_pos_iff.2 Nat.toDigits_ne_nil
  obtain ⟨k, hk⟩ : ∃ k : Nat, leading + 1 - (Nat.toDigits 10 n).length = k :=
    ⟨_, (Int.toNat_of_nonneg (by omega)).symm⟩
  refine ⟨⟨Nat.toDigits 10 n ++ List.replicate k '0', ['0'], none⟩,
    ⟨by simp [Nat.toDigits_ne_nil], ?_, fun rest h => ?_, ?_, by simp [Number.isDigit], by simp,
      .inl (by simp)⟩, ?_, fun negative => ?_⟩
  · rw [List.forall_mem_append]
    exact ⟨fun c hc => Number.isDigit_of_mem_toDigits hc,
      fun c hc => Number.isDigit_of_mem_replicate hc⟩
  · cases hds : Nat.toDigits 10 n with
    | nil => exact absurd hds Nat.toDigits_ne_nil
    | cons c cs =>
      rw [hds, List.cons_append, List.cons.injEq] at h
      rw [h.1] at hds
      exact absurd hds (head_ne_zero hn cs)
  · rw [List.length_append, List.length_replicate]
    omega
  · have hbelow : ¬leading < 0 := by omega
    simp [writePositional, hbelow, hcount, hk, zeros, Numeral.chars, Numeral.fractionChars,
      Numeral.exponentChars]
  · have hvalue : Number.digitsValue (Nat.toDigits 10 n ++ List.replicate k '0' ++ ['0']) =
        n * Nat.pow 10 (k + 1) := by
      rw [List.append_assoc, ← List.replicate_succ', Number.digitsValue_append_zeros,
        Number.digitsValue_toDigits]
    rw [Numeral.value, hvalue, Binary64.ofDecimal_mul_pow, hk, Numeral.power, List.length_singleton]
    congr 1
    omega

/-- A number with digits on both sides of the point. -/
theorem shows_split (hn : n ≠ 0) (hleast : 0 ≤ leading) (hleading : leading < 16)
    (hcount : leading + 1 < (Nat.toDigits 10 n).length) :
    ∃ t : Numeral, Shows t (writePositional ".0" (Nat.toDigits 10 n) leading) n
      (leading + 1 - (Nat.toDigits 10 n).length) := by
  obtain ⟨k, rfl⟩ := Int.eq_ofNat_of_zero_le hleast
  have hplaces : ((k : Int) + 1).toNat = k + 1 := by omega
  have hdrop : (Nat.toDigits 10 n).drop (k + 1) ≠ [] := by
    rw [ne_eq, List.drop_eq_nil_iff]
    omega
  refine ⟨⟨(Nat.toDigits 10 n).take (k + 1), (Nat.toDigits 10 n).drop (k + 1), none⟩,
    ⟨by simp [Nat.toDigits_ne_nil],
      fun c hc => Number.isDigit_of_mem_toDigits (List.mem_of_mem_take hc),
      fun rest h => ?_, ?_, fun c hc => Number.isDigit_of_mem_toDigits (List.mem_of_mem_drop hc),
      by simp, .inl hdrop⟩, ?_, fun negative => ?_⟩
  · cases hds : Nat.toDigits 10 n with
    | nil => exact absurd hds Nat.toDigits_ne_nil
    | cons c cs =>
      rw [hds, List.take_succ_cons, List.cons.injEq] at h
      rw [h.1] at hds
      exact absurd hds (head_ne_zero hn cs)
  · rw [List.length_take]
    omega
  · have hwhole : ¬((Nat.toDigits 10 n).length : Int) ≤ (k : Int) + 1 := by omega
    have hbelow : ¬(k : Int) < 0 := by omega
    rw [Numeral.chars, Numeral.fractionChars_of_ne_nil hdrop]
    simp [writePositional, hbelow, hwhole, hplaces, Numeral.exponentChars]
  · rw [Numeral.value, List.take_append_drop, Number.digitsValue_toDigits, Numeral.power,
      List.length_drop]
    congr 1
    omega

/-! ## Exponents -/

/-- The digits of an exponent, two at least. -/
def exponentDigits (leading : Int) : List Char :=
  let size := Nat.toDigits 10 leading.natAbs
  if size.length < 2 then '0' :: size else size

theorem digitsValue_exponentDigits (leading : Int) :
    Number.digitsValue (exponentDigits leading) = leading.natAbs := by
  unfold exponentDigits
  dsimp only
  split
  · exact (Number.digitsValue_zeros_append 1 _).trans (Number.digitsValue_toDigits _)
  · exact Number.digitsValue_toDigits _

theorem isDigit_of_mem_exponentDigits {c : Char} (h : c ∈ exponentDigits leading) :
    Number.isDigit c = true := by
  unfold exponentDigits at h
  dsimp only at h
  split at h
  · rcases List.mem_cons.1 h with rfl | h
    · rfl
    · exact Number.isDigit_of_mem_toDigits h
  · exact Number.isDigit_of_mem_toDigits h

theorem exponentDigits_ne_nil (leading : Int) : exponentDigits leading ≠ [] := by
  unfold exponentDigits
  dsimp only
  split
  · exact List.cons_ne_nil _ _
  · exact Nat.toDigits_ne_nil

theorem power_exponentDigits (leading : Int) :
    Numeral.power (some (decide (leading < 0), exponentDigits leading)) = leading := by
  rw [Numeral.power, digitsValue_exponentDigits]
  by_cases h : leading < 0
  · rw [if_pos (decide_eq_true h)]
    omega
  · rw [if_neg (by simpa using h)]
    omega

theorem toList_writeExponent {c : Char} {rest : List Char} :
    (writeExponent (c :: rest) leading).toList =
      c :: (Numeral.fractionChars rest ++
        Numeral.exponentChars (some (decide (leading < 0), exponentDigits leading))) := by
  have hmark : (if leading < 0 then "e-" else "e+").toList =
      ['e', if decide (leading < 0) then '-' else '+'] := by
    by_cases h : leading < 0
    · simp [h]
    · simp [h]
  unfold writeExponent
  cases rest with
  | nil =>
    dsimp only
    rw [String.toList_append, String.toList_append, hmark]
    simp [Numeral.fractionChars, Numeral.exponentChars, exponentDigits]
  | cons d rest =>
    dsimp only
    rw [String.toList_append, String.toList_append, hmark]
    simp [Numeral.fractionChars, Numeral.exponentChars, exponentDigits]

/-- A number with an exponent: one digit stands in front of the point. -/
theorem shows_exponent (n : Nat) (leading : Int) :
    ∃ t : Numeral, Shows t (writeExponent (Nat.toDigits 10 n) leading) n
      (leading + 1 - (Nat.toDigits 10 n).length) := by
  cases hds : Nat.toDigits 10 n with
  | nil => exact absurd hds Nat.toDigits_ne_nil
  | cons c rest =>
    have hdigit : ∀ d ∈ c :: rest, Number.isDigit d = true := by
      rw [← hds]
      exact fun d hd => Number.isDigit_of_mem_toDigits hd
    rw [List.forall_mem_cons] at hdigit
    refine ⟨⟨[c], rest, some (decide (leading < 0), exponentDigits leading)⟩,
      ⟨by simp, by simpa using hdigit.1, by simp, by simp, hdigit.2, ?_, .inr (by simp)⟩,
      toList_writeExponent, fun negative => ?_⟩
    · rintro e he
      obtain rfl := Option.some.inj he
      exact ⟨exponentDigits_ne_nil leading, fun d hd => isDigit_of_mem_exponentDigits hd⟩
    · have hvalue : Number.digitsValue ([c] ++ rest) = n := by
        rw [List.singleton_append, ← hds, Number.digitsValue_toDigits]
      have hexponent : leading - rest.length = leading + 1 - (c :: rest).length := by
        rw [List.length_cons]
        omega
      rw [Numeral.value, hvalue, power_exponentDigits, hexponent]

/-- The digits of a positive number, in the form that goes with their leading exponent. -/
theorem shows_digits (hn : n ≠ 0) (leading : Int) :
    ∃ t : Numeral, Shows t
      (if source.positional leading then writePositional ".0" (Nat.toDigits 10 n) leading
        else writeExponent (Nat.toDigits 10 n) leading)
      n (leading + 1 - (Nat.toDigits 10 n).length) := by
  by_cases hpositional : source.positional leading = true
  · have hmost : leading < 16 := (of_decide_eq_true hpositional).2
    rw [if_pos hpositional]
    by_cases hbelow : leading < 0
    · exact shows_below hbelow
    · by_cases hcount : ((Nat.toDigits 10 n).length : Int) ≤ leading + 1
      · exact shows_whole hn hmost hcount
      · exact shows_split hn (by omega) hmost (by omega)
  · rw [if_neg hpositional]
    exact shows_exponent n leading

/-! ## Texts that are not empty -/

theorem writePositional_ne_empty {mark : String} {digits : List Char} (hdigits : digits ≠ [])
    (leading : Int) : writePositional mark digits leading ≠ "" := by
  unfold writePositional
  split
  · simp
  · dsimp only
    split
    · simp [hdigits]
    · simp

theorem writeExponent_ne_empty (digits : List Char) (leading : Int) :
    writeExponent digits leading ≠ "" := by
  intro h
  have hdigits : String.ofList (exponentDigits leading) = "" := (String.append_eq_empty_iff.1 h).2
  exact exponentDigits_ne_nil leading (String.ofList_eq_empty_iff.1 hdigits)

/-- Whatever the number, its text has a character. -/
theorem write_source_ne_empty (x : Binary64) : source.write x ≠ "" := by
  intro h
  cases x with
  | nan => exact absurd h (by decide)
  | infinite negative => exact absurd (String.append_eq_empty_iff.1 h).2 (by decide)
  | finite negative significand scale =>
    unfold write at h
    dsimp only at h
    split at h
    · exact absurd (String.append_eq_empty_iff.1 h).2 (by decide)
    · have hbody := (String.append_eq_empty_iff.1 h).2
      split at hbody
      · exact writePositional_ne_empty Nat.toDigits_ne_nil _ hbody
      · exact writeExponent_ne_empty _ _ hbody

/-! ## Canonical numbers -/

/-- The text of zero. -/
theorem shows_zero : ∃ t : Numeral, Shows t "0.0" 0 0 := by
  refine ⟨⟨['0'], ['0'], none⟩,
    ⟨by simp, by simp [Number.isDigit], by simp, by simp, by simp [Number.isDigit], by simp,
      .inl (by simp)⟩, rfl, fun negative => ?_⟩
  have hvalue : Number.digitsValue (['0'] ++ ['0']) = 0 := rfl
  rw [Numeral.value, hvalue, Binary64.ofDecimal_zero, Binary64.ofDecimal_zero]

/-- The layouts that are read back: the source layout and that of JSON texts. -/
def IsReadable (layout : NumberLayout) : Prop :=
  layout.positional = source.positional ∧ layout.wholeMark = ".0"

theorem isReadable_source : source.IsReadable := ⟨rfl, rfl⟩

theorem isReadable_json : json.IsReadable := ⟨rfl, rfl⟩

/-- **A canonical number is written as a sign and a decimal whose value is the number.** -/
theorem exists_numeral {layout : NumberLayout} (hlayout : layout.IsReadable)
    {negative : Bool} {significand scale : Nat}
    (h : (Binary64.finite negative significand scale).IsCanonical) :
    ∃ t : Numeral, t.Fit ∧
      (layout.write (.finite negative significand scale)).toList =
        (if negative then ['-'] else []) ++ t.chars ∧
      t.value negative = .finite negative significand scale := by
  obtain ⟨hpositional, hmark⟩ := hlayout
  have hsign : (if negative then "-" else "").toList = if negative then ['-'] else [] := by
    cases negative
    · rfl
    · rfl
  by_cases hzero : significand = 0
  · obtain ⟨t, hfit, hchars, hvalue⟩ := shows_zero
    have hscale : scale = 0 := by
      obtain ⟨-, hscale | hleast, -⟩ := h
      · exact hscale
      · rw [hzero] at hleast
        exact absurd hleast (by decide)
    refine ⟨t, hfit, ?_, ?_⟩
    · rw [← hchars, ← hsign, ← String.toList_append, write, if_pos hzero, hmark,
        String.append_assoc]
      rfl
    · rw [hvalue, hzero, hscale, Binary64.ofDecimal_zero]
  · have hshortest := Binary64.ofDecimal_shortest layout.tie h hzero
    rw [write, if_neg hzero]
    generalize (Binary64.finite negative significand scale).shortest layout.tie = d at hshortest ⊢
    have hcoefficient : d.coefficient ≠ 0 := by
      intro hnone
      rw [hnone, Binary64.ofDecimal_zero] at hshortest
      exact hzero (Binary64.finite.inj hshortest).2.1.symm
    obtain ⟨t, hfit, hchars, hvalue⟩ := shows_digits hcoefficient
      (d.exponent + (Nat.toDigits 10 d.coefficient).length - 1)
    refine ⟨t, hfit, ?_, ?_⟩
    · dsimp only
      rw [hpositional, hmark, String.toList_append, hchars]
      exact congrArg (· ++ t.chars) hsign
    · rw [hvalue, ← hshortest]
      congr 1
      omega

end NumberLayout

end FormPress
