import FormPress.Text.Base64

/-!
# Reading base64

Four characters of the alphabet are three bytes; equals signs in the last group stand for bytes that
are not there. Bytes of any number are read back from what is written for them.
-/

namespace FormPress.Text.Base64

/-! ## Digits -/

/-- The value of a character of the alphabet. -/
def digitValue? (c : Char) : Option Nat :=
  if 'A' ≤ c ∧ c ≤ 'Z' then some (c.toNat - 65)
  else if 'a' ≤ c ∧ c ≤ 'z' then some (c.toNat - 71)
  else if '0' ≤ c ∧ c ≤ '9' then some (c.toNat + 4)
  else if c = '+' then some 62
  else if c = '/' then some 63
  else none

theorem digitValue?_digit {n : Nat} (h : n < 64) : digitValue? (digit n) = some n := by
  have hall : ∀ i : Fin 64, digitValue? (digit i) = some i.val := by decide
  exact hall ⟨n, h⟩

theorem digit_ne_equals {n : Nat} (h : n < 64) : digit n ≠ '=' := by
  intro heq
  have hvalue := digitValue?_digit h
  rw [heq] at hvalue
  have hequals : digitValue? '=' = none := by decide
  exact nomatch hequals.symm.trans hvalue

/-! ## Groups -/

/-- The three bytes of four characters. -/
def readGroup (w x y z : Char) : Option (List UInt8) :=
  match digitValue? w, digitValue? x, digitValue? y, digitValue? z with
  | some i, some j, some k, some l =>
    let n := (i * 64 + j) * 4096 + (k * 64 + l)
    some [UInt8.ofNat (n / 65536), UInt8.ofNat (n / 256), UInt8.ofNat n]
  | _, _, _, _ => none

/-- The bytes of a last group that ends with an equals sign. Behind its digits zeros are read, and
the bytes that hold nothing else are dropped. -/
def readClosing (w x y : Char) : Option (List UInt8) :=
  if y = '=' then (readGroup w x (digit 0) (digit 0)).map (·.take 1)
  else (readGroup w x y (digit 0)).map (·.take 2)

/-- Bytes from groups of four characters, of which the last may end with equals signs. -/
def decodeChars : List Char → Option (List UInt8)
  | [] => some []
  | w :: x :: y :: z :: rest =>
    if z = '=' ∧ rest = [] then readClosing w x y
    else
      match readGroup w x y z, decodeChars rest with
      | some bytes, some others => some (bytes ++ others)
      | _, _ => none
  | _ => none

/-- The number that three bytes make up. -/
def groupValue (a b c : UInt8) : Nat :=
  (a.toNat * 256 + b.toNat) * 256 + c.toNat

theorem groupValue_lt (a b c : UInt8) : groupValue a b c < 16777216 := by
  have ha := a.toNat_lt
  have hb := b.toNat_lt
  have hc := c.toNat_lt
  unfold groupValue
  omega

theorem group_eq (a b c : UInt8) :
    group a b c = [digit (groupValue a b c / 0x40000), digit (groupValue a b c / 0x1000 % 64),
      digit (groupValue a b c / 64 % 64), digit (groupValue a b c % 64)] := rfl

/-- A byte is the remainder of any number that ends in it. -/
theorem ofNat_eq {n : Nat} {b : UInt8} (h : n % 256 = b.toNat) : UInt8.ofNat n = b := by
  apply UInt8.toNat_inj.1
  rw [UInt8.toNat_ofNat']
  exact h

/-- Three bytes are read back from their group. -/
theorem readGroup_group (a b c : UInt8) :
    readGroup (digit (groupValue a b c / 0x40000)) (digit (groupValue a b c / 0x1000 % 64))
      (digit (groupValue a b c / 64 % 64)) (digit (groupValue a b c % 64)) = some [a, b, c] := by
  have hlt := groupValue_lt a b c
  have hwhole : ∀ n : Nat,
      (n / 0x40000 * 64 + n / 0x1000 % 64) * 4096 + (n / 64 % 64 * 64 + n % 64) = n := by
    intro n
    omega
  have ha := a.toNat_lt
  have hb := b.toNat_lt
  have hc := c.toNat_lt
  unfold readGroup
  rw [digitValue?_digit (by omega), digitValue?_digit (by omega), digitValue?_digit (by omega),
    digitValue?_digit (by omega)]
  dsimp only
  rw [hwhole]
  have hfirst : UInt8.ofNat (groupValue a b c / 65536) = a := by
    apply ofNat_eq
    unfold groupValue
    omega
  have hsecond : UInt8.ofNat (groupValue a b c / 256) = b := by
    apply ofNat_eq
    unfold groupValue
    omega
  have hthird : UInt8.ofNat (groupValue a b c) = c := by
    apply ofNat_eq
    unfold groupValue
    omega
  rw [hfirst, hsecond, hthird]

/-! ## Any number of bytes -/

theorem decodeChars_closing (w x y : Char) : decodeChars [w, x, y, '='] = readClosing w x y := by
  rw [decodeChars, if_pos ⟨rfl, rfl⟩]

/-- **Bytes are read back from base64.** A group of less than three bytes is written as if zeros
stood behind them, so the digits that equals signs replace are zeros. -/
theorem decodeChars_encodeChars (bytes : List UInt8) :
    decodeChars (encodeChars bytes) = some bytes := by
  fun_induction encodeChars bytes with
  | case1 => rfl
  | case2 a =>
    have hgroup := readGroup_group a 0 0
    have hthird : groupValue a 0 0 / 64 % 64 = 0 := by
      rw [groupValue, UInt8.toNat_zero]
      omega
    have hfourth : groupValue a 0 0 % 64 = 0 := by
      rw [groupValue, UInt8.toNat_zero]
      omega
    rw [hthird, hfourth] at hgroup
    rw [group_eq, List.take, List.take, List.take, List.cons_append, List.cons_append,
      List.nil_append, decodeChars_closing, readClosing, if_pos rfl, hgroup]
    rfl
  | case3 a b =>
    have hgroup := readGroup_group a b 0
    have hfourth : groupValue a b 0 % 64 = 0 := by
      rw [groupValue, UInt8.toNat_zero]
      omega
    have hthird : digit (groupValue a b 0 / 64 % 64) ≠ '=' := digit_ne_equals (by omega)
    rw [hfourth] at hgroup
    rw [group_eq, List.take, List.take, List.take, List.take, List.cons_append, List.cons_append,
      List.cons_append, List.nil_append, decodeChars_closing, readClosing, if_neg hthird, hgroup]
    rfl
  | case4 a b c rest ih =>
    have hfourth : digit (groupValue a b c % 64) ≠ '=' := digit_ne_equals (by omega)
    rw [group_eq, List.cons_append, List.cons_append, List.cons_append, List.cons_append,
      List.nil_append, decodeChars, if_neg fun h => hfourth h.1, readGroup_group, ih]
    rfl

end FormPress.Text.Base64
