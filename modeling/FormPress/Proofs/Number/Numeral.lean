import FormPress.Number.Layout
import FormPress.Proofs.Text.Occurrences

/-!
# Characters of numbers

A written number is made of digits, signs, points and a few words; so it holds no character that
gives markup or a script its shape.
-/

namespace FormPress

open Text (Calm calm_of_notMem)

/-- A character of a written number. -/
def isNumberChar (c : Char) : Bool :=
  c.isAlphanum || c == '-' || c == '+' || c == '.'

/-- A text of such characters. -/
structure IsNumeral (s : String) : Prop where
  isNumberChar_of_mem : ∀ c ∈ s.toList, isNumberChar c = true

theorem isNumeral_ofList {cs : List Char} (h : cs.all isNumberChar = true) :
    IsNumeral (String.ofList cs) := by
  constructor
  rw [String.toList_ofList]
  exact List.all_eq_true.1 h

theorem IsNumeral.append {s t : String} (hs : IsNumeral s) (ht : IsNumeral t) :
    IsNumeral (s ++ t) := by
  constructor
  rw [String.toList_append, List.forall_mem_append]
  exact ⟨hs.1, ht.1⟩

theorem IsNumeral.notMem {s : String} (h : IsNumeral s) {c : Char} (hc : isNumberChar c = false) :
    c ∉ s.toList := by
  intro hmem
  rw [h.isNumberChar_of_mem c hmem] at hc
  contradiction

theorem IsNumeral.calm {s : String} (h : IsNumeral s) : Calm s :=
  calm_of_notMem (h.notMem (by decide))

theorem isNumeral_digits {ds : List Char} (h : ∀ c ∈ ds, c.isDigit = true) :
    IsNumeral (String.ofList ds) := by
  apply isNumeral_ofList
  rw [List.all_eq_true]
  intro c hc
  simp [isNumberChar, Char.isAlphanum, h c hc]

/-! ## Codes -/

theorem isNumberChar_hexDigit : ∀ n < 16, isNumberChar (Text.hexDigit n) = true := by decide

/-- A code is made of digits and letters. -/
theorem isNumberChar_of_mem_hex {width n : Nat} :
    ∀ c ∈ Text.hex width n, isNumberChar c = true := by
  induction width generalizing n with
  | zero => simp [Text.hex]
  | succ width ih =>
    rw [Text.hex, List.forall_mem_append, List.forall_mem_singleton]
    exact ⟨ih, isNumberChar_hexDigit _ (Nat.mod_lt _ (by omega))⟩

theorem notMem_hex {c : Char} (hc : isNumberChar c = false) (width n : Nat) :
    c ∉ Text.hex width n := by
  intro hmem
  rw [isNumberChar_of_mem_hex c hmem] at hc
  contradiction

/-! ## Integers -/

theorem isDigit_toDigits (n : Nat) : ∀ c ∈ Nat.toDigits 10 n, c.isDigit = true :=
  fun _ hc => Nat.isDigit_of_mem_toDigits (by omega) (by omega) hc

theorem isNumeral_decimal (n : Nat) : IsNumeral (Text.decimal n) :=
  isNumeral_digits (isDigit_toDigits n)

theorem isNumeral_decimalInt (n : Int) : IsNumeral (Text.decimalInt n) := by
  cases n with
  | ofNat n => exact isNumeral_decimal n
  | negSucc n => exact IsNumeral.append (isNumeral_ofList rfl) (isNumeral_decimal (n + 1))

theorem calm_decimalInt (n : Int) : Calm (Text.decimalInt n) :=
  (isNumeral_decimalInt n).calm

/-! ## Numbers of a layout -/

namespace NumberLayout

theorem isNumeral_zeros (n : Nat) : IsNumeral (zeros n) := by
  refine isNumeral_digits fun c hc => ?_
  obtain rfl := List.eq_of_mem_replicate hc
  rfl

variable {mark : String} {ds : List Char}

theorem isNumeral_writePositional (hmark : IsNumeral mark) (hds : ∀ c ∈ ds, c.isDigit = true)
    (leading : Int) : IsNumeral (writePositional mark ds leading) := by
  unfold writePositional
  split
  · exact (IsNumeral.append (isNumeral_ofList rfl) (isNumeral_zeros _)).append
      (isNumeral_digits hds)
  · dsimp only
    split
    · exact ((isNumeral_digits hds).append (isNumeral_zeros _)).append hmark
    · have hleft : IsNumeral (String.ofList (ds.take (leading + 1).toNat)) :=
        isNumeral_digits fun c hc => hds c (List.mem_of_mem_take hc)
      have hright : IsNumeral (String.ofList (ds.drop (leading + 1).toNat)) :=
        isNumeral_digits fun c hc => hds c (List.mem_of_mem_drop hc)
      exact (hleft.append (isNumeral_ofList rfl)).append hright

theorem isNumeral_writeExponent (hds : ∀ c ∈ ds, c.isDigit = true) (leading : Int) :
    IsNumeral (writeExponent ds leading) := by
  have hsign : IsNumeral (if leading < 0 then "e-" else "e+") := by
    split
    · exact isNumeral_ofList rfl
    · exact isNumeral_ofList rfl
  have hsize : ∀ c ∈ (if (Nat.toDigits 10 leading.natAbs).length < 2
      then '0' :: Nat.toDigits 10 leading.natAbs else Nat.toDigits 10 leading.natAbs),
      c.isDigit = true := by
    split
    · exact List.forall_mem_cons.2 ⟨rfl, isDigit_toDigits _⟩
    · exact isDigit_toDigits _
  unfold writeExponent
  dsimp only
  refine (IsNumeral.append ?_ hsign).append (isNumeral_digits hsize)
  split
  · exact isNumeral_ofList rfl
  · exact isNumeral_digits hds
  · rw [List.forall_mem_cons] at hds
    have hfirst := isNumeral_digits (List.forall_mem_singleton.2 hds.1)
    have hrest := isNumeral_digits hds.2
    have hpoint : IsNumeral "." := isNumeral_ofList rfl
    have hall := (hfirst.append hpoint).append hrest
    constructor
    simpa using hall.1

/-- The texts of a layout are numerals, so every number is written as one. -/
theorem isNumeral_write {layout : NumberLayout} (hmark : IsNumeral layout.wholeMark)
    (hnan : IsNumeral layout.nanText) (hinfinity : IsNumeral layout.infinityText) (x : Binary64) :
    IsNumeral (layout.write x) := by
  have hsign : IsNumeral (if x.isNegative then "-" else "") := by
    split
    · exact isNumeral_ofList rfl
    · exact isNumeral_ofList rfl
  unfold write
  cases x with
  | nan => exact hnan
  | infinite negative => exact hsign.append hinfinity
  | finite negative significand scale =>
    simp only
    split
    · exact (hsign.append (isNumeral_ofList rfl)).append hmark
    · refine hsign.append ?_
      split
      · exact isNumeral_writePositional hmark (isDigit_toDigits _) _
      · exact isNumeral_writeExponent (isDigit_toDigits _) _

theorem isNumeral_source (x : Binary64) : IsNumeral (source.write x) :=
  isNumeral_write (isNumeral_ofList rfl) (isNumeral_ofList rfl) (isNumeral_ofList rfl) x

theorem isNumeral_json (x : Binary64) : IsNumeral (json.write x) :=
  isNumeral_write (isNumeral_ofList rfl) (isNumeral_ofList rfl) (isNumeral_ofList rfl) x

end NumberLayout

theorem Binary64.calm_label (x : Binary64) : Calm x.label := by
  unfold label
  split
  · exact calm_decimalInt _
  · exact (NumberLayout.isNumeral_source x).calm

end FormPress
