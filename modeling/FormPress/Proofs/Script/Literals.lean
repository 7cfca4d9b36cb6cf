import FormPress.Proofs.Json.RoundTrip
import FormPress.Proofs.Number.Numeral
import FormPress.Script.Code

/-!
# Literals of a script

A literal is a JSON text with some characters written by their codes. A reader of JSON does not
notice the codes, so it reads the value back.
-/

namespace FormPress.Script

/-! ## Characters -/

theorem literalChar_of_needsCode {c : Char} (h : needsCode c = true) :
    literalChar c = '\\' :: 'u' :: Text.hex 4 c.toNat :=
  if_pos h

theorem literalChar_of_not_needsCode {c : Char} (h : needsCode c = false) :
    literalChar c = [c] := by
  rw [literalChar, h]
  rfl

/-- The characters that are written by their codes. -/
def coded : List Char := ['<', '>', '&', '\'', '\u2028', '\u2029']

theorem mem_coded {c : Char} (h : needsCode c = true) : c ∈ coded := by
  have hseparator {n : Nat} (hn : c.toNat = n) : c = Char.ofNat n := by
    rw [← hn, Char.ofNat_toNat]
  simp only [needsCode, Bool.or_eq_true, beq_iff_eq] at h
  rcases h with ((((rfl | rfl) | rfl) | rfl) | h) | h
  · decide
  · decide
  · decide
  · decide
  · rw [hseparator h]
    decide
  · rw [hseparator h]
    decide

theorem needsCode_of_mem_coded {c : Char} (h : c ∈ coded) : needsCode c = true := by
  have hcoded : coded.all needsCode = true := by decide
  exact List.all_eq_true.1 hcoded c h

/-- No code that is written is one of a half of a pair. -/
theorem toNat_lt_of_needsCode {c : Char} (h : needsCode c = true) : c.toNat < 0xD800 := by
  have hlow : coded.all (fun d => decide (d.toNat < 0xD800)) = true := by decide
  exact of_decide_eq_true (List.all_eq_true.1 hlow c (mem_coded h))

/-- What tells a character from the coded ones. -/
theorem not_needsCode {p : Char → Bool} (hp : coded.all (fun c => !p c) = true) {c : Char}
    (hc : p c = true) : needsCode c = false := by
  rw [Bool.eq_false_iff]
  intro h
  have hnot := List.all_eq_true.1 hp c (mem_coded h)
  rw [hc] at hnot
  contradiction

theorem not_needsCode_of_mem_hex {width n : Nat} :
    ∀ c ∈ Text.hex width n, needsCode c = false :=
  fun c hc => not_needsCode (by decide) (isNumberChar_of_mem_hex c hc)

/-- Nothing that stands for a character needs a code. -/
theorem not_needsCode_of_mem_literalChar {c d : Char} (hd : d ∈ literalChar c) :
    needsCode d = false := by
  cases hc : needsCode c with
  | true =>
    rw [literalChar_of_needsCode hc, List.mem_cons, List.mem_cons] at hd
    rcases hd with rfl | rfl | hd
    · decide
    · decide
    · exact not_needsCode_of_mem_hex d hd
  | false =>
    rw [literalChar_of_not_needsCode hc, List.mem_singleton] at hd
    subst hd
    exact hc

theorem notMem_literalChar (c : Char) : '<' ∉ literalChar c := by
  intro h
  have hcode := not_needsCode_of_mem_literalChar h
  contradiction

theorem flatMap_literalChar_self {s : List Char} (h : ∀ c ∈ s, needsCode c = false) :
    s.flatMap literalChar = s := by
  induction s with
  | nil => rfl
  | cons c rest ih =>
    rw [List.forall_mem_cons] at h
    rw [List.flatMap_cons, literalChar_of_not_needsCode h.1, ih h.2]
    rfl

/-- An escaped character is left as it is, unless it is written by its code. -/
theorem flatMap_escapeChar (c : Char) :
    (Json.escapeChar c).flatMap literalChar =
      if needsCode c then '\\' :: 'u' :: Text.hex 4 c.toNat else Json.escapeChar c := by
  cases hc : needsCode c with
  | true =>
    have hself : Json.escapeChar c = [c] := by
      have hmem := mem_coded hc
      simp only [coded, List.mem_cons, List.not_mem_nil, or_false] at hmem
      rcases hmem with rfl | rfl | rfl | rfl | rfl | rfl
      all_goals rfl
    rw [hself, List.flatMap_singleton, literalChar_of_needsCode hc]
    rfl
  | false =>
    have hcode : ∀ d ∈ '\\' :: 'u' :: Text.hex 4 c.toNat, needsCode d = false := by
      rw [List.forall_mem_cons, List.forall_mem_cons]
      exact ⟨by decide, by decide, not_needsCode_of_mem_hex⟩
    rw [if_neg Bool.false_ne_true]
    unfold Json.escapeChar
    split_ifs
    all_goals first
      | rfl
      | exact flatMap_literalChar_self hcode
      | exact flatMap_literalChar_self (List.forall_mem_singleton.2 hc)

/-- Codes make no difference to a reader. -/
theorem transparent_literalChar : Json.Transparent literalChar where
  outside := fun _ hc => literalChar_of_not_needsCode (not_needsCode (by decide) hc)
  inside := fun c => by
    rw [flatMap_escapeChar]
    split
    · rename_i hc
      exact Json.readsAs_code (toNat_lt_of_needsCode hc)
    · exact Json.readsAs_escapeChar c

/-! ## Texts -/

theorem toList_literal (v : Json) :
    (literal v).toList = (v.chars Json.spaced).flatMap literalChar := by
  rw [literal, Text.toList_substitute, Json.write, String.toList_ofList]

/-- **A literal is read back as its value.** -/
theorem read_literal {v : Json} (hv : v.Exact) :
    Json.read (.ofLength (literal v).length) (literal v) = .ok v := by
  have hread := Json.readChars_text transparent_literalChar Json.plain_spaced hv _
    (toList_literal v)
  rw [String.length_toList] at hread
  rw [Json.read, hread]

end FormPress.Script
