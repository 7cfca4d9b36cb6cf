import FormPress.Proofs.Json.RoundTrip
import FormPress.Proofs.Number.Numeral

/-!
# Characters of JSON texts

A written value has no control characters: those of its strings are escaped and its spacing is made
of blanks. So it is a text of one line, and nothing that is done to line ends changes it.
-/

namespace FormPress

namespace Text

/-- A text without carriage returns has its line ends as they should be. -/
theorem unifyNewlines_of_notMem {s : List Char} (h : '\r' ∉ s) : unifyNewlines s = s := by
  induction s with
  | nil => rfl
  | cons c rest ih =>
    rw [List.mem_cons, not_or] at h
    rw [unifyNewlines, ih h.2]
    · exact fun _ hc _ => h.1 hc.symm
    · exact fun hc => h.1 hc.symm

end Text

namespace Json

variable {spacing : Spacing}

/-! ## Characters -/

/-- A character that is not a control character below the blank. -/
def isPrinted (c : Char) : Bool :=
  decide (0x20 ≤ c.toNat)

theorem isPrinted_of_isNumberChar {c : Char} (h : isNumberChar c = true) :
    isPrinted c = true := by
  have hcontrols : ∀ n < 0x20, isNumberChar (Char.ofNat n) = false := by decide
  rw [isPrinted, decide_eq_true_eq, ← Nat.not_lt]
  intro hlow
  have hnot := hcontrols c.toNat hlow
  rw [Char.ofNat_toNat, h] at hnot
  contradiction

theorem isPrinted_escapeChar {c d : Char} (h : d ∈ escapeChar c) : isPrinted d = true := by
  revert d
  rw [← List.all_eq_true]
  unfold escapeChar
  split_ifs with hquote hslash hline hreturn htab hback hfeed hlow
  all_goals try rfl
  · rw [List.all_cons, List.all_cons, List.all_eq_true.2]
    · rfl
    · exact fun d hd => isPrinted_of_isNumberChar (isNumberChar_of_mem_hex d hd)
  · simpa [isPrinted] using hlow

theorem isPrinted_writeString (s : List Char) : (writeString s).all isPrinted = true := by
  have hbody : (s.flatMap escapeChar).all isPrinted = true := by
    rw [List.all_flatMap, List.all_eq_true]
    exact fun c _ => List.all_eq_true.2 fun d hd => isPrinted_escapeChar hd
  rw [writeString, List.cons_append, List.all_cons, List.all_append, hbody]
  rfl

theorem Spacing.Plain.isPrinted_comma (h : spacing.Plain) :
    spacing.comma.all isPrinted = true := by
  obtain ⟨n, hn⟩ := h.comma
  rw [hn]
  simp [isPrinted]

theorem Spacing.Plain.isPrinted_colon (h : spacing.Plain) :
    spacing.colon.all isPrinted = true := by
  obtain ⟨n, hn⟩ := h.colon
  rw [hn]
  simp [isPrinted]

/-! ## Values -/

mutual

theorem isPrinted_chars (h : spacing.Plain) (v : Json) :
    (chars spacing v).all isPrinted = true := by
  cases v with
  | null => rfl
  | bool b => cases b <;> rfl
  | int i =>
    exact List.all_eq_true.2 fun c hc =>
      isPrinted_of_isNumberChar ((isNumeral_decimalInt i).isNumberChar_of_mem c hc)
  | float x =>
    exact List.all_eq_true.2 fun c hc =>
      isPrinted_of_isNumberChar ((NumberLayout.isNumeral_json x).isNumberChar_of_mem c hc)
  | string s => exact isPrinted_writeString _
  | brokenString => exact isPrinted_writeString _
  | array items =>
    rw [chars, List.cons_append, List.all_cons, List.all_append, isPrinted_itemChars h items]
    rfl
  | object members =>
    rw [chars, List.cons_append, List.all_cons, List.all_append, isPrinted_memberChars h members]
    rfl

theorem isPrinted_itemChars (h : spacing.Plain) (items : List Json) :
    (itemChars spacing items).all isPrinted = true := by
  cases items with
  | nil => rfl
  | cons v rest =>
    by_cases hlast : rest = []
    · subst hlast
      exact isPrinted_chars h v
    · rw [itemChars_cons v hlast]
      simp [isPrinted_chars h v, h.isPrinted_comma, isPrinted_itemChars h rest]

theorem isPrinted_memberChars (h : spacing.Plain) (members : List (String × Json)) :
    (memberChars spacing members).all isPrinted = true := by
  cases members with
  | nil => rfl
  | cons m rest =>
    obtain ⟨k, v⟩ := m
    by_cases hlast : rest = []
    · subst hlast
      simp [memberChars, isPrinted_writeString, h.isPrinted_colon, isPrinted_chars h v]
    · rw [memberChars_cons k v hlast]
      simp [isPrinted_writeString, h.isPrinted_colon, isPrinted_chars h v, h.isPrinted_comma,
        isPrinted_memberChars h rest]

end

/-- A written value has no carriage return. -/
theorem unifyNewlines_chars (h : spacing.Plain) (v : Json) :
    Text.unifyNewlines (chars spacing v) = chars spacing v := by
  refine Text.unifyNewlines_of_notMem fun hmem => ?_
  have hprinted := List.all_eq_true.1 (isPrinted_chars h v) '\r' hmem
  contradiction

end Json

end FormPress
