import FormPress.Json.Reader
import FormPress.Json.Writer
import Mathlib.Tactic.SplitIfs

/-!
# Strings of JSON texts

A written string is read back character by character. A script writes some characters of a JSON
text by their codes once more; a rule for this is `Transparent` when a reader of strings does not
notice it.
-/

namespace FormPress.Json

/-! ## Codes -/

theorem hexValue?_hexDigit : ∀ n < 16, Text.hexValue? (Text.hexDigit n) = some n := by
  decide

theorem length_le_byteLength (s : List Char) : s.length ≤ byteLength s := by
  suffices h : ∀ n, n + s.length ≤ s.foldl (fun n c => n + c.utf8Size) n by
    simpa [byteLength] using h 0
  induction s with
  | nil => simp
  | cons c rest ih =>
    intro n
    have hc : 0 < c.utf8Size := Char.utf8Size_pos c
    have hrest := ih (n + c.utf8Size)
    rw [List.foldl_cons, List.length_cons]
    omega

theorem hex_four (n : Nat) :
    Text.hex 4 n = [Text.hexDigit (n / 16 / 16 / 16 % 16), Text.hexDigit (n / 16 / 16 % 16),
      Text.hexDigit (n / 16 % 16), Text.hexDigit (n % 16)] := by
  simp [Text.hex]

/-- Four digits of a code are read back. -/
theorem readHex4_hex {n : Nat} (h : n < 0x10000) (rest : List Char) :
    ∃ last, readHex4 (Text.hex 4 n ++ rest) = .ok (n, last, rest) := by
  have hbytes : ¬byteLength ((Text.hex 4 n ++ rest).take 4) < 4 := by
    have hlength := length_le_byteLength ((Text.hex 4 n ++ rest).take 4)
    rw [hex_four] at hlength ⊢
    simp only [List.cons_append, List.nil_append, List.take_succ_cons, List.take_zero,
      List.length_cons, List.length_nil] at hlength ⊢
    omega
  have hdigit (k : Nat) : Text.hexValue? (Text.hexDigit (k % 16)) = some (k % 16) :=
    hexValue?_hexDigit _ (Nat.mod_lt _ (by omega))
  have hvalue : ((n / 16 / 16 / 16 % 16 * 16 + n / 16 / 16 % 16) * 16 + n / 16 % 16) * 16 +
      n % 16 = n := by omega
  refine ⟨Text.hexDigit (n % 16) :: rest, ?_⟩
  unfold readHex4
  rw [if_neg hbytes, hex_four]
  simp only [List.cons_append, List.nil_append, hdigit, hvalue]

/-- A character that is no half of a pair is read back from its code. -/
theorem readUnicodeEscape_hex (a : Allowance) {c : Char} (h : c.toNat < 0xD800)
    (rest : List Char) :
    readUnicodeEscape a (Text.hex 4 c.toNat ++ rest) = .ok (some c, rest) := by
  obtain ⟨last, hread⟩ := readHex4_hex (n := c.toNat) (by omega) rest
  have hlow : isLowSurrogate c.toNat = false := by
    rw [isLowSurrogate, decide_eq_false_iff_not]
    omega
  have hhigh : isHighSurrogate c.toNat = false := by
    rw [isHighSurrogate, decide_eq_false_iff_not]
    omega
  simp [readUnicodeEscape, hread, hlow, hhigh, bind, Except.bind, pure, Except.pure]

/-! ## Characters -/

/-- A reader of strings takes a written text in one step, as a character. -/
def ReadsAs (c : Char) (written : List Char) : Prop :=
  ∀ (a : Allowance) (fuel : Nat) (rest : List Char),
    readStringBody a (fuel + 1) (written ++ rest) =
      (readStringBody a fuel rest).map fun p => (some c :: p.1, p.2)

/-- A character that stands for itself. -/
theorem readsAs_self {c : Char} (hquote : c ≠ '"') (hslash : c ≠ '\\') (h : ¬c.toNat < 0x20) :
    ReadsAs c [c] := by
  intro a fuel rest
  simp [readStringBody, hquote, hslash, h]

/-- A character by its code. -/
theorem readsAs_code {c : Char} (h : c.toNat < 0xD800) :
    ReadsAs c ('\\' :: 'u' :: Text.hex 4 c.toNat) := by
  intro a fuel rest
  rw [List.cons_append, List.cons_append]
  simp [readStringBody, readUnicodeEscape_hex a h]

/-- Every character is read back from its escaped form. -/
theorem readsAs_escapeChar (c : Char) : ReadsAs c (escapeChar c) := by
  unfold escapeChar
  split_ifs with hquote hslash hn hr ht hb hf hcode
  · subst hquote
    exact fun _ _ _ => rfl
  · subst hslash
    exact fun _ _ _ => rfl
  · subst hn
    exact fun _ _ _ => rfl
  · subst hr
    exact fun _ _ _ => rfl
  · subst ht
    exact fun _ _ _ => rfl
  · subst hb
    exact fun _ _ _ => rfl
  · subst hf
    exact fun _ _ _ => rfl
  · exact readsAs_code (by omega)
  · exact readsAs_self hquote hslash hcode

/-! ## Rules -/

/-- A character that stands outside of strings in a written value, or around one. -/
def isOutside (c : Char) : Bool :=
  c.isAlphanum || c == '-' || c == '+' || c == '.' || c == ' ' || c == ',' || c == ':' ||
    c == '[' || c == ']' || c == '\x7b' || c == '\x7d' || c == '"'

/-- A rule that writes the characters of a JSON text again without a change to its value. -/
structure Transparent (rule : Char → List Char) : Prop where
  outside : ∀ c, isOutside c = true → rule c = [c]
  inside : ∀ c, ReadsAs c ((escapeChar c).flatMap rule)

/-- The rule that leaves a text as it is. -/
theorem transparent_self : Transparent fun c => [c] where
  outside := fun _ _ => rfl
  inside := fun c => by simpa using readsAs_escapeChar c

theorem ReadsAs.ne_nil {c : Char} {written : List Char} (h : ReadsAs c written) :
    written ≠ [] := by
  rintro rfl
  have hread := h (.ofLength 0) 0 ['"']
  simp [readStringBody, Except.map] at hread

variable {rule : Char → List Char}

theorem Transparent.flatMap_outside (hrule : Transparent rule) {s : List Char}
    (h : ∀ c ∈ s, isOutside c = true) : s.flatMap rule = s := by
  induction s with
  | nil => rfl
  | cons c rest ih =>
    rw [List.flatMap_cons, hrule.outside c (h c (by simp)),
      ih fun d hd => h d (List.mem_cons_of_mem _ hd)]
    rfl

/-- A written string is at least as long as the string. -/
theorem Transparent.length_le (hrule : Transparent rule) (s : List Char) :
    s.length ≤ ((s.flatMap escapeChar).flatMap rule).length := by
  induction s with
  | nil => simp
  | cons c rest ih =>
    have hc : 0 < ((escapeChar c).flatMap rule).length :=
      List.length_pos_iff.2 (hrule.inside c).ne_nil
    rw [List.flatMap_cons, List.flatMap_append, List.length_append, List.length_cons]
    omega

/-- The body of a written string is read back. -/
theorem Transparent.readStringBody_flatMap (hrule : Transparent rule) (a : Allowance)
    {s : List Char} {fuel : Nat} (rest : List Char) (h : s.length < fuel) :
    readStringBody a fuel ((s.flatMap escapeChar).flatMap rule ++ '"' :: rest) =
      .ok (s.map some, rest) := by
  induction s generalizing fuel with
  | nil =>
    obtain ⟨n, rfl⟩ : ∃ n, fuel = n + 1 := ⟨fuel - 1, by simp at h; omega⟩
    simp [readStringBody]
  | cons c s ih =>
    rw [List.length_cons] at h
    obtain ⟨n, rfl⟩ : ∃ n, fuel = n + 1 := ⟨fuel - 1, by omega⟩
    rw [List.flatMap_cons, List.flatMap_append, List.append_assoc, hrule.inside c,
      ih (by omega)]
    rfl

/-- What follows the opening quotation mark of a written string. -/
theorem Transparent.flatMap_writeString (hrule : Transparent rule) (s rest : List Char) :
    (writeString s).flatMap rule ++ rest =
      '"' :: ((s.flatMap escapeChar).flatMap rule ++ '"' :: rest) := by
  have hquote : rule '"' = ['"'] := hrule.outside '"' rfl
  simp [writeString, hquote]

@[simp] theorem stringOf_map_some (s : List Char) :
    stringOf (s.map some) = .string (String.ofList s) := by
  have hbody : (s.map some).mapM id = some s := by
    induction s with
    | nil => rfl
    | cons c rest ih => simp [ih]
  rw [stringOf, hbody]

@[simp] theorem keyOf_map_some (s : List Char) : keyOf (s.map some) = String.ofList s := by
  simp [keyOf, Function.comp_def]

end FormPress.Json
