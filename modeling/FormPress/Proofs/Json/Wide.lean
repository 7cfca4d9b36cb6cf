import FormPress.Json.Wide
import FormPress.Proofs.Json.Printed

/-!
# The round trip of values with any code points

A written value is read back, whatever code points its texts and keys hold and however deep it is
nested, with any spacing and after any rule that a reader of texts does not notice. Words and whole
numbers are read back as characters; the rest of the argument is the one for values with texts of
characters.
-/

namespace FormPress.WideJson

open CodePoint

/-! ## Texts -/

/-- A reader of texts takes what is written in one step, as a code point. -/
def ReadsAs (p : CodePoint) (written : List CodePoint) : Prop :=
  ∀ (fuel : Nat) (rest : List CodePoint),
    readBody (fuel + 1) (written ++ rest) = (readBody fuel rest).map fun r => (p :: r.1, r.2)

theorem readsAs_half (index : Fin 0x800) : ReadsAs (.half index) [.half index] :=
  fun _ _ => rfl

/-- A character that stands for itself. -/
theorem readsAs_self {c : Char} (hquote : c ≠ '"') (hslash : c ≠ '\\') (h : ¬c.toNat < 0x20) :
    ReadsAs (.char c) [.char c] := by
  intro fuel rest
  simp [readBody, hquote, hslash, h]

/-- A character behind a backslash. -/
theorem readsAs_escaped {c d : Char} (h : escaped? c = some d) (hu : c ≠ 'u') :
    ReadsAs (.char d) [.char '\\', .char c] := by
  intro fuel rest
  simp [readBody, readEscape, hu, h]

/-- Four digits of a code are read back. -/
theorem readHex_hex {n : Nat} (h : n < 0x10000) (rest : List CodePoint) :
    readHex (ofChars (Text.hex 4 n) ++ rest) = some (n, rest) := by
  have hdigit (k : Nat) : Text.hexValue? (Text.hexDigit (k % 16)) = some (k % 16) :=
    Json.hexValue?_hexDigit _ (Nat.mod_lt _ (by omega))
  have hvalue : ((n / 16 / 16 / 16 % 16 * 16 + n / 16 / 16 % 16) * 16 + n / 16 % 16) * 16 +
      n % 16 = n := by omega
  rw [Json.hex_four]
  simp only [ofChars, List.map_cons, List.map_nil, List.cons_append, List.nil_append, readHex,
    hdigit, hvalue]

/-- A character that is no half of a pair, by its code. -/
theorem readsAs_code {c : Char} (h : c.toNat < 0xD800) :
    ReadsAs (.char c) (ofChars ('\\' :: 'u' :: Text.hex 4 c.toNat)) := by
  intro fuel rest
  have hhigh : Json.isHighSurrogate c.toNat = false := by
    rw [Json.isHighSurrogate, decide_eq_false_iff_not]
    omega
  have hcode : readCode (ofChars (Text.hex 4 c.toNat) ++ rest) = some (.char c, rest) := by
    rw [readCode, readHex_hex (by omega)]
    simp only [hhigh, Bool.false_eq_true, if_false, Option.some.injEq, Prod.mk.injEq, and_true]
    exact ofNat_toNat (.char c)
  have htext : ofChars ('\\' :: 'u' :: Text.hex 4 c.toNat) ++ rest =
      .char '\\' :: .char 'u' :: (ofChars (Text.hex 4 c.toNat) ++ rest) := rfl
  rw [htext]
  simp [readBody, readEscape, hcode]

/-- Every code point is read back from its escaped form. -/
theorem readsAs_escape (p : CodePoint) : ReadsAs p (escape p) := by
  cases p with
  | half index => exact readsAs_half index
  | char c =>
    rw [escape]
    unfold Json.escapeChar
    split_ifs with hquote hslash hn hr ht hb hf hcode
    · subst hquote
      exact readsAs_escaped rfl (by decide)
    · subst hslash
      exact readsAs_escaped rfl (by decide)
    · subst hn
      exact readsAs_escaped rfl (by decide)
    · subst hr
      exact readsAs_escaped rfl (by decide)
    · subst ht
      exact readsAs_escaped rfl (by decide)
    · subst hb
      exact readsAs_escaped rfl (by decide)
    · subst hf
      exact readsAs_escaped rfl (by decide)
    · exact readsAs_code (by omega)
    · exact readsAs_self hquote hslash hcode

/-- A rule that writes the code points of a text again without a change to its value. -/
structure Transparent (rule : CodePoint → List CodePoint) : Prop where
  outside : ∀ c, Json.isOutside c = true → rule (.char c) = [.char c]
  inside : ∀ p, ReadsAs p ((escape p).flatMap rule)

theorem ReadsAs.ne_nil {p : CodePoint} {written : List CodePoint} (h : ReadsAs p written) :
    written ≠ [] := by
  rintro rfl
  have hread := h 0 [.char '"']
  simp [readBody] at hread

variable {rule : CodePoint → List CodePoint} {spacing : Json.Spacing}

theorem Transparent.flatMap_outside (hrule : Transparent rule) {s : List Char}
    (h : ∀ c ∈ s, Json.isOutside c = true) : (ofChars s).flatMap rule = ofChars s := by
  induction s with
  | nil => rfl
  | cons c rest ih =>
    rw [List.forall_mem_cons] at h
    have htail := ih h.2
    rw [ofChars] at htail ⊢
    rw [List.map_cons, List.flatMap_cons, hrule.outside c h.1, htail]
    rfl

/-- A written text is at least as long as the text. -/
theorem Transparent.length_le (hrule : Transparent rule) (s : List CodePoint) :
    s.length ≤ ((s.flatMap escape).flatMap rule).length := by
  induction s with
  | nil => simp
  | cons p rest ih =>
    have hp : 0 < ((escape p).flatMap rule).length :=
      List.length_pos_iff.2 (hrule.inside p).ne_nil
    rw [List.flatMap_cons, List.flatMap_append, List.length_append, List.length_cons]
    omega

/-- The body of a written text is read back. -/
theorem Transparent.readBody_flatMap (hrule : Transparent rule) {s : List CodePoint} {fuel : Nat}
    (rest : List CodePoint) (h : s.length < fuel) :
    readBody fuel ((s.flatMap escape).flatMap rule ++ .char '"' :: rest) = some (s, rest) := by
  induction s generalizing fuel with
  | nil =>
    obtain ⟨n, rfl⟩ : ∃ n, fuel = n + 1 := ⟨fuel - 1, by simp at h; omega⟩
    simp [readBody]
  | cons p s ih =>
    rw [List.length_cons] at h
    obtain ⟨n, rfl⟩ : ∃ n, fuel = n + 1 := ⟨fuel - 1, by omega⟩
    rw [List.flatMap_cons, List.flatMap_append, List.append_assoc, hrule.inside p, ih (by omega)]
    rfl

/-! ## Blanks and marks -/

theorem dropWhile_blanks (n : Nat) (s : List CodePoint) :
    (List.replicate n (CodePoint.char ' ') ++ s).dropWhile isBlank = s.dropWhile isBlank := by
  induction n with
  | zero => rfl
  | succ n ih =>
    rw [List.replicate_succ, List.cons_append, List.dropWhile_cons_of_pos rfl, ih]

theorem dropWhile_start {c : Char} (hc : Json.isStart c = true) (rest : List CodePoint) :
    (.char c :: rest).dropWhile isBlank = .char c :: rest := by
  rw [List.dropWhile_cons_of_neg]
  simp [isBlank, Json.isJsonBlank_of_isStart hc]

theorem readMark_blanks (mark : Char) (n : Nat) (s : List CodePoint) :
    readMark mark (List.replicate n (.char ' ') ++ s) = readMark mark s := by
  rw [readMark, readMark, dropWhile_blanks]

theorem readMark_self (mark : Char) (hmark : Json.isJsonBlank mark = false)
    (rest : List CodePoint) : readMark mark (.char mark :: rest) = some rest := by
  rw [readMark, List.dropWhile_cons_of_neg (by simp [isBlank, hmark])]
  simp

theorem readMark_of_ne {c : Char} (mark : Char) (hc : Json.isJsonBlank c = false) (hne : c ≠ mark)
    (rest : List CodePoint) : readMark mark (.char c :: rest) = none := by
  rw [readMark, List.dropWhile_cons_of_neg (by simp [isBlank, hc])]
  simp [hne]

theorem readText_blanks (n : Nat) (s : List CodePoint) :
    readText (List.replicate n (.char ' ') ++ s) = readText s := by
  rw [readText, readText, readMark_blanks]

theorem readScalar_blanks (n : Nat) (s : List CodePoint) :
    readScalar (List.replicate n (.char ' ') ++ s) = readScalar s := by
  rw [readScalar, readScalar, dropWhile_blanks]

theorem readValue_blanks (fuel n : Nat) (s : List CodePoint) :
    readValue fuel (List.replicate n (.char ' ') ++ s) = readValue fuel s := by
  cases fuel with
  | zero => rw [readValue, readValue]
  | succ fuel =>
    rw [readValue, readValue]
    simp only [readMark_blanks, readText_blanks, readScalar_blanks]

theorem readItems_blanks (fuel n : Nat) (s : List CodePoint) :
    readItems fuel (List.replicate n (.char ' ') ++ s) = readItems fuel s := by
  cases fuel with
  | zero => rw [readItems, readItems]
  | succ fuel => rw [readItems, readItems, readValue_blanks]

theorem readMembers_blanks (fuel n : Nat) (s : List CodePoint) :
    readMembers fuel (List.replicate n (.char ' ') ++ s) = readMembers fuel s := by
  cases fuel with
  | zero => rw [readMembers, readMembers]
  | succ fuel => rw [readMembers, readMembers, readText_blanks]

/-- A written text is read back. -/
theorem Transparent.readText_writeText (hrule : Transparent rule) (s rest : List CodePoint) :
    readText ((writeText s).flatMap rule ++ rest) = some (s, rest) := by
  have hquote : rule (.char '"') = [.char '"'] := hrule.outside '"' rfl
  have htext : (writeText s).flatMap rule ++ rest =
      .char '"' :: ((s.flatMap escape).flatMap rule ++ .char '"' :: rest) := by
    simp [writeText, hquote]
  have hlength := hrule.length_le s
  rw [htext, readText, readMark_self _ rfl, Option.bind_some, hrule.readBody_flatMap]
  rw [List.length_append]
  omega

/-! ## Words and whole numbers -/

/-- What does not go on a word or a number. -/
def EndsWord (rest : List CodePoint) : Prop :=
  ∀ c, rest.head? = some (.char c) → isWordChar c = false

theorem endsWord_nil : EndsWord [] :=
  fun _ h => nomatch h

theorem endsWord_cons {c : Char} (hc : isWordChar c = false) (rest : List CodePoint) :
    EndsWord (.char c :: rest) := by
  rintro d ⟨⟩
  exact hc

theorem spanWord_append {word : List Char} {rest : List CodePoint}
    (hword : ∀ c ∈ word, isWordChar c = true) (hrest : EndsWord rest) :
    spanWord (ofChars word ++ rest) = (word, rest) := by
  induction word with
  | nil =>
    cases rest with
    | nil => rfl
    | cons p rest =>
      cases p with
      | half index => rfl
      | char c =>
        have hc := hrest c rfl
        simp [ofChars, spanWord, hc]
  | cons c word ih =>
    rw [List.forall_mem_cons] at hword
    have htail := ih hword.2
    rw [ofChars] at htail ⊢
    simp [spanWord, hword.1, htail]

/-- How a scalar is written: as the same value with texts of characters is, in characters of words
and numbers. -/
structure IsScalar (spacing : Json.Spacing) (v : WideJson) (j : Json) : Prop where
  points_eq : v.points spacing = ofChars (j.chars spacing)
  exact : j.Exact
  ne_nil : j.chars spacing ≠ []
  wordChars : ∀ c ∈ j.chars spacing, isWordChar c = true

theorem isScalar_of_ofScalar? (spacing : Json.Spacing) {v : WideJson} {j : Json}
    (h : ofScalar? j = some v) : IsScalar spacing v j := by
  cases j with
  | null =>
    obtain rfl := Option.some.inj h
    exact ⟨rfl, trivial, by simp [Json.chars], List.all_eq_true.1 rfl⟩
  | bool b =>
    obtain rfl := Option.some.inj h
    cases b with
    | false => exact ⟨rfl, trivial, by simp [Json.chars], List.all_eq_true.1 rfl⟩
    | true => exact ⟨rfl, trivial, by simp [Json.chars], List.all_eq_true.1 rfl⟩
  | int i =>
    obtain rfl := Option.some.inj h
    refine ⟨rfl, trivial, ?_, fun c hc => (isNumeral_decimalInt i).isNumberChar_of_mem c hc⟩
    rw [Json.chars_int]
    exact List.append_ne_nil_of_right_ne_nil _ Nat.toDigits_ne_nil
  | float | string | brokenString | array | object => exact nomatch h

variable {v : WideJson} {j : Json}

theorem IsScalar.isStart (h : IsScalar spacing v j) :
    ∀ c ∈ j.chars spacing, Json.isStart c = true :=
  fun c hc => Json.isStart_of_isNumberChar (h.wordChars c hc)

theorem IsScalar.flatMap_points (h : IsScalar spacing v j) (hrule : Transparent rule) :
    (v.points spacing).flatMap rule = ofChars (j.chars spacing) := by
  rw [h.points_eq, hrule.flatMap_outside fun c hc => Json.isOutside_of_isStart (h.isStart c hc)]

theorem IsScalar.exists_cons (h : IsScalar spacing v j) :
    ∃ c word, j.chars spacing = c :: word ∧ isWordChar c = true ∧ Json.isStart c = true := by
  obtain ⟨c, word, hchars⟩ := List.exists_cons_of_ne_nil h.ne_nil
  have hc : c ∈ j.chars spacing := by simp [hchars]
  exact ⟨c, word, hchars, h.wordChars c hc, h.isStart c hc⟩

/-- A scalar is read back by the reader of characters. -/
theorem readValue_scalar (hspacing : spacing.Plain) (hscalar : ofScalar? j = some v) (fuel : Nat)
    {rest : List CodePoint} (hrest : EndsWord rest) :
    readValue (fuel + 1) (ofChars (j.chars spacing) ++ rest) = some (v, rest) := by
  have h : IsScalar spacing v j := isScalar_of_ofScalar? spacing hscalar
  have hread : Json.readChars (.ofLength (j.chars spacing).length) (j.chars spacing) = .ok j :=
    Json.readChars_text Json.transparent_self hspacing h.exact _ (List.flatMap_singleton' _).symm
  have hspan := spanWord_append h.wordChars hrest
  obtain ⟨c, word, hchars, hword, hstart⟩ := h.exists_cons
  have htext : ofChars (j.chars spacing) ++ rest = .char c :: (ofChars word ++ rest) := by
    rw [hchars]
    rfl
  have hne (mark : Char) (hmark : isWordChar mark = false) :
      readMark mark (ofChars (j.chars spacing) ++ rest) = none := by
    rw [htext]
    refine readMark_of_ne mark (Json.isJsonBlank_of_isStart hstart) ?_ _
    rintro rfl
    rw [hword] at hmark
    contradiction
  have hskip : (ofChars (j.chars spacing) ++ rest).dropWhile isBlank =
      ofChars (j.chars spacing) ++ rest := by
    rw [htext, dropWhile_start hstart]
  rw [readValue, hne '[' rfl, hne '\x7b' rfl, readText, hne '"' rfl]
  simp only [Option.bind_none, readScalar, hskip, hspan, hread, hscalar, Option.map_some]

/-! ## Written values -/

theorem itemPoints_cons (v : WideJson) {rest : List WideJson} (h : rest ≠ []) :
    itemPoints spacing (v :: rest) =
      points spacing v ++ (ofChars spacing.comma ++ itemPoints spacing rest) := by
  cases rest with
  | nil => contradiction
  | cons w rest => rw [itemPoints]

theorem memberPoints_cons (k : List CodePoint) (v : WideJson)
    {rest : List (List CodePoint × WideJson)} (h : rest ≠ []) :
    memberPoints spacing ((k, v) :: rest) =
      writeText k ++ (ofChars spacing.colon ++ (points spacing v ++
        (ofChars spacing.comma ++ memberPoints spacing rest))) := by
  cases rest with
  | nil => contradiction
  | cons m rest => rw [memberPoints]

theorem Transparent.exists_comma (hrule : Transparent rule) (hspacing : spacing.Plain) :
    ∃ n, (ofChars spacing.comma).flatMap rule = .char ',' :: List.replicate n (.char ' ') := by
  obtain ⟨n, hn⟩ := hspacing.comma
  refine ⟨n, ?_⟩
  rw [hn, hrule.flatMap_outside (by simp [Json.isOutside])]
  simp [ofChars]

theorem Transparent.exists_colon (hrule : Transparent rule) (hspacing : spacing.Plain) :
    ∃ n, (ofChars spacing.colon).flatMap rule = .char ':' :: List.replicate n (.char ' ') := by
  obtain ⟨n, hn⟩ := hspacing.colon
  refine ⟨n, ?_⟩
  rw [hn, hrule.flatMap_outside (by simp [Json.isOutside])]
  simp [ofChars]

theorem Transparent.flatMap_array (hrule : Transparent rule) (items : List WideJson) :
    (points spacing (.array items)).flatMap rule =
      .char '[' :: ((itemPoints spacing items).flatMap rule ++ [.char ']']) := by
  have hopen : rule (.char '[') = [.char '['] := hrule.outside '[' rfl
  have hclose : rule (.char ']') = [.char ']'] := hrule.outside ']' rfl
  simp [points, hopen, hclose]

theorem Transparent.flatMap_object (hrule : Transparent rule)
    (members : List (List CodePoint × WideJson)) :
    (points spacing (.object members)).flatMap rule =
      .char '\x7b' :: ((memberPoints spacing members).flatMap rule ++ [.char '\x7d']) := by
  have hopen : rule (.char '\x7b') = [.char '\x7b'] := hrule.outside '\x7b' rfl
  have hclose : rule (.char '\x7d') = [.char '\x7d'] := hrule.outside '\x7d' rfl
  simp [points, hopen, hclose]

theorem Transparent.exists_writeText (hrule : Transparent rule) (s : List CodePoint) :
    ∃ rest, (writeText s).flatMap rule = .char '"' :: rest := by
  have hquote : rule (.char '"') = [.char '"'] := hrule.outside '"' rfl
  exact ⟨_, by rw [writeText, List.flatMap_cons, hquote]; rfl⟩

/-- A value begins with a character that no rule changes. -/
theorem Transparent.exists_points (hrule : Transparent rule) (spacing : Json.Spacing)
    (v : WideJson) :
    ∃ c rest, (points spacing v).flatMap rule = .char c :: rest ∧ Json.isStart c = true := by
  have hscalar {j : Json} (h : ofScalar? j = some v) :
      ∃ c rest, (points spacing v).flatMap rule = .char c :: rest ∧ Json.isStart c = true := by
    have hv : IsScalar spacing v j := isScalar_of_ofScalar? spacing h
    obtain ⟨c, word, hchars, -, hstart⟩ := hv.exists_cons
    exact ⟨c, ofChars word, by rw [hv.flatMap_points hrule, hchars]; rfl, hstart⟩
  cases v with
  | null => exact hscalar (j := .null) rfl
  | bool b => exact hscalar (j := .bool b) rfl
  | int i => exact hscalar (j := .int i) rfl
  | text s =>
    obtain ⟨rest, hrest⟩ := hrule.exists_writeText s
    exact ⟨'"', rest, hrest, rfl⟩
  | array items => exact ⟨'[', _, hrule.flatMap_array items, rfl⟩
  | object members => exact ⟨'\x7b', _, hrule.flatMap_object members, rfl⟩

theorem Transparent.exists_itemPoints (hrule : Transparent rule) (spacing : Json.Spacing)
    {items : List WideJson} (hne : items ≠ []) :
    ∃ c rest, (itemPoints spacing items).flatMap rule = .char c :: rest ∧
      Json.isStart c = true := by
  cases items with
  | nil => contradiction
  | cons v items =>
    obtain ⟨c, rest, htext, hc⟩ := hrule.exists_points spacing v
    by_cases hlast : items = []
    · subst hlast
      exact ⟨c, rest, htext, hc⟩
    · rw [itemPoints_cons v hlast, List.flatMap_append, htext]
      exact ⟨c, _, rfl, hc⟩

theorem Transparent.exists_memberPoints (hrule : Transparent rule) (spacing : Json.Spacing)
    {members : List (List CodePoint × WideJson)} (hne : members ≠ []) :
    ∃ rest, (memberPoints spacing members).flatMap rule = .char '"' :: rest := by
  cases members with
  | nil => contradiction
  | cons m members =>
    obtain ⟨k, v⟩ := m
    obtain ⟨rest, hrest⟩ := hrule.exists_writeText k
    by_cases hlast : members = []
    · subst hlast
      rw [memberPoints, List.flatMap_append, hrest]
      exact ⟨_, rfl⟩
    · rw [memberPoints_cons k v hlast, List.flatMap_append, hrest]
      exact ⟨_, rfl⟩

/-! ## Steps of the reader -/

theorem readValue_text {fuel : Nat} {s body rest : List CodePoint}
    (h : readText (.char '"' :: s) = some (body, rest)) :
    readValue (fuel + 1) (.char '"' :: s) = some (.text body, rest) := by
  rw [readValue, readMark_of_ne _ rfl (by decide), readMark_of_ne _ rfl (by decide), h]

theorem readValue_array_nil (fuel : Nat) (rest : List CodePoint) :
    readValue (fuel + 1) (.char '[' :: .char ']' :: rest) = some (.array [], rest) := by
  rw [readValue, readMark_self _ rfl]
  simp only [readMark_self ']' rfl]

theorem readValue_array {fuel : Nat} {c : Char} {s rest : List CodePoint} {items : List WideJson}
    (hc : Json.isStart c = true) (h : readItems fuel (.char c :: s) = some (items, rest)) :
    readValue (fuel + 1) (.char '[' :: .char c :: s) = some (.array items, rest) := by
  have hclose : c ≠ ']' := by
    rintro rfl
    contradiction
  rw [readValue, readMark_self _ rfl]
  simp only [readMark_of_ne ']' (Json.isJsonBlank_of_isStart hc) hclose, h, Option.map_some]

theorem readValue_object_nil (fuel : Nat) (rest : List CodePoint) :
    readValue (fuel + 1) (.char '\x7b' :: .char '\x7d' :: rest) = some (.object [], rest) := by
  rw [readValue, readMark_of_ne _ rfl (by decide), readMark_self _ rfl]
  simp only [readMark_self '\x7d' rfl]

theorem readValue_object {fuel : Nat} {s rest : List CodePoint}
    {members : List (List CodePoint × WideJson)}
    (h : readMembers fuel (.char '"' :: s) = some (members, rest)) :
    readValue (fuel + 1) (.char '\x7b' :: .char '"' :: s) = some (.object members, rest) := by
  have hopen : ('"' : Char) ≠ '\x7d' := by decide
  rw [readValue, readMark_of_ne _ rfl (by decide), readMark_self _ rfl]
  simp only [readMark_of_ne '\x7d' rfl hopen, h, Option.map_some]

section

variable {fuel n : Nat} {s more rest k afterKey : List CodePoint} {v : WideJson}

theorem readItems_last (h : readValue fuel s = some (v, .char ']' :: rest)) :
    readItems (fuel + 1) s = some ([v], rest) := by
  have hclose : (']' : Char) ≠ ',' := by decide
  rw [readItems, h]
  simp only [readMark_of_ne ',' rfl hclose, readMark_self ']' rfl, Option.map_some]

theorem readItems_more {others : List WideJson}
    (h : readValue fuel s = some (v, .char ',' :: (List.replicate n (.char ' ') ++ more)))
    (hmore : readItems fuel more = some (others, rest)) :
    readItems (fuel + 1) s = some (v :: others, rest) := by
  rw [readItems, h]
  simp only [readMark_self ',' rfl, readItems_blanks, hmore, Option.map_some]

theorem readMembers_last
    (hkey : readText s = some (k, .char ':' :: (List.replicate n (.char ' ') ++ afterKey)))
    (h : readValue fuel afterKey = some (v, .char '\x7d' :: rest)) :
    readMembers (fuel + 1) s = some ([(k, v)], rest) := by
  have hclose : ('\x7d' : Char) ≠ ',' := by decide
  rw [readMembers, hkey]
  simp only [readMark_self ':' rfl, Option.bind_some, readValue_blanks, h,
    readMark_of_ne ',' rfl hclose, readMark_self '\x7d' rfl, Option.map_some]

theorem readMembers_more {others : List (List CodePoint × WideJson)} {j : Nat}
    (hkey : readText s = some (k, .char ':' :: (List.replicate n (.char ' ') ++ afterKey)))
    (h : readValue fuel afterKey = some (v, .char ',' :: (List.replicate j (.char ' ') ++ more)))
    (hmore : readMembers fuel more = some (others, rest)) :
    readMembers (fuel + 1) s = some ((k, v) :: others, rest) := by
  rw [readMembers, hkey]
  simp only [readMark_self ':' rfl, Option.bind_some, readValue_blanks, h, readMark_self ',' rfl,
    readMembers_blanks, hmore, Option.map_some]

end

/-! ## The round trip -/

mutual

-- The induction is on the value. The fuel goes down by one for a container and for each of its
-- items, and each of the two has a code point of the text to itself.
theorem readValue_points (hrule : Transparent rule) (hspacing : spacing.Plain) (v : WideJson)
    (fuel : Nat) (rest : List CodePoint)
    (hfuel : 2 * ((points spacing v).flatMap rule).length ≤ fuel) (hrest : EndsWord rest) :
    readValue fuel ((points spacing v).flatMap rule ++ rest) = some (v, rest) := by
  obtain ⟨f, rfl⟩ : ∃ f, fuel = f + 1 := by
    obtain ⟨c, text, htext, -⟩ := hrule.exists_points spacing v
    rw [htext, List.length_cons] at hfuel
    exact ⟨fuel - 1, by omega⟩
  have hscalar {j : Json} (h : ofScalar? j = some v) :
      readValue (f + 1) ((points spacing v).flatMap rule ++ rest) = some (v, rest) := by
    rw [(isScalar_of_ofScalar? spacing h).flatMap_points hrule]
    exact readValue_scalar hspacing h f hrest
  cases v with
  | null => exact hscalar (j := .null) rfl
  | bool b => exact hscalar (j := .bool b) rfl
  | int i => exact hscalar (j := .int i) rfl
  | text s =>
    have hread := hrule.readText_writeText s rest
    obtain ⟨more, hmore⟩ := hrule.exists_writeText s
    rw [points]
    rw [hmore, List.cons_append] at hread ⊢
    exact readValue_text hread
  | array items =>
    rw [hrule.flatMap_array] at hfuel ⊢
    rw [List.length_cons, List.length_append, List.length_singleton] at hfuel
    rw [List.cons_append, List.append_assoc, List.singleton_append]
    by_cases hne : items = []
    · subst hne
      exact readValue_array_nil f rest
    · have hread := readItems_points hrule hspacing hne f rest (by omega)
      obtain ⟨c, text, htext, hc⟩ := hrule.exists_itemPoints spacing hne
      rw [htext, List.cons_append] at hread ⊢
      exact readValue_array hc hread
  | object members =>
    rw [hrule.flatMap_object] at hfuel ⊢
    rw [List.length_cons, List.length_append, List.length_singleton] at hfuel
    rw [List.cons_append, List.append_assoc, List.singleton_append]
    by_cases hne : members = []
    · subst hne
      exact readValue_object_nil f rest
    · have hread := readMembers_points hrule hspacing hne f rest (by omega)
      obtain ⟨text, htext⟩ := hrule.exists_memberPoints spacing hne
      rw [htext, List.cons_append] at hread ⊢
      exact readValue_object hread

theorem readItems_points (hrule : Transparent rule) (hspacing : spacing.Plain)
    {items : List WideJson} (hne : items ≠ []) (fuel : Nat) (rest : List CodePoint)
    (hfuel : 2 * ((itemPoints spacing items).flatMap rule).length + 1 ≤ fuel) :
    readItems fuel ((itemPoints spacing items).flatMap rule ++ .char ']' :: rest) =
      some (items, rest) := by
  obtain ⟨f, rfl⟩ : ∃ f, fuel = f + 1 := ⟨fuel - 1, by omega⟩
  cases items with
  | nil => contradiction
  | cons v others =>
    by_cases hlast : others = []
    · subst hlast
      rw [itemPoints] at hfuel ⊢
      exact readItems_last
        (readValue_points hrule hspacing v f _ (by omega) (endsWord_cons rfl _))
    · obtain ⟨n, hcomma⟩ := hrule.exists_comma hspacing
      rw [itemPoints_cons v hlast, List.flatMap_append, List.flatMap_append, hcomma] at hfuel ⊢
      simp only [List.length_append, List.length_cons] at hfuel
      simp only [List.append_assoc, List.cons_append]
      exact readItems_more
        (readValue_points hrule hspacing v f _ (by omega) (endsWord_cons rfl _))
        (readItems_points hrule hspacing hlast f rest (by omega))

theorem readMembers_points (hrule : Transparent rule) (hspacing : spacing.Plain)
    {members : List (List CodePoint × WideJson)} (hne : members ≠ []) (fuel : Nat)
    (rest : List CodePoint)
    (hfuel : 2 * ((memberPoints spacing members).flatMap rule).length + 1 ≤ fuel) :
    readMembers fuel ((memberPoints spacing members).flatMap rule ++ .char '\x7d' :: rest) =
      some (members, rest) := by
  obtain ⟨f, rfl⟩ : ∃ f, fuel = f + 1 := ⟨fuel - 1, by omega⟩
  obtain ⟨n, hcolon⟩ := hrule.exists_colon hspacing
  cases members with
  | nil => contradiction
  | cons m others =>
    obtain ⟨k, v⟩ := m
    by_cases hlast : others = []
    · subst hlast
      rw [memberPoints, List.flatMap_append, List.flatMap_append, hcolon] at hfuel ⊢
      simp only [List.length_append, List.length_cons] at hfuel
      simp only [List.append_assoc, List.cons_append]
      exact readMembers_last (hrule.readText_writeText k _)
        (readValue_points hrule hspacing v f _ (by omega) (endsWord_cons rfl _))
    · obtain ⟨j, hcomma⟩ := hrule.exists_comma hspacing
      rw [memberPoints_cons k v hlast] at hfuel ⊢
      simp only [List.flatMap_append, hcolon, hcomma, List.length_append, List.length_cons] at hfuel
      simp only [List.flatMap_append, hcolon, hcomma, List.append_assoc, List.cons_append]
      exact readMembers_more (hrule.readText_writeText k _)
        (readValue_points hrule hspacing v f _ (by omega) (endsWord_cons rfl _))
        (readMembers_points hrule hspacing hlast f rest (by omega))

end

/-- **A written value is read back, and nothing is left over.** -/
theorem read_points (hrule : Transparent rule) (hspacing : spacing.Plain) (v : WideJson) :
    read ((v.points spacing).flatMap rule) = some v := by
  have hread := readValue_points hrule hspacing v _ [] (Nat.le_refl _) endsWord_nil
  rw [List.append_nil] at hread
  rw [read, hread]
  rfl

/-! ## Code points of written values -/

/-- A code point that is not a control character below the blank. -/
def isPrinted (p : CodePoint) : Bool :=
  decide (0x20 ≤ p.toNat)

theorem all_isPrinted_ofChars (s : List Char) :
    (ofChars s).all isPrinted = s.all Json.isPrinted := by
  rw [ofChars, List.all_map]
  rfl

theorem isPrinted_escape (p : CodePoint) : (escape p).all isPrinted = true := by
  cases p with
  | char c =>
    rw [escape, all_isPrinted_ofChars, List.all_eq_true]
    exact fun d hd => Json.isPrinted_escapeChar hd
  | half index =>
    have hhalf : 0x20 ≤ 0xD800 + index.val := by omega
    rw [escape, List.all_cons, List.all_nil, Bool.and_true, isPrinted, decide_eq_true_eq]
    exact hhalf

theorem isPrinted_writeText (s : List CodePoint) : (writeText s).all isPrinted = true := by
  have hbody : (s.flatMap escape).all isPrinted = true := by
    rw [List.all_flatMap, List.all_eq_true]
    exact fun p _ => isPrinted_escape p
  rw [writeText, List.all_cons, List.all_append, hbody]
  rfl

mutual

theorem isPrinted_points (h : spacing.Plain) (v : WideJson) :
    (points spacing v).all isPrinted = true := by
  have hscalar (j : Json) : (ofChars (j.chars spacing)).all isPrinted = true := by
    rw [all_isPrinted_ofChars]
    exact Json.isPrinted_chars h j
  cases v with
  | null => exact hscalar .null
  | bool b => exact hscalar (.bool b)
  | int i => exact hscalar (.int i)
  | text s => exact isPrinted_writeText s
  | array items =>
    rw [points, List.all_cons, List.all_append, isPrinted_itemPoints h items]
    rfl
  | object members =>
    rw [points, List.all_cons, List.all_append, isPrinted_memberPoints h members]
    rfl

theorem isPrinted_itemPoints (h : spacing.Plain) (items : List WideJson) :
    (itemPoints spacing items).all isPrinted = true := by
  cases items with
  | nil => rfl
  | cons v rest =>
    by_cases hlast : rest = []
    · subst hlast
      exact isPrinted_points h v
    · rw [itemPoints_cons v hlast]
      simp [isPrinted_points h v, all_isPrinted_ofChars, h.isPrinted_comma,
        isPrinted_itemPoints h rest]

theorem isPrinted_memberPoints (h : spacing.Plain) (members : List (List CodePoint × WideJson)) :
    (memberPoints spacing members).all isPrinted = true := by
  cases members with
  | nil => rfl
  | cons m rest =>
    obtain ⟨k, v⟩ := m
    by_cases hlast : rest = []
    · subst hlast
      simp [memberPoints, isPrinted_writeText, all_isPrinted_ofChars, h.isPrinted_colon,
        isPrinted_points h v]
    · rw [memberPoints_cons k v hlast]
      simp [isPrinted_writeText, all_isPrinted_ofChars, h.isPrinted_colon, isPrinted_points h v,
        h.isPrinted_comma, isPrinted_memberPoints h rest]

end

/-! ## Values with texts of characters -/

theorem ofChars_append (s t : List Char) : ofChars (s ++ t) = ofChars s ++ ofChars t :=
  List.map_append

theorem writeText_ofChars (s : List Char) :
    writeText (ofChars s) = ofChars (Json.writeString s) := by
  have hbody : (ofChars s).flatMap escape = ofChars (s.flatMap Json.escapeChar) := by
    rw [ofChars, List.flatMap_map, ofChars, List.map_flatMap]
    rfl
  rw [writeText, hbody, Json.writeString, ofChars_append]
  rfl

mutual

/-- An exact value has code points, and is written by them as it is by its characters. -/
theorem exists_ofJson? (spacing : Json.Spacing) {v : Json} (hv : v.Exact) :
    ∃ w, ofJson? v = some w ∧ w.points spacing = ofChars (v.chars spacing) := by
  cases v with
  | null => exact ⟨.null, rfl, rfl⟩
  | bool b => exact ⟨.bool b, rfl, rfl⟩
  | int i => exact ⟨.int i, rfl, rfl⟩
  | float | brokenString => exact hv.elim
  | string s => exact ⟨_, rfl, writeText_ofChars s.toList⟩
  | array items =>
    have hitems : Json.ExactItems items := hv
    obtain ⟨ws, hws, -, hpoints⟩ := exists_ofItems? spacing hitems
    refine ⟨.array ws, by rw [ofJson?, hws, Option.map_some], ?_⟩
    rw [points, hpoints, Json.chars, ofChars_append]
    rfl
  | object members =>
    have hmembers : Json.ExactMembers members := hv
    obtain ⟨ws, hws, -, hpoints⟩ := exists_ofMembers? spacing hmembers
    refine ⟨.object ws, by rw [ofJson?, hws, Option.map_some], ?_⟩
    rw [points, hpoints, Json.chars, ofChars_append]
    rfl

theorem exists_ofItems? (spacing : Json.Spacing) {items : List Json}
    (hitems : Json.ExactItems items) :
    ∃ ws, ofItems? items = some ws ∧ ws.length = items.length ∧
      itemPoints spacing ws = ofChars (Json.itemChars spacing items) := by
  cases items with
  | nil => exact ⟨[], rfl, rfl, rfl⟩
  | cons v rest =>
    obtain ⟨w, hw, hpoints⟩ := exists_ofJson? spacing hitems.1
    obtain ⟨ws, hws, hlength, hrest⟩ := exists_ofItems? spacing hitems.2
    refine ⟨w :: ws, by rw [ofItems?, hw, hws]; rfl, by simp [hlength], ?_⟩
    by_cases hlast : rest = []
    · subst hlast
      obtain rfl := List.eq_nil_of_length_eq_zero hlength
      exact hpoints
    · have hne : ws ≠ [] := by
        rintro rfl
        exact hlast (List.eq_nil_of_length_eq_zero hlength.symm)
      rw [itemPoints_cons w hne, Json.itemChars_cons v hlast, hpoints, hrest, ofChars_append,
        ofChars_append]

theorem exists_ofMembers? (spacing : Json.Spacing) {members : List (String × Json)}
    (hmembers : Json.ExactMembers members) :
    ∃ ws, ofMembers? members = some ws ∧ ws.length = members.length ∧
      memberPoints spacing ws = ofChars (Json.memberChars spacing members) := by
  cases members with
  | nil => exact ⟨[], rfl, rfl, rfl⟩
  | cons m rest =>
    obtain ⟨k, v⟩ := m
    obtain ⟨w, hw, hpoints⟩ := exists_ofJson? spacing hmembers.1
    obtain ⟨ws, hws, hlength, hrest⟩ := exists_ofMembers? spacing hmembers.2
    refine ⟨(ofChars k.toList, w) :: ws, by rw [ofMembers?, hw, hws]; rfl, by simp [hlength], ?_⟩
    by_cases hlast : rest = []
    · subst hlast
      obtain rfl := List.eq_nil_of_length_eq_zero hlength
      rw [memberPoints, Json.memberChars, hpoints, writeText_ofChars, ofChars_append,
        ofChars_append, List.append_assoc]
    · have hne : ws ≠ [] := by
        rintro rfl
        exact hlast (List.eq_nil_of_length_eq_zero hlength.symm)
      rw [memberPoints_cons _ w hne, Json.memberChars_cons k v hlast, hpoints, hrest,
        writeText_ofChars]
      simp only [ofChars_append]

end

end FormPress.WideJson
