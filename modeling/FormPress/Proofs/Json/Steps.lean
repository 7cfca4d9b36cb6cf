import FormPress.Proofs.Json.Strings
import FormPress.Proofs.Number.Decimal

/-!
# Steps of the JSON reader

What the reader does with the beginning of each form of a value: a word, an integer, a string, an
item of an array or a member of an object, with what follows it. Each lemma is one step; the round
trip chains them.
-/

namespace FormPress.Json

/-! ## Integers -/

/-- A text that does not go on a number. -/
def EndsNumber (rest : List Char) : Prop :=
  ∀ c ∈ rest.head?, Number.isDigit c = false ∧ c ≠ '.' ∧ c ≠ 'e' ∧ c ≠ 'E'

theorem endsNumber_cons {c : Char} {rest : List Char}
    (h : (Number.isDigit c || c == '.' || c == 'e' || c == 'E') = false) :
    EndsNumber (c :: rest) := by
  simpa [EndsNumber, and_assoc] using h

/-- An integer with a sign. -/
def signed (negative : Bool) (n : Nat) : Int :=
  if negative then -n else n

theorem readNumberTail_int {a : Allowance} {whole rest : List Char} (negative : Bool)
    (hlimit : whole.length ≤ a.integerDigits) (hrest : EndsNumber rest) :
    readNumberTail a negative whole rest =
      .ok (.int (signed negative (Number.digitsValue whole)), rest) := by
  cases rest with
  | nil =>
    simp [readNumberTail, limitDigits, Nat.not_lt.2 hlimit, bind, Except.bind, pure, Except.pure,
      signed]
  | cons c rest =>
    obtain ⟨-, hpoint, he, hE⟩ := hrest c rfl
    simp [readNumberTail, limitDigits, hpoint, he, hE, Nat.not_lt.2 hlimit, bind, Except.bind, pure,
      Except.pure, signed]

theorem readNumber_digit {a : Allowance} {c : Char} (negative : Bool) (rest : List Char)
    (hc : Number.isDigit c = true) (hzero : c ≠ '0') :
    readNumber a negative (c :: rest) =
      readNumberTail a negative (Number.spanDigits (c :: rest)).1
        (Number.spanDigits (c :: rest)).2 := by
  have hI : c ≠ 'I' := by
    rintro rfl
    contradiction
  simp [readNumber, hc]

/-- A number is read from its integer part on, where no zero stands in front of other digits. -/
theorem readNumber_append {a : Allowance} (negative : Bool) {whole rest : List Char}
    (hne : whole ≠ []) (hwhole : ∀ c ∈ whole, Number.isDigit c = true)
    (hzero : ∀ ds, whole = '0' :: ds → ds = [])
    (hrest : ∀ c ∈ rest.head?, Number.isDigit c = false) :
    readNumber a negative (whole ++ rest) = readNumberTail a negative whole rest := by
  have hspan := Number.spanDigits_append hwhole hrest
  cases whole with
  | nil => contradiction
  | cons c cs =>
    by_cases hc : c = '0'
    · subst hc
      obtain rfl := hzero cs rfl
      cases rest with
      | nil => rfl
      | cons d rest =>
        have hd := hrest d rfl
        simp [readNumber, hd]
    · rw [List.cons_append, readNumber_digit negative _ (hwhole c (by simp)) hc,
        ← List.cons_append, hspan]

/-- The digits of a natural number are read back with the sign in front of them. -/
theorem readNumber_toDigits {a : Allowance} (negative : Bool) (n : Nat) {rest : List Char}
    (hlimit : (Nat.toDigits 10 n).length ≤ a.integerDigits) (hrest : EndsNumber rest) :
    readNumber a negative (Nat.toDigits 10 n ++ rest) = .ok (.int (signed negative n), rest) := by
  have hzero (ds : List Char) (h : Nat.toDigits 10 n = '0' :: ds) : ds = [] := by
    obtain rfl : n = 0 := Number.eq_zero_of_head_toDigits h
    simpa using h.symm
  rw [readNumber_append negative Nat.toDigits_ne_nil
    (fun c hc => Number.isDigit_of_mem_toDigits hc) hzero fun c hc => (hrest c hc).1,
    readNumberTail_int negative hlimit hrest, Number.digitsValue_toDigits]

/-! ## Beginnings of values -/

/-- A character with which a value begins. -/
def isStart (c : Char) : Bool :=
  !isJsonBlank c && c != ']' && c != '\x7d' && isOutside c

theorem isStart_of_isDigit {c : Char} (h : Number.isDigit c = true) : isStart c = true := by
  have hne (d : Char) (hd : Number.isDigit d = false) : c ≠ d := by
    rintro rfl
    simp [hd] at h
  have hdigit : c.isDigit = true := by rw [← Number.isDigit_eq, h]
  simp [isStart, isJsonBlank, isOutside, Char.isAlphanum, hdigit, hne ' ' rfl, hne '\t' rfl,
    hne '\n' rfl, hne '\r' rfl, hne ']' rfl, hne '\x7d' rfl]

theorem isOutside_of_isStart {c : Char} (h : isStart c = true) : isOutside c = true := by
  simp only [isStart, Bool.and_eq_true] at h
  exact h.2

theorem isJsonBlank_of_isStart {c : Char} (h : isStart c = true) : isJsonBlank c = false := by
  simp only [isStart, Bool.and_eq_true, Bool.not_eq_true'] at h
  exact h.1.1.1

theorem skipBlanks_cons {c : Char} (rest : List Char) (h : isJsonBlank c = false) :
    skipBlanks (c :: rest) = c :: rest := by
  simp [skipBlanks, h]

theorem skipBlanks_replicate (n : Nat) (rest : List Char) :
    skipBlanks (List.replicate n ' ' ++ rest) = skipBlanks rest := by
  induction n with
  | zero => rfl
  | succ n ih => rw [List.replicate_succ, List.cons_append, skipBlanks, List.dropWhile]; exact ih

/-! ## Values -/

variable {rule : Char → List Char} {spacing : Spacing} {a : Allowance}

theorem readValue_null (fuel depth : Nat) (rest : List Char) :
    readValue a (fuel + 1) depth (['n', 'u', 'l', 'l'] ++ rest) = .ok (.null, rest) := by
  rw [List.cons_append, readValue, skipBlanks_cons _ rfl]
  simp [readWord, Except.map]

theorem readValue_bool (b : Bool) (fuel depth : Nat) (rest : List Char) :
    readValue a (fuel + 1) depth (chars spacing (.bool b) ++ rest) = .ok (.bool b, rest) := by
  cases b with
  | false =>
    rw [chars, List.cons_append, readValue, skipBlanks_cons _ rfl]
    simp [readWord, Except.map]
  | true =>
    rw [chars, List.cons_append, readValue, skipBlanks_cons _ rfl]
    simp [readWord, Except.map]

theorem readValue_string (hrule : Transparent rule) (fuel depth : Nat) (s : String)
    (rest : List Char) :
    readValue a (fuel + 1) depth ((writeString s.toList).flatMap rule ++ rest) =
      .ok (.string s, rest) := by
  have hbody := hrule.length_le s.toList
  rw [hrule.flatMap_writeString, readValue, skipBlanks_cons _ rfl]
  simp only [if_true]
  rw [hrule.readStringBody_flatMap]
  · simp [Except.map]
  · rw [List.length_append]
    omega

theorem readValue_minus (fuel depth : Nat) (rest : List Char) :
    readValue a (fuel + 1) depth ('-' :: rest) = readNumber a true rest := by
  rw [readValue, skipBlanks_cons _ rfl]
  simp

theorem readValue_digit (fuel depth : Nat) {c : Char} (rest : List Char)
    (h : Number.isDigit c = true) :
    readValue a (fuel + 1) depth (c :: rest) = readNumber a false (c :: rest) := by
  have hne (d : Char) (hd : Number.isDigit d = false) : c ≠ d := by
    rintro rfl
    simp [hd] at h
  have hblank : isJsonBlank c = false := by
    simp [isJsonBlank, hne ' ' rfl, hne '\t' rfl, hne '\n' rfl, hne '\r' rfl]
  rw [readValue, skipBlanks_cons _ hblank]
  simp [hne '"' rfl, hne '\x7b' rfl, hne '[' rfl, hne 't' rfl, hne 'f' rfl, hne 'n' rfl,
    hne 'N' rfl, hne '-' rfl, h]

theorem readValue_array (fuel depth : Nat) {c : Char} (rest : List Char) (hc : isStart c = true) :
    readValue a (fuel + 1) depth ('[' :: c :: rest) =
      (readItems a fuel depth (c :: rest)).map fun p => (.array p.1, p.2) := by
  simp only [isStart, Bool.and_eq_true, Bool.not_eq_true', bne_iff_ne] at hc
  obtain ⟨⟨⟨hblank, hclose⟩, -⟩, -⟩ := hc
  rw [readValue, skipBlanks_cons _ rfl]
  simp only [skipBlanks_cons _ hblank]
  simp [hclose]

theorem readValue_array_nil (fuel depth : Nat) (rest : List Char) :
    readValue a (fuel + 1) depth ('[' :: ']' :: rest) = .ok (.array [], rest) := by
  rw [readValue, skipBlanks_cons _ rfl]
  simp only [skipBlanks_cons rest (c := ']') rfl]
  simp

theorem readValue_object_nil (fuel depth : Nat) (rest : List Char) :
    readValue a (fuel + 1) depth ('\x7b' :: '\x7d' :: rest) = .ok (.object [], rest) := by
  rw [readValue, skipBlanks_cons _ rfl]
  simp only [skipBlanks_cons rest (c := '\x7d') rfl]
  simp

theorem readValue_object (fuel depth : Nat) (rest : List Char) :
    readValue a (fuel + 1) depth ('\x7b' :: '"' :: rest) =
      (readMembers a fuel depth ('"' :: rest)).map fun p => (.object p.1, p.2) := by
  rw [readValue, skipBlanks_cons _ rfl]
  simp only [skipBlanks_cons rest (c := '"') rfl]
  simp

theorem readInner_start (fuel depth : Nat) {c : Char} (rest : List Char)
    (hc : isJsonBlank c = false) (n : Nat) :
    readInner a (fuel + 1) (depth + 1) (List.replicate n ' ' ++ c :: rest) =
      readValue a fuel depth (c :: rest) := by
  unfold readInner
  rw [skipBlanks_replicate, skipBlanks_cons _ hc]

theorem readItems_last (fuel depth : Nat) {s rest : List Char} {v : Json}
    (h : readInner a fuel depth s = .ok (v, ']' :: rest)) :
    readItems a (fuel + 1) depth s = .ok ([v], rest) := by
  rw [readItems, h]
  simp only [skipBlanks_cons rest (c := ']') rfl]

theorem readItems_more (fuel depth n : Nat) {s rest : List Char} {c : Char} {v : Json}
    (hc : isStart c = true)
    (h : readInner a fuel depth s = .ok (v, ',' :: (List.replicate n ' ' ++ c :: rest))) :
    readItems a (fuel + 1) depth s =
      (readItems a fuel depth (c :: rest)).map fun p => (v :: p.1, p.2) := by
  simp only [isStart, Bool.and_eq_true, Bool.not_eq_true', bne_iff_ne] at hc
  obtain ⟨⟨⟨hblank, hclose⟩, -⟩, -⟩ := hc
  rw [readItems, h]
  simp only [skipBlanks_cons (List.replicate n ' ' ++ c :: rest) (c := ',') rfl,
    skipBlanks_replicate, skipBlanks_cons rest hblank]
  simp [hclose]

theorem readKey_writeString (hrule : Transparent rule) (k : String) (rest : List Char) {fuel : Nat}
    (hfuel : ((writeString k.toList).flatMap rule).length ≤ fuel) :
    readKey a fuel ((writeString k.toList).flatMap rule ++ ':' :: rest) = .ok (k, rest) := by
  have hbody := hrule.length_le k.toList
  have htext := hrule.flatMap_writeString k.toList []
  rw [List.append_nil] at htext
  rw [htext, List.length_cons, List.length_append, List.length_singleton] at hfuel
  rw [hrule.flatMap_writeString, readKey, List.drop_succ_cons, List.drop_zero,
    hrule.readStringBody_flatMap a _ (by omega)]
  simp [bind, Except.bind, pure, Except.pure, skipBlanks_cons rest (c := ':') rfl]

theorem readMembers_last (fuel depth : Nat) {s afterKey rest : List Char} {k : String} {v : Json}
    (hk : readKey a (s.length + 1) s = .ok (k, afterKey))
    (h : readInner a fuel depth afterKey = .ok (v, '\x7d' :: rest)) :
    readMembers a (fuel + 1) depth s = .ok ([(k, v)], rest) := by
  rw [readMembers, hk]
  simp only [h, skipBlanks_cons rest (c := '\x7d') rfl]

theorem readMembers_more (fuel depth n : Nat) {s afterKey rest : List Char} {k : String} {v : Json}
    (hk : readKey a (s.length + 1) s = .ok (k, afterKey))
    (h : readInner a fuel depth afterKey =
      .ok (v, ',' :: (List.replicate n ' ' ++ '"' :: rest))) :
    readMembers a (fuel + 1) depth s =
      (readMembers a fuel depth ('"' :: rest)).map fun p => ((k, v) :: p.1, p.2) := by
  rw [readMembers, hk]
  simp only [h, skipBlanks_cons (List.replicate n ' ' ++ '"' :: rest) (c := ',') rfl,
    skipBlanks_replicate, skipBlanks_cons rest (c := '"') rfl]

end FormPress.Json
