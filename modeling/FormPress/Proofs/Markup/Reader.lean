import FormPress.Number.Reading
import FormPress.Proofs.Markup.Names
import Mathlib.Tactic.SplitIfs

/-!
# Reading tags

A reader of written markup: it finds the start tags of a text, splits each into its name and its
attributes, and decodes the references in attribute values. It knows nothing of the tree that a text
was written from. The main statement is `readTags_write`: of sound markup it reads the tags of the
tree, so neither a text nor a value of a form can add a tag or an attribute, or change one.
-/

namespace FormPress

/-- A tag with one more attribute. -/
def Tag.add (t : Tag) (a : Attribute) : Tag :=
  { t with attributes := t.attributes ++ [a] }

namespace Markup

/-! ## Character references -/

/-- The character of a reference, which stands between `&` and `;`. -/
def referenced? : List Char → Option Char
  | ['a', 'm', 'p'] => some '&'
  | ['l', 't'] => some '<'
  | ['g', 't'] => some '>'
  | ['q', 'u', 'o', 't'] => some '"'
  | ['a', 'p', 'o', 's'] => some '\''
  | '#' :: digits =>
    if !digits.isEmpty && digits.all Number.isDigit then
      some (Char.ofNat (Number.digitsValue digits))
    else none
  | _ => none

/-- The characters after an `&` that is no reference so far, the last first. -/
abbrev OpenReference := Option (List Char)

/-- Decode the references of a text. What is no reference known here stays as it is. -/
def decodeFrom (seen : OpenReference) : List Char → List Char
  | [] => (seen.map fun cs => '&' :: cs.reverse).getD []
  | c :: rest =>
    match seen with
    | none => if c = '&' then decodeFrom (some []) rest else c :: decodeFrom none rest
    | some cs =>
      if c = '&' then '&' :: cs.reverse ++ decodeFrom (some []) rest
      else if c = ';' then
        match referenced? cs.reverse with
        | some d => d :: decodeFrom none rest
        | none => '&' :: cs.reverse ++ ';' :: decodeFrom none rest
      else decodeFrom (some (c :: cs)) rest

/-- A text with its references decoded. -/
def decode (s : List Char) : List Char :=
  decodeFrom none s

theorem decodeFrom_seen (cs name rest : List Char) (h : '&' ∉ name ∧ ';' ∉ name) :
    decodeFrom (some cs) (name ++ rest) = decodeFrom (some (name.reverse ++ cs)) rest := by
  induction name generalizing cs with
  | nil => rfl
  | cons c name ih =>
    obtain ⟨⟨hand, hands⟩, hend, hends⟩ : ('&' ≠ c ∧ '&' ∉ name) ∧ ';' ≠ c ∧ ';' ∉ name := by
      simpa using h
    rw [List.cons_append, decodeFrom]
    simp only [if_neg (Ne.symm hand), if_neg (Ne.symm hend)]
    rw [ih (c :: cs) ⟨hands, hends⟩]
    simp

/-- A reference is decoded to its character. -/
theorem decodeFrom_reference (name rest : List Char) {c : Char} (h : referenced? name = some c)
    (hname : '&' ∉ name ∧ ';' ∉ name) :
    decodeFrom none ('&' :: name ++ ';' :: rest) = c :: decodeFrom none rest := by
  rw [List.cons_append, decodeFrom]
  simp only [if_true]
  rw [decodeFrom_seen [] name _ hname, decodeFrom]
  simp [h]

theorem decodeFrom_escapeChar (c : Char) (rest : List Char) :
    decodeFrom none (escapeChar c ++ rest) = c :: decodeFrom none rest := by
  unfold escapeChar
  split_ifs with hand hlt hgt hquote hdouble
  · subst hand
    exact decodeFrom_reference ['a', 'm', 'p'] rest rfl (by simp)
  · subst hlt
    exact decodeFrom_reference ['l', 't'] rest rfl (by simp)
  · subst hgt
    exact decodeFrom_reference ['g', 't'] rest rfl (by simp)
  · subst hquote
    exact decodeFrom_reference ['#', '3', '9'] rest rfl (by simp)
  · subst hdouble
    exact decodeFrom_reference ['#', '3', '4'] rest rfl (by simp)
  · simp [decodeFrom, hand]

/-- Decoding undoes escaping. -/
theorem decode_flatMap_escapeChar (s : List Char) : decode (s.flatMap escapeChar) = s := by
  induction s with
  | nil => rfl
  | cons c rest ih =>
    rw [List.flatMap_cons, decode, decodeFrom_escapeChar]
    exact congrArg (c :: ·) ih

/-- An escaped text holds no character that could end a value or a tag. -/
theorem notMem_flatMap_escapeChar {c : Char} (hc : c = '<' ∨ c = '>' ∨ c = '"' ∨ c = '\'')
    (s : List Char) : c ∉ s.flatMap escapeChar := by
  rw [List.mem_flatMap]
  rintro ⟨d, -, hd⟩
  unfold escapeChar at hd
  split_ifs at hd with hand hlt hgt hquote hdouble
  · rcases hc with rfl | rfl | rfl | rfl <;> simp at hd
  · rcases hc with rfl | rfl | rfl | rfl <;> simp at hd
  · rcases hc with rfl | rfl | rfl | rfl <;> simp at hd
  · rcases hc with rfl | rfl | rfl | rfl <;> simp at hd
  · rcases hc with rfl | rfl | rfl | rfl <;> simp at hd
  · rw [List.mem_singleton] at hd
    subst hd
    rcases hc with rfl | rfl | rfl | rfl <;> contradiction

/-! ## The reader -/

/-- Where the reader stands; texts read in part are kept with the last character first. -/
inductive Spot where
  /-- Outside of tags. -/
  | content
  /-- At the first character of a tag. -/
  | opened
  /-- In a tag that is no start tag. -/
  | skipped
  /-- In the name of a tag. -/
  | name (seen : List Char)
  /-- Between the attributes of a tag. -/
  | between (tag : Tag)
  /-- In the name of an attribute, or after it up to a quotation mark. -/
  | attribute (tag : Tag) (seen : List Char)
  /-- In the value of an attribute. -/
  | value (tag : Tag) (name : String) (seen : List Char)

/-- The start tags of a text from a spot on. -/
def readFrom (spot : Spot) : List Char → List Tag
  | [] => []
  | c :: rest =>
    match spot with
    | .content => readFrom (if c = '<' then .opened else .content) rest
    | .opened => readFrom (if c = '/' ∨ c = '!' then .skipped else .name [c]) rest
    | .skipped => readFrom (if c = '>' then .content else .skipped) rest
    | .name seen =>
      let tag : Tag := ⟨String.ofList seen.reverse, []⟩
      if c = '>' then tag :: readFrom .content rest
      else readFrom (if c = ' ' then .between tag else .name (c :: seen)) rest
    | .between tag =>
      if c = '>' then tag :: readFrom .content rest
      else readFrom (if c = ' ' then .between tag else .attribute tag [c]) rest
    | .attribute tag seen =>
      let bareTag := tag.add ⟨String.ofList seen.reverse, none⟩
      if c = '>' then bareTag :: readFrom .content rest
      else if c = ' ' then readFrom (.between bareTag) rest
      else if c = '"' then
        readFrom (.value tag (String.ofList (seen.dropWhile (· = '=')).reverse) []) rest
      else readFrom (.attribute tag (c :: seen)) rest
    | .value tag name seen =>
      if c = '"' then
        readFrom (.between (tag.add ⟨name, some (String.ofList (decode seen.reverse))⟩)) rest
      else readFrom (.value tag name (c :: seen)) rest

section Steps

variable (t : Tag) (name : String) (seen : List Char) (c : Char) (rest : List Char)

theorem readFrom_nil (spot : Spot) : readFrom spot [] = [] := rfl

theorem readFrom_cons_content :
    readFrom .content (c :: rest) = readFrom (if c = '<' then .opened else .content) rest := rfl

theorem readFrom_cons_opened :
    readFrom .opened (c :: rest) =
      readFrom (if c = '/' ∨ c = '!' then .skipped else .name [c]) rest := rfl

theorem readFrom_cons_skipped :
    readFrom .skipped (c :: rest) = readFrom (if c = '>' then .content else .skipped) rest := rfl

theorem readFrom_cons_name :
    readFrom (.name seen) (c :: rest) =
      if c = '>' then ⟨String.ofList seen.reverse, []⟩ :: readFrom .content rest
      else readFrom
        (if c = ' ' then .between ⟨String.ofList seen.reverse, []⟩ else .name (c :: seen)) rest :=
  rfl

theorem readFrom_cons_between :
    readFrom (.between t) (c :: rest) =
      if c = '>' then t :: readFrom .content rest
      else readFrom (if c = ' ' then .between t else .attribute t [c]) rest := rfl

theorem readFrom_cons_attribute :
    readFrom (.attribute t seen) (c :: rest) =
      if c = '>' then t.add ⟨String.ofList seen.reverse, none⟩ :: readFrom .content rest
      else if c = ' ' then
        readFrom (.between (t.add ⟨String.ofList seen.reverse, none⟩)) rest
      else if c = '"' then
        readFrom (.value t (String.ofList (seen.dropWhile (· = '=')).reverse) []) rest
      else readFrom (.attribute t (c :: seen)) rest := rfl

theorem readFrom_cons_value :
    readFrom (.value t name seen) (c :: rest) =
      if c = '"' then
        readFrom (.between (t.add ⟨name, some (String.ofList (decode seen.reverse))⟩)) rest
      else readFrom (.value t name (c :: seen)) rest := rfl

end Steps

/-- The start tags of a text. -/
def readTags (s : String) : List Tag :=
  readFrom .content s.toList

/-! ## Reading what was written -/

/-- At the spot a tag may end or go on with an attribute; so far it is the tag `t`. -/
def Spot.Holds (spot : Spot) (t : Tag) : Prop :=
  ∀ rest, readFrom spot ('>' :: rest) = t :: readFrom .content rest ∧
    readFrom spot (' ' :: rest) = readFrom (.between t) rest

theorem holds_name (seen : List Char) :
    (Spot.name seen).Holds ⟨String.ofList seen.reverse, []⟩ := by
  intro rest
  simp [readFrom_cons_name]

theorem holds_between (t : Tag) : (Spot.between t).Holds t := by
  intro rest
  simp [readFrom_cons_between]

theorem holds_attribute (t : Tag) (seen : List Char) :
    (Spot.attribute t seen).Holds (t.add ⟨String.ofList seen.reverse, none⟩) := by
  intro rest
  simp [readFrom_cons_attribute]

theorem isNameChar_ne {c : Char} (h : isNameChar c = true) :
    c ≠ '>' ∧ c ≠ ' ' ∧ c ≠ '"' ∧ c ≠ '=' ∧ c ≠ '/' ∧ c ≠ '!' := by
  refine ⟨?_, ?_, ?_, ?_, ?_, ?_⟩
  all_goals
    rintro rfl
    revert h
    decide

theorem readFrom_name (seen cs rest : List Char) (h : ∀ c ∈ cs, isNameChar c = true) :
    readFrom (.name seen) (cs ++ rest) = readFrom (.name (cs.reverse ++ seen)) rest := by
  induction cs generalizing seen with
  | nil => rfl
  | cons c cs ih =>
    obtain ⟨hend, hblank, -⟩ := isNameChar_ne (h c (by simp))
    rw [List.cons_append, readFrom_cons_name]
    simp only [if_neg hend, if_neg hblank]
    rw [ih (c :: seen) fun d hd => h d (by simp [hd])]
    simp

theorem readFrom_attribute (t : Tag) (seen cs rest : List Char)
    (h : ∀ c ∈ cs, isNameChar c = true) :
    readFrom (.attribute t seen) (cs ++ rest) =
      readFrom (.attribute t (cs.reverse ++ seen)) rest := by
  induction cs generalizing seen with
  | nil => rfl
  | cons c cs ih =>
    obtain ⟨hend, hblank, hquote, -⟩ := isNameChar_ne (h c (by simp))
    rw [List.cons_append, readFrom_cons_attribute]
    simp only [if_neg hend, if_neg hblank, if_neg hquote]
    rw [ih (c :: seen) fun d hd => h d (by simp [hd])]
    simp

theorem readFrom_value (t : Tag) (name : String) (seen cs rest : List Char) (h : '"' ∉ cs) :
    readFrom (.value t name seen) (cs ++ rest) =
      readFrom (.value t name (cs.reverse ++ seen)) rest := by
  induction cs generalizing seen with
  | nil => rfl
  | cons c cs ih =>
    obtain ⟨hc, hcs⟩ : '"' ≠ c ∧ '"' ∉ cs := by simpa using h
    rw [List.cons_append, readFrom_cons_value]
    simp only [if_neg (Ne.symm hc)]
    rw [ih (c :: seen) hcs]
    simp

/-- The name of an attribute, read from the place between attributes on. -/
theorem readFrom_between_name (t : Tag) {name : String} (h : IsName name) (rest : List Char) :
    readFrom (.between t) (name.toList ++ rest) =
      readFrom (.attribute t name.toList.reverse) rest := by
  obtain ⟨hne, hall⟩ := h
  cases hs : name.toList with
  | nil => exact absurd hs hne
  | cons c cs =>
    rw [hs] at hall
    obtain ⟨hend, hblank, -⟩ := isNameChar_ne (hall c (by simp))
    rw [List.cons_append, readFrom_cons_between]
    simp only [if_neg hend, if_neg hblank]
    rw [readFrom_attribute t [c] cs rest fun d hd => hall d (by simp [hd])]
    simp

theorem dropWhile_eq_reverse {name : String} (h : IsName name) :
    (name.toList.reverse).dropWhile (· = '=') = name.toList.reverse := by
  cases hs : name.toList.reverse with
  | nil => rfl
  | cons c cs =>
    have hmem : c ∈ name.toList := List.mem_reverse.1 (by simp [hs])
    have hc : c ≠ '=' := (isNameChar_ne (h.isNameChar_of_mem c hmem)).2.2.2.1
    exact List.dropWhile_cons_of_neg (by simpa using hc)

/-- After an attribute with a value the reader stands behind its quotation mark. -/
theorem readFrom_valued {spot : Spot} {t : Tag} (hspot : spot.Holds t) {name : String}
    (hname : IsName name) (v : String) (rest : List Char) :
    readFrom spot (attributeChars ⟨name, some v⟩ ++ rest) =
      readFrom (.between (t.add ⟨name, some v⟩)) rest := by
  have hquote : '"' ∉ v.toList.flatMap escapeChar := notMem_flatMap_escapeChar (by simp) _
  rw [attributeChars]
  simp only [List.append_assoc, List.cons_append]
  rw [(hspot _).2, readFrom_between_name t hname]
  simp only [readFrom_cons_attribute, Char.reduceEq, if_false, if_true]
  rw [List.dropWhile_cons_of_pos (by simp), dropWhile_eq_reverse hname,
    readFrom_value t _ [] _ _ hquote]
  simp [readFrom_cons_value, decode_flatMap_escapeChar]

/-- One attribute is read as it was written. -/
theorem readFrom_attributeChars {spot : Spot} {t : Tag} (hspot : spot.Holds t) {a : Attribute}
    (ha : IsName a.name) :
    ∃ next : Spot, next.Holds (t.add a) ∧
      ∀ rest, readFrom spot (attributeChars a ++ rest) = readFrom next rest := by
  obtain ⟨name, value⟩ := a
  cases value with
  | none =>
    refine ⟨.attribute t name.toList.reverse, ?_, fun rest => ?_⟩
    · simpa using holds_attribute t name.toList.reverse
    · rw [attributeChars, List.cons_append, (hspot _).2, readFrom_between_name t ha]
  | some v =>
    exact ⟨.between (t.add ⟨name, some v⟩), holds_between _, readFrom_valued hspot ha v⟩

theorem readFrom_attributes (attributes : List Attribute) (h : ∀ a ∈ attributes, IsName a.name) :
    ∀ {spot : Spot} {t : Tag}, spot.Holds t → ∀ rest,
      readFrom spot (attributes.flatMap attributeChars ++ '>' :: rest) =
        ⟨t.name, t.attributes ++ attributes⟩ :: readFrom .content rest := by
  induction attributes with
  | nil =>
    intro spot t hspot rest
    simp [(hspot rest).1]
  | cons a others ih =>
    intro spot t hspot rest
    obtain ⟨next, hnext, hread⟩ := readFrom_attributeChars hspot (h a (by simp))
    rw [List.flatMap_cons, List.append_assoc, hread,
      ih (fun b hb => h b (by simp [hb])) hnext rest]
    simp [Tag.add]

/-- The reader takes up the name of a tag. -/
theorem readFrom_tagName {name : String} (hname : IsName name) (rest : List Char) :
    readFrom .content ('<' :: name.toList ++ rest) = readFrom (.name name.toList.reverse) rest := by
  obtain ⟨hne, hall⟩ := hname
  cases hs : name.toList with
  | nil => exact absurd hs hne
  | cons c cs =>
    rw [hs] at hall
    obtain ⟨-, -, -, -, hslash, hmark⟩ := isNameChar_ne (hall c (by simp))
    have hopen : ¬(c = '/' ∨ c = '!') := by simp [hslash, hmark]
    simp only [List.cons_append, readFrom_cons_content, readFrom_cons_opened, if_true,
      if_neg hopen]
    rw [readFrom_name [c] cs _ fun d hd => hall d (by simp [hd])]
    simp

/-- A start tag is read as it was written. -/
theorem readFrom_startTag {name : String} {attributes : List Attribute} (hname : IsName name)
    (hattributes : ∀ a ∈ attributes, IsName a.name) (rest : List Char) :
    readFrom .content ((startTag name attributes).toList ++ rest) =
      ⟨name, attributes⟩ :: readFrom .content rest := by
  have hread := readFrom_attributes attributes hattributes (holds_name name.toList.reverse) rest
  rw [toList_startTag, List.append_assoc, List.append_assoc, readFrom_tagName hname]
  simpa using hread

theorem readFrom_skipped (cs rest : List Char) (h : '>' ∉ cs) :
    readFrom .skipped (cs ++ rest) = readFrom .skipped rest := by
  induction cs with
  | nil => rfl
  | cons c cs ih =>
    obtain ⟨hc, hcs⟩ : '>' ≠ c ∧ '>' ∉ cs := by simpa using h
    rw [List.cons_append, readFrom_cons_skipped]
    simp only [if_neg (Ne.symm hc)]
    exact ih hcs

/-- An end tag adds no start tag. -/
theorem readFrom_endTag {name : String} (h : IsName name) (rest : List Char) :
    readFrom .content ((endTag name).toList ++ rest) = readFrom .content rest := by
  have hend : '>' ∉ name.toList := h.notMem (by decide)
  rw [toList_endTag]
  simp only [List.cons_append, List.append_assoc, readFrom_cons_content, readFrom_cons_opened,
    if_true, true_or]
  rw [readFrom_skipped _ _ hend]
  simp [readFrom_cons_skipped]

/-- A text without `<` adds no start tag. -/
theorem readFrom_content (cs rest : List Char) (h : '<' ∉ cs) :
    readFrom .content (cs ++ rest) = readFrom .content rest := by
  induction cs with
  | nil => rfl
  | cons c cs ih =>
    obtain ⟨hc, hcs⟩ : '<' ≠ c ∧ '<' ∉ cs := by simpa using h
    rw [List.cons_append, readFrom_cons_content]
    simp only [if_neg (Ne.symm hc)]
    exact ih hcs

theorem notMem_write_entity {name : String} (h : name ∈ entityNames) :
    '<' ∉ (write (.entity name)).toList := by
  simp only [entityNames, List.mem_cons, List.not_mem_nil, or_false] at h
  rw [write_entity]
  rcases h with rfl | rfl | rfl | rfl
  all_goals simp

-- Written markup leaves the reader in content, where it found it; so the induction on the tree goes
-- through with any text behind it.
mutual

theorem readFrom_write {m : Markup} (h : Sound (fun a => IsName a.name) m) (rest : List Char) :
    readFrom .content ((write m).toList ++ rest) = tags m ++ readFrom .content rest := by
  cases m with
  | text s =>
    rw [write_text, toList_escape,
      readFrom_content _ _ (notMem_flatMap_escapeChar (.inl rfl) _)]
    simp
  | entity name =>
    rw [sound_entity] at h
    rw [readFrom_content _ _ (notMem_write_entity h)]
    simp
  | raw s => simp at h
  | closed name attributes => simp at h
  | void name attributes =>
    rw [sound_void] at h
    rw [write_void, readFrom_startTag (isName_of_mem_voidNames _ h.1) h.2]
    simp
  | element name attributes children =>
    rw [Sound] at h
    have hname := isName_of_mem_elementNames _ h.1
    rw [write_element, String.toList_append, String.toList_append, List.append_assoc,
      List.append_assoc, readFrom_startTag hname h.2.1, readFrom_writeList h.2.2,
      readFrom_endTag hname, tags, List.cons_append]

theorem readFrom_writeList {ms : List Markup} (h : SoundList (fun a => IsName a.name) ms)
    (rest : List Char) :
    readFrom .content ((writeList ms).toList ++ rest) = listTags ms ++ readFrom .content rest := by
  cases ms with
  | nil => simp [listTags]
  | cons m others =>
    rw [writeList_cons, String.toList_append, List.append_assoc, readFrom_write h.1,
      readFrom_writeList h.2, listTags, List.append_assoc]

end

/-- Whatever stands in an element, its start tag is read first. -/
theorem exists_readTags_element {name : String} {attributes : List Attribute} (hname : IsName name)
    (hattributes : ∀ a ∈ attributes, IsName a.name) (children : List Markup) :
    ∃ inner,
      readTags (write (.element name attributes children)) = ⟨name, attributes⟩ :: inner := by
  rw [readTags, write_element, String.toList_append, String.toList_append, List.append_assoc,
    readFrom_startTag hname hattributes]
  exact ⟨_, rfl⟩

/-- **A reader finds in written markup the tags of the tree, and no others.** -/
theorem readTags_write {m : Markup} (h : Sound (fun a => IsName a.name) m) :
    readTags (write m) = tags m := by
  have hread := readFrom_write h []
  simpa [readTags, readFrom_nil] using hread

end Markup

end FormPress
