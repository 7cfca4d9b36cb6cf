import FormPress.Proofs.Markup.Names
import Mathlib.Tactic.SplitIfs

/-!
# The grammar of markup

What well-formed markup is, said of texts and not of trees. In a text and in a value no character
stands that gives markup its shape, and each `&` begins a reference; an attribute is bare or has a
value between double quotation marks; an element is a single tag without content, or content between
two tags of one name. The main statement is `isElement_write`: sound markup is written as a text of
this grammar, whatever texts and values it holds.
-/

namespace FormPress.Markup

/-! ## Texts -/

/-- A character that gives markup its shape. -/
def isShapeChar (c : Char) : Bool :=
  c == '<' || c == '>' || c == '"' || c == '\'' || c == '&'

/-- What may stand between `&` and `;`: a word, or `#` and a number. -/
def IsReferenceName (cs : List Char) : Prop :=
  (cs ≠ [] ∧ ∀ c ∈ cs, c.isAlphanum = true) ∨
    ∃ digits, cs = '#' :: digits ∧ digits ≠ [] ∧ ∀ c ∈ digits, c.isDigit = true

/-- A text in content or in a value. -/
inductive IsText : List Char → Prop where
  | nil : IsText []
  | char {c : Char} {rest : List Char} :
    isShapeChar c = false → IsText rest → IsText (c :: rest)
  | reference {name rest : List Char} :
    IsReferenceName name → IsText rest → IsText ('&' :: name ++ ';' :: rest)

theorem IsText.append {left right : List Char} (hleft : IsText left) (hright : IsText right) :
    IsText (left ++ right) := by
  induction hleft with
  | nil => exact hright
  | char hc _ ih => exact .char hc ih
  | reference hname _ ih =>
    rw [List.append_assoc, List.cons_append]
    exact .reference hname ih

theorem isReferenceName_word {cs : List Char}
    (h : (!cs.isEmpty && cs.all Char.isAlphanum) = true) : IsReferenceName cs := by
  rw [Bool.and_eq_true, List.all_eq_true] at h
  exact .inl ⟨by simpa using h.1, h.2⟩

theorem isReferenceName_number {digits : List Char}
    (h : (!digits.isEmpty && digits.all Char.isDigit) = true) :
    IsReferenceName ('#' :: digits) := by
  rw [Bool.and_eq_true, List.all_eq_true] at h
  exact .inr ⟨digits, rfl, by simpa using h.1, h.2⟩

/-- A single reference. -/
theorem isText_reference (name : List Char) (h : IsReferenceName name) :
    IsText ('&' :: name ++ [';']) :=
  .reference h .nil

theorem isText_escapeChar (c : Char) : IsText (escapeChar c) := by
  unfold escapeChar
  split_ifs with hand hlt hgt hquote hdouble
  · exact isText_reference ['a', 'm', 'p'] (isReferenceName_word rfl)
  · exact isText_reference ['l', 't'] (isReferenceName_word rfl)
  · exact isText_reference ['g', 't'] (isReferenceName_word rfl)
  · exact isText_reference ['#', '3', '9'] (isReferenceName_number rfl)
  · exact isText_reference ['#', '3', '4'] (isReferenceName_number rfl)
  · exact .char (by simp [isShapeChar, hand, hlt, hgt, hquote, hdouble]) .nil

/-- An escaped text is a text, whatever its characters. -/
theorem isText_flatMap_escapeChar (s : List Char) : IsText (s.flatMap escapeChar) := by
  induction s with
  | nil => exact .nil
  | cons c rest ih => exact (isText_escapeChar c).append ih

theorem isText_write_entity {name : String} (h : name ∈ entityNames) :
    IsText (write (.entity name)).toList := by
  have hreference : IsReferenceName name.toList := by
    simp only [entityNames, List.mem_cons, List.not_mem_nil, or_false] at h
    rcases h with rfl | rfl | rfl | rfl
    · exact isReferenceName_word rfl
    · exact isReferenceName_word rfl
    · exact isReferenceName_word rfl
    · exact isReferenceName_number rfl
  simpa using isText_reference name.toList hreference

/-! ## Elements -/

/-- The attributes of a tag. -/
inductive IsAttributes : List Char → Prop where
  | nil : IsAttributes []
  | bare {name : String} {rest : List Char} :
    IsName name → IsAttributes rest → IsAttributes (' ' :: name.toList ++ rest)
  | quoted {name : String} {value rest : List Char} :
    IsName name → IsText value → IsAttributes rest →
      IsAttributes (' ' :: name.toList ++ ('=' :: '"' :: value ++ '"' :: rest))

mutual

/-- A single element. -/
inductive IsElement : List Char → Prop where
  | void {name : String} {attributes : List Char} :
    name ∈ voidNames → IsAttributes attributes →
      IsElement ('<' :: name.toList ++ (attributes ++ ['>']))
  | paired {name : String} {attributes content : List Char} :
    IsName name → name ∉ voidNames → IsAttributes attributes → IsContent content →
      IsElement ('<' :: name.toList ++ (attributes ++ '>' :: content ++
        ('<' :: '/' :: name.toList ++ ['>'])))

/-- Texts and elements one after another. -/
inductive IsContent : List Char → Prop where
  | nil : IsContent []
  | text {s rest : List Char} : IsText s → IsContent rest → IsContent (s ++ rest)
  | element {e rest : List Char} : IsElement e → IsContent rest → IsContent (e ++ rest)

end

theorem isAttributes_flatMap {attributes : List Attribute}
    (h : ∀ a ∈ attributes, IsName a.name) : IsAttributes (attributes.flatMap attributeChars) := by
  induction attributes with
  | nil => exact .nil
  | cons a rest ih =>
    have hrest := ih fun b hb => h b (by simp [hb])
    have hname := h a (by simp)
    obtain ⟨name, value⟩ := a
    cases value with
    | none => simpa [attributeChars] using IsAttributes.bare hname hrest
    | some v =>
      simpa [attributeChars] using
        IsAttributes.quoted hname (isText_flatMap_escapeChar v.toList) hrest

theorem isElement_write_void {name : String} {attributes : List Attribute}
    (hname : name ∈ voidNames) (hattributes : ∀ a ∈ attributes, IsName a.name) :
    IsElement (write (.void name attributes)).toList := by
  rw [write_void, toList_startTag]
  exact .void hname (isAttributes_flatMap hattributes)

theorem isElement_write_element {name : String} {attributes : List Attribute}
    {children : List Markup} (hname : name ∈ elementNames)
    (hattributes : ∀ a ∈ attributes, IsName a.name)
    (hchildren : IsContent (writeList children).toList) :
    IsElement (write (.element name attributes children)).toList := by
  have helement := IsElement.paired (isName_of_mem_elementNames _ hname)
    (notMem_voidNames_of_mem_elementNames _ hname) (isAttributes_flatMap hattributes) hchildren
  rw [write_element, String.toList_append, String.toList_append, toList_startTag, toList_endTag]
  simpa using helement

-- Content is stated with what follows, because a list of pieces is no single piece of the grammar.
mutual

theorem isContent_write_append {m : Markup} (h : Sound (fun a => IsName a.name) m)
    {rest : List Char} (hrest : IsContent rest) : IsContent ((write m).toList ++ rest) := by
  cases m with
  | text s =>
    rw [write_text, toList_escape]
    exact .text (isText_flatMap_escapeChar _) hrest
  | entity name =>
    rw [sound_entity] at h
    exact .text (isText_write_entity h) hrest
  | raw s => simp at h
  | closed name attributes => simp at h
  | void name attributes =>
    rw [sound_void] at h
    exact .element (isElement_write_void h.1 h.2) hrest
  | element name attributes children =>
    rw [Sound] at h
    have hchildren := isContent_writeList_append h.2.2 .nil
    rw [List.append_nil] at hchildren
    exact .element (isElement_write_element h.1 h.2.1 hchildren) hrest

theorem isContent_writeList_append {ms : List Markup}
    (h : SoundList (fun a => IsName a.name) ms) {rest : List Char} (hrest : IsContent rest) :
    IsContent ((writeList ms).toList ++ rest) := by
  cases ms with
  | nil => simpa using hrest
  | cons m others =>
    rw [writeList_cons, String.toList_append, List.append_assoc]
    exact isContent_write_append h.1 (isContent_writeList_append h.2 hrest)

end

/-- An element and no text. -/
def isElement : Markup → Bool
  | .element _ _ _ | .void _ _ | .closed _ _ => true
  | .text _ | .entity _ | .raw _ => false

/-- **A sound element is written as a single well-formed element.** -/
theorem isElement_write {m : Markup} (h : Sound (fun a => IsName a.name) m)
    (hroot : m.isElement = true) : IsElement (write m).toList := by
  cases m with
  | text s => simp [isElement] at hroot
  | entity name => simp [isElement] at hroot
  | raw s => simp at h
  | closed name attributes => simp at h
  | void name attributes =>
    rw [sound_void] at h
    exact isElement_write_void h.1 h.2
  | element name attributes children =>
    rw [Sound] at h
    have hchildren := isContent_writeList_append h.2.2 .nil
    rw [List.append_nil] at hchildren
    exact isElement_write_element h.1 h.2.1 hchildren

end FormPress.Markup
