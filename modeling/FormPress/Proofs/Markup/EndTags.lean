import FormPress.Proofs.Markup.Reader
import FormPress.Proofs.Text.Occurrences

/-!
# End tags

The end tags in the written form of markup. Markup is quiet when its names are plain and its raw
texts are calm; then no text and no value can look like an end tag, and the places at which an end
tag begins are those of the elements. The main statement is `occurrences_write`.
-/

namespace FormPress.Markup

open Text (Calm calmFrom lowerAscii occurrences endTagPattern)

/-! ## Names of end tags -/

mutual

/-- The names of the end tags of a piece of markup. Markup of the author counts as none. -/
def endNames : Markup → List String
  | .text _ | .entity _ | .raw _ | .void _ _ | .closed _ _ => []
  | .element name _ children => listEndNames children ++ [name]

/-- The names of the end tags of several pieces. -/
def listEndNames : List Markup → List String
  | [] => []
  | m :: rest => endNames m ++ listEndNames rest

end

theorem listEndNames_eq (ms : List Markup) : listEndNames ms = ms.flatMap endNames := by
  induction ms with
  | nil => rfl
  | cons m rest ih => simp [listEndNames, ih]

@[simp] theorem endNames_text (s : String) : endNames (.text s) = [] := rfl

@[simp] theorem endNames_entity (name : String) : endNames (.entity name) = [] := rfl

@[simp] theorem endNames_raw (s : String) : endNames (.raw s) = [] := rfl

@[simp] theorem endNames_void (name : String) (attributes : List Attribute) :
    endNames (.void name attributes) = [] := rfl

@[simp] theorem endNames_closed (name : String) (attributes : List Attribute) :
    endNames (.closed name attributes) = [] := rfl

@[simp] theorem endNames_element (name : String) (attributes : List Attribute)
    (children : List Markup) :
    endNames (.element name attributes children) = children.flatMap endNames ++ [name] := by
  rw [← listEndNames_eq]
  rfl

@[simp] theorem endNames_newline (indent : Nat) : endNames (newline indent) = [] := by
  simp [newline]

@[simp] theorem endNames_label (name : String) (attributes : List Attribute) (s : String) :
    endNames (label name attributes s) = [name] := by simp [label]

@[simp] theorem flatMap_endNames_onLines (indent : Nat) (ms : List Markup) :
    (onLines indent ms).flatMap endNames = ms.flatMap endNames := by
  induction ms with
  | nil => rfl
  | cons m rest ih => simpa [onLines] using ih

/-! ## Quiet markup -/

mutual

/-- All names are plain and all raw texts are calm. -/
def Quiet : Markup → Prop
  | .text _ => True
  | .entity name => name ∈ entityNames
  | .raw s => Calm s
  | .element name attributes children =>
    IsName name ∧ (∀ a ∈ attributes, IsName a.name) ∧ QuietList children
  | .void name attributes | .closed name attributes =>
    IsName name ∧ ∀ a ∈ attributes, IsName a.name

/-- All pieces of a list are quiet. -/
def QuietList : List Markup → Prop
  | [] => True
  | m :: rest => Quiet m ∧ QuietList rest

end

theorem quietList_iff {ms : List Markup} : QuietList ms ↔ ∀ m ∈ ms, Quiet m := by
  induction ms with
  | nil => simp [QuietList]
  | cons m rest ih => simp [QuietList, ih]

@[simp] theorem quiet_text (s : String) : Quiet (.text s) := trivial

@[simp] theorem quiet_raw {s : String} : Quiet (.raw s) ↔ Calm s := Iff.rfl

@[simp] theorem quiet_element {name : String} {attributes : List Attribute}
    {children : List Markup} :
    Quiet (.element name attributes children) ↔
      IsName name ∧ (∀ a ∈ attributes, IsName a.name) ∧ ∀ m ∈ children, Quiet m := by
  rw [← quietList_iff]
  rfl

@[simp] theorem quiet_void {name : String} {attributes : List Attribute} :
    Quiet (.void name attributes) ↔ IsName name ∧ ∀ a ∈ attributes, IsName a.name :=
  Iff.rfl

@[simp] theorem quiet_closed {name : String} {attributes : List Attribute} :
    Quiet (.closed name attributes) ↔ IsName name ∧ ∀ a ∈ attributes, IsName a.name :=
  Iff.rfl

@[simp] theorem quiet_newline (indent : Nat) : Quiet (newline indent) := by simp [newline]

@[simp] theorem quiet_label {name : String} {attributes : List Attribute} {s : String} :
    Quiet (label name attributes s) ↔ IsName name ∧ ∀ a ∈ attributes, IsName a.name := by
  simp [label]

@[simp] theorem quiet_onLines {indent : Nat} {ms : List Markup} :
    (∀ m ∈ onLines indent ms, Quiet m) ↔ ∀ m ∈ ms, Quiet m :=
  forall_mem_onLines (quiet_newline indent)

/-! ## Written forms -/

theorem notMem_attributeChars {a : Attribute} (h : IsName a.name) : '<' ∉ attributeChars a := by
  have hname : '<' ∉ a.name.toList := h.notMem (by decide)
  unfold attributeChars
  cases a.value with
  | none => simp [hname]
  | some v =>
    have hvalue : '<' ∉ v.toList.flatMap escapeChar := notMem_flatMap_escapeChar (.inl rfl) _
    simp only [List.mem_cons, List.mem_append, List.cons_append, List.not_mem_nil, not_or]
    exact ⟨by decide, hname, by decide, by decide, hvalue, by decide, not_false⟩

/-- A tag is calm up to its end, whatever the values of its attributes. -/
theorem calmFrom_tag {name : String} {attributes : List Attribute} {ending : List Char}
    (hname : IsName name) (hattributes : ∀ a ∈ attributes, IsName a.name)
    (hending : '<' ∉ ending) :
    calmFrom false ('<' :: name.toList ++ (attributes.flatMap attributeChars ++ ending)) =
      true := by
  have hnone : '<' ∉ name.toList ++ (attributes.flatMap attributeChars ++ ending) := by
    simp only [List.mem_append, List.mem_flatMap, not_or, not_exists, not_and]
    exact ⟨hname.notMem (by decide), fun a ha => notMem_attributeChars (hattributes a ha),
      hending⟩
  cases hcs : name.toList with
  | nil => exact absurd hcs hname.ne_nil
  | cons c cs =>
    have hc : c ≠ '/' := by
      have hchar : isNameChar c = true := hname.isNameChar_of_mem c (by simp [hcs])
      exact (isNameChar_ne hchar).2.2.2.2.1
    rw [hcs] at hnone
    exact Text.calmFrom_lt_cons hc hnone

theorem calm_startTag {name : String} {attributes : List Attribute} (hname : IsName name)
    (hattributes : ∀ a ∈ attributes, IsName a.name) : Calm (startTag name attributes) := by
  constructor
  rw [toList_startTag]
  exact calmFrom_tag hname hattributes (by decide)

theorem calm_closedTag {name : String} {attributes : List Attribute} (hname : IsName name)
    (hattributes : ∀ a ∈ attributes, IsName a.name) : Calm (closedTag name attributes) := by
  constructor
  rw [toList_closedTag]
  exact calmFrom_tag hname hattributes (by decide)

/-- A name begins with letters, in either case. -/
def closes (letters : List Char) (name : String) : Bool :=
  letters.isPrefixOf (name.toList.map lowerAscii)

theorem closes_ofList {letters cs : List Char} {b : Bool}
    (h : letters.isPrefixOf (cs.map lowerAscii) = b) : closes letters (String.ofList cs) = b := by
  rw [closes, String.toList_ofList, h]

/-- A pattern does not reach beyond a character that it does not hold. -/
theorem isPrefixOf_append_cons {letters : List Char} {c : Char} (hc : c ∉ letters)
    (left right : List Char) :
    letters.isPrefixOf (left ++ c :: right) = letters.isPrefixOf left := by
  induction left generalizing letters with
  | nil =>
    cases letters with
    | nil => rfl
    | cons d rest =>
      have hd : (d == c) = false := by
        rw [List.mem_cons, not_or] at hc
        exact beq_false_of_ne (Ne.symm hc.1)
      simp [List.isPrefixOf, hd]
  | cons e left ih =>
    cases letters with
    | nil => rfl
    | cons d rest =>
      rw [List.mem_cons, not_or] at hc
      rw [List.cons_append, List.isPrefixOf, List.isPrefixOf, ih hc.2]

variable {letters : List Char}

/-- An end tag counts when its name begins with the letters. -/
theorem occurrences_endTag (hletters : '>' ∉ letters) {name : String} (hname : IsName name)
    (t : List Char) :
    occurrences (endTagPattern letters) ((endTag name).toList ++ t) =
      (if closes letters name then 1 else 0) + occurrences (endTagPattern letters) t := by
  have hrest : '<' ∉ '/' :: name.toList ++ ['>'] := by
    simp only [List.cons_append, List.mem_cons, List.mem_append, List.not_mem_nil, or_false,
      not_or]
    exact ⟨by decide, hname.notMem (by decide), by decide⟩
  have htail : occurrences (endTagPattern letters) ('/' :: name.toList ++ ['>'] ++ t) =
      occurrences (endTagPattern letters) t :=
    Text.occurrences_append_of_calmFrom t (Text.calmFrom_of_notMem hrest)
  have hhead : (endTagPattern letters).isPrefixOf
      (('<' :: ('/' :: name.toList ++ ['>'] ++ t)).map lowerAscii) = closes letters name := by
    have hpattern := isPrefixOf_append_cons hletters (name.toList.map lowerAscii)
      (t.map lowerAscii)
    rw [closes, ← hpattern]
    simp [endTagPattern, List.isPrefixOf]
    rfl
  rw [toList_endTag]
  show occurrences _ ('<' :: ('/' :: name.toList ++ ['>'] ++ t)) = _
  rw [occurrences, hhead, htail]

-- The induction is on the tree, with any text behind it: a piece that holds no end tag is calm, and
-- a calm text adds no place, whatever follows it.
mutual

/-- **The places at which an end tag begins in quiet markup are those of its elements.** -/
theorem occurrences_write (hletters : '>' ∉ letters) {m : Markup} (h : Quiet m)
    (t : List Char) :
    occurrences (endTagPattern letters) ((write m).toList ++ t) =
      (endNames m).countP (closes letters) + occurrences (endTagPattern letters) t := by
  have hcalm : ∀ {s : String}, Calm s → endNames m = [] → s = write m →
      occurrences (endTagPattern letters) ((write m).toList ++ t) =
        (endNames m).countP (closes letters) + occurrences (endTagPattern letters) t := by
    intro s hs hnames heq
    rw [hnames, ← heq, hs.occurrences_append]
    simp
  cases m with
  | text s =>
    refine hcalm (Text.calm_of_notMem ?_) (endNames_text s) (write_text s).symm
    rw [toList_escape]
    exact notMem_flatMap_escapeChar (.inl rfl) _
  | entity name =>
    rw [Quiet] at h
    exact hcalm (Text.calm_of_notMem (notMem_write_entity h)) (endNames_entity name) rfl
  | raw s =>
    rw [quiet_raw] at h
    exact hcalm h (endNames_raw s) (by simp [write, writeAfter])
  | void name attributes =>
    rw [quiet_void] at h
    exact hcalm (calm_startTag h.1 h.2) (endNames_void name attributes) (write_void ..).symm
  | closed name attributes =>
    rw [quiet_closed] at h
    exact hcalm (calm_closedTag h.1 h.2) (endNames_closed name attributes)
      (by simp [write, writeAfter])
  | element name attributes children =>
    rw [Quiet] at h
    obtain ⟨hname, hattributes, hchildren⟩ := h
    rw [write_element, String.toList_append, String.toList_append, List.append_assoc,
      List.append_assoc, (calm_startTag hname hattributes).occurrences_append,
      occurrences_writeList hletters hchildren, occurrences_endTag hletters hname, endNames,
      List.countP_append, List.countP_singleton, Nat.add_assoc]

theorem occurrences_writeList (hletters : '>' ∉ letters) {ms : List Markup} (h : QuietList ms)
    (t : List Char) :
    occurrences (endTagPattern letters) ((writeList ms).toList ++ t) =
      (listEndNames ms).countP (closes letters) + occurrences (endTagPattern letters) t := by
  cases ms with
  | nil => simp [listEndNames]
  | cons m rest =>
    rw [writeList_cons, String.toList_append, List.append_assoc, occurrences_write hletters h.1,
      occurrences_writeList hletters h.2, listEndNames, List.countP_append, Nat.add_assoc]

end

end FormPress.Markup
