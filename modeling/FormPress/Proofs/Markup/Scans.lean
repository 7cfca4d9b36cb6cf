import FormPress.Proofs.Markup.Built

/-!
# Reading and counting written markup

Three scans: what a reader finds in the tags of a text, how often a text says that an attribute has
a value, and at how many places the tag of an element begins that the markup does not have. For each
of them the result on written markup is said on the tags of the tree.
-/

namespace FormPress.Markup

open Text (places Inert Barred)

/-! ## Reading -/

/-- Attributes with values are read, and the reader stands behind the last quotation mark. -/
theorem readFrom_valuedAttributes {attributes : List Attribute} (hne : attributes ≠ [])
    (hname : ∀ a ∈ attributes, IsName a.name) (hvalued : ∀ a ∈ attributes, a.value ≠ none)
    {spot : Spot} {t : Tag} (hspot : spot.Holds t) (rest : List Char) :
    readFrom spot (attributes.flatMap attributeChars ++ rest) =
      readFrom (.between ⟨t.name, t.attributes ++ attributes⟩) rest := by
  induction attributes generalizing spot t with
  | nil => contradiction
  | cons a others ih =>
    rw [List.forall_mem_cons] at hname hvalued
    obtain ⟨name, value⟩ := a
    obtain ⟨v, rfl⟩ := Option.ne_none_iff_exists'.1 hvalued.1
    rw [List.flatMap_cons, List.append_assoc, readFrom_valued hspot hname.1 v]
    by_cases hothers : others = []
    · subst hothers
      rfl
    · rw [ih hothers hname.2 hvalued.2 (holds_between _)]
      simp [Tag.add]

/-- A tag that closes its element is read with the slash as a last attribute. -/
theorem readFrom_closedTag {name : String} {attributes : List Attribute} (hname : IsName name)
    (hattributes : ∀ a ∈ attributes, IsName a.name) (hne : attributes ≠ [])
    (hvalued : ∀ a ∈ attributes, a.value ≠ none) (rest : List Char) :
    readFrom .content ((closedTag name attributes).toList ++ rest) =
      ⟨name, attributes ++ [bare "/"]⟩ :: readFrom .content rest := by
  have hread := readFrom_valuedAttributes hne hattributes hvalued
    (holds_name name.toList.reverse) ('/' :: '>' :: rest)
  rw [toList_closedTag, List.append_assoc, List.append_assoc, readFrom_tagName hname]
  simpa [readFrom_cons_between, readFrom_cons_attribute, Tag.add, bare] using hread

/-- **What a reader finds in the tags of a text is a scan**, unless it heeds the slash of a closed
element. -/
theorem scan_readFrom {β : Type} {f : Tag → List β}
    (hslash : ∀ t : Tag, f (t.add (bare "/")) = f t) :
    Scan IsName (fun a => IsName a.name) (fun s => (readFrom .content s).flatMap f)
      (fun t found => f t ++ found) fun _ => True where
  content := fun hopen _ _ => ⟨trivial, by rw [readFrom_content _ _ hopen]⟩
  startTag := fun hname hattributes _ =>
    ⟨trivial, by rw [readFrom_startTag hname hattributes, List.flatMap_cons]⟩
  closedTag := fun {name attributes _} hname hattributes hne hvalued _ =>
    ⟨trivial, by
      rw [readFrom_closedTag hname hattributes hne hvalued, List.flatMap_cons,
        ← hslash ⟨name, attributes⟩]
      rfl⟩
  endTag := fun hname _ => ⟨trivial, by rw [readFrom_endTag hname]⟩

/-! ## Counting -/

/-- The text that says that an attribute has a value. -/
def marker (name value : String) : List Char :=
  name.toList ++ '=' :: '"' :: value.toList ++ ['"']

/-- The letters of a marker up to its first quotation mark. -/
def markerHead (name : String) : List Char :=
  name.toList ++ ['=']

theorem marker_eq (name value : String) :
    marker name value = markerHead name ++ '"' :: (value.toList ++ ['"']) := by
  simp [marker, markerHead]

theorem flatMap_escapeChar_of_isName {value : String} (h : IsName value) :
    value.toList.flatMap escapeChar = value.toList := by
  have hself : ∀ c ∈ value.toList, escapeChar c = [c] := by
    intro c hc
    have hchar : isNameChar c = true := h.isNameChar_of_mem c hc
    have hne : c ≠ '&' ∧ c ≠ '<' ∧ c ≠ '>' ∧ c ≠ '\'' ∧ c ≠ '"' := by
      refine ⟨?_, ?_, ?_, ?_, ?_⟩
      all_goals
        rintro rfl
        revert hchar
        decide
    simp [escapeChar, hne]
  calc value.toList.flatMap escapeChar
      = (value.toList.map escapeChar).flatten := List.flatMap_def
    _ = (value.toList.map fun c => [c]).flatten := by rw [List.map_congr_left hself]
    _ = value.toList := by rw [← List.flatMap_def, List.flatMap_singleton']

/-- Values that are written alike are equal. -/
theorem eq_of_flatMap_escapeChar {s t : String}
    (h : s.toList.flatMap escapeChar = t.toList.flatMap escapeChar) : s = t := by
  have hdecode := congrArg decode h
  rw [decode_flatMap_escapeChar, decode_flatMap_escapeChar] at hdecode
  exact String.toList_inj.1 hdecode

variable {name value : String}

/-- The name of a marker does not stand at the end of another name. -/
def EndsApart (name : String) (a : Attribute) : Prop :=
  name.toList <:+ a.name.toList → a.name = name

theorem notMem_markerHead (hname : IsName name) {c : Char} (hc : isNameChar c = false)
    (heq : c ≠ '=') : c ∉ markerHead name := by
  rw [markerHead, List.mem_append, List.mem_singleton, not_or]
  exact ⟨hname.notMem hc, heq⟩

/-- The head of a marker stands at the end of a written name when that is its own. -/
theorem markerHead_suffix_iff (hname : IsName name) {a : Attribute} (hends : EndsApart name a) :
    markerHead name <:+ ' ' :: a.name.toList ++ ['='] ↔ a.name = name := by
  have hblank : ' ' ∉ name.toList := hname.notMem (by decide)
  rw [markerHead, List.suffix_append_self_iff, List.suffix_cons_iff]
  constructor
  · rintro (heq | hsuffix)
    · simp [heq] at hblank
    · exact hends hsuffix
  · rintro rfl
    exact .inr (List.suffix_refl _)

/-- What stands in an attribute behind its first quotation mark begins like a marker when the value
is that of the marker. -/
theorem markerTail_prefix_iff (hvalue : IsName value) (v : String) (rest : List Char) :
    value.toList ++ ['"'] <+: v.toList.flatMap escapeChar ++ '"' :: rest ↔ v = value := by
  have hquote : '"' ∉ value.toList := hvalue.notMem (by decide)
  have hescaped : '"' ∉ v.toList.flatMap escapeChar := notMem_flatMap_escapeChar (by simp) _
  rw [Text.prefix_quote_iff hquote hescaped, and_iff_left (List.nil_prefix)]
  constructor
  · intro heq
    exact eq_of_flatMap_escapeChar (heq.symm.trans (flatMap_escapeChar_of_isName hvalue).symm)
  · rintro rfl
    exact (flatMap_escapeChar_of_isName hvalue).symm

/-- A marker ends with the character of a name, so it begins at no quotation mark that ends a
value. -/
theorem not_markerTail_prefix (hvalue : IsName value) {c : Char} (hc : isNameChar c = false)
    (rest : List Char) : ¬value.toList ++ ['"'] <+: c :: rest := by
  obtain ⟨hne, hchar⟩ := hvalue
  cases hv : value.toList with
  | nil => exact absurd hv hne
  | cons d ds =>
    rw [List.cons_append, List.cons_prefix_cons]
    rintro ⟨rfl, -⟩
    rw [hchar d (by simp [hv])] at hc
    contradiction

/-- What may stand behind the attributes of a tag. -/
def EndsTag (u : List Char) : Prop :=
  ∃ c rest, u = c :: rest ∧ isNameChar c = false ∧ c ≠ '=' ∧ c ≠ '"'

theorem endsTag_gt (t : List Char) : EndsTag ('>' :: t) :=
  ⟨'>', t, rfl, by decide, by decide, by decide⟩

theorem endsTag_slash (t : List Char) : EndsTag ('/' :: t) :=
  ⟨'/', t, rfl, by decide, by decide, by decide⟩

theorem EndsTag.barred (hname : IsName name) {u : List Char} (h : EndsTag u) :
    Barred (markerHead name) u := by
  obtain ⟨c, rest, rfl, hchar, heq, hquote⟩ := h
  exact Text.barred_cons hquote (notMem_markerHead hname hchar heq)

theorem exists_attributeChars (a : Attribute) : ∃ rest, attributeChars a = ' ' :: rest := by
  unfold attributeChars
  split
  all_goals exact ⟨_, rfl⟩

theorem EndsTag.attributes {u : List Char} (h : EndsTag u) (attributes : List Attribute) :
    EndsTag (attributes.flatMap attributeChars ++ u) := by
  cases attributes with
  | nil => exact h
  | cons a others =>
    obtain ⟨rest, ha⟩ := exists_attributeChars a
    refine ⟨' ', rest ++ (others.flatMap attributeChars ++ u), ?_, by decide, by decide, by decide⟩
    rw [List.flatMap_cons, ha, List.append_assoc, List.cons_append]

/-- The places of a marker in an attribute. -/
theorem places_attributeChars (hname : IsName name) (hvalue : IsName value) {a : Attribute}
    (ha : IsName a.name) (hends : EndsApart name a) {u : List Char} (hu : EndsTag u) :
    places (marker name value) (attributeChars a ++ u) =
      (if a = attr name value then 1 else 0) + places (marker name value) u := by
  obtain ⟨key, v⟩ := a
  have hkey : '"' ∉ ' ' :: key.toList ++ ['='] := by
    have hnone : '"' ∉ key.toList := ha.notMem (by decide)
    simp [hnone]
  rw [marker_eq]
  cases v with
  | none =>
    have hbare : '"' ∉ ' ' :: key.toList := fun h => hkey (List.mem_append_left _ h)
    have hne : (⟨key, none⟩ : Attribute) ≠ attr name value := by simp [attr]
    rw [attributeChars, Text.places_append_of_barred hbare (hu.barred hname), if_neg hne,
      Nat.zero_add]
  | some v =>
    obtain ⟨c, rest, rfl, hc, -, -⟩ := hu
    have hhead : markerHead name ≠ [] := by simp [markerHead]
    have hquote : '"' ∉ markerHead name := notMem_markerHead hname (by decide) (by decide)
    have hescaped : '"' ∉ v.toList.flatMap escapeChar := notMem_flatMap_escapeChar (by simp) _
    have hclosing : ¬(markerHead name <:+ v.toList.flatMap escapeChar ∧
        value.toList ++ ['"'] <+: c :: rest) :=
      fun h => not_markerTail_prefix hvalue hc rest h.2
    have hsplit : attributeChars ⟨key, some v⟩ ++ c :: rest =
        (' ' :: key.toList ++ ['=']) ++
          '"' :: (v.toList.flatMap escapeChar ++ '"' :: c :: rest) := by
      simp [attributeChars]
    have hiff : (⟨key, some v⟩ : Attribute) = attr name value ↔ key = name ∧ v = value := by
      simp [attr]
    -- The quotation mark before the value may be that of the marker, the one behind it is not.
    rw [hsplit, Text.places_quote hhead hquote hkey, Text.places_quote hhead hquote hescaped,
      if_neg hclosing, Nat.zero_add]
    simp only [markerHead_suffix_iff hname hends, markerTail_prefix_iff hvalue, hiff]

theorem places_attributes (hname : IsName name) (hvalue : IsName value)
    {attributes : List Attribute} (h : ∀ a ∈ attributes, IsName a.name ∧ EndsApart name a)
    {u : List Char} (hu : EndsTag u) :
    places (marker name value) (attributes.flatMap attributeChars ++ u) =
      attributes.countP (· = attr name value) + places (marker name value) u := by
  induction attributes with
  | nil => simp
  | cons a others ih =>
    rw [List.forall_mem_cons] at h
    rw [List.flatMap_cons, List.append_assoc,
      places_attributeChars hname hvalue h.1.1 h.1.2 (hu.attributes others), ih h.2,
      List.countP_cons]
    simp only [decide_eq_true_eq]
    omega

/-- The places of a marker in a tag, up to what closes it. -/
theorem places_tag (hname : IsName name) (hvalue : IsName value) {tag : String}
    {attributes : List Attribute} (htag : IsName tag)
    (h : ∀ a ∈ attributes, IsName a.name ∧ EndsApart name a) {u : List Char} (hu : EndsTag u) :
    Barred (markerHead name) ('<' :: tag.toList ++ (attributes.flatMap attributeChars ++ u)) ∧
      places (marker name value)
          ('<' :: tag.toList ++ (attributes.flatMap attributeChars ++ u)) =
        attributes.countP (· = attr name value) + places (marker name value) u := by
  have hquote : '"' ∉ '<' :: tag.toList := by
    have hnone : '"' ∉ tag.toList := htag.notMem (by decide)
    simp [hnone]
  have hbarred : Barred (markerHead name) (attributes.flatMap attributeChars ++ u) :=
    (hu.attributes attributes).barred hname
  refine ⟨hbarred.append hquote, ?_⟩
  rw [marker_eq, Text.places_append_of_barred hquote hbarred, ← marker_eq,
    places_attributes hname hvalue h hu]

/-- **How often a text says that an attribute has a value is a scan.** -/
theorem scan_marker (hname : IsName name) (hvalue : IsName value) :
    Scan IsName (fun a => IsName a.name ∧ EndsApart name a) (places (marker name value))
      (fun t n => t.attributes.countP (· = attr name value) + n) (Barred (markerHead name)) where
  content := fun _ hquote hok => by
    rw [marker_eq]
    exact ⟨hok.append hquote, Text.places_append_of_barred hquote hok⟩
  startTag := fun {tag attributes t} htag h hok => by
    have hclose : places (marker name value) (['>'] ++ t) = places (marker name value) t := by
      rw [marker_eq, Text.places_append_of_barred (by decide) hok]
    obtain ⟨hbarred, hplaces⟩ := places_tag hname hvalue htag h (endsTag_gt t)
    rw [toList_startTag]
    refine ⟨by simpa using hbarred, ?_⟩
    rw [← hclose]
    simpa using hplaces
  closedTag := fun {tag attributes t} htag h _ _ hok => by
    have hclose : places (marker name value) (['/', '>'] ++ t) = places (marker name value) t := by
      rw [marker_eq, Text.places_append_of_barred (by decide) hok]
    obtain ⟨hbarred, hplaces⟩ := places_tag hname hvalue htag h (endsTag_slash ('>' :: t))
    rw [toList_closedTag]
    refine ⟨by simpa using hbarred, ?_⟩
    rw [← hclose]
    simpa using hplaces
  endTag := fun {tag t} htag hok => by
    have hquote : '"' ∉ (endTag tag).toList := by
      have hnone : '"' ∉ tag.toList := htag.notMem (by decide)
      simp [toList_endTag, hnone]
    rw [marker_eq]
    exact ⟨hok.append hquote, Text.places_append_of_barred hquote hok⟩

/-! ## Tags that do not begin -/

/-- The beginning of a start tag. -/
def startPattern (letters : String) : List Char :=
  '<' :: letters.toList

/-- A single `<` that is followed by other letters. -/
theorem places_startPattern {letters : String} {s t : List Char} (hs : '<' ∉ s)
    (h : ¬letters.toList <+: s ++ t) :
    places (startPattern letters) ('<' :: s ++ t) = places (startPattern letters) t := by
  have hhead : ¬(startPattern letters).isPrefixOf ('<' :: (s ++ t)) = true := by
    rw [List.isPrefixOf_iff_prefix, startPattern, List.cons_prefix_cons]
    exact fun hprefix => h hprefix.2
  rw [List.cons_append, Text.places_cons_of_not_prefix hhead]
  exact Text.inert_of_notMem _ hs t

/-- Letters that do not begin a name do not begin it with what follows it in its tag. -/
theorem not_prefix_append {letters : String} (hletters : IsName letters) {name : List Char}
    (hname : ¬letters.toList <+: name) {u : List Char} (hu : EndsTag u) :
    ¬letters.toList <+: name ++ u := by
  obtain ⟨c, rest, rfl, hchar, -, -⟩ := hu
  rw [← List.isPrefixOf_iff_prefix, isPrefixOf_append_cons (hletters.notMem hchar),
    List.isPrefixOf_iff_prefix]
  exact hname

theorem notMem_attributes {attributes : List Attribute} (h : ∀ a ∈ attributes, IsName a.name) :
    '<' ∉ attributes.flatMap attributeChars := by
  simp only [List.mem_flatMap, not_exists, not_and]
  exact fun a ha => notMem_attributeChars (h a ha)

/-- **Markup without an element whose name begins so is inert for its start tag.** -/
theorem scan_startPattern {letters : String} (hletters : IsName letters) :
    Scan (fun name => IsName name ∧ ¬letters.toList <+: name.toList) (fun a => IsName a.name)
      (places (startPattern letters)) (fun _ n => n) fun _ => True where
  content := fun hopen _ _ => ⟨trivial, Text.inert_of_notMem _ hopen _⟩
  startTag := fun {name attributes t} hname h _ => by
    have hs : '<' ∉ name.toList ++ (attributes.flatMap attributeChars ++ ['>']) := by
      simp [hname.1.notMem (c := '<') (by decide), notMem_attributes h]
    have hprefix := not_prefix_append hletters hname.2 ((endsTag_gt t).attributes attributes)
    rw [toList_startTag]
    exact ⟨trivial, places_startPattern hs (by simpa using hprefix)⟩
  closedTag := fun {name attributes t} hname h _ _ _ => by
    have hs : '<' ∉ name.toList ++ (attributes.flatMap attributeChars ++ ['/', '>']) := by
      simp [hname.1.notMem (c := '<') (by decide), notMem_attributes h]
    have hprefix := not_prefix_append hletters hname.2
      ((endsTag_slash ('>' :: t)).attributes attributes)
    rw [toList_closedTag]
    exact ⟨trivial, places_startPattern hs (by simpa using hprefix)⟩
  endTag := fun {name t} hname _ => by
    have hs : '<' ∉ '/' :: name.toList ++ ['>'] := by
      simp [hname.1.notMem (c := '<') (by decide)]
    have hempty : ¬letters.toList <+: [] := by
      rw [List.prefix_nil]
      exact hletters.ne_nil
    have hprefix := not_prefix_append hletters hempty (endsTag_slash (name.toList ++ '>' :: t))
    rw [toList_endTag]
    exact ⟨trivial, places_startPattern hs (by simpa using hprefix)⟩

end FormPress.Markup
