import FormPress.Proofs.Markup.Tags

/-!
# Names in markup

Names of tags and attributes are written as they are, so they must be plain: letters, digits and
hyphens. A plain name cannot end a tag, an attribute or a value.
-/

namespace FormPress.Markup

/-- A character of a name. -/
def isNameChar (c : Char) : Bool :=
  c.isAlphanum || c == '-'

/-- A name of a tag or an attribute. -/
structure IsName (s : String) : Prop where
  ne_nil : s.toList ≠ []
  isNameChar_of_mem : ∀ c ∈ s.toList, isNameChar c = true

theorem isName_ofList {cs : List Char} (h : (!cs.isEmpty && cs.all isNameChar) = true) :
    IsName (String.ofList cs) := by
  rw [Bool.and_eq_true, List.all_eq_true] at h
  exact ⟨by simpa using h.1, by simpa using h.2⟩

/-- The characters that give markup its shape stand in no name. -/
theorem IsName.notMem {s : String} (h : IsName s) {c : Char} (hc : isNameChar c = false) :
    c ∉ s.toList := by
  intro hmem
  rw [h.isNameChar_of_mem c hmem] at hc
  contradiction

theorem isName_of_mem_elementNames : ∀ name ∈ elementNames, IsName name := by
  simp only [elementNames, List.forall_mem_cons, List.not_mem_nil, false_implies, implies_true,
    and_true]
  repeat' apply And.intro
  all_goals exact isName_ofList rfl

theorem isName_of_mem_voidNames : ∀ name ∈ voidNames, IsName name := by
  simp only [voidNames, List.forall_mem_cons, List.not_mem_nil, false_implies, implies_true,
    and_true]
  repeat' apply And.intro
  all_goals exact isName_ofList rfl

theorem notMem_voidNames_of_mem_elementNames : ∀ name ∈ elementNames, name ∉ voidNames := by
  simp [elementNames, voidNames]

/-! ## Written attributes -/

/-- The characters of an attribute in a tag. -/
def attributeChars (a : Attribute) : List Char :=
  match a.value with
  | none => ' ' :: a.name.toList
  | some v => ' ' :: a.name.toList ++ ('=' :: '"' :: v.toList.flatMap escapeChar ++ ['"'])

theorem toList_write (a : Attribute) : a.write.toList = attributeChars a := by
  unfold Attribute.write attributeChars
  cases a.value with
  | none => simp
  | some v => simp [escape]

/-- The characters of a start tag. -/
theorem toList_startTag (name : String) (attributes : List Attribute) :
    (startTag name attributes).toList =
      '<' :: name.toList ++ (attributes.flatMap attributeChars ++ ['>']) := by
  simp [startTag, Text.toList_concat, List.flatMap_map, toList_write]

/-- The characters of a start tag that closes its element. -/
theorem toList_closedTag (name : String) (attributes : List Attribute) :
    (closedTag name attributes).toList =
      '<' :: name.toList ++ (attributes.flatMap attributeChars ++ ['/', '>']) := by
  simp [closedTag, Text.toList_concat, List.flatMap_map, toList_write]

/-- The characters of an end tag. -/
theorem toList_endTag (name : String) :
    (endTag name).toList = '<' :: '/' :: name.toList ++ ['>'] := by
  simp [endTag]

@[simp] theorem write_void (name : String) (attributes : List Attribute) :
    write (.void name attributes) = startTag name attributes := by
  simp [write, writeAfter]

@[simp] theorem write_entity (name : String) :
    write (.entity name) = "&" ++ name ++ ";" := by
  simp [write, writeAfter]

@[simp] theorem toList_escape (s : String) : (escape s).toList = s.toList.flatMap escapeChar := by
  simp [escape]

end FormPress.Markup
