import FormPress.Proofs.Field.Attributes
import FormPress.Proofs.Markup.Scans

/-!
# Marks of pages

What the tags of a document say about its pages: the dots, the pages with the index and the state
that they begin in, the buttons that turn them, and the button that submits. A mark is an attribute,
so it can be found in the tags that a reader finds, and counted in the text.
-/

namespace FormPress

open Markup

/-- What a tag says about the pages of a form. -/
inductive PageMark where
  /-- The dot of a page. -/
  | dot (index : String)
  /-- A page with the name of its element, and whether it begins hidden. -/
  | page (index element : String) (isHidden : Bool)
  /-- A button that turns the page. -/
  | turn (direction : String)
  /-- The button that submits the form. -/
  | submit
deriving DecidableEq, Repr

namespace PageMark

/-- The attribute that a mark stands in. -/
def written : PageMark → Attribute
  | dot index => attr "data-dot" index
  | page index _ _ => attr "data-page" index
  | turn direction => attr "data-page-nav" direction
  | submit => submitClass

end PageMark

/-- Names of attributes that stand for marks. -/
def markNames : List String :=
  ["data-dot", "data-page", "data-page-nav"]

namespace Tag

/-- The mark of an attribute in a tag. -/
def pageMark? (t : Tag) (a : Attribute) : Option PageMark :=
  if a.name = "data-dot" then a.value.map .dot
  else if a.name = "data-page" then
    a.value.map fun index => .page index t.name (valueOf? "hidden" t.attributes).isSome
  else if a.name = "data-page-nav" then a.value.map .turn
  else if a = submitClass then some .submit
  else none

/-- The marks of a tag. -/
def pageMarks (t : Tag) : List PageMark :=
  t.attributes.filterMap t.pageMark?

end Tag

/-! ## Tags without marks -/

/-- An attribute that is no mark. -/
structure Attribute.Unmarked (a : Attribute) : Prop where
  notMem_markNames : a.name ∉ markNames
  ne_submitClass : a ≠ submitClass

theorem Tag.pageMark?_eq_none {t : Tag} {a : Attribute} (h : a.Unmarked) :
    t.pageMark? a = none := by
  obtain ⟨hname, hclass⟩ := h
  simp only [markNames, List.mem_cons, List.not_mem_nil, or_false, not_or] at hname
  simp [pageMark?, hname, hclass]

theorem Tag.pageMarks_eq_nil {t : Tag} (h : ∀ a ∈ t.attributes, a.Unmarked) :
    t.pageMarks = [] := by
  rw [pageMarks, List.filterMap_eq_nil_iff]
  exact fun a ha => pageMark?_eq_none (h a ha)

/-! ## Names that are counted -/

/-- The names of the attributes whose values are counted in a text. -/
def countedNames : List String :=
  ["data-page", "data-page-nav", "class"]

theorem isName_of_mem_countedNames : ∀ name ∈ countedNames, IsName name := by
  simp only [countedNames, List.forall_mem_cons, List.not_mem_nil, false_implies, implies_true,
    and_true]
  exact ⟨isName_ofList rfl, isName_ofList rfl, isName_ofList rfl⟩

/-- An attribute that is not taken for one with a counted name: it may not end like one. -/
structure Attribute.IsApart (a : Attribute) : Prop where
  isName : IsName a.name
  endsApart : ∀ name ∈ countedNames, EndsApart name a

/-- The letters of a plain name that does not end like a counted one, unless it is that. -/
def standsApart (cs : List Char) : Bool :=
  !cs.isEmpty && cs.all isNameChar &&
    countedNames.all fun name => !name.toList.isSuffixOf cs || name.toList == cs

theorem isApart_ofList {cs : List Char} {value : Option String} (h : standsApart cs = true) :
    Attribute.IsApart ⟨String.ofList cs, value⟩ := by
  rw [standsApart, Bool.and_eq_true, List.all_eq_true] at h
  refine ⟨isName_ofList h.1, fun name hname hsuffix => ?_⟩
  have hname := h.2 name hname
  rw [String.toList_ofList] at hsuffix
  rw [List.isSuffixOf_iff_suffix.2 hsuffix, Bool.not_true, Bool.false_or, beq_iff_eq] at hname
  rw [← hname, String.ofList_toList]

example : Attribute.IsApart (attr "data-page-break" "true") := isApart_ofList rfl

/-- A name of an element that is neither a style nor a script. -/
structure IsTagName (name : String) : Prop where
  isName : IsName name
  not_closes : ∀ raw ∈ ["style", "script"], closes raw.toList name = false

theorem isTagName_ofList {cs : List Char}
    (h : (!cs.isEmpty && cs.all isNameChar && ["style", "script"].all fun raw =>
      !raw.toList.isPrefixOf (cs.map Text.lowerAscii)) = true) : IsTagName (String.ofList cs) := by
  rw [Bool.and_eq_true, List.all_eq_true] at h
  refine ⟨isName_ofList h.1, fun raw hraw => closes_ofList ?_⟩
  simpa using h.2 raw hraw

/-- The start tag of a script is that of no other element. -/
theorem IsTagName.not_prefix {name : String} (h : IsTagName name) :
    ¬"script".toList <+: name.toList := by
  intro hprefix
  have hlower : "script".toList.map Text.lowerAscii = "script".toList := by decide
  have hcloses := h.not_closes "script" (by simp)
  rw [closes, ← Bool.not_eq_true, List.isPrefixOf_iff_prefix, ← hlower] at hcloses
  exact hcloses (List.IsPrefix.map Text.lowerAscii hprefix)

/-! ## Silent attributes -/

/-- An attribute that is no mark and is taken for none. -/
structure Attribute.Silent (a : Attribute) : Prop where
  isApart : a.IsApart
  unmarked : a.Unmarked

/-- Attributes under other names are no marks. -/
theorem unmarked_of_name {a : Attribute} (h : a.name ∉ "class" :: markNames) : a.Unmarked := by
  rw [List.mem_cons, not_or] at h
  refine ⟨h.2, ?_⟩
  rintro rfl
  exact h.1 rfl

theorem silent_ofList {cs : List Char} {value : Option String}
    (h : (standsApart cs && ("class" :: markNames).all fun name => name.toList != cs) = true) :
    Attribute.Silent ⟨String.ofList cs, value⟩ := by
  rw [Bool.and_eq_true, List.all_eq_true] at h
  refine ⟨isApart_ofList h.1, unmarked_of_name fun hmem => ?_⟩
  have hne := h.2 _ hmem
  simp at hne

/-- A class that is not that of the submit button. -/
theorem silent_class {value : String} (h : value ≠ "submit-btn") :
    Attribute.Silent ⟨"class", some value⟩ := by
  refine ⟨isApart_ofList rfl, by simp [markNames], ?_⟩
  simpa [attr] using h

/-! ## Counting marks -/

theorem Tag.written_of_pageMark? {t : Tag} {a : Attribute} {mark : PageMark}
    (h : t.pageMark? a = some mark) : mark.written = a := by
  obtain ⟨key, value⟩ := a
  unfold pageMark? at h
  split_ifs at h with hdot hpage hturn hsubmit
  · obtain rfl : key = "data-dot" := hdot
    obtain ⟨index, rfl, rfl⟩ := Option.map_eq_some_iff.1 h
    rfl
  · obtain rfl : key = "data-page" := hpage
    obtain ⟨index, rfl, rfl⟩ := Option.map_eq_some_iff.1 h
    rfl
  · obtain rfl : key = "data-page-nav" := hturn
    obtain ⟨direction, rfl, rfl⟩ := Option.map_eq_some_iff.1 h
    rfl
  · obtain rfl := Option.some.inj h
    exact hsubmit.symm

theorem Tag.pageMark?_written (t : Tag) (mark : PageMark) :
    ∃ found, t.pageMark? mark.written = some found := by
  cases mark
  all_goals simp [pageMark?, PageMark.written, attr]

/-- The written form of a mark stands in a tag as often as a mark that is written so. -/
theorem Tag.countP_pageMarks (t : Tag) (mark : PageMark) :
    t.pageMarks.countP (fun m => m.written = mark.written) =
      t.attributes.countP (· = mark.written) := by
  rw [pageMarks, List.countP_filterMap]
  refine List.countP_congr fun a _ => ?_
  cases hmark : t.pageMark? a with
  | none =>
    have hne : a ≠ mark.written := by
      rintro rfl
      obtain ⟨found, hfound⟩ := t.pageMark?_written mark
      rw [hfound] at hmark
      contradiction
    simp [hne]
  | some found => simp [Tag.written_of_pageMark? hmark]

/-- The marks that written tags add up to are counted by their written form. -/
theorem Tag.foldr_countP (mark : PageMark) (ts : List Tag) (n : Nat) :
    ts.foldr (fun t n => t.attributes.countP (· = mark.written) + n) n =
      (ts.flatMap Tag.pageMarks).countP (fun m => m.written = mark.written) + n := by
  induction ts with
  | nil => simp
  | cons t rest ih =>
    rw [List.foldr_cons, ih, List.flatMap_cons, List.countP_append, t.countP_pageMarks mark]
    omega

/-! ## Reading marks -/

theorem valueOf?_concat_of_ne {key : String} {a : Attribute} (h : a.name ≠ key)
    (attributes : List Attribute) :
    valueOf? key (attributes ++ [a]) = valueOf? key attributes := by
  induction attributes with
  | nil => simp [valueOf?, h]
  | cons b rest ih => simp [valueOf?, ih]

/-- The slash of a closed element is no mark. -/
theorem Tag.pageMarks_slash (t : Tag) : (t.add (bare "/")).pageMarks = t.pageMarks := by
  have hmark : ∀ a, (t.add (bare "/")).pageMark? a = t.pageMark? a := by
    intro a
    rw [pageMark?, pageMark?, Tag.add, valueOf?_concat_of_ne (by simp [bare])]
  have hslash : t.pageMark? (bare "/") = none := by
    simp [pageMark?, bare, attr]
  rw [pageMarks, pageMarks, funext hmark, Tag.add, List.filterMap_append]
  simp [hslash]

/-! ## Marks of markup -/

namespace Markup

/-- The marks in the tags of a piece of markup. -/
def pageMarks (m : Markup) : List PageMark :=
  (tags m).flatMap Tag.pageMarks

@[simp] theorem pageMarks_element (name : String) (attributes : List Attribute)
    (children : List Markup) :
    pageMarks (.element name attributes children) =
      Tag.pageMarks ⟨name, attributes⟩ ++ children.flatMap pageMarks := by
  simp only [pageMarks, tags_element, List.flatMap_cons, List.flatMap_assoc]
  rfl

@[simp] theorem pageMarks_newline (indent : Nat) : pageMarks (newline indent) = [] := by
  simp [pageMarks]

@[simp] theorem pageMarks_label (name : String) (attributes : List Attribute) (s : String) :
    pageMarks (label name attributes s) = Tag.pageMarks ⟨name, attributes⟩ := by
  simp [pageMarks]

@[simp] theorem pageMarks_block (indent : Nat) (name : String) (attributes : List Attribute)
    (children : List Markup) :
    pageMarks (block indent name attributes children) =
      Tag.pageMarks ⟨name, attributes⟩ ++ children.flatMap pageMarks := by
  simp only [pageMarks, tags_block, List.flatMap_cons, List.flatMap_assoc]
  rfl

/-- Markup of a document beside its styles and scripts. -/
abbrev Framing (m : Markup) : Prop :=
  Built IsTagName Attribute.IsApart m

/-- Such markup that holds no mark. -/
abbrev Markless (m : Markup) : Prop :=
  Built IsTagName Attribute.Silent m

theorem Framing.quiet {m : Markup} (h : m.Framing) : m.Quiet :=
  Built.quiet (Built.mono (fun _ hname => hname.isName) (fun _ ha => ha.isName) h)

theorem Markless.framing {m : Markup} (h : m.Markless) : m.Framing :=
  Built.mono (fun _ hname => hname) (fun _ ha => ha.isApart) h

theorem Markless.pageMarks_eq_nil {m : Markup} (h : m.Markless) : m.pageMarks = [] := by
  rw [pageMarks, List.flatMap_eq_nil_iff]
  exact fun t ht => Tag.pageMarks_eq_nil fun a ha => (Built.of_mem_tags h ht a ha).unmarked

theorem flatMap_pageMarks_eq_nil {ms : List Markup} (h : ∀ m ∈ ms, m.Markless) :
    ms.flatMap pageMarks = [] := by
  rw [List.flatMap_eq_nil_iff]
  exact fun m hm => Markless.pageMarks_eq_nil (h m hm)

end Markup

end FormPress
