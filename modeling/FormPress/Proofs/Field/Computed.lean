import FormPress.Proofs.Field.Formulas
import FormPress.Proofs.Field.Identity
import FormPress.Proofs.Form.Pages
import FormPress.Proofs.Text.Splits

/-!
# Computed fields

The markup of a formula field shows its expression with ids for references. In a form without
dangling references every placeholder in it stands for a declared field, unless it holds blanks
only: a reference without characters is none, so a check leaves such a placeholder alone.
-/

namespace FormPress

open Markup Formula

/-! ## References of an expression -/

namespace Formula

/-- The placeholders of the parts are among the pieces. -/
theorem hole_mem_of_mem_rest {ps : List Piece} {q : List Char × List Char}
    (h : q ∈ (Parts.ofPieces ps).rest) : Piece.hole q.1 ∈ ps := by
  induction ps with
  | nil => simp [Parts.ofPieces] at h
  | cons piece rest ih =>
    cases piece with
    | text cs => exact List.mem_cons_of_mem _ (ih h)
    | hole cs =>
      rw [Parts.ofPieces_hole] at h
      rcases List.mem_cons.1 h with rfl | h
      · exact List.mem_cons_self
      · exact List.mem_cons_of_mem _ (ih h)

/-- A placeholder holds a reference, if not only blanks. -/
theorem reference_eq_empty_iff {cs : List Char} :
    reference cs = "" ↔ ∀ c ∈ cs, Text.isBlank c = true := by
  rw [reference, String.ofList_eq_empty_iff, Text.stripBy_eq_nil_iff]

/-- The check takes every placeholder with a reference for one. -/
theorem reference_mem_references {c : FormPress.Formula} {cs : List Char}
    (h : Piece.hole cs ∈ pieces c.expression) (hne : reference cs ≠ "") :
    reference cs ∈ references c := by
  rw [references, Table.mem_distinct, List.mem_filter]
  refine ⟨List.mem_append_left _ (List.mem_filterMap.2 ⟨_, h, rfl⟩), by simpa using hne⟩

end Formula

/-! ## Formulas in markup -/

theorem given?_some_eq_some_iff {s text : String} :
    given? (some s) = some text ↔ text ≠ "" ∧ text = s := by
  rw [given?, Option.filter_eq_some_iff]
  constructor
  · rintro ⟨heq, hne⟩
    obtain rfl := Option.some.inj heq
    exact ⟨by simpa using hne, rfl⟩
  · rintro ⟨hne, rfl⟩
    exact ⟨rfl, by simpa using hne⟩

/-- The characters that the script of a page trims: White_Space but for U+0085, and U+FEFF. -/
def isScriptBlank (c : Char) : Bool :=
  (Text.isSpace c && c.toNat != 0x85) || c.toNat == 0xFEFF

/-- The reference that the script of a page takes from a placeholder. -/
def Formula.scriptReference (cs : List Char) : String :=
  String.ofList (Text.stripBy isScriptBlank cs)

/-- Among elements that identify fields the script finds one with the reference as its id or as its
name. -/
def findsField (ts : List Tag) (reference : String) : Bool :=
  reference != "" && ts.any fun t =>
    (valueOf? "data-field-id" t.attributes).isSome &&
      (valueOf? "data-field-id" t.attributes == some reference ||
        valueOf? "data-field-name" t.attributes == some reference)

namespace Field

variable {f : Field} {fields : List Field} {o : RenderOptions} {m : Markup}

/-- The expression that a formula field shows. -/
def shownFormula (fields : List Field) (f : Field) : String :=
  (f.formula.map fun c => Formula.resolve c.expression fields).getD ""

/-- The input of a formula shows its expression, if it is not empty. -/
theorem tags_formula (v : FieldView) (fields : List Field) :
    ∃ t, (v.formula fields).tags = [t] ∧
      valueOf? "data-formula" t.attributes = given? (some (v.field.shownFormula fields)) := by
  refine ⟨_, tags_void _ _, ?_⟩
  change valueOf? "data-formula" (Slots.attributes ((v.control (some "text")).override
    [("readonly", some ""), ("required", none), ("class", some "form-input formula-field"),
     ("data-formula", given? (some (v.field.shownFormula fields)))])) = _
  cases hshown : given? (some (v.field.shownFormula fields)) with
  | some text =>
    exact Slots.valueOf?_override_self
      [("readonly", some ""), ("required", none), ("class", some "form-input formula-field")]
      (by simp)
  | none =>
    have hother : Slots.Each (fun a => a.name ≠ "data-formula") (v.control (some "text")) := by
      simp [FieldView.control, attr]
    exact valueOf?_eq_none (hother.override (by simp [attr])).attributes

/-- A reader of the markup of a formula field finds the expression and no other formula. -/
theorem shownFormula_render (hkind : f.kind = some .formula) (h : f.render o fields = .ok m)
    (text : String) :
    (∃ t ∈ readTags m.write, valueOf? "data-formula" t.attributes = some text) ↔
      text ≠ "" ∧ text = f.shownFormula fields := by
  have hraw : f.HoldsNoRaw o := .inr (by simp [hkind])
  obtain ⟨v, hv, -⟩ := rooted_render hraw h
  obtain rfl : v.field = f := field_of_view hv
  obtain ⟨control, hcontrol, hm⟩ := exists_control_grouped hv hkind rfl h
  obtain rfl := Except.ok.inj hcontrol
  obtain ⟨input, hinput, hvalue⟩ := tags_formula v fields
  have hkey : "data-formula" ∉ FieldView.aroundNames := by simp [FieldView.aroundNames]
  obtain ⟨root, before, after, htags, hothers⟩ :=
    v.tags_grouped_of_single hkey o.animate hinput
  rw [readTags_write (sound_render hraw h), ← hm, htags]
  rw [← given?_some_eq_some_iff, ← hvalue]
  constructor
  · rintro ⟨t, ht, htext⟩
    by_cases heq : t = input
    · rwa [← heq]
    · have hother : t ∈ root :: (before ++ after) := by simpa [heq] using ht
      rw [hothers t hother] at htext
      cases htext
  · exact fun htext => ⟨input, by simp, htext⟩

/-! ## What the script of a page finds -/

/-- A reader finds the root of a field in front, whatever markup of its author stands inside. -/
theorem exists_root_readTags {v : FieldView} (hv : f.view = .ok v)
    (hbreak : f.kind ≠ some .pageBreak) (h : f.render o fields = .ok m) :
    ∃ root inner, readTags m.write = root :: inner ∧ v.Identity root.attributes := by
  by_cases hraw : f.HoldsNoRaw o
  · obtain ⟨name, attributes, inner, htags, hidentity⟩ := rootIdentifies_render hv hbreak h
    exact ⟨_, inner, by rw [readTags_write (sound_render hraw h), htags], hidentity⟩
  · obtain ⟨hraw, hkind⟩ : o.rawHtml = true ∧ f.kind = some .htmlSnippet := by
      simpa [HoldsNoRaw] using hraw
    obtain ⟨control, hcontrol, hm⟩ := exists_control hv hkind h
    obtain rfl := Except.ok.inj hcontrol
    have hnames : ∀ a ∈ (v.group "html-snippet" o.animate).attributes, IsName a.name :=
      fun a ha => (FieldView.identifies_of_mem_group (by decide) a ha).isName
    have hdiv : IsName "div" := isName_of_mem_elementNames _ (by simp [elementNames])
    obtain ⟨inner, hread⟩ := exists_readTags_element hdiv hnames _
    rw [← hm]
    exact ⟨_, inner, hread, FieldView.identity_group _ _⟩

/-- A field on a page is found by its id, if trimming leaves the id as it is. -/
theorem finds_render (hbreak : f.kind ≠ some .pageBreak) (hid : f.id ≠ "")
    (htrim : scriptReference f.id.toList = f.id) (h : f.render o fields = .ok m) :
    findsField (readTags m.write) (scriptReference f.id.toList) = true := by
  obtain ⟨v, hv, -⟩ := bind_eq_ok.1 h
  obtain ⟨root, inner, hread, hidentity⟩ := exists_root_readTags hv hbreak h
  obtain rfl : v.field = f := field_of_view hv
  rw [htrim, hread, findsField, List.any_cons, hidentity.id]
  simp [hid]

/-- The script finds a field among those on the pages. -/
def findsOnPages (o : RenderOptions) (fields : List Field) (reference : String) : Bool :=
  (paginate fields).any fun page => page.fields.any fun g =>
    (g.render o fields).toOption.any fun m => findsField (readTags m.write) reference

/-- The pages have the fields of the form, page breaks apart. -/
theorem findsOnPages_eq_any (o : RenderOptions) (fields : List Field) (reference : String) :
    findsOnPages o fields reference =
      (fields.filter (!·.isPageBreak)).any fun g =>
        (g.render o fields).toOption.any fun m => findsField (readTags m.write) reference := by
  rw [findsOnPages, ← List.any_flatMap, flatMap_fields_paginate, Bool.eq_iff_iff,
    List.any_eq_true, List.any_eq_true]
  simp

theorem findsOnPages_id {g : Field} (hg : g ∈ fields) (hbreak : g.kind ≠ some .pageBreak)
    (hid : g.id ≠ "") (htrim : scriptReference g.id.toList = g.id)
    (h : g.render o fields = .ok m) :
    findsOnPages o fields (scriptReference g.id.toList) = true := by
  rw [findsOnPages_eq_any, List.any_eq_true]
  refine ⟨g, List.mem_filter.2 ⟨hg, by simpa [isPageBreak] using hbreak⟩, ?_⟩
  rw [h]
  exact finds_render hbreak hid htrim h

/-- Where no markup of an author stands in the way, a reference by which the script finds a field is
the id or the name of this field. -/
theorem eq_of_finds_render (hraw : f.HoldsNoRaw o) (hbreak : f.kind ≠ some .pageBreak)
    (h : f.render o fields = .ok m) {reference : String}
    (hfinds : findsField (readTags m.write) reference = true) :
    reference ≠ "" ∧ (f.id = reference ∨ f.name = reference) := by
  obtain ⟨v, hv, hrooted⟩ := rooted_render hraw h
  obtain ⟨name, attributes, inner, htags, hidentity⟩ := rootIdentifies_render hv hbreak h
  obtain rfl : v.field = f := field_of_view hv
  rw [readTags_write (sound_render hraw h), htags] at hfinds
  have hinner : ∀ t ∈ inner, valueOf? "data-field-id" t.attributes = none := by
    refine fun t ht => valueOf?_eq_none fun a ha hname => ?_
    refine (hrooted.of_mem_inner htags t ht a ha).notMem_identityNames hv ?_
    simp [hname, FieldView.identityNames]
  obtain ⟨hne, hany⟩ := Bool.and_eq_true_iff.1 hfinds
  refine ⟨by simpa using hne, ?_⟩
  obtain ⟨t, ht, hmatch⟩ := List.any_eq_true.1 hany
  rcases List.mem_cons.1 ht with rfl | ht
  · simpa [hidentity.id, hidentity.name] using hmatch
  · simp [hinner t ht] at hmatch

theorem exists_of_findsOnPages (hraw : o.rawHtml = false) {reference : String}
    (hfinds : findsOnPages o fields reference = true) :
    reference ≠ "" ∧
      ∃ g ∈ fields, g.kind ≠ some .pageBreak ∧ (g.id = reference ∨ g.name = reference) := by
  rw [findsOnPages_eq_any] at hfinds
  obtain ⟨g, hg, hany⟩ := List.any_eq_true.1 hfinds
  obtain ⟨m, hm, hfinds⟩ := (Option.any_eq_true _ _).1 hany
  obtain ⟨hg, hbreak⟩ := List.mem_filter.1 hg
  have hbreak : g.kind ≠ some .pageBreak := by simpa [isPageBreak] using hbreak
  obtain ⟨hne, heq⟩ :=
    eq_of_finds_render (.inl hraw) hbreak (toOption_eq_some_iff.1 hm) hfinds
  exact ⟨hne, g, hg, hbreak, heq⟩

/-! ## Placeholders of a checked form -/

/-- A placeholder holds the id of a declared field and nothing else. If this field has an element,
and trimming leaves its id as it is, the script of the pages finds it. -/
structure StandsFor (fields : List Field) (cs : List Char) (g : Field) : Prop where
  mem : g ∈ fields
  resolves : resolve? fields (reference cs) = some g
  eq_id : cs = g.id.toList
  found : g.kind ≠ some .pageBreak → scriptReference g.id.toList = g.id →
    ∀ o m, g.render o fields = .ok m → findsOnPages o fields (scriptReference cs) = true

theorem standsFor_of_resolve? {g : Field} (hids : ∀ f ∈ fields, IsPlaceable f.id) {cs : List Char}
    (hcs : cs = g.id.toList) (h : resolve? fields (reference cs) = some g) :
    StandsFor fields cs g where
  mem := mem_of_resolve? h
  resolves := h
  eq_id := hcs
  found := by
    intro hbreak htrim o m hrender
    rw [hcs]
    exact findsOnPages_id (mem_of_resolve? h) hbreak (hids g (mem_of_resolve? h)).ne_empty htrim
      hrender

/-- In a checked form the author's placeholders name fields, unless they are blank: the check passes
over those. -/
theorem blank_of_resolve?_eq_none (hclean : danglingReferences fields = []) (hf : f ∈ fields)
    {c : FormPress.Formula} (hformula : f.formula = some c) {cs : List Char}
    (hmem : Piece.hole cs ∈ pieces c.expression)
    (hnone : resolve? fields (reference cs) = none) : ∀ c ∈ cs, Text.isBlank c = true := by
  rw [← reference_eq_empty_iff]
  by_contra hne
  have href : (⟨f.id, reference cs, .formula⟩ : Reference) ∈ f.references := by
    simp [Field.references, formulaReferences, hformula, reference_mem_references hmem hne]
  obtain ⟨g, -, hg⟩ := resolves_of_mem_references hclean hf href
  rw [hnone] at hg
  cases hg

theorem shownFormula_of_none (hformula : f.formula = none) : f.shownFormula fields = "" := by
  rw [shownFormula, hformula]
  rfl

theorem shownFormula_of_some {c : FormPress.Formula} (hformula : f.formula = some c) :
    f.shownFormula fields = Formula.resolve c.expression fields := by
  rw [shownFormula, hformula]
  rfl

/-- The placeholders of the expression that a formula of a checked form shows: the blank ones name
nothing, the others stand for fields. -/
theorem blank_or_standsFor (hids : ∀ f ∈ fields, IsPlaceable f.id)
    (hclean : danglingReferences fields = []) (hf : f ∈ fields) {p : Parts}
    (hp : p.Splits (f.shownFormula fields).toList) {q : List Char × List Char} (hq : q ∈ p.rest) :
    ((∀ c ∈ q.1, Text.isBlank c = true) ∧ resolve? fields (reference q.1) = none) ∨
      ∃ g, StandsFor fields q.1 g := by
  cases hformula : f.formula with
  | none =>
    rw [shownFormula_of_none hformula] at hp
    obtain rfl := splits_iff.1 hp
    simp [Formula.pieces, scan_nil, flush, Parts.ofPieces] at hq
  | some c =>
    -- a placeholder that is shown comes from one of the author's
    have hparts := splits_iff.1 (splits_resolve hids c.expression)
    rw [shownFormula_of_some hformula] at hp
    rw [splits_iff.1 hp, ← hparts] at hq
    obtain ⟨a, ha, rfl⟩ := List.mem_map.1 hq
    cases hfield : resolve? fields (reference a.1) with
    | some g =>
      have hsame := resolve?_exchanged hids a.1
      rw [hfield, Option.map_some] at hsame
      obtain ⟨g', hg', hid⟩ := Option.map_eq_some_iff.1 hsame
      refine .inr ⟨g', standsFor_of_resolve? hids ?_ hg'⟩
      rw [hid]
      exact exchanged_of_some hfield
    | none =>
      have hkept : exchanged fields a.1 = a.1 := exchanged_of_none hfield
      refine .inl ⟨?_, ?_⟩
      · rw [hkept]
        exact blank_of_resolve?_eq_none hclean hf hformula (hole_mem_of_mem_rest ha) hfield
      · rw [hkept, hfield]

/-- **A formula of a form without dangling references shows no dead placeholder, blank ones apart.**
The markup shows the resolved expression and no other formula. In whatever way this text comes apart,
each placeholder in it stands for a declared field, which the script finds if the field has an
element and trimming leaves its id as it is; a placeholder of blanks alone names nothing, and no
check looks at it. -/
theorem placeholders_resolve (hids : ∀ f ∈ fields, IsPlaceable f.id)
    (hclean : danglingReferences fields = []) (hf : f ∈ fields) (hkind : f.kind = some .formula)
    (h : f.render o fields = .ok m) :
    (∀ text, (∃ t ∈ readTags m.write, valueOf? "data-formula" t.attributes = some text) ↔
      text ≠ "" ∧ text = f.shownFormula fields) ∧
    ∀ p : Parts, p.Splits (f.shownFormula fields).toList → ∀ q ∈ p.rest,
      ((∀ c ∈ q.1, Text.isBlank c = true) ∧ resolve? fields (reference q.1) = none) ∨
        ∃ g, StandsFor fields q.1 g :=
  ⟨shownFormula_render hkind h, fun _ hp _ hq => blank_or_standsFor hids hclean hf hp hq⟩

/-- A sum of two fields, one of them under its name, with blanks around the reference, and a pair of
braces that holds a blank. -/
def summing : Field :=
  { id := "sum", name := "sum", kindName := "formula"
    formula := some { expression := "\x7b amount \x7d + \x7btax\x7d \x7b \x7d" } }

def summingFields : List Field :=
  [{ id := "net", name := "amount", kindName := "number" },
   { id := "tax", name := "tax", kindName := "number" }, summing]

theorem placeholders_resolve_summingFields :
    (∀ f ∈ summingFields, IsPlaceable f.id) ∧ danglingReferences summingFields = [] ∧
    ∃ m, summing.render {} summingFields = .ok m ∧
      (∃ t ∈ readTags m.write, valueOf? "data-formula" t.attributes =
        some "\x7bnet\x7d + \x7btax\x7d \x7b \x7d") ∧
      (∃ g, StandsFor summingFields "net".toList g) ∧
      resolve? summingFields (reference [' ']) = none := by
  have hids : ∀ f ∈ summingFields, IsPlaceable f.id := by decide
  have hclean : danglingReferences summingFields = [] := by decide
  have hmem : summing ∈ summingFields := by simp [summingFields]
  have h : summing.render {} summingFields = .ok _ := rfl
  obtain ⟨htexts, hplaceholders⟩ := placeholders_resolve hids hclean hmem (by decide) h
  have hnet := hplaceholders _ (splits_pieces _) ("net".toList, " + ".toList) (by decide)
  refine ⟨hids, hclean, _, h, (htexts _).2 (by decide), ?_, by decide⟩
  exact hnet.resolve_left fun hblank => absurd (hblank.1 'n' (by decide)) (by decide)

/-- A formula with a blank placeholder, one for a page break, which has no element, and one for an
id whose first character only the script of a page trims. -/
def untrimmed : Field :=
  { id := "f", name := "f", kindName := "formula"
    formula := some { expression := "\x7b \x7d\x7bp\x7d\x7b\ufeffx\x7d" } }

def untrimmedFields : List Field :=
  [{ id := "p", name := "p", kindName := "page-break" }, { id := "\ufeffx", name := "\ufeffx" },
   untrimmed]

/-- A form without dangling references can show a placeholder that no field answers to, and others
that the script of its pages does not find. -/
theorem placeholders_untrimmedFields :
    (∀ f ∈ untrimmedFields, IsPlaceable f.id) ∧ danglingReferences untrimmedFields = [] ∧
    (∃ m, untrimmed.render {} untrimmedFields = .ok m ∧
      ∃ t ∈ readTags m.write, valueOf? "data-formula" t.attributes =
        some (untrimmed.shownFormula untrimmedFields)) ∧
    (∃ p : Parts, p.Splits (untrimmed.shownFormula untrimmedFields).toList ∧
      p.rest.map (·.1) = [[' '], ['p'], ['\ufeff', 'x']]) ∧
    resolve? untrimmedFields (reference [' ']) = none ∧
    ∀ cs ∈ [[' '], ['p'], ['\ufeff', 'x']],
      findsOnPages {} untrimmedFields (scriptReference cs) = false := by
  have h : untrimmed.render {} untrimmedFields = .ok _ := rfl
  have hshown := (shownFormula_render (by decide) h _).2 ⟨by decide, rfl⟩
  refine ⟨by decide, by decide, ⟨_, h, hshown⟩, ⟨_, splits_pieces _, by decide⟩, by decide, ?_⟩
  intro cs hcs
  rw [Bool.eq_false_iff]
  intro hfinds
  obtain ⟨hne, g, hg, hbreak, heq⟩ := exists_of_findsOnPages rfl hfinds
  have hnone : ∀ cs ∈ [[' '], ['p'], ['\ufeff', 'x']], scriptReference cs = "" ∨
      ∀ g ∈ untrimmedFields, g.kind = some .pageBreak ∨
        (g.id ≠ scriptReference cs ∧ g.name ≠ scriptReference cs) := by
    decide
  have hapart := ((hnone cs hcs).resolve_left hne g hg).resolve_left hbreak
  exact heq.elim hapart.1 hapart.2

end Field

end FormPress
