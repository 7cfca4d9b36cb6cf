import FormPress.Proofs.Document.Sections
import FormPress.Proofs.Number.Decimal

/-!
# The pages of a document

The pages in a compiled document are those that its page breaks make. With `k` breaks there are
`k + 1` pages, numbered from zero; all but the first begin hidden, all but the last have a button to
the next page and all but the first one to the page before, and the last page submits. The script
swaps one image for each of them. No text of a form adds to this, takes away from it or moves it.
-/

namespace FormPress

open Markup
open Script (declaresImages)
open Text (Calm decimal linesWhere places)

/-! ## Marks by the number of breaks -/

/-- The marks of a page, by the number of breaks and the index of the page. -/
def pageMarksAt (k i : Nat) : List PageMark :=
  .page (decimal i) "div" (i != 0) ::
    ((if i = 0 then [] else [.turn "back"]) ++ [if i = k then .submit else .turn "next"])

/-- The marks of all dots and pages, by the number of breaks. -/
def pageMarksOf (k : Nat) : List PageMark :=
  (if k = 0 then [] else (List.range (k + 1)).map fun i => .dot (decimal i)) ++
    (List.range (k + 1)).flatMap (pageMarksAt k)

namespace DocumentParts

theorem pageMarks_eq {k : Nat} {p : Page} (hcount : p.count = k + 1) (hindex : p.index ≤ k) :
    pageMarks p = pageMarksAt k p.index := by
  rw [pageMarks, pageMarksAt, buttonMarks, Page.hasPrevious, Page.hasNext, hcount]
  by_cases hk : k = 0
  · have hfirst : p.index = 0 := by omega
    simp [hk, hfirst]
  · have hnext : p.index + 1 < k + 1 ↔ ¬p.index = k := by omega
    have hprevious : 0 < p.index ↔ ¬p.index = 0 := by omega
    have hseveral : ¬k + 1 ≤ 1 := by omega
    simp only [if_neg hseveral, hnext, hprevious, decide_eq_true_eq, ite_not]

/-- The marks of a form's pages depend on the number of its page breaks only. -/
theorem documentMarks_paginate (fields : List Field) :
    documentMarks (paginate fields) = pageMarksOf (pageBreaks fields) := by
  have heach : ∀ p ∈ paginate fields, pageMarks p = pageMarksAt (pageBreaks fields) p.index := by
    intro p hp
    have hmem : p.index ∈ List.range (pageBreaks fields + 1) := by
      rw [← index_paginate]
      exact List.mem_map_of_mem hp
    exact pageMarks_eq (count_of_mem_paginate hp) (Nat.lt_succ_iff.1 (List.mem_range.1 hmem))
  have hpages : (paginate fields).flatMap pageMarks =
      (List.range (pageBreaks fields + 1)).flatMap (pageMarksAt (pageBreaks fields)) := by
    rw [List.flatMap_congr heach, ← index_paginate, List.flatMap_map]
  have hdots : (paginate fields).map (fun p => PageMark.dot (decimal p.index)) =
      (List.range (pageBreaks fields + 1)).map fun i => .dot (decimal i) := by
    rw [← index_paginate, List.map_map]
    rfl
  have hlength : (paginate fields).length = pageBreaks fields + 1 := by
    rw [← List.length_map Page.index, index_paginate, List.length_range]
  have hone : pageBreaks fields + 1 ≤ 1 ↔ pageBreaks fields = 0 := by omega
  rw [documentMarks, pageMarksOf, hpages, hdots, hlength]
  simp only [hone]

/-! ## Counting the marks of pages -/

section Counts

variable {k : Nat} {q : PageMark → Bool}

/-- Dots are written under a name of their own; a mark that stands at most once on a page is counted
by the pages that it stands on. -/
theorem countP_pageMarksOf {c : Nat → Bool} (hdot : ∀ index, q (.dot index) = false)
    (h : ∀ i, (pageMarksAt k i).countP q = if c i then 1 else 0) :
    (pageMarksOf k).countP q = (List.range (k + 1)).countP c := by
  have hdots : ((List.range (k + 1)).map fun i => PageMark.dot (decimal i)).countP q = 0 := by
    rw [List.countP_eq_zero, List.forall_mem_map]
    simp [hdot]
  have hpages : ((List.range (k + 1)).flatMap (pageMarksAt k)).countP q =
      (List.range (k + 1)).countP c := by
    induction List.range (k + 1) with
    | nil => rfl
    | cons i rest ih =>
      rw [List.flatMap_cons, List.countP_append, h, ih, List.countP_cons]
      omega
  rw [pageMarksOf, List.countP_append, hpages]
  split
  · rw [List.countP_nil, Nat.zero_add]
  · rw [hdots, Nat.zero_add]

theorem countP_range_eq (n i : Nat) :
    (List.range n).countP (fun j => decide (j = i)) = if i < n then 1 else 0 := by
  induction n with
  | zero => rfl
  | succ n ih =>
    rw [List.range_succ, List.countP_append, ih, List.countP_singleton]
    simp only [decide_eq_true_eq]
    split_ifs
    all_goals omega

theorem countP_range_ne {n i : Nat} (h : i < n) :
    (List.range n).countP (fun j => !decide (j = i)) = n - 1 := by
  have hsplit := List.length_eq_countP_add_countP (fun j => decide (j = i)) (l := List.range n)
  rw [countP_range_eq, if_pos h, List.length_range] at hsplit
  have hnot : (List.range n).countP (fun j => decide ¬decide (j = i) = true) =
      (List.range n).countP fun j => !decide (j = i) := by
    simp
  omega

/-- The pages with an index. -/
theorem countP_page (k i : Nat) :
    (pageMarksOf k).countP (fun m => m.written = attr "data-page" (decimal i)) =
      if i ≤ k then 1 else 0 := by
  rw [countP_pageMarksOf (c := fun j => decide (j = i)) (by simp [PageMark.written, attr]),
    countP_range_eq]
  · simp only [Nat.lt_succ_iff]
  · intro j
    unfold pageMarksAt
    split_ifs
    all_goals simp_all [PageMark.written, attr, Number.decimal_inj]

/-- The buttons to a next page. -/
theorem countP_next (k : Nat) :
    (pageMarksOf k).countP (fun m => m.written = attr "data-page-nav" "next") = k := by
  rw [countP_pageMarksOf (c := fun j => !decide (j = k)) (by simp [PageMark.written, attr]),
    countP_range_ne (Nat.lt_succ_self k), Nat.succ_sub_one]
  intro j
  unfold pageMarksAt
  split_ifs
  all_goals simp_all [PageMark.written, attr]

/-- The buttons to the page before. -/
theorem countP_back (k : Nat) :
    (pageMarksOf k).countP (fun m => m.written = attr "data-page-nav" "back") = k := by
  rw [countP_pageMarksOf (c := fun j => !decide (j = 0)) (by simp [PageMark.written, attr]),
    countP_range_ne (Nat.succ_pos k), Nat.succ_sub_one]
  intro j
  unfold pageMarksAt
  split_ifs
  all_goals simp_all [PageMark.written, attr]

theorem countP_submit (k : Nat) :
    (pageMarksOf k).countP (fun m => m.written = submitClass) = 1 := by
  rw [countP_pageMarksOf (c := fun j => decide (j = k)) (by simp [PageMark.written, attr]),
    countP_range_eq, if_pos (Nat.lt_succ_self k)]
  intro j
  unfold pageMarksAt
  split_ifs
  all_goals simp_all [PageMark.written, attr]

end Counts

/-! ## Marks in the text -/

variable {d : DocumentParts}

theorem unmarked_of_mem_bodyAttributes : ∀ a ∈ d.bodyAttributes, a.Unmarked := by
  have hclass : "layout-" ++ d.form.layout.name ≠ "submit-btn" :=
    ne_submit_of_not_prefix (by decide) _
  unfold bodyAttributes
  split
  · simp
  · exact List.forall_mem_singleton.2 (silent_class hclass).unmarked

theorem pageMarks_bodyTags (hpages : ∀ page ∈ d.pages, ∀ m ∈ page.2, m.Markless) :
    d.bodyTags.flatMap Tag.pageMarks = documentMarks (d.pages.map Prod.fst) := by
  have hbody : Tag.pageMarks ⟨"body", d.bodyAttributes⟩ = [] :=
    Tag.pageMarks_eq_nil unmarked_of_mem_bodyAttributes
  rw [bodyTags, List.flatMap_cons, hbody, List.nil_append, ← pageMarks_frame hpages,
    List.flatMap_assoc]
  rfl

/-- **A reader finds in the body the marks of its pages, in their order.** -/
theorem pageMarks_readTags (hpages : ∀ page ∈ d.pages, ∀ m ∈ page.2, m.Markless) :
    (readTags d.bodyText).flatMap Tag.pageMarks = documentMarks (d.pages.map Prod.fst) := by
  have hframing : ∀ page ∈ d.pages, ∀ m ∈ page.2, m.Framing :=
    fun page hpage m hm => Markless.framing (hpages page hpage m hm)
  have hscan : Scan IsTagName Attribute.IsApart
      (fun s => (readFrom .content s).flatMap Tag.pageMarks)
      (fun t found => t.pageMarks ++ found) fun _ => True :=
    (scan_readFrom Tag.pageMarks_slash).mono (fun _ hname => hname.isName) fun _ ha => ha.isName
  have hadd : ∀ ts : List Tag, ts.foldr (fun t found => t.pageMarks ++ found) [] =
      ts.flatMap Tag.pageMarks := by
    intro ts
    induction ts with
    | nil => rfl
    | cons t rest ih => rw [List.foldr_cons, ih, List.flatMap_cons]
  have hread := (scan_bodyText hscan hframing (t := []) trivial).2
  rw [readFrom_nil, List.flatMap_nil, hadd, pageMarks_bodyTags hpages, List.append_nil] at hread
  exact hread

/-- **From its head on, a document says of an attribute as often that it has a value as it has marks
that are written so.** -/
theorem places_sections (hscript : Leads [.other] unsettled d.script.toList)
    (hpages : ∀ page ∈ d.pages, ∀ m ∈ page.2, m.Markless) {mark : PageMark}
    {name value : String} (hmark : mark.written = attr name value) (hname : name ∈ countedNames)
    (hvalue : IsName value) :
    places (marker name value) (d.bodyText ++ d.scriptText).toList =
      (documentMarks (d.pages.map Prod.fst)).countP fun m => m.written = mark.written := by
  have hframing : ∀ page ∈ d.pages, ∀ m ∈ page.2, m.Framing :=
    fun page hpage m hm => Markless.framing (hpages page hpage m hm)
  have hscan : Scan IsTagName Attribute.IsApart (places (marker name value))
      (fun t n => t.attributes.countP (· = mark.written) + n) (Text.Barred (markerHead name)) := by
    rw [hmark]
    exact (scan_marker (isName_of_mem_countedNames _ hname) hvalue).mono
      (fun _ hname => hname.isName) fun _ ha => ⟨ha.isName, ha.endsApart _ hname⟩
  have hbarred : Text.Barred (markerHead name) d.scriptText.toList := by
    have hlt : '<' ∉ markerHead name :=
      notMem_markerHead (isName_of_mem_countedNames _ hname) (by decide) (by decide)
    rw [toList_scriptText]
    exact Text.barred_cons (by decide) hlt
  have hplaces := (scan_bodyText hscan hframing hbarred).2
  rw [String.toList_append, hplaces, Tag.foldr_countP, pageMarks_bodyTags hpages,
    places_scriptText hscript hname hvalue, Nat.add_zero]

end DocumentParts

/-! ## Compiled pages -/

theorem isName_decimal (n : Nat) : IsName (decimal n) := by
  constructor
  · rw [decimal, String.toList_ofList]
    exact Nat.toDigits_ne_nil
  · rw [decimal, String.toList_ofList]
    intro c hc
    simp [isNameChar, Char.isAlphanum, isDigit_toDigits n c hc]

/-- What a document shows of `k` page breaks: its tags hold the marks of `k + 1` pages and no
others, those of a page behind its own tag, and its text has the markers at as many places. -/
structure ShowsPages (k : Nat) (html : String) : Prop where
  marks : (readTags (bodyMarkup html)).flatMap Tag.pageMarks = pageMarksOf k
  pages : ∀ i : Nat, places (marker "data-page" (decimal i)) (fromHead html).toList =
    if i ≤ k then 1 else 0
  next : places (marker "data-page-nav" "next") (fromHead html).toList = k
  back : places (marker "data-page-nav" "back") (fromHead html).toList = k
  submit : places (marker "class" "submit-btn") (fromHead html).toList = 1

/-- A document whose pages are those of `k` breaks shows them. -/
theorem DocumentParts.showsPages_write {d : DocumentParts} {k : Nat} (hstyle : Calm d.stylesheet)
    (hcustom : given? d.form.pixels.customScripts = none)
    (hscript : Leads [.other] unsettled d.script.toList)
    (hpages : ∀ page ∈ d.pages, ∀ m ∈ page.2, m.Markless)
    (hmarks : documentMarks (d.pages.map Prod.fst) = pageMarksOf k) : ShowsPages k d.write := by
  have hframing : ∀ page ∈ d.pages, ∀ m ∈ page.2, m.Framing :=
    fun page hpage m hm => Markless.framing (hpages page hpage m hm)
  have hplaces {mark : PageMark} {name value : String} (hmark : mark.written = attr name value)
      (hname : name ∈ countedNames) (hvalue : IsName value) :
      places (marker name value) (fromHead d.write).toList =
        (pageMarksOf k).countP fun m => m.written = attr name value := by
    rw [fromHead_write hstyle hcustom, places_sections hscript hpages hmark hname hvalue, hmarks,
      hmark]
  refine ⟨?_, fun i => ?_, ?_, ?_, ?_⟩
  · rw [bodyMarkup_write hstyle hcustom hframing, pageMarks_readTags hpages, hmarks]
  · have hmark : (PageMark.page (decimal i) "div" false).written = attr "data-page" (decimal i) :=
      rfl
    rw [hplaces hmark (by simp [countedNames]) (isName_decimal i), countP_page]
  · have hmark : (PageMark.turn "next").written = attr "data-page-nav" "next" := rfl
    have hnext : IsName "next" := isName_ofList rfl
    rw [hplaces hmark (by simp [countedNames]) hnext, countP_next]
  · have hmark : (PageMark.turn "back").written = attr "data-page-nav" "back" := rfl
    have hback : IsName "back" := isName_ofList rfl
    rw [hplaces hmark (by simp [countedNames]) hback, countP_back]
  · have hmark : PageMark.submit.written = attr "class" "submit-btn" := rfl
    have hsubmit : IsName "submit-btn" := isName_ofList rfl
    rw [hplaces hmark (by simp [countedNames]) hsubmit]
    exact countP_submit k

/-! ## Compiled images -/

/-- The images that the script of a document declares; the literal of each declaration is read as
JSON. -/
def declaredImages (html : String) : List (Except Json.SyntaxFault Json) :=
  (linesWhere declaresImages (bodyScript html).toList).map fun line =>
    let literal := String.ofList (line.drop Script.imagesMark.length).dropLast
    Json.read (.ofLength literal.length) literal

theorem declaredImages_of_line {html : String} {images : List (Option String)}
    (h : linesWhere declaresImages (bodyScript html).toList = [Script.imagesLine images]) :
    declaredImages html = [.ok (Script.heroJson images)] := by
  have hexact : (Script.heroJson images).Exact := by
    refine Json.exact_array (List.forall_mem_map.2 fun image _ => ?_)
    cases image
    all_goals trivial
  have hliteral : String.ofList
      ((Script.imagesLine images).drop Script.imagesMark.length).dropLast =
        Script.literal (Script.heroJson images) := by
    rw [Script.imagesLine, List.drop_left, List.dropLast_concat, String.ofList_toList]
  rw [declaredImages, h, List.map_singleton]
  dsimp only
  rw [hliteral, Script.read_literal hexact]

/-- What the images of a form's pages are: one for each page, or none for any. -/
structure Form.SwapsImages (form : Form) (images : List (Option String)) : Prop where
  length : images.length = pageBreaks form.fields + 1
  unused : form.layout.usesImage = false → ∀ image ∈ images, image = none
  /-- The image of a page is its own, unless that is empty, and else that of the layout. -/
  ofPage : form.layout.usesImage = true → ∀ i ≤ pageBreaks form.fields,
    images[i]? = some ((given? (Table.lookup (i : Int) form.pageHeroImages)).or
      (given? form.layoutImageUrl))
  /-- The first page begins with the image of the stylesheet. -/
  first : form.layout.usesImage = true → images[0]? = some (LayoutImage.ofForm form).url

namespace Form

variable {form : Form} {settings : Settings} {logo : Option String} {html : String}

theorem shownHeroImages_paginate (form : Form) :
    form.shownHeroImages (paginate form.fields) =
      (List.range (pageBreaks form.fields + 1)).map fun i : Nat =>
        if form.layout.usesImage then form.heroImage? i else none := by
  rw [shownHeroImages, heroImages, ← index_paginate, List.map_map]
  split
  · simp_all [Function.comp_def]
  · simp_all [Function.comp_def]

theorem swapsImages_paginate (form : Form) :
    form.SwapsImages (form.shownHeroImages (paginate form.fields)) := by
  have hat (i : Nat) (hi : i ≤ pageBreaks form.fields) :
      (form.shownHeroImages (paginate form.fields))[i]? =
        some (if form.layout.usesImage then form.heroImage? i else none) := by
    rw [shownHeroImages_paginate, List.getElem?_map, List.getElem?_range (by omega)]
    rfl
  refine ⟨?_, ?_, ?_, ?_⟩
  · rw [shownHeroImages_paginate, List.length_map, List.length_range]
  · intro hunused image himage
    rw [shownHeroImages_paginate, List.mem_map] at himage
    obtain ⟨i, -, rfl⟩ := himage
    rw [hunused]
    rfl
  · intro huses i hi
    rw [hat i hi, if_pos huses]
    rfl
  · intro huses
    rw [hat 0 (Nat.zero_le _), if_pos huses]
    rfl

/-- **The pages of a document are those of its page breaks.** Whatever texts a form holds, a
document without markup of its author shows one page more than the form has breaks, with the dots
and buttons that belong to them, and its script swaps one image for each. -/
theorem pages_compile (hcustom : given? form.pixels.customScripts = none)
    (hraw : settings.allowRawHtml = false)
    (h : (form.compile settings logo).result = .ok html) :
    ShowsPages (pageBreaks form.fields) html ∧
      ∃ images, declaredImages html = [.ok (Script.heroJson images)] ∧
        form.SwapsImages images := by
  obtain ⟨rendered, hrendered, rfl⟩ := compile_eq_ok h
  have hmarkless : ∀ page ∈ (form.parts settings logo rendered).pages, ∀ m ∈ page.2,
      m.Markless := by
    intro page hpage m hm
    obtain ⟨f, -, hrender⟩ := exists_field hrendered hpage hm
    exact Field.markless_render (.inl hraw) hrender
  have hmarks : DocumentParts.documentMarks
      ((form.parts settings logo rendered).pages.map Prod.fst) =
        pageMarksOf (pageBreaks form.fields) := by
    have hpages : (form.parts settings logo rendered).pages.map Prod.fst = paginate form.fields :=
      map_fst_renderPages hrendered
    rw [hpages, DocumentParts.documentMarks_paginate]
  have hstyle : Calm (form.parts settings logo rendered).stylesheet := calm_stylesheet_parts
  have hscript : Leads [.other] unsettled (form.parts settings logo rendered).script.toList := by
    dsimp only [parts]
    exact form.leads_script settings (paginate form.fields)
  have hshows := DocumentParts.showsPages_write hstyle hcustom hscript hmarkless hmarks
  refine ⟨hshows, form.shownHeroImages (paginate form.fields), ?_, form.swapsImages_paginate⟩
  apply declaredImages_of_line
  rw [DocumentParts.bodyScript_write hstyle hcustom
    fun page hpage m hm => Markless.framing (hmarkless page hpage m hm),
    DocumentParts.linesWhere_scriptText]
  dsimp only [parts]
  exact form.linesWhere_script settings (paginate form.fields)

/-- A form whose texts look like pages, buttons and declarations of images. -/
def forgingForm : Form :=
  { title := "<div data-page=\"0\">"
    layout := .splitLeft
    layoutImageUrl := some "/beside.png"
    pageHeroImages := [(1, "\";\nvar heroImages = [];"), (2, "")]
    fields := [{ id := "a", kindName := "page-break" },
               { id := "b", name := "b", kindName := "text",
                 label := "data-page-nav=\"next\"",
                 defaultValue := some "\" class=\"submit-btn" },
               { id := "c", kindName := "page-break" }] }

theorem pages_forgingForm :
    ∃ html, (forgingForm.compile {} none).result = .ok html ∧ ShowsPages 2 html ∧
      ∃ images, declaredImages html = [.ok (Script.heroJson images)] ∧
        forgingForm.SwapsImages images := by
  have hrender : ∀ f ∈ forgingForm.fields,
      ∃ m, f.render (forgingForm.renderOptions {}) forgingForm.fields = .ok m := by
    simp only [forgingForm, List.forall_mem_cons, List.not_mem_nil, false_implies, implies_true,
      and_true]
    exact ⟨⟨_, rfl⟩, ⟨_, rfl⟩, ⟨_, rfl⟩⟩
  obtain ⟨html, h⟩ := exists_compile none (checkReferences_lenient forgingForm) hrender
  exact ⟨html, h, pages_compile rfl rfl h⟩

end Form

end FormPress
