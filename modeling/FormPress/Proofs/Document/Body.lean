import FormPress.Document.Page
import FormPress.Proofs.Document.Marks
import Mathlib.Data.List.Basic

/-!
# The body of a document

The markup of a document between its head and its script. It is built from plain names, and the
marks of pages in it are those of the compiler: the dots, and for each page its own mark and those
of its buttons. Nothing else in the body is a mark, so no text of a form can add one.
-/

namespace FormPress

open Markup

namespace DocumentParts

variable {d : DocumentParts}

/-! ## Header -/

theorem markless_drawing {size : String} {shapes : List Markup} (h : ∀ m ∈ shapes, m.Markless) :
    (drawing size shapes).Markless := by
  simp only [drawing, attr, built_element, List.forall_mem_cons, List.not_mem_nil, false_implies,
    implies_true, and_true]
  refine ⟨isTagName_ofList rfl, ?_, h⟩
  repeat' apply And.intro
  all_goals exact silent_ofList rfl

theorem markless_pin : ∀ m ∈ pin, m.Markless := by
  simp only [pin, attr, built_closed, List.forall_mem_cons, List.not_mem_nil, false_implies,
    implies_true, and_true]
  repeat' apply And.intro
  all_goals first | exact isTagName_ofList rfl | exact silent_ofList rfl | simp

theorem markless_calendar : ∀ m ∈ calendar, m.Markless := by
  simp only [calendar, stroke, attr, built_closed, List.forall_mem_cons, List.not_mem_nil,
    false_implies, implies_true, and_true]
  repeat' apply And.intro
  all_goals first | exact isTagName_ofList rfl | exact silent_ofList rfl | simp

theorem markless_eventLine : ∀ m ∈ d.eventLine, m.Markless := by
  have hitem : ∀ {shapes : List Markup} (s : String), (∀ m ∈ shapes, m.Markless) →
      (eventItem shapes s).Markless := by
    intro shapes s hshapes
    simp only [eventItem, attr, built_element, markless_drawing hshapes, built_text,
      List.forall_mem_cons, List.not_mem_nil, false_implies, implies_true, and_true]
    exact ⟨isTagName_ofList rfl, silent_class (by simp)⟩
  rw [eventLine, List.forall_mem_append, List.forall_mem_map, List.forall_mem_map]
  exact ⟨fun s _ => hitem s markless_pin, fun s _ => hitem s markless_calendar⟩

theorem markless_titleRun (r : TitleRun) : (titleRun r).Markless := by
  unfold titleRun
  split
  · simp only [attr, built_label, List.forall_mem_cons, List.not_mem_nil, false_implies,
      implies_true, and_true]
    exact ⟨isTagName_ofList rfl, silent_class (by simp), silent_ofList rfl⟩
  · rw [Markless, built_label]
    exact ⟨isTagName_ofList rfl, by simp⟩

theorem markless_header : d.header.Markless := by
  have hevent : ∀ m ∈ (if d.eventLine.isEmpty then []
      else [block 4 "div" [attr "class" "form-event-meta"] d.eventLine]), m.Markless := by
    split
    · simp
    · rw [List.forall_mem_singleton, Markless, built_block]
      refine ⟨isTagName_ofList rfl, ?_, markless_eventLine⟩
      rw [List.forall_mem_singleton]
      exact silent_class (by simp)
  simp only [header, attr, built_block, built_element, built_label, markless_titleRun,
    List.forall_mem_append, List.forall_mem_cons, List.forall_mem_map, List.not_mem_nil,
    false_implies, implies_true, and_true]
  refine ⟨isTagName_ofList rfl, silent_class (by simp), ⟨⟨isTagName_ofList rfl, ?_⟩, ?_⟩, hevent⟩
  · exact fun _ _ => ⟨isTagName_ofList rfl, silent_class (by simp)⟩
  · exact fun _ _ => isTagName_ofList rfl

/-! ## Pages -/

theorem framing_pageIndicator : ∀ m ∈ d.pageIndicator, m.Framing := by
  unfold pageIndicator
  split
  · simp
  · simp only [pageDot, attr, built_block, built_element, List.forall_mem_cons,
      List.forall_mem_map, List.not_mem_nil, false_implies, implies_true, and_true]
    refine ⟨isTagName_ofList rfl, isApart_ofList rfl, fun _ _ => ?_⟩
    exact ⟨isTagName_ofList rfl, isApart_ofList rfl, isApart_ofList rfl⟩

theorem framing_submitButton : d.submitButton.Framing := by
  simp only [submitButton, attr, built_label, List.forall_mem_cons, List.not_mem_nil,
    false_implies, implies_true, and_true]
  exact ⟨isTagName_ofList rfl, isApart_ofList rfl, isApart_ofList rfl⟩

theorem framing_turnButton (css direction title : String) :
    (turnButton css direction title).Framing := by
  simp only [turnButton, attr, built_label, List.forall_mem_cons, List.not_mem_nil,
    false_implies, implies_true, and_true]
  refine ⟨isTagName_ofList rfl, ?_⟩
  repeat' apply And.intro
  all_goals exact isApart_ofList rfl

theorem framing_pageButtons (p : Page) : (d.pageButtons p).Framing := by
  unfold pageButtons
  split
  · rw [Framing, built_block, List.forall_mem_singleton, List.forall_mem_singleton]
    exact ⟨isTagName_ofList rfl, isApart_ofList rfl, framing_submitButton⟩
  · rw [Framing, built_block, List.forall_mem_singleton, List.forall_mem_append,
      List.forall_mem_singleton]
    refine ⟨isTagName_ofList rfl, isApart_ofList rfl, ?_, ?_⟩
    · split
      · rw [List.forall_mem_singleton]
        exact framing_turnButton _ _ _
      · simp
    · split
      · exact framing_turnButton _ _ _
      · exact framing_submitButton

theorem framing_pageMarkup {page : Page × List Markup} (h : ∀ m ∈ page.2, m.Framing) :
    (d.pageMarkup page).Framing := by
  simp only [pageMarkup, attr, bare, built_block, framing_pageButtons, forall_mem_bareIf,
    List.forall_mem_append, List.forall_mem_cons, List.not_mem_nil, false_implies, implies_true,
    and_true]
  exact ⟨isTagName_ofList rfl,
    ⟨⟨isApart_ofList rfl, isApart_ofList rfl⟩, fun _ => isApart_ofList rfl⟩,
    isTagName_ofList rfl, isApart_ofList rfl, h⟩

/-- The place for a fault of the whole form. -/
theorem markless_formError :
    (Markup.element "div"
      [attr "id" "form-error", attr "class" "form-error", attr "role" "alert", bare "hidden"]
      []).Markless := by
  simp only [attr, bare, built_element, List.forall_mem_cons, List.not_mem_nil, false_implies,
    implies_true, and_true]
  exact ⟨isTagName_ofList rfl, silent_ofList rfl, silent_class (by simp), silent_ofList rfl,
    silent_ofList rfl⟩

theorem framing_formElement (hpages : ∀ page ∈ d.pages, ∀ m ∈ page.2, m.Framing) :
    d.formElement.Framing := by
  rw [formElement, Framing, built_block, List.forall_mem_append, List.forall_mem_map,
    List.forall_mem_singleton]
  refine ⟨isTagName_ofList rfl, ?_, fun page hpage => framing_pageMarkup (hpages page hpage),
    markless_formError.framing⟩
  simp only [attr, bare, List.forall_mem_cons, List.not_mem_nil, false_implies, implies_true,
    and_true]
  exact ⟨isApart_ofList rfl, isApart_ofList rfl⟩

theorem markless_addressDisplay : ∀ m ∈ d.addressDisplay, m.Markless := by
  unfold addressDisplay
  split
  · simp only [attr, bare, built_block, built_element, markless_drawing markless_pin,
      List.forall_mem_cons, List.not_mem_nil, false_implies, implies_true, and_true, true_and]
    exact ⟨isTagName_ofList rfl, ⟨silent_ofList rfl, silent_class (by simp), silent_ofList rfl⟩,
      isTagName_ofList rfl, silent_class (by simp)⟩
  · simp

/-! ## Container and frame -/

theorem markless_logoMarkup (url : String) : (logoMarkup url).Markless := by
  simp only [logoMarkup, attr, built_element, built_void, List.forall_mem_cons, List.not_mem_nil,
    false_implies, implies_true, and_true]
  exact ⟨isTagName_ofList rfl, silent_class (by simp), isTagName_ofList rfl, silent_ofList rfl,
    silent_ofList rfl⟩

theorem markless_footer (s : String) :
    (label "div" [attr "class" "form-footer"] s).Markless := by
  rw [Markless, built_label, List.forall_mem_singleton]
  exact ⟨isTagName_ofList rfl, silent_class (by simp)⟩

theorem framing_container (hpages : ∀ page ∈ d.pages, ∀ m ∈ page.2, m.Framing) :
    d.container.Framing := by
  simp only [container, attr, built_block, List.forall_mem_append, List.forall_mem_cons,
    List.forall_mem_map, List.not_mem_nil, false_implies, implies_true, and_true]
  refine ⟨isTagName_ofList rfl, isApart_ofList rfl,
    ⟨fun url _ => (markless_logoMarkup url).framing, markless_header.framing,
      isTagName_ofList rfl, isApart_ofList rfl, ⟨framing_pageIndicator, framing_formElement hpages⟩,
      fun m hm => (markless_addressDisplay m hm).framing⟩,
    fun s _ => (markless_footer s).framing⟩

theorem markless_imagePlace {css : String} (h : css ≠ "submit-btn") :
    (imagePlace css).Markless := by
  simp only [imagePlace, attr, bare, built_element, List.forall_mem_cons, List.not_mem_nil,
    false_implies, implies_true, and_true]
  exact ⟨isTagName_ofList rfl, silent_class h, silent_ofList rfl⟩

theorem framing_frame (hpages : ∀ page ∈ d.pages, ∀ m ∈ page.2, m.Framing) :
    ∀ m ∈ d.frame, m.Framing := by
  have hpanel : (Markup.element "div" [attr "class" "layout-form-panel"]
      [newline 0, d.container, newline 0]).Framing := by
    simp only [attr, built_element, built_newline, framing_container hpages, List.forall_mem_cons,
      List.not_mem_nil, false_implies, implies_true, and_true]
    exact ⟨isTagName_ofList rfl, isApart_ofList rfl⟩
  have himage : ∀ {css : String}, css ≠ "submit-btn" → (imagePlace css).Framing :=
    fun h => (markless_imagePlace h).framing
  unfold frame
  split
  all_goals simp [himage, framing_container hpages, hpanel]

/-! ## Marks -/

theorem pageMarks_pageDot (p : Page) :
    (pageDot p).pageMarks = [.dot (Text.decimal p.index)] := by
  unfold pageDot
  split
  all_goals simp [Tag.pageMarks, Tag.pageMark?, attr]

theorem pageMarks_pageIndicator :
    d.pageIndicator.flatMap Markup.pageMarks =
      if d.pages.length ≤ 1 then []
      else d.pages.map fun page => .dot (Text.decimal page.1.index) := by
  have hdots : ∀ pages : List (Page × List Markup),
      (pages.map fun p => pageDot p.1).flatMap Markup.pageMarks =
        pages.map fun page => .dot (Text.decimal page.1.index) := by
    intro pages
    rw [List.flatMap_map, List.map_eq_flatMap]
    simp only [pageMarks_pageDot]
  unfold pageIndicator
  split
  · rfl
  · simp [hdots, Tag.pageMarks, Tag.pageMark?, attr]

theorem pageMarks_submitButton : d.submitButton.pageMarks = [.submit] := by
  simp [submitButton, Tag.pageMarks, Tag.pageMark?, attr]

theorem pageMarks_turnButton {css : String} (h : css ≠ "submit-btn") (direction title : String) :
    (turnButton css direction title).pageMarks = [.turn direction] := by
  simp [turnButton, Tag.pageMarks, Tag.pageMark?, attr, h]

/-- The marks of the buttons of a page. -/
def buttonMarks (p : Page) : List PageMark :=
  if p.count ≤ 1 then [.submit]
  else
    (if p.hasPrevious then [.turn "back"] else []) ++
      [if p.hasNext then .turn "next" else .submit]

theorem pageMarks_pageButtons (p : Page) : (d.pageButtons p).pageMarks = buttonMarks p := by
  have hback : (turnButton "btn-back" "back" "Back").pageMarks = [.turn "back"] :=
    pageMarks_turnButton (by simp) _ _
  have hnext : (turnButton "btn-next" "next" "Next").pageMarks = [.turn "next"] :=
    pageMarks_turnButton (by simp) _ _
  unfold pageButtons buttonMarks
  split
  · simp [pageMarks_submitButton, Tag.pageMarks, Tag.pageMark?, attr]
  · cases p.hasPrevious
    all_goals
      cases p.hasNext
      all_goals
        simp [hback, hnext, pageMarks_submitButton, Tag.pageMarks, Tag.pageMark?, attr]

/-- The marks of a page: its own and those of its buttons. -/
def pageMarks (p : Page) : List PageMark :=
  .page (Text.decimal p.index) "div" (p.index != 0) :: buttonMarks p

/-- The fields of a page have no marks. -/
theorem pageMarks_pageMarkup {page : Page × List Markup} (h : ∀ m ∈ page.2, m.Markless) :
    (d.pageMarkup page).pageMarks = pageMarks page.1 := by
  have hfields : page.2.flatMap Markup.pageMarks = [] := flatMap_pageMarks_eq_nil h
  unfold pageMarkup pageMarks
  by_cases hfirst : page.1.index = 0
  all_goals
    simp [hfirst, hfields, pageMarks_pageButtons, Tag.pageMarks, Tag.pageMark?, attr, bare, bareIf,
      valueOf?]

theorem pageMarks_formElement (hpages : ∀ page ∈ d.pages, ∀ m ∈ page.2, m.Markless) :
    d.formElement.pageMarks = d.pages.flatMap fun page => pageMarks page.1 := by
  have heach : ∀ page ∈ d.pages, (d.pageMarkup page).pageMarks = pageMarks page.1 :=
    fun page hpage => pageMarks_pageMarkup (hpages page hpage)
  have hform : Tag.pageMarks ⟨"form", [attr "id" "generated-form", bare "novalidate"]⟩ = [] := by
    simp [Tag.pageMarks, Tag.pageMark?, attr, bare]
  rw [formElement, pageMarks_block, hform, List.flatMap_append, List.flatMap_map,
    List.flatMap_singleton, markless_formError.pageMarks_eq_nil, List.append_nil, List.nil_append]
  exact List.flatMap_congr heach

/-- The marks of the dots of a document and of its pages. -/
def documentMarks (pages : List Page) : List PageMark :=
  (if pages.length ≤ 1 then [] else pages.map fun p => .dot (Text.decimal p.index)) ++
    pages.flatMap pageMarks

theorem pageMarks_container (hpages : ∀ page ∈ d.pages, ∀ m ∈ page.2, m.Markless) :
    d.container.pageMarks = documentMarks (d.pages.map Prod.fst) := by
  have hlogo : ((given? d.logo).toList.map logoMarkup).flatMap Markup.pageMarks = [] :=
    flatMap_pageMarks_eq_nil (List.forall_mem_map.2 fun url _ => markless_logoMarkup url)
  have hfooter : ((given? d.form.footer).toList.map
      (label "div" [attr "class" "form-footer"])).flatMap Markup.pageMarks = [] :=
    flatMap_pageMarks_eq_nil (List.forall_mem_map.2 fun s _ => markless_footer s)
  have haddress := flatMap_pageMarks_eq_nil (markless_addressDisplay (d := d))
  have hplain : ∀ {css : String}, css ≠ "submit-btn" →
      Tag.pageMarks ⟨"div", [attr "class" css]⟩ = [] := by
    intro css hcss
    simp [Tag.pageMarks, Tag.pageMark?, attr, hcss]
  simp only [container, pageMarks_block, List.flatMap_append, List.flatMap_cons, List.flatMap_nil,
    hlogo, hfooter, haddress, markless_header.pageMarks_eq_nil, pageMarks_pageIndicator,
    pageMarks_formElement hpages, documentMarks, List.append_nil, List.nil_append]
  rw [hplain (by simp), hplain (by simp)]
  simp [List.flatMap_map, Function.comp_def]

/-- **The marks in the body of a document are those of its pages.** -/
theorem pageMarks_frame (hpages : ∀ page ∈ d.pages, ∀ m ∈ page.2, m.Markless) :
    d.frame.flatMap Markup.pageMarks = documentMarks (d.pages.map Prod.fst) := by
  have himage : ∀ {css : String}, css ≠ "submit-btn" → (imagePlace css).pageMarks = [] :=
    fun h => (markless_imagePlace h).pageMarks_eq_nil
  have hpanel : Tag.pageMarks ⟨"div", [attr "class" "layout-form-panel"]⟩ = [] := by
    simp [Tag.pageMarks, Tag.pageMark?, attr]
  unfold frame
  split
  all_goals simp [himage, hpanel, pageMarks_container hpages]

end DocumentParts

end FormPress
