import FormPress.Proofs.Number.Numeral
import FormPress.Proofs.Style.Calm
import FormPress.Style.Entrance
import FormPress.Style.Grid
import FormPress.Style.Layout
import FormPress.Style.Theme

/-!
# The stylesheets of a page

Every stylesheet of a page is calm. Each proof opens a sheet into its texts; what is not fixed among
them is a value, an address, a number or the name of a choice.
-/

namespace FormPress

open Text (Calm calm_ofList)

/-! ## Names of choices -/

theorem PageLayout.calm_name (l : PageLayout) : Calm l.name := by
  cases l
  all_goals exact calm_ofList rfl

theorem Alignment.calm_name (a : Alignment) : Calm a.name := by
  cases a
  all_goals exact calm_ofList rfl

theorem ImageFit.calm_placement (f : ImageFit) : Calm f.placement.1 ∧ Calm f.placement.2 := by
  cases f
  all_goals exact ⟨calm_ofList rfl, calm_ofList rfl⟩

theorem Shadow.calm_value (s : Shadow) : Calm s.value := by
  cases s
  all_goals exact calm_ofList rfl

theorem Easing.calm_value (e : Easing) : Calm e.value := by
  cases e
  all_goals exact calm_ofList rfl

namespace Style

/-! ## Controls -/

theorem calm_gradient {first last : String} (hfirst : Calm first) (hlast : Calm last) :
    Calm (gradient first last) := by
  unfold gradient
  repeat' apply Calm.append
  all_goals first | exact hfirst | exact hlast | exact calm_ofList rfl

theorem calm_onLines {selectors : List String} (h : ∀ s ∈ selectors, Calm s) :
    Calm (onLines selectors) :=
  Text.calm_join (calm_ofList rfl) h

theorem calm_inputRules : SheetCalm inputRules := by
  have harrow : Calm dropDownArrow := by
    unfold dropDownArrow
    repeat' apply Calm.append
    all_goals exact calm_ofList rfl
  simp only [inputRules, SheetCalm, Item.IsCalm, linesCalm_each, DeclarationsCalm, and_true]
  repeat' apply And.intro
  all_goals repeat' first | exact calm_ofList rfl | exact harrow | apply Calm.append

theorem calm_scaleRules : SheetCalm scaleRules := by
  have hstars : Calm (onLines [".star-scale label:hover, .star-scale label:hover ~ label",
      ".star-scale .star-input:checked ~ label"]) := by
    apply calm_onLines
    simp only [List.forall_mem_cons, List.not_mem_nil, false_implies, implies_true, and_true]
    exact ⟨calm_ofList rfl, calm_ofList rfl⟩
  simp only [scaleRules, SheetCalm, Item.IsCalm, DeclarationsCalm, and_true]
  repeat' apply And.intro
  all_goals first | exact calm_ofList rfl | exact hstars

theorem calm_controlRules : SheetCalm controlRules := by
  simp only [controlRules, sheetCalm_append, calm_inputRules, calm_scaleRules, true_and]
  simp only [choiceRules, rankingRules, switchRules, pictureRules, compoundRules, widgetRules,
    noticeRules, SheetCalm, Item.IsCalm, linesCalm_each, LinesCalm, DeclarationsCalm, and_true]
  repeat' apply And.intro
  all_goals exact calm_ofList rfl

/-! ## Theme -/

theorem calm_pageBackground (t : Theme) : Calm (pageBackground t) := by
  unfold pageBackground
  split
  · exact calm_ofList rfl
  · exact calm_gradient (calm_ofList rfl) (calm_ofList rfl)

theorem calm_themeVariables (t : Theme) : SheetCalm (themeVariables t) := by
  simp only [themeVariables, SheetCalm, Item.IsCalm, linesCalm_each, DeclarationsCalm, calm_value,
    t.headerAlign.calm_name, t.labelAlign.calm_name, t.formShadow.calm_value, true_and, and_true]
  repeat' apply And.intro
  all_goals first | exact calm_ofList rfl | apply calm_gradient
  all_goals exact calm_ofList rfl

theorem calm_pageRules (t : Theme) : SheetCalm (pageRules t) := by
  simp only [pageRules, SheetCalm, Item.IsCalm, linesCalm_each, LinesCalm, DeclarationsCalm,
    calm_pageBackground, true_and, and_true]
  repeat' apply And.intro
  all_goals exact calm_ofList rfl

theorem calm_headerRules (t : Theme) : SheetCalm (headerRules t) := by
  have hpadding : Calm t.headerPaddingTop := by
    unfold Theme.headerPaddingTop
    split
    · exact calm_ofList rfl
    · exact calm_ofList rfl
  simp only [headerRules, SheetCalm, Item.IsCalm, linesCalm_each, DeclarationsCalm, and_true]
  repeat' apply And.intro
  all_goals repeat' first | exact calm_ofList rfl | exact hpadding | apply Calm.append

theorem calm_groupRules : SheetCalm groupRules := by
  have hfaulty : Calm (onLines [".form-group.has-error .form-input",
      ".form-group.has-error .signature-pad", ".form-group.has-error .checkbox-group"]) := by
    apply calm_onLines
    simp only [List.forall_mem_cons, List.not_mem_nil, false_implies, implies_true, and_true]
    exact ⟨calm_ofList rfl, calm_ofList rfl, calm_ofList rfl⟩
  simp only [groupRules, SheetCalm, Item.IsCalm, linesCalm_each, DeclarationsCalm, and_true]
  repeat' apply And.intro
  all_goals first | exact calm_ofList rfl | exact hfaulty

theorem calm_submitRules : SheetCalm submitRules := by
  simp only [submitRules, SheetCalm, Item.IsCalm, linesCalm_each, DeclarationsCalm, and_true]
  repeat' apply And.intro
  all_goals first | exact calm_ofList rfl | apply calm_gradient
  all_goals exact calm_ofList rfl

theorem calm_narrowRules : SheetCalm narrowRules := by
  simp only [narrowRules, SheetCalm, Item.IsCalm, RulesCalm, DeclarationsCalm, and_true]
  repeat' apply And.intro
  all_goals exact calm_ofList rfl

theorem calm_themeSheet (t : Theme) : SheetCalm (themeSheet t) := by
  simp only [themeSheet, sheetCalm_append]
  exact ⟨⟨⟨⟨⟨⟨calm_themeVariables t, calm_pageRules t⟩, calm_headerRules t⟩, calm_groupRules⟩,
    calm_controlRules⟩, calm_submitRules⟩, calm_narrowRules⟩

/-! ## Layout -/

theorem calm_page (l : PageLayout) : Calm (page l) :=
  Calm.append (calm_ofList rfl) l.calm_name

theorem calm_splitDirection (l : PageLayout) : Calm (splitDirection l) := by
  unfold splitDirection
  split
  · exact calm_ofList rfl
  · exact calm_ofList rfl

theorem calm_position (i : LayoutImage) : Calm i.position := by
  refine Calm.append (Calm.append (Calm.append ?_ (calm_ofList rfl)) ?_) (calm_ofList rfl)
  · exact i.positionX.calm_label
  · exact i.positionY.calm_label

theorem calm_bannerImage (i : LayoutImage) : Calm i.bannerImage := by
  unfold LayoutImage.bannerImage
  split
  · exact calm_imageAddress _
  · exact calm_ofList rfl

theorem calm_splitRules (l : PageLayout) (i : LayoutImage) : SheetCalm (splitRules l i) := by
  have hinner : Calm (onLines
      [page l ++ " .logo-container", page l ++ " .form-header", page l ++ " .form-body"]) := by
    apply calm_onLines
    simp only [List.forall_mem_cons, List.not_mem_nil, false_implies, implies_true, and_true]
    repeat' apply And.intro
    all_goals exact (calm_page l).append (calm_ofList rfl)
  have hsize : Calm i.size := i.fit.calm_placement.1
  have hrepetition : Calm i.repetition := i.fit.calm_placement.2
  have haddress : Calm i.address := calm_imageAddress _
  have hflex : ∀ x : Binary64, Calm ("0 0 " ++ x.label ++ "%") := fun x =>
    (Calm.append (calm_ofList rfl) x.calm_label).append (calm_ofList rfl)
  have hbox : ∀ s : String, Calm s → Calm (page l ++ s) := fun s hs => (calm_page l).append hs
  simp only [splitRules, SheetCalm, Item.IsCalm, linesCalm_each, DeclarationsCalm, RulesCalm,
    calm_page, calm_splitDirection, calm_position, hinner, hsize, hrepetition, haddress, hflex,
    true_and, and_true]
  repeat' apply And.intro
  all_goals first | exact calm_ofList rfl | exact hbox _ (calm_ofList rfl)

theorem calm_bannerRules (i : LayoutImage) : SheetCalm (bannerRules i) := by
  have hsize : Calm i.size := i.fit.calm_placement.1
  have hrepetition : Calm i.repetition := i.fit.calm_placement.2
  simp only [bannerRules, SheetCalm, Item.IsCalm, linesCalm_each, DeclarationsCalm,
    calm_bannerImage, calm_position, hsize, hrepetition, true_and, and_true]
  repeat' apply And.intro
  all_goals exact calm_ofList rfl

theorem calm_floatingRules (i : LayoutImage) : SheetCalm (floatingRules i) := by
  have hsize : Calm i.size := i.fit.calm_placement.1
  have hrepetition : Calm i.repetition := i.fit.calm_placement.2
  have haddress : Calm i.address := calm_imageAddress _
  simp only [floatingRules, SheetCalm, Item.IsCalm, linesCalm_each, DeclarationsCalm,
    calm_position, hsize, hrepetition, haddress, true_and, and_true]
  repeat' apply And.intro
  all_goals exact calm_ofList rfl

theorem calm_layoutRules (l : PageLayout) (i : LayoutImage) : SheetCalm (layoutRules l i) := by
  cases l with
  | classic => trivial
  | card =>
    simp only [layoutRules, cardRules, SheetCalm, Item.IsCalm, linesCalm_each, DeclarationsCalm,
      and_true]
    repeat' apply And.intro
    all_goals repeat' first | exact calm_ofList rfl | apply Calm.append
  | splitLeft | splitRight => exact calm_splitRules _ i
  | bannerTop => exact calm_bannerRules i
  | floating => exact calm_floatingRules i
  | fullscreen =>
    simp only [layoutRules, fullscreenRules, SheetCalm, Item.IsCalm, linesCalm_each,
      DeclarationsCalm, and_true]
    repeat' apply And.intro
    all_goals exact calm_ofList rfl

theorem calm_writeLayout (l : PageLayout) (i : LayoutImage) : Calm (writeLayout l i) := by
  have hremark : Calm ("layout: " ++ l.name) := Calm.append (calm_ofList rfl) l.calm_name
  have hsheet : SheetCalm (.comment ("layout: " ++ l.name) :: layoutRules l i) :=
    ⟨hremark, calm_layoutRules l i⟩
  unfold writeLayout
  split
  · exact calm_ofList rfl
  · exact (calm_write hsheet).append (calm_ofList rfl)

/-! ## Grid and pages -/

theorem calm_gridRules (l : GridLayout) {gap : String} (hgap : Calm gap) :
    SheetCalm (gridRules l gap) := by
  cases l
  all_goals
    simp only [gridRules, gridOf, oneColumnBelow, SheetCalm, Item.IsCalm, DeclarationsCalm,
      RulesCalm, hgap, and_true]
    repeat' apply And.intro
    all_goals repeat' first | exact calm_ofList rfl | apply Calm.append

theorem calm_writeGrid (l : GridLayout) (gap : String) : Calm (writeGrid l gap) :=
  (calm_write (calm_gridRules l (calm_value gap))).append (calm_ofList rfl)

theorem calm_writePaging (pages : List Page) : Calm (writePaging pages) := by
  unfold writePaging
  split
  · exact calm_ofList rfl
  · apply calm_write
    simp only [pagingRules, SheetCalm, Item.IsCalm, DeclarationsCalm, and_true]
    repeat' apply And.intro
    all_goals exact calm_ofList rfl

end Style

/-! ## Entrances -/

open Style (SheetCalm Item.IsCalm DeclarationsCalm RulesCalm)

theorem Motion.calm_name (m : Motion) : Calm m.name := by
  have heffect : Calm m.effect := by
    cases m
    all_goals exact calm_ofList rfl
  exact Calm.append (calm_ofList rfl) heffect

theorem Motion.calm_frames (m : Motion) : RulesCalm m.frames := by
  cases m
  all_goals
    simp only [Motion.frames, RulesCalm, DeclarationsCalm, and_true]
    repeat' apply And.intro
    all_goals exact calm_ofList rfl

namespace Entrances

/-- A selector of a part that moves is one of four. -/
theorem calm_target (e : Entrances) : ∀ t ∈ e.targets, Calm t.1 := by
  intro t ht
  rw [targets, List.mem_filterMap] at ht
  obtain ⟨s, hs, hst⟩ := ht
  obtain ⟨m, -, rfl⟩ := Option.map_eq_some_iff.1 hst
  simp only [List.mem_cons, List.not_mem_nil, or_false] at hs
  rcases hs with rfl | rfl | rfl | rfl
  all_goals exact calm_ofList rfl

theorem calm_play (e : Entrances) (m : Motion) : Calm (e.play m).1 ∧ Calm (e.play m).2 := by
  refine ⟨calm_ofList rfl, ?_⟩
  have hduration : Calm (m.name ++ " " ++ Text.decimalInt e.duration ++ "ms ") :=
    ((m.calm_name.append (calm_ofList rfl)).append (calm_decimalInt _)).append (calm_ofList rfl)
  exact (hduration.append e.easing.calm_value).append (calm_ofList rfl)

theorem calm_rules (e : Entrances) : SheetCalm e.rules := by
  rw [rules, Style.sheetCalm_append, Style.sheetCalm_append, Style.sheetCalm_map,
    Style.sheetCalm_map]
  refine ⟨⟨fun m _ => ⟨m.calm_name, m.calm_frames⟩, fun t ht => ?_⟩,
    Style.sheetCalm_flatMap fun m _ => ?_⟩
  · exact ⟨e.calm_target t ht, (e.calm_play t.2).1, (e.calm_play t.2).2, trivial⟩
  · obtain ⟨hname, hvalue⟩ := e.calm_play m
    simp only [fieldRules, SheetCalm, Item.IsCalm, DeclarationsCalm, hname, hvalue, true_and,
      and_true]
    repeat' apply And.intro
    all_goals repeat' first | exact calm_ofList rfl | apply Calm.append

theorem calm_writeStyle (e : Entrances) : Calm e.writeStyle := by
  unfold writeStyle
  split
  · exact (Style.calm_write e.calm_rules).append (calm_ofList rfl)
  · exact calm_ofList rfl

end Entrances

end FormPress
