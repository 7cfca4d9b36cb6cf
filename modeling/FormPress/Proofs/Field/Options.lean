import FormPress.Proofs.Field.WellFormed
import FormPress.Proofs.Json.RoundTrip
import FormPress.Proofs.Markup.Reader
import Mathlib.Data.List.Forall2

/-!
# Options in the markup of fields

Whoever reads the markup of a choice field finds its options in declared order, each with its value
and its markers. The markers of dependent options come in three forms: none, a value to be equal to,
or a JSON list of values; for every value of the source each form says whether the groups show the
option. Without such groups the markers are the rule of the option.
-/

namespace FormPress

open Markup

/-! ## Markers -/

/-- The markers of an option as far as they stand among its attributes. -/
structure Markers where
  field : Option String := none
  operator : Option String := none
  value : Option String := none
deriving DecidableEq, Repr

namespace Markers

def ofAttributes (attributes : List Attribute) : Markers :=
  ⟨valueOf? "data-cond-field" attributes, valueOf? "data-cond-op" attributes,
   valueOf? "data-cond-val" attributes⟩

/-- The markers for a condition; without one there are none. -/
def ofCondition? : Option ChoiceCondition → Markers
  | none => {}
  | some c => ⟨some c.fieldId, some c.operator.name, some c.value⟩

/-- How markers are read for a value of the field that they name: an option shows at this value. -/
inductive ShowsAt (m : Markers) (source : String) : Prop where
  | always (habsent : m = {})
  | equals (hoperator : m.operator = some "equals") (hvalue : m.value = some source)
  | oneOf {text : String} {values : List Json} (hoperator : m.operator = some "in")
    (hvalue : m.value = some text)
    (hread : Json.read (.ofLength text.length) text = .ok (.array values))
    (hmem : .string source ∈ values)

variable {source sourceId : String}

theorem showsAt_equals_iff {value : String} :
    ShowsAt (ofCondition? (some ⟨sourceId, .equals, value⟩)) source ↔ source = value := by
  constructor
  · intro h
    cases h with
    | always habsent => simp [ofCondition?] at habsent
    | equals _ hvalue => exact (Option.some.inj hvalue).symm
    | oneOf hoperator => simp [ofCondition?, Operator.name] at hoperator
  · rintro rfl
    exact .equals rfl rfl

/-- A JSON list of values shows an option at these values and no other. -/
theorem showsAt_oneOf_iff {values : List String} :
    ShowsAt (ofCondition? (some ⟨sourceId, .oneOf,
        (Json.array (values.map .string)).write Json.spaced⟩)) source ↔ source ∈ values := by
  have hexact : (Json.array (values.map .string)).Exact :=
    Json.exact_array (List.forall_mem_map.2 fun value _ => by simp [Json.Exact])
  have hwritten := Json.read_write Json.plain_spaced hexact
  constructor
  · intro h
    cases h with
    | always habsent => simp [ofCondition?] at habsent
    | equals hoperator => simp [ofCondition?, Operator.name] at hoperator
    | oneOf _ hvalue hread hmem =>
      obtain rfl := Option.some.inj hvalue
      rw [hwritten] at hread
      obtain rfl := Json.array.inj (Except.ok.inj hread)
      simpa using hmem
  · exact fun hmem => .oneOf rfl rfl hwritten (by simpa using hmem)

/-- Whichever form the markers of some source values take, they show an option at these values;
without values they show it always. -/
theorem showsAt_ofSources_iff {values : List String} :
    ShowsAt (ofCondition? (ChoiceCondition.ofSources? sourceId values)) source ↔
      values = [] ∨ source ∈ values := by
  match values with
  | [] => exact ⟨fun _ => .inl rfl, fun _ => .always rfl⟩
  | [value] => exact showsAt_equals_iff.trans (by simp)
  | value :: other :: rest => exact showsAt_oneOf_iff.trans (by simp)

theorem field_ofSources {values : List String} (h : values ≠ []) :
    (ofCondition? (ChoiceCondition.ofSources? sourceId values)).field = some sourceId := by
  match values with
  | [value] => rfl
  | value :: other :: rest => rfl

theorem ofAttributes_append (xs ys : List Attribute) :
    ofAttributes (xs ++ ys) =
      ⟨(ofAttributes xs).field.or (ofAttributes ys).field,
       (ofAttributes xs).operator.or (ofAttributes ys).operator,
       (ofAttributes xs).value.or (ofAttributes ys).value⟩ := by
  simp only [ofAttributes, valueOf?_append]

/-- The names under which a condition stands. -/
def names : List String :=
  ["data-cond-field", "data-cond-op", "data-cond-val"]

theorem ofAttributes_eq_absent {attributes : List Attribute}
    (h : ∀ a ∈ attributes, a.name ∉ names) : ofAttributes attributes = {} := by
  have hnone {key : String} (hkey : key ∈ names) : valueOf? key attributes = none :=
    valueOf?_eq_none fun a ha heq => h a ha (heq ▸ hkey)
  rw [ofAttributes, hnone (by simp [names]), hnone (by simp [names]), hnone (by simp [names])]

/-- Attributes under other names do not change the markers. -/
theorem ofAttributes_between (before xs : List Attribute) {after : List Attribute}
    (hbefore : ∀ a ∈ before, a.name ∉ names) (hafter : ∀ a ∈ after, a.name ∉ names) :
    ofAttributes (before ++ xs ++ after) = ofAttributes xs := by
  rw [ofAttributes_append, ofAttributes_append, ofAttributes_eq_absent hbefore,
    ofAttributes_eq_absent hafter]
  simp

/-- The markers of an option are its condition. -/
theorem ofAttributes_choiceView (f : Field) (c : Choice) :
    ofAttributes (f.choiceView c).attributes = ofCondition? (f.choiceCondition? c) := by
  rw [ChoiceView.attributes, Field.choiceView, Field.choiceEntries, List.map_append,
    ofAttributes_append]
  cases f.choiceCondition? c with
  | none =>
    cases given? c.address with
    | none => rfl
    | some address => rfl
  | some condition =>
    cases given? c.address with
    | none => rfl
    | some address => rfl

end Markers

/-! ## Reading options -/

/-- An option as a reader of tags finds it. -/
structure ShownOption where
  value : Option String
  markers : Markers
deriving DecidableEq, Repr

/-- The classes of labels that are options of a group. -/
def optionClasses : List String :=
  ["radio-option", "checkbox-option", "picture-choice-option"]

/-- A tag, with the one behind it, as an option: an option of a list that is not disabled, as the
prompt of a list is, or a label of a group, whose value is that of the input in it. -/
def shownOption? (t : Tag) (next : Option Tag) : Option ShownOption :=
  if t.name = "option" then
    if (valueOf? "disabled" t.attributes).isSome then none
    else some ⟨valueOf? "value" t.attributes, .ofAttributes t.attributes⟩
  else if t.name = "label" ∧ ∃ css ∈ optionClasses, valueOf? "class" t.attributes = some css then
    some ⟨(next.filter (·.name = "input")).bind fun input => valueOf? "value" input.attributes,
      .ofAttributes t.attributes⟩
  else none

/-- The options that tags show, one after another. -/
def readOptions : List Tag → List ShownOption
  | [] => []
  | t :: rest => (shownOption? t rest.head?).toList ++ readOptions rest

/-- An option with the markers of its attributes. -/
def ChoiceView.shown (c : ChoiceView) : ShownOption :=
  ⟨some c.value, .ofAttributes c.attributes⟩

@[simp] theorem readOptions_nil : readOptions [] = [] := rfl

theorem readOptions_cons (t : Tag) (rest : List Tag) :
    readOptions (t :: rest) = (shownOption? t rest.head?).toList ++ readOptions rest := rfl

/-- A tag that is no option, whatever stands behind it. -/
def Tag.IsAside (t : Tag) : Prop :=
  t.name ≠ "option" ∧
    (t.name = "label" → ∀ css ∈ optionClasses, valueOf? "class" t.attributes ≠ some css)

theorem isAside_of_name {t : Tag} (h : t.name ∉ ["option", "label"]) : t.IsAside := by
  simp only [List.mem_cons, List.not_mem_nil, or_false, not_or] at h
  exact ⟨h.1, fun hlabel => absurd hlabel h.2⟩

theorem readOptions_aside {t : Tag} (h : t.IsAside) (rest : List Tag) :
    readOptions (t :: rest) = readOptions rest := by
  have hlabel : ¬(t.name = "label" ∧
      ∃ css ∈ optionClasses, valueOf? "class" t.attributes = some css) := by
    rintro ⟨hname, css, hcss, hclass⟩
    exact h.2 hname css hcss hclass
  rw [readOptions_cons, shownOption?, if_neg h.1, if_neg hlabel]
  rfl

theorem readOptions_append {ts : List Tag} (h : ∀ t ∈ ts, t.IsAside) (rest : List Tag) :
    readOptions (ts ++ rest) = readOptions rest := by
  induction ts with
  | nil => rfl
  | cons t ts ih =>
    obtain ⟨ht, hts⟩ := List.forall_mem_cons.1 h
    rw [List.cons_append, readOptions_aside ht, ih hts]

/-- An element with content, of another name, is no option, but its content may be. -/
theorem readOptions_block {indent : Nat} {name : String} {attributes : List Attribute}
    {children : List Markup} (hname : name ∉ ["option", "label"]) (rest : List Tag) :
    readOptions ((block indent name attributes children).tags ++ rest) =
      readOptions (children.flatMap tags ++ rest) := by
  rw [tags_block, List.cons_append, readOptions_aside (isAside_of_name hname)]

/-- Options that are each read as themselves are read one after another. -/
theorem readOptions_flatMap {cs : List ChoiceView} {g : ChoiceView → Markup}
    (h : ∀ c ∈ cs, ∀ rest, readOptions ((g c).tags ++ rest) = c.shown :: readOptions rest)
    (rest : List Tag) :
    readOptions ((cs.map g).flatMap tags ++ rest) =
      cs.map ChoiceView.shown ++ readOptions rest := by
  induction cs with
  | nil => rfl
  | cons c cs ih =>
    obtain ⟨hc, hcs⟩ := List.forall_mem_cons.1 h
    rw [List.map_cons, List.flatMap_cons, List.append_assoc, hc, ih hcs, List.map_cons,
      List.cons_append]

/-- An option of a drop-down list. -/
theorem readOptions_listOption {c : ChoiceView} (hc : ∀ e ∈ c.entries, e.1 ∈ markerNames)
    (rest : List Tag) :
    readOptions ((FieldView.listOption c).tags ++ rest) = c.shown :: readOptions rest := by
  have henabled : valueOf? "disabled"
      (attr "value" c.value :: c.attributes ++ bareIf "selected" c.isChosen) = none := by
    rw [List.cons_append, valueOf?_attr_of_ne _ _ (by decide), valueOf?_append,
      valueOf?_bareIf_of_ne _ (by decide), Option.or_none]
    refine valueOf?_eq_none fun a ha heq => ?_
    obtain ⟨e, he, rfl⟩ := List.mem_map.1 ha
    have hname : "disabled" ∈ markerNames := heq ▸ hc e he
    simp [markerNames] at hname
  have hmarkers : Markers.ofAttributes
      (attr "value" c.value :: c.attributes ++ bareIf "selected" c.isChosen) =
        .ofAttributes c.attributes :=
    Markers.ofAttributes_between [attr "value" c.value] _ (by simp [Markers.names, attr])
      (by simp [Markers.names, bare])
  rw [FieldView.listOption, tags_label, List.singleton_append, readOptions_cons, shownOption?,
    if_pos rfl, henabled, hmarkers, List.cons_append, valueOf?_attr_self]
  rfl

/-- A label of a group with an input and one tag more. -/
theorem readOptions_labelled {c : ChoiceView} {css : String} (hcss : css ∈ optionClasses)
    {input last : Tag} (hinput : input.name = "input")
    (hvalue : valueOf? "value" input.attributes = some c.value)
    (hlast : last.name ∉ ["option", "label"]) (rest : List Tag) :
    readOptions (⟨"label", attr "class" css :: c.attributes⟩ :: input :: last :: rest) =
      c.shown :: readOptions rest := by
  have hmarkers : Markers.ofAttributes (attr "class" css :: c.attributes) =
      .ofAttributes c.attributes := by
    have hclass := Markers.ofAttributes_between [attr "class" css] c.attributes
      (by simp [Markers.names, attr]) (List.forall_mem_nil _)
    rwa [List.append_nil] at hclass
  have haside : ∀ t ∈ [input, last], t.IsAside := by
    rw [List.forall_mem_cons, List.forall_mem_singleton]
    exact ⟨isAside_of_name (by simp [hinput]), isAside_of_name hlast⟩
  have hrest : readOptions (input :: last :: rest) = readOptions rest :=
    readOptions_append haside rest
  rw [readOptions_cons, hrest, shownOption?, if_neg (by simp),
    if_pos ⟨rfl, css, hcss, valueOf?_attr_self ..⟩, hmarkers, List.head?_cons,
    Option.filter_some_pos (by simpa using hinput), Option.bind_some, hvalue]
  rfl

/-! ## Controls -/

namespace FieldView

variable {v : FieldView}

theorem readOptions_groupOption {type : String} (htype : type ++ "-option" ∈ optionClasses)
    (c : ChoiceView) (rest : List Tag) :
    readOptions ((v.groupOption type c).tags ++ rest) = c.shown :: readOptions rest := by
  rw [groupOption, tags_block]
  refine readOptions_labelled htype rfl ?_ (by simp) rest
  simp [valueOf?_attr_of_ne]

theorem readOptions_pictureOption (c : ChoiceView) (rest : List Tag) :
    readOptions ((v.pictureOption c).tags ++ rest) = c.shown :: readOptions rest := by
  rw [pictureOption, tags_block]
  refine readOptions_labelled (by simp [optionClasses]) rfl ?_ (by simp) rest
  simp [valueOf?_attr_of_ne]

theorem isAside_of_mem_labelMarkup : ∀ t ∈ v.labelMarkup.tags, t.IsAside := by
  have hlabel : Tag.IsAside ⟨"label", [attr "class" "form-label", attr "for" v.field.id]⟩ :=
    ⟨by simp, fun _ => by simp [optionClasses]⟩
  unfold labelMarkup
  split
  · simp [hlabel, isAside_of_name]
  · simp [hlabel]

theorem isAside_of_mem_help (css : String) (text : Option String) :
    ∀ t ∈ (text.map (label "span" [attr "class" css])).toList.flatMap tags, t.IsAside := by
  cases text <;> simp [isAside_of_name]

/-- A group shows the options of its control. -/
theorem readOptions_grouped {animate : Bool} {control : Markup} {shown : List ShownOption}
    (h : ∀ rest, readOptions (control.tags ++ rest) = shown ++ readOptions rest) :
    readOptions (v.grouped animate control).tags = shown := by
  have hhelp := readOptions_append (isAside_of_mem_help "help-text" (given? v.field.helpText)) []
  rw [List.append_nil] at hhelp
  rw [tags_grouped, readOptions_aside (isAside_of_name (by simp)),
    readOptions_append isAside_of_mem_labelMarkup, h, hhelp, readOptions_nil, List.append_nil]

/-- The first option of a drop-down list asks for a choice and is none. -/
theorem readOptions_promptOption (rest : List Tag) :
    readOptions (v.promptOption.tags ++ rest) = readOptions rest := by
  have hdisabled : valueOf? "disabled" ([attr "value" "", bare "disabled"] ++
      bareIf "selected" (!v.choices.any (·.isChosen))) = some "" := by
    simp [valueOf?, attr, bare]
  rw [promptOption, tags_label, List.singleton_append, readOptions_cons, shownOption?, if_pos rfl,
    hdisabled]
  rfl

/-- A piece of markup shows the options of the view and no other, whatever stands behind it. -/
def Offers (v : FieldView) (m : Markup) : Prop :=
  ∀ rest, readOptions (m.tags ++ rest) = v.choices.map ChoiceView.shown ++ readOptions rest

/-- Only markers are entries of options. -/
def MarksOnly (v : FieldView) : Prop :=
  ∀ c ∈ v.choices, ∀ e ∈ c.entries, e.1 ∈ markerNames

theorem marksOnly_of_view {f : Field} (hv : f.view = .ok v) : v.MarksOnly := by
  intro c hc e he
  obtain ⟨d, -, rfl⟩ := exists_choice hv hc
  exact Field.mem_markerNames he

theorem offers_dropDown (hv : v.MarksOnly) : v.Offers v.dropDown := by
  intro rest
  rw [dropDown, readOptions_block (by simp), List.flatMap_cons, List.append_assoc,
    readOptions_promptOption, readOptions_flatMap fun c hc => readOptions_listOption (hv c hc)]

theorem offers_multiList (hv : v.MarksOnly) : v.Offers v.multiList := by
  intro rest
  rw [multiList, readOptions_block (by simp),
    readOptions_flatMap fun c hc => readOptions_listOption (hv c hc)]

theorem offers_optionGroup {type : String} (htype : type ++ "-option" ∈ optionClasses) :
    v.Offers (v.optionGroup type) := by
  intro rest
  rw [optionGroup, readOptions_block (by simp),
    readOptions_flatMap fun c _ => readOptions_groupOption htype c]

theorem offers_pictureChoice : v.Offers v.pictureChoice := by
  intro rest
  rw [pictureChoice, readOptions_block (by simp),
    readOptions_flatMap fun c _ => readOptions_pictureOption c]

/-- The kinds that show the options of a field. A checkbox does too, if it has any. -/
def choiceKinds : List FieldKind :=
  [.select, .multiselect, .radio, .multipleChoice, .checkboxes, .pictureChoice]

theorem standsAlone_of_mem_choiceKinds : ∀ kind ∈ choiceKinds, kind.standsAlone = false := by
  decide

theorem offers_controlOf {fields : List Field} {o : RenderOptions} {kind : FieldKind} {m : Markup}
    (hv : v.MarksOnly) (hkind : kind ∈ choiceKinds ∨ kind = .checkbox ∧ v.choices ≠ [])
    (h : v.controlOf fields o kind = .ok m) : v.Offers m := by
  rcases hkind with hkind | ⟨rfl, hchoices⟩
  · cases kind with
    | select => exact Except.ok.inj h ▸ offers_dropDown hv
    | multiselect => exact Except.ok.inj h ▸ offers_multiList hv
    | radio | multipleChoice => exact Except.ok.inj h ▸ offers_optionGroup (by decide)
    | checkboxes => exact Except.ok.inj h ▸ offers_optionGroup (by decide)
    | pictureChoice => exact Except.ok.inj h ▸ offers_pictureChoice
    | _ => simp [choiceKinds] at hkind
  · obtain rfl := Except.ok.inj h
    rw [checkbox, if_neg (by simpa using hchoices)]
    exact offers_optionGroup (by decide)

end FieldView

/-! ## Fields -/

namespace Field

variable {f : Field} {fields : List Field} {o : RenderOptions} {m : Markup}

/-- The field shows its options. -/
def OffersChoices (f : Field) : Prop :=
  ∃ kind, f.kind = some kind ∧
    (kind ∈ FieldView.choiceKinds ∨ kind = .checkbox ∧ f.options ≠ [])

/-- A reader of the markup finds the tags of a control for choices, in its group. -/
theorem exists_choiceControl (hkind : f.OffersChoices) (h : f.render o fields = .ok m) :
    ∃ v kind control, f.view = .ok v ∧ f.kind = some kind ∧
      (kind ∈ FieldView.choiceKinds ∨ kind = .checkbox ∧ v.choices ≠ []) ∧
      v.controlOf fields o kind = .ok control ∧
      readTags m.write = (v.grouped o.animate control).tags := by
  obtain ⟨kind, hkind, hoffers⟩ := hkind
  have hgroup : kind.standsAlone = false := by
    rcases hoffers with hmem | ⟨rfl, -⟩
    · exact FieldView.standsAlone_of_mem_choiceKinds kind hmem
    · rfl
  have hraw : f.HoldsNoRaw o := by
    refine .inr ?_
    rw [hkind]
    rintro ⟨⟩
    contradiction
  obtain ⟨v, hv, -⟩ := rooted_render hraw h
  obtain ⟨control, hcontrol, hm⟩ := exists_control_grouped hv hkind hgroup h
  refine ⟨v, kind, control, hv, hkind, ?_, hcontrol, ?_⟩
  · exact hoffers.imp_right fun hbox => ⟨hbox.1, by simpa [choices_of_view hv] using hbox.2⟩
  · rw [readTags_write (sound_render hraw h), hm]

/-- A reader of the markup finds the options of the field, in their order. -/
theorem readOptions_render (hkind : f.OffersChoices) (h : f.render o fields = .ok m) :
    readOptions (readTags m.write) = f.options.map fun c => (f.choiceView c).shown := by
  obtain ⟨v, kind, control, hv, -, hshows, hcontrol, htags⟩ := exists_choiceControl hkind h
  have hoffers : v.Offers control :=
    FieldView.offers_controlOf (FieldView.marksOnly_of_view hv) hshows hcontrol
  rw [htags, FieldView.readOptions_grouped hoffers, choices_of_view hv, List.map_map]
  rfl

end Field

/-! ## What markers mean -/

/-- Some group for a source value lists an option value. -/
def DependentChoices.Lists (d : DependentChoices) (source value : String) : Prop :=
  ∃ g ∈ d.groups, g.sourceValue = source ∧ value ∈ g.visible

theorem DependentChoices.mem_sourcesOf {d : DependentChoices} {source value : String} :
    source ∈ d.sourcesOf value ↔ d.Lists source value := by
  simp only [sourcesOf, Lists, List.mem_map, List.mem_filter, List.contains_iff_mem]
  constructor
  · rintro ⟨g, ⟨hg, hmem⟩, heq⟩
    exact ⟨g, hg, heq, hmem⟩
  · rintro ⟨g, hg, heq, hmem⟩
    exact ⟨g, ⟨hg, hmem⟩, heq⟩

namespace Field

variable {f : Field} {fields : List Field} {o : RenderOptions} {m : Markup} {d : DependentChoices}

theorem activeDependent?_eq_some_iff :
    f.activeDependent? = some d ↔ f.dependent = some d ∧ d.sourceId ≠ "" ∧ d.groups ≠ [] := by
  simp [activeDependent?, Option.filter_eq_some_iff]

theorem activeDependent?_eq_none_iff :
    f.activeDependent? = none ↔ ∀ d, f.dependent = some d → d.sourceId = "" ∨ d.groups = [] := by
  simp [activeDependent?, Option.filter_eq_none_iff, ← or_iff_not_imp_left]

/-- The markers of an option whose field has dependent options with a source and a group: they name
the source, and at each of its values they show the option if a group for this value lists it, or no
group at all does. -/
structure FollowsGroups (d : DependentChoices) (value : String) (markers : Markers) : Prop where
  listed : (∃ source, d.Lists source value) → markers.field = some d.sourceId
  unlisted : (∀ source, ¬d.Lists source value) → markers = {}
  showsAt_iff : ∀ source, markers.ShowsAt source ↔
    (∀ other, ¬d.Lists other value) ∨ d.Lists source value

theorem followsGroups_ofSources (d : DependentChoices) (value : String) :
    FollowsGroups d value
      (.ofCondition? (ChoiceCondition.ofSources? d.sourceId (d.sourcesOf value))) := by
  have hnil : d.sourcesOf value = [] ↔ ∀ source, ¬d.Lists source value := by
    simp only [List.eq_nil_iff_forall_not_mem, DependentChoices.mem_sourcesOf]
  refine ⟨?_, ?_, ?_⟩
  · rintro ⟨source, hlists⟩
    exact Markers.field_ofSources fun heq => hnil.1 heq source hlists
  · intro hnone
    rw [hnil.2 hnone]
    rfl
  · intro source
    rw [Markers.showsAt_ofSources_iff, hnil, DependentChoices.mem_sourcesOf]

/-- The markers of an option without such groups: the rule of the option, if it names a field. -/
structure FollowsRule (c : Choice) (markers : Markers) : Prop where
  ruled : ∀ r, c.rule = some r → r.fieldId ≠ "" →
    markers = ⟨some r.fieldId, some r.operator.name, some r.value⟩
  unruled : (∀ r, c.rule = some r → r.fieldId = "") → markers = {}

theorem followsRule_choiceCondition (h : f.activeDependent? = none) (c : Choice) :
    FollowsRule c (.ofCondition? (f.choiceCondition? c)) := by
  rw [choiceCondition?, h]
  refine ⟨?_, ?_⟩
  · intro r hr hne
    rw [hr, Option.filter_some_pos (by simpa using hne)]
    rfl
  · intro hempty
    have hnone : c.rule.filter (·.fieldId != "") = none := by
      simpa [Option.filter_eq_none_iff] using hempty
    rw [hnone]
    rfl

/-- A shown option is the declared one, and its markers are right: dependent options with a source
and a group decide alone, else the rule of the option does. -/
structure Presents (f : Field) (c : Choice) (s : ShownOption) : Prop where
  value_eq : s.value = some c.value
  dependent : ∀ d, f.dependent = some d → d.sourceId ≠ "" → d.groups ≠ [] →
    FollowsGroups d c.value s.markers
  own : (∀ d, f.dependent = some d → d.sourceId = "" ∨ d.groups = []) → FollowsRule c s.markers

theorem presents_shown (f : Field) (c : Choice) : f.Presents c (f.choiceView c).shown := by
  have hmarkers : (f.choiceView c).shown.markers = .ofCondition? (f.choiceCondition? c) :=
    Markers.ofAttributes_choiceView f c
  refine ⟨rfl, ?_, ?_⟩
  · intro d hd hsource hgroups
    rw [hmarkers, choiceCondition?, activeDependent?_eq_some_iff.2 ⟨hd, hsource, hgroups⟩]
    exact followsGroups_ofSources d c.value
  · intro hinactive
    rw [hmarkers]
    exact followsRule_choiceCondition (activeDependent?_eq_none_iff.2 hinactive) c

/-- **The markers of options mean what the field says.** A reader of the markup finds one option for
each option of the field, in declared order, with its value, and with markers that its dependent
options or its own rule call for. -/
theorem options_render (hkind : f.OffersChoices) (h : f.render o fields = .ok m) :
    List.Forall₂ f.Presents f.options (readOptions (readTags m.write)) := by
  rw [readOptions_render hkind h, List.forall₂_map_right_iff]
  exact List.forall₂_same.2 fun c _ => f.presents_shown c

/-- The groups of the field below: one option value is listed under two source values, under one of
them twice, and another value under one. -/
def steeringGroups : DependentChoices :=
  { sourceId := "col&our"
    groups := [⟨"re\"d", ["<a>", "b, \"b\""]⟩, ⟨"'", ["<a>", "<a>"]⟩, ⟨"re\"d", ["<a>"]⟩] }

/-- Buttons that groups steer, with texts that are escaped in markup and in JSON. The first option
has a rule of its own, the last is in no group. -/
def steeredField : Field :=
  { id := "size", name := "size", kindName := "radio"
    options := [{ label := "A", value := "<a>", rule := some { fieldId := "x", value := "y" } },
                { label := "B", value := "b, \"b\"" }, { label := "C", value := "c" }]
    dependent := some steeringGroups }

theorem options_steeredField :
    steeredField.OffersChoices ∧ ∃ m, steeredField.render {} [steeredField] = .ok m ∧
      ∃ a b c, readOptions (readTags m.write) = [a, b, c] ∧
        a.value = some "<a>" ∧ a.markers.field = some "col&our" ∧
        a.markers.ShowsAt "'" ∧ a.markers.ShowsAt "re\"d" ∧ ¬a.markers.ShowsAt "y" ∧
        b.markers.ShowsAt "re\"d" ∧ ¬b.markers.ShowsAt "'" ∧ c.markers = {} := by
  have hoffers : steeredField.OffersChoices :=
    ⟨.radio, by decide, .inl (by simp [FieldView.choiceKinds])⟩
  have h : steeredField.render {} [steeredField] = .ok _ := rfl
  have hall := options_render hoffers h
  generalize hread : readOptions _ = shown at hall
  rcases hall with _ | ⟨ha, _ | ⟨hb, _ | ⟨hc, ⟨⟩⟩⟩⟩
  have hgroups : steeredField.dependent = some steeringGroups := rfl
  have hfollowsA := ha.dependent _ hgroups (by decide) (by decide)
  have hfollowsB := hb.dependent _ hgroups (by decide) (by decide)
  have hfollowsC := hc.dependent _ hgroups (by decide) (by decide)
  have hlistsA : steeringGroups.Lists "re\"d" "<a>" := ⟨_, List.mem_cons_self, rfl, by decide⟩
  have hlistsB : steeringGroups.Lists "re\"d" "b, \"b\"" := ⟨_, List.mem_cons_self, rfl, by decide⟩
  refine ⟨hoffers, _, h, _, _, _, hread, ha.value_eq, hfollowsA.listed ⟨_, hlistsA⟩, ?_, ?_, ?_, ?_,
    ?_, ?_⟩
  · exact (hfollowsA.showsAt_iff _).2 (.inr (by simp [DependentChoices.Lists, steeringGroups]))
  · exact (hfollowsA.showsAt_iff _).2 (.inr hlistsA)
  · rw [hfollowsA.showsAt_iff, not_or]
    exact ⟨fun hnone => hnone _ hlistsA, by simp [DependentChoices.Lists, steeringGroups]⟩
  · exact (hfollowsB.showsAt_iff _).2 (.inr hlistsB)
  · rw [hfollowsB.showsAt_iff, not_or]
    exact ⟨fun hnone => hnone _ hlistsB, by simp [DependentChoices.Lists, steeringGroups]⟩
  · exact hfollowsC.unlisted (by simp [DependentChoices.Lists, steeringGroups])

end Field

end FormPress
