import FormPress.Proofs.Field.Defaults
import FormPress.Proofs.Field.Options

/-!
# Options that are chosen at first

Whoever reads the markup of a choice field finds every option with its value, and sees which of them
are chosen at first: those whose values the default of the field names. A drop-down list for one
choice has an option in front that asks for a choice, and it is the chosen one when no other is.
Where one choice is to be made, a default of several parts names these parts and not itself; so the
default chooses the option that has it for its value exactly when it is an item, or when neither it
nor a part of it is the value of an option. Where several choices may be made, joined items choose
exactly these items.
-/

namespace FormPress

open Markup

/-! ## Reading choices -/

/-- What a control offers, and whether it is chosen at first. -/
inductive Offer where
  /-- The option of a list that cannot be chosen again and asks for a choice. -/
  | prompt (isChosen : Bool)
  | choice (value : Option String) (isChosen : Bool)
deriving DecidableEq, Repr

/-- A tag has an attribute. -/
def Tag.has (key : String) (t : Tag) : Bool :=
  (valueOf? key t.attributes).isSome

/-- A tag as an offer: an option of a list, or one button or box. -/
def offer? (t : Tag) : Option Offer :=
  if t.name = "option" then
    if t.has "disabled" then some (.prompt (t.has "selected"))
    else some (.choice (valueOf? "value" t.attributes) (t.has "selected"))
  else if t.name = "input" ∧ ∃ type ∈ ["radio", "checkbox"],
      valueOf? "type" t.attributes = some type then
    some (.choice (valueOf? "value" t.attributes) (t.has "checked"))
  else none

/-- The offers of tags, one after another. -/
def readOffers (ts : List Tag) : List Offer :=
  ts.filterMap offer?

/-- An option of the view as it should be found. -/
def ChoiceView.offered (c : ChoiceView) : Offer :=
  .choice (some c.value) c.isChosen

/-- What a control for one choice from a list, or another control, offers when certain values are
chosen. -/
def Field.offers (f : Field) (chosen : List String) : List Offer :=
  (if f.kind = some .select then [.prompt (!f.options.any (chosen.contains ·.value))] else []) ++
    f.options.map fun c => .choice (some c.value) (chosen.contains c.value)

theorem readOffers_append (ss ts : List Tag) :
    readOffers (ss ++ ts) = readOffers ss ++ readOffers ts :=
  List.filterMap_append

theorem offer?_eq_none {t : Tag} (h : t.name ∉ ["option", "input"]) : offer? t = none := by
  simp only [List.mem_cons, List.not_mem_nil, or_false, not_or] at h
  rw [offer?, if_neg h.1, if_neg fun hinput => h.2 hinput.1]

theorem readOffers_cons_aside {t : Tag} (h : t.name ∉ ["option", "input"]) (rest : List Tag) :
    readOffers (t :: rest) = readOffers rest :=
  List.filterMap_cons_none (offer?_eq_none h)

theorem readOffers_aside {ts : List Tag} (h : ∀ t ∈ ts, t.name ∉ ["option", "input"]) :
    readOffers ts = [] :=
  List.filterMap_eq_nil_iff.2 fun t ht => offer?_eq_none (h t ht)

/-- Pieces that each make one offer make their offers in order. -/
theorem readOffers_flatMap {cs : List ChoiceView} {g : ChoiceView → Markup}
    (h : ∀ c ∈ cs, readOffers (g c).tags = [c.offered]) :
    readOffers ((cs.map g).flatMap tags) = cs.map ChoiceView.offered := by
  induction cs with
  | nil => rfl
  | cons c cs ih =>
    obtain ⟨hc, hcs⟩ := List.forall_mem_cons.1 h
    rw [List.map_cons, List.flatMap_cons, readOffers_append, hc, ih hcs, List.singleton_append,
      List.map_cons]

/-! ## Controls -/

/-- Behind attributes of other names a bare attribute is found when its condition holds. -/
theorem Tag.has_append_bareIf (name : String) {key : String} {attributes : List Attribute}
    (h : ∀ a ∈ attributes, a.name ≠ key) (condition : Bool) :
    Tag.has key ⟨name, attributes ++ bareIf key condition⟩ = condition := by
  rw [Tag.has, valueOf?_append, valueOf?_eq_none h, Option.none_or]
  cases condition <;> simp [bareIf, bare, valueOf?]

theorem readOffers_listOption {c : ChoiceView} (hc : ∀ e ∈ c.entries, e.1 ∈ markerNames) :
    readOffers (FieldView.listOption c).tags = [c.offered] := by
  have hothers (key : String) (hkey : key ∉ "value" :: markerNames) :
      ∀ a ∈ attr "value" c.value :: c.attributes, a.name ≠ key := by
    rw [List.mem_cons, not_or] at hkey
    rw [List.forall_mem_cons]
    refine ⟨Ne.symm hkey.1, fun a ha heq => hkey.2 ?_⟩
    obtain ⟨e, he, rfl⟩ := List.mem_map.1 ha
    exact heq ▸ hc e he
  have henabled : valueOf? "disabled"
      (attr "value" c.value :: c.attributes ++ bareIf "selected" c.isChosen) = none := by
    rw [valueOf?_append, valueOf?_eq_none (hothers _ (by simp [markerNames])), Option.none_or,
      valueOf?_bareIf_of_ne _ (by decide)]
  have hselected := Tag.has_append_bareIf "option"
    (hothers "selected" (by simp [markerNames])) c.isChosen
  rw [FieldView.listOption, tags_label, readOffers, List.filterMap_cons, offer?, if_pos rfl,
    hselected, Tag.has, henabled, List.cons_append, valueOf?_attr_self]
  rfl

/-- A label, the button or box in it, and one tag more make one offer. -/
theorem readOffers_labelled {c : ChoiceView} {label last : Tag} {attributes : List Attribute}
    {type : String} (htype : type ∈ ["radio", "checkbox"])
    (hfound : valueOf? "type" attributes = some type)
    (hvalue : valueOf? "value" attributes = some c.value)
    (hothers : ∀ a ∈ attributes, a.name ≠ "checked")
    (hlabel : label.name ∉ ["option", "input"]) (hlast : last.name ∉ ["option", "input"]) :
    readOffers [label, ⟨"input", attributes ++ bareIf "checked" c.isChosen⟩, last] =
      [c.offered] := by
  have htyped : valueOf? "type" (attributes ++ bareIf "checked" c.isChosen) = some type := by
    rw [valueOf?_append, hfound, Option.some_or]
  rw [readOffers_cons_aside hlabel, readOffers, List.filterMap_cons, offer?, if_neg (by simp),
    if_pos ⟨rfl, type, htype, htyped⟩, Tag.has_append_bareIf "input" hothers, valueOf?_append,
    hvalue, List.filterMap_cons_none (offer?_eq_none hlast)]
  rfl

namespace FieldView

variable {v : FieldView}

theorem readOffers_promptOption :
    readOffers v.promptOption.tags = [.prompt (!v.choices.any (·.isChosen))] := by
  have hothers : ∀ a ∈ [attr "value" "", bare "disabled"], a.name ≠ "selected" := by
    simp [attr, bare]
  have hselected := Tag.has_append_bareIf "option" hothers (!v.choices.any (·.isChosen))
  rw [promptOption, tags_label, readOffers, List.filterMap_cons, offer?, if_pos rfl, hselected]
  rfl

theorem readOffers_groupOption {type : String} (htype : type ∈ ["radio", "checkbox"])
    (c : ChoiceView) : readOffers (v.groupOption type c).tags = [c.offered] := by
  have hothers : ∀ a ∈ [attr "type" type, attr "name" v.field.name, attr "value" c.value] ++
      bareIf "required" (v.field.isRequired && type == "radio") ++
        bareIf "disabled" v.field.isDisabled, a.name ≠ "checked" := by
    rw [List.forall_mem_append, List.forall_mem_append, forall_mem_bareIf, forall_mem_bareIf]
    simp [attr, bare]
  rw [groupOption, tags_block]
  exact readOffers_labelled htype rfl rfl hothers (by simp) (by simp)

theorem readOffers_pictureOption (c : ChoiceView) :
    readOffers (v.pictureOption c).tags = [c.offered] := by
  have hothers : ∀ a ∈ [attr "type" "radio", attr "name" v.field.name, attr "value" c.value] ++
      bareIf "required" v.field.isRequired, a.name ≠ "checked" := by
    rw [List.forall_mem_append, forall_mem_bareIf]
    simp [attr, bare]
  have hradio : "radio" ∈ ["radio", "checkbox"] := List.mem_cons_self
  rw [pictureOption, tags_block]
  exact readOffers_labelled hradio rfl rfl hothers (by simp) (by simp)

/-- What the view of a field offers: its options, and for one choice from a list also the option
that asks for it. -/
def offers (v : FieldView) (kind : FieldKind) : List Offer :=
  (if kind = .select then [.prompt (!v.choices.any (·.isChosen))] else []) ++
    v.choices.map ChoiceView.offered

theorem readOffers_optionGroup {type : String} (htype : type ∈ ["radio", "checkbox"]) :
    readOffers (v.optionGroup type).tags = v.choices.map ChoiceView.offered := by
  rw [optionGroup, tags_block, readOffers_cons_aside (by simp)]
  exact readOffers_flatMap fun c _ => readOffers_groupOption htype c

theorem readOffers_controlOf {fields : List Field} {o : RenderOptions} {kind : FieldKind}
    {m : Markup} (hv : v.MarksOnly) (hkind : kind ∈ choiceKinds ∨ kind = .checkbox ∧ v.choices ≠ [])
    (h : v.controlOf fields o kind = .ok m) : readOffers m.tags = v.offers kind := by
  rcases hkind with hkind | ⟨rfl, hchoices⟩
  · cases kind with
    | select =>
      obtain rfl := Except.ok.inj h
      rw [dropDown, tags_block, readOffers_cons_aside (by simp), List.flatMap_cons,
        readOffers_append, readOffers_promptOption,
        readOffers_flatMap fun c hc => readOffers_listOption (hv c hc)]
      rfl
    | multiselect =>
      obtain rfl := Except.ok.inj h
      rw [multiList, tags_block, readOffers_cons_aside (by simp),
        readOffers_flatMap fun c hc => readOffers_listOption (hv c hc)]
      rfl
    | radio | multipleChoice =>
      obtain rfl := Except.ok.inj h
      exact readOffers_optionGroup (by simp)
    | checkboxes =>
      obtain rfl := Except.ok.inj h
      exact readOffers_optionGroup (by simp)
    | pictureChoice =>
      obtain rfl := Except.ok.inj h
      rw [pictureChoice, tags_block, readOffers_cons_aside (by simp)]
      exact readOffers_flatMap fun c _ => readOffers_pictureOption c
    | _ => simp [choiceKinds] at hkind
  · obtain rfl := Except.ok.inj h
    rw [checkbox, if_neg (by simpa using hchoices)]
    exact readOffers_optionGroup (by simp)

/-- Around its control a group has neither options nor inputs. -/
theorem exists_around_control (v : FieldView) (animate : Bool) (control : Markup) :
    ∃ front behind, (v.grouped animate control).tags = front ++ (control.tags ++ behind) ∧
      (∀ t ∈ front, t.name ∉ ["option", "input"]) ∧ ∀ t ∈ behind, t.name ∉ ["option", "input"] := by
  have hlabel : ∀ t ∈ v.labelMarkup.tags, t.name ∉ ["option", "input"] := by
    unfold labelMarkup
    split
    · simp
    · simp
  have hhelp : ∀ t ∈ ((given? v.field.helpText).map
      (label "span" [attr "class" "help-text"])).toList.flatMap tags,
      t.name ∉ ["option", "input"] := by
    cases given? v.field.helpText <;> simp
  refine ⟨_ :: v.labelMarkup.tags, _, tags_grouped v animate control, ?_, hhelp⟩
  rw [List.forall_mem_cons]
  exact ⟨by simp, hlabel⟩

theorem readOffers_grouped (animate : Bool) (control : Markup) :
    readOffers (v.grouped animate control).tags = readOffers control.tags := by
  obtain ⟨front, behind, htags, hfront, hbehind⟩ := exists_around_control v animate control
  rw [htags, readOffers_append, readOffers_append, readOffers_aside hfront,
    readOffers_aside hbehind, List.nil_append, List.append_nil]

end FieldView

/-! ## Fields -/

namespace Field

variable {f : Field} {fields : List Field} {o : RenderOptions} {m : Markup} {d : String}

/-- **A reader of the markup finds the options of the field, and those are chosen that the default
names.** -/
theorem readOffers_render (hkind : f.OffersChoices) (h : f.render o fields = .ok m) :
    readOffers (readTags m.write) = f.offers f.defaultValues := by
  obtain ⟨v, kind, control, hv, hkind, hshows, hcontrol, htags⟩ := exists_choiceControl hkind h
  have hoffers : v.offers kind = f.offers f.defaultValues := by
    simp only [FieldView.offers, offers, hkind, choices_of_view hv, Option.some.injEq,
      List.any_map, List.map_map]
    rfl
  rw [htags, FieldView.readOffers_grouped,
    FieldView.readOffers_controlOf (FieldView.marksOnly_of_view hv) hshows hcontrol, hoffers]

/-- Values choose the same offers when they agree about the options. -/
theorem offers_eq_iff {vs ws : List String} :
    f.offers vs = f.offers ws ↔ ∀ c ∈ f.options, (c.value ∈ vs ↔ c.value ∈ ws) := by
  have hcontains (c : Choice) : vs.contains c.value = ws.contains c.value ↔
      (c.value ∈ vs ↔ c.value ∈ ws) := by
    rw [Bool.eq_iff_iff, List.contains_iff_mem, List.contains_iff_mem]
  constructor
  · intro h c hc
    have hmap := (List.append_inj' h (by simp)).2
    have hchosen := List.map_inj_left.1 hmap c hc
    exact (hcontains c).1 (Offer.choice.inj hchosen).2
  · intro h
    have hsame : ∀ c ∈ f.options, vs.contains c.value = ws.contains c.value :=
      fun c hc => (hcontains c).2 (h c hc)
    have hany : f.options.any (vs.contains ·.value) = f.options.any (ws.contains ·.value) := by
      rw [Bool.eq_iff_iff, List.any_eq_true, List.any_eq_true]
      exact exists_congr fun c => and_congr_right fun hc => by rw [hsame c hc]
    rw [offers, offers, hany, List.map_congr_left fun c hc => by rw [hsame c hc]]

/-! ## One choice -/

/-- The kinds of fields in which one option is chosen. -/
def singleChoiceKinds : List FieldKind :=
  [.select, .radio, .multipleChoice, .pictureChoice]

/-- One option of the field is chosen. -/
def OffersOne (f : Field) : Prop :=
  ∃ kind ∈ singleChoiceKinds, f.kind = some kind

theorem OffersOne.offersChoices (h : f.OffersOne) : f.OffersChoices := by
  obtain ⟨kind, hmem, hkind⟩ := h
  have hchoice : ∀ kind ∈ singleChoiceKinds, kind ∈ FieldView.choiceKinds := by decide
  exact ⟨kind, hkind, .inl (hchoice kind hmem)⟩

/-- **Where one choice is to be made, those options are chosen that the default names.** It chooses
by its own value, and lets the list ask for a choice when no option has this value, exactly when it
is an item, or neither its value nor a value that it names is offered. -/
theorem offers_default_iff (hkind : f.OffersOne) (hd : f.defaultValue = some d) (hne : d ≠ "")
    (h : f.render o fields = .ok m) :
    readOffers (readTags m.write) = f.offers f.defaultValues ∧
      (readOffers (readTags m.write) = f.offers [d] ↔
        IsItem d ∨ ∀ c ∈ f.options, c.value ≠ d ∧ c.value ∉ f.defaultValues) := by
  have hread := readOffers_render hkind.offersChoices h
  refine ⟨hread, ?_⟩
  rw [hread, offers_eq_iff, isItem_iff_mem_defaultValues hd hne]
  by_cases hitem : d ∈ f.defaultValues
  · have hsingle : f.defaultValues = [d] := by
      rw [defaultValues_of_given hd hne,
        ((isItem_iff_mem_defaultValues hd hne).2 hitem).itemsOf_eq]
    simp [hsingle]
  · simp only [hitem, false_or, List.mem_singleton]
    refine forall₂_congr fun c _ => ⟨fun hiff => ?_, fun hneither => by simp [hneither]⟩
    have hvalue : c.value ≠ d := fun heq => hitem (heq ▸ hiff.2 heq)
    exact ⟨hvalue, fun hnamed => hvalue (hiff.1 hnamed)⟩

/-- A list whose default is an item with characters that markup escapes; the second option has it
for its value. -/
def itemSelect : Field :=
  { id := "s", name := "s", kindName := "select", defaultValue := some "b & \"c\""
    options := [{ label := "A", value := "a" }, { label := "B", value := "b & \"c\"" }] }

theorem offers_itemSelect :
    itemSelect.OffersOne ∧ itemSelect.defaultValue = some "b & \"c\"" ∧ "b & \"c\"" ≠ "" ∧
    ∃ m, itemSelect.render {} [itemSelect] = .ok m ∧
      readOffers (readTags m.write) =
        [.prompt false, .choice (some "a") false, .choice (some "b & \"c\"") true] := by
  have hkind : itemSelect.OffersOne := ⟨.select, by decide, by decide⟩
  have h : itemSelect.render {} [itemSelect] = .ok _ := rfl
  have hiff := (offers_default_iff hkind rfl (by decide) h).2
  refine ⟨hkind, rfl, by decide, _, h, ?_⟩
  rw [hiff.2 (.inl ⟨by decide, by decide⟩)]
  decide

/-- A list whose default is the value of an option, with a comma in it. -/
def commaSelect : Field :=
  { id := "city", name := "city", kindName := "select", defaultValue := some "Paris, France"
    options := [{ label := "Paris", value := "Paris, France" }] }

/-- The option that has the default for its value is not chosen; the list asks for a choice. -/
theorem offers_commaSelect :
    ∃ m, commaSelect.render {} [commaSelect] = .ok m ∧
      readOffers (readTags m.write) = [.prompt true, .choice (some "Paris, France") false] ∧
      commaSelect.offers ["Paris, France"] =
        [.prompt false, .choice (some "Paris, France") true] := by
  have h : commaSelect.render {} [commaSelect] = .ok _ := rfl
  have hchoices : commaSelect.OffersChoices := ⟨.select, by decide, .inl (by decide)⟩
  refine ⟨_, h, ?_, by decide⟩
  rw [readOffers_render hchoices h]
  decide

/-! ## Several choices -/

/-- Several options of the field may be chosen. -/
def OffersMany (f : Field) : Prop :=
  ∃ kind, f.kind = some kind ∧
    (kind ∈ [.multiselect, .checkboxes] ∨ kind = .checkbox ∧ f.options ≠ [])

theorem OffersMany.offersChoices (h : f.OffersMany) : f.OffersChoices := by
  obtain ⟨kind, hkind, hmany⟩ := h
  have hchoice : ∀ kind ∈ [FieldKind.multiselect, .checkboxes], kind ∈ FieldView.choiceKinds := by
    decide
  exact ⟨kind, hkind, hmany.imp_left (hchoice kind)⟩

/-- A field of several choices has no option that asks for one. -/
theorem OffersMany.offers_eq (h : f.OffersMany) (vs : List String) :
    f.offers vs = f.options.map fun c => .choice (some c.value) (vs.contains c.value) := by
  obtain ⟨kind, hkind, hmany⟩ := h
  have hselect : f.kind ≠ some .select := by
    rw [hkind]
    rintro ⟨⟩
    simp at hmany
  rw [offers, if_neg hselect, List.nil_append]

end Field

/-- The only input of a ranking is the hidden one with the values of the options in order. -/
theorem FieldView.inputs_ranking (v : FieldView) (animate : Bool) :
    (v.grouped animate v.ranking).tags.filter (·.name = "input") =
      [⟨"input", [attr "type" "hidden", attr "id" v.field.id, attr "name" v.field.name,
        attr "value" (Text.join valueSeparator (v.choices.map (·.value)))]⟩] := by
  have hnone {ts : List Tag} (hts : ∀ t ∈ ts, t.name ∉ ["option", "input"]) :
      ts.filter (·.name = "input") = [] := by
    rw [List.filter_eq_nil_iff]
    intro t ht hinput
    exact hts t ht (by simp [of_decide_eq_true hinput])
  have hitems : ((v.choices.map rankingItem).flatMap tags).filter (·.name = "input") = [] := by
    rw [List.filter_eq_nil_iff, List.forall_mem_flatMap, List.forall_mem_map]
    intro c _
    simp [rankingItem, moveButton]
  obtain ⟨front, behind, htags, hfront, hbehind⟩ := v.exists_around_control animate v.ranking
  rw [htags, List.filter_append, List.filter_append, hnone hfront, hnone hbehind, ranking,
    tags_block, List.filter_cons_of_neg (by simp), List.flatMap_cons, List.filter_append,
    tags_block, List.filter_cons_of_neg (by simp), hitems]
  simp

namespace Field

variable {f : Field} {fields : List Field} {o : RenderOptions} {m : Markup}

theorem inputs_render_ranking (hkind : f.kind = some .ranking) (h : f.render o fields = .ok m) :
    (readTags m.write).filter (·.name = "input") =
      [⟨"input", [attr "type" "hidden", attr "id" f.id, attr "name" f.name,
        attr "value" (Text.join valueSeparator (f.options.map (·.value)))]⟩] := by
  have hraw : f.HoldsNoRaw o := .inr (by simp [hkind])
  obtain ⟨v, hv, -⟩ := rooted_render hraw h
  obtain ⟨control, hcontrol, hm⟩ := exists_control_grouped hv hkind rfl h
  obtain rfl := Except.ok.inj hcontrol
  have hvalues : v.choices.map (·.value) = f.options.map (·.value) := by
    rw [choices_of_view hv, List.map_map]
    rfl
  rw [readTags_write (sound_render hraw h), ← hm, FieldView.inputs_ranking, field_of_view hv,
    hvalues]

/-- **Defaults are read as values are sent.** Items that are joined as the values of a submission
are what a default names, and exactly the options that have them for values are chosen where several
choices may be made. A ranking joins the values of its options in the same way. -/
theorem joinedDefault_render {vs : List String} (hvs : ∀ v ∈ vs, v ≠ "" ∧ IsItem v) :
    (∀ f : Field, f.defaultValue = some (Text.join valueSeparator vs) →
      (∀ v, v ∈ f.defaultValues ↔ v ∈ vs) ∧
      ∀ o fields m, f.OffersMany → f.render o fields = .ok m →
        readOffers (readTags m.write) =
          f.options.map fun c => .choice (some c.value) (vs.contains c.value)) ∧
    ∀ (f : Field) o fields m, f.kind = some .ranking → f.render o fields = .ok m →
      (readTags m.write).filter (·.name = "input") =
        [⟨"input", [attr "type" "hidden", attr "id" f.id, attr "name" f.name,
          attr "value" (Text.join valueSeparator (f.options.map (·.value)))]⟩] := by
  constructor
  · intro f hd
    have hvalues : f.defaultValues = vs := defaultValues_join hvs hd
    refine ⟨fun v => by rw [hvalues], fun o fields m hmany h => ?_⟩
    rw [readOffers_render hmany.offersChoices h, hvalues, hmany.offers_eq]
  · exact fun f o fields m hkind h => inputs_render_ranking hkind h

/-- Boxes of which two are checked at first, one of them with characters that markup escapes. -/
def checkedBoxes : Field :=
  { id := "b", name := "b", kindName := "checkbox", defaultValue := some "<x>, y z"
    options := [{ label := "X", value := "<x>" }, { label := "W", value := "y" },
                { label := "Y", value := "y z" }] }

/-- The same options to be put in order. -/
def rankedChoices : Field :=
  { checkedBoxes with kindName := "ranking" }

theorem joinedDefault_checkedBoxes :
    (∀ v ∈ ["<x>", "y z"], v ≠ "" ∧ IsItem v) ∧
    (∃ m, checkedBoxes.render {} [checkedBoxes] = .ok m ∧
      readOffers (readTags m.write) =
        [.choice (some "<x>") true, .choice (some "y") false, .choice (some "y z") true]) ∧
    ∃ m, rankedChoices.render {} [rankedChoices] = .ok m ∧
      ((readTags m.write).filter (·.name = "input")).map (fun t => valueOf? "value" t.attributes) =
        [some "<x>, y, y z"] := by
  have hvs : ∀ v ∈ ["<x>", "y z"], v ≠ "" ∧ IsItem v := by
    simp only [List.forall_mem_cons, List.not_mem_nil, false_implies, implies_true, and_true]
    exact ⟨⟨by decide, by decide, by decide⟩, by decide, by decide, by decide⟩
  have hboxes : checkedBoxes.render {} [checkedBoxes] = .ok _ := rfl
  have hranking : rankedChoices.render {} [rankedChoices] = .ok _ := rfl
  have hmany : checkedBoxes.OffersMany := ⟨.checkbox, by decide, .inr ⟨rfl, by decide⟩⟩
  obtain ⟨hdefaults, hrankings⟩ := joinedDefault_render hvs
  refine ⟨hvs, ⟨_, hboxes, ?_⟩, _, hranking, ?_⟩
  · rw [(hdefaults checkedBoxes (by decide)).2 _ _ _ hmany hboxes]
    decide
  · rw [hrankings _ _ _ _ (by decide) hranking]
    decide

end Field

end FormPress
