import FormPress.Proofs.Field.Chosen
import FormPress.Proofs.Field.Measure
import FormPress.Proofs.Markup.Scans
import FormPress.Proofs.Number.Decimal

/-!
# Values of scales

A row of stars has a radio button for every whole number from its upper bound down to one, an
opinion scale for every whole number from its lower to its upper bound, which also stand at its
ends. The bounds are authored numbers without their fractions; an upper bound of zero counts as
missing for stars, but not for an opinion scale. Checked at first is at most one button, that whose
value is written like the default of the field.
-/

namespace FormPress

open Markup

/-! ## Whole parts of bounds -/

namespace Binary64

variable {x : Binary64} {n : Int}

/-- A finite number without its fraction. -/
def wholePart (x : Binary64) : Int :=
  x.units.tdiv unitsPerOne

theorem IsFinite.truncate_eq (h : x.IsFinite) : x.truncate = x.wholePart := by
  cases x with
  | finite negative significand scale =>
    cases negative with
    | false => rfl
    | true => exact (Int.neg_tdiv (Nat.mul significand (Nat.pow 2 scale)) unitsPerOne).symm
  | infinite negative => exact absurd rfl (h.ne_infinite negative)
  | nan => exact absurd rfl h.ne_nan

theorem eq_wholePart_of_whole (h : x.whole = .ok n) : n = x.wholePart := by
  have hfinite : x.IsFinite := exists_whole_iff.1 ⟨n, h⟩
  rw [whole_of_isFinite hfinite, hfinite.truncate_eq] at h
  exact (Except.ok.inj h).symm

theorem IsFinite.isZero_iff (h : x.IsFinite) : x.isZero = true ↔ x.units = 0 := by
  cases x with
  | finite negative significand scale =>
    have hpow : Nat.pow 2 scale ≠ 0 := Nat.pos_iff_ne_zero.1 (Nat.two_pow_pos scale)
    have hmagnitude : significand * Nat.pow 2 scale = 0 ↔ significand = 0 := by
      rw [Nat.mul_eq_zero, or_iff_left hpow]
    rw [isZero, beq_iff_eq, ← hmagnitude, ← Int.natCast_eq_zero]
    cases negative with
    | false => exact Iff.rfl
    | true => exact Int.neg_eq_zero.symm
  | infinite negative => exact absurd rfl (h.ne_infinite negative)
  | nan => exact absurd rfl h.ne_nan

end Binary64

namespace Field

/-- The highest star of a field: its upper bound, unless that is missing or zero. -/
def starCount (f : Field) : Int :=
  match f.max with
  | none => FieldView.defaultStars
  | some x => if x.units = 0 then FieldView.defaultStars else x.wholePart

/-- The lower end of an opinion scale. -/
def scaleLow (f : Field) : Int :=
  (f.min.map Binary64.wholePart).getD FieldView.defaultScale.1

/-- The upper end of an opinion scale. -/
def scaleHigh (f : Field) : Int :=
  (f.max.map Binary64.wholePart).getD FieldView.defaultScale.2

end Field

namespace FieldView

variable {v : FieldView} {n standing : Int} {bound : Option Binary64}

theorem eq_of_boundOr (h : boundOr standing bound = .ok n) :
    n = (bound.map Binary64.wholePart).getD standing := by
  cases bound with
  | none => exact (Except.ok.inj h).symm
  | some x => exact Binary64.eq_wholePart_of_whole h

theorem eq_starCount_of_nonzeroOr (h : nonzeroOr defaultStars v.field.max = .ok n) :
    n = v.field.starCount := by
  have hfinite := (exists_nonzeroOr_iff defaultStars).1 ⟨n, h⟩
  unfold nonzeroOr at h
  unfold Field.starCount
  cases hmax : v.field.max with
  | none =>
    rw [hmax] at h
    exact (Except.ok.inj h).symm
  | some x =>
    rw [hmax] at h hfinite
    have hx : x.IsFinite := hfinite x rfl
    dsimp only
    by_cases hzero : x.isZero = true
    · rw [Option.filter_some_neg (by simp [hzero])] at h
      rw [if_pos (hx.isZero_iff.1 hzero)]
      exact (Except.ok.inj h).symm
    · rw [Option.filter_some_pos (by simp [hzero])] at h
      rw [if_neg (mt hx.isZero_iff.2 hzero)]
      exact Binary64.eq_wholePart_of_whole h

end FieldView

/-! ## Reading radio buttons -/

/-- A tag is a radio button. -/
def Tag.isRadio (t : Tag) : Bool :=
  t.name == "input" && valueOf? "type" t.attributes == some "radio"

/-- The radio buttons among tags, one after another, as offers. -/
def readRadios (ts : List Tag) : List Offer :=
  readOffers (ts.filter Tag.isRadio)

/-- An offer is chosen at first. -/
def Offer.isChosen : Offer → Bool
  | .prompt isChosen => isChosen
  | .choice _ isChosen => isChosen

theorem readRadios_append (ss ts : List Tag) :
    readRadios (ss ++ ts) = readRadios ss ++ readRadios ts := by
  rw [readRadios, List.filter_append, readOffers_append]
  rfl

theorem readRadios_cons_aside {t : Tag} (h : t.name ≠ "input") (rest : List Tag) :
    readRadios (t :: rest) = readRadios rest := by
  rw [readRadios, List.filter_cons_of_neg (by simp [Tag.isRadio, h])]
  rfl

theorem readRadios_aside {ts : List Tag} (h : ∀ t ∈ ts, t.name ≠ "input") : readRadios ts = [] := by
  have hnone : ts.filter Tag.isRadio = [] :=
    List.filter_eq_nil_iff.2 fun t ht => by simp [Tag.isRadio, h t ht]
  rw [readRadios, hnone]
  rfl

/-- Pieces that each make one offer make their offers in order. -/
theorem readRadios_flatMap {α : Type} {xs : List α} {g : α → List Tag} {offer : α → Offer}
    (h : ∀ x ∈ xs, readRadios (g x) = [offer x]) : readRadios (xs.flatMap g) = xs.map offer := by
  induction xs with
  | nil => rfl
  | cons x xs ih =>
    obtain ⟨hx, hxs⟩ := List.forall_mem_cons.1 h
    rw [List.flatMap_cons, readRadios_append, hx, ih hxs, List.singleton_append, List.map_cons]

theorem readRadios_input {attributes : List Attribute} {value : String}
    (htype : valueOf? "type" attributes = some "radio")
    (hvalue : valueOf? "value" attributes = some value)
    (hothers : ∀ a ∈ attributes, a.name ≠ "checked") (condition : Bool) (rest : List Tag) :
    readRadios (⟨"input", attributes ++ bareIf "checked" condition⟩ :: rest) =
      .choice (some value) condition :: readRadios rest := by
  have htyped : valueOf? "type" (attributes ++ bareIf "checked" condition) = some "radio" := by
    rw [valueOf?_append, htype, Option.some_or]
  have hradio : Tag.isRadio ⟨"input", attributes ++ bareIf "checked" condition⟩ = true := by
    rw [Tag.isRadio, htyped]
    rfl
  rw [readRadios, List.filter_cons_of_pos hradio, readOffers, List.filterMap_cons, offer?,
    if_neg (by simp), if_pos ⟨rfl, "radio", List.mem_cons_self, htyped⟩,
    Tag.has_append_bareIf "input" hothers, valueOf?_append, hvalue]
  rfl

/-- Where no two offers are both chosen, one is at most. -/
theorem length_chosen_le_one_of_pairwise {offers : List Offer}
    (h : offers.Pairwise fun a b => ¬(a.isChosen = true ∧ b.isChosen = true)) :
    (offers.filter Offer.isChosen).length ≤ 1 := by
  induction offers with
  | nil => exact Nat.zero_le 1
  | cons a rest ih =>
    obtain ⟨hfirst, hrest⟩ := List.pairwise_cons.1 h
    by_cases ha : a.isChosen = true
    · have hnone : rest.filter Offer.isChosen = [] :=
        List.filter_eq_nil_iff.2 fun b hb hchosen => hfirst b hb ⟨ha, hchosen⟩
      rw [List.filter_cons_of_pos ha, hnone, List.length_singleton]
    · rw [List.filter_cons_of_neg ha]
      exact ih hrest

/-! ## Rows of buttons -/

/-- The button of a whole number, checked when the default of the field is written like it. -/
def Field.radio (f : Field) (i : Int) : Offer :=
  .choice (some (Text.decimalInt i)) (f.defaultValue == some (Text.decimalInt i))

namespace FieldView

variable {v : FieldView}

theorem readRadios_star (css : String) (i : Int) :
    readRadios ((v.star css i).flatMap tags) = [v.field.radio i] := by
  have hothers : ∀ a ∈ [attr "type" "radio", attr "id" (v.field.id ++ "_" ++ Text.decimalInt i),
      attr "name" v.field.name, attr "value" (Text.decimalInt i), attr "class" "star-input"] ++
        bareIf "required" v.field.isRequired, a.name ≠ "checked" := by
    rw [List.forall_mem_append, forall_mem_bareIf]
    simp [attr, bare]
  have htags : (v.star css i).flatMap tags = [⟨"input", _ ++ bareIf "checked" _⟩, ⟨"label", _⟩] :=
    rfl
  rw [htags, readRadios_input rfl rfl hothers, readRadios_aside (by simp)]
  rfl

theorem readRadios_scaleOption (i : Int) :
    readRadios (v.scaleOption i).tags = [v.field.radio i] := by
  have hothers : ∀ a ∈ [attr "type" "radio", attr "name" v.field.name,
      attr "value" (Text.decimalInt i)] ++ bareIf "required" v.field.isRequired,
        a.name ≠ "checked" := by
    rw [List.forall_mem_append, forall_mem_bareIf]
    simp [attr, bare]
  have htags : (v.scaleOption i).tags =
      [⟨"label", _⟩, ⟨"input", _ ++ bareIf "checked" _⟩, ⟨"span", _⟩] :=
    rfl
  rw [htags, readRadios_cons_aside (by simp), readRadios_input rfl rfl hothers,
    readRadios_aside (by simp)]
  rfl

theorem between_one_reverse (n : Int) :
    (between 1 n).reverse = (List.range n.toNat).map fun (k : Nat) => n - k := by
  refine List.ext_getElem (by simp [between]) fun k hk hk' => ?_
  rw [List.length_map, List.length_range] at hk'
  rw [List.getElem_reverse]
  simp only [between, List.getElem_map, List.getElem_range, List.length_map, List.length_range]
  omega

theorem readRadios_starRow (base : String) (n : Int) :
    readRadios (v.starRow base n).tags =
      (List.range n.toNat).map fun (k : Nat) => v.field.radio (n - k) := by
  rw [starRow, tags_block, readRadios_cons_aside (by simp), List.flatMap_assoc,
    readRadios_flatMap fun i _ => readRadios_star _ i, between_one_reverse, List.map_map]
  rfl

theorem readRadios_scaleRow (low high : Int) :
    readRadios (v.scaleRow low high).tags =
      (List.range (high + 1 - low).toNat).map fun (k : Nat) => v.field.radio (low + k) := by
  have hends :
      readRadios ((if low ≤ high then [scaleEnds low high] else []).flatMap tags) = [] := by
    refine readRadios_aside ?_
    split
    · simp [scaleEnds]
    · simp
  rw [scaleRow, tags_block, readRadios_cons_aside (by simp), List.flatMap_append, readRadios_append,
    hends, List.nil_append, List.flatMap_singleton, tags_block, readRadios_cons_aside (by simp),
    List.flatMap_map, readRadios_flatMap fun i _ => readRadios_scaleOption i, between,
    List.map_map]
  rfl

theorem readRadios_grouped (animate : Bool) (control : Markup) :
    readRadios (v.grouped animate control).tags = readRadios control.tags := by
  obtain ⟨front, behind, htags, hfront, hbehind⟩ := exists_around_control v animate control
  have haside {ts : List Tag} (h : ∀ t ∈ ts, t.name ∉ ["option", "input"]) :
      readRadios ts = [] :=
    readRadios_aside fun t ht hinput => h t ht (by simp [hinput])
  rw [htags, readRadios_append, readRadios_append, haside hfront, haside hbehind, List.nil_append,
    List.append_nil]

end FieldView

/-! ## Ends of an opinion scale -/

/-- The classes of the texts at the ends. -/
def endClasses : List String :=
  ["scale-min", "scale-max"]

/-- The tag of the text at one end. -/
def endSpan (css : String) : Tag :=
  ⟨"span", [attr "class" css]⟩

/-- A text shows a whole number at one end of a scale: it has one tag for that end, and there the
number stands. -/
structure ShowsEnd (html css : String) (i : Int) : Prop where
  once : (readTags html).count (endSpan css) = 1
  shown : ("<span class=\"" ++ css ++ "\">" ++ Text.decimalInt i ++ "</span>").toList <:+:
    html.toList

namespace Markup

theorem infix_writeList {m : Markup} {ms : List Markup} (h : m ∈ ms) :
    m.write.toList <:+: (writeList ms).toList := by
  induction ms with
  | nil => cases h
  | cons first rest ih =>
    rw [writeList_cons, String.toList_append]
    rcases List.mem_cons.1 h with rfl | hrest
    · exact (List.prefix_append _ _).isInfix
    · exact (ih hrest).trans (List.suffix_append _ _).isInfix

/-- What stands in a block is written in it. -/
theorem infix_write_block {m : Markup} {children : List Markup} (h : m ∈ children) (indent : Nat)
    (name : String) (attributes : List Attribute) :
    m.write.toList <:+: (block indent name attributes children).write.toList := by
  have hmem : m ∈ onLines (indent + 2) children ++ [newline indent] := by
    rw [List.mem_append, onLines, List.mem_flatMap]
    exact .inl ⟨m, h, List.mem_cons_of_mem _ List.mem_cons_self⟩
  rw [block, write_element, String.toList_append, String.toList_append]
  exact (infix_writeList hmem).trans ⟨_, _, rfl⟩

theorem escape_of_isName {s : String} (h : IsName s) : escape s = s := by
  rw [← String.toList_inj, toList_escape, flatMap_escapeChar_of_isName h]

theorem isName_decimalInt (i : Int) : IsName (Text.decimalInt i) := by
  refine ⟨?_, fun c hc => ?_⟩
  · rw [Number.toList_decimalInt]
    exact List.append_ne_nil_of_right_ne_nil _ Nat.toDigits_ne_nil
  · rw [Number.toList_decimalInt, List.mem_append] at hc
    rw [isNameChar, Bool.or_eq_true, beq_iff_eq]
    rcases hc with hsign | hdigit
    · split at hsign
      · exact .inr (List.mem_singleton.1 hsign)
      · cases hsign
    · have hdigit := Number.isDigit_of_mem_toDigits hdigit
      rw [Number.isDigit_eq] at hdigit
      rw [Char.isAlphanum, hdigit, Bool.or_true]
      exact .inl rfl

theorem isName_of_mem_endClasses : ∀ css ∈ endClasses, IsName css := by
  simp only [endClasses, List.forall_mem_cons, List.not_mem_nil, false_implies, implies_true,
    and_true]
  exact ⟨isName_ofList (by decide), isName_ofList (by decide)⟩

theorem write_end {css : String} (hcss : IsName css) (i : Int) :
    (label "span" [attr "class" css] (Text.decimalInt i)).write =
      "<span class=\"" ++ css ++ "\">" ++ Text.decimalInt i ++ "</span>" := by
  have hstart : startTag "span" [attr "class" css] = "<span class=\"" ++ css ++ "\">" := by
    have hattribute : (attr "class" css).write = " class=\"" ++ escape css ++ "\"" := rfl
    rw [startTag, List.map_singleton, Text.concat_cons, Text.concat_nil, hattribute,
      escape_of_isName hcss, ← String.toList_inj]
    simp
  rw [label, write_element, writeList_cons, write_text, writeList_nil,
    escape_of_isName (isName_decimalInt i), hstart, String.append_empty]
  rfl

end Markup

namespace FieldView

variable {v : FieldView}

theorem count_scaleRow {css : String} (hcss : css ∈ endClasses) (low high : Int) :
    (v.scaleRow low high).tags.count (endSpan css) = if low ≤ high then 1 else 0 := by
  have hoptions :
      ((between low high).flatMap fun i => (v.scaleOption i).tags).count (endSpan css) = 0 := by
    rw [List.count_eq_zero, List.mem_flatMap]
    rintro ⟨i, -, h⟩
    simp [scaleOption, endSpan, attr] at h
  rw [scaleRow, tags_block, List.count_cons_of_ne (by simp [endSpan]), List.flatMap_append,
    List.count_append, List.flatMap_singleton, tags_block,
    List.count_cons_of_ne (by simp [endSpan]), List.flatMap_map, hoptions, Nat.add_zero]
  split
  · simp only [endClasses, List.mem_cons, List.not_mem_nil, or_false] at hcss
    rcases hcss with rfl | rfl
    · simp [scaleEnds, endSpan, attr]
    · simp [scaleEnds, endSpan, attr]
  · rfl

theorem endSpan_ne {css other : String} (hcss : css ∈ endClasses)
    (hother : other ∉ endClasses) :
    ⟨"span", [attr "class" other]⟩ ≠ endSpan css := by
  intro heq
  simp only [endSpan, attr, Tag.mk.injEq, true_and, List.cons.injEq, Attribute.mk.injEq,
    Option.some.injEq, and_true] at heq
  exact hother (heq ▸ hcss)

theorem count_grouped {css : String} (hcss : css ∈ endClasses) (animate : Bool)
    (control : Markup) :
    (v.grouped animate control).tags.count (endSpan css) = control.tags.count (endSpan css) := by
  have hlabel : v.labelMarkup.tags.count (endSpan css) = 0 := by
    rw [labelMarkup, tags_element, List.count_cons_of_ne (by simp [endSpan])]
    split
    · exact List.count_cons_of_ne (endSpan_ne hcss (by decide))
    · rfl
  have hhelp : (((given? v.field.helpText).map
      (label "span" [attr "class" "help-text"])).toList.flatMap tags).count (endSpan css) = 0 := by
    cases given? v.field.helpText with
    | none => rfl
    | some text => exact List.count_cons_of_ne (endSpan_ne hcss (by decide))
  rw [tags_grouped, List.count_cons_of_ne (by simp [endSpan]), List.count_append,
    List.count_append, hlabel, hhelp, Nat.zero_add, Nat.add_zero]

theorem infix_write_grouped (animate : Bool) (control : Markup) :
    control.write.toList <:+: (v.grouped animate control).write.toList := by
  have hmem : control ∈ [v.labelMarkup, control] ++
      ((given? v.field.helpText).map (label "span" [attr "class" "help-text"])).toList :=
    List.mem_append_left _ (List.mem_cons_of_mem _ List.mem_cons_self)
  exact infix_write_block hmem _ _ _

theorem infix_write_scaleRow {low high : Int} (hle : low ≤ high) :
    (scaleEnds low high).write.toList <:+: (v.scaleRow low high).write.toList := by
  have hmem : scaleEnds low high ∈ (if low ≤ high then [scaleEnds low high] else []) ++
      [block 2 "div" [attr "class" "scale-inputs"] ((between low high).map v.scaleOption)] := by
    rw [if_pos hle]
    exact List.mem_cons_self
  exact infix_write_block hmem _ _ _

/-- What a reader finds in the group of an opinion scale shows both ends, or none when there are no
numbers between them. -/
theorem showsEnds_grouped {animate : Bool} {low high : Int} {html : String}
    (hhtml : (v.grouped animate (v.scaleRow low high)).write = html)
    (hread : readTags html = (v.grouped animate (v.scaleRow low high)).tags) :
    (low ≤ high → ShowsEnd html "scale-min" low ∧ ShowsEnd html "scale-max" high) ∧
    (high < low → ∀ css ∈ endClasses, endSpan css ∉ readTags html) := by
  have hcount : ∀ css ∈ endClasses,
      (readTags html).count (endSpan css) = if low ≤ high then 1 else 0 := by
    intro css hcss
    rw [hread, count_grouped hcss, count_scaleRow hcss]
  constructor
  · intro hle
    have hshows (css : String) (i : Int) (hcss : css ∈ endClasses)
        (hend : (label "span" [attr "class" css] (Text.decimalInt i)).write.toList <:+:
          (scaleEnds low high).write.toList) : ShowsEnd html css i := by
      refine ⟨(hcount css hcss).trans (if_pos hle), ?_⟩
      rw [← write_end (isName_of_mem_endClasses css hcss), ← hhtml]
      exact (hend.trans (infix_write_scaleRow hle)).trans (v.infix_write_grouped animate _)
    exact ⟨hshows _ _ (by decide) (infix_write_block List.mem_cons_self _ _ _),
      hshows _ _ (by decide)
        (infix_write_block (List.mem_cons_of_mem _ List.mem_cons_self) _ _ _)⟩
  · intro hlt css hcss
    exact List.count_eq_zero.1 ((hcount css hcss).trans (if_neg (Int.not_le.2 hlt)))

end FieldView

/-! ## Fields -/

namespace Field

variable {f : Field} {fields : List Field} {o : RenderOptions} {m : Markup}

/-- The kinds of fields that are scales. -/
def scaleKinds : List FieldKind :=
  [.rating, .starRating, .opinionScale]

/-- A reader of the markup finds the tags of a scale, in its group. -/
theorem exists_scale {kind : FieldKind} (hkind : f.kind = some kind) (hscale : kind ∈ scaleKinds)
    (h : f.render o fields = .ok m) :
    ∃ (v : FieldView) (control : Markup), v.field = f ∧ v.controlOf fields o kind = .ok control ∧
      v.grouped o.animate control = m ∧ readTags m.write = m.tags := by
  have hkinds : ∀ kind ∈ scaleKinds, kind.standsAlone = false ∧ kind ≠ .htmlSnippet := by decide
  obtain ⟨hgroup, hsnippet⟩ := hkinds kind hscale
  have hraw : f.HoldsNoRaw o := by
    refine .inr ?_
    rw [hkind]
    exact fun heq => hsnippet (Option.some.inj heq)
  obtain ⟨v, hv, -⟩ := rooted_render hraw h
  obtain ⟨control, hcontrol, hm⟩ := exists_control_grouped hv hkind hgroup h
  exact ⟨v, control, field_of_view hv, hcontrol, hm, readTags_write (sound_render hraw h)⟩

/-- A row of stars counts down to one. -/
theorem readRadios_stars (hkind : f.kind = some .rating ∨ f.kind = some .starRating)
    (h : f.render o fields = .ok m) :
    readRadios (readTags m.write) =
      (List.range f.starCount.toNat).map fun (k : Nat) => f.radio (f.starCount - k) := by
  obtain ⟨kind, base, hkind, hscale, hstars⟩ : ∃ kind base, f.kind = some kind ∧
      kind ∈ scaleKinds ∧ ∀ v : FieldView, v.controlOf fields o kind = v.stars base := by
    rcases hkind with hkind | hkind
    · exact ⟨_, "rating", hkind, by decide, fun _ => rfl⟩
    · exact ⟨_, "star-rating", hkind, by decide, fun _ => rfl⟩
  obtain ⟨v, control, rfl, hcontrol, rfl, hread⟩ := exists_scale hkind hscale h
  rw [hstars] at hcontrol
  obtain ⟨n, hn, rfl⟩ := map_eq_ok.1 hcontrol
  obtain rfl := FieldView.eq_starCount_of_nonzeroOr hn
  rw [hread, FieldView.readRadios_grouped, FieldView.readRadios_starRow]

/-- An opinion scale is a row between the ends of the field. -/
theorem exists_scaleRow (hkind : f.kind = some .opinionScale) (h : f.render o fields = .ok m) :
    ∃ v : FieldView, v.field = f ∧ v.grouped o.animate (v.scaleRow f.scaleLow f.scaleHigh) = m ∧
      readTags m.write = m.tags := by
  obtain ⟨v, control, rfl, hcontrol, hm, hread⟩ := exists_scale hkind (by decide) h
  have hscale : v.opinionScale = .ok control := hcontrol
  obtain ⟨low, hlow, hrest⟩ := bind_eq_ok.1 hscale
  obtain ⟨high, hhigh, hrow⟩ := bind_eq_ok.1 hrest
  have hends : low = v.field.scaleLow ∧ high = v.field.scaleHigh :=
    ⟨FieldView.eq_of_boundOr hlow, FieldView.eq_of_boundOr hhigh⟩
  split at hrow
  · cases hrow
  · obtain rfl := Except.ok.inj hrow
    rw [hends.1, hends.2] at hm
    exact ⟨v, rfl, hm, hread⟩

theorem readRadios_opinionScale (hkind : f.kind = some .opinionScale)
    (h : f.render o fields = .ok m) :
    readRadios (readTags m.write) = (List.range (f.scaleHigh + 1 - f.scaleLow).toNat).map
      fun (k : Nat) => f.radio (f.scaleLow + k) := by
  obtain ⟨v, rfl, rfl, hread⟩ := exists_scaleRow hkind h
  rw [hread, FieldView.readRadios_grouped, FieldView.readRadios_scaleRow]

theorem ends_opinionScale (hkind : f.kind = some .opinionScale) (h : f.render o fields = .ok m) :
    (f.scaleLow ≤ f.scaleHigh → ShowsEnd m.write "scale-min" f.scaleLow ∧
      ShowsEnd m.write "scale-max" f.scaleHigh) ∧
    (f.scaleHigh < f.scaleLow → ∀ css ∈ endClasses, endSpan css ∉ readTags m.write) := by
  obtain ⟨v, rfl, rfl, hread⟩ := exists_scaleRow hkind h
  exact FieldView.showsEnds_grouped rfl hread

/-- Different numbers are written differently, so the default chooses one at most. -/
theorem length_chosen_radio_le_one (f : Field) {value : Nat → Int}
    (hvalue : Function.Injective value) (n : Nat) :
    (((List.range n).map fun k => f.radio (value k)).filter Offer.isChosen).length ≤ 1 := by
  refine length_chosen_le_one_of_pairwise ?_
  rw [List.pairwise_map]
  refine List.nodup_range.imp fun {j k} hne hboth => hne (hvalue ?_)
  simp only [radio, Offer.isChosen, beq_iff_eq] at hboth
  exact Number.decimalInt_inj.1 (Option.some.inj (hboth.1.symm.trans hboth.2))

theorem length_chosen_le_one {kind : FieldKind} (hkind : f.kind = some kind)
    (hscale : kind ∈ scaleKinds) (h : f.render o fields = .ok m) :
    ((readRadios (readTags m.write)).filter Offer.isChosen).length ≤ 1 := by
  by_cases hopinion : kind = .opinionScale
  · subst hopinion
    rw [readRadios_opinionScale hkind h]
    exact length_chosen_radio_le_one f (fun j k hjk => by omega) _
  · have hkinds : ∀ kind ∈ scaleKinds, kind ≠ .opinionScale →
        kind = .rating ∨ kind = .starRating := by decide
    have hstars : f.kind = some .rating ∨ f.kind = some .starRating := by
      rw [hkind, Option.some.injEq, Option.some.injEq]
      exact hkinds kind hscale hopinion
    rw [readRadios_stars hstars h]
    exact length_chosen_radio_le_one f (fun j k hjk => by omega) _

/-- **Scales offer exactly their whole numbers.** Whenever a scale is rendered, a reader finds the
buttons of a row of stars from its upper bound down to one, and those of an opinion scale from its
lower up to its upper bound, each once and in this order. The ends of an opinion scale are shown
when it has a button, and not otherwise. A button is checked when its value is written like the
default of the field, which is the case for one at most. -/
theorem radios_render (h : f.render o fields = .ok m) :
    (f.kind = some .rating ∨ f.kind = some .starRating →
      readRadios (readTags m.write) =
        (List.range f.starCount.toNat).map fun (k : Nat) => f.radio (f.starCount - k)) ∧
    (f.kind = some .opinionScale →
      readRadios (readTags m.write) = ((List.range (f.scaleHigh + 1 - f.scaleLow).toNat).map
        fun (k : Nat) => f.radio (f.scaleLow + k)) ∧
      (f.scaleLow ≤ f.scaleHigh → ShowsEnd m.write "scale-min" f.scaleLow ∧
        ShowsEnd m.write "scale-max" f.scaleHigh) ∧
      (f.scaleHigh < f.scaleLow → ∀ css ∈ endClasses, endSpan css ∉ readTags m.write)) ∧
    ((∃ kind ∈ scaleKinds, f.kind = some kind) →
      ((readRadios (readTags m.write)).filter Offer.isChosen).length ≤ 1) := by
  refine ⟨fun hkind => readRadios_stars hkind h,
    fun hkind => ⟨readRadios_opinionScale hkind h, ends_opinionScale hkind h⟩, ?_⟩
  rintro ⟨kind, hscale, hkind⟩
  exact length_chosen_le_one hkind hscale h

/-- Stars up to a bound with a fraction. -/
def ratedField : Field :=
  { id := "r", name := "r", kindName := "rating", max := some (.ofDecimal false 37 (-1))
    defaultValue := some "2" }

/-- An opinion from below zero on. -/
def opinionField : Field :=
  { id := "o", name := "o", kindName := "opinion-scale", min := some (.ofDecimal true 15 (-1))
    max := some (.ofDecimal false 2 0), defaultValue := some "-1" }

theorem isMeasurable_ratedField : ratedField.IsMeasurable where
  width := nofun
  stars := by
    intro _ x hx
    obtain rfl := Option.some.inj hx
    have hwhole : (Binary64.ofDecimal false 37 (-1)).whole = .ok 3 := by
      rw [← toOption_eq_some_iff]
      decide +kernel
    exact Binary64.exists_whole_iff.1 ⟨3, hwhole⟩
  ends := fun hkind => absurd hkind (by decide)
  count := fun hkind => absurd hkind (by decide)

theorem isMeasurable_opinionField : opinionField.IsMeasurable where
  width := nofun
  stars := fun hkind => absurd hkind (by decide)
  ends := by
    intro _ x hx
    have hlow : (Binary64.ofDecimal true 15 (-1)).whole = .ok (-1) := by
      rw [← toOption_eq_some_iff]
      decide +kernel
    have hhigh : (Binary64.ofDecimal false 2 0).whole = .ok 2 := by
      rw [← toOption_eq_some_iff]
      decide +kernel
    rcases hx with hx | hx
    · obtain rfl := Option.some.inj hx
      exact Binary64.exists_whole_iff.1 ⟨-1, hlow⟩
    · obtain rfl := Option.some.inj hx
      exact Binary64.exists_whole_iff.1 ⟨2, hhigh⟩
  count := fun _ => by decide +kernel

theorem radios_ratedField :
    (∃ m, ratedField.render {} [ratedField] = .ok m ∧
      readRadios (readTags m.write) =
        [.choice (some "3") false, .choice (some "2") true, .choice (some "1") false]) ∧
    ∃ m, opinionField.render {} [opinionField] = .ok m ∧
      readRadios (readTags m.write) =
        [.choice (some "-1") true, .choice (some "0") false, .choice (some "1") false,
         .choice (some "2") false] ∧
      ShowsEnd m.write "scale-min" (-1) ∧ ShowsEnd m.write "scale-max" 2 := by
  constructor
  · obtain ⟨m, hm⟩ := (@exists_render_iff ratedField {} [ratedField]).2
      isMeasurable_ratedField
    refine ⟨m, hm, ?_⟩
    rw [(radios_render hm).1 (.inl (by decide))]
    decide +kernel
  · obtain ⟨m, hm⟩ := (@exists_render_iff opinionField {} [opinionField]).2
      isMeasurable_opinionField
    obtain ⟨hradios, hends, -⟩ := (radios_render hm).2.1 (by decide)
    have hlow : opinionField.scaleLow = -1 := by decide +kernel
    have hhigh : opinionField.scaleHigh = 2 := by decide +kernel
    rw [hlow, hhigh] at hradios hends
    refine ⟨m, hm, ?_, hends (by decide)⟩
    rw [hradios]
    decide

end Field

end FormPress
