import FormPress.Form.File
import FormPress.Proofs.Decode.Loaded

/-!
# Loaded forms

What can be said of a form because it was loaded: its numbers are canonical, its integers are short
and, where it matters, not negative, its percentages pass their checks again, and no table of it has
a key twice.
-/

namespace FormPress

/-! ## Parts of forms -/

/-- A field as it comes from a document. -/
structure Field.IsLoaded (f : Field) : Prop where
  minLength : ∀ i ∈ f.minLength, Number.IsShort i
  maxLength : ∀ i ∈ f.maxLength, Number.IsShort i
  min : ∀ x ∈ f.min, x.IsCanonical
  max : ∀ x ∈ f.max, x.IsCanonical
  step : ∀ x ∈ f.step, x.IsCanonical
  width : ∀ x ∈ f.width, x.IsCanonical
  order : f.order.IsCanonical
  lookup : ∀ l ∈ f.lookup, (l.table.map Prod.fst).Nodup

/-- A delay or duration as it comes from a document. -/
structure Entrances.IsLoaded (e : Entrances) : Prop where
  duration : 0 ≤ e.duration ∧ Number.IsShort e.duration
  staggerDelay : 0 ≤ e.staggerDelay ∧ Number.IsShort e.staggerDelay

/-- A percentage that passed a check. -/
structure IsPercentage (check : Json → Decode.Checked Binary64) (x : Binary64) : Prop where
  isCanonical : x.IsCanonical
  passes : ∀ v, Decode.number v = .valid x → check v = .valid x

/-- A form as it comes from a document. -/
structure Form.IsLoaded (form : Form) : Prop where
  fields : ∀ f ∈ form.fields, f.IsLoaded
  animations : form.animations.IsLoaded
  layoutImagePositionX : IsPercentage Decode.percentage form.layoutImagePositionX
  layoutImagePositionY : IsPercentage Decode.percentage form.layoutImagePositionY
  layoutImagePanelWidth : IsPercentage Decode.innerPercentage form.layoutImagePanelWidth
  pageHeroImages : (form.pageHeroImages.map Prod.fst).Nodup ∧
    ∀ e ∈ form.pageHeroImages, Number.IsShort e.1
  headers : (form.webhook.headers.map Prod.fst).Nodup

namespace Load

open Decode

variable {v : Json} {digits : Nat} {ms : List (String × Json)}

theorem nodup_of_lookup {l : Lookup} (h : lookup v = .valid l) : (l.table.map Prod.fst).Nodup := by
  obtain ⟨ms, -, h⟩ := bind_eq_valid h
  obtain ⟨_, table, hmk, htable, rfl⟩ := Checked.apply_eq_valid_iff.1 h
  obtain ⟨source, -, rfl⟩ := Checked.map_eq_valid_iff.1 hmk
  rcases field_eq_valid htable with rfl | ⟨m, -, htable⟩
  · exact List.nodup_nil
  · exact nodup_keys_of_table htable

theorem fieldOfMembers_eq_valid {f : Field} (h : fieldOfMembers ms = .valid f) :
    required ms "id" innerText = .valid f.id ∧
      field ms "name" innerText "" = .valid f.name ∧
      field ms "min_length" (optional int) none = .valid f.minLength ∧
      field ms "max_length" (optional int) none = .valid f.maxLength ∧
      field ms "min" (optional boundedNumber) none = .valid f.min ∧
      field ms "max" (optional boundedNumber) none = .valid f.max ∧
      field ms "step" (optional boundedNumber) none = .valid f.step ∧
      field ms "width" (optional boundedNumber) none = .valid f.width ∧
      field ms "order" boundedNumber .zero = .valid f.order ∧
      field ms "lookup_config" (optional lookup) none = .valid f.lookup := by
  unfold fieldOfMembers at h
  simp only [Checked.seq_eq, Checked.map_eq] at h
  -- the attributes are taken off one by one, from the last to the first
  repeat
    replace h := Checked.apply_eq_valid_iff.1 h
    obtain ⟨_, _, h, _, rfl⟩ := h
  obtain ⟨_, _, rfl⟩ := Checked.map_eq_valid_iff.1 h
  refine ⟨?_, ?_, ?_, ?_, ?_, ?_, ?_, ?_, ?_, ?_⟩
  all_goals with_reducible assumption

/-- The value of an attribute is one of the document or the default; both have what is asked of the
attribute. -/
theorem of_field {α : Type} {p : α → Prop} {snake : String} {check : Json → Checked α}
    {default a : α} (hms : ∀ m ∈ ms, m.2.HasReadNumbers digits)
    (h : field ms snake check default = .valid a) (hdefault : p default)
    (hcheck : ∀ w : Json, w.HasReadNumbers digits → check w = .valid a → p a) : p a := by
  rcases field_eq_valid h with rfl | ⟨m, hm, h⟩
  · exact hdefault
  · exact hcheck m.2 (hms m hm) h

theorem isShort_of_field {snake : String} {o : Option Int}
    (hms : ∀ m ∈ ms, m.2.HasReadNumbers Number.digitLimit)
    (h : field ms snake (optional int) none = .valid o) : ∀ i ∈ o, Number.IsShort i :=
  of_field (p := fun o => ∀ i ∈ o, Number.IsShort i) hms h (fun _ => nofun) fun _ hw hcheck i hi =>
    isShort_of_int hw (optional_eq_valid hcheck i hi)

theorem isCanonical_of_field {snake : String} {o : Option Binary64}
    (hms : ∀ m ∈ ms, m.2.HasReadNumbers digits)
    (h : field ms snake (optional boundedNumber) none = .valid o) : ∀ x ∈ o, x.IsCanonical :=
  of_field (p := fun o => ∀ x ∈ o, x.IsCanonical) hms h (fun _ => nofun) fun _ hw hcheck x hx =>
    isCanonical_of_boundedNumber hw (optional_eq_valid hcheck x hx)

theorem isLoaded_of_fieldOfMembers {f : Field}
    (hms : ∀ m ∈ ms, m.2.HasReadNumbers Number.digitLimit) (h : fieldOfMembers ms = .valid f) :
    f.IsLoaded := by
  obtain ⟨-, -, hminLength, hmaxLength, hmin, hmax, hstep, hwidth, horder, hlookup⟩ :=
    fieldOfMembers_eq_valid h
  exact {
    minLength := isShort_of_field hms hminLength
    maxLength := isShort_of_field hms hmaxLength
    min := isCanonical_of_field hms hmin
    max := isCanonical_of_field hms hmax
    step := isCanonical_of_field hms hstep
    width := isCanonical_of_field hms hwidth
    order := of_field hms horder (Binary64.isCanonical_zero false) fun _ =>
      isCanonical_of_boundedNumber
    lookup := of_field (p := fun o => ∀ l ∈ o, (l.table.map Prod.fst).Nodup) hms hlookup
      (fun _ => nofun) fun _ _ hcheck l hl => nodup_of_lookup (optional_eq_valid hcheck l hl) }

/-- The name that stands in for one that is not given is a value of the object. -/
theorem mem_of_mem_withName {m : String × Json} (h : m ∈ withName ms) :
    ∃ k, (k, m.2) ∈ ms := by
  unfold withName at h
  dsimp only at h
  split at h
  · rename_i id hid
    split at h
    · rcases Table.mem_of_mem_assign h with rfl | h
      · exact ⟨"id", Table.mem_of_lookup hid⟩
      · exact ⟨m.1, h⟩
    · exact ⟨m.1, h⟩
  · exact ⟨m.1, h⟩

theorem hasReadNumbers_of_members (hv : v.HasReadNumbers digits) (h : members v = .valid ms) :
    ∀ m ∈ ms, m.2.HasReadNumbers digits := by
  cases v with
  | object members => exact Checked.valid.inj h ▸ Json.hasReadNumbers_object.1 hv
  | null | bool b | int j | float x | string s | brokenString | array items => exact nomatch h

theorem isLoaded_of_formField {f : Field} (hv : v.HasReadNumbers Number.digitLimit)
    (h : formField v = .valid f) : f.IsLoaded := by
  obtain ⟨ms, hms, h⟩ := bind_eq_valid h
  have hnumbers := hasReadNumbers_of_members hv.distinctKeys hms
  refine isLoaded_of_fieldOfMembers (fun m hm => ?_) h
  obtain ⟨k, hk⟩ := mem_of_mem_withName hm
  exact hnumbers (k, m.2) hk

theorem entrances_eq_valid {e : Entrances} (hload : entrances v = .valid e) :
    ∃ ms, members v = .valid ms ∧
      field ms "duration" (intAtLeast 0) ({} : Entrances).duration = .valid e.duration ∧
      field ms "stagger_delay" (intAtLeast 0) ({} : Entrances).staggerDelay =
        .valid e.staggerDelay := by
  obtain ⟨ms, hms, h⟩ := bind_eq_valid hload
  clear hload
  simp only [Checked.seq_eq, Checked.map_eq] at h
  repeat
    replace h := Checked.apply_eq_valid_iff.1 h
    obtain ⟨_, _, h, _, rfl⟩ := h
  obtain ⟨_, _, rfl⟩ := Checked.map_eq_valid_iff.1 h
  refine ⟨ms, hms, ?_, ?_⟩
  all_goals with_reducible assumption

theorem isLoaded_of_entrances {e : Entrances} (hv : v.HasReadNumbers Number.digitLimit)
    (h : entrances v = .valid e) : e.IsLoaded := by
  obtain ⟨ms, hms, hduration, hstagger⟩ := entrances_eq_valid h
  have hdelay {snake : String} {default i : Int}
      (hfield : field ms snake (intAtLeast 0) default = .valid i)
      (hdefault : 0 ≤ default ∧ Number.IsShort default) : 0 ≤ i ∧ Number.IsShort i :=
    of_field (p := fun i => 0 ≤ i ∧ Number.IsShort i) (hasReadNumbers_of_members hv hms) hfield
      hdefault fun _ hw hcheck =>
        ⟨(intAtLeast_eq_valid hcheck).1, isShort_of_int hw (intAtLeast_eq_valid hcheck).2⟩
  exact ⟨hdelay hduration ⟨by decide, Number.isShort_of_natAbs_lt (by decide)⟩,
    hdelay hstagger ⟨by decide, Number.isShort_of_natAbs_lt (by decide)⟩⟩

theorem webhook_eq_valid {w : Webhook} (hload : webhook v = .valid w) :
    ∃ ms, field ms "headers" (table outerText) [] = .valid w.headers := by
  obtain ⟨ms, -, h⟩ := bind_eq_valid hload
  clear hload
  simp only [Checked.seq_eq, Checked.map_eq] at h
  repeat
    replace h := Checked.apply_eq_valid_iff.1 h
    obtain ⟨_, _, h, _, rfl⟩ := h
  obtain ⟨_, _, rfl⟩ := Checked.map_eq_valid_iff.1 h
  refine ⟨ms, ?_⟩
  with_reducible assumption

theorem nodup_of_webhook {w : Webhook} (h : webhook v = .valid w) :
    (w.headers.map Prod.fst).Nodup := by
  obtain ⟨ms, hheaders⟩ := webhook_eq_valid h
  rcases field_eq_valid hheaders with hnone | ⟨m, -, hheaders⟩
  · rw [hnone]
    exact List.nodup_nil
  · exact nodup_keys_of_table hheaders

theorem form_eq_valid {form : Form} (hload : Load.form v = .valid form) :
    ∃ ms, members v = .valid ms ∧
      field ms "fields" (list formField) [] = .valid form.fields ∧
      field ms "animations" entrances {} = .valid form.animations ∧
      field ms "layout_image_position_x" percentage (.ofInt 50) =
        .valid form.layoutImagePositionX ∧
      field ms "layout_image_position_y" percentage (.ofInt 50) =
        .valid form.layoutImagePositionY ∧
      field ms "layout_image_panel_width" innerPercentage (.ofInt 45) =
        .valid form.layoutImagePanelWidth ∧
      field ms "page_hero_images" (intTable outerText) [] = .valid form.pageHeroImages ∧
      field ms "webhook_config" webhook {} = .valid form.webhook := by
  obtain ⟨ms, hms, h⟩ := bind_eq_valid hload
  clear hload
  simp only [Checked.seq_eq, Checked.map_eq] at h
  repeat
    replace h := Checked.apply_eq_valid_iff.1 h
    obtain ⟨_, _, h, _, rfl⟩ := h
  obtain ⟨_, _, rfl⟩ := Checked.map_eq_valid_iff.1 h
  refine ⟨ms, hms, ?_, ?_, ?_, ?_, ?_, ?_, ?_⟩
  all_goals with_reducible assumption

/-- A percentage is one of the document or the default; the default passes the check too. -/
theorem isPercentage_of_field {snake : String} {check : Json → Checked Binary64} {n : Int}
    {x : Binary64} (hms : ∀ m ∈ ms, m.2.HasReadNumbers digits)
    (hcheck : ∀ {v w : Json} {x : Binary64}, check v = .valid x →
      number v = .valid x ∧ (number w = .valid x → check w = .valid x))
    (h : field ms snake check (.ofInt n) = .valid x)
    (hdefault : check (.float (.ofInt n)) = .valid (.ofInt n)) : IsPercentage check x :=
  of_field (p := IsPercentage check) hms h
    ⟨Binary64.isCanonical_ofInt n, fun _ => (hcheck hdefault).2⟩
    fun _ hw hchecked => ⟨isCanonical_of_number hw (hcheck (w := .null) hchecked).1,
      fun _ => (hcheck hchecked).2⟩

theorem percentage_float {x : Binary64} (hmost : x.le (.ofInt 100) = true)
    (hleast : (Binary64.ofInt 0).le x = true) : percentage (.float x) = .valid x := by
  simp [percentage, number, Checked.bind, hmost, hleast]

theorem innerPercentage_float {x : Binary64} (hmost : x.lt (.ofInt 100) = true)
    (hleast : (Binary64.ofInt 0).lt x = true) : innerPercentage (.float x) = .valid x := by
  simp [innerPercentage, number, Checked.bind, hmost, hleast]

/-- **What a document is read into is a loaded form.** -/
theorem isLoaded_of_form {form : Form} (hv : v.HasReadNumbers Number.digitLimit)
    (h : Load.form v = .valid form) : form.IsLoaded := by
  obtain ⟨ms, hms, hfields, hanimations, hx, hy, hwidth, hheroes, hwebhook⟩ := form_eq_valid h
  have hnumbers := hasReadNumbers_of_members hv hms
  have hloaded : ∀ f ∈ form.fields, f.IsLoaded := by
    refine of_field (p := fun fields => ∀ f ∈ fields, f.IsLoaded) hnumbers hfields
      (fun f hf => absurd hf List.not_mem_nil) fun w hw hcheck f hf => ?_
    obtain ⟨u, hu, hfield⟩ := list_eq_valid hw hcheck f hf
    exact isLoaded_of_formField hu hfield
  have hentrances : form.animations.IsLoaded := by
    refine of_field (p := Entrances.IsLoaded) hnumbers hanimations ⟨?_, ?_⟩
      fun _ => isLoaded_of_entrances
    · exact ⟨by decide, Number.isShort_of_natAbs_lt (by decide)⟩
    · exact ⟨by decide, Number.isShort_of_natAbs_lt (by decide)⟩
  have hkeys := of_field (p := fun entries : List (Int × String) =>
      (entries.map Prod.fst).Nodup ∧ ∀ e ∈ entries, Number.IsShort e.1) hnumbers hheroes
    ⟨List.nodup_nil, fun e he => absurd he List.not_mem_nil⟩ fun _ _ => keys_of_intTable
  have hheaders := of_field (p := fun w : Webhook => (w.headers.map Prod.fst).Nodup) hnumbers
    hwebhook List.nodup_nil fun _ _ => nodup_of_webhook
  exact {
    fields := hloaded
    animations := hentrances
    layoutImagePositionX := isPercentage_of_field hnumbers percentage_of_number hx
      (percentage_float (by decide +kernel) (by decide +kernel))
    layoutImagePositionY := isPercentage_of_field hnumbers percentage_of_number hy
      (percentage_float (by decide +kernel) (by decide +kernel))
    layoutImagePanelWidth := isPercentage_of_field hnumbers innerPercentage_of_number hwidth
      (innerPercentage_float (by decide +kernel) (by decide +kernel))
    pageHeroImages := hkeys
    headers := hheaders }

theorem isLoaded_of_fromText {s : String} {form : Form}
    (h : fromText Load.form s = .valid form) : form.IsLoaded := by
  unfold fromText at h
  split at h
  · rename_i v hread
    exact isLoaded_of_form (Json.hasReadNumbers_read hread) h
  · exact nomatch h

end Load

/-- **A form that comes out of a file is a loaded form.** -/
theorem Form.isLoaded_of_ofEntry {path : String} {entry : Option FileEntry} {form : Form}
    (h : ofEntry path entry = .ok form) : form.IsLoaded := by
  cases entry with
  | none => exact nomatch h
  | some entry =>
    cases entry with
    | directory => exact nomatch h
    | file bytes =>
      rw [ofEntry, ofBytes] at h
      split at h
      · rw [ofText] at h
        split at h
        · rename_i f hf
          exact Except.ok.inj h ▸ Load.isLoaded_of_fromText hf
        · exact nomatch h
      · exact nomatch h

end FormPress
