import FormPress.Proofs.Document.Compile
import FormPress.Proofs.Field.Identity
import FormPress.Proofs.Style.Entrance

/-!
# Fields that wait to be revealed

Three parts of a document take care that fields enter: the stylesheet makes them invisible, the
script reveals them, and each field carries the class by which both find it. All three come from the
entrances of the form, and they agree: either none of them animates the fields, or all of them do.
-/

namespace FormPress

open Markup

/-! ## Classes of a field -/

/-- The first class of the root of a field, by its kind. -/
def FieldKind.baseClass : FieldKind → String
  | .heading => "form-heading"
  | .paragraph => "form-paragraph"
  | .banner => "form-banner"
  | .divider => "form-divider"
  | .htmlSnippet => "html-snippet"
  | .spacer => "form-spacer"
  | .sectionBreak => "section-break"
  | _ => "form-group"

/-- The first class of the root of a field; a field of an unknown kind stands in a group. -/
def Field.baseClass (f : Field) : String :=
  f.kind.elim "form-group" FieldKind.baseClass

namespace FieldView

variable {v : FieldView} {fields : List Field} {o : RenderOptions} {kind : FieldKind} {m : Markup}

/-- The first tag of a piece of markup has the classes of a group. -/
def RootHasClasses (v : FieldView) (base : String) (animate : Bool) (m : Markup) : Prop :=
  ∃ name attributes inner, m.tags = ⟨name, attributes⟩ :: inner ∧
    valueOf? "class" attributes = some (Text.join " " (v.groupClasses base animate))

theorem class_group (v : FieldView) (base : String) (animate : Bool) :
    valueOf? "class" (v.group base animate).attributes =
      some (Text.join " " (v.groupClasses base animate)) :=
  Slots.valueOf?_cons_self ..

theorem rootHasClasses_grouped (animate : Bool) (control : Markup) :
    v.RootHasClasses "form-group" animate (v.grouped animate control) :=
  ⟨_, _, _, tags_block .., class_group ..⟩

/-- A kind that stands alone has its own first class at its root. -/
theorem rootHasClasses_controlOf (hkind : kind.standsAlone = true) (hhidden : kind ≠ .hidden)
    (hbreak : kind ≠ .pageBreak) (h : v.controlOf fields o kind = .ok m) :
    v.RootHasClasses kind.baseClass o.animate m := by
  cases kind with
  | heading => exact Except.ok.inj h ▸ ⟨_, _, _, tags_label .., class_group ..⟩
  | paragraph => exact Except.ok.inj h ▸ ⟨_, _, _, tags_label .., class_group ..⟩
  | banner => exact Except.ok.inj h ▸ ⟨_, _, _, tags_block .., class_group ..⟩
  | divider => exact Except.ok.inj h ▸ ⟨_, _, _, tags_void .., class_group ..⟩
  | htmlSnippet => exact Except.ok.inj h ▸ ⟨_, _, _, tags_element .., class_group ..⟩
  | sectionBreak => exact Except.ok.inj h ▸ ⟨_, _, _, tags_block .., class_group ..⟩
  | spacer =>
    have hclass : valueOf? "class" ((v.group "form-spacer" o.animate).override
        [("style", some ("height: " ++ v.gapHeight))]).attributes =
          some (Text.join " " (v.groupClasses "form-spacer" o.animate)) := by
      rw [Slots.valueOf?_override (by simp), class_group]
    exact Except.ok.inj h ▸ ⟨_, _, _, tags_element .., hclass⟩
  | hidden => contradiction
  | pageBreak => contradiction
  | _ => contradiction

theorem baseClass_of_not_standsAlone (h : ¬kind.standsAlone = true) :
    kind.baseClass = "form-group" := by
  cases kind with
  | hidden | heading | paragraph | banner | divider | htmlSnippet | spacer | sectionBreak
  | pageBreak => exact absurd rfl h
  | _ => rfl

end FieldView

namespace Field

variable {f : Field} {o : RenderOptions} {fields : List Field} {m : Markup}

theorem rootHasClasses_render {v : FieldView} (hv : f.view = .ok v)
    (hhidden : f.kind ≠ some .hidden) (hbreak : f.kind ≠ some .pageBreak)
    (h : f.render o fields = .ok m) : v.RootHasClasses f.baseClass o.animate m := by
  unfold render at h
  rw [hv] at h
  obtain ⟨w, hw, h⟩ := bind_eq_ok.1 h
  obtain rfl := Except.ok.inj hw
  split at h
  · rename_i hkind
    obtain rfl := Except.ok.inj h
    rw [baseClass, hkind]
    exact FieldView.rootHasClasses_grouped _ _
  · rename_i kind hkind
    have hbase : f.baseClass = kind.baseClass := by rw [baseClass, hkind, Option.elim_some]
    obtain ⟨control, hcontrol, h⟩ := bind_eq_ok.1 h
    split at h
    · rename_i halone
      obtain rfl := Except.ok.inj h
      rw [hbase]
      exact FieldView.rootHasClasses_controlOf halone (fun heq => hhidden (heq ▸ hkind))
        (fun heq => hbreak (heq ▸ hkind)) hcontrol
    · rename_i hgroup
      obtain rfl := Except.ok.inj h
      rw [hbase, FieldView.baseClass_of_not_standsAlone hgroup]
      exact FieldView.rootHasClasses_grouped _ _

/-- The classes of a field's root are read back from its markup: that of its kind, those of the
author, and the class of fields that wait to be revealed. -/
theorem class_render (hhidden : f.kind ≠ some .hidden) (hbreak : f.kind ≠ some .pageBreak)
    (hraw : f.HoldsNoRaw o) (h : f.render o fields = .ok m) :
    ∃ root inner, readTags m.write = root :: inner ∧
      valueOf? "class" root.attributes =
        some (Text.join " " (f.baseClass :: (given? f.cssClass).toList ++
          if o.animate then ["ff-reveal"] else [])) := by
  obtain ⟨v, hv, -⟩ := rooted_render hraw h
  obtain ⟨name, attributes, inner, htags, hclass⟩ := rootHasClasses_render hv hhidden hbreak h
  obtain rfl : v.field = f := field_of_view hv
  refine ⟨⟨name, attributes⟩, inner, ?_, hclass⟩
  rw [readTags_write (sound_render hraw h), htags]

end Field

/-! ## Stylesheet, script and fields -/

namespace Form

/-- A script that reveals fields collects those that carry the class first. -/
theorem write_reveal (e : Entrances) : ∃ rest, Script.write (Script.reveal e) =
    "var revealTargets = toArray(document.querySelectorAll(\".ff-reveal\"));" ++ rest := by
  obtain ⟨others, hlines⟩ : ∃ others, Script.listLines 0 (Script.reveal e) =
      "var revealTargets = toArray(document.querySelectorAll(\".ff-reveal\"));" :: others :=
    ⟨_, rfl⟩
  rw [Script.write, hlines, Text.join_cons]
  exact ⟨_, rfl⟩

/-- There is a script that reveals fields exactly when they are animated. -/
theorem revealScript_ne_empty_iff (form : Form) :
    form.revealScript ≠ "" ↔ form.animations.animatesFields = true := by
  unfold revealScript
  split
  · rename_i hanimates
    obtain ⟨rest, hrest⟩ := write_reveal form.animations
    refine iff_of_true (fun hempty => ?_) hanimates
    rw [hrest, String.append_eq_empty_iff] at hempty
    exact absurd hempty.1 (by decide)
  · rename_i hanimates
    exact iff_of_false (fun h => h rfl) hanimates

/-- **Fields that are made invisible are revealed.** The stylesheet of the entrances hides fields
exactly when they are animated, and exactly then there is a script that reveals them; every motion
that the stylesheet plays is defined in it once, and every other motion not at all; and the root of
every field, hidden ones and page breaks apart, has the class of its kind, the classes of the author
and, exactly when the fields are animated, the class by which they are hidden and revealed. -/
theorem entrances_agree (form : Form) :
    (form.animations.animatesFields = true ↔
      Style.HasRule form.animations.writeStyle ".ff-reveal" [("opacity", "0")]) ∧
    (form.animations.animatesFields = true ↔ form.revealScript ≠ "") ∧
    (∀ name ∈ Style.playedNames form.animations.writeStyle,
      (Style.definedNames form.animations.writeStyle).count name = 1) ∧
    (∀ name ∈ Style.definedNames form.animations.writeStyle,
      name ∈ Style.playedNames form.animations.writeStyle) ∧
    ∀ (settings : Settings) (fields : List Field) (f : Field) (m : Markup),
      f.kind ≠ some .hidden → f.kind ≠ some .pageBreak →
        f.HoldsNoRaw (form.renderOptions settings) →
          f.render (form.renderOptions settings) fields = .ok m →
            ∃ root inner, readTags m.write = root :: inner ∧
              valueOf? "class" root.attributes =
                some (Text.join " " (f.baseClass :: (given? f.cssClass).toList ++
                  if form.animations.animatesFields then ["ff-reveal"] else [])) := by
  refine ⟨(Entrances.hasRule_writeStyle_iff _).symm, form.revealScript_ne_empty_iff.symm,
    ?_, ?_, ?_⟩
  · intro name hname
    exact List.count_eq_one_of_mem (Entrances.nodup_definedNames _)
      (Entrances.mem_definedNames_iff.2 hname)
  · exact fun name hname => Entrances.mem_definedNames_iff.1 hname
  · exact fun settings fields f m hhidden hbreak hraw h => Field.class_render hhidden hbreak hraw h

/-- A form whose fields enter one after another. -/
def staggeredForm : Form :=
  { animations := { enabled := true, fields := .stagger } }

/-- A heading with a class of the author. -/
def bigHeading : Field :=
  { id := "h", kindName := "heading", label := "Hello", cssClass := some "big" }

theorem entrances_staggeredForm :
    ∃ m, bigHeading.render (staggeredForm.renderOptions {}) [bigHeading] = .ok m ∧
      ∃ root inner, readTags m.write = root :: inner ∧
        valueOf? "class" root.attributes = some "form-heading big ff-reveal" := by
  have h : bigHeading.render (staggeredForm.renderOptions {}) [bigHeading] = .ok _ := rfl
  obtain ⟨root, inner, hread, hclass⟩ := (entrances_agree staggeredForm).2.2.2.2 {} [bigHeading]
    bigHeading _ (by decide) (by decide) (.inl rfl) h
  exact ⟨_, h, root, inner, hread, hclass⟩

end Form

end FormPress
