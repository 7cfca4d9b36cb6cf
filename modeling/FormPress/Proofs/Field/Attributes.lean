import FormPress.Field.Render
import FormPress.Proofs.Field.Slots
import FormPress.Proofs.Markup.Names

/-!
# Attributes of fields

What the attributes in the markup of a field are. The root of a field identifies it: by its id, its
name and its rules. Inside, an attribute either has a plain name, which says nothing about other
fields, or it marks an option with a condition, or it names the source of a lookup.
-/

namespace FormPress

open Markup

/-- Attribute names that refer to no field. -/
abbrev plainNames : List String :=
  ["type", "id", "name", "class", "placeholder", "value", "required", "readonly", "disabled",
   "minlength", "maxlength", "min", "max", "step", "pattern", "accept", "autocomplete", "rows",
   "multiple", "checked", "selected", "hidden", "style", "role", "for", "title", "src", "alt",
   "loading", "width", "height", "controls", "contenteditable", "aria-label", "aria-hidden",
   "aria-expanded", "aria-multiline", "data-field-type", "data-required", "data-always-hidden",
   "data-page-break", "data-phone-for", "data-phone-code", "data-phone-raw", "data-lookup-map",
   "data-formula", "data-signature-for", "data-signature-action", "data-voice-for",
   "data-voice-action", "data-rich-text-for", "data-rte-command", "data-widget-required",
   "data-collapse-toggle", "data-ranking-for", "data-ranking-move", "data-value"]

theorem isName_of_mem_plainNames : ∀ name ∈ plainNames, IsName name := by
  simp only [plainNames, List.forall_mem_cons, List.not_mem_nil, false_implies, implies_true,
    and_true]
  repeat' apply And.intro
  all_goals exact isName_ofList rfl

/-- The class of the button that submits a form. -/
abbrev submitClass : Attribute := attr "class" "submit-btn"

/-- A slot with a plain name, whose value is not the class of the submit button. -/
def PlainSlot (s : String × Option String) : Prop :=
  s.1 ∈ plainNames ∧ (s.1 = "class" → s.2 ≠ some "submit-btn")

@[simp] theorem plainSlot_mk {name : String} {value : Option String} :
    PlainSlot (name, value) ↔
      name ∈ plainNames ∧ (name = "class" → value ≠ some "submit-btn") :=
  Iff.rfl

theorem attr_ne_submitClass {name value : String} (h : name = "class" → value ≠ "submit-btn") :
    attr name value ≠ submitClass := by
  intro heq
  obtain ⟨rfl, rfl⟩ : name = "class" ∧ value = "submit-btn" := by simpa [attr] using heq
  exact h rfl rfl

/-- A class that ends in another way. -/
theorem append_ne_submit (s : String) {ending : String}
    (h : ¬ending.toList <:+ "submit-btn".toList) : s ++ ending ≠ "submit-btn" := by
  intro heq
  rw [← heq, String.toList_append] at h
  exact h (List.suffix_append _ _)

/-- A class that begins in another way. -/
theorem ne_submit_of_not_prefix {base : String} (h : ¬base.toList <+: "submit-btn".toList)
    (s : String) : base ++ s ≠ "submit-btn" := by
  intro heq
  rw [← heq, String.toList_append] at h
  exact h (List.prefix_append _ _)

theorem bare_ne_submitClass (name : String) : bare name ≠ submitClass := by
  simp [bare, attr]

namespace FieldView

/-- What an attribute inside the markup of a field is. -/
inductive Carries (v : FieldView) (fields : List Field) : Attribute → Prop where
  /-- It refers to no field. -/
  | plain {a : Attribute} (h : a.name ∈ plainNames) (hclass : a ≠ submitClass) :
    Carries v fields a
  /-- It marks an option. -/
  | marker {c : ChoiceView} {e : String × String} (hc : c ∈ v.choices) (he : e ∈ c.entries) :
    Carries v fields (attr e.1 e.2)
  /-- It names the source of a lookup. -/
  | source {l : Lookup} (hl : v.field.lookup = some l) (hs : lookupSource l fields ≠ "") :
    Carries v fields (attr "data-lookup-source" (lookupSource l fields))

/-- What an attribute at the root of a field is. -/
inductive Identifies (v : FieldView) : Attribute → Prop where
  | plain {a : Attribute} (h : a.name ∈ plainNames) (hclass : a ≠ submitClass) : Identifies v a
  | id : Identifies v (attr "data-field-id" v.field.id)
  | name : Identifies v (attr "data-field-name" v.field.name)
  | rules (h : v.field.rulesText ≠ "") : Identifies v (attr "data-conditions" v.field.rulesText)

variable {v : FieldView} {fields : List Field}

theorem carries_attr {name value : String} (h : name ∈ plainNames)
    (hclass : name = "class" → value ≠ "submit-btn") : v.Carries fields (attr name value) :=
  .plain h (attr_ne_submitClass hclass)

theorem carries_bare {name : String} (h : name ∈ plainNames) : v.Carries fields (bare name) :=
  .plain h (bare_ne_submitClass name)

theorem carries_choice {c : ChoiceView} (hc : c ∈ v.choices) :
    ∀ a ∈ c.attributes, v.Carries fields a := by
  intro a ha
  simp only [ChoiceView.attributes, List.mem_map] at ha
  obtain ⟨e, he, rfl⟩ := ha
  exact .marker hc he

/-- Slots with plain names. -/
theorem each_plain {slots : Slots} (h : ∀ s ∈ slots, PlainSlot s) :
    Slots.Each (v.Carries fields) slots := by
  intro s hs value hvalue
  refine carries_attr (h s hs).1 fun hname heq => (h s hs).2 hname ?_
  rw [hvalue, heq]

theorem each_control (type : Option String) :
    Slots.Each (v.Carries fields) (v.control type) :=
  each_plain (by simp [control, plainNames])

theorem each_choice : Slots.Each (v.Carries fields) v.choice :=
  (each_control none).override (each_plain (by simp [plainNames]))

end FieldView

end FormPress
