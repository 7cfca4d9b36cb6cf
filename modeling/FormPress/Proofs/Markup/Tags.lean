import FormPress.Field.View
import FormPress.Markup.Basic

/-!
# Tags

The start tags of markup in the order in which they are written, each with its attributes, and the
values under which attributes are found. The markup of a field is built from a small vocabulary of
elements; `Sound P` says that a tree keeps to this vocabulary, holds no markup of the author and
satisfies `P` at every attribute. Everything that is said about the written text of a field starts
from `Sound`.
-/

namespace FormPress

/-- A start tag. -/
structure Tag where
  name : String
  attributes : List Attribute
deriving DecidableEq, Repr

namespace Markup

/-! ## Attributes by name -/

/-- The value of the first attribute with a name; a bare attribute has the empty value. -/
def valueOf? (key : String) : List Attribute → Option String
  | [] => none
  | a :: rest => if a.name = key then some (a.value.getD "") else valueOf? key rest

@[simp] theorem valueOf?_nil (key : String) : valueOf? key [] = none := rfl

@[simp] theorem valueOf?_attr_self (key value : String) (rest : List Attribute) :
    valueOf? key (attr key value :: rest) = some value := by
  simp [valueOf?, attr]

theorem valueOf?_attr_of_ne {key name : String} (value : String) (rest : List Attribute)
    (h : name ≠ key) : valueOf? key (attr name value :: rest) = valueOf? key rest := by
  simp [valueOf?, attr, h]

theorem valueOf?_eq_none {key : String} {attributes : List Attribute}
    (h : ∀ a ∈ attributes, a.name ≠ key) : valueOf? key attributes = none := by
  induction attributes with
  | nil => rfl
  | cons a rest ih =>
    have ha : a.name ≠ key := h a (by simp)
    simp [valueOf?, ha, ih fun b hb => h b (by simp [hb])]

/-- The first attributes count before those behind them. -/
theorem valueOf?_append (key : String) (xs ys : List Attribute) :
    valueOf? key (xs ++ ys) = (valueOf? key xs).or (valueOf? key ys) := by
  induction xs with
  | nil => rfl
  | cons a rest ih =>
    rw [List.cons_append, valueOf?, valueOf?]
    by_cases ha : a.name = key
    · rw [if_pos ha, if_pos ha, Option.some_or]
    · rw [if_neg ha, if_neg ha, ih]

theorem valueOf?_bareIf_of_ne {key name : String} (condition : Bool) (h : name ≠ key) :
    valueOf? key (bareIf name condition) = none := by
  cases condition <;> simp [bareIf, bare, valueOf?, h]

@[simp] theorem forall_mem_bareIf {P : Attribute → Prop} {name : String} {condition : Bool} :
    (∀ a ∈ bareIf name condition, P a) ↔ (condition = true → P (bare name)) := by
  cases condition <;> simp [bareIf]

theorem forall_mem_onLines {P : Markup → Prop} {indent : Nat} {ms : List Markup}
    (hnewline : P (newline indent)) :
    (∀ m ∈ onLines indent ms, P m) ↔ ∀ m ∈ ms, P m := by
  simp only [onLines, List.mem_flatMap, List.mem_cons, List.not_mem_nil, or_false]
  constructor
  · intro h m hm
    exact h m ⟨m, hm, .inr rfl⟩
  · rintro h m ⟨n, hn, rfl | rfl⟩
    · exact hnewline
    · exact h m hn

/-! ## Tags of a tree -/

mutual

/-- The start tags of a piece of markup, in the order in which they are written. Markup of the
author counts as none. -/
def tags : Markup → List Tag
  | .text _ | .entity _ | .raw _ => []
  | .element name attributes children => ⟨name, attributes⟩ :: listTags children
  | .void name attributes | .closed name attributes => [⟨name, attributes⟩]

/-- The start tags of several pieces. -/
def listTags : List Markup → List Tag
  | [] => []
  | m :: rest => tags m ++ listTags rest

end

theorem listTags_eq (ms : List Markup) : listTags ms = ms.flatMap tags := by
  induction ms with
  | nil => rfl
  | cons m rest ih => simp [listTags, ih]

@[simp] theorem tags_text (s : String) : tags (.text s) = [] := rfl

@[simp] theorem tags_entity (name : String) : tags (.entity name) = [] := rfl

@[simp] theorem tags_raw (s : String) : tags (.raw s) = [] := rfl

@[simp] theorem tags_element (name : String) (attributes : List Attribute)
    (children : List Markup) :
    tags (.element name attributes children) = ⟨name, attributes⟩ :: children.flatMap tags := by
  rw [← listTags_eq]
  rfl

@[simp] theorem tags_void (name : String) (attributes : List Attribute) :
    tags (.void name attributes) = [⟨name, attributes⟩] := rfl

@[simp] theorem tags_newline (indent : Nat) : tags (newline indent) = [] := by simp [newline]

@[simp] theorem tags_label (name : String) (attributes : List Attribute) (s : String) :
    tags (label name attributes s) = [⟨name, attributes⟩] := by simp [label]

@[simp] theorem flatMap_tags_onLines (indent : Nat) (ms : List Markup) :
    (onLines indent ms).flatMap tags = ms.flatMap tags := by
  induction ms with
  | nil => rfl
  | cons m rest ih => simpa [onLines] using ih

@[simp] theorem tags_block (indent : Nat) (name : String) (attributes : List Attribute)
    (children : List Markup) :
    tags (block indent name attributes children) =
      ⟨name, attributes⟩ :: children.flatMap tags := by
  simp [block]

/-! ## The vocabulary of fields -/

/-- The elements with content that fields are built from. -/
def elementNames : List String :=
  ["div", "label", "span", "p", "h2", "h3", "select", "option", "textarea", "button", "canvas",
   "audio", "ol", "li"]

/-- The elements without content. -/
def voidNames : List String :=
  ["input", "img", "hr"]

/-- The references by name or number: three arrows and a star. -/
def entityNames : List String :=
  ["rarr", "uarr", "darr", "#9733"]

mutual

/-- Built from the vocabulary of fields, without markup of the author, and with `P` at every
attribute. -/
def Sound (P : Attribute → Prop) : Markup → Prop
  | .text _ => True
  | .entity name => name ∈ entityNames
  | .raw _ | .closed _ _ => False
  | .element name attributes children =>
    name ∈ elementNames ∧ (∀ a ∈ attributes, P a) ∧ SoundList P children
  | .void name attributes => name ∈ voidNames ∧ ∀ a ∈ attributes, P a

/-- All pieces of a list are sound. -/
def SoundList (P : Attribute → Prop) : List Markup → Prop
  | [] => True
  | m :: rest => Sound P m ∧ SoundList P rest

end

variable {P Q : Attribute → Prop}

theorem soundList_iff {ms : List Markup} : SoundList P ms ↔ ∀ m ∈ ms, Sound P m := by
  induction ms with
  | nil => simp [SoundList]
  | cons m rest ih => simp [SoundList, ih]

@[simp] theorem sound_text (s : String) : Sound P (.text s) := trivial

@[simp] theorem sound_entity {name : String} : Sound P (.entity name) ↔ name ∈ entityNames :=
  Iff.rfl

@[simp] theorem not_sound_raw (s : String) : ¬Sound P (.raw s) := id

@[simp] theorem not_sound_closed (name : String) (attributes : List Attribute) :
    ¬Sound P (.closed name attributes) := id

@[simp] theorem sound_element {name : String} {attributes : List Attribute}
    {children : List Markup} :
    Sound P (.element name attributes children) ↔
      name ∈ elementNames ∧ (∀ a ∈ attributes, P a) ∧ ∀ m ∈ children, Sound P m := by
  rw [← soundList_iff]
  rfl

@[simp] theorem sound_void {name : String} {attributes : List Attribute} :
    Sound P (.void name attributes) ↔ name ∈ voidNames ∧ ∀ a ∈ attributes, P a :=
  Iff.rfl

@[simp] theorem sound_newline (indent : Nat) : Sound P (newline indent) := by simp [newline]

@[simp] theorem sound_label {name : String} {attributes : List Attribute} {s : String} :
    Sound P (label name attributes s) ↔ name ∈ elementNames ∧ ∀ a ∈ attributes, P a := by
  simp [label]

@[simp] theorem sound_onLines {indent : Nat} {ms : List Markup} :
    (∀ m ∈ onLines indent ms, Sound P m) ↔ ∀ m ∈ ms, Sound P m :=
  forall_mem_onLines (sound_newline indent)

@[simp] theorem sound_block {indent : Nat} {name : String} {attributes : List Attribute}
    {children : List Markup} :
    Sound P (block indent name attributes children) ↔
      name ∈ elementNames ∧ (∀ a ∈ attributes, P a) ∧ ∀ m ∈ children, Sound P m := by
  simp [block, or_imp, forall_and]

mutual

theorem Sound.mono (hPQ : ∀ a, P a → Q a) {m : Markup} (h : Sound P m) : Sound Q m := by
  cases m with
  | text s => exact sound_text s
  | entity name => simpa using h
  | raw s => simp at h
  | closed name attributes => simp at h
  | void name attributes =>
    rw [sound_void] at h ⊢
    exact ⟨h.1, fun a ha => hPQ a (h.2 a ha)⟩
  | element name attributes children =>
    rw [Sound] at h ⊢
    exact ⟨h.1, fun a ha => hPQ a (h.2.1 a ha), SoundList.mono hPQ h.2.2⟩

theorem SoundList.mono (hPQ : ∀ a, P a → Q a) {ms : List Markup} (h : SoundList P ms) :
    SoundList Q ms := by
  cases ms with
  | nil => trivial
  | cons m rest => exact ⟨Sound.mono hPQ h.1, SoundList.mono hPQ h.2⟩

end

mutual

/-- What holds at every attribute of a tree holds at every attribute of its tags. -/
theorem Sound.of_mem_tags {m : Markup} (h : Sound P m) {t : Tag} (ht : t ∈ tags m) :
    ∀ a ∈ t.attributes, P a := by
  cases m with
  | text s => simp at ht
  | entity name => simp at ht
  | raw s => simp at ht
  | closed name attributes => simp at h
  | void name attributes =>
    rw [sound_void] at h
    simp only [tags_void, List.mem_singleton] at ht
    subst ht
    exact h.2
  | element name attributes children =>
    rw [Sound] at h
    rw [tags, List.mem_cons] at ht
    rcases ht with rfl | ht
    · exact h.2.1
    · exact SoundList.of_mem_tags h.2.2 ht

theorem SoundList.of_mem_tags {ms : List Markup} (h : SoundList P ms) {t : Tag}
    (ht : t ∈ listTags ms) : ∀ a ∈ t.attributes, P a := by
  cases ms with
  | nil => simp [listTags] at ht
  | cons m rest =>
    rw [listTags, List.mem_append] at ht
    rcases ht with ht | ht
    · exact Sound.of_mem_tags h.1 ht
    · exact SoundList.of_mem_tags h.2 ht

end

end Markup

end FormPress
