import FormPress.Proofs.Markup.Tags
import FormPress.Proofs.Table

/-!
# Slots of attributes

What the written attributes of a list of slots are, and which value stands under a name. Overriding
a slot keeps its place, so a property of all slots is kept when it holds of the new ones.
-/

namespace FormPress.Slots

open Markup

/-- A property of every attribute that the slots write. -/
def Each (P : Attribute → Prop) (slots : Slots) : Prop :=
  ∀ s ∈ slots, ∀ value, s.2 = some value → P (attr s.1 value)

variable {P : Attribute → Prop}

@[simp] theorem each_nil : Each P [] := by simp [Each]

@[simp] theorem each_cons {name : String} {value : Option String} {rest : Slots} :
    Each P ((name, value) :: rest) ↔ (∀ v, value = some v → P (attr name v)) ∧ Each P rest := by
  simp [Each]

theorem exists_of_mem_attributes {slots : Slots} {a : Attribute} (ha : a ∈ slots.attributes) :
    ∃ s ∈ slots, ∃ value, s.2 = some value ∧ attr s.1 value = a := by
  simpa only [Slots.attributes, List.mem_filterMap, Option.map_eq_some_iff] using ha

theorem Each.attributes {slots : Slots} (h : Each P slots) : ∀ a ∈ slots.attributes, P a := by
  intro a ha
  obtain ⟨s, hs, v, hv, rfl⟩ := exists_of_mem_attributes ha
  exact h s hs v hv

theorem Each.override {slots entries : Slots} (hslots : Each P slots) (hentries : Each P entries) :
    Each P (slots.override entries) := by
  induction entries generalizing slots with
  | nil => exact hslots
  | cons e rest ih =>
    obtain ⟨key, value⟩ := e
    rw [each_cons] at hentries
    refine ih (fun s hs v hv => ?_) hentries.2
    rcases Table.mem_of_mem_assign hs with rfl | hs
    · exact hentries.1 v hv
    · exact hslots s hs v hv

/-! ## Values by name -/

@[simp] theorem attributes_nil : Slots.attributes [] = [] := rfl

theorem valueOf?_cons_of_ne {key name : String} (value : Option String) (rest : Slots)
    (h : name ≠ key) :
    valueOf? key (Slots.attributes ((name, value) :: rest)) = valueOf? key rest.attributes := by
  cases value with
  | none => rfl
  | some v => exact valueOf?_attr_of_ne v _ h

/-- The first slot of a name counts, if it has a value. -/
theorem valueOf?_cons_eq (key : String) (value : Option String) (rest : Slots) :
    valueOf? key (Slots.attributes ((key, value) :: rest)) =
      value.or (valueOf? key rest.attributes) := by
  cases value with
  | none => rfl
  | some v => exact valueOf?_attr_self key v _

@[simp] theorem valueOf?_cons_self (key value : String) (rest : Slots) :
    valueOf? key (Slots.attributes ((key, some value) :: rest)) = some value :=
  valueOf?_attr_self key value _

theorem valueOf?_assign_of_ne {key name : String} (value : Option String) (slots : Slots)
    (h : name ≠ key) :
    valueOf? key (Slots.attributes (Table.assign name value slots)) =
      valueOf? key slots.attributes := by
  induction slots with
  | nil => exact valueOf?_cons_of_ne value [] h
  | cons e rest ih =>
    obtain ⟨k, v⟩ := e
    rw [Table.assign]
    by_cases hname : k = name
    · rw [if_pos hname, hname, valueOf?_cons_of_ne value rest h, valueOf?_cons_of_ne v rest h]
    · rw [if_neg hname]
      by_cases hkey : k = key
      · cases v with
        | none => exact ih
        | some w => rw [hkey, valueOf?_cons_self, valueOf?_cons_self]
      · rw [valueOf?_cons_of_ne _ _ hkey, valueOf?_cons_of_ne _ _ hkey, ih]

/-- Overriding other slots does not change the value under a name. -/
theorem valueOf?_override {key : String} {slots entries : Slots}
    (h : ∀ e ∈ entries, e.1 ≠ key) :
    valueOf? key (slots.override entries).attributes = valueOf? key slots.attributes := by
  induction entries generalizing slots with
  | nil => rfl
  | cons e rest ih =>
    obtain ⟨name, value⟩ := e
    have hname : name ≠ key := h (name, value) (by simp)
    calc valueOf? key (slots.override ((name, value) :: rest)).attributes
        = valueOf? key (Slots.override (Table.assign name value slots) rest).attributes := rfl
      _ = valueOf? key (Slots.attributes (Table.assign name value slots)) :=
          ih fun e he => h e (List.mem_cons_of_mem _ he)
      _ = valueOf? key slots.attributes := valueOf?_assign_of_ne value slots hname

theorem valueOf?_assign_self (key value : String) (slots : Slots) :
    valueOf? key (Slots.attributes (Table.assign key (some value) slots)) = some value := by
  induction slots with
  | nil => exact valueOf?_cons_self key value []
  | cons e rest ih =>
    obtain ⟨k, v⟩ := e
    rw [Table.assign]
    by_cases hk : k = key
    · rw [if_pos hk, hk, valueOf?_cons_self]
    · rw [if_neg hk, valueOf?_cons_of_ne v _ hk, ih]

/-- The last new value of a name counts. -/
theorem valueOf?_override_self {key value : String} {slots : Slots} (before : Slots) {after : Slots}
    (h : ∀ e ∈ after, e.1 ≠ key) :
    valueOf? key (slots.override (before ++ (key, some value) :: after)).attributes =
      some value := by
  have hsplit : slots.override (before ++ (key, some value) :: after) =
      Slots.override (Table.assign key (some value) (slots.override before)) after := by
    simp [Slots.override, Table.assignAll]
  rw [hsplit, valueOf?_override h, valueOf?_assign_self]

end FormPress.Slots
