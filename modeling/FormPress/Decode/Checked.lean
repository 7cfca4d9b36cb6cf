import FormPress.Decode.Fault

/-!
# Checked values

The result of a check: a value, or the faults found. Independent checks are combined by `<*>`, which
keeps the faults of both sides in order; so one pass over a document reports everything.
-/

namespace FormPress.Decode

/-- A value, or the faults that stand against it. -/
inductive Checked (α : Type) where
  | valid (value : α)
  | invalid (faults : List Fault)
deriving Repr

namespace Checked

variable {α β : Type}

/-- Apply a checked function to a checked value; faults of both sides add up. -/
def apply (f : Checked (α → β)) (x : Checked α) : Checked β :=
  match f, x with
  | .valid g, .valid a => .valid (g a)
  | .valid _, .invalid fs => .invalid fs
  | .invalid fs, .valid _ => .invalid fs
  | .invalid fs, .invalid gs => .invalid (fs ++ gs)

/-- Change the value. -/
def map (f : α → β) : Checked α → Checked β
  | .valid a => .valid (f a)
  | .invalid fs => .invalid fs

instance : Functor Checked where
  map := map

instance : Pure Checked where
  pure := .valid

instance : Seq Checked where
  seq f x := apply f (x ())

/-- A single fault at the place itself. -/
def fail (cause : Cause) : Checked α :=
  .invalid [⟨[], cause⟩]

/-- Faults are seen from one step further out. -/
def under (step : Step) : Checked α → Checked α
  | .valid a => .valid a
  | .invalid fs => .invalid (fs.map (Fault.under step))

/-- Check a value further. -/
def bind (x : Checked α) (f : α → Checked β) : Checked β :=
  match x with
  | .valid a => f a
  | .invalid fs => .invalid fs

/-- All values, or all faults in order. -/
def all : List (Checked α) → Checked (List α)
  | [] => .valid []
  | x :: rest => apply (map List.cons x) (all rest)

def toExcept : Checked α → Except (List Fault) α
  | .valid a => .ok a
  | .invalid fs => .error fs

@[simp] theorem apply_valid (g : α → β) (a : α) :
    apply (.valid g) (.valid a) = .valid (g a) := rfl

@[simp] theorem map_valid (g : α → β) (a : α) : map g (.valid a) = .valid (g a) := rfl

@[simp] theorem map_eq (g : α → β) (x : Checked α) : g <$> x = map g x := rfl

@[simp] theorem seq_eq (g : Checked (α → β)) (x : Checked α) : (g <*> x) = apply g x := rfl

@[simp] theorem under_valid (step : Step) (a : α) : under step (.valid a) = .valid a := rfl

/-- A combination is valid only if both sides are. -/
theorem apply_eq_valid_iff {g : Checked (α → β)} {x : Checked α} {b : β} :
    apply g x = .valid b ↔ ∃ h a, g = .valid h ∧ x = .valid a ∧ h a = b := by
  cases g <;> cases x <;> simp [apply]

theorem map_eq_valid_iff {g : α → β} {x : Checked α} {b : β} :
    map g x = .valid b ↔ ∃ a, x = .valid a ∧ g a = b := by
  cases x <;> simp [map]

theorem under_eq_valid_iff {step : Step} {x : Checked α} {a : α} :
    under step x = .valid a ↔ x = .valid a := by
  cases x <;> simp [under]

end Checked

/-! ## Records

The attributes of an object. An attribute has two spellings, in camel case and in snake case; the
camel spelling wins when both are given, and a fault is located under the spelling that was used. Of
a spelling that stands more than once the last value counts. -/

/-- Words as one: all but the first with a capital. -/
def camelWords : List (List Char) → List Char
  | [] => []
  | first :: rest =>
    first ++ rest.flatMap fun word =>
      match word with
      | [] => []
      | c :: more => c.toUpper :: more

/-- The camel spelling of a name in snake case. -/
def camel (snake : String) : String :=
  String.ofList (camelWords (Text.splitAt '_' snake.toList))

/-- The members of an object, or the fault that there are none. -/
def members (v : Json) : Checked (List (String × Json)) :=
  match v with
  | .object ms => .valid ms
  | _ => .fail .notObject

/-- The value of an attribute with the spelling under which it stands. -/
def attribute? (snake : String) (ms : List (String × Json)) : Option (String × Json) :=
  match Table.lookupLast (camel snake) ms with
  | some v => some (camel snake, v)
  | none => (Table.lookupLast snake ms).map fun v => (snake, v)

def field {α : Type} (ms : List (String × Json)) (snake : String) (check : Json → Checked α)
    (default : α) : Checked α :=
  match attribute? snake ms with
  | some (key, v) => (check v).under (.key key)
  | none => .valid default

/-- An attribute that must be given. -/
def required {α : Type} (ms : List (String × Json)) (snake : String) (check : Json → Checked α) :
    Checked α :=
  match attribute? snake ms with
  | some (key, v) => (check v).under (.key key)
  | none => .invalid [⟨[.key (camel snake)], .missing⟩]

/-- An attribute with only one spelling, with a default. -/
def exactField {α : Type} (ms : List (String × Json)) (key : String) (check : Json → Checked α)
    (default : α) : Checked α :=
  match Table.lookupLast key ms with
  | some v => (check v).under (.key key)
  | none => .valid default

end FormPress.Decode
