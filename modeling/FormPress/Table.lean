/-!
# Ordered tables

A table is a list of keys with values in the order of their first appearance. Giving a known key a
new value keeps its place; a new key goes to the end.
-/

namespace FormPress.Table

variable {κ α : Type} [DecidableEq κ]

def lookup (key : κ) : List (κ × α) → Option α
  | [] => none
  | (k, v) :: rest => if k = key then some v else lookup key rest

/-- The last value of a key, where a key may stand more than once. -/
def lookupLast (key : κ) (entries : List (κ × α)) : Option α :=
  lookup key entries.reverse

def assign (key : κ) (value : α) : List (κ × α) → List (κ × α)
  | [] => [(key, value)]
  | (k, v) :: rest =>
    if k = key then (k, value) :: rest else (k, v) :: assign key value rest

/-- Give several keys their values, one after another. -/
def assignAll (table : List (κ × α)) (entries : List (κ × α)) : List (κ × α) :=
  entries.foldl (fun known e => assign e.1 e.2 known) table

/-- Entries with each key once: at its first place, with its last value. -/
def ofEntries (entries : List (κ × α)) : List (κ × α) :=
  assignAll [] entries

/-- The values that are not met before, in order. -/
def distinct : List κ → List κ
  | [] => []
  | k :: rest => k :: (distinct rest).filter (· ≠ k)

@[simp] theorem lookup_assign_self (key : κ) (value : α) (table : List (κ × α)) :
    lookup key (assign key value table) = some value := by
  induction table with
  | nil => simp [assign, lookup]
  | cons e rest ih =>
    obtain ⟨k, v⟩ := e
    by_cases h : k = key <;> simp [assign, lookup, h, ih]

theorem lookup_assign_of_ne {key other : κ} (value : α) (table : List (κ × α))
    (h : other ≠ key) : lookup other (assign key value table) = lookup other table := by
  induction table with
  | nil => simp [assign, lookup, Ne.symm h]
  | cons e rest ih =>
    obtain ⟨k, v⟩ := e
    by_cases hk : k = key
    · simp [assign, lookup, hk, Ne.symm h]
    · by_cases ho : k = other
      · simp [assign, lookup, ho, h]
      · simp [assign, lookup, hk, ho, ih]

@[simp] theorem mem_distinct {k : κ} {keys : List κ} : k ∈ distinct keys ↔ k ∈ keys := by
  induction keys with
  | nil => simp [distinct]
  | cons j rest ih =>
    by_cases h : k = j <;> simp [distinct, h, ih]

theorem nodup_distinct (keys : List κ) : (distinct keys).Nodup := by
  induction keys with
  | nil => simp [distinct]
  | cons j rest ih =>
    rw [distinct, List.nodup_cons]
    exact ⟨by simp, ih.filter _⟩

end FormPress.Table
