import FormPress.Decode.Checked
import FormPress.Proofs.Table

/-!
# Records that are read

An object whose keys are the camel spellings of the attributes of a record, each once, gives every
attribute its value. Whatever the object, an attribute that passes its check has a value in it or is
the default.
-/

namespace FormPress

namespace Table

variable {κ α : Type} [DecidableEq κ]

theorem mem_of_lookupLast {key : κ} {value : α} {table : List (κ × α)}
    (h : lookupLast key table = some value) : (key, value) ∈ table :=
  List.mem_reverse.1 (mem_of_lookup h)

theorem lookupLast_of_nodup {key : κ} {table : List (κ × α)}
    (hkeys : (table.map Prod.fst).Nodup) : lookupLast key table = lookup key table := by
  have hreverse : (table.reverse.map Prod.fst).Nodup := by
    rw [List.map_reverse]
    exact (List.reverse_perm _).nodup_iff.2 hkeys
  refine Option.ext fun value => ?_
  rw [lookupLast, lookup_eq_some_iff hreverse, List.mem_reverse, lookup_eq_some_iff hkeys]

theorem lookupLast_of_mem {key : κ} {value : α} {table : List (κ × α)}
    (hkeys : (table.map Prod.fst).Nodup) (h : (key, value) ∈ table) :
    lookupLast key table = some value := by
  rw [lookupLast_of_nodup hkeys]
  exact (lookup_eq_some_iff hkeys).2 h

theorem lookupLast_of_notMem {key : κ} {table : List (κ × α)} (h : ∀ e ∈ table, e.1 ≠ key) :
    lookupLast key table = none := by
  refine lookup_of_notMem fun hmem => ?_
  obtain ⟨e, he, hkey⟩ := List.mem_map.1 hmem
  exact h e (List.mem_reverse.1 he) hkey

theorem lookupLast_append (key : κ) (table entries : List (κ × α)) :
    lookupLast key (table ++ entries) = (lookupLast key entries).or (lookupLast key table) := by
  rw [lookupLast, List.reverse_append, lookup_append]
  rfl

theorem lookupLast_cons (key k : κ) (value : α) (table : List (κ × α)) :
    lookupLast key ((k, value) :: table) =
      (lookupLast key table).or (if k = key then some value else none) := by
  rw [← List.singleton_append, lookupLast_append]
  rfl

theorem lookup_assignAll (key : κ) (table entries : List (κ × α)) :
    lookup key (assignAll table entries) = (lookupLast key entries).or (lookup key table) := by
  induction entries generalizing table with
  | nil => rfl
  | cons e rest ih =>
    obtain ⟨k, value⟩ := e
    have hrest : lookup key (assignAll table ((k, value) :: rest)) =
        (lookupLast key rest).or (lookup key (assign k value table)) := ih _
    rw [hrest, lookupLast_cons, Option.or_assoc]
    by_cases hk : k = key
    · rw [if_pos hk, hk, lookup_assign_self, Option.some_or]
    · rw [if_neg hk, lookup_assign_of_ne value table (Ne.symm hk), Option.none_or]

/-- Of a key that stands more than once a table keeps the last value. -/
theorem lookup_ofEntries (key : κ) (entries : List (κ × α)) :
    lookup key (ofEntries entries) = lookupLast key entries :=
  (lookup_assignAll key [] entries).trans (Option.or_none)

end Table

namespace Decode

variable {α : Type} {ms : List (String × Json)} {snakes : List String}

/-! ## Names -/

/-- The camel spellings of names, one by one; a name is spelled out as a list. -/
theorem map_camel_cons {cs : List Char} {keys : List String} (h : snakes.map camel = keys) :
    (String.ofList cs :: snakes).map camel =
      String.ofList (camelWords (Text.splitAt '_' cs)) :: keys := by
  rw [List.map_cons, h, camel, String.toList_ofList]

/-! ## Objects with the keys of a record -/

theorem map_attribute?_of_lookupLast {entries : List (String × Json)}
    (hnames : snakes.map camel = entries.map Prod.fst)
    (hentries : ∀ m ∈ entries, Table.lookupLast m.1 ms = some m.2) :
    snakes.map (attribute? · ms) = entries.map some := by
  induction snakes generalizing entries with
  | nil =>
    cases entries with
    | nil => rfl
    | cons m rest => contradiction
  | cons snake snakes ih =>
    cases entries with
    | nil => contradiction
    | cons m rest =>
      rw [List.map_cons, List.map_cons, List.cons.injEq] at hnames
      rw [List.forall_mem_cons] at hentries
      have hfound : attribute? snake ms = some m := by
        rw [attribute?, hnames.1, hentries.1]
      rw [List.map_cons, List.map_cons, hfound, ih hnames.2 hentries.2]

/-- The attributes of a record have the values of the object. -/
theorem map_attribute? (hnames : snakes.map camel = ms.map Prod.fst)
    (hkeys : (ms.map Prod.fst).Nodup) : snakes.map (attribute? · ms) = ms.map some :=
  map_attribute?_of_lookupLast hnames fun _ hm => Table.lookupLast_of_mem hkeys hm

/-- A record is read from an object by what its attributes are. -/
theorem bind_members (snakes : List String) {read : List (String × Json) → Checked α}
    {result : Checked α} (hnames : snakes.map camel = ms.map Prod.fst)
    (hkeys : (ms.map Prod.fst).Nodup)
    (h : ∀ object : List (String × Json), snakes.map (attribute? · object) = ms.map some →
      read object = result) :
    (members (.object ms)).bind read = result :=
  h ms (map_attribute? hnames hkeys)

/-- The same for attributes with one spelling. -/
theorem bind_exactMembers {read : List (String × Json) → Checked α} {result : Checked α}
    (hkeys : (ms.map Prod.fst).Nodup)
    (h : ∀ object : List (String × Json),
      (ms.map Prod.fst).map (Table.lookupLast · object) = ms.map (some ·.2) →
        read object = result) :
    (members (.object ms)).bind read = result := by
  refine h ms ?_
  rw [List.map_map]
  exact List.map_congr_left fun m hm => Table.lookupLast_of_mem hkeys hm

/-! ## Attributes of any object -/

theorem mem_of_attribute? {snake key : String} {v : Json}
    (h : attribute? snake ms = some (key, v)) : (key, v) ∈ ms := by
  unfold attribute? at h
  split at h
  · rename_i w hw
    obtain ⟨rfl, rfl⟩ := Prod.mk.inj (Option.some.inj h)
    exact Table.mem_of_lookupLast hw
  · obtain ⟨w, hw, h⟩ := Option.map_eq_some_iff.1 h
    obtain ⟨rfl, rfl⟩ := Prod.mk.inj h
    exact Table.mem_of_lookupLast hw

/-- A checked attribute has a value in the object, or is the default. -/
theorem field_eq_valid {snake : String} {check : Json → Checked α} {default a : α}
    (h : field ms snake check default = .valid a) :
    a = default ∨ ∃ m ∈ ms, check m.2 = .valid a := by
  unfold field at h
  split at h
  · rename_i key v hattribute
    exact .inr ⟨(key, v), mem_of_attribute? hattribute, Checked.under_eq_valid_iff.1 h⟩
  · cases h
    exact .inl rfl

end Decode

end FormPress
