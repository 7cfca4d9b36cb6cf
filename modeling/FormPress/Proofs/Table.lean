import FormPress.Table

/-!
# Entries of tables

Distinct keys keep the order in which they are met first. Where no key is repeated there is nothing
to drop, and of copies of one key a single one is left. A table made of entries has the keys of all
of them, and holds nothing that is not one of them.
-/

namespace FormPress.Table

variable {κ α : Type} [DecidableEq κ]

/-! ## Distinct keys -/

theorem distinct_of_nodup {keys : List κ} (h : keys.Nodup) : distinct keys = keys := by
  induction keys with
  | nil => rfl
  | cons k rest ih =>
    rw [List.nodup_cons] at h
    rw [distinct, ih h.2, List.filter_eq_self.2]
    intro j hj
    have hne : j ≠ k := by
      rintro rfl
      exact h.1 hj
    simp [hne]

theorem distinct_replicate (n : Nat) (k : κ) :
    distinct (List.replicate n k) = if n = 0 then [] else [k] := by
  induction n with
  | zero => rfl
  | succ n ih =>
    rw [List.replicate_succ, distinct, ih]
    by_cases hn : n = 0
    · simp [hn]
    · simp [hn]

/-- The values of a list each once, in the order of their first occurrences. -/
structure Firsts (whole firsts : List κ) : Prop where
  nodup : firsts.Nodup
  mem_iff : ∀ k, k ∈ firsts ↔ k ∈ whole
  ordered : firsts.Pairwise fun j k => whole.idxOf j < whole.idxOf k

theorem firsts_distinct (keys : List κ) : Firsts keys (distinct keys) where
  nodup := nodup_distinct keys
  mem_iff := fun _ => mem_distinct
  ordered := by
    induction keys with
    | nil => exact .nil
    | cons k rest ih =>
      have hindex {j : κ} (hj : j ∈ (distinct rest).filter (· ≠ k)) :
          (k :: rest).idxOf j = rest.idxOf j + 1 := by
        have hne : k ≠ j := fun heq => by simp [heq] at hj
        rw [List.idxOf_cons, beq_false_of_ne hne, cond_false]
      rw [distinct, List.pairwise_cons]
      constructor
      · intro j hj
        rw [List.idxOf_cons_self, hindex hj]
        exact Nat.succ_pos _
      · refine (ih.filter _).imp_of_mem fun {i j} hi hj hlt => ?_
        rw [hindex hi, hindex hj]
        exact Nat.succ_lt_succ hlt

/-! ## Entries -/

theorem mem_of_lookup {key : κ} {value : α} {table : List (κ × α)}
    (h : lookup key table = some value) : (key, value) ∈ table := by
  induction table with
  | nil => contradiction
  | cons e rest ih =>
    obtain ⟨k, v⟩ := e
    rw [lookup] at h
    split at h
    · rename_i hk
      obtain rfl := Option.some.inj h
      rw [hk]
      exact List.mem_cons_self
    · exact List.mem_cons_of_mem _ (ih h)

theorem lookup_of_notMem {key : κ} {table : List (κ × α)} (h : key ∉ table.map Prod.fst) :
    lookup key table = none := by
  cases hlookup : lookup key table with
  | none => rfl
  | some value => exact absurd (List.mem_map.2 ⟨_, mem_of_lookup hlookup, rfl⟩) h

theorem lookup_filter_of_ne {key other : κ} {table : List (κ × α)} (h : other ≠ key) :
    lookup other (table.filter (·.1 ≠ key)) = lookup other table := by
  induction table with
  | nil => rfl
  | cons e rest ih =>
    obtain ⟨k, v⟩ := e
    by_cases hk : k = key
    · rw [List.filter_cons_of_neg (by simp [hk]), ih, lookup, if_neg (hk ▸ Ne.symm h)]
    · rw [List.filter_cons_of_pos (by simp [hk]), lookup, lookup, ih]

theorem lookup_append (key : κ) (table entries : List (κ × α)) :
    lookup key (table ++ entries) = (lookup key table).or (lookup key entries) := by
  induction table with
  | nil => rfl
  | cons e rest ih =>
    obtain ⟨k, v⟩ := e
    by_cases hk : k = key
    · rw [List.cons_append, lookup, lookup, if_pos hk, if_pos hk, Option.some_or]
    · rw [List.cons_append, lookup, lookup, if_neg hk, if_neg hk, ih]

theorem lookup_append_of_none {key : κ} {table : List (κ × α)} (h : lookup key table = none)
    (entries : List (κ × α)) : lookup key (table ++ entries) = lookup key entries := by
  rw [lookup_append, h, Option.none_or]

theorem lookup_append_singleton_of_ne {key other : κ} {value : α} {table : List (κ × α)}
    (h : other ≠ key) : lookup other (table ++ [(key, value)]) = lookup other table := by
  rw [lookup_append, lookup, if_neg (Ne.symm h), lookup, Option.or_none]

theorem mem_of_mem_assign {key : κ} {value : α} {table : List (κ × α)} {e : κ × α}
    (h : e ∈ assign key value table) : e = (key, value) ∨ e ∈ table := by
  induction table with
  | nil => simpa [assign] using h
  | cons d rest ih =>
    obtain ⟨k, v⟩ := d
    rw [assign] at h
    split at h
    · rename_i hk
      rcases List.mem_cons.1 h with rfl | h
      · exact .inl (by rw [hk])
      · exact .inr (List.mem_cons_of_mem _ h)
    · rcases List.mem_cons.1 h with rfl | h
      · exact .inr List.mem_cons_self
      · exact (ih h).imp_right (List.mem_cons_of_mem _)

theorem mem_keys_assign {key k : κ} {value : α} {table : List (κ × α)} :
    k ∈ (assign key value table).map Prod.fst ↔ k = key ∨ k ∈ table.map Prod.fst := by
  induction table with
  | nil => simp [assign]
  | cons e rest ih =>
    obtain ⟨j, v⟩ := e
    rw [assign]
    split
    · rename_i hj
      simp [hj]
    · rw [List.map_cons, List.map_cons, List.mem_cons, List.mem_cons, ih]
      exact or_left_comm

-- The table so far is general: the fold assigns one entry after another.
theorem mem_keys_assignAll {k : κ} {table entries : List (κ × α)} :
    k ∈ (assignAll table entries).map Prod.fst ↔
      k ∈ table.map Prod.fst ∨ k ∈ entries.map Prod.fst := by
  induction entries generalizing table with
  | nil => simp [assignAll]
  | cons e rest ih =>
    have hrest : k ∈ (assignAll (assign e.1 e.2 table) rest).map Prod.fst ↔
        k ∈ (assign e.1 e.2 table).map Prod.fst ∨ k ∈ rest.map Prod.fst := ih
    rw [mem_keys_assign, or_assoc, or_left_comm] at hrest
    rw [List.map_cons, List.mem_cons]
    exact hrest

theorem mem_of_mem_assignAll {e : κ × α} {table entries : List (κ × α)}
    (h : e ∈ assignAll table entries) : e ∈ table ∨ e ∈ entries := by
  induction entries generalizing table with
  | nil => exact .inl h
  | cons d rest ih =>
    rcases ih h with hassign | hrest
    · rcases mem_of_mem_assign hassign with rfl | htable
      · exact .inr List.mem_cons_self
      · exact .inl htable
    · exact .inr (List.mem_cons_of_mem _ hrest)

@[simp] theorem mem_keys_ofEntries {k : κ} {entries : List (κ × α)} :
    k ∈ (ofEntries entries).map Prod.fst ↔ k ∈ entries.map Prod.fst := by
  rw [ofEntries, mem_keys_assignAll]
  simp

theorem mem_of_mem_ofEntries {e : κ × α} {entries : List (κ × α)} (h : e ∈ ofEntries entries) :
    e ∈ entries :=
  (mem_of_mem_assignAll h).resolve_left List.not_mem_nil

/-! ## Entries with distinct keys -/

theorem assign_of_notMem {key : κ} {value : α} {table : List (κ × α)}
    (h : key ∉ table.map Prod.fst) : assign key value table = table ++ [(key, value)] := by
  induction table with
  | nil => rfl
  | cons e rest ih =>
    obtain ⟨k, v⟩ := e
    rw [List.map_cons, List.mem_cons, not_or] at h
    rw [assign, if_neg (Ne.symm h.1), ih h.2]
    rfl

theorem assignAll_of_nodup {table entries : List (κ × α)}
    (h : ((table ++ entries).map Prod.fst).Nodup) : assignAll table entries = table ++ entries := by
  induction entries generalizing table with
  | nil => exact (List.append_nil table).symm
  | cons e rest ih =>
    have hnew : e.1 ∉ table.map Prod.fst := by
      rw [List.map_append, List.map_cons, List.nodup_append] at h
      exact fun he => h.2.2 e.1 he e.1 List.mem_cons_self rfl
    have hsplit : table ++ e :: rest = (table ++ [e]) ++ rest := by simp
    rw [hsplit] at h ⊢
    rw [← ih h, ← assign_of_notMem hnew]
    rfl

/-- Entries with distinct keys are a table as they stand. -/
theorem ofEntries_of_nodup {entries : List (κ × α)} (h : (entries.map Prod.fst).Nodup) :
    ofEntries entries = entries := by
  have hall : (([] ++ entries).map Prod.fst).Nodup := h
  exact assignAll_of_nodup hall

theorem nodup_keys_assign {key : κ} {value : α} {table : List (κ × α)}
    (h : (table.map Prod.fst).Nodup) : ((assign key value table).map Prod.fst).Nodup := by
  induction table with
  | nil => simp [assign]
  | cons e rest ih =>
    obtain ⟨k, v⟩ := e
    rw [List.map_cons, List.nodup_cons] at h
    rw [assign]
    split
    · exact List.nodup_cons.2 h
    · rename_i hk
      rw [List.map_cons, List.nodup_cons, mem_keys_assign, not_or]
      exact ⟨⟨hk, h.1⟩, ih h.2⟩

theorem nodup_keys_ofEntries (entries : List (κ × α)) :
    ((ofEntries entries).map Prod.fst).Nodup := by
  suffices h : ∀ table : List (κ × α), (table.map Prod.fst).Nodup →
      ((assignAll table entries).map Prod.fst).Nodup from h [] List.nodup_nil
  induction entries with
  | nil => exact fun table h => h
  | cons e rest ih => exact fun table h => ih _ (nodup_keys_assign h)

theorem lookup_eq_some_iff {key : κ} {value : α} {table : List (κ × α)}
    (h : (table.map Prod.fst).Nodup) : lookup key table = some value ↔ (key, value) ∈ table := by
  refine ⟨mem_of_lookup, fun hmem => ?_⟩
  induction table with
  | nil => contradiction
  | cons e rest ih =>
    obtain ⟨k, v⟩ := e
    rw [List.map_cons, List.nodup_cons] at h
    rcases List.mem_cons.1 hmem with heq | hrest
    · obtain ⟨rfl, rfl⟩ := Prod.mk.inj heq
      rw [lookup, if_pos rfl]
    · have hne : k ≠ key := by
        rintro rfl
        exact h.1 (List.mem_map.2 ⟨_, hrest, rfl⟩)
      rw [lookup, if_neg hne, ih h.2 hrest]

end FormPress.Table
