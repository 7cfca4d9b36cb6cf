import FormPress.Proofs.Json.Tidy
import FormPress.Proofs.Result
import FormPress.Settings.Load

/-!
# Keys of TOML documents

No table of a document that is read repeats a key. A document grows by steps that change the tables
behind a path; a step keeps the keys distinct when it does so in the one table that it changes, and
the steps of the reader enter a value only where there is none.
-/

namespace FormPress.Toml

variable {t t' : Entries} {v : Toml} {key : Key}

/-! ## Values that repeat no key -/

theorem itemsToJson_eq (items : List Toml) : itemsToJson items = items.map toJson := by
  induction items with
  | nil => rfl
  | cons v rest ih => rw [itemsToJson, ih, List.map_cons]

theorem entriesToJson_eq (t : Entries) : entriesToJson t = t.map fun e => (e.1, e.2.toJson) := by
  induction t with
  | nil => rfl
  | cons e rest ih => rw [entriesToJson, ih, List.map_cons]

/-- No table of a value repeats a key. -/
def KeysOnce (v : Toml) : Prop :=
  v.toJson.KeysOnce

theorem keysOnce_array {items : List Toml} :
    (array items).KeysOnce ↔ ∀ v ∈ items, v.KeysOnce := by
  rw [KeysOnce, toJson, Json.keysOnce_array, itemsToJson_eq]
  exact List.forall_mem_map

theorem keysOnce_table :
    (table t).KeysOnce ↔ (t.map Prod.fst).Nodup ∧ ∀ e ∈ t, e.2.KeysOnce := by
  rw [KeysOnce, toJson, Json.keysOnce_object, entriesToJson_eq, List.map_map]
  exact and_congr_right fun _ => List.forall_mem_map

theorem keysOnce_nil : (table []).KeysOnce :=
  keysOnce_table.2 ⟨List.nodup_nil, nofun⟩

theorem keysOnce_of_isContainer (h : v.isContainer = false) : v.KeysOnce := by
  cases v with
  | array items => exact nomatch h
  | table t => exact nomatch h
  | string s | int i | float x | bool b => trivial
  | moment m => exact Json.keysOnce_array.2 nofun

theorem keysOnce_assign {name : String} (ht : (table t).KeysOnce) (hv : v.KeysOnce) :
    (table (Table.assign name v t)).KeysOnce := by
  rw [keysOnce_table] at ht ⊢
  refine ⟨Table.nodup_keys_assign ht.1, fun e he => ?_⟩
  rcases Table.mem_of_mem_assign he with rfl | hmem
  · exact hv
  · exact ht.2 e hmem

theorem keysOnce_of_lookup {name : String} (ht : (table t).KeysOnce)
    (h : Table.lookup name t = some v) : v.KeysOnce :=
  (keysOnce_table.1 ht).2 _ (Table.mem_of_lookup h)

/-! ## Changes of tables -/

/-- A change of a table after which it repeats no key, if it did not before. -/
def Keeps (change : Entries → Option Entries) : Prop :=
  ∀ t t', (table t).KeysOnce → change t = some t' → (table t').KeysOnce

/-- A change behind a path keeps the tables on the way. -/
theorem Keeps.alter {change : Entries → Option Entries} (h : Keeps change) (throughLists : Bool)
    (key : Key) : Keeps (alter throughLists change key) := by
  induction key with
  | nil => exact h
  | cons name path ih =>
    intro t t' ht halter
    rw [Toml.alter] at halter
    split at halter
    · obtain ⟨inner, hinner, rfl⟩ := Option.map_eq_some_iff.1 halter
      exact keysOnce_assign ht (ih _ _ keysOnce_nil hinner)
    · rename_i entries hlookup
      obtain ⟨inner, hinner, rfl⟩ := Option.map_eq_some_iff.1 halter
      exact keysOnce_assign ht (ih _ _ (keysOnce_of_lookup ht hlookup) hinner)
    · rename_i items hlookup
      have hitems := keysOnce_array.1 (keysOnce_of_lookup ht hlookup)
      split at halter
      · rename_i entries hlast
        obtain ⟨inner, hinner, rfl⟩ := Option.map_eq_some_iff.1 halter
        have hentries := hitems _ (List.mem_of_getLast? hlast)
        refine keysOnce_assign ht (keysOnce_array.2 ?_)
        rw [List.forall_mem_append, List.forall_mem_singleton]
        exact ⟨fun w hw => hitems w (List.dropLast_subset items hw), ih _ _ hentries hinner⟩
      · exact nomatch halter
    · exact nomatch halter

theorem keeps_some : Keeps some := by
  intro t t' ht h
  exact Option.some.inj h ▸ ht

/-- A value is entered only where there is none. -/
theorem keeps_assign (name : String) (hv : v.KeysOnce) : Keeps fun inner =>
    if (Table.lookup name inner).isSome then none else some (Table.assign name v inner) := by
  intro t t' ht h
  dsimp only at h
  split at h
  · exact nomatch h
  · exact Option.some.inj h ▸ keysOnce_assign ht hv

theorem keeps_appendTable (name : String) : Keeps (appendTable name) := by
  intro t t' ht h
  unfold appendTable at h
  split at h
  · refine Option.some.inj h ▸ keysOnce_assign ht (keysOnce_array.2 ?_)
    rw [List.forall_mem_singleton]
    exact keysOnce_nil
  · rename_i items hlookup
    have hitems := keysOnce_array.1 (keysOnce_of_lookup ht hlookup)
    refine Option.some.inj h ▸ keysOnce_assign ht (keysOnce_array.2 ?_)
    rw [List.forall_mem_append, List.forall_mem_singleton]
    exact ⟨hitems, keysOnce_nil⟩
  · exact nomatch h

/-! ## Values -/

section Values

variable {s rest : List Char}

theorem isContainer_of_readMoment (h : readMoment s = .ok (some (v, rest))) :
    v.isContainer = false := by
  unfold readMoment at h
  split at h
  · split at h
    · exact nomatch h
    · split at h
      · cases h
        rfl
      · cases h
        rfl
  · obtain ⟨clock, -, heq⟩ := Option.map_eq_some_iff.1 (Except.ok.inj h)
    cases heq
    rfl

theorem isContainer_of_readBased {base : Nat} {isOne : Char → Bool} {mark : Char}
    (h : readBased base isOne mark s = some (v, rest)) : v.isContainer = false := by
  unfold readBased at h
  split at h
  · split at h
    · split at h
      · exact nomatch h
      · cases h
        rfl
    · exact nomatch h
  · exact nomatch h

theorem isContainer_of_readDecimal (h : readDecimal s = .ok (some (v, rest))) :
    v.isContainer = false := by
  unfold readDecimal at h
  dsimp only at h
  split at h
  · exact nomatch h
  · split at h
    · cases h
      rfl
    · split at h
      · split at h
        · exact nomatch h
        · cases h
          rfl
      · cases h
        rfl

theorem isContainer_of_readNumber (h : readNumber s = .ok (some (v, rest))) :
    v.isContainer = false := by
  unfold readNumber at h
  dsimp only at h
  split at h
  · rename_i hbased
    cases h
    exact isContainer_of_readBased hbased
  · split at h
    · rename_i hbased
      cases h
      exact isContainer_of_readBased hbased
    · split at h
      · rename_i hbased
        cases h
        exact isContainer_of_readBased hbased
      · exact isContainer_of_readDecimal h

theorem isContainer_of_readWordNumber? (h : readWordNumber? s = some (v, rest)) :
    v.isContainer = false := by
  unfold readWordNumber? at h
  dsimp only at h
  split at h
  · cases h
    rfl
  · cases h
    rfl
  · exact nomatch h

theorem isContainer_of_readSimple (h : readSimple s = .ok (v, rest)) : v.isContainer = false := by
  unfold readSimple at h
  split at h
  · obtain ⟨text, -, heq⟩ := map_eq_ok.1 h
    cases heq
    rfl
  · obtain ⟨text, -, heq⟩ := map_eq_ok.1 h
    cases heq
    rfl
  · cases h
    rfl
  · cases h
    rfl
  · split at h
    · exact nomatch h
    · rename_i hmoment
      cases h
      exact isContainer_of_readMoment hmoment
    · split at h
      · exact nomatch h
      · rename_i hnumber
        cases h
        exact isContainer_of_readNumber hnumber
      · split at h
        · rename_i hword
          cases h
          exact isContainer_of_readWordNumber? hword
        · exact nomatch h

theorem keysOnce_of_enterInline {sealedKeys : List Key} (ht : (table t).KeysOnce)
    (hv : v.KeysOnce) (h : enterInline sealedKeys t key v = .ok t') : (table t').KeysOnce := by
  unfold enterInline at h
  dsimp only at h
  split at h
  · exact nomatch h
  · split at h
    · exact nomatch h
    · split at h
      · exact nomatch h
      · rename_i halter
        cases h
        exact (keeps_assign _ hv).alter false _ _ _ ht halter

mutual

theorem keysOnce_of_readValue : ∀ (fuel : Nat) {s rest : List Char} {v : Toml},
    readValue fuel s = .ok (v, rest) → v.KeysOnce
  | 0, _, _, _, h => nomatch h
  | fuel + 1, s, rest, v, h => by
    unfold readValue at h
    split at h
    · split at h
      · exact nomatch h
      · cases h
        exact keysOnce_array.2 nofun
      · obtain ⟨found, hfound, heq⟩ := map_eq_ok.1 h
        cases heq
        exact keysOnce_array.2 (keysOnce_of_readItems fuel hfound)
    · split at h
      · cases h
        exact keysOnce_nil
      · obtain ⟨found, hfound, heq⟩ := map_eq_ok.1 h
        cases heq
        exact keysOnce_of_readEntries fuel keysOnce_nil hfound
    · exact keysOnce_of_isContainer (isContainer_of_readSimple h)

theorem keysOnce_of_readItems : ∀ (fuel : Nat) {s rest : List Char} {items : List Toml},
    readItems fuel s = .ok (items, rest) → ∀ v ∈ items, v.KeysOnce
  | 0, _, _, _, h => nomatch h
  | fuel + 1, s, rest, items, h => by
    unfold readItems at h
    split at h
    · exact nomatch h
    · rename_i hvalue
      have hv := keysOnce_of_readValue fuel hvalue
      split at h
      · exact nomatch h
      · cases h
        exact List.forall_mem_singleton.2 hv
      · split at h
        · exact nomatch h
        · cases h
          exact List.forall_mem_singleton.2 hv
        · obtain ⟨found, hfound, heq⟩ := map_eq_ok.1 h
          cases heq
          exact List.forall_mem_cons.2 ⟨hv, keysOnce_of_readItems fuel hfound⟩
      · exact nomatch h

theorem keysOnce_of_readEntries : ∀ (fuel : Nat) {sealedKeys : List Key} {t t' : Entries}
    {s rest : List Char}, (table t).KeysOnce →
      readEntries fuel sealedKeys t s = .ok (t', rest) → (table t').KeysOnce
  | 0, _, _, _, _, _, _, h => nomatch h
  | fuel + 1, sealedKeys, t, t', s, rest, ht, h => by
    unfold readEntries at h
    split at h
    · exact nomatch h
    · split at h
      · exact nomatch h
      · rename_i hvalue
        split at h
        · exact nomatch h
        · rename_i henter
          have hnext := keysOnce_of_enterInline ht (keysOnce_of_readValue fuel hvalue) henter
          split at h
          · cases h
            exact hnext
          · exact keysOnce_of_readEntries fuel hnext h
          · exact nomatch h

end

end Values

/-! ## Documents -/

section Documents

variable {d d' : Draft} {s rest : List Char}

theorem keysOnce_of_enter (hd : (table d.root).KeysOnce) (hv : v.KeysOnce)
    (h : d.enter key v = .ok d') : (table d'.root).KeysOnce := by
  unfold Draft.enter at h
  dsimp only at h
  split at h
  · exact nomatch h
  · split at h
    · exact nomatch h
    · split at h
      · exact nomatch h
      · rename_i halter
        cases h
        exact (keeps_assign _ hv).alter true _ _ _ hd halter

theorem keysOnce_of_openTable (hd : (table d.root).KeysOnce) (h : d.openTable key = .ok d') :
    (table d'.root).KeysOnce := by
  unfold Draft.openTable at h
  split at h
  · exact nomatch h
  · split at h
    · exact nomatch h
    · rename_i halter
      cases h
      exact keeps_some.alter true _ _ _ hd halter

theorem keysOnce_of_openListTable (hd : (table d.root).KeysOnce)
    (h : d.openListTable key = .ok d') : (table d'.root).KeysOnce := by
  unfold Draft.openListTable at h
  dsimp only at h
  split at h
  · exact nomatch h
  · split at h
    · exact nomatch h
    · rename_i halter
      cases h
      exact (keeps_appendTable _).alter true _ _ _ hd halter

theorem atRest_eq_ok {α : Type} {x : Except Problem α} {a : α} :
    atRest rest x = .ok a ↔ x = .ok a := by
  cases x with
  | ok b => simp [atRest]
  | error problem => simp [atRest]

theorem keysOnce_of_readEntry (hd : (table d.root).KeysOnce)
    (h : readEntry d s = .ok (d', rest)) : (table d'.root).KeysOnce := by
  obtain ⟨⟨key, afterSign⟩, -, h⟩ := bind_eq_ok.1 h
  obtain ⟨⟨v, afterValue⟩, hvalue, h⟩ := bind_eq_ok.1 h
  obtain ⟨next, hnext, h⟩ := bind_eq_ok.1 h
  cases h
  exact keysOnce_of_enter hd (keysOnce_of_readValue _ hvalue) (atRest_eq_ok.1 hnext)

theorem keysOnce_of_readHeader (hd : (table d.root).KeysOnce)
    (h : readHeader d s = .ok (d', rest)) : (table d'.root).KeysOnce := by
  have hsettle : (table d.settle.root).KeysOnce := hd
  unfold readHeader at h
  dsimp only at h
  split at h
  · obtain ⟨⟨key, afterKey⟩, -, h⟩ := bind_eq_ok.1 h
    obtain ⟨next, hnext, h⟩ := bind_eq_ok.1 h
    have hopened := keysOnce_of_openListTable hsettle (atRest_eq_ok.1 hnext)
    split at h
    · cases h
      exact hopened
    · exact nomatch h
  · obtain ⟨⟨key, afterKey⟩, -, h⟩ := bind_eq_ok.1 h
    obtain ⟨next, hnext, h⟩ := bind_eq_ok.1 h
    have hopened := keysOnce_of_openTable hsettle (atRest_eq_ok.1 hnext)
    split at h
    · cases h
      exact hopened
    · exact nomatch h

/-- A statement keeps the keys of a document distinct. -/
theorem keysOnce_of_readStatement (hd : (table d.root).KeysOnce)
    (h : readStatement d s = .ok (d', rest)) : (table d'.root).KeysOnce := by
  unfold readStatement at h
  split at h
  · cases h
    exact hd
  · split at h
    · exact keysOnce_of_readEntry hd h
    · split at h
      · exact keysOnce_of_readHeader hd h
      · split at h
        · cases h
          exact hd
        · contradiction

theorem keysOnce_of_readLines {fuel : Nat} (hd : (table d.root).KeysOnce)
    (h : readLines fuel d s = .ok d') : (table d'.root).KeysOnce := by
  induction fuel generalizing d s with
  | zero => exact Except.ok.inj h ▸ hd
  | succ fuel ih =>
    unfold readLines at h
    split at h
    · exact Except.ok.inj h ▸ hd
    · exact ih hd h
    · split at h
      · exact nomatch h
      · rename_i hstatement
        have hnext := keysOnce_of_readStatement hd hstatement
        split at h
        · exact nomatch h
        · exact Except.ok.inj h ▸ hnext
        · exact ih hnext h
        · exact nomatch h

/-- **No table of a document repeats a key.** -/
theorem keysOnce_of_read {s : String} (h : read s = .ok t) : (table t).KeysOnce := by
  unfold read at h
  dsimp only at h
  split at h
  · rename_i d hlines
    have hempty : (table ({} : Draft).root).KeysOnce := keysOnce_nil
    exact Except.ok.inj h ▸ keysOnce_of_readLines hempty hlines
  · exact nomatch h

end Documents

end FormPress.Toml
