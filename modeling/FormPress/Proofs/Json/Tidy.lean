import FormPress.Proofs.Json.RoundTrip
import FormPress.Proofs.Table

/-!
# Tidy values

A tidy value fits a reader and has each key of an object once, so a text of it is read as it stands
and nothing is dropped from it afterwards. Nothing is dropped from any value that repeats no key.
-/

namespace FormPress.Json

variable {a : Allowance} {depth : Nat}

/-! ## Values that fit -/

theorem fits_array {items : List Json} (h : ∀ v ∈ items, Fits a depth v) :
    Fits a (depth + 1) (.array items) := by
  have hitems : FitsItems a (depth + 1) items := by
    induction items with
    | nil => trivial
    | cons v rest ih =>
      rw [List.forall_mem_cons] at h
      exact ⟨⟨depth, rfl, h.1⟩, ih h.2⟩
  exact hitems

theorem fits_object {members : List (String × Json)} (h : ∀ m ∈ members, Fits a depth m.2) :
    Fits a (depth + 1) (.object members) := by
  have hmembers : FitsMembers a (depth + 1) members := by
    induction members with
    | nil => trivial
    | cons m rest ih =>
      rw [List.forall_mem_cons] at h
      exact ⟨⟨depth, rfl, h.1⟩, ih h.2⟩
  exact hmembers

/-! ## Values with distinct keys -/

theorem distinctKeys_array {items : List Json} (h : ∀ v ∈ items, v.distinctKeys = v) :
    (Json.array items).distinctKeys = .array items := by
  have hitems : distinctKeysItems items = items := by
    induction items with
    | nil => rfl
    | cons v rest ih =>
      rw [List.forall_mem_cons] at h
      rw [distinctKeysItems, h.1, ih h.2]
  rw [distinctKeys, hitems]

theorem distinctKeys_object {members : List (String × Json)}
    (hkeys : (members.map Prod.fst).Nodup) (h : ∀ m ∈ members, m.2.distinctKeys = m.2) :
    (Json.object members).distinctKeys = .object members := by
  have hmembers : distinctKeysMembers members = members := by
    clear hkeys
    induction members with
    | nil => rfl
    | cons m rest ih =>
      obtain ⟨k, v⟩ := m
      rw [List.forall_mem_cons] at h
      rw [distinctKeysMembers, h.1, ih h.2]
  rw [distinctKeys, hmembers, Table.ofEntries_of_nodup hkeys]

/-! ## Values that repeat no key -/

mutual

/-- No object of a value repeats a key. -/
def KeysOnce : Json → Prop
  | .array items => ItemsKeysOnce items
  | .object members => (members.map Prod.fst).Nodup ∧ MembersKeysOnce members
  | .null | .bool _ | .int _ | .float _ | .string _ | .brokenString _ => True

/-- Nor does one of any item of an array. -/
def ItemsKeysOnce : List Json → Prop
  | [] => True
  | v :: rest => KeysOnce v ∧ ItemsKeysOnce rest

/-- Nor does one of any member of an object. -/
def MembersKeysOnce : List (String × Json) → Prop
  | [] => True
  | m :: rest => KeysOnce m.2 ∧ MembersKeysOnce rest

end

theorem keysOnce_array {items : List Json} :
    KeysOnce (.array items) ↔ ∀ v ∈ items, KeysOnce v := by
  have hitems : ItemsKeysOnce items ↔ ∀ v ∈ items, KeysOnce v := by
    induction items with
    | nil => simp [ItemsKeysOnce]
    | cons v rest ih => rw [ItemsKeysOnce, ih, List.forall_mem_cons]
  exact hitems

theorem keysOnce_object {members : List (String × Json)} :
    KeysOnce (.object members) ↔
      (members.map Prod.fst).Nodup ∧ ∀ m ∈ members, KeysOnce m.2 := by
  have hmembers : MembersKeysOnce members ↔ ∀ m ∈ members, KeysOnce m.2 := by
    induction members with
    | nil => simp [MembersKeysOnce]
    | cons m rest ih => rw [MembersKeysOnce, ih, List.forall_mem_cons]
  exact and_congr_right fun _ => hmembers

mutual

theorem KeysOnce.distinctKeys_eq {v : Json} (h : KeysOnce v) : v.distinctKeys = v := by
  cases v with
  | array items =>
    have hitems : ItemsKeysOnce items := h
    rw [distinctKeys, hitems.distinctKeysItems_eq]
  | object members =>
    have hmembers : MembersKeysOnce members := h.2
    rw [distinctKeys, hmembers.distinctKeysMembers_eq, Table.ofEntries_of_nodup h.1]
  | null | bool b | int i | float x | string s | brokenString shown => rfl

theorem ItemsKeysOnce.distinctKeysItems_eq {items : List Json} (h : ItemsKeysOnce items) :
    distinctKeysItems items = items := by
  cases items with
  | nil => rfl
  | cons v rest => rw [distinctKeysItems, h.1.distinctKeys_eq, h.2.distinctKeysItems_eq]

theorem MembersKeysOnce.distinctKeysMembers_eq {members : List (String × Json)}
    (h : MembersKeysOnce members) : distinctKeysMembers members = members := by
  cases members with
  | nil => rfl
  | cons m rest =>
    obtain ⟨k, v⟩ := m
    rw [distinctKeysMembers, h.1.distinctKeys_eq, h.2.distinctKeysMembers_eq]

end

theorem map_fst_distinctKeysMembers (members : List (String × Json)) :
    (distinctKeysMembers members).map Prod.fst = members.map Prod.fst := by
  induction members with
  | nil => rfl
  | cons m rest ih =>
    obtain ⟨k, v⟩ := m
    rw [distinctKeysMembers, List.map_cons, List.map_cons, ih]

mutual

/-- Where nothing is dropped, no key is repeated. -/
theorem keysOnce_of_distinctKeys_eq {v : Json} (h : v.distinctKeys = v) : KeysOnce v := by
  cases v with
  | array items =>
    rw [distinctKeys, Json.array.injEq] at h
    have hitems : ItemsKeysOnce items := itemsKeysOnce_of_eq h
    exact hitems
  | object members =>
    rw [distinctKeys, Json.object.injEq] at h
    have hkeys : (members.map Prod.fst).Nodup := h ▸ Table.nodup_keys_ofEntries _
    rw [Table.ofEntries_of_nodup (by rwa [map_fst_distinctKeysMembers])] at h
    exact ⟨hkeys, membersKeysOnce_of_eq h⟩
  | null | bool b | int i | float x | string s | brokenString shown => trivial

theorem itemsKeysOnce_of_eq {items : List Json} (h : distinctKeysItems items = items) :
    ItemsKeysOnce items := by
  cases items with
  | nil => trivial
  | cons v rest =>
    rw [distinctKeysItems, List.cons.injEq] at h
    exact ⟨keysOnce_of_distinctKeys_eq h.1, itemsKeysOnce_of_eq h.2⟩

theorem membersKeysOnce_of_eq {members : List (String × Json)}
    (h : distinctKeysMembers members = members) : MembersKeysOnce members := by
  cases members with
  | nil => trivial
  | cons m rest =>
    obtain ⟨k, v⟩ := m
    rw [distinctKeysMembers, List.cons.injEq, Prod.mk.injEq] at h
    exact ⟨keysOnce_of_distinctKeys_eq h.1.2, membersKeysOnce_of_eq h.2⟩

end

/-! ## Tidy values -/

/-- A value that fits a reader and has each key once. -/
structure Tidy (a : Allowance) (depth : Nat) (v : Json) : Prop where
  fits : Fits a depth v
  distinctKeys_eq : v.distinctKeys = v

@[simp] theorem tidy_null : Tidy a depth .null := ⟨trivial, rfl⟩

@[simp] theorem tidy_bool (b : Bool) : Tidy a depth (.bool b) := ⟨trivial, rfl⟩

@[simp] theorem tidy_string (s : String) : Tidy a depth (.string s) := ⟨trivial, rfl⟩

theorem tidy_array {items : List Json} (h : ∀ v ∈ items, Tidy a depth v) :
    Tidy a (depth + 1) (.array items) :=
  ⟨fits_array fun v hv => (h v hv).fits, distinctKeys_array fun v hv => (h v hv).distinctKeys_eq⟩

theorem tidy_object {members : List (String × Json)} (hkeys : (members.map Prod.fst).Nodup)
    (h : ∀ m ∈ members, Tidy a depth m.2) : Tidy a (depth + 1) (.object members) :=
  ⟨fits_object fun m hm => (h m hm).fits,
    distinctKeys_object hkeys fun m hm => (h m hm).distinctKeys_eq⟩

end FormPress.Json
