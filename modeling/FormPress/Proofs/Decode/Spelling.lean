import FormPress.Proofs.Decode.Loaded
import FormPress.Proofs.Json.Bounds
import FormPress.Proofs.Json.Tidy
import Mathlib.Data.List.Nodup

/-!
# Keys in another spelling

A value may spell the attributes of its records in camel case or in snake case. A `Shape` says which
of its objects are records and what their attributes are; everything else in it is left alone. When
one key of a record is spelled the other way, each attribute of that record still has the value it
had: no other attribute has that spelling, and the attribute itself is given once. So a check that
reads a record through its attributes gives the same verdict, and checks that are put together from
such checks do so at every depth.
-/

namespace FormPress.Decode

variable {α β : Type}

/-! ## Verdicts -/

/-- The same value, or none on either side. The faults may differ, as they name the keys. -/
def SameVerdict (x y : Checked α) : Prop :=
  ∀ a, x = .valid a ↔ y = .valid a

theorem SameVerdict.refl (x : Checked α) : SameVerdict x x := fun _ => Iff.rfl

theorem SameVerdict.trans {x y z : Checked α} (hxy : SameVerdict x y) (hyz : SameVerdict y z) :
    SameVerdict x z :=
  fun a => (hxy a).trans (hyz a)

theorem SameVerdict.map {x y : Checked α} (h : SameVerdict x y) (g : α → β) :
    SameVerdict (g <$> x) (g <$> y) := by
  intro b
  simp only [Checked.map_eq, Checked.map_eq_valid_iff, h _]

theorem SameVerdict.seq {f g : Checked (α → β)} {x y : Checked α} (hf : SameVerdict f g)
    (hx : SameVerdict x y) : SameVerdict (f <*> x) (g <*> y) := by
  intro b
  simp only [Checked.seq_eq, Checked.apply_eq_valid_iff, hf _, hx _]

theorem SameVerdict.under {x y : Checked α} (h : SameVerdict x y) (step : Step) :
    SameVerdict (x.under step) (y.under step) := by
  intro a
  rw [Checked.under_eq_valid_iff, Checked.under_eq_valid_iff, h]

/-- A list is judged alike when one of its items is. -/
theorem SameVerdict.list {check : Json → Checked α} {v w : Json}
    (h : SameVerdict (check v) (check w)) (pre post : List Json) :
    SameVerdict (list check (.array (pre ++ v :: post)))
      (list check (.array (pre ++ w :: post))) := by
  have hfrom (i : Nat) : SameVerdict (.all (itemsFrom check i (pre ++ v :: post)))
      (.all (itemsFrom check i (pre ++ w :: post))) := by
    induction pre generalizing i with
    | nil => exact ((h.under _).map List.cons).seq (.refl _)
    | cons u pre ih => exact (SameVerdict.refl _).seq (ih (i + 1))
  exact hfrom 0

/-! ## Spellings -/

def Spells (snake key : String) : Prop :=
  key = camel snake ∨ key = snake

/-- Where the keys of a value are attributes. A record has attributes with values that are left
alone, and parts with a shape of their own. -/
inductive Shape where
  | plain
  | list (item : Shape)
  | record (names : List String) (parts : List (String × Shape))

/-- The names of the attributes of a record, in snake case. -/
def Shape.attributes : Shape → List String
  | .record names parts => names ++ parts.map Prod.fst
  | .plain | .list _ => []

/-- One key of one record in a value, at any depth, is spelled in the other way. No other key of
that record stands for the same attribute. -/
inductive Respells : Shape → Json → Json → Prop
  | key {names : List String} {parts : List (String × Shape)} {snake key other : String} {v : Json}
      {pre post : List (String × Json)} (hattribute : snake ∈ names ++ parts.map Prod.fst)
      (hkey : Spells snake key) (hother : Spells snake other)
      (halone : ∀ m ∈ pre ++ post, ¬Spells snake m.1) :
      Respells (.record names parts) (.object (pre ++ (key, v) :: post))
        (.object (pre ++ (other, v) :: post))
  | part {names : List String} {parts : List (String × Shape)} {snake key : String} {shape : Shape}
      {v w : Json} {pre post : List (String × Json)} (hpart : (snake, shape) ∈ parts)
      (hkey : Spells snake key) (h : Respells shape v w) :
      Respells (.record names parts) (.object (pre ++ (key, v) :: post))
        (.object (pre ++ (key, w) :: post))
  | item {shape : Shape} {v w : Json} {pre post : List Json} (h : Respells shape v w) :
      Respells (.list shape) (.array (pre ++ v :: post)) (.array (pre ++ w :: post))

/-- No key is repeated in another spelling, since a spelling stands for one attribute. -/
theorem Respells.keysOnce {shape : Shape} {v w : Json} (h : Respells shape v w)
    (hv : v.KeysOnce) : w.KeysOnce := by
  induction h with
  | @key names parts snake key other u pre post hattribute hkey hother halone =>
    rw [Json.keysOnce_object] at hv ⊢
    simp only [List.map_append, List.map_cons, List.forall_mem_append, List.forall_mem_cons] at hv ⊢
    refine ⟨?_, hv.2⟩
    have hfresh : other ∉ pre.map Prod.fst ++ post.map Prod.fst := by
      rw [← List.map_append]
      intro hmem
      obtain ⟨m, hm, rfl⟩ := List.mem_map.1 hmem
      exact halone m hm hother
    have hothers := (List.perm_middle.nodup_iff.1 hv.1).of_cons
    exact List.perm_middle.nodup_iff.2 (List.nodup_cons.2 ⟨hfresh, hothers⟩)
  | part hpart hkey h ih =>
    rw [Json.keysOnce_object] at hv ⊢
    simp only [List.map_append, List.map_cons, List.forall_mem_append, List.forall_mem_cons] at hv ⊢
    exact ⟨hv.1, hv.2.1, ih hv.2.2.1, hv.2.2.2⟩
  | item h ih =>
    rw [Json.keysOnce_array] at hv ⊢
    simp only [List.forall_mem_append, List.forall_mem_cons] at hv ⊢
    exact ⟨hv.1, ih hv.2.1, hv.2.2⟩

theorem Respells.within_iff {shape : Shape} {v w : Json} (h : Respells shape v w)
    (depth digits : Nat) : v.Within depth digits ↔ w.Within depth digits := by
  induction h generalizing depth with
  | key =>
    rw [Json.within_object, Json.within_object]
    simp only [List.forall_mem_append, List.forall_mem_cons]
  | part hpart hkey h ih =>
    rw [Json.within_object, Json.within_object]
    simp only [List.forall_mem_append, List.forall_mem_cons, ih]
  | item h ih =>
    rw [Json.within_array, Json.within_array]
    simp only [List.forall_mem_append, List.forall_mem_cons, ih]

/-! ## Values of attributes -/

/-- The value of an attribute, under whichever spelling. -/
def value? (snake : String) (ms : List (String × Json)) : Option Json :=
  (attribute? snake ms).map Prod.snd

variable {snake key : String} {v w : Json} {pre post ms ns : List (String × Json)}

theorem value?_eq (snake : String) (ms : List (String × Json)) :
    value? snake ms = (Table.lookupLast (camel snake) ms).or (Table.lookupLast snake ms) := by
  unfold value? attribute?
  cases Table.lookupLast (camel snake) ms with
  | none => cases Table.lookupLast snake ms <;> rfl
  | some v => rfl

theorem value?_of_alone (hkey : Spells snake key) (halone : ∀ m ∈ pre ++ post, ¬Spells snake m.1) :
    value? snake (pre ++ (key, v) :: post) = some v := by
  rw [List.forall_mem_append] at halone
  have hnone {k : String} (hk : Spells snake k) {part : List (String × Json)}
      (hpart : ∀ m ∈ part, ¬Spells snake m.1) : Table.lookupLast k part = none :=
    Table.lookupLast_of_notMem fun m hm hmk => hpart m hm (hmk ▸ hk)
  have hlookup {k : String} (hk : Spells snake k) :
      Table.lookupLast k (pre ++ (key, v) :: post) = if key = k then some v else none := by
    rw [Table.lookupLast_append, Table.lookupLast_cons, hnone hk halone.1, hnone hk halone.2,
      Option.none_or, Option.or_none]
  rw [value?_eq, hlookup (.inl rfl), hlookup (.inr rfl)]
  by_cases hcamel : key = camel snake
  · rw [if_pos hcamel, Option.some_or]
  · rw [if_neg hcamel, if_pos (hkey.resolve_left hcamel), Option.none_or]

/-- A member that is no spelling of an attribute does not matter to it. -/
theorem value?_of_not_spells (hkey : ¬Spells snake key) :
    value? snake (pre ++ (key, v) :: post) = value? snake (pre ++ post) := by
  have hlookup {k : String} (hk : Spells snake k) :
      Table.lookupLast k (pre ++ (key, v) :: post) = Table.lookupLast k (pre ++ post) := by
    have hne : key ≠ k := fun h => hkey (h ▸ hk)
    rw [Table.lookupLast_append, Table.lookupLast_append, Table.lookupLast_cons, if_neg hne,
      Option.or_none]
  rw [value?_eq, value?_eq, hlookup (.inl rfl), hlookup (.inr rfl)]

/-- When a member takes another value, an attribute stays as it is or takes that value. -/
theorem value?_change (snake key : String) (v w : Json) (pre post : List (String × Json)) :
    value? snake (pre ++ (key, v) :: post) = value? snake (pre ++ (key, w) :: post) ∨
      value? snake (pre ++ (key, v) :: post) = some v ∧
        value? snake (pre ++ (key, w) :: post) = some w := by
  have hlookup (k : String) :
      Table.lookupLast k (pre ++ (key, v) :: post) = Table.lookupLast k (pre ++ (key, w) :: post) ∨
        Table.lookupLast k (pre ++ (key, v) :: post) = some v ∧
          Table.lookupLast k (pre ++ (key, w) :: post) = some w := by
    simp only [Table.lookupLast_append, Table.lookupLast_cons]
    cases Table.lookupLast k post with
    | some u => exact .inl rfl
    | none =>
      by_cases hk : key = k
      · exact .inr ⟨by simp [hk], by simp [hk]⟩
      · exact .inl (by simp [hk])
  rw [value?_eq, value?_eq]
  rcases hlookup (camel snake) with h | ⟨hv, hw⟩
  · rw [h]
    cases Table.lookupLast (camel snake) (pre ++ (key, w) :: post) with
    | some u => exact .inl rfl
    | none => exact hlookup snake
  · exact .inr ⟨by rw [hv, Option.some_or], by rw [hw, Option.some_or]⟩

variable {check : Json → Checked α}

theorem field_eq_valid_iff {default a : α} : field ms snake check default = .valid a ↔
    (∃ v, value? snake ms = some v ∧ check v = .valid a) ∨
      (value? snake ms = none ∧ a = default) := by
  unfold field value?
  cases attribute? snake ms with
  | none => simp [eq_comm]
  | some m => simp [Checked.under_eq_valid_iff]

theorem required_eq_valid_iff {a : α} : required ms snake check = .valid a ↔
    ∃ v, value? snake ms = some v ∧ check v = .valid a := by
  unfold required value?
  cases attribute? snake ms with
  | none => simp
  | some m => simp [Checked.under_eq_valid_iff]

/-! ## Records -/

/-- Attributes of which no two share a spelling. -/
structure Apart (attributes : List String) : Prop where
  camels : (attributes.map camel).Nodup
  snakes : ∀ s ∈ attributes, ∀ t ∈ attributes, camel s = t → s = t

instance : DecidablePred Apart := fun attributes =>
  decidable_of_iff ((attributes.map camel).Nodup ∧
      ∀ s ∈ attributes, ∀ t ∈ attributes, camel s = t → s = t)
    ⟨fun h => ⟨h.1, h.2⟩, fun h => ⟨h.camels, h.snakes⟩⟩

theorem Apart.eq_of_spells {attributes : List String} (h : Apart attributes) {s t key : String}
    (hs : s ∈ attributes) (ht : t ∈ attributes) (hsk : Spells s key) (htk : Spells t key) :
    s = t := by
  rcases hsk with hs' | hs' <;> rcases htk with ht' | ht'
  · exact List.inj_on_of_nodup_map h.camels hs ht (hs'.symm.trans ht')
  · exact h.snakes s hs t ht (hs'.symm.trans ht')
  · exact (h.snakes t ht s hs (ht'.symm.trans hs')).symm
  · exact hs'.symm.trans ht'

variable {names : List String} {parts : List (String × Shape)} {shape : Shape}

theorem Apart.ne_part (h : Apart (names ++ parts.map Prod.fst)) {p : String × Shape}
    (hsnake : snake ∈ names) (hp : p ∈ parts) : snake ≠ p.1 :=
  (List.nodup_append.1 (List.Nodup.of_map camel h.camels)).2.2 snake hsnake p.1
    (List.mem_map_of_mem hp)

/-- The attributes of two objects are the same, up to one step of respelling inside of a part. -/
structure SameAttributes (names : List String) (parts : List (String × Shape))
    (ms ns : List (String × Json)) : Prop where
  names : ∀ snake ∈ names, value? snake ms = value? snake ns
  parts : ∀ p ∈ parts, value? p.1 ms = value? p.1 ns ∨
    ∃ v w, value? p.1 ms = some v ∧ value? p.1 ns = some w ∧ v.KeysOnce ∧ Respells p.2 v w

/-- **A step of respelling leaves a record its attributes.** -/
theorem Respells.sameAttributes (h : Respells (.record names parts) v w)
    (hapart : Apart (names ++ parts.map Prod.fst)) (hv : v.KeysOnce) :
    ∃ ms ns, v = .object ms ∧ w = .object ns ∧ SameAttributes names parts ms ns := by
  have hname {s : String} (hs : s ∈ names) : s ∈ names ++ parts.map Prod.fst :=
    List.mem_append_left _ hs
  have hpart {p : String × Shape} (hp : p ∈ parts) : p.1 ∈ names ++ parts.map Prod.fst :=
    List.mem_append_right _ (List.mem_map_of_mem hp)
  cases h with
  | @key _ _ snake key other u pre post hattribute hkey hother halone =>
    have hsame (s : String) (hs : s ∈ names ++ parts.map Prod.fst) :
        value? s (pre ++ (key, u) :: post) = value? s (pre ++ (other, u) :: post) := by
      by_cases hsnake : s = snake
      · rw [hsnake, value?_of_alone hkey halone, value?_of_alone hother halone]
      · have hne {k : String} (hk : Spells snake k) : ¬Spells s k :=
          fun hsk => hsnake (hapart.eq_of_spells hs hattribute hsk hk)
        rw [value?_of_not_spells (hne hkey), value?_of_not_spells (hne hother)]
    exact ⟨_, _, rfl, rfl, fun s hs => hsame s (hname hs), fun p hp => .inl (hsame p.1 (hpart hp))⟩
  | @part _ _ snake key shape u x pre post hmem hkey h =>
    have hne {s : String} (hs : s ∈ names ++ parts.map Prod.fst) (hsnake : s ≠ snake) :
        value? s (pre ++ (key, u) :: post) = value? s (pre ++ (key, x) :: post) := by
      have hspells : ¬Spells s key :=
        fun hsk => hsnake (hapart.eq_of_spells hs (hpart hmem) hsk hkey)
      rw [value?_of_not_spells hspells, value?_of_not_spells hspells]
    have hnodup := (List.nodup_append.1 (List.Nodup.of_map camel hapart.camels)).2.1
    have hu : u.KeysOnce := (Json.keysOnce_object.1 hv).2 (key, u) (by simp)
    refine ⟨_, _, rfl, rfl, fun s hs => hne (hname hs) (hapart.ne_part hs hmem), fun p hp => ?_⟩
    by_cases hsnake : p.1 = snake
    · have hsame : p = (snake, shape) := List.inj_on_of_nodup_map hnodup hp hmem hsnake
      rcases value?_change p.1 key u x pre post with hvalue | ⟨hbefore, hafter⟩
      · exact .inl hvalue
      · exact .inr ⟨u, x, hbefore, hafter, hu, hsame ▸ h⟩
    · exact .inl (hne (hpart hp) hsnake)

/-- An attribute with one spelling may be given a new value on both sides. -/
theorem SameAttributes.assign (h : SameAttributes names parts ms ns)
    (hapart : Apart (names ++ parts.map Prod.fst)) (hms : (ms.map Prod.fst).Nodup)
    (hns : (ns.map Prod.fst).Nodup) (hkey : key ∈ names) (hcamel : camel key = key) (v : Json) :
    SameAttributes names parts (Table.assign key v ms) (Table.assign key v ns) := by
  have hself {os : List (String × Json)} (hos : (os.map Prod.fst).Nodup) :
      value? key (Table.assign key v os) = some v := by
    rw [value?_eq, hcamel, Option.or_self, Table.lookupLast_of_nodup (Table.nodup_keys_assign hos),
      Table.lookup_assign_self]
  have hother {s : String} (hs : s ∈ names ++ parts.map Prod.fst) (hne : s ≠ key)
      {os : List (String × Json)} (hos : (os.map Prod.fst).Nodup) :
      value? s (Table.assign key v os) = value? s os := by
    have hlookup {k : String} (hk : Spells s k) :
        Table.lookupLast k (Table.assign key v os) = Table.lookupLast k os := by
      have hkey' : key ∈ names ++ parts.map Prod.fst := List.mem_append_left _ hkey
      have hkk : k ≠ key := fun hkk => hne (hapart.eq_of_spells hs hkey' hk (.inr hkk))
      rw [Table.lookupLast_of_nodup (Table.nodup_keys_assign hos), Table.lookupLast_of_nodup hos,
        Table.lookup_assign_of_ne _ _ hkk]
    rw [value?_eq, value?_eq, hlookup (.inl rfl), hlookup (.inr rfl)]
  refine ⟨fun s hs => ?_, fun p hp => ?_⟩
  · by_cases hne : s = key
    · rw [hne, hself hms, hself hns]
    · have hs' : s ∈ names ++ parts.map Prod.fst := List.mem_append_left _ hs
      rw [hother hs' hne hms, hother hs' hne hns, h.names s hs]
  · have hp' : p.1 ∈ names ++ parts.map Prod.fst :=
      List.mem_append_right _ (List.mem_map_of_mem hp)
    have hne := (hapart.ne_part hkey hp).symm
    rw [hother hp' hne hms, hother hp' hne hns]
    exact h.parts p hp

/-! ## Checks -/

/-- A check gives the same verdict after a step of respelling. -/
def Agrees (shape : Shape) (check : Json → Checked α) : Prop :=
  ∀ v w, v.KeysOnce → Respells shape v w → SameVerdict (check v) (check w)

theorem agrees_record (hapart : Apart (names ++ parts.map Prod.fst))
    {read : List (String × Json) → Checked α}
    (hread : ∀ ms ns, SameAttributes names parts ms ns → SameVerdict (read ms) (read ns)) :
    Agrees (.record names parts) fun v => (members v).bind read := by
  intro v w hv h
  obtain ⟨ms, ns, rfl, rfl, hsame⟩ := h.sameAttributes hapart hv
  exact hread ms ns hsame

theorem Agrees.optional (h : Agrees shape check) : Agrees shape (optional check) := by
  intro v w hv hstep
  have hverdict := (h v w hv hstep).map some
  -- neither side is null
  cases hstep with
  | key | part | item => exact hverdict

theorem Agrees.list (h : Agrees shape check) : Agrees (.list shape) (list check) := by
  intro v w hv hstep
  cases hstep with
  | item hitem => exact (h _ _ (Json.keysOnce_array.1 hv _ (by simp)) hitem).list _ _

theorem SameAttributes.field (h : SameAttributes names parts ms ns) (hmem : snake ∈ names)
    (check : Json → Checked α) (default : α) :
    SameVerdict (field ms snake check default) (field ns snake check default) := by
  intro a
  rw [field_eq_valid_iff, field_eq_valid_iff, h.names snake hmem]

theorem SameAttributes.required (h : SameAttributes names parts ms ns) (hmem : snake ∈ names)
    (check : Json → Checked α) :
    SameVerdict (required ms snake check) (required ns snake check) := by
  intro a
  rw [required_eq_valid_iff, required_eq_valid_iff, h.names snake hmem]

theorem SameAttributes.part (h : SameAttributes names parts ms ns) (hcheck : Agrees shape check)
    (hmem : (snake, shape) ∈ parts) (default : α) :
    SameVerdict (Decode.field ms snake check default) (Decode.field ns snake check default) := by
  intro a
  rw [field_eq_valid_iff, field_eq_valid_iff]
  rcases h.parts _ hmem with hvalue | ⟨v, w, hv, hw, hkeys, hstep⟩
  · rw [hvalue]
  · simp [hv, hw, hcheck v w hkeys hstep a]

end FormPress.Decode
