import FormPress.Proofs.Decode.Spelling
import FormPress.Proofs.Form.Loaded
import FormPress.Proofs.Number.Decimal
import FormPress.Proofs.Number.Written

/-!
# Names of loaded fields

A field answers under a name, and one that is given no name is to answer under its id. The loader
fills a name in before numbers become texts, and asks of the raw values whether they are given. A
value that is given has a text that is not empty, so an object that gives its id or its name loads
as meant. A zero is not given, yet it has a text: an object that gives neither may load with an id
and without a name.
-/

namespace FormPress

/-! ## Members of values -/

namespace Json

/-- The value of a key of an object; of a repeated key the last one. -/
def last? (key : String) : Json → Option Json
  | .object members => Table.lookupLast key members
  | _ => none

/-- The value is an object that gives a value to the key. -/
def gives (key : String) (v : Json) : Bool :=
  (v.last? key).any isGiven

theorem lookupLast_distinctKeysMembers (key : String) (members : List (String × Json)) :
    Table.lookupLast key (distinctKeysMembers members) =
      (Table.lookupLast key members).map distinctKeys := by
  induction members with
  | nil => rfl
  | cons m rest ih =>
    obtain ⟨k, v⟩ := m
    rw [distinctKeysMembers, Table.lookupLast_cons, Table.lookupLast_cons, ih, Option.map_or]
    by_cases hk : k = key
    · rw [if_pos hk, if_pos hk, Option.map_some]
    · rw [if_neg hk, if_neg hk, Option.map_none]

/-- Leaving out repeated keys does not change whether a value is given. -/
theorem isGiven_distinctKeys (v : Json) : v.distinctKeys.isGiven = v.isGiven := by
  cases v with
  | array items =>
    cases items with
    | nil => rfl
    | cons w rest => rfl
  | object members =>
    cases members with
    | nil => rfl
    | cons m rest =>
      have hkey : m.1 ∈ (Table.ofEntries (distinctKeysMembers (m :: rest))).map Prod.fst := by
        rw [Table.mem_keys_ofEntries, map_fst_distinctKeysMembers]
        exact List.mem_cons_self
      have hne : Table.ofEntries (distinctKeysMembers (m :: rest)) ≠ [] := by
        intro hnil
        rw [hnil] at hkey
        contradiction
      simpa [distinctKeys, isGiven] using hne
  | null | bool b | int i | float x | string s | brokenString shown => rfl

end Json

namespace Load

open Decode

variable {v w : Json} {s : String} {ns : List (String × Json)} {f : Field}

theorem members_distinctKeys (h : members v.distinctKeys = .valid ns) :
    (ns.map Prod.fst).Nodup ∧
      ∀ key, Table.lookup key ns = (v.last? key).map Json.distinctKeys := by
  cases v with
  | object ms =>
    obtain rfl := Checked.valid.inj h
    refine ⟨Table.nodup_keys_ofEntries _, fun key => ?_⟩
    rw [Table.lookup_ofEntries, Json.lookupLast_distinctKeysMembers, Json.last?]
  | null | bool b | int i | float x | string s | brokenString shown | array items =>
    exact nomatch h

/-! ## Texts of values -/

/-- The texts of values that are not given: no text, and the zeros. -/
def blankTexts : List String := ["", "0", "0.0", "-0.0"]

theorem innerText_distinctKeys (w : Json) : innerText w.distinctKeys = innerText w := by
  cases w with
  | null | bool b | int i | float x | string s | brokenString shown | array items
  | object members => rfl

theorem ne_empty_of_isGiven (h : innerText w = .valid s) (hgiven : w.isGiven = true) : s ≠ "" := by
  cases w with
  | string t =>
    obtain rfl := Checked.valid.inj h
    simpa [Json.isGiven] using hgiven
  | int i =>
    obtain rfl := Checked.valid.inj h
    intro hempty
    have hchars := congrArg String.toList hempty
    rw [Number.toList_decimalInt] at hchars
    exact Nat.toDigits_ne_nil (List.append_eq_nil_iff.1 hchars).2
  | float x =>
    obtain rfl := Checked.valid.inj h
    exact NumberLayout.write_source_ne_empty x
  | null | bool b | brokenString shown | array items | object members => exact nomatch h

theorem mem_blankTexts_of_not_isGiven (h : innerText w = .valid s) (hgiven : w.isGiven = false) :
    s ∈ blankTexts := by
  cases w with
  | string t =>
    obtain rfl := Checked.valid.inj h
    obtain rfl : t = "" := by simpa [Json.isGiven] using hgiven
    decide
  | int i =>
    obtain rfl := Checked.valid.inj h
    obtain rfl : i = 0 := by simpa [Json.isGiven] using hgiven
    decide
  | float x =>
    obtain rfl := Checked.valid.inj h
    cases x with
    | finite negative significand scale =>
      obtain rfl : significand = 0 := by simpa [Json.isGiven, Binary64.isZero] using hgiven
      cases negative
      · exact List.mem_of_elem_eq_true rfl
      · exact List.mem_of_elem_eq_true rfl
    | infinite negative => exact nomatch hgiven
    | nan => exact nomatch hgiven
  | null | bool b | brokenString shown | array items | object members => exact nomatch h

/-! ## Names that are filled in -/

theorem nodup_keys_withName (h : (ns.map Prod.fst).Nodup) :
    ((withName ns).map Prod.fst).Nodup := by
  unfold withName
  dsimp only
  split
  · split
    · exact Table.nodup_keys_assign h
    · exact h
  · exact h

theorem lookup_id_withName (ns : List (String × Json)) :
    Table.lookup "id" (withName ns) = Table.lookup "id" ns := by
  unfold withName
  dsimp only
  split
  · split
    · exact Table.lookup_assign_of_ne _ _ (by decide)
    · rfl
  · rfl

/-- The id stands in where it is given and the name is not. -/
theorem lookup_name_withName (ns : List (String × Json)) :
    Table.lookup "name" (withName ns) =
      if (Table.lookup "name" ns).any Json.isGiven = false ∧
        (Table.lookup "id" ns).any Json.isGiven = true
      then Table.lookup "id" ns else Table.lookup "name" ns := by
  have hgiven : ((Table.lookup "name" ns).map Json.isGiven).getD false =
      (Table.lookup "name" ns).any Json.isGiven := by
    cases Table.lookup "name" ns with
    | none => rfl
    | some name => rfl
  unfold withName
  rw [hgiven]
  cases Table.lookup "id" ns with
  | none => simp
  | some id =>
    dsimp only [Option.any_some]
    by_cases h : (Table.lookup "name" ns).any Json.isGiven = false ∧ id.isGiven = true
    · rw [if_pos h, if_pos (by simpa using h), Table.lookup_assign_self]
    · rw [if_neg h, if_neg (by simpa using h)]

/-! ## Attributes of a field object -/

/-- An attribute of one word has one spelling. -/
theorem value?_of_oneWord {snake : String} (hword : camel snake = snake)
    (hkeys : (ns.map Prod.fst).Nodup) : value? snake ns = Table.lookup snake ns := by
  rw [value?_eq, hword, Option.or_self, Table.lookupLast_of_nodup hkeys]

/-- Where the id and the name of a loaded field come from. -/
structure Names (v : Json) (f : Field) : Prop where
  id : ∃ w, v.last? "id" = some w ∧ innerText w = .valid f.id
  filled : v.gives "name" = false → v.gives "id" = true → f.name = f.id
  own : v.gives "name" = true ∨ v.gives "id" = false →
    (∃ w, v.last? "name" = some w ∧ innerText w = .valid f.name) ∨
      v.last? "name" = none ∧ f.name = ""

theorem names_of_formField (h : formField v = .valid f) : Names v f := by
  obtain ⟨ns, hns, hmembers⟩ := bind_eq_valid h
  obtain ⟨hid, hname, -⟩ := fieldOfMembers_eq_valid hmembers
  obtain ⟨hkeys, hlookup⟩ := members_distinctKeys hns
  have hgives (key : String) : (Table.lookup key ns).any Json.isGiven = v.gives key := by
    rw [hlookup, Option.any_map, Json.gives]
    exact congrArg (v.last? key).any (funext Json.isGiven_distinctKeys)
  -- the attributes are read from the raw values, with their repeated keys left out
  have hraw {key : String} {u : Json} {t : String} (hu : Table.lookup key ns = some u)
      (htext : innerText u = .valid t) : ∃ w, v.last? key = some w ∧ innerText w = .valid t := by
    obtain ⟨w, hw, rfl⟩ := Option.map_eq_some_iff.1 ((hlookup key).symm.trans hu)
    exact ⟨w, hw, innerText_distinctKeys w ▸ htext⟩
  rw [required_eq_valid_iff, value?_of_oneWord (by decide) (nodup_keys_withName hkeys),
    lookup_id_withName] at hid
  rw [field_eq_valid_iff, value?_of_oneWord (by decide) (nodup_keys_withName hkeys),
    lookup_name_withName, hgives, hgives] at hname
  obtain ⟨u, hu, hidText⟩ := hid
  refine ⟨hraw hu hidText, fun hnone hsome => ?_, fun hown => ?_⟩
  · rw [if_pos ⟨hnone, hsome⟩, hu] at hname
    rcases hname with ⟨u', hu', hnameText⟩ | ⟨hnil, -⟩
    · obtain rfl := Option.some.inj hu'
      exact Checked.valid.inj (hnameText.symm.trans hidText)
    · contradiction
  · have hkept : ¬(v.gives "name" = false ∧ v.gives "id" = true) := by
      rintro ⟨hnone, hsome⟩
      simp [hnone, hsome] at hown
    rw [if_neg hkept] at hname
    rcases hname with ⟨u', hu', hnameText⟩ | ⟨hnil, hempty⟩
    · exact .inl (hraw hu' hnameText)
    · exact .inr ⟨Option.map_eq_none_iff.1 ((hlookup "name").symm.trans hnil), hempty⟩

variable {key : String}

theorem ne_empty_of_gives (hw : v.last? key = some w) (htext : innerText w = .valid s)
    (hgives : v.gives key = true) : s ≠ "" := by
  rw [Json.gives, hw] at hgives
  exact ne_empty_of_isGiven htext hgives

theorem mem_blankTexts_of_not_gives (hw : v.last? key = some w) (htext : innerText w = .valid s)
    (hgives : v.gives key = false) : s ∈ blankTexts := by
  rw [Json.gives, hw] at hgives
  exact mem_blankTexts_of_not_isGiven htext hgives

theorem Names.name_ne_empty (h : Names v f) (hname : v.gives "name" = true) : f.name ≠ "" := by
  rcases h.own (.inl hname) with ⟨w, hw, htext⟩ | ⟨hnone, -⟩
  · exact ne_empty_of_gives hw htext hname
  · rw [Json.gives, hnone] at hname
    contradiction

/-- An object that gives neither leaves a field with blank texts for both. -/
theorem Names.mem_blankTexts (h : Names v f) (hid : v.gives "id" = false)
    (hname : v.gives "name" = false) : f.id ∈ blankTexts ∧ f.name ∈ blankTexts := by
  obtain ⟨w, hw, htext⟩ := h.id
  refine ⟨mem_blankTexts_of_not_gives hw htext hid, ?_⟩
  rcases h.own (.inr hid) with ⟨u, hu, hnameText⟩ | ⟨-, hempty⟩
  · exact mem_blankTexts_of_not_gives hu hnameText hname
  · rw [hempty]
    decide

/-! ## Fields with a name -/

/-- A field is named as names are meant: a field with an id has a name, and where the object gives
none the id is the name. -/
structure IsNamed (v : Json) (f : Field) : Prop where
  name_ne_empty : f.id ≠ "" → f.name ≠ ""
  name_eq_id : v.gives "name" = false → f.name = f.id

/-- **A loaded field is named as meant exactly when its object gives an id or a name, or the two
have one text.** Where it is not, id and name are both empty or the text of a zero. -/
theorem isNamed_iff (h : formField v = .valid f) :
    (IsNamed v f ↔ v.gives "id" = true ∨ v.gives "name" = true ∨ f.name = f.id) ∧
      (¬IsNamed v f → f.id ∈ blankTexts ∧ f.name ∈ blankTexts) := by
  have hnames := names_of_formField h
  have hsame (heq : f.name = f.id) : IsNamed v f := ⟨fun hid => heq ▸ hid, fun _ => heq⟩
  cases hname : v.gives "name" with
  | true =>
    have hnamed : IsNamed v f :=
      ⟨fun _ => hnames.name_ne_empty hname, fun hnone => nomatch hname.symm.trans hnone⟩
    exact ⟨⟨fun _ => .inr (.inl rfl), fun _ => hnamed⟩, fun hnot => absurd hnamed hnot⟩
  | false =>
    cases hid : v.gives "id" with
    | true =>
      have hnamed := hsame (hnames.filled hname hid)
      exact ⟨⟨fun _ => .inl rfl, fun _ => hnamed⟩, fun hnot => absurd hnamed hnot⟩
    | false =>
      refine ⟨⟨fun hnamed => .inr (.inr (hnamed.name_eq_id hname)), ?_⟩,
        fun _ => hnames.mem_blankTexts hid hname⟩
      rintro (hgiven | hgiven | heq)
      · contradiction
      · contradiction
      · exact hsame heq

/-- An id is written as a number and no name is given: the id is the name. -/
def numberedObject : Json := .object [("id", .int 7), ("name", .string "")]

def numberedField : Field := { id := "7", name := "7" }

theorem isNamed_numbered : formField numberedObject = .valid numberedField ∧
    IsNamed numberedObject numberedField := by
  have hload : formField numberedObject = .valid numberedField := rfl
  exact ⟨hload, (isNamed_iff hload).1.2 (.inl rfl)⟩

/-- The id is zero: its text is an id, and the field has no name. -/
def zeroObject : Json := .object [("id", .int 0)]

def zeroField : Field := { id := "0" }

theorem not_isNamed_zero :
    formField zeroObject = .valid zeroField ∧ ¬IsNamed zeroObject zeroField :=
  ⟨rfl, fun h => h.name_ne_empty (by decide) rfl⟩

end Load

end FormPress
