import FormPress.Json.Reader
import FormPress.Proofs.Number.Canonical
import FormPress.Proofs.Number.Decimal
import FormPress.Proofs.Result
import FormPress.Proofs.Table
import Mathlib.Tactic.SplitIfs

/-!
# Numbers that are read

What a reader makes of the numbers of a text: they are canonical, and an integer has no more digits
than the reader lets pass. Nothing that is done to a value afterwards makes other numbers of them.
-/

namespace FormPress

namespace Json

/-! ## Values as they are read -/

mutual

/-- All numbers of a value are canonical, and its integers have a limited number of digits. -/
def HasReadNumbers (digits : Nat) : Json → Prop
  | .int i => (Nat.toDigits 10 i.natAbs).length ≤ digits
  | .float x => x.IsCanonical
  | .array items => ItemsHaveReadNumbers digits items
  | .object members => MembersHaveReadNumbers digits members
  | .null | .bool _ | .string _ | .brokenString _ => True

/-- So are those of all items of an array. -/
def ItemsHaveReadNumbers (digits : Nat) : List Json → Prop
  | [] => True
  | v :: rest => HasReadNumbers digits v ∧ ItemsHaveReadNumbers digits rest

/-- So are those of all members of an object. -/
def MembersHaveReadNumbers (digits : Nat) : List (String × Json) → Prop
  | [] => True
  | m :: rest => HasReadNumbers digits m.2 ∧ MembersHaveReadNumbers digits rest

end

variable {a : Allowance}

theorem hasReadNumbers_array {digits : Nat} {items : List Json} :
    HasReadNumbers digits (.array items) ↔ ∀ v ∈ items, HasReadNumbers digits v := by
  have hitems : ItemsHaveReadNumbers digits items ↔ ∀ v ∈ items, HasReadNumbers digits v := by
    induction items with
    | nil => simp [ItemsHaveReadNumbers]
    | cons v rest ih => rw [ItemsHaveReadNumbers, ih, List.forall_mem_cons]
  exact hitems

theorem hasReadNumbers_object {digits : Nat} {members : List (String × Json)} :
    HasReadNumbers digits (.object members) ↔ ∀ m ∈ members, HasReadNumbers digits m.2 := by
  have hmembers : MembersHaveReadNumbers digits members ↔
      ∀ m ∈ members, HasReadNumbers digits m.2 := by
    induction members with
    | nil => simp [MembersHaveReadNumbers]
    | cons m rest ih => rw [MembersHaveReadNumbers, ih, List.forall_mem_cons]
  exact hmembers

/-! ## Numbers -/

theorem limitDigits_eq_ok {limit : Nat} {digits rest : List Char}
    (h : limitDigits limit digits rest = .ok ()) : digits.length ≤ limit := by
  unfold limitDigits at h
  split at h
  · contradiction
  · omega

/-- A number goes on after its whole digits if it has a fraction or an exponent; otherwise it is an
integer. -/
theorem readNumberTail_eq_ok {negative : Bool} {whole s rest : List Char} {v : Json}
    (h : readNumberTail a negative whole s = .ok (v, rest)) :
    ((s.head?.any fun c => c == '.' || c == 'e' || c == 'E') = true ∧
        ∃ x, v = .float x ∧ x.IsCanonical) ∨
      ((s.head?.any fun c => c == '.' || c == 'e' || c == 'E') = false ∧
        v = .int (if negative then -(Number.digitsValue whole : Int)
          else Number.digitsValue whole)) := by
  unfold readNumberTail at h
  obtain ⟨_, -, h⟩ := bind_eq_ok.1 h
  split at h
  · obtain ⟨_, -, h⟩ := bind_eq_ok.1 h
    split at h
    dsimp only at h
    split at h
    all_goals
      obtain ⟨e, -, h⟩ := bind_eq_ok.1 h
      obtain ⟨rfl, -⟩ := Prod.mk.inj (Except.ok.inj h)
      exact .inl ⟨rfl, _, rfl, Binary64.isCanonical_ofDecimal _ _ _⟩
  · obtain ⟨e, -, h⟩ := bind_eq_ok.1 h
    obtain ⟨rfl, -⟩ := Prod.mk.inj (Except.ok.inj h)
    exact .inl ⟨rfl, _, rfl, Binary64.isCanonical_ofDecimal _ _ _⟩
  · obtain ⟨e, -, h⟩ := bind_eq_ok.1 h
    obtain ⟨rfl, -⟩ := Prod.mk.inj (Except.ok.inj h)
    exact .inl ⟨rfl, _, rfl, Binary64.isCanonical_ofDecimal _ _ _⟩
  · rename_i hpoint hlower hupper
    obtain ⟨rfl, -⟩ := Prod.mk.inj (Except.ok.inj h)
    refine .inr ⟨?_, rfl⟩
    cases s with
    | nil => rfl
    | cons c s =>
      have hc : c ≠ '.' ∧ c ≠ 'e' ∧ c ≠ 'E' :=
        ⟨fun hc => hpoint s (by rw [hc]), fun hc => hlower s (by rw [hc]),
          fun hc => hupper s (by rw [hc])⟩
      simp [hc]

theorem hasReadNumbers_readNumberTail {negative : Bool} {whole s rest : List Char} {v : Json}
    (hne : whole ≠ []) (hwhole : ∀ c ∈ whole, Number.isDigit c = true)
    (h : readNumberTail a negative whole s = .ok (v, rest)) : HasReadNumbers a.integerDigits v := by
  rcases readNumberTail_eq_ok h with ⟨-, x, rfl, hx⟩ | ⟨hinteger, rfl⟩
  · exact hx
  · unfold readNumberTail at h
    obtain ⟨_, hlimit, -⟩ := bind_eq_ok.1 h
    rw [hinteger] at hlimit
    rw [HasReadNumbers, Number.natAbs_signed]
    exact Nat.le_trans (Number.length_toDigits_digitsValue hne hwhole) (limitDigits_eq_ok hlimit)

theorem hasReadNumbers_readNumber {negative : Bool} {s rest : List Char} {v : Json}
    (h : readNumber a negative s = .ok (v, rest)) : HasReadNumbers a.integerDigits v := by
  have hzero : ∀ c ∈ ['0'], Number.isDigit c = true := by simp [Number.isDigit]
  unfold readNumber at h
  split at h
  · cases h
  · split at h
    · split at h
      · cases h
      · exact hasReadNumbers_readNumberTail (List.cons_ne_nil _ _) hzero h
    · exact hasReadNumbers_readNumberTail (List.cons_ne_nil _ _) hzero h
  · obtain ⟨r, -, h⟩ := map_eq_ok.1 h
    obtain ⟨rfl, -⟩ := Prod.mk.inj h
    trivial
  · split at h
    · rename_i c more hne _ hdigit
      split at h
      rename_i ds tail hspan
      have hds : ds = (Number.spanDigits (c :: more)).1 := by rw [hspan]
      refine hasReadNumbers_readNumberTail ?_ (hds ▸ Number.isDigit_of_mem_spanDigits) h
      simp [hds, Number.spanDigits, hdigit]
    · cases h

/-! ## Values -/

theorem hasReadNumbers_stringOf (digits : Nat) (body : List StringPart) :
    HasReadNumbers digits (stringOf body) := by
  unfold stringOf
  split
  · trivial
  · trivial

mutual

-- The induction is on the fuel, which goes down by one from a value to its items and from an item
-- to the value in it.
theorem hasReadNumbers_readValue {fuel depth : Nat} {s rest : List Char} {v : Json}
    (h : readValue a fuel depth s = .ok (v, rest)) : HasReadNumbers a.integerDigits v := by
  cases fuel with
  | zero =>
    rw [readValue] at h
    contradiction
  | succ fuel =>
    rw [readValue] at h
    cases hstart : skipBlanks s with
    | nil =>
      rw [hstart] at h
      contradiction
    | cons c more =>
      rw [hstart] at h
      dsimp only at h
      by_cases hquote : c = '"'
      · rw [if_pos hquote] at h
        obtain ⟨p, -, h⟩ := map_eq_ok.1 h
        obtain ⟨rfl, -⟩ := Prod.mk.inj h
        exact hasReadNumbers_stringOf _ _
      rw [if_neg hquote] at h
      by_cases hbrace : c = '\x7b'
      · rw [if_pos hbrace] at h
        split at h
        · contradiction
        · obtain ⟨rfl, -⟩ := Prod.mk.inj (Except.ok.inj h)
          trivial
        · obtain ⟨⟨members, _⟩, hmembers, h⟩ := map_eq_ok.1 h
          obtain ⟨rfl, -⟩ := Prod.mk.inj h
          exact hasReadNumbers_readMembers hmembers
        · contradiction
      rw [if_neg hbrace] at h
      by_cases hbracket : c = '['
      · rw [if_pos hbracket] at h
        split at h
        · contradiction
        · obtain ⟨rfl, -⟩ := Prod.mk.inj (Except.ok.inj h)
          trivial
        · obtain ⟨⟨items, _⟩, hitems, h⟩ := map_eq_ok.1 h
          obtain ⟨rfl, -⟩ := Prod.mk.inj h
          exact hasReadNumbers_readItems hitems
      rw [if_neg hbracket] at h
      split_ifs at h
      -- the four words
      iterate 4
        · obtain ⟨r, -, h⟩ := map_eq_ok.1 h
          obtain ⟨rfl, -⟩ := Prod.mk.inj h
          trivial
      · exact hasReadNumbers_readNumber h
      · exact hasReadNumbers_readNumber h

theorem hasReadNumbers_readInner {fuel depth : Nat} {s rest : List Char} {v : Json}
    (h : readInner a fuel depth s = .ok (v, rest)) : HasReadNumbers a.integerDigits v := by
  cases fuel with
  | zero =>
    rw [readInner] at h
    contradiction
  | succ fuel =>
    unfold readInner at h
    split at h
    · contradiction
    · contradiction
    · exact hasReadNumbers_readValue h

theorem hasReadNumbers_readItems {fuel depth : Nat} {s rest : List Char} {items : List Json}
    (h : readItems a fuel depth s = .ok (items, rest)) :
    ItemsHaveReadNumbers a.integerDigits items := by
  cases fuel with
  | zero =>
    rw [readItems] at h
    contradiction
  | succ fuel =>
    unfold readItems at h
    split at h
    · contradiction
    · rename_i v afterItem hitem
      have hv := hasReadNumbers_readInner hitem
      split at h
      · contradiction
      · obtain ⟨rfl, -⟩ := Prod.mk.inj (Except.ok.inj h)
        exact ⟨hv, trivial⟩
      · split at h
        · contradiction
        · contradiction
        · obtain ⟨⟨others, _⟩, hothers, h⟩ := map_eq_ok.1 h
          obtain ⟨rfl, -⟩ := Prod.mk.inj h
          exact ⟨hv, hasReadNumbers_readItems hothers⟩
      · contradiction

theorem hasReadNumbers_readMembers {fuel depth : Nat} {s rest : List Char}
    {members : List (String × Json)} (h : readMembers a fuel depth s = .ok (members, rest)) :
    MembersHaveReadNumbers a.integerDigits members := by
  cases fuel with
  | zero =>
    rw [readMembers] at h
    contradiction
  | succ fuel =>
    unfold readMembers at h
    split at h
    · contradiction
    · split at h
      · contradiction
      · rename_i v afterItem hitem
        have hv := hasReadNumbers_readInner hitem
        split at h
        · contradiction
        · obtain ⟨rfl, -⟩ := Prod.mk.inj (Except.ok.inj h)
          exact ⟨hv, trivial⟩
        · split at h
          · contradiction
          · contradiction
          · obtain ⟨⟨others, _⟩, hothers, h⟩ := map_eq_ok.1 h
            obtain ⟨rfl, -⟩ := Prod.mk.inj h
            exact ⟨hv, hasReadNumbers_readMembers hothers⟩
          · contradiction
        · contradiction

end

/-! ## Texts -/

theorem readChars_eq_ok_iff {s : List Char} {v : Json} : readChars a s = .ok v ↔
    ∃ rest, readValue a (3 * s.length + 3) a.depth s = .ok (v, rest) ∧ skipBlanks rest = [] := by
  unfold readChars
  cases readValue a (3 * s.length + 3) a.depth s with
  | error stop => simp
  | ok p =>
    obtain ⟨w, rest⟩ := p
    dsimp only
    cases hrest : skipBlanks rest with
    | nil =>
      constructor
      · rintro ⟨⟩
        exact ⟨rest, rfl, hrest⟩
      · rintro ⟨_, ⟨⟩, -⟩
        rfl
    | cons c more =>
      refine iff_of_false (nomatch ·) ?_
      rintro ⟨_, ⟨⟩, hnil⟩
      exact absurd hnil (hrest ▸ List.cons_ne_nil _ _)

theorem read_eq_ok_iff {s : String} {v : Json} :
    read a s = .ok v ↔ readChars a s.toList = .ok v := by
  unfold read
  cases readChars a s.toList with
  | error stop => simp
  | ok w => simp

theorem hasReadNumbers_read {s : String} {v : Json} (h : read a s = .ok v) :
    HasReadNumbers a.integerDigits v := by
  obtain ⟨rest, hvalue, -⟩ := readChars_eq_ok_iff.1 (read_eq_ok_iff.1 h)
  exact hasReadNumbers_readValue hvalue

/-! ## Distinct keys -/

mutual

theorem HasReadNumbers.distinctKeys {digits : Nat} {v : Json} (h : HasReadNumbers digits v) :
    HasReadNumbers digits v.distinctKeys := by
  cases v with
  | array items =>
    have hitems : ItemsHaveReadNumbers digits items := h
    exact hitems.distinctKeysItems
  | object members =>
    have hmembers : MembersHaveReadNumbers digits members := h
    have hdistinct := hasReadNumbers_object.1 hmembers.distinctKeysMembers
    exact hasReadNumbers_object.2 fun m hm => hdistinct m (Table.mem_of_mem_ofEntries hm)
  | null | bool b | int i | float x | string s | brokenString shown => exact h

theorem ItemsHaveReadNumbers.distinctKeysItems {digits : Nat} {items : List Json}
    (h : ItemsHaveReadNumbers digits items) :
    ItemsHaveReadNumbers digits (distinctKeysItems items) := by
  cases items with
  | nil => trivial
  | cons v rest => exact ⟨h.1.distinctKeys, h.2.distinctKeysItems⟩

theorem MembersHaveReadNumbers.distinctKeysMembers {digits : Nat}
    {members : List (String × Json)} (h : MembersHaveReadNumbers digits members) :
    MembersHaveReadNumbers digits (distinctKeysMembers members) := by
  cases members with
  | nil => trivial
  | cons m rest => exact ⟨h.1.distinctKeys, h.2.distinctKeysMembers⟩

end

end Json

end FormPress
