import FormPress.Proofs.Json.Leaves

/-!
# What a reader bounds

Readers that differ only in how deep containers may nest and how long integers may be read the same
value, or nothing: what decides is whether the value is within the bounds, and nothing else of the
text. So two texts with values of one shape pass such bounds together.
-/

namespace FormPress

namespace Json

/-! ## Values within bounds -/

mutual

/-- The containers of a value that hold something are at most `depth` deep, and its integers have at
most `digits` digits. -/
def Within (depth digits : Nat) : Json → Prop
  | .int i => (Nat.toDigits 10 i.natAbs).length ≤ digits
  | .array items => ItemsWithin depth digits items
  | .object members => MembersWithin depth digits members
  | .null | .bool _ | .float _ | .string _ | .brokenString _ => True

/-- So are those of all items of an array, one container further in. -/
def ItemsWithin (depth digits : Nat) : List Json → Prop
  | [] => True
  | v :: rest => (∃ d, depth = d + 1 ∧ Within d digits v) ∧ ItemsWithin depth digits rest

/-- So are those of all members of an object, one container further in. -/
def MembersWithin (depth digits : Nat) : List (String × Json) → Prop
  | [] => True
  | m :: rest => (∃ d, depth = d + 1 ∧ Within d digits m.2) ∧ MembersWithin depth digits rest

end

theorem within_array {depth digits : Nat} {items : List Json} :
    Within depth digits (.array items) ↔ ∀ v ∈ items, ∃ d, depth = d + 1 ∧ Within d digits v := by
  have hitems : ItemsWithin depth digits items ↔
      ∀ v ∈ items, ∃ d, depth = d + 1 ∧ Within d digits v := by
    induction items with
    | nil => simp [ItemsWithin]
    | cons v rest ih => rw [ItemsWithin, ih, List.forall_mem_cons]
  exact hitems

theorem within_object {depth digits : Nat} {members : List (String × Json)} :
    Within depth digits (.object members) ↔
      ∀ m ∈ members, ∃ d, depth = d + 1 ∧ Within d digits m.2 := by
  have hmembers : MembersWithin depth digits members ↔
      ∀ m ∈ members, ∃ d, depth = d + 1 ∧ Within d digits m.2 := by
    induction members with
    | nil => simp [MembersWithin]
    | cons m rest ih => rw [MembersWithin, ih, List.forall_mem_cons]
  exact hmembers

/-! ## Readers with other bounds -/

/-- Where a reader gives something, one with other bounds gives the same if it fits them, and else
nothing. -/
def Narrows {α : Type} (fits : α → Prop) (wide narrow : Except Stop (α × List Char)) : Prop :=
  ∀ p, wide = .ok p → ∀ q, narrow = .ok q ↔ fits p.1 ∧ q = p

variable {α β : Type} {fits : α → Prop} {wide narrow : Except Stop (α × List Char)}
variable {a b : Allowance}

theorem narrows_self (h : ∀ p, wide = .ok p → fits p.1) : Narrows fits wide wide := by
  intro p hp q
  rw [hp, Except.ok.injEq]
  exact ⟨fun hq => ⟨h p hp, hq.symm⟩, fun hq => hq.2.symm⟩

theorem narrows_error (stop : Stop) : Narrows fits (.error stop) narrow :=
  fun _ hp => nomatch hp

theorem Narrows.map {fitsAfter : β → Prop} (h : Narrows fits wide narrow) (g : α → β)
    (hfits : ∀ v, fitsAfter (g v) ↔ fits v) :
    Narrows fitsAfter (wide.map fun p => (g p.1, p.2)) (narrow.map fun p => (g p.1, p.2)) := by
  intro p hp q
  obtain ⟨r, hr, rfl⟩ := map_eq_ok.1 hp
  rw [map_eq_ok, hfits]
  constructor
  · rintro ⟨s, hs, rfl⟩
    obtain ⟨hfits, rfl⟩ := (h r hr s).1 hs
    exact ⟨hfits, rfl⟩
  · rintro ⟨hfits, rfl⟩
    exact ⟨r, (h r hr r).2 ⟨hfits, rfl⟩, rfl⟩

theorem Narrows.ite {c : Prop} [Decidable c] {wide' narrow' : Except Stop (α × List Char)}
    (hpos : Narrows fits wide narrow) (hneg : Narrows fits wide' narrow') :
    Narrows fits (if c then wide else wide') (if c then narrow else narrow') := by
  by_cases h : c
  · rwa [if_pos h, if_pos h]
  · rwa [if_neg h, if_neg h]

/-- A reader that gives nothing, where nothing fits. -/
theorem narrows_nothing {stop : Stop} (h : ∀ p, wide = .ok p → ¬fits p.1) :
    Narrows fits wide (.error stop) :=
  fun p hp _ => ⟨(nomatch ·), fun hq => absurd hq.1 (h p hp)⟩

theorem Narrows.cases {p : α × List Char} (h : Narrows fits wide narrow) (hp : wide = .ok p) :
    (fits p.1 ∧ narrow = .ok p) ∨ (¬fits p.1 ∧ ∃ stop, narrow = .error stop) := by
  by_cases hfits : fits p.1
  · exact .inl ⟨hfits, (h p hp p).2 ⟨hfits, rfl⟩⟩
  · cases hnarrow : narrow with
    | error stop => exact .inr ⟨hfits, stop, rfl⟩
    | ok q => exact absurd ((h p hp q).1 hnarrow).1 hfits

/-! ## Strings and keys -/

/-- Two readers that let the same strings and the same numbers with a fraction pass. -/
structure SameLeaves (a b : Allowance) : Prop where
  wholeDigits : a.wholeDigits = b.wholeDigits
  surrogateHalves : a.surrogateHalves = b.surrogateHalves

theorem SameLeaves.readUnicodeEscape (h : SameLeaves a b) (s : List Char) :
    Json.readUnicodeEscape a s = Json.readUnicodeEscape b s := by
  rw [Json.readUnicodeEscape, Json.readUnicodeEscape, h.surrogateHalves]

theorem SameLeaves.readStringBody (h : SameLeaves a b) (fuel : Nat) (s : List Char) :
    Json.readStringBody a fuel s = Json.readStringBody b fuel s := by
  induction fuel generalizing s with
  | zero => rw [Json.readStringBody, Json.readStringBody]
  | succ fuel ih =>
    cases s with
    | nil => rw [Json.readStringBody, Json.readStringBody]
    | cons c rest =>
      simp only [Json.readStringBody, ih, h.readUnicodeEscape]

theorem SameLeaves.readKey (h : SameLeaves a b) (fuel : Nat) (s : List Char) :
    Json.readKey a fuel s = Json.readKey b fuel s := by
  rw [Json.readKey, Json.readKey, h.readStringBody]

/-! ## Numbers -/

theorem limitDigits_eq_ok_iff {limit : Nat} {digits rest : List Char} :
    limitDigits limit digits rest = .ok () ↔ digits.length ≤ limit := by
  unfold limitDigits
  split
  · exact iff_of_false (nomatch ·) (by omega)
  · exact iff_of_true rfl (by omega)

theorem SameLeaves.narrows_readNumberTail (h : SameLeaves a b) (depth : Nat) (negative : Bool)
    {whole : List Char} (s : List Char)
    (hwhole : (Nat.toDigits 10 (Number.digitsValue whole)).length = whole.length) :
    Narrows (Within depth a.integerDigits) (readNumberTail b negative whole s)
      (readNumberTail a negative whole s) := by
  intro p hp q
  have hlimits : limitDigits (if (!s.head?.any fun c => c == '.' || c == 'e' || c == 'E') then
      a.integerDigits else a.wholeDigits) whole s = .ok () ↔ Within depth a.integerDigits p.1 := by
    rcases readNumberTail_eq_ok hp with ⟨hfraction, x, hv, -⟩ | ⟨hinteger, hv⟩
    · unfold readNumberTail at hp
      obtain ⟨⟨⟩, hlimit, -⟩ := bind_eq_ok.1 hp
      rw [hfraction] at hlimit ⊢
      rw [hv]
      exact iff_of_true (h.wholeDigits ▸ hlimit) trivial
    · rw [hinteger, hv, Within, Number.natAbs_signed, hwhole]
      exact limitDigits_eq_ok_iff
  rw [← hlimits]
  -- what follows the limit is the same for both readers
  unfold readNumberTail at hp ⊢
  obtain ⟨⟨⟩, -, htail⟩ := bind_eq_ok.1 hp
  rw [bind_eq_ok]
  constructor
  · rintro ⟨⟨⟩, hlimit, hq⟩
    rw [htail] at hq
    exact ⟨hlimit, (Except.ok.inj hq).symm⟩
  · rintro ⟨hlimit, rfl⟩
    exact ⟨(), hlimit, htail⟩

theorem SameLeaves.narrows_readNumber (h : SameLeaves a b) (depth : Nat) (negative : Bool)
    (s : List Char) :
    Narrows (Within depth a.integerDigits) (readNumber b negative s) (readNumber a negative s) := by
  have hzero (rest : List Char) : Narrows (Within depth a.integerDigits)
      (readNumberTail b negative ['0'] rest) (readNumberTail a negative ['0'] rest) :=
    h.narrows_readNumberTail depth negative rest (by decide)
  unfold readNumber
  split
  · exact narrows_error _
  · split
    · split
      · exact narrows_error _
      · exact hzero _
    · exact hzero _
  · refine narrows_self fun p hp => ?_
    obtain ⟨r, -, rfl⟩ := map_eq_ok.1 hp
    trivial
  · split
    · rename_i c rest hne _ hdigit
      have hspan : (Number.spanDigits (c :: rest)).1 = c :: (Number.spanDigits rest).1 := by
        simp [Number.spanDigits, hdigit]
      have hdigits : ∀ d ∈ c :: (Number.spanDigits rest).1, Number.isDigit d = true :=
        hspan ▸ Number.isDigit_of_mem_spanDigits
      refine h.narrows_readNumberTail depth negative _ ?_
      change (Nat.toDigits 10 (Number.digitsValue (Number.spanDigits (c :: rest)).1)).length =
        (Number.spanDigits (c :: rest)).1.length
      rw [hspan]
      exact Number.length_toDigits_of_ne_zero hdigits hne
    · exact narrows_error _

/-! ## Values -/

theorem narrows_readWord {fits : Json → Prop} {v : Json} (hv : fits v) (word s : List Char) :
    Narrows fits ((readWord word s).map fun r => (v, r))
      ((readWord word s).map fun r => (v, r)) := by
  refine narrows_self fun p hp => ?_
  obtain ⟨r, -, rfl⟩ := map_eq_ok.1 hp
  exact hv

theorem within_stringOf (depth digits : Nat) (body : List StringPart) :
    Within depth digits (stringOf body) := by
  unfold stringOf
  split
  · trivial
  · trivial

mutual

-- The induction is on the fuel, which both readers spend alike.
theorem SameLeaves.narrows_readValue (h : SameLeaves a b) (fuel wideDepth depth : Nat)
    (s : List Char) :
    Narrows (Within depth a.integerDigits) (readValue b fuel wideDepth s)
      (readValue a fuel depth s) := by
  cases fuel with
  | zero =>
    rw [readValue]
    exact narrows_error _
  | succ fuel =>
    unfold readValue
    cases skipBlanks s with
    | nil => exact narrows_error _
    | cons c rest =>
      dsimp only
      refine .ite ?string <| .ite ?object <| .ite ?array <| .ite ?true <| .ite ?false <|
        .ite ?null <| .ite ?nan <| .ite ?negative <| .ite ?number (narrows_error _)
      case string =>
        rw [h.readStringBody]
        refine narrows_self fun p hp => ?_
        obtain ⟨body, -, rfl⟩ := map_eq_ok.1 hp
        exact within_stringOf _ _ _
      case object =>
        split
        · exact narrows_error _
        · exact narrows_self fun p hp => Except.ok.inj hp ▸ trivial
        · exact (h.narrows_readMembers fuel wideDepth depth _).map Json.object fun _ => Iff.rfl
        · exact narrows_error _
      case array =>
        split
        · exact narrows_error _
        · exact narrows_self fun p hp => Except.ok.inj hp ▸ trivial
        · exact (h.narrows_readItems fuel wideDepth depth _).map Json.array fun _ => Iff.rfl
      case true | false | null | nan => exact narrows_readWord trivial _ _
      case negative | number => exact h.narrows_readNumber depth _ _

theorem SameLeaves.narrows_readInner (h : SameLeaves a b) (fuel wideDepth depth : Nat)
    (s : List Char) :
    Narrows (fun v => ∃ d, depth = d + 1 ∧ Within d a.integerDigits v)
      (readInner b fuel wideDepth s) (readInner a fuel depth s) := by
  cases fuel with
  | zero =>
    rw [readInner]
    exact narrows_error _
  | succ fuel =>
    unfold readInner
    cases skipBlanks s with
    | nil => exact narrows_error _
    | cons c rest =>
      cases wideDepth with
      | zero => exact narrows_error _
      | succ wideDepth =>
        cases depth with
        | zero => exact narrows_nothing fun p _ hp => nomatch hp
        | succ depth =>
          intro p hp q
          rw [h.narrows_readValue fuel wideDepth depth _ p hp q]
          simp

theorem SameLeaves.narrows_readItems (h : SameLeaves a b) (fuel wideDepth depth : Nat)
    (s : List Char) :
    Narrows (ItemsWithin depth a.integerDigits)
      (readItems b fuel wideDepth s) (readItems a fuel depth s) := by
  cases fuel with
  | zero =>
    rw [readItems]
    exact narrows_error _
  | succ fuel =>
    unfold readItems
    rcases hwide : readInner b fuel wideDepth s with stop | ⟨v, rest⟩
    · exact narrows_error _
    rcases (h.narrows_readInner fuel wideDepth depth s).cases hwide with
      ⟨hv, hnarrow⟩ | ⟨hv, stop, hnarrow⟩
    · rw [hnarrow]
      dsimp only
      split
      · exact narrows_error _
      · exact narrows_self fun p hp => Except.ok.inj hp ▸ ⟨hv, trivial⟩
      · split
        · exact narrows_error _
        · exact narrows_error _
        · exact (h.narrows_readItems fuel wideDepth depth _).map (v :: ·) fun _ => and_iff_right hv
      · exact narrows_error _
    · -- the first item does not fit, so no array with it does
      rw [hnarrow]
      refine narrows_nothing fun p hp hfits => hv ?_
      dsimp only at hp
      split at hp
      · contradiction
      · obtain rfl := Except.ok.inj hp
        exact hfits.1
      · split at hp
        · contradiction
        · contradiction
        · obtain ⟨others, -, rfl⟩ := map_eq_ok.1 hp
          exact hfits.1
      · contradiction

theorem SameLeaves.narrows_readMembers (h : SameLeaves a b) (fuel wideDepth depth : Nat)
    (s : List Char) :
    Narrows (MembersWithin depth a.integerDigits)
      (readMembers b fuel wideDepth s) (readMembers a fuel depth s) := by
  cases fuel with
  | zero =>
    rw [readMembers]
    exact narrows_error _
  | succ fuel =>
    unfold readMembers
    rw [h.readKey]
    split
    · exact narrows_error _
    · rename_i key afterKey _
      rcases hwide : readInner b fuel wideDepth afterKey with stop | ⟨v, rest⟩
      · exact narrows_error _
      rcases (h.narrows_readInner fuel wideDepth depth afterKey).cases hwide with
        ⟨hv, hnarrow⟩ | ⟨hv, stop, hnarrow⟩
      · rw [hnarrow]
        dsimp only
        split
        · exact narrows_error _
        · exact narrows_self fun p hp => Except.ok.inj hp ▸ ⟨hv, trivial⟩
        · split
          · exact narrows_error _
          · exact narrows_error _
          · exact (h.narrows_readMembers fuel wideDepth depth _).map ((key, v) :: ·)
              fun _ => and_iff_right hv
          · exact narrows_error _
        · exact narrows_error _
      · rw [hnarrow]
        refine narrows_nothing fun p hp hfits => hv ?_
        dsimp only at hp
        split at hp
        · contradiction
        · obtain rfl := Except.ok.inj hp
          exact hfits.1
        · split at hp
          · contradiction
          · contradiction
          · obtain ⟨others, -, rfl⟩ := map_eq_ok.1 hp
            exact hfits.1
          · contradiction
        · contradiction

end

/-- **Whether a reader with other bounds gives the value of a text is decided by the value.** -/
theorem SameLeaves.read_eq_ok_iff (h : SameLeaves a b) {s : String} {v w : Json}
    (hv : read b s = .ok v) : read a s = .ok w ↔ Within a.depth a.integerDigits v ∧ w = v := by
  rw [Json.read_eq_ok_iff, readChars_eq_ok_iff] at hv ⊢
  obtain ⟨rest, hwide, hrest⟩ := hv
  rcases (h.narrows_readValue _ b.depth a.depth s.toList).cases hwide with
    ⟨hfits, hnarrow⟩ | ⟨hfits, stop, hnarrow⟩
  · rw [hnarrow]
    constructor
    · rintro ⟨_, ⟨⟩, -⟩
      exact ⟨hfits, rfl⟩
    · rintro ⟨-, rfl⟩
      exact ⟨rest, rfl, hrest⟩
  · rw [hnarrow]
    refine iff_of_false ?_ fun hw => hfits hw.1
    rintro ⟨_, ⟨⟩, -⟩

end Json

end FormPress
