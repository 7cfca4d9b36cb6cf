import FormPress.Proofs.Markup.Scans

/-!
# Texts that forge no marker

A script is no markup, and it may hold any text of a form in its literals; so markers in it are
ruled out by a small automaton. A marker has an equals sign between the last letter of a counted
name and a quotation mark, and the character of a name behind the quotation mark. A text on which
the automaton does not fail has no such place. Texts are put together by the states that they lead
to.
-/

namespace FormPress.Markup

open Text (places)

/-- What stands last in a text, as far as markers are concerned. -/
inductive Seen where
  | other
  /-- A letter that a counted name ends with. -/
  | letter
  /-- An equals sign behind such a letter. -/
  | equals
  /-- A quotation mark behind such an equals sign. -/
  | quote
deriving DecidableEq, Repr

namespace Seen

/-- Whether a counted name ends with a letter. -/
def endsName (c : Char) : Bool :=
  c == 'e' || c == 'v' || c == 's'

/-- What a character is by itself. -/
def ofChar (c : Char) : Seen :=
  if endsName c then letter else other

/-- One more character; the character of a name behind a quotation mark is a fault. -/
def next (seen : Seen) (c : Char) : Option Seen :=
  match seen with
  | other => some (ofChar c)
  | letter => some (if c = '=' then equals else ofChar c)
  | equals => some (if c = '"' then quote else ofChar c)
  | quote => if isNameChar c then none else some (ofChar c)

/-- What stands last after more text, unless there was a fault. -/
def run (seen : Seen) : List Char → Option Seen
  | [] => some seen
  | c :: rest => (seen.next c).bind fun s => run s rest

theorem run_cons (seen : Seen) (c : Char) (rest : List Char) :
    seen.run (c :: rest) = (seen.next c).bind fun s => run s rest := rfl

theorem run_append (seen : Seen) (s t : List Char) :
    seen.run (s ++ t) = (seen.run s).bind fun last => last.run t := by
  induction s generalizing seen with
  | nil => rfl
  | cons c rest ih =>
    rw [List.cons_append, run_cons, run_cons]
    cases seen.next c with
    | none => rfl
    | some next => exact ih next

/-- The letter that ends a counted name is seen, or there was a fault before. -/
theorem next_of_endsName (seen : Seen) {c : Char} (h : endsName c = true) :
    seen.next c = none ∨ seen.next c = some letter := by
  have hletter : ofChar c = letter := if_pos h
  have hequals : c ≠ '=' := by
    rintro rfl
    contradiction
  have hquote : c ≠ '"' := by
    rintro rfl
    contradiction
  cases seen with
  | other => exact .inr (congrArg some hletter)
  | letter => exact .inr (by rw [next, if_neg hequals, hletter])
  | equals => exact .inr (by rw [next, if_neg hquote, hletter])
  | quote =>
    rw [next, hletter]
    split
    · exact .inl rfl
    · exact .inr rfl

end Seen

/-! ## Markers are faults -/

variable {name value : String}

/-- A counted name up to its last letter. -/
theorem exists_endsName (hname : name ∈ ["data-page", "data-page-nav", "class"]) :
    ∃ init c, name.toList = init ++ [c] ∧ Seen.endsName c = true := by
  simp only [List.mem_cons, List.not_mem_nil, or_false] at hname
  rcases hname with rfl | rfl | rfl
  · exact ⟨"data-pag".toList, 'e', by decide, rfl⟩
  · exact ⟨"data-page-na".toList, 'v', by decide, rfl⟩
  · exact ⟨"clas".toList, 's', by decide, rfl⟩

theorem run_marker (hname : ∃ init c, name.toList = init ++ [c] ∧ Seen.endsName c = true)
    (hvalue : IsName value) (seen : Seen) (rest : List Char) :
    seen.run (marker name value ++ rest) = none := by
  obtain ⟨init, c, heq, hc⟩ := hname
  obtain ⟨hne, hchar⟩ := hvalue
  obtain ⟨d, ds, hv⟩ := List.exists_cons_of_ne_nil hne
  have hd : isNameChar d = true := hchar d (by simp [hv])
  have hsplit : marker name value ++ rest =
      init ++ (c :: '=' :: '"' :: d :: (ds ++ '"' :: rest)) := by
    simp [marker, heq, hv]
  rw [hsplit, Seen.run_append]
  cases seen.run init with
  | none => rfl
  | some last =>
    rw [Option.bind_some, Seen.run_cons]
    rcases last.next_of_endsName hc with hnext | hnext
    · rw [hnext, Option.bind_none]
    · rw [hnext]
      simp [Seen.run_cons, Seen.next, hd]

/-- A text without a fault has no place of a marker. -/
theorem places_eq_zero_of_run (hname : ∃ init c, name.toList = init ++ [c] ∧ Seen.endsName c = true)
    (hvalue : IsName value) {s : List Char} {seen last : Seen} (h : seen.run s = some last) :
    places (marker name value) s = 0 := by
  induction s generalizing seen with
  | nil => rfl
  | cons c rest ih =>
    have hhead : ¬(marker name value).isPrefixOf (c :: rest) = true := by
      rw [List.isPrefixOf_iff_prefix]
      rintro ⟨t, ht⟩
      rw [← ht, run_marker hname hvalue] at h
      contradiction
    rw [Seen.run_cons, Option.bind_eq_some_iff] at h
    obtain ⟨next, -, hrest⟩ := h
    rw [Text.places_cons_of_not_prefix hhead, ih hrest]

/-! ## Texts by what they lead to -/

/-- From all of the first, a text leads to one of the second without a fault. -/
def Leads (before after : List Seen) (s : List Char) : Prop :=
  ∀ seen ∈ before, ∃ last ∈ after, seen.run s = some last

/-- Nothing of a marker is open, up to a letter. -/
abbrev settled : List Seen := [.other, .letter]

/-- At most a quotation mark is open. -/
abbrev unsettled : List Seen := [.other, .letter, .quote]

variable {before between after : List Seen} {s t : List Char}

theorem Leads.append (hs : Leads before between s) (ht : Leads between after t) :
    Leads before after (s ++ t) := by
  intro seen hseen
  obtain ⟨mid, hmid, hrun⟩ := hs seen hseen
  obtain ⟨last, hlast, hrest⟩ := ht mid hmid
  refine ⟨last, hlast, ?_⟩
  rw [Seen.run_append, hrun, Option.bind_some, hrest]

theorem Leads.mono (h : Leads before after s) {less more : List Seen} (hless : less ⊆ before)
    (hmore : after ⊆ more) : Leads less more s := by
  intro seen hseen
  obtain ⟨last, hlast, hrun⟩ := h seen (hless hseen)
  exact ⟨last, hmore hlast, hrun⟩

theorem leads_nil (h : before ⊆ after) : Leads before after [] :=
  fun seen hseen => ⟨seen, h hseen, rfl⟩

/-- Leading somewhere can be computed. -/
def leads (before after : List Seen) (s : List Char) : Bool :=
  before.all fun seen => (seen.run s).any fun last => after.contains last

theorem leads_of_eq_true (h : leads before after s = true) : Leads before after s := by
  intro seen hseen
  have hrun := List.all_eq_true.1 h seen hseen
  obtain ⟨last, hlast, hmem⟩ := (Option.any_eq_true _ _).1 hrun
  exact ⟨last, by simpa using hmem, hlast⟩

end FormPress.Markup
