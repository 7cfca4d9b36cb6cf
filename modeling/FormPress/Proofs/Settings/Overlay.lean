import FormPress.Proofs.Decode.Records
import FormPress.Proofs.Json.Tidy
import FormPress.Proofs.Settings.Loading

/-!
# Values over values

What stands under a key when values are laid over others, when keys are brought to their own
spelling, and when the variables of an environment are gathered. Laid over an object, an object
leaves alone the keys that it does not have; a text replaces whatever was there.
-/

namespace FormPress.Settings

variable {old new ms : List (String × Json)} {key : String}

/-! ## Overlays -/

theorem overlayMembers_cons (old rest : List (String × Json)) (key : String) (v : Json) :
    overlayMembers old ((key, v) :: rest) =
      overlayMembers
        (Table.assign key ((Table.lookup key old).elim v (overlay · v)) old) rest := by
  rw [overlayMembers]
  cases Table.lookup key old with
  | none => rfl
  | some w => rfl

theorem overlay_object (old new : List (String × Json)) :
    overlay (.object old) (.object new) = .object (overlayMembers old new) := by
  rw [overlay]

/-- Only an object is laid over an object; everything else is replaced. -/
theorem overlay_of_not_objects {v w : Json}
    (h : ∀ old new, w = .object old → v = .object new → False) : overlay w v = v := by
  unfold overlay
  split
  · exact (h _ _ rfl rfl).elim
  · rfl

theorem overlay_string (w : Json) (s : String) : overlay w (.string s) = .string s :=
  overlay_of_not_objects nofun

theorem lookup_overlayMembers_of_none (old : List (String × Json))
    (h : Table.lookup key new = none) :
    Table.lookup key (overlayMembers old new) = Table.lookup key old := by
  induction new generalizing old with
  | nil => rw [overlayMembers]
  | cons m rest ih =>
    obtain ⟨k, v⟩ := m
    rw [Table.lookup] at h
    split at h
    · contradiction
    · rename_i hk
      rw [overlayMembers_cons, ih _ h, Table.lookup_assign_of_ne _ _ (Ne.symm hk)]

theorem lookup_overlayMembers_of_some {v : Json} (old : List (String × Json))
    (hnew : (new.map Prod.fst).Nodup) (h : Table.lookup key new = some v) :
    Table.lookup key (overlayMembers old new) =
      some ((Table.lookup key old).elim v (overlay · v)) := by
  induction new generalizing old with
  | nil => exact nomatch h
  | cons m rest ih =>
    obtain ⟨k, w⟩ := m
    rw [List.map_cons, List.nodup_cons] at hnew
    rw [Table.lookup] at h
    split at h
    · rename_i hk
      obtain rfl := Option.some.inj h
      obtain rfl : k = key := hk
      rw [overlayMembers_cons, lookup_overlayMembers_of_none _ (Table.lookup_of_notMem hnew.1),
        Table.lookup_assign_self]
    · rename_i hk
      rw [overlayMembers_cons, ih _ hnew.2 h, Table.lookup_assign_of_ne _ _ (Ne.symm hk)]

/-- Texts replace what was there, and everything else stays. -/
theorem lookup_overlayMembers_of_strings {texts : Option String} (old : List (String × Json))
    (hnew : (new.map Prod.fst).Nodup) (h : Table.lookup key new = texts.map .string) :
    Table.lookup key (overlayMembers old new) =
      (texts.map .string).or (Table.lookup key old) := by
  cases texts with
  | none => rw [lookup_overlayMembers_of_none old h, Option.map_none, Option.none_or]
  | some s =>
    rw [lookup_overlayMembers_of_some old hnew h, Option.map_some, Option.some_or]
    cases Table.lookup key old with
    | none => rfl
    | some w => rw [Option.elim_some, overlay_string]

mutual

theorem keysOnce_overlay {w : Json} : ∀ {v : Json}, w.KeysOnce → v.KeysOnce →
    (overlay w v).KeysOnce
  | .object new, hw, hv => by
    by_cases h : ∃ old, w = .object old
    · obtain ⟨old, rfl⟩ := h
      rw [overlay_object]
      exact keysOnce_overlayMembers hw hv
    · rw [overlay_of_not_objects fun old _ hold _ => h ⟨old, hold⟩]
      exact hv
  | .null, _, hv | .bool _, _, hv | .int _, _, hv | .float _, _, hv | .string _, _, hv
  | .brokenString _, _, hv | .array _, _, hv => by
    rw [overlay_of_not_objects]
    · exact hv
    · exact nofun

theorem keysOnce_overlayMembers : ∀ {old new : List (String × Json)},
    (Json.object old).KeysOnce → (Json.object new).KeysOnce →
      (Json.object (overlayMembers old new)).KeysOnce
  | old, [], hold, hnew => by
    rw [overlayMembers]
    exact hold
  | old, (key, v) :: rest, hold, hnew => by
    rw [Json.keysOnce_object, List.map_cons, List.nodup_cons, List.forall_mem_cons] at hnew
    obtain ⟨⟨-, hrest⟩, hv, hmembers⟩ := hnew
    have hlaid : ((Table.lookup key old).elim v (overlay · v)).KeysOnce := by
      cases hlookup : Table.lookup key old with
      | none => exact hv
      | some w =>
        have hw := (Json.keysOnce_object.1 hold).2 _ (Table.mem_of_lookup hlookup)
        exact keysOnce_overlay hw hv
    rw [overlayMembers_cons]
    refine keysOnce_overlayMembers ?_ (Json.keysOnce_object.2 ⟨hrest, hmembers⟩)
    rw [Json.keysOnce_object] at hold ⊢
    refine ⟨Table.nodup_keys_assign hold.1, fun m hm => ?_⟩
    rcases Table.mem_of_mem_assign hm with rfl | hmem
    · exact hlaid
    · exact hold.2 m hmem

end

/-! ## Spellings -/

/-- The value of the first key that is a given one in any case. -/
def firstOf (key : String) (ms : List (String × Json)) : Option Json :=
  (ms.find? fun m => foldName m.1 = key).map Prod.snd

theorem foldName_known (h : knownKeys.contains key = true) : foldName key = key := by
  have hall : (knownKeys.all fun key => foldName key = key) = true := by decide +kernel
  exact of_decide_eq_true (List.all_eq_true.1 hall key (List.contains_iff_mem.1 h))

/-- Of a known key the first spelling counts. -/
theorem lookup_ownSpellingFrom {seen : List String} (hknown : knownKeys.contains key = true)
    (hseen : seen.contains key = false) (ms : List (String × Json)) :
    Table.lookup key (ownSpellingFrom seen ms) = firstOf key ms := by
  induction ms generalizing seen with
  | nil => rfl
  | cons m rest ih =>
    obtain ⟨name, v⟩ := m
    rw [ownSpellingFrom, firstOf, List.find?_cons]
    by_cases hname : foldName name = key
    · rw [hname, decide_eq_true rfl, hknown, hseen]
      exact if_pos rfl
    · rw [decide_eq_false hname]
      change Table.lookup key _ = firstOf key rest
      split
      · rename_i hunknown
        have hne : name ≠ key := by
          rintro rfl
          exact hname (foldName_known hknown)
        rw [Table.lookup, if_neg hne, ih hseen]
      · split
        · exact ih hseen
        · have hcons : (foldName name :: seen).contains key = false := by
            rw [List.contains_cons, hseen, Bool.or_false]
            exact beq_false_of_ne (Ne.symm hname)
          rw [Table.lookup, if_neg hname, ih hcons]

theorem mem_keys_ownSpellingFrom {seen : List String}
    (h : key ∈ (ownSpellingFrom seen ms).map Prod.fst) :
    knownKeys.contains key = true ∧ seen.contains key = false ∨
      knownKeys.contains (foldName key) = false ∧ key ∈ ms.map Prod.fst := by
  induction ms generalizing seen with
  | nil => exact nomatch h
  | cons m rest ih =>
    obtain ⟨name, v⟩ := m
    rw [ownSpellingFrom] at h
    split at h
    · rename_i hunknown
      rcases List.mem_cons.1 h with rfl | h
      · exact .inr ⟨by simpa using hunknown, List.mem_cons_self⟩
      · exact (ih h).imp_right fun hrest => ⟨hrest.1, List.mem_cons_of_mem _ hrest.2⟩
    · rename_i hknown
      split at h
      · exact (ih h).imp_right fun hrest => ⟨hrest.1, List.mem_cons_of_mem _ hrest.2⟩
      · rename_i hseen
        rcases List.mem_cons.1 h with rfl | h
        · exact .inl ⟨by simpa using hknown, by simpa using hseen⟩
        · rcases ih h with ⟨hkey, hfresh⟩ | ⟨hkey, hrest⟩
          · rw [List.contains_cons, Bool.or_eq_false_iff] at hfresh
            exact .inl ⟨hkey, hfresh.2⟩
          · exact .inr ⟨hkey, List.mem_cons_of_mem _ hrest⟩

theorem nodup_keys_ownSpellingFrom (seen : List String) (h : (ms.map Prod.fst).Nodup) :
    ((ownSpellingFrom seen ms).map Prod.fst).Nodup := by
  induction ms generalizing seen with
  | nil => exact List.nodup_nil
  | cons m rest ih =>
    obtain ⟨name, v⟩ := m
    rw [List.map_cons, List.nodup_cons] at h
    rw [ownSpellingFrom]
    split
    · rename_i hunknown
      refine List.nodup_cons.2 ⟨fun hmem => ?_, ih _ h.2⟩
      rcases mem_keys_ownSpellingFrom hmem with ⟨hknown, -⟩ | ⟨-, hrest⟩
      · rw [foldName_known hknown, hknown] at hunknown
        exact nomatch hunknown
      · exact h.1 hrest
    · rename_i hknown
      split
      · exact ih _ h.2
      · refine List.nodup_cons.2 ⟨fun hmem => ?_, ih _ h.2⟩
        rw [Bool.not_eq_true', Bool.not_eq_false] at hknown
        rcases mem_keys_ownSpellingFrom hmem with ⟨-, hseen⟩ | ⟨hunknown, -⟩
        · rw [List.contains_cons, beq_self_eq_true, Bool.true_or] at hseen
          exact nomatch hseen
        · rw [foldName_known hknown, hknown] at hunknown
          exact nomatch hunknown

/-- Bringing keys to their own spelling leaves the values alone. -/
theorem exists_mem_of_mem_ownSpellingFrom {seen : List String} {m : String × Json}
    (h : m ∈ ownSpellingFrom seen ms) : ∃ n ∈ ms, n.2 = m.2 := by
  induction ms generalizing seen with
  | nil => exact nomatch h
  | cons n rest ih =>
    obtain ⟨name, v⟩ := n
    have htail {known : List String} (hmem : m ∈ ownSpellingFrom known rest) :
        ∃ n ∈ (name, v) :: rest, n.2 = m.2 := by
      obtain ⟨n, hn, hvalue⟩ := ih hmem
      exact ⟨n, List.mem_cons_of_mem _ hn, hvalue⟩
    rw [ownSpellingFrom] at h
    split at h
    · rcases List.mem_cons.1 h with rfl | h
      · exact ⟨_, List.mem_cons_self, rfl⟩
      · exact htail h
    · split at h
      · exact htail h
      · rcases List.mem_cons.1 h with rfl | h
        · exact ⟨_, List.mem_cons_self, rfl⟩
        · exact htail h

theorem keysOnce_ownSpellingFrom (seen : List String) (h : (Json.object ms).KeysOnce) :
    (Json.object (ownSpellingFrom seen ms)).KeysOnce := by
  rw [Json.keysOnce_object] at h ⊢
  refine ⟨nodup_keys_ownSpellingFrom seen h.1, fun m hm => ?_⟩
  obtain ⟨n, hn, hvalue⟩ := exists_mem_of_mem_ownSpellingFrom hm
  exact hvalue ▸ h.2 n hn

/-! ## Sections of an environment -/

variable {env : Environment} {title : String} {keys : List String}

/-- What the environment gives for a section stands under its title. -/
theorem lookup_sectionValues {sections : List (String × List String)}
    {values : List (String × Json)} {v : Option Json}
    (h : sectionValues env sections = .ok values) (hnodup : (sections.map Prod.fst).Nodup)
    (hmem : (title, keys) ∈ sections) (hv : sectionValue env title keys = .ok v) :
    Table.lookup title values = v := by
  induction sections generalizing values with
  | nil => exact nomatch hmem
  | cons s rest ih =>
    obtain ⟨head, headKeys⟩ := s
    rw [List.map_cons, List.nodup_cons] at hnodup
    obtain ⟨w, hw, h⟩ := bind_eq_ok.1 h
    obtain ⟨others, hothers, h⟩ := bind_eq_ok.1 h
    obtain rfl := Except.ok.inj h
    rcases List.mem_cons.1 hmem with heq | hrest
    · obtain ⟨rfl, rfl⟩ := Prod.mk.inj heq
      obtain rfl : w = v := Except.ok.inj (hw.symm.trans hv)
      have hlater : title ∉ others.map Prod.fst :=
        fun hmem => hnodup.1 ((keys_sectionValues_sublist hothers).subset hmem)
      cases w with
      | none => exact Table.lookup_of_notMem hlater
      | some w => exact if_pos rfl
    · have hne : head ≠ title := by
        rintro rfl
        exact hnodup.1 (List.mem_map.2 ⟨_, hrest, rfl⟩)
      have hlookup := ih hothers hnodup.2 hrest
      cases w with
      | none => exact hlookup
      | some w => exact (if_neg hne).trans hlookup

theorem lookup_filterMap_of_notMem {key : String} {given : String → Option Json}
    {names : List String} (h : key ∉ names) :
    Table.lookup key (names.filterMap fun name => (given name).map (name, ·)) = none := by
  refine Table.lookup_of_notMem fun hmem => h ?_
  obtain ⟨m, hm, rfl⟩ := List.mem_map.1 hmem
  obtain ⟨name, hname, hgiven⟩ := List.mem_filterMap.1 hm
  obtain ⟨v, -, rfl⟩ := Option.map_eq_some_iff.1 hgiven
  exact hname

theorem lookup_filterMap {key : String} {given : String → Option Json} {names : List String}
    (h : key ∈ names) :
    Table.lookup key (names.filterMap fun name => (given name).map (name, ·)) = given key := by
  induction names with
  | nil => exact nomatch h
  | cons name rest ih =>
    rw [List.filterMap_cons]
    by_cases hname : name = key
    · subst hname
      cases hgiven : given name with
      | none =>
        by_cases hrest : name ∈ rest
        · exact (ih hrest).trans hgiven
        · exact lookup_filterMap_of_notMem hrest
      | some v => exact if_pos rfl
    · have hrest := ih ((List.mem_cons.1 h).resolve_left (Ne.symm hname))
      cases given name with
      | none => exact hrest
      | some v => exact (if_neg hname).trans hrest

/-- The values of an environment: the settings that stand alone, and the sections. -/
theorem fromEnvironment_eq_ok {values : List (String × Json)}
    (h : fromEnvironment env = .ok values) :
    ∃ sections, sectionValues (foldNames env) sectionKeys = .ok sections ∧
      values = (plainKeys.filterMap fun key =>
        ((Table.lookup (variableHead ++ key) (foldNames env)).map Json.string).map (key, ·)) ++
          sections := by
  obtain ⟨sections, hsections, h⟩ := bind_eq_ok.1 h
  refine ⟨sections, hsections, (Except.ok.inj h).symm.trans ?_⟩
  simp only [Option.map_map]
  rfl

theorem lookup_fromEnvironment_plain {key : String} {values : List (String × Json)}
    (h : fromEnvironment env = .ok values) (hkey : key ∈ plainKeys) :
    Table.lookup key values =
      (Table.lookup (variableHead ++ key) (foldNames env)).map .string := by
  obtain ⟨sections, hsections, rfl⟩ := fromEnvironment_eq_ok h
  have hsection : key ∉ sections.map Prod.fst := by
    intro hmem
    have hapart : (plainKeys.all fun key => key ∉ sectionKeys.map Prod.fst) = true := by decide
    exact of_decide_eq_true (List.all_eq_true.1 hapart key hkey)
      ((keys_sectionValues_sublist hsections).subset hmem)
  rw [Table.lookup_append, lookup_filterMap hkey, Table.lookup_of_notMem hsection, Option.or_none]

theorem lookup_fromEnvironment_section {values : List (String × Json)} {v : Option Json}
    (h : fromEnvironment env = .ok values) (hsection : (title, keys) ∈ sectionKeys)
    (hv : sectionValue (foldNames env) title keys = .ok v) : Table.lookup title values = v := by
  obtain ⟨sections, hsections, rfl⟩ := fromEnvironment_eq_ok h
  have hplain : title ∉ plainKeys := by
    have hapart : (sectionKeys.all fun s => s.1 ∉ plainKeys) = true := by decide
    exact of_decide_eq_true (List.all_eq_true.1 hapart _ hsection)
  rw [Table.lookup_append, lookup_filterMap_of_notMem hplain, Option.none_or]
  exact lookup_sectionValues hsections (by decide) hsection hv

/-- A value of an environment is a text, or what the environment gives for a section. -/
theorem mem_fromEnvironment {values : List (String × Json)} {m : String × Json}
    (h : fromEnvironment env = .ok values) (hm : m ∈ values) :
    (∃ s, m.2 = .string s) ∨ ∃ title keys, (title, keys) ∈ sectionKeys ∧
      ∀ v, sectionValue (foldNames env) title keys = .ok v → v = some m.2 := by
  have hnodup := nodup_keys_fromEnvironment h
  have hlookup := (Table.lookup_eq_some_iff hnodup).2 hm
  obtain ⟨sections, hsections, rfl⟩ := fromEnvironment_eq_ok h
  rcases List.mem_append.1 hm with hplain | hsection
  · obtain ⟨key, -, hgiven⟩ := List.mem_filterMap.1 hplain
    obtain ⟨v, hv, rfl⟩ := Option.map_eq_some_iff.1 hgiven
    obtain ⟨s, -, rfl⟩ := Option.map_eq_some_iff.1 hv
    exact .inl ⟨s, rfl⟩
  · have hkey := (keys_sectionValues_sublist hsections).subset (List.mem_map.2 ⟨m, hsection, rfl⟩)
    obtain ⟨⟨title, keys⟩, hknown, htitle⟩ := List.mem_map.1 hkey
    obtain rfl : title = m.1 := htitle
    exact .inr ⟨_, keys, hknown, fun v hv =>
      (lookup_fromEnvironment_section h hknown hv).symm.trans hlookup⟩

end FormPress.Settings
