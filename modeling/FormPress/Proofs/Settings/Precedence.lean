import FormPress.Proofs.Decode.Loaded
import FormPress.Proofs.Settings.Overlay
import FormPress.Proofs.Toml.Keys

/-!
# Which source a setting comes from

Settings are gathered from a file and from variables as nested objects, which are merged and then
checked as a whole. Leaf by leaf this comes to a simple rule: a leaf is what its variable says, else
what the file says, else its default. The rule holds where every variable is that of a single leaf.
In a file the case of a top-level key does not count, and of several spellings of one key only the
first is read, even if another one has the leaf.
-/

namespace FormPress.Settings

open Decode

/-! ## Leaves -/

/-- The single settings. -/
inductive Leaf where
  | language
  | strict
  | allowRawHtml
  | fontStylesheet
  | persistenceEnabled
  | persistenceUrl
  | persistenceKey
  | relayUrl
  | relayKey
  | embedLogo
  | imageTimeout
deriving DecidableEq, Repr

namespace Leaf

/-- The section of a leaf, if it does not stand alone. -/
def title? : Leaf → Option String
  | .language | .strict | .allowRawHtml | .fontStylesheet => none
  | .persistenceEnabled | .persistenceUrl | .persistenceKey => some "persistence"
  | .relayUrl | .relayKey => some "sheets_relay"
  | .embedLogo | .imageTimeout => some "images"

/-- The key of a leaf in its section, or at the top level. -/
def key : Leaf → String
  | .language => "language"
  | .strict => "strict"
  | .allowRawHtml => "allow_raw_html"
  | .fontStylesheet => "font_stylesheet_url"
  | .persistenceEnabled => "enabled"
  | .persistenceUrl | .relayUrl => "url"
  | .persistenceKey | .relayKey => "api_key"
  | .embedLogo => "embed_logo"
  | .imageTimeout => "timeout"

abbrev Value : Leaf → Type
  | .language | .persistenceUrl | .relayUrl => String
  | .strict | .allowRawHtml | .persistenceEnabled | .embedLogo => Bool
  | .fontStylesheet => Option String
  | .persistenceKey | .relayKey => ApiKey
  | .imageTimeout => Int

def check : (leaf : Leaf) → Json → Checked leaf.Value
  | .language => plainText
  | .strict | .allowRawHtml | .persistenceEnabled | .embedLogo => bool
  | .fontStylesheet => optional webAddress
  | .persistenceUrl | .relayUrl => webAddress
  | .persistenceKey | .relayKey => apiKey
  | .imageTimeout => intAtLeast 1

def value (s : Settings) : (leaf : Leaf) → leaf.Value
  | .language => s.language
  | .strict => s.strict
  | .allowRawHtml => s.allowRawHtml
  | .fontStylesheet => s.fontStylesheet
  | .persistenceEnabled => s.persistence.enabled
  | .persistenceUrl => s.persistence.url
  | .persistenceKey => s.persistence.apiKey
  | .relayUrl => s.relay.url
  | .relayKey => s.relay.apiKey
  | .embedLogo => s.images.embedLogo
  | .imageTimeout => s.images.timeout

/-- What a leaf is where nothing is given. -/
def default (leaf : Leaf) : leaf.Value :=
  leaf.value {}

/-- The name of the variable of a leaf, in small letters. -/
def variableName (leaf : Leaf) : String :=
  variableHead ++ (leaf.title?.elim "" (· ++ "__")) ++ leaf.key

end Leaf

/-- The value of a leaf: what is given for it, checked, else its default. -/
def settled (leaf : Leaf) (given : Option Json) : Checked leaf.Value :=
  given.elim (.valid leaf.default) leaf.check

/-! ## Named values -/

/-- The value of a leaf among named values. -/
def among (ms : List (String × Json)) (leaf : Leaf) : Option Json :=
  match leaf.title? with
  | none => Table.lookup leaf.key ms
  | some title => (Table.lookup title ms).bind (·.member? leaf.key)

variable {ms : List (String × Json)}

theorem exactField_eq_valid {α : Type} {key : String} {check : Json → Checked α} {default a : α}
    (hms : (ms.map Prod.fst).Nodup) (h : exactField ms key check default = .valid a) :
    (Table.lookup key ms).elim (.valid default) check = .valid a := by
  rw [exactField, Table.lookupLast_of_nodup hms] at h
  split at h
  · rename_i v hv
    rw [hv]
    exact Checked.under_eq_valid_iff.1 h
  · rename_i hnone
    rw [hnone]
    exact h

/-- A section that is not given is checked like one without members. -/
theorem section_eq_valid {α : Type} {title name : String}
    {check : List (String × Json) → Checked α} {default a : α}
    (hms : (Json.object ms).KeysOnce)
    (h : exactField ms title (subsection name check) default = .valid a)
    (hempty : check [] = .valid default) :
    ∃ inner, check inner = .valid a ∧ (inner.map Prod.fst).Nodup ∧
      ∀ key, (Table.lookup title ms).bind (·.member? key) = Table.lookup key inner := by
  obtain ⟨hkeys, hmembers⟩ := Json.keysOnce_object.1 hms
  have hsettled := exactField_eq_valid hkeys h
  cases hlookup : Table.lookup title ms with
  | none =>
    rw [hlookup] at hsettled
    exact ⟨[], hempty.trans hsettled, List.nodup_nil, fun key => rfl⟩
  | some v =>
    rw [hlookup] at hsettled
    have hv := hmembers _ (Table.mem_of_lookup hlookup)
    cases v with
    | object inner => exact ⟨inner, hsettled, (Json.keysOnce_object.1 hv).1, fun key => rfl⟩
    | null | bool b | int i | float x | string s | brokenString | array items =>
      exact nomatch hsettled

theorem persistenceSection_eq_valid {p : PersistenceSettings}
    (h : persistenceSection ms = .valid p) :
    exactField ms "enabled" bool ({} : PersistenceSettings).enabled = .valid p.enabled ∧
      exactField ms "url" webAddress ({} : PersistenceSettings).url = .valid p.url ∧
      exactField ms "api_key" apiKey {} = .valid p.apiKey := by
  obtain ⟨_, key, hinner, hkey, rfl⟩ := Checked.apply_eq_valid_iff.1 h
  obtain ⟨_, url, hfirst, hurl, rfl⟩ := Checked.apply_eq_valid_iff.1 hinner
  obtain ⟨enabled, henabled, rfl⟩ := Checked.map_eq_valid_iff.1 hfirst
  exact ⟨henabled, hurl, hkey⟩

theorem relaySection_eq_valid {r : RelaySettings} (h : relaySection ms = .valid r) :
    exactField ms "url" webAddress ({} : RelaySettings).url = .valid r.url ∧
      exactField ms "api_key" apiKey {} = .valid r.apiKey := by
  obtain ⟨_, key, hfirst, hkey, rfl⟩ := Checked.apply_eq_valid_iff.1 h
  obtain ⟨url, hurl, rfl⟩ := Checked.map_eq_valid_iff.1 hfirst
  exact ⟨hurl, hkey⟩

theorem imageSection_eq_valid {i : ImageSettings} (h : imageSection ms = .valid i) :
    exactField ms "embed_logo" bool ({} : ImageSettings).embedLogo = .valid i.embedLogo ∧
      exactField ms "timeout" (intAtLeast 1) ({} : ImageSettings).timeout = .valid i.timeout := by
  obtain ⟨_, timeout, hfirst, htimeout, rfl⟩ := Checked.apply_eq_valid_iff.1 h
  obtain ⟨embedLogo, hembedLogo, rfl⟩ := Checked.map_eq_valid_iff.1 hfirst
  exact ⟨hembedLogo, htimeout⟩

theorem checkOwn_eq_valid {s : Settings} (hload : checkOwn ms = .valid s) :
    exactField ms "language" plainText ({} : Settings).language = .valid s.language ∧
      exactField ms "strict" bool ({} : Settings).strict = .valid s.strict ∧
      exactField ms "allow_raw_html" bool ({} : Settings).allowRawHtml = .valid s.allowRawHtml ∧
      exactField ms "font_stylesheet_url" (optional webAddress) ({} : Settings).fontStylesheet =
        .valid s.fontStylesheet ∧
      exactField ms "persistence" (subsection "PersistenceConfig" persistenceSection) {} =
        .valid s.persistence ∧
      exactField ms "sheets_relay" (subsection "SheetsRelayConfig" relaySection) {} =
        .valid s.relay ∧
      exactField ms "images" (subsection "ImageConfig" imageSection) {} = .valid s.images := by
  obtain ⟨known, hknown, hlanguage⟩ := bind_eq_valid hload
  have hsame : known = s := by
    unfold withLanguage at hlanguage
    split at hlanguage
    · exact nomatch hlanguage
    · exact Checked.valid.inj hlanguage
  subst hsame
  clear hload hlanguage
  simp only [Checked.seq_eq, Checked.map_eq] at hknown
  obtain ⟨_, _, hpair, -, rfl⟩ := Checked.apply_eq_valid_iff.1 hknown
  obtain ⟨_, h, rfl⟩ := Checked.map_eq_valid_iff.1 hpair
  clear hknown hpair
  repeat
    replace h := Checked.apply_eq_valid_iff.1 h
    obtain ⟨_, _, h, _, rfl⟩ := h
  obtain ⟨_, _, rfl⟩ := Checked.map_eq_valid_iff.1 h
  refine ⟨?_, ?_, ?_, ?_, ?_, ?_, ?_⟩
  all_goals with_reducible assumption

/-- In checked settings each leaf is what stands for it among the named values, else its default. -/
theorem settled_of_checkOwn {s : Settings} (hms : (Json.object ms).KeysOnce)
    (h : checkOwn ms = .valid s) (leaf : Leaf) :
    settled leaf (among ms leaf) = .valid (leaf.value s) := by
  have hkeys := (Json.keysOnce_object.1 hms).1
  obtain ⟨hlanguage, hstrict, hraw, hfont, hpersistence, hrelay, himages⟩ := checkOwn_eq_valid h
  obtain ⟨p, hp, hpkeys, hpmembers⟩ := section_eq_valid hms hpersistence rfl
  obtain ⟨r, hr, hrkeys, hrmembers⟩ := section_eq_valid hms hrelay rfl
  obtain ⟨i, hi, hikeys, himembers⟩ := section_eq_valid hms himages rfl
  obtain ⟨henabled, hpurl, hpkey⟩ := persistenceSection_eq_valid hp
  obtain ⟨hrurl, hrkey⟩ := relaySection_eq_valid hr
  obtain ⟨hembed, htimeout⟩ := imageSection_eq_valid hi
  cases leaf with
  | language => exact exactField_eq_valid hkeys hlanguage
  | strict => exact exactField_eq_valid hkeys hstrict
  | allowRawHtml => exact exactField_eq_valid hkeys hraw
  | fontStylesheet => exact exactField_eq_valid hkeys hfont
  | persistenceEnabled =>
    exact (congrArg (settled _) (hpmembers "enabled")).trans (exactField_eq_valid hpkeys henabled)
  | persistenceUrl =>
    exact (congrArg (settled _) (hpmembers "url")).trans (exactField_eq_valid hpkeys hpurl)
  | persistenceKey =>
    exact (congrArg (settled _) (hpmembers "api_key")).trans (exactField_eq_valid hpkeys hpkey)
  | relayUrl =>
    exact (congrArg (settled _) (hrmembers "url")).trans (exactField_eq_valid hrkeys hrurl)
  | relayKey =>
    exact (congrArg (settled _) (hrmembers "api_key")).trans (exactField_eq_valid hrkeys hrkey)
  | embedLogo =>
    exact (congrArg (settled _) (himembers "embed_logo")).trans (exactField_eq_valid hikeys hembed)
  | imageTimeout =>
    exact (congrArg (settled _) (himembers "timeout")).trans (exactField_eq_valid hikeys htimeout)

/-! ## Sources -/

/-- The text that an environment has for a leaf. Case does not count in the names of variables; of
equal names the last value counts. -/
def inEnvironment (env : Environment) (leaf : Leaf) : Option String :=
  Table.lookupLast leaf.variableName (env.map fun (name, value) => (foldName name, value))

/-- The value that a document has for a leaf: at the top level the first key counts that is the
right one in any case. -/
def inDocument (entries : List (String × Json)) (leaf : Leaf) : Option Json :=
  match leaf.title? with
  | none => firstOf leaf.key entries
  | some title => (firstOf title entries).bind (·.member? leaf.key)

/-- An environment in which each variable that begins like one of a section is that of a leaf. -/
def IsLeafwise (env : Environment) : Prop :=
  ∀ e ∈ env, ∀ s ∈ sectionKeys, Text.startsWith (foldName e.1) (variableHead ++ s.1) = true →
    ∃ leaf : Leaf, foldName e.1 = leaf.variableName

/-! ## Variables of leaves -/

/-- How the variables of a section begin. -/
def sectionHead (title : String) : List Char :=
  (variableHead ++ title ++ "__").toList

theorem variableName_eq {leaf other : Leaf} (htitle : leaf.title? = other.title?)
    (hkey : leaf.key = other.key) : leaf.variableName = other.variableName := by
  rw [Leaf.variableName, Leaf.variableName, htitle, hkey]

/-- A name as its section reads it: it is not the variable of the section, it begins like those of
the section exactly if it is that of a leaf in it, and what follows is the key of the leaf. -/
def Suits (leaf : Leaf) (title : String) (keys : List String) : Prop :=
  leaf.variableName ≠ variableHead ++ title ∧
    ((sectionHead title).isPrefixOf leaf.variableName.toList = true ↔ leaf.title? = some title) ∧
    (leaf.title? = some title →
      leaf.key ∈ keys ∧
        (splitNested (leaf.variableName.toList.drop (sectionHead title).length)).map
          String.ofList = [leaf.key])

instance (leaf : Leaf) (title : String) (keys : List String) : Decidable (Suits leaf title keys) :=
  inferInstanceAs (Decidable (_ ∧ _ ∧ _))

theorem suits_of_mem {title : String} {keys : List String} (h : (title, keys) ∈ sectionKeys)
    (leaf : Leaf) : Suits leaf title keys := by
  have hall : (sectionKeys.all fun s => [Leaf.language, .strict, .allowRawHtml, .fontStylesheet,
      .persistenceEnabled, .persistenceUrl, .persistenceKey, .relayUrl, .relayKey, .embedLogo,
      .imageTimeout].all fun leaf => Suits leaf s.1 s.2) = true := by decide +kernel
  have hsection := List.all_eq_true.1 (List.all_eq_true.1 hall _ h) leaf
  exact of_decide_eq_true (hsection (by cases leaf <;> decide))

/-! ## Sections of an environment -/

section Sections

variable {env : Environment} {title : String} {keys : List String} {e : String × String}

/-- One variable among the values of a section. -/
def gatherOne (title : String) (ms : List (String × Json)) (e : String × String) :
    List (String × Json) :=
  if (sectionHead title).isPrefixOf e.1.toList then
    enterAt e.2 ((splitNested (e.1.toList.drop (sectionHead title).length)).map String.ofList) ms
  else ms

theorem nestedValues_eq (env : Environment) (title : String) :
    nestedValues env title = env.foldl (gatherOne title) [] := rfl

/-- The variable of a leaf gives the leaf its text. -/
theorem gatherOne_leaf {leaf : Leaf} (h : (title, keys) ∈ sectionKeys)
    (hname : e.1 = leaf.variableName) (htitle : leaf.title? = some title) :
    gatherOne title ms e = Table.assign leaf.key (.string e.2) ms := by
  obtain ⟨-, hhead, hkey⟩ := suits_of_mem h leaf
  rw [gatherOne, hname, if_pos (hhead.2 htitle), (hkey htitle).2, enterAt]

/-- Only variables of leaves begin like those of a section. -/
def LeavesIn (title : String) (env : Environment) : Prop :=
  ∀ e ∈ env, (sectionHead title).isPrefixOf e.1.toList = true →
    ∃ leaf : Leaf, e.1 = leaf.variableName

/-- A variable leaves the values of a section as they are, or gives a leaf of it its text. -/
theorem gatherOne_cases (h : (title, keys) ∈ sectionKeys)
    (he : (sectionHead title).isPrefixOf e.1.toList = true → ∃ leaf : Leaf, e.1 = leaf.variableName)
    (ms : List (String × Json)) :
    (gatherOne title ms e = ms ∧
      ∀ leaf : Leaf, leaf.title? = some title → e.1 ≠ leaf.variableName) ∨
      ∃ leaf : Leaf, leaf.title? = some title ∧ e.1 = leaf.variableName ∧
        gatherOne title ms e = Table.assign leaf.key (.string e.2) ms := by
  by_cases hhead : (sectionHead title).isPrefixOf e.1.toList = true
  · obtain ⟨leaf, hname⟩ := he hhead
    have htitle : leaf.title? = some title := (suits_of_mem h leaf).2.1.1 (hname ▸ hhead)
    exact .inr ⟨leaf, htitle, hname, gatherOne_leaf h hname htitle⟩
  · refine .inl ⟨if_neg hhead, fun leaf htitle hname => hhead ?_⟩
    rw [hname]
    exact (suits_of_mem h leaf).2.1.2 htitle

/-- Texts under keys of a section, each key once. -/
structure Gathered (keys : List String) (ms : List (String × Json)) : Prop where
  nodup : (ms.map Prod.fst).Nodup
  known : ∀ m ∈ ms, m.1 ∈ keys
  texts : ∀ m ∈ ms, ∃ s, m.2 = .string s

theorem gathered_nil (keys : List String) : Gathered keys [] :=
  ⟨List.nodup_nil, nofun, nofun⟩

theorem Gathered.assign {key : String} (h : Gathered keys ms) (hkey : key ∈ keys) (s : String) :
    Gathered keys (Table.assign key (.string s) ms) where
  nodup := Table.nodup_keys_assign h.nodup
  known m hm := by
    rcases Table.mem_of_mem_assign hm with rfl | hmem
    · exact hkey
    · exact h.known m hmem
  texts m hm := by
    rcases Table.mem_of_mem_assign hm with rfl | hmem
    · exact ⟨s, rfl⟩
    · exact h.texts m hmem

theorem Gathered.keysOnce (h : Gathered keys ms) : (Json.object ms).KeysOnce := by
  refine Json.keysOnce_object.2 ⟨h.nodup, fun m hm => ?_⟩
  obtain ⟨s, hs⟩ := h.texts m hm
  rw [hs]
  trivial

theorem Gathered.gatherOne (h : Gathered keys ms) (hsection : (title, keys) ∈ sectionKeys)
    (he : (sectionHead title).isPrefixOf e.1.toList = true →
      ∃ leaf : Leaf, e.1 = leaf.variableName) :
    Gathered keys (gatherOne title ms e) := by
  rcases gatherOne_cases hsection he ms with ⟨hsame, -⟩ | ⟨leaf, htitle, -, hassign⟩
  · exact hsame.symm ▸ h
  · exact hassign.symm ▸ h.assign ((suits_of_mem hsection leaf).2.2 htitle).1 e.2

theorem Gathered.foldl (h : Gathered keys ms) (hsection : (title, keys) ∈ sectionKeys)
    (henv : LeavesIn title env) : Gathered keys (env.foldl (Settings.gatherOne title) ms) := by
  induction env generalizing ms with
  | nil => exact h
  | cons e rest ih =>
    obtain ⟨he, hrest⟩ := List.forall_mem_cons.1 henv
    exact ih (h.gatherOne hsection he) hrest

/-- The variables of a section read its leaves: the last text of each, or what was there before. -/
theorem lookup_foldl_gatherOne {leaf : Leaf} (hsection : (title, keys) ∈ sectionKeys)
    (htitle : leaf.title? = some title) (henv : LeavesIn title env) (ms : List (String × Json)) :
    Table.lookup leaf.key (env.foldl (gatherOne title) ms) =
      ((Table.lookupLast leaf.variableName env).map .string).or (Table.lookup leaf.key ms) := by
  induction env generalizing ms with
  | nil => rfl
  | cons e rest ih =>
    obtain ⟨he, hrest⟩ := List.forall_mem_cons.1 henv
    obtain ⟨name, text⟩ := e
    rw [List.foldl_cons, ih hrest, Table.lookupLast_cons]
    rcases gatherOne_cases hsection he ms with ⟨hsame, hother⟩ | ⟨other, hin, hname, hassign⟩
    · have hne : name ≠ leaf.variableName := hother leaf htitle
      rw [hsame, if_neg hne, Option.or_none]
    · have hname : name = other.variableName := hname
      rw [hassign]
      by_cases hkey : other.key = leaf.key
      · have hsame : name = leaf.variableName :=
          hname.trans (variableName_eq (hin.trans htitle.symm) hkey)
        rw [hkey, Table.lookup_assign_self, if_pos hsame]
        cases Table.lookupLast leaf.variableName rest with
        | none => rfl
        | some later => rfl
      · have hne : name ≠ leaf.variableName := by
          intro hsame
          have hkeys := ((suits_of_mem hsection other).2.2 hin).2
          rw [← hname, hsame, ((suits_of_mem hsection leaf).2.2 htitle).2] at hkeys
          exact hkey (List.singleton_inj.1 hkeys).symm
        rw [Table.lookup_assign_of_ne _ _ (Ne.symm hkey), if_neg hne, Option.or_none]

theorem foldName_of_mem_keys (h : (title, keys) ∈ sectionKeys) {key : String} (hkey : key ∈ keys) :
    foldName key = key := by
  have hall : (sectionKeys.all fun s => s.2.all fun key => foldName key = key) = true := by
    decide +kernel
  exact of_decide_eq_true (List.all_eq_true.1 (List.all_eq_true.1 hall _ h) key hkey)

/-- Keys of a section in small letters are in their own spelling. -/
theorem Gathered.ownSpelling_eq (h : Gathered keys ms) (hsection : (title, keys) ∈ sectionKeys) :
    ownSpelling keys ms = ms := by
  have hmap : (ms.map fun m =>
      if keys.contains (foldName m.1) then (foldName m.1, m.2) else (m.1, m.2)) = ms := by
    refine (List.map_congr_left fun m hm => ?_).trans (List.map_id ms)
    rw [foldName_of_mem_keys hsection (h.known m hm), ite_self]
    rfl
  exact (congrArg Table.ofEntries hmap).trans (Table.ofEntries_of_nodup h.nodup)

/-- What the environment gives for a section whose leaves it has one by one. -/
theorem sectionValue_of_leavesIn (hsection : (title, keys) ∈ sectionKeys)
    (hvariable : Table.lookup (variableHead ++ title) env = none) (henv : LeavesIn title env) :
    ∃ new, sectionValue env title keys =
        .ok (if new.isEmpty then none else some (.object new)) ∧ Gathered keys new ∧
      ∀ leaf : Leaf, leaf.title? = some title →
        Table.lookup leaf.key new = (Table.lookupLast leaf.variableName env).map .string := by
  have hgathered : Gathered keys (nestedValues env title) :=
    (gathered_nil keys).foldl hsection henv
  refine ⟨nestedValues env title, ?_, hgathered, fun leaf htitle => ?_⟩
  · rw [sectionValue, hvariable]
    dsimp only
    rw [hgathered.ownSpelling_eq hsection]
  · rw [nestedValues_eq, lookup_foldl_gatherOne hsection htitle henv]
    exact Option.or_none

theorem leaf_of_mem_foldNames (henv : IsLeafwise env) (hsection : (title, keys) ∈ sectionKeys)
    (he : e ∈ foldNames env) (hstart : Text.startsWith e.1 (variableHead ++ title) = true) :
    ∃ leaf : Leaf, e.1 = leaf.variableName := by
  obtain ⟨given, hgiven, rfl⟩ := List.mem_map.1 (Table.mem_of_mem_ofEntries he)
  exact henv given hgiven _ hsection hstart

/-- Where each variable is that of a leaf, none is that of a section. -/
theorem lookup_section_of_isLeafwise (henv : IsLeafwise env)
    (hsection : (title, keys) ∈ sectionKeys) :
    Table.lookup (variableHead ++ title) (foldNames env) = none := by
  refine Table.lookup_of_notMem fun hmem => ?_
  obtain ⟨e, he, hname⟩ := List.mem_map.1 hmem
  have hstart : Text.startsWith e.1 (variableHead ++ title) = true := by
    rw [hname, Text.startsWith]
    exact List.isPrefixOf_iff_prefix.2 (List.prefix_refl _)
  obtain ⟨leaf, hleaf⟩ := leaf_of_mem_foldNames henv hsection he hstart
  exact (suits_of_mem hsection leaf).1 (hleaf.symm.trans hname)

theorem leavesIn_of_isLeafwise (henv : IsLeafwise env) (hsection : (title, keys) ∈ sectionKeys) :
    LeavesIn title (foldNames env) := by
  intro e he hhead
  refine leaf_of_mem_foldNames henv hsection he ?_
  rw [List.isPrefixOf_iff_prefix, sectionHead, String.toList_append] at hhead
  rw [Text.startsWith, List.isPrefixOf_iff_prefix]
  exact (List.prefix_append _ _).trans hhead

theorem lookup_foldNames (env : Environment) (leaf : Leaf) :
    Table.lookup leaf.variableName (foldNames env) = inEnvironment env leaf :=
  Table.lookup_ofEntries _ _

theorem lookupLast_foldNames (env : Environment) (leaf : Leaf) :
    Table.lookupLast leaf.variableName (foldNames env) = inEnvironment env leaf := by
  rw [← lookup_foldNames]
  exact Table.lookupLast_of_nodup (Table.nodup_keys_ofEntries _)

/-- What a leafwise environment gives for a section. -/
theorem sectionValue_of_isLeafwise (henv : IsLeafwise env)
    (hsection : (title, keys) ∈ sectionKeys) :
    ∃ new, sectionValue (foldNames env) title keys =
        .ok (if new.isEmpty then none else some (.object new)) ∧ Gathered keys new ∧
      ∀ leaf : Leaf, leaf.title? = some title →
        Table.lookup leaf.key new = (inEnvironment env leaf).map .string := by
  simp only [← lookupLast_foldNames]
  exact sectionValue_of_leavesIn hsection (lookup_section_of_isLeafwise henv hsection)
    (leavesIn_of_isLeafwise henv hsection)

theorem keysOnce_fromEnvironment {values : List (String × Json)} (henv : IsLeafwise env)
    (h : fromEnvironment env = .ok values) : (Json.object values).KeysOnce := by
  refine Json.keysOnce_object.2 ⟨nodup_keys_fromEnvironment h, fun m hm => ?_⟩
  rcases mem_fromEnvironment h hm with ⟨s, hs⟩ | ⟨title, keys, hsection, hvalue⟩
  · rw [hs]
    trivial
  · obtain ⟨new, hnew, hgathered, -⟩ := sectionValue_of_isLeafwise henv hsection
    have hv := hvalue _ hnew
    split at hv
    · exact nomatch hv
    · exact Option.some.inj hv ▸ hgathered.keysOnce

end Sections

/-! ## Files and environments -/

section Files

variable {env : Environment} {entries values : List (String × Json)} {leaf : Leaf}

theorem title_mem_sectionKeys {title : String} (h : leaf.title? = some title) :
    ∃ keys, (title, keys) ∈ sectionKeys := by
  have hmem : ∀ known ∈ leaf.title?, known ∈ sectionKeys.map Prod.fst := by
    cases leaf <;> decide
  obtain ⟨⟨known, keys⟩, hsection, rfl⟩ := List.mem_map.1 (hmem title h)
  exact ⟨keys, hsection⟩

theorem contains_key_of_alone (h : leaf.title? = none) :
    leaf.key ∈ plainKeys ∧ knownKeys.contains leaf.key = true ∧
      leaf.variableName = variableHead ++ leaf.key := by
  cases leaf with
  | language | strict | allowRawHtml | fontStylesheet => decide
  | persistenceEnabled | persistenceUrl | persistenceKey | relayUrl | relayKey | embedLogo
  | imageTimeout => exact nomatch h

/-- A leaf that stands alone is what its variable says, else what the document says. -/
theorem lookup_gather_alone (htitle : leaf.title? = none)
    (h : fromEnvironment env = .ok values) :
    Table.lookup leaf.key (overlayMembers (ownSpellingFrom [] entries) values) =
      ((inEnvironment env leaf).map .string).or (firstOf leaf.key entries) := by
  obtain ⟨hplain, hknown, hname⟩ := contains_key_of_alone htitle
  have hvalue : Table.lookup leaf.key values = (inEnvironment env leaf).map .string := by
    rw [lookup_fromEnvironment_plain h hplain, ← hname, lookup_foldNames]
  rw [lookup_overlayMembers_of_strings _ (nodup_keys_fromEnvironment h) hvalue,
    lookup_ownSpellingFrom hknown rfl]

/-- A leaf of a section likewise: an object is laid over what the document has for the section. -/
theorem lookup_gather_section {title : String} (henv : IsLeafwise env)
    (htitle : leaf.title? = some title) (h : fromEnvironment env = .ok values) :
    (Table.lookup title (overlayMembers (ownSpellingFrom [] entries) values)).bind
        (·.member? leaf.key) =
      ((inEnvironment env leaf).map .string).or
        ((firstOf title entries).bind (·.member? leaf.key)) := by
  obtain ⟨keys, hsection⟩ := title_mem_sectionKeys htitle
  obtain ⟨new, hnew, hgathered, hleaf⟩ := sectionValue_of_isLeafwise henv hsection
  have hknown : knownKeys.contains title = true := by
    have hall : (sectionKeys.all fun s => knownKeys.contains s.1) = true := by decide
    exact List.all_eq_true.1 hall _ hsection
  have hdocument : Table.lookup title (ownSpellingFrom [] entries) = firstOf title entries :=
    lookup_ownSpellingFrom hknown rfl entries
  have hvalue := lookup_fromEnvironment_section h hsection hnew
  have htexts := hleaf leaf htitle
  split at hvalue
  · rename_i hempty
    obtain rfl := List.isEmpty_iff.1 hempty
    have hunset : inEnvironment env leaf = none := Option.map_eq_none_iff.1 htexts.symm
    rw [lookup_overlayMembers_of_none _ hvalue, hdocument, hunset, Option.map_none, Option.none_or]
  · rw [lookup_overlayMembers_of_some _ (nodup_keys_fromEnvironment h) hvalue, hdocument,
      Option.bind_some]
    cases firstOf title entries with
    | none => exact htexts.trans Option.or_none.symm
    | some w =>
      rw [Option.elim_some, Option.bind_some]
      by_cases hobject : ∃ old, w = .object old
      · obtain ⟨old, rfl⟩ := hobject
        rw [overlay_object]
        exact lookup_overlayMembers_of_strings old hgathered.nodup htexts
      · have hmember : w.member? leaf.key = none := by
          cases w with
          | object old => exact absurd ⟨old, rfl⟩ hobject
          | null | bool b | int i | float x | string s | brokenString | array items => rfl
        rw [overlay_of_not_objects fun old _ hold _ => hobject ⟨old, hold⟩, hmember, Option.or_none]
        exact htexts

theorem among_gather (henv : IsLeafwise env) (h : fromEnvironment env = .ok values) (leaf : Leaf) :
    among (overlayMembers (ownSpellingFrom [] entries) values) leaf =
      ((inEnvironment env leaf).map .string).or (inDocument entries leaf) := by
  unfold among inDocument
  cases htitle : leaf.title? with
  | none => exact lookup_gather_alone htitle h
  | some title => exact lookup_gather_section henv htitle h

/-- No object of a settings file repeats a key. -/
theorem keysOnce_of_entriesOf {entry : FileEntry} (h : entriesOf entry = .ok entries) :
    (Json.object entries).KeysOnce := by
  cases entry with
  | directory => exact Except.ok.inj h ▸ Toml.keysOnce_nil
  | file bytes =>
    unfold entriesOf at h
    dsimp only at h
    split at h
    · exact nomatch h
    · split at h
      · exact nomatch h
      · rename_i hread
        exact Except.ok.inj h ▸ Toml.keysOnce_of_read hread

/-- What settings from a file come from. -/
theorem loadFile_eq_ok {path : String} {entry : FileEntry} {s : Settings}
    (h : loadFile path (some entry) env = .ok s) :
    ∃ entries values, entriesOf entry = .ok entries ∧ fromEnvironment env = .ok values ∧
      checkOwn (overlayMembers (ownSpellingFrom [] entries) values) = .valid s := by
  unfold loadFile gather at h
  dsimp only at h
  cases hentries : entriesOf entry with
  | error fault =>
    rw [hentries] at h
    exact nomatch h
  | ok entries =>
    cases hvalues : fromEnvironment env with
    | error fault =>
      rw [hentries, hvalues] at h
      exact nomatch h
    | ok values =>
      rw [hentries, hvalues] at h
      dsimp only at h
      split at h
      · rename_i hcheck
        exact ⟨entries, values, rfl, rfl, Except.ok.inj h ▸ hcheck⟩
      · exact nomatch h

end Files

/-! ## Settings leaf by leaf -/

/-- Each leaf of loaded settings is what its variable says, checked, else what the document says,
else its default. -/
theorem settled_of_loadFile {path : String} {entry : FileEntry} {env : Environment} {s : Settings}
    (henv : IsLeafwise env) (h : loadFile path (some entry) env = .ok s) :
    ∃ entries, entriesOf entry = .ok entries ∧ ∀ leaf,
      settled leaf (((inEnvironment env leaf).map .string).or (inDocument entries leaf)) =
        .valid (leaf.value s) := by
  obtain ⟨entries, values, hentries, hvalues, hcheck⟩ := loadFile_eq_ok h
  have hkeys : (Json.object (overlayMembers (ownSpellingFrom [] entries) values)).KeysOnce :=
    keysOnce_overlayMembers (keysOnce_ownSpellingFrom [] (keysOnce_of_entriesOf hentries))
      (keysOnce_fromEnvironment henv hvalues)
  refine ⟨entries, hentries, fun leaf => ?_⟩
  rw [← among_gather henv hvalues leaf]
  exact settled_of_checkOwn hkeys hcheck leaf

/-- **Settings are settled leaf by leaf.** Each leaf of loaded settings is what its variable says,
checked, else what the document says, else its default; so it is the same in all environments that
say the same of it, whatever they say of the other leaves. -/
theorem loadFile_leafwise {path : String} {entry : FileEntry} {env : Environment} {s : Settings}
    (henv : IsLeafwise env) (h : loadFile path (some entry) env = .ok s) :
    (∃ entries, entriesOf entry = .ok entries ∧ ∀ leaf,
      settled leaf (((inEnvironment env leaf).map .string).or (inDocument entries leaf)) =
        .valid (leaf.value s)) ∧
    ∀ (other : Environment) (t : Settings), IsLeafwise other →
      loadFile path (some entry) other = .ok t → ∀ leaf,
        inEnvironment other leaf = inEnvironment env leaf → leaf.value t = leaf.value s := by
  obtain ⟨entries, hentries, hleaves⟩ := settled_of_loadFile henv h
  refine ⟨⟨entries, hentries, hleaves⟩, fun other t hother ht leaf hsame => ?_⟩
  obtain ⟨entries', hentries', hleaves'⟩ := settled_of_loadFile hother ht
  obtain rfl : entries = entries' := Except.ok.inj (hentries.symm.trans hentries')
  have hvalue := hleaves' leaf
  rw [hsame, hleaves leaf] at hvalue
  exact (Checked.valid.inj hvalue).symm

/-- A file that turns embedding off. -/
def unembeddedFile : FileEntry :=
  .file (Text.Utf8.encode "[images]\nembed_logo = false\n")

/-- A variable for the other leaf of the section leaves what the file says of this one. -/
theorem loadFile_otherLeaf :
    IsLeafwise [("FORMFORGE_IMAGES__TIMEOUT", "5")] ∧
      loadFile "formforge.toml" (some unembeddedFile) [("FORMFORGE_IMAGES__TIMEOUT", "5")] =
        .ok { images := ⟨false, 5⟩ } ∧
      ∀ t : Settings, loadFile "formforge.toml" (some unembeddedFile) [] = .ok t →
        t.images.embedLogo = false := by
  have hleafwise : IsLeafwise [("FORMFORGE_IMAGES__TIMEOUT", "5")] := by
    intro e he s hs _
    obtain rfl := List.mem_singleton.1 he
    exact ⟨.imageTimeout, by decide +kernel⟩
  have hload : loadFile "formforge.toml" (some unembeddedFile)
      [("FORMFORGE_IMAGES__TIMEOUT", "5")] = .ok { images := ⟨false, 5⟩ } :=
    toOption_eq_some_iff.1 (by decide +kernel)
  exact ⟨hleafwise, hload,
    fun t ht => (loadFile_leafwise hleafwise hload).2 [] t nofun ht .embedLogo (by decide +kernel)⟩

/-- A file with two spellings of a section, of which the second turns embedding off. -/
def twoSpellings : FileEntry :=
  .file (Text.Utf8.encode "[IMAGES]\n[images]\nembed_logo = false\n")

/-- The first spelling counts, so the logo is embedded. -/
theorem loadFile_twoSpellings :
    (∃ entries images v, entriesOf twoSpellings = .ok entries ∧
      Table.lookup "images" entries = some images ∧ images.member? "embed_logo" = some v ∧
        (bool v).toExcept.toOption = some false) ∧
      loadFile "formforge.toml" (some twoSpellings) [] = .ok {} ∧
      ({} : Settings).images.embedLogo = true := by
  have hdocument : ((entriesOf twoSpellings).toOption.bind fun entries =>
      (Table.lookup "images" entries).bind fun images =>
        (images.member? "embed_logo").bind fun v => (bool v).toExcept.toOption) = some false := by
    decide +kernel
  obtain ⟨entries, hentries, hdocument⟩ := Option.bind_eq_some_iff.1 hdocument
  obtain ⟨images, himages, hdocument⟩ := Option.bind_eq_some_iff.1 hdocument
  obtain ⟨v, hv, hbool⟩ := Option.bind_eq_some_iff.1 hdocument
  exact ⟨⟨entries, images, v, toOption_eq_some_iff.1 hentries, himages, hv, hbool⟩,
    toOption_eq_some_iff.1 (by decide +kernel), rfl⟩

end FormPress.Settings
