import FormPress.Command.Run
import FormPress.Proofs.Result
import FormPress.Proofs.Table

/-!
# How loading settings ends

Loading settings ends with settings or with a refusal that its caller expects, as long as a settings
file is there: whatever its content and whatever the variables, every fault is one of the file.
Without a file the environment is read alone, and a variable of a section that holds no JSON is a
fault that nobody expects; so is a path that is too long to be looked at.
-/

namespace FormPress

open Command

namespace Settings

variable {env : Environment}

/-! ## Variables -/

/-- Every variable of a section holds JSON. -/
def IsReadable (env : Environment) : Prop :=
  ∀ s ∈ sectionKeys, ∀ text, Table.lookup (variableHead ++ s.1) (foldNames env) = some text →
    ∃ v, readVariable text = .ok v

theorem exists_sectionValue_iff {title : String} {keys : List String} :
    (∃ v, sectionValue env title keys = .ok v) ↔
      ∀ text, Table.lookup (variableHead ++ title) env = some text →
        ∃ v, readVariable text = .ok v := by
  unfold sectionValue
  dsimp only
  cases hlookup : Table.lookup (variableHead ++ title) env with
  | none => exact iff_of_true ⟨_, rfl⟩ fun _ h => nomatch h
  | some text =>
    dsimp only
    cases hread : readVariable text with
    | error fault =>
      refine iff_of_false (fun ⟨_, h⟩ => nomatch h) fun h => ?_
      obtain ⟨v, hv⟩ := h text rfl
      rw [hread] at hv
      exact nomatch hv
    | ok v =>
      refine iff_of_true ?_ fun other hother => ?_
      · cases v with
        | null | bool b | int i | float x | string s | brokenString | array items
        | object members => exact ⟨_, rfl⟩
      · exact Option.some.inj hother ▸ ⟨v, hread⟩

theorem exists_sectionValues_iff {sections : List (String × List String)} :
    (∃ values, sectionValues env sections = .ok values) ↔
      ∀ s ∈ sections, ∃ v, sectionValue env s.1 s.2 = .ok v := by
  induction sections with
  | nil => exact iff_of_true ⟨[], rfl⟩ fun _ h => nomatch h
  | cons s rest ih =>
    obtain ⟨title, keys⟩ := s
    rw [List.forall_mem_cons, ← ih]
    constructor
    · rintro ⟨values, h⟩
      obtain ⟨v, hv, h⟩ := bind_eq_ok.1 h
      obtain ⟨others, hothers, -⟩ := bind_eq_ok.1 h
      exact ⟨⟨v, hv⟩, others, hothers⟩
    · rintro ⟨⟨v, hv⟩, others, hothers⟩
      exact ⟨_, bind_eq_ok.2 ⟨v, hv, bind_eq_ok.2 ⟨others, hothers, rfl⟩⟩⟩

theorem exists_fromEnvironment_iff :
    (∃ values, fromEnvironment env = .ok values) ↔ IsReadable env := by
  have hsections : (∃ values, fromEnvironment env = .ok values) ↔
      ∃ values, sectionValues (foldNames env) sectionKeys = .ok values := by
    constructor
    · rintro ⟨values, h⟩
      obtain ⟨sections, hsections, -⟩ := bind_eq_ok.1 h
      exact ⟨sections, hsections⟩
    · rintro ⟨sections, hsections⟩
      exact ⟨_, bind_eq_ok.2 ⟨sections, hsections, rfl⟩⟩
  rw [hsections, exists_sectionValues_iff]
  exact forall₂_congr fun s _ => exists_sectionValue_iff

/-! ## Empty files -/

theorem keys_sectionValues_sublist {sections : List (String × List String)}
    {values : List (String × Json)} (h : sectionValues env sections = .ok values) :
    (values.map Prod.fst).Sublist (sections.map Prod.fst) := by
  induction sections generalizing values with
  | nil => exact Except.ok.inj h ▸ List.Sublist.refl _
  | cons s rest ih =>
    obtain ⟨title, keys⟩ := s
    obtain ⟨v, -, h⟩ := bind_eq_ok.1 h
    obtain ⟨others, hothers, h⟩ := bind_eq_ok.1 h
    obtain rfl := Except.ok.inj h
    cases v with
    | none => exact (ih hothers).cons _
    | some v => exact (ih hothers).cons_cons _

/-- The environment gives each setting once. -/
theorem nodup_keys_fromEnvironment {values : List (String × Json)}
    (h : fromEnvironment env = .ok values) : (values.map Prod.fst).Nodup := by
  obtain ⟨sections, hsections, h⟩ := bind_eq_ok.1 h
  obtain rfl := Except.ok.inj h
  have hplain (keys : List String) : ((keys.filterMap fun key =>
      (Table.lookup (variableHead ++ key) (foldNames env)).map fun value =>
        (key, Json.string value)).map Prod.fst).Sublist keys := by
    induction keys with
    | nil => exact List.Sublist.refl _
    | cons key rest ih =>
      rw [List.filterMap_cons]
      cases Table.lookup (variableHead ++ key) (foldNames env) with
      | none => exact ih.cons _
      | some value => exact ih.cons_cons _
  have hall : (plainKeys ++ sectionKeys.map Prod.fst).Nodup := by decide
  refine List.Sublist.nodup ?_ hall
  rw [List.map_append]
  exact (hplain plainKeys).append (keys_sectionValues_sublist hsections)

theorem overlayMembers_of_nodup {old new : List (String × Json)}
    (h : ((old ++ new).map Prod.fst).Nodup) : overlayMembers old new = old ++ new := by
  induction new generalizing old with
  | nil => rw [overlayMembers, List.append_nil]
  | cons m rest ih =>
    obtain ⟨key, v⟩ := m
    have hnew : key ∉ old.map Prod.fst := by
      rw [List.map_append, List.map_cons, List.nodup_append] at h
      exact fun hkey => h.2.2 key hkey key List.mem_cons_self rfl
    have hsplit : old ++ (key, v) :: rest = (old ++ [(key, v)]) ++ rest := by simp
    rw [overlayMembers, Table.lookup_of_notMem hnew, Table.assign_of_notMem hnew]
    rw [hsplit] at h ⊢
    exact ih h

/-- With an empty file the environment alone counts. -/
theorem gather_empty {values : List (String × Json)} (h : fromEnvironment env = .ok values) :
    gather (.file []) env = .ok values := by
  have hentries : entriesOf (.file []) = .ok [] := rfl
  rw [gather, hentries, h]
  exact congrArg Except.ok (@overlayMembers_of_nodup [] _ (nodup_keys_fromEnvironment h))

/-! ## Ends -/

/-- How loading settings ends, as far as the class of a fault tells. -/
inductive Ending where
  | loaded (settings : Settings)
  | refused
  | undecoded
deriving DecidableEq

/-- The end of a load; a variable that cannot be decoded is a fault of its own class. -/
def endingOf : Except SettingsFault Settings → Ending
  | .ok s => .loaded s
  | .error (.badVariable _) => .undecoded
  | .error _ => .refused

/-- Settings or a refusal. -/
def Ending.IsSettled : Ending → Prop
  | .undecoded => False
  | _ => True

theorem isSettled_loadFile (path : String) (entry : Option FileEntry) (env : Environment) :
    (endingOf (loadFile path entry env)).IsSettled := by
  unfold loadFile
  cases entry with
  | none => trivial
  | some entry =>
    dsimp only
    split
    · trivial
    · split
      · trivial
      · trivial

/-- The end of a check of all values. -/
def endingOfCheck : Decode.Checked Settings → Ending
  | .valid s => .loaded s
  | .invalid _ => .refused

theorem isSettled_endingOfCheck (c : Decode.Checked Settings) : (endingOfCheck c).IsSettled := by
  cases c with
  | valid s => trivial
  | invalid faults => trivial

theorem endingOf_ofEnvironment {values : List (String × Json)}
    (h : fromEnvironment env = .ok values) :
    endingOf (ofEnvironment env) = endingOfCheck (checkOwn values) := by
  rw [ofEnvironment, h]
  dsimp only
  cases checkOwn values with
  | valid s => rfl
  | invalid faults => rfl

theorem endingOf_loadFile_empty {values : List (String × Json)} (path : String)
    (h : fromEnvironment env = .ok values) :
    endingOf (loadFile path (some (.file [])) env) = endingOfCheck (checkOwn values) := by
  rw [loadFile, gather_empty h]
  dsimp only
  cases checkOwn values with
  | valid s => rfl
  | invalid faults => rfl

theorem isSettled_ofEnvironment_iff :
    (endingOf (ofEnvironment env)).IsSettled ↔ IsReadable env := by
  rw [← exists_fromEnvironment_iff]
  cases h : fromEnvironment env with
  | error fault =>
    rw [ofEnvironment, h]
    exact iff_of_false id fun ⟨_, hvalues⟩ => nomatch hvalues
  | ok values =>
    rw [endingOf_ofEnvironment h]
    exact iff_of_true (isSettled_endingOfCheck _) ⟨values, rfl⟩

theorem result_load_none (path : String) : (load path none env).result = ofEnvironment env := by
  by_cases h : path = ""
  · simp [load, h]
  · simp [load, h]

theorem result_load_some {path : String} (h : path ≠ "") (entry : FileEntry) :
    (load path (some entry) env).result = loadFile path (some entry) env := by
  simp [load, h]

/-- Without a file and with an empty one settings are the same or refused alike, as long as the
variables can be decoded; else there is a difference of class. -/
theorem endingOf_load_empty_iff (path : String) (env : Environment) :
    endingOf (load path none env).result = endingOf (load path (some (.file [])) env).result ↔
      path = "" ∨ IsReadable env := by
  rw [result_load_none]
  by_cases hpath : path = ""
  · have hsame : (load path (some (.file [])) env).result = ofEnvironment env := by
      simp [load, hpath]
    rw [hsame]
    exact iff_of_true rfl (.inl hpath)
  · rw [result_load_some hpath]
    constructor
    · intro h
      have hsettled := isSettled_loadFile path (some (.file [])) env
      rw [← h] at hsettled
      exact .inr (isSettled_ofEnvironment_iff.1 hsettled)
    · rintro (h | h)
      · exact absurd h hpath
      · obtain ⟨values, hvalues⟩ := exists_fromEnvironment_iff.2 h
        rw [endingOf_ofEnvironment hvalues, endingOf_loadFile_empty path hvalues]

end Settings

/-! ## Paths -/

namespace Command.Surroundings

/-- A settings file, or a directory in its place, stands under a path. -/
def FindsSettings (w : Surroundings) (config : String) : Prop :=
  config ≠ "" ∧ ∃ entry, w.present? [Settings.loadingLine config] config = .ok (some entry)

/-- It can be told whether anything stands under a path. -/
def ReachesSettings (w : Surroundings) (config : String) : Prop :=
  config = "" ∨ ∃ entry, w.present? [Settings.loadingLine config] config = .ok entry

/-- Loading gives settings, or a failure that its caller expects. -/
def SettlesSettings (w : Surroundings) (config : String) : Prop :=
  (∃ s, (w.loadSettings config).result = .ok s) ∨
    ∃ failure, (w.loadSettings config).result = .error failure ∧ failure.isExpected = true

variable {w : Surroundings} {config : String}

theorem settlesSettings_iff_of_load {entry : Option FileEntry}
    (h : (w.loadSettings config).result =
      (Settings.load config entry w.environment).result.mapError .settings) :
    w.SettlesSettings config ↔
      (Settings.endingOf (Settings.load config entry w.environment).result).IsSettled := by
  rw [SettlesSettings, h]
  cases (Settings.load config entry w.environment).result with
  | ok s => exact iff_of_true (.inl ⟨s, rfl⟩) trivial
  | error fault =>
    cases fault with
    | badVariable fault =>
      refine iff_of_false ?_ id
      rintro (⟨s, hs⟩ | ⟨failure, hfailure, hexpected⟩)
      · exact nomatch hs
      · obtain rfl := Except.error.inj hfailure
        exact nomatch hexpected
    | notFound path | badFile path fault | invalid faults | badEnvironment given faults =>
      exact iff_of_true (.inr ⟨_, rfl, rfl⟩) trivial

theorem isExpected_of_present? {lines : List LogLine} {path : String} {failure : Failure}
    (h : w.present? lines path = .error failure) : failure.isExpected = false := by
  unfold present? at h
  dsimp only at h
  split at h
  · exact nomatch h
  · split at h
    · exact nomatch h
    · exact Except.error.inj h ▸ rfl
    · exact nomatch h

theorem result_loadSettings {entry : Option FileEntry}
    (h : (if config = "" then .ok none
      else w.present? [Settings.loadingLine config] config) = .ok entry) :
    (w.loadSettings config).result =
      (Settings.load config entry w.environment).result.mapError .settings := by
  unfold loadSettings
  dsimp only
  rw [h]
  rfl

/-- A path that nothing can be told about is a failure that nobody expects. -/
theorem not_settlesSettings_of_error {failure : Failure} (hconfig : config ≠ "")
    (h : w.present? [Settings.loadingLine config] config = .error failure) :
    ¬w.SettlesSettings config := by
  have hload : (w.loadSettings config).result = .error failure := by
    unfold loadSettings
    rw [if_neg hconfig, h]
    rfl
  rintro (⟨s, hs⟩ | ⟨other, hother, hexpected⟩)
  · rw [hload] at hs
    exact nomatch hs
  · rw [hload] at hother
    obtain rfl := Except.error.inj hother
    rw [isExpected_of_present? h] at hexpected
    exact nomatch hexpected

end Command.Surroundings

/-- **Loading settings settles exactly when a file is there or the variables can be decoded.** It
gives settings or an expected refusal when something stands under the path, whatever it is, and
also when nothing does, as long as that can be told and every variable of a section holds JSON.
A file that is not there and an empty one end alike exactly when the variables can be decoded. -/
theorem Settings.loading_settles_iff (w : Surroundings) (config : String) :
    (w.SettlesSettings config ↔
      w.FindsSettings config ∨ (w.ReachesSettings config ∧ IsReadable w.environment)) ∧
    (endingOf (load config none w.environment).result =
        endingOf (load config (some (.file [])) w.environment).result ↔
      config = "" ∨ IsReadable w.environment) := by
  refine ⟨?_, endingOf_load_empty_iff config w.environment⟩
  by_cases hconfig : config = ""
  · have hpresent : (if config = "" then .ok none
        else w.present? [loadingLine config] config) = .ok none := if_pos hconfig
    have hload := Surroundings.result_loadSettings hpresent
    rw [Surroundings.settlesSettings_iff_of_load hload, result_load_none,
      isSettled_ofEnvironment_iff]
    constructor
    · intro h
      exact .inr ⟨.inl hconfig, h⟩
    · rintro (h | h)
      · exact absurd hconfig h.1
      · exact h.2
  · cases hpresent : w.present? [loadingLine config] config with
    | error failure =>
      refine iff_of_false (Surroundings.not_settlesSettings_of_error hconfig hpresent) ?_
      rintro (⟨-, entry, hfound⟩ | ⟨hempty | ⟨entry, hreached⟩, -⟩)
      · exact nomatch hpresent.symm.trans hfound
      · exact hconfig hempty
      · exact nomatch hpresent.symm.trans hreached
    | ok entry =>
      have hload := Surroundings.result_loadSettings ((if_neg hconfig).trans hpresent)
      rw [Surroundings.settlesSettings_iff_of_load hload]
      cases entry with
      | none =>
        rw [result_load_none, isSettled_ofEnvironment_iff]
        constructor
        · intro h
          exact .inr ⟨.inr ⟨none, hpresent⟩, h⟩
        · rintro (⟨-, entry, hfound⟩ | h)
          · exact nomatch hpresent.symm.trans hfound
          · exact h.2
      | some entry =>
        rw [result_load_some hconfig]
        exact iff_of_true (isSettled_loadFile config _ _) (.inl ⟨hconfig, entry, hpresent⟩)

/-- A variable of a section that opens a brace and does not close it. -/
def Settings.brokenEnvironment : Environment :=
  [("FORMFORGE_PERSISTENCE", "\x7bbad")]

/-- The variable around a directory without files. -/
def Command.brokenSurroundings : Surroundings :=
  ⟨fun _ _ => .error .missing, Settings.brokenEnvironment, fun _ => .failure none⟩

/-- Without a file the variable is a fault of its own class, which is not settled; with an empty
file it is refused. -/
theorem Settings.loading_brokenEnvironment :
    endingOf (load "formforge.toml" none brokenEnvironment).result = .undecoded ∧
      endingOf (load "formforge.toml" (some (.file [])) brokenEnvironment).result = .refused ∧
      ¬brokenSurroundings.SettlesSettings "formforge.toml" := by
  have hundecoded :
      endingOf (load "formforge.toml" none brokenEnvironment).result = .undecoded := by
    decide +kernel
  have hpresent : brokenSurroundings.present? [loadingLine "formforge.toml"] "formforge.toml" =
      .ok none := by
    unfold Surroundings.present?
    rw [if_neg (by decide +kernel)]
    rfl
  have hload := Surroundings.result_loadSettings (w := brokenSurroundings)
    ((if_neg (by decide)).trans hpresent)
  refine ⟨hundecoded, by decide +kernel, ?_⟩
  rw [Surroundings.settlesSettings_iff_of_load hload]
  exact hundecoded ▸ id

end FormPress
