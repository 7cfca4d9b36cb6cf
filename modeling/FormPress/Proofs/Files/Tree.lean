import FormPress.Files.Tree
import FormPress.Proofs.Table

/-!
# What changes of a file tree leave alone

Saving under a path either comes to nothing, and then every file is as it was, or it puts the bytes
in the place that the path names and leaves every other file alone. The directories that are made on
the way are no files: making them is not seen at any.
-/

namespace FormPress

/-! ## Places -/

/-- Where names lead from a directory on, when two dots are one step up. -/
def FilePath.resolve (place : List String) : List String → List String
  | [] => place
  | p :: rest =>
    if p = "" ∨ p = "." then resolve place rest
    else if p = ".." then resolve place.dropLast rest
    else resolve (place ++ [p]) rest

/-- The place that a path names from a working directory on: the directory in front of its last
name, and that name there. -/
def FilePath.place (home : List String) (path : FilePath) : List String :=
  FilePath.resolve (if path.isAbsolute then [] else home) path.names.dropLast ++
    path.names.getLast?.toList

namespace FileTree

variable {t made : FileTree} {place names source target : List String} {bytes : List UInt8}
  {path : FilePath}

theorem entryAt_eq_file_iff :
    t.entryAt names = some (.file bytes) ↔ t.fileAt names = some bytes := by
  unfold entryAt fileAt
  cases Table.lookup names t.entries with
  | none =>
    dsimp only
    split
    · exact iff_of_false (fun h => nomatch h) fun h => nomatch h
    · exact iff_of_false (fun h => nomatch h) fun h => nomatch h
  | some e =>
    cases e with
    | file old => simp
    | directory => simp

/-- A walk that ends in a directory ends where its names lead. -/
theorem eq_resolve_of_walk {pieces : List String}
    (h : walk t place pieces = .ok (.directory names)) :
    names = FilePath.resolve place pieces := by
  induction pieces generalizing place with
  | nil =>
    rw [walk] at h
    cases h
    rfl
  | cons p rest ih =>
    rw [walk] at h
    rw [FilePath.resolve]
    split at h
    · rename_i hskip
      rw [if_pos hskip]
      exact ih h
    rename_i hskip
    rw [if_neg hskip]
    split at h
    · rename_i hup
      rw [if_pos hup]
      exact ih h
    rename_i hup
    rw [if_neg hup]
    split at h
    · cases h
    split at h
    · cases h
    · exact ih h
    · split at h
      · cases h
      · cases h

theorem place_of_locate {name : String} (hname : name ≠ "")
    (h : t.locate path = .ok (place, name)) : place ++ [name] = path.place t.home := by
  unfold locate at h
  split at h
  · cases h
  cases hlast : path.names.getLast? with
  | none =>
    rw [hlast] at h
    cases h
    exact absurd rfl hname
  | some last =>
    rw [hlast] at h
    dsimp only at h
    split at h
    · cases h
    · cases h
    · rename_i found hwalk
      split at h
      · cases h
      · cases h
        unfold FilePath.place
        rw [hlast, eq_resolve_of_walk hwalk]
        rfl

/-! ## Trees that agree on files -/

/-- Two trees have one working directory and, outside the places with a property, the same files. -/
structure AgreeOutside (p : List String → Prop) (t t' : FileTree) : Prop where
  home_eq : t'.home = t.home
  fileAt_eq : ∀ names, ¬p names → t'.fileAt names = t.fileAt names

/-- No place. -/
def nowhere (_ : List String) : Prop := False

namespace AgreeOutside

variable {p q : List String → Prop} {t₁ t₂ t₃ : FileTree}

theorem refl (p : List String → Prop) (t : FileTree) : AgreeOutside p t t :=
  ⟨rfl, fun _ _ => rfl⟩

theorem trans (h₁ : AgreeOutside p t₁ t₂) (h₂ : AgreeOutside p t₂ t₃) : AgreeOutside p t₁ t₃ :=
  ⟨h₂.home_eq.trans h₁.home_eq,
    fun names hnames => (h₂.fileAt_eq names hnames).trans (h₁.fileAt_eq names hnames)⟩

theorem mono (h : AgreeOutside p t₁ t₂) (hpq : ∀ names, p names → q names) :
    AgreeOutside q t₁ t₂ :=
  ⟨h.home_eq, fun names hnames => h.fileAt_eq names fun hp => hnames (hpq names hp)⟩

theorem of_nowhere (h : AgreeOutside nowhere t₁ t₂) : AgreeOutside p t₁ t₂ :=
  h.mono fun _ hfalse => hfalse.elim

end AgreeOutside

/-! ## Single changes -/

theorem fileAt_congr (h : Table.lookup names made.entries = Table.lookup names t.entries) :
    made.fileAt names = t.fileAt names := by
  unfold fileAt
  rw [h]

theorem fileAt_put_self (t : FileTree) (names : List String) (bytes : List UInt8) :
    (t.put names bytes).fileAt names = some bytes := by
  unfold fileAt put
  rw [Table.lookup_assign_self]

theorem agreeOutside_put (t : FileTree) (names : List String) (bytes : List UInt8) :
    AgreeOutside (· = names) t (t.put names bytes) :=
  ⟨rfl, fun _ hother => fileAt_congr (Table.lookup_assign_of_ne _ _ hother)⟩

theorem agreeOutside_remove (t : FileTree) (names : List String) :
    AgreeOutside (· = names) t (t.remove names) :=
  ⟨rfl, fun _ hother => fileAt_congr (Table.lookup_filter_of_ne hother)⟩

theorem agreeOutside_rename (t : FileTree) (source target : List String) :
    AgreeOutside (fun names => source <+: names ∨ target <+: names) t
      (t.rename source target) := by
  refine ⟨rfl, fun other hother => ?_⟩
  have hlookup (entries : List (List String × FileEntry)) :
      Table.lookup other (entries.map fun e =>
        if source.isPrefixOf e.1 then (target ++ e.1.drop source.length, e.2) else e) =
      Table.lookup other entries := by
    induction entries with
    | nil => rfl
    | cons e rest ih =>
      rw [List.map_cons]
      split
      · rename_i hprefix
        have hold : e.1 ≠ other := by
          rintro rfl
          exact hother (.inl (List.isPrefixOf_iff_prefix.1 hprefix))
        have hnew : target ++ e.1.drop source.length ≠ other := by
          rintro rfl
          exact hother (.inr (List.prefix_append _ _))
        rw [Table.lookup, if_neg hnew, Table.lookup, if_neg hold, ih]
      · rw [Table.lookup, Table.lookup, ih]
  exact fileAt_congr (hlookup t.entries)

theorem agreeOutside_of_makeOne (h : t.makeOne path = .ok made) :
    AgreeOutside nowhere t made := by
  unfold makeOne at h
  split at h
  · cases h
  rename_i place name hlocate
  split at h
  · cases h
  rename_i hfree
  cases h
  refine ⟨rfl, fun other _ => ?_⟩
  by_cases hother : other = place ++ [name]
  · have hnone : Table.lookup other t.entries = none := by
      cases hfound : Table.lookup other t.entries with
      | none => rfl
      | some e =>
        refine absurd (.inr (.inr ?_)) hfree
        unfold entryAt
        rw [← hother, hfound]
        rfl
    unfold fileAt
    rw [Table.lookup_append_of_none hnone, hnone, hother, Table.lookup, if_pos rfl]
  · exact fileAt_congr (Table.lookup_append_singleton_of_ne hother)

/-! ## Making directories -/

theorem agreeOutside_tolerate {made : Except FileProblem FileTree}
    (h : ∀ t', made = .ok t' → AgreeOutside nowhere t t') :
    AgreeOutside nowhere t (t.tolerate path made).tree := by
  unfold tolerate
  split
  · rename_i t'
    exact h t' rfl
  · split
    · exact .refl _ t
    · exact .refl _ t

theorem agreeOutside_makeWay (t : FileTree) (slashes : Nat) (names : List String) :
    AgreeOutside nowhere t (t.makeWay slashes names).tree := by
  induction names with
  | nil => exact .refl _ t
  | cons last before ih =>
    rw [makeWay]
    dsimp only
    split
    · split
      · exact ih
      · exact ih.trans (agreeOutside_tolerate fun _ h => agreeOutside_of_makeOne h)
    · exact agreeOutside_tolerate fun _ h => agreeOutside_of_makeOne h

theorem agreeOutside_makeDirectory (t : FileTree) (path : FilePath) :
    AgreeOutside nowhere t (t.makeDirectory path).tree :=
  agreeOutside_makeWay t path.slashes path.names.reverse

/-! ## Saving -/

/-- What saving bytes under a path comes to: something stands against it and no file is touched, or
the place of the path holds the bytes and no other file is touched. -/
inductive Saves (t : FileTree) (path : FilePath) (bytes : List UInt8) : Attempt → Prop where
  | refused {made : FileTree} (fault : FileFault) (agree : AgreeOutside nowhere t made) :
    Saves t path bytes { tree := made, fault := some fault }
  | saved {made : FileTree} (holds : made.fileAt (path.place t.home) = some bytes)
    (agree : AgreeOutside (· = path.place t.home) t made) :
    Saves t path bytes { tree := made }

theorem saves_writeFile (t : FileTree) (path : FilePath) (bytes : List UInt8) :
    Saves t path bytes (t.writeFile path bytes) := by
  unfold writeFile
  split
  · exact .refused _ (.refl _ t)
  rename_i place name hlocate
  split
  · exact .refused _ (.refl _ t)
  rename_i hname
  split
  · exact .refused _ (.refl _ t)
  · rw [place_of_locate (fun hempty => hname (.inl hempty)) hlocate]
    exact .saved (fileAt_put_self _ _ _) (agreeOutside_put _ _ _)

/-- **Saving is all or nothing.** Either something stands against it and no file is touched, or the
bytes stand in the place that the path names and no other file is touched. -/
theorem saves_save (t : FileTree) (path : FilePath) (bytes : List UInt8) :
    Saves t path bytes (t.save path bytes) := by
  unfold save
  split
  · exact saves_writeFile t path bytes
  have hway := agreeOutside_makeDirectory t path.parent
  generalize t.makeDirectory path.parent = way at hway
  obtain ⟨made, fault⟩ := way
  cases fault with
  | some fault => exact .refused fault hway
  | none =>
    have hhome : made.home = t.home := hway.home_eq
    have h := saves_writeFile made path bytes
    show Saves t path bytes (made.writeFile path bytes)
    generalize made.writeFile path bytes = attempt at h
    cases h with
    | refused fault hagree => exact .refused fault (hway.trans hagree)
    | saved hholds hagree =>
      rw [hhome] at hholds hagree
      exact .saved hholds (hway.of_nowhere.trans hagree)

/-- Nothing stands against saving over a file of the working directory. -/
theorem save_over_file {name : String} {old : List UInt8} (hempty : name ≠ "") (hup : name ≠ "..")
    (hname : name.utf8ByteSize ≤ nameLimit)
    (hpath : (FilePath.mk 0 [name]).write.utf8ByteSize < pathLimit)
    (hold : t.fileAt (t.home ++ [name]) = some old) (bytes : List UInt8) :
    t.save ⟨0, [name]⟩ bytes = { tree := t.put (t.home ++ [name]) bytes } := by
  have hlocate : t.locate ⟨0, [name]⟩ = .ok (t.home, name) := by
    unfold locate
    rw [if_neg (Nat.not_le.2 hpath)]
    exact if_neg (Nat.not_lt.2 hname)
  have hhere : (FilePath.mk 0 [name]).parent.isHere = true := rfl
  unfold save
  rw [if_pos hhere, writeFile, hlocate]
  dsimp only
  rw [if_neg (not_or.2 ⟨hempty, hup⟩), entryAt_eq_file_iff.2 hold]

end FileTree

end FormPress
