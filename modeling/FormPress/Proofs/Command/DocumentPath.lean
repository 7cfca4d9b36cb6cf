import FormPress.Proofs.Command.Compile
import FormPress.Proofs.Text.Lines
import FormPress.Proofs.Text.Slug

/-!
# Where a document goes when no file is asked for

A document is named after the title of its form, or after the id where the title leaves no stem. The
stem of a title has no slash, so the page lies in the working directory. An id is taken as it is:
its slashes lead elsewhere, unless all of them stand behind dots.
-/

namespace FormPress

namespace FilePath

variable {s way name : String}

/-! ## Names behind slashes -/

theorem pieces_of_notMem (h : '/' ∉ s.toList) : pieces s = [s] := by
  rw [pieces, Text.splitAt_of_notMem h, List.map_singleton, String.ofList_toList]

theorem pieces_append (way name : String) :
    pieces (way ++ "/" ++ name) = pieces way ++ pieces name := by
  have hslash : "/".toList = ['/'] := rfl
  rw [pieces, String.toList_append, String.toList_append, hslash, List.append_assoc,
    List.singleton_append, Text.splitAt_append, List.map_append, pieces, pieces]

theorem startsWith_slash_iff : Text.startsWith s "/" = true ↔ s.toList.head? = some '/' := by
  rw [Text.startsWith, List.isPrefixOf_iff_prefix, List.head?_eq_some_iff]
  exact exists_congr fun rest => eq_comm

theorem slashes_read_eq_zero_iff : (read s).slashes = 0 ↔ s.toList.head? ≠ some '/' := by
  have hread : (read s).slashes = leadingSlashes s := rfl
  rw [hread, leadingSlashes, ne_eq, ← startsWith_slash_iff]
  cases Text.startsWith s "/" with
  | false => exact iff_of_true rfl Bool.false_ne_true
  | true =>
    refine iff_of_false ?_ (not_not.2 rfl)
    rw [Bool.not_true, if_neg Bool.false_ne_true]
    split
    · exact Nat.succ_ne_zero 1
    · exact Nat.succ_ne_zero 0

/-- What stands behind a way has the slashes of the way in front of it. -/
theorem slashes_read_append (hway : way ≠ "") (name : String) :
    (read (way ++ "/" ++ name)).slashes = 0 ↔ (read way).slashes = 0 := by
  have hne : way.toList ≠ [] := fun h => hway (String.toList_inj.1 h)
  obtain ⟨c, rest, hchars⟩ := List.exists_cons_of_ne_nil hne
  rw [slashes_read_eq_zero_iff, slashes_read_eq_zero_iff, String.toList_append,
    String.toList_append, hchars]
  exact Iff.rfl

/-- A name of its own counts among the names of a path. -/
theorem filter_name (hempty : name ≠ "") (hdot : name ≠ ".") :
    [name].filter (fun p => p != "" && p != ".") = [name] := by
  have hcounts : (name != "" && name != ".") = true := by
    rw [Bool.and_eq_true, bne_iff_ne, bne_iff_ne]
    exact ⟨hempty, hdot⟩
  rw [List.filter_singleton, hcounts]
  rfl

/-- The names of a path that ends in a name of its own. -/
theorem names_read_append (hslash : '/' ∉ name.toList) (hempty : name ≠ "") (hdot : name ≠ ".")
    (way : String) : (read (way ++ "/" ++ name)).names = (read way).names ++ [name] := by
  rw [read, pieces_append, pieces_of_notMem hslash, List.filter_append, filter_name hempty hdot,
    read]

/-- A text with a slash is a name behind a way. -/
theorem exists_way_of_mem (h : '/' ∈ s.toList) :
    ∃ way name : String, '/' ∉ name.toList ∧ s = way ++ "/" ++ name := by
  obtain ⟨back, front, hreverse, hback⟩ := List.eq_append_cons_of_mem (List.mem_reverse.2 h)
  have hturned := congrArg List.reverse hreverse
  rw [List.reverse_reverse, List.reverse_append, List.reverse_cons] at hturned
  refine ⟨String.ofList front.reverse, String.ofList back.reverse, ?_, ?_⟩
  · rw [String.toList_ofList, List.mem_reverse]
    exact hback
  · rw [← String.toList_inj, String.toList_append, String.toList_append]
    simp only [String.toList_ofList]
    exact hturned

/-! ## Pages in the working directory -/

/-- A page right in the working directory: one name, made of a stem and the ending. -/
def IsPlainPage (p : FilePath) : Prop :=
  ∃ stem : String, stem ≠ "" ∧ '/' ∉ stem.toList ∧ p = ⟨0, [stem ++ ".html"]⟩

/-- A page in the working directory has its place there. -/
theorem IsPlainPage.place_eq {p : FilePath} (h : p.IsPlainPage) (home : List String) :
    ∃ stem : String, '/' ∉ stem.toList ∧ p.place home = home ++ [stem ++ ".html"] := by
  obtain ⟨stem, -, hslash, rfl⟩ := h
  exact ⟨stem, hslash, rfl⟩

/-- A text names something in the working directory: it is a name, or it ends in one behind a way
that leads nowhere else. -/
inductive NamesHere : String → Prop where
  | name {name : String} : name ≠ "" → '/' ∉ name.toList → NamesHere name
  | behind {way name : String} : way ≠ "" → (read way).isHere = true →
      name ≠ "" → '/' ∉ name.toList → NamesHere (way ++ "/" ++ name)

theorem isHere_iff {p : FilePath} : p.isHere = true ↔ p.slashes = 0 ∧ p.names = [] := by
  rw [isHere, isAbsolute, Bool.and_eq_true, Bool.not_eq_true', bne_eq_false_iff_eq,
    List.isEmpty_iff]

theorem slash_notMem_page (h : '/' ∉ name.toList) : '/' ∉ (name ++ ".html").toList := by
  rw [String.toList_append, List.mem_append, not_or]
  exact ⟨h, by decide⟩

theorem page_ne {other : String} (hother : other.toList.length < ".html".toList.length)
    (name : String) : name ++ ".html" ≠ other := by
  rintro rfl
  rw [String.toList_append, List.length_append] at hother
  omega

theorem eq_of_page_eq {stem : String} (h : stem ++ ".html" = name ++ ".html") : stem = name := by
  rw [← String.toList_inj, String.toList_append, String.toList_append] at h
  exact String.toList_inj.1 (List.append_cancel_right h)

theorem read_page (h : '/' ∉ name.toList) : read (name ++ ".html") = ⟨0, [name ++ ".html"]⟩ := by
  have hslashes : (read (name ++ ".html")).slashes = 0 := by
    rw [slashes_read_eq_zero_iff]
    exact fun hhead => slash_notMem_page h (List.mem_of_head? hhead)
  have hnames : (read (name ++ ".html")).names = [name ++ ".html"] := by
    rw [read, pieces_of_notMem (slash_notMem_page h),
      filter_name (page_ne (by decide) name) (page_ne (by decide) name)]
  rw [← hslashes, ← hnames]

theorem names_page_append (h : '/' ∉ name.toList) (way : String) :
    (read (way ++ "/" ++ name ++ ".html")).names = (read way).names ++ [name ++ ".html"] := by
  rw [String.append_assoc]
  exact names_read_append (slash_notMem_page h) (page_ne (by decide) name)
    (page_ne (by decide) name) way

theorem isPlainPage_name_iff (h : '/' ∉ name.toList) :
    (read (name ++ ".html")).IsPlainPage ↔ name ≠ "" := by
  rw [read_page h]
  constructor
  · rintro ⟨stem, hstem, -, hread⟩
    have hnames := congrArg FilePath.names hread
    rw [eq_of_page_eq (List.singleton_inj.1 hnames)]
    exact hstem
  · exact fun hname => ⟨name, hname, h, rfl⟩

theorem isPlainPage_behind_iff (h : '/' ∉ name.toList) (way : String) :
    (read (way ++ "/" ++ name ++ ".html")).IsPlainPage ↔
      way ≠ "" ∧ (read way).isHere = true ∧ name ≠ "" := by
  have hnames := names_page_append h way
  constructor
  · rintro ⟨stem, hstem, -, hread⟩
    have hslashes := congrArg FilePath.slashes hread
    have hway : way ≠ "" := by
      rintro rfl
      refine slashes_read_eq_zero_iff.1 hslashes ?_
      rw [String.toList_append, String.toList_append]
      rfl
    rw [String.append_assoc, slashes_read_append hway] at hslashes
    rw [hread, ← List.nil_append [stem ++ ".html"]] at hnames
    obtain ⟨hwayNames, hlast⟩ := List.append_inj' hnames rfl
    rw [← eq_of_page_eq (List.singleton_inj.1 hlast)]
    exact ⟨hway, isHere_iff.2 ⟨hslashes, hwayNames.symm⟩, hstem⟩
  · rintro ⟨hway, hhere, hname⟩
    obtain ⟨hwaySlashes, hwayNames⟩ := isHere_iff.1 hhere
    have hslashes : (read (way ++ "/" ++ name ++ ".html")).slashes = 0 := by
      rw [String.append_assoc, slashes_read_append hway]
      exact hwaySlashes
    rw [hwayNames, List.nil_append] at hnames
    exact ⟨name, hname, h, by rw [← hslashes, ← hnames]⟩

/-- **The page named after a text lies in the working directory exactly when the text names
something there.** -/
theorem isPlainPage_read_iff (s : String) : (read (s ++ ".html")).IsPlainPage ↔ NamesHere s := by
  constructor
  · intro h
    by_cases hs : '/' ∈ s.toList
    · obtain ⟨way, name, hslash, rfl⟩ := exists_way_of_mem hs
      obtain ⟨hway, hhere, hname⟩ := (isPlainPage_behind_iff hslash way).1 h
      exact .behind hway hhere hname hslash
    · exact .name ((isPlainPage_name_iff hs).1 h) hs
  · intro h
    cases h with
    | name hname hslash => exact (isPlainPage_name_iff hslash).2 hname
    | behind hway hhere hname hslash =>
      exact (isPlainPage_behind_iff hslash _).2 ⟨hway, hhere, hname⟩

end FilePath

namespace Command

open FilePath (IsPlainPage NamesHere)

variable {r : Request} {form : Form}

/-! ## Names of documents -/

theorem documentPath_of_noOutput (houtput : r.output.getD "" = "") (form : Form) :
    documentPath r form = FilePath.read (Text.slug form.title form.id ++ ".html") := by
  have hnone : r.output.filter (· != "") = none := by
    cases hout : r.output with
    | none => rfl
    | some path =>
      rw [hout] at houtput
      rw [show path = "" from houtput]
      rfl
  rw [documentPath, hnone]

/-- The stem of a title names something in the working directory, and with the id in its place that
depends on the id. -/
theorem namesHere_slug_iff (form : Form) :
    NamesHere (Text.slug form.title form.id) ↔
      (∃ c ∈ form.title.toList, Text.isStemChar c = true) ∨ NamesHere form.id := by
  have hleft : (∃ c ∈ form.title.toList, Text.isStemChar c = true) ↔
      Text.slugChars form.title.toList ≠ [] := by
    rw [ne_eq, Text.slugChars_eq_nil_iff]
    simp
  rw [hleft]
  by_cases hstem : Text.slugChars form.title.toList = []
  · rw [Text.slug_of_eq_nil hstem]
    exact ⟨.inr, fun h => h.resolve_left (absurd hstem)⟩
  · rw [Text.slug_of_ne_nil hstem]
    have hslash : '/' ∉ (String.ofList (Text.slugChars form.title.toList)).toList := by
      rw [String.toList_ofList]
      exact Text.slash_notMem_slugChars _
    have hname : String.ofList (Text.slugChars form.title.toList) ≠ "" := by
      intro h
      rw [← String.toList_inj, String.toList_ofList] at h
      exact hstem h
    exact iff_of_true (.name hname hslash) (.inl hstem)

/-! ## Runs -/

variable {w : Surroundings} {config : String} {given : Settings}

theorem Compiles.form_eq {other : Form} {settings : Settings} {document : String}
    (h : Compiles w config r other settings document)
    (hload : (w.loadBoth config r.form).result = .ok (given, form)) : other = form := by
  obtain ⟨_, hloaded, -⟩ := h.loaded
  rw [hload] at hloaded
  cases hloaded
  rfl

/-- A run of the compile command saves at the path of the document of the form that was loaded. -/
theorem path_of_compile_eq_save {verbose : Bool} {lines : List LogLine} {path : FilePath}
    {content : Content} {resume : Option SaveFault → Outcome}
    (hload : (w.loadBoth config r.form).result = .ok (given, form))
    (hrun : w.compile config verbose r = .save lines path content resume) :
    path = documentPath r form := by
  unfold Surroundings.compile at hrun
  dsimp only at hrun
  split at hrun
  · cases hrun
  · rename_i prepared content hprepare
    split at hrun
    · cases hrun
    · cases hrun
      obtain ⟨other, settings, document, hcompiles, rfl, -⟩ := prepare_eq_ok_iff.1 hprepare
      rw [hcompiles.form_eq hload]

/-- A run whose document is a page in the working directory changes no file elsewhere, but the log.
-/
theorem settle_compile_of_isPlainPage
    (hload : (w.loadBoth config r.form).result = .ok (given, form))
    (hplain : (documentPath r form).IsPlainPage) (verbose : Bool) (stamp : String)
    (tree : FileTree) :
    let run := (w.compile config verbose r).settle stamp tree
    LogOnly tree run.2 ∨ ∃ (stem : String) (bytes : List UInt8), '/' ∉ stem.toList ∧
      PutsOnly tree run.2 (tree.home ++ [stem ++ ".html"]) bytes := by
  rcases settle_compile_cases w config verbose r stamp tree with
    ⟨-, hlog⟩ | ⟨other, settings, document, hcompiles, hputs, -⟩
  · exact .inl hlog
  · obtain ⟨stem, hslash, hplace⟩ := hplain.place_eq tree.home
    rw [hcompiles.form_eq hload, hplace] at hputs
    exact .inr ⟨stem, _, hslash, hputs⟩

/-- **A document without a file of its own stays in the working directory, unless an id leads
elsewhere.** Let a request ask for no file. The path of the document of a form is a stem without
slashes and with something in it, followed by the ending, exactly when the title of the form has a
word character or a hyphen, or the id names something in the working directory. That path is the one
under which every run saves that loads the form, and where it is of this kind, the run touches no
file beside the log and one that lies right in the working directory. -/
theorem isPlainPage_documentPath_iff (houtput : r.output.getD "" = "") (form : Form) :
    ((documentPath r form).IsPlainPage ↔
      (∃ c ∈ form.title.toList, Text.isStemChar c = true) ∨ NamesHere form.id) ∧
    ∀ (w : Surroundings) (config : String) (verbose : Bool) (given : Settings),
      (w.loadBoth config r.form).result = .ok (given, form) →
      (∀ (lines : List LogLine) (path : FilePath) (content : Content)
        (resume : Option SaveFault → Outcome),
        w.compile config verbose r = .save lines path content resume →
        path = documentPath r form) ∧
      ((documentPath r form).IsPlainPage → ∀ (stamp : String) (tree : FileTree),
        let run := (w.compile config verbose r).settle stamp tree
        LogOnly tree run.2 ∨ ∃ (stem : String) (bytes : List UInt8), '/' ∉ stem.toList ∧
          PutsOnly tree run.2 (tree.home ++ [stem ++ ".html"]) bytes) := by
  refine ⟨?_, fun w config verbose given hload => ⟨?_, ?_⟩⟩
  · rw [documentPath_of_noOutput houtput, FilePath.isPlainPage_read_iff, namesHere_slug_iff]
  · intro lines path content resume hrun
    exact path_of_compile_eq_save hload hrun
  · intro hplain stamp tree
    exact settle_compile_of_isPlainPage hload hplain verbose stamp tree

theorem loadBoth_openedSurroundings :
    ((openedSurroundings []).loadBoth "formforge.toml" "form.json").result = .ok ({}, {}) := by
  rw [← toOption_eq_some_iff]
  decide +kernel

/-- A form without anything in it is compiled and saved. -/
theorem exists_compile_eq_save : ∃ lines path content resume,
    (openedSurroundings []).compile "formforge.toml" false { form := "form.json" } =
      .save lines path content resume := by
  have hcheck : (({} : Form).checkReferences ({} : Settings).strict).result = .ok (.ofFields []) :=
    Form.checkReferences_lenient {}
  obtain ⟨document, hdocument⟩ := Form.exists_compile none hcheck (List.forall_mem_nil _)
  have hprepare : ((openedSurroundings []).prepare "formforge.toml"
      { form := "form.json" }).result =
        .ok (documentPath { form := "form.json" } {}, contentOf {} {} document) :=
    prepare_eq_ok_iff.2 ⟨{}, {}, document,
      ⟨⟨{}, loadBoth_openedSurroundings, rfl⟩, none, rfl, hdocument⟩, rfl, rfl⟩
  have husable : isUnusable (documentPath { form := "form.json" } {}).write = false := by
    decide +kernel
  exact ⟨_, _, _, _, compile_of_prepare false hprepare husable⟩

/-- A title full of slashes, an id behind a dot, and a form without anything in it: their pages lie
in the working directory. -/
theorem isPlainPage_documentPath_trips :
    ({ form := "form.json" } : Request).output.getD "" = "" ∧
    (documentPath { form := "form.json" } { title := "../etc/Trip", id := "sub/dir" }).IsPlainPage ∧
    (documentPath { form := "form.json" } { id := "./lead_form" }).IsPlainPage ∧
    (∃ lines path content resume,
      (openedSurroundings []).compile "formforge.toml" false { form := "form.json" } =
        .save lines path content resume ∧ path = documentPath { form := "form.json" } {}) ∧
    let run := ((openedSurroundings []).compile "formforge.toml" false
      { form := "form.json" }).settle "" openedTree
    LogOnly openedTree run.2 ∨ ∃ (stem : String) (bytes : List UInt8), '/' ∉ stem.toList ∧
      PutsOnly openedTree run.2 [stem ++ ".html"] bytes := by
  refine ⟨rfl, ?_, ?_, ?_⟩
  · refine (isPlainPage_documentPath_iff rfl _).1.2 (.inl ⟨'T', ?_, ?_⟩)
    · decide
    · decide +kernel
  · refine (isPlainPage_documentPath_iff rfl _).1.2 (.inr ?_)
    exact @NamesHere.behind "." "lead_form" (by decide) (by decide +kernel) (by decide) (by decide)
  · obtain ⟨hplain, hruns⟩ := isPlainPage_documentPath_iff (r := { form := "form.json" }) rfl {}
    obtain ⟨hpath, htouched⟩ := hruns _ _ false _ loadBoth_openedSurroundings
    obtain ⟨lines, path, content, resume, hsave⟩ := exists_compile_eq_save
    refine ⟨⟨lines, path, content, resume, hsave, hpath _ _ _ _ hsave⟩, ?_⟩
    exact htouched (hplain.2 (.inr (.name (by decide) (by decide)))) "" openedTree

/-- An id with a slash leads into another directory. -/
theorem documentPath_subdirectory :
    documentPath { form := "form.json" } { id := "sub/dir" } = ⟨0, ["sub", "dir.html"]⟩ ∧
    ¬(documentPath { form := "form.json" } { id := "sub/dir" }).IsPlainPage := by
  have hpath : documentPath { form := "form.json" } { id := "sub/dir" } =
      ⟨0, ["sub", "dir.html"]⟩ := by
    decide +kernel
  refine ⟨hpath, ?_⟩
  rw [hpath]
  rintro ⟨stem, -, -, h⟩
  have hlength := congrArg (fun p => p.names.length) h
  exact Nat.succ_ne_self 1 hlength

end Command

end FormPress
