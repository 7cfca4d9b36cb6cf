import FormPress.Command.Run
import FormPress.Proofs.Command.LogFile
import FormPress.Proofs.Document.Compile
import FormPress.Proofs.Result

/-!
# The compile command is all or nothing, but for texts that no file holds

A run of the compile command that ends well has put the document in the place of its path and
touched no other file beside the log. A run that fails has touched no file beside the log, with one
exception: where a document was compiled but cannot be encoded, its file has been opened and stays
empty.
-/

namespace FormPress.Command

open FileTree (AgreeOutside)

variable {w : Surroundings} {config : String} {verbose : Bool} {r : Request} {tree after : FileTree}
  {place : List String} {bytes : List UInt8} {path : FilePath}

/-! ## What a run puts into a tree -/

/-- A place holds the bytes, and beside it and the log no file is touched. -/
structure PutsOnly (tree after : FileTree) (place : List String) (bytes : List UInt8) : Prop where
  holds : after.fileAt place = some bytes
  agree : AgreeOutside (fun names => names = place ∨ IsLogPlace tree.home names) tree after

theorem PutsOnly.of_logOnly {opened : FileTree} (hlog : LogOnly tree opened)
    (h : PutsOnly opened after place bytes) : PutsOnly tree after place bytes := by
  refine ⟨h.holds, ?_⟩
  have hagree := h.agree
  rw [hlog.home_eq] at hagree
  exact (hlog.mono fun _ => .inr).trans hagree

theorem logOnly_record (o : Outcome) (stamp : String) (known : Nat) (tree : FileTree) :
    LogOnly tree (o.record stamp known tree) :=
  logOnly_addToLog stamp _ tree

/-- Saving a content comes to nothing and a fault is told, or the bytes of the content stand in its
place and the only fault is that of the content. -/
theorem saveContent_cases (tree : FileTree) (path : FilePath) (content : Content) :
    (∃ fault, (saveContent tree path content).2 = some (.file fault) ∧
      AgreeOutside FileTree.nowhere tree (saveContent tree path content).1) ∨
    ((saveContent tree path content).2 = content.fault ∧
      (saveContent tree path content).1.fileAt (path.place tree.home) = some content.bytes ∧
      AgreeOutside (· = path.place tree.home) tree (saveContent tree path content).1) := by
  have hsave := FileTree.saves_save tree path content.bytes
  unfold saveContent
  dsimp only
  generalize tree.save path content.bytes = attempt at hsave
  cases hsave with
  | refused fault hagree => exact .inl ⟨fault, rfl, hagree⟩
  | saved hholds hagree => exact .inr ⟨rfl, hholds, hagree⟩

/-! ## Preparing a document -/

/-- Settings and form are loaded, the logo is resolved, and the form compiles to a document. -/
structure Compiles (w : Surroundings) (config : String) (r : Request) (form : Form)
    (settings : Settings) (document : String) : Prop where
  loaded : ∃ given, (w.loadBoth config r.form).result = .ok (given, form) ∧
    settings = r.settings given
  compiled : ∃ logo, (form.logo settings r.embedLogo w.network).result = .ok logo ∧
    (form.compile settings logo).result = .ok document

theorem prepare_eq_ok_iff {content : Content} :
    (w.prepare config r).result = .ok (path, content) ↔
      ∃ form settings document, Compiles w config r form settings document ∧
        path = documentPath r form ∧ content = contentOf form settings document := by
  unfold Surroundings.prepare
  rw [Logged.result_bind]
  constructor
  · intro h
    cases hload : (w.loadBoth config r.form).result with
    | error failure =>
      rw [hload] at h
      cases h
    | ok loaded =>
      obtain ⟨given, form⟩ := loaded
      rw [hload] at h
      dsimp only at h
      rw [Logged.result_bind] at h
      cases hlogo : (form.logo (r.settings given) r.embedLogo w.network).result with
      | error fault =>
        rw [hlogo] at h
        cases h
      | ok logo =>
        rw [hlogo] at h
        dsimp only at h
        rw [Logged.result_bind, Logged.result_bind] at h
        cases hcompile : (form.compile (r.settings given) logo).result with
        | error fault =>
          rw [hcompile] at h
          cases fault with
          | references fault => cases h
          | number fault => cases h
        | ok document =>
          rw [hcompile] at h
          cases h
          exact ⟨form, r.settings given, document, ⟨⟨given, hload, rfl⟩, logo, hlogo, hcompile⟩,
            rfl, rfl⟩
  · rintro ⟨form, _, document, ⟨⟨given, hload, rfl⟩, logo, hlogo, hcompile⟩, rfl, rfl⟩
    rw [hload]
    dsimp only
    rw [Logged.result_bind, hlogo]
    dsimp only
    rw [Logged.result_bind, Logged.result_bind, hcompile]
    rfl

theorem exitCode_compileFailed (verbose : Bool) (lines : List LogLine) (failure : Failure) :
    (compileFailed verbose lines failure).exitCode = 1 := by
  unfold compileFailed
  dsimp only
  split
  · rfl
  · split
    · rfl
    · rfl

theorem exitCode_compileFailed_ne_zero (verbose : Bool) (lines : List LogLine)
    (failure : Failure) : (compileFailed verbose lines failure).exitCode ≠ 0 := by
  rw [exitCode_compileFailed]
  exact nofun

theorem fault_contentOf_iff {form : Form} {settings : Settings} {document : String} :
    (contentOf form settings document).fault = none ↔
      (form.submissionPlan settings).result.isEncodable = true := by
  unfold contentOf
  split
  · exact iff_of_true rfl ‹_›
  · exact iff_of_false nofun ‹_›

/-- Where a run has no lines beside those that are known, recording it changes nothing. -/
theorem record_of_lines_eq {o : Outcome} {lines : List LogLine} (h : o.lines = some lines)
    (stamp : String) (tree : FileTree) : o.record stamp lines.length tree = tree := by
  unfold Outcome.record
  rw [h, Option.getD_some, List.drop_length]
  rfl

/-! ## Runs -/

/-- Saving as the last step of a run: no file is touched beside the log, or the bytes of the content
stand in their place; then all is well exactly where the content can be encoded. -/
theorem settle_save_cases (stamp : String) (tree : FileTree) (verbose : Bool)
    (lines : List LogLine) (path : FilePath) (content : Content) :
    let run := (Run.save lines path content (saveEnded verbose lines path)).settle stamp tree
    (run.1.exitCode ≠ 0 ∧ LogOnly tree run.2) ∨
    (PutsOnly tree run.2 (path.place tree.home) content.bytes ∧
      (run.1.exitCode = 0 ↔ content.fault = none) ∧
      (run.1.exitCode = 0 → run.1.printed = path.write ++ "\n")) := by
  rw [Run.settle]
  dsimp only
  have hlog : LogOnly tree (addToLog stamp lines tree) := logOnly_addToLog stamp lines tree
  have hsaved := saveContent_cases (addToLog stamp lines tree) path content
  generalize saveContent (addToLog stamp lines tree) path content = saved at hsaved
  obtain ⟨saved, fault⟩ := saved
  rcases hsaved with ⟨fault, rfl, hagree⟩ | ⟨rfl, hholds, hagree⟩
  · exact .inl ⟨exitCode_compileFailed_ne_zero _ _ _,
      (hlog.trans (.of_nowhere hagree)).trans (logOnly_record _ stamp _ _)⟩
  rw [hlog.home_eq] at hholds hagree
  have hputs : PutsOnly tree saved (path.place tree.home) content.bytes :=
    .of_logOnly hlog ⟨hholds, hagree.mono fun _ => .inl⟩
  refine .inr ⟨?_, ?_⟩
  · rw [record_of_lines_eq]
    · exact hputs
    · cases content with
      | text s => rfl
      | unencodable => rfl
  · cases content with
    | text s => exact ⟨iff_of_true rfl rfl, fun _ => rfl⟩
    | unencodable =>
      have hfailed := exitCode_compileFailed_ne_zero verbose lines .unencodable
      exact ⟨iff_of_false hfailed nofun, fun h => absurd h hfailed⟩

theorem compile_of_prepare {content : Content} (verbose : Bool)
    (h : (w.prepare config r).result = .ok (path, content))
    (husable : isUnusable path.write = false) :
    w.compile config verbose r = .save (w.prepare config r).lines path content
      (saveEnded verbose (w.prepare config r).lines path) := by
  unfold Surroundings.compile
  dsimp only
  rw [h]
  dsimp only
  rw [husable, if_neg Bool.false_ne_true]

/-- The ways in which compiling can end: no file is touched beside the log, or a document was
compiled and its file written; then all is well exactly where the document can be encoded. -/
theorem settle_compile_cases (w : Surroundings) (config : String) (verbose : Bool) (r : Request)
    (stamp : String) (tree : FileTree) :
    let run := (w.compile config verbose r).settle stamp tree
    (run.1.exitCode ≠ 0 ∧ LogOnly tree run.2) ∨
    ∃ form settings document, Compiles w config r form settings document ∧
      PutsOnly tree run.2 ((documentPath r form).place tree.home)
        (contentOf form settings document).bytes ∧
      (run.1.exitCode = 0 ↔ (contentOf form settings document).fault = none) ∧
      (run.1.exitCode = 0 → run.1.printed = (documentPath r form).write ++ "\n") := by
  have hfailed (lines : List LogLine) (failure : Failure) :
      let run := (Run.done (compileFailed verbose lines failure)).settle stamp tree
      run.1.exitCode ≠ 0 ∧ LogOnly tree run.2 :=
    ⟨exitCode_compileFailed_ne_zero _ _ _, logOnly_record _ stamp 0 tree⟩
  cases hprepare : (w.prepare config r).result with
  | error failure =>
    unfold Surroundings.compile
    dsimp only
    rw [hprepare]
    exact .inl (hfailed _ _)
  | ok prepared =>
    obtain ⟨path, content⟩ := prepared
    cases husable : isUnusable path.write with
    | true =>
      unfold Surroundings.compile
      dsimp only
      rw [hprepare]
      dsimp only
      rw [husable, if_pos rfl]
      exact .inl (hfailed _ _)
    | false =>
      rw [compile_of_prepare verbose hprepare husable]
      rcases settle_save_cases stamp tree verbose (w.prepare config r).lines path content with
        hrefused | hsaved
      · exact .inl hrefused
      · obtain ⟨form, settings, document, hcompiles, rfl, rfl⟩ := prepare_eq_ok_iff.1 hprepare
        exact .inr ⟨form, settings, document, hcompiles, hsaved⟩

/-- The words after the name of a command ask for help. -/
def asksForHelp (task : Task) (words : List String) : Bool :=
  match splitWords task.options true words.length words with
  | .error _ => false
  | .ok (given, _) => hasOption given "--help"

theorem exists_request_of_readRequest {kind : String → PathKind} {task : Task}
    {words : List String} {asked : Option Request} (hhelp : asksForHelp task words = false)
    (h : readRequest kind task words = .ok asked) : ∃ r, asked = some r := by
  unfold asksForHelp at hhelp
  unfold readRequest at h
  split at h
  · cases h
  rename_i given rest hsplit
  rw [hsplit] at hhelp
  dsimp only at hhelp
  rw [hhelp, if_neg Bool.false_ne_true] at h
  obtain ⟨-, -, h⟩ := bind_eq_ok.1 h
  obtain ⟨form, -, h⟩ := bind_eq_ok.1 h
  exact ⟨_, (Except.ok.inj h).symm⟩

/-- Once its log is open, a run over a tree reads a request from the words after the name of the
command, and the form of the request compiles to a document. -/
def ReachesDocument (stamp : String) (tree : FileTree) (environment : Environment)
    (network : Network) (config : String) (words : List String) (r : Request) (form : Form)
    (settings : Settings) (document : String) : Prop :=
  ∃ opened, withLog tree = .ok opened ∧
    let w : Surroundings := ⟨lookInto stamp opened, environment, network⟩
    readRequest w.kind .compile words = .ok (some r) ∧ Compiles w config r form settings document

/-- **Compiling is all or nothing, but for keys that no file holds.** Take any run of the compile
command that does not ask for help. If it ends well, the form was loaded and compiled, strictly
where that was asked for; the path of the document is printed, the document stands in the place of
that path, and beside it and the log no file is touched. If it fails, no file is touched beside the
log, or a document was compiled with a key that cannot be encoded: then its file is left empty. -/
theorem compile_allOrNothing (stamp : String) (tree : FileTree) (environment : Environment)
    (network : Network) {words rest : List String} {config : String} {verbose : Bool}
    (hopening : readOpening words = .ok (.run config verbose .compile rest))
    (hhelp : asksForHelp .compile rest = false) :
    let run := (start environment network words).settle stamp tree
    (run.1.exitCode = 0 → ∃ r form settings document,
      ReachesDocument stamp tree environment network config rest r form settings document ∧
      (form.submissionPlan settings).result.isEncodable = true ∧
      run.1.printed = (documentPath r form).write ++ "\n" ∧
      PutsOnly tree run.2 ((documentPath r form).place tree.home)
        (Text.Utf8.encode document)) ∧
    (run.1.exitCode ≠ 0 → LogOnly tree run.2 ∨ ∃ r form settings document,
      ReachesDocument stamp tree environment network config rest r form settings document ∧
      (form.submissionPlan settings).result.isEncodable = false ∧
      PutsOnly tree run.2 ((documentPath r form).place tree.home) []) := by
  unfold start
  rw [hopening]
  dsimp only
  rw [Run.settle]
  cases hopen : withLog tree with
  | error fault =>
    refine ⟨fun h => absurd h nofun, fun _ => .inl ?_⟩
    exact logOnly_record _ stamp 0 tree
  | ok opened =>
    have hlog := logOnly_of_withLog hopen
    dsimp only
    unfold Surroundings.runTask
    cases hread : readRequest
        (Surroundings.mk (lookInto stamp opened) environment network).kind .compile rest with
    | error refusal =>
      cases refusal with
      | usage fault =>
        exact ⟨fun h => absurd h nofun, fun _ => .inl (hlog.trans (logOnly_record _ stamp 0 _))⟩
      | unusablePath =>
        exact ⟨fun h => absurd h nofun, fun _ => .inl (hlog.trans (logOnly_record _ stamp 0 _))⟩
    | ok asked =>
      obtain ⟨r, rfl⟩ := exists_request_of_readRequest hhelp hread
      dsimp only
      rcases settle_compile_cases ⟨lookInto stamp opened, environment, network⟩ config verbose r
        stamp opened with ⟨hexit, hagree⟩ |
          ⟨form, settings, document, hcompiles, hputs, hexit, hprinted⟩
      · exact ⟨fun h => absurd h hexit, fun _ => .inl (hlog.trans hagree)⟩
      · rw [hlog.home_eq] at hputs
        have hreaches : ReachesDocument stamp tree environment network config rest r form settings
          document := ⟨opened, hopen, hread, hcompiles⟩
        refine ⟨fun h => ?_, fun h => .inr ?_⟩
        · have hencodable := fault_contentOf_iff.1 (hexit.1 h)
          refine ⟨r, form, settings, document, hreaches, hencodable, hprinted h, ?_⟩
          rw [contentOf, if_pos hencodable] at hputs
          exact hputs.of_logOnly hlog
        · have hbroken := Bool.eq_false_iff.2 fun hencodable =>
            h (hexit.2 (fault_contentOf_iff.2 hencodable))
          refine ⟨r, form, settings, document, hreaches, hbroken, ?_⟩
          rw [contentOf, if_neg (Bool.eq_false_iff.1 hbroken)] at hputs
          exact hputs.of_logOnly hlog

/-! ## A tree with a document -/

/-- A form without anything in it, and a document. -/
def compiledTree : FileTree :=
  { entries := [(["form.json"], .file (Text.Utf8.encode "\x7b\x7d")),
                (["form.html"], .file (Text.Utf8.encode "<!DOCTYPE html>"))] }

/-- The tree once its log is open. -/
def openedTree : FileTree :=
  { entries := compiledTree.entries ++
      [(["data"], .directory), (["data", "formforge.log"], .file [])] }

def openedSurroundings (environment : Environment) : Surroundings :=
  ⟨lookInto "" openedTree, environment, fun _ => .failure none⟩

theorem readOpening_compile : readOpening ["compile", "form.json"] =
    .ok (.run "formforge.toml" false .compile ["form.json"]) :=
  rfl

theorem not_isLogPlace_document : ¬IsLogPlace [] ["form.html"] := by
  rintro ⟨number, -, h⟩
  exact absurd h.length_le (by simp [logPlace])

/-- Under lenient settings the form is compiled and its file written over the document. -/
theorem settle_compiledTree {environment : Environment} {settings : Settings}
    (hstrict : settings.strict = false)
    (hload : ((openedSurroundings environment).loadBoth "formforge.toml" "form.json").result =
      .ok (settings, {})) :
    let run := (start environment (fun _ => .failure none) ["compile", "form.json"]).settle ""
      compiledTree
    ∃ document, run.1.exitCode = (if (contentOf {} settings document).fault = none then 0 else 1) ∧
      run.2.fileAt ["form.html"] = some (contentOf {} settings document).bytes := by
  have hread : readRequest (openedSurroundings environment).kind .compile ["form.json"] =
      .ok (some { form := "form.json" }) := by
    have h : readRequest (openedSurroundings []).kind .compile ["form.json"] =
        .ok (some { form := "form.json" }) := by
      rw [← toOption_eq_some_iff]
      decide +kernel
    exact h
  have hpath : documentPath { form := "form.json" } {} = ⟨0, ["form.html"]⟩ := by
    decide +kernel
  have husable : isUnusable (FilePath.mk 0 ["form.html"]).write = false := by
    decide +kernel
  have hcheck : (({} : Form).checkReferences settings.strict).result = .ok (.ofFields []) := by
    rw [hstrict]
    exact Form.checkReferences_lenient {}
  obtain ⟨document, hdocument⟩ := Form.exists_compile none hcheck fun _ h => nomatch h
  have hprepare : ((openedSurroundings environment).prepare "formforge.toml"
      { form := "form.json" }).result =
        .ok (⟨0, ["form.html"]⟩, contentOf {} settings document) :=
    prepare_eq_ok_iff.2 ⟨{}, settings, document, ⟨⟨_, hload, rfl⟩, none, rfl, hdocument⟩,
      hpath.symm, rfl⟩
  have hopen : withLog compiledTree = .ok openedTree := rfl
  have hrun := compile_of_prepare false hprepare husable
  refine ⟨document, ?_⟩
  unfold start
  rw [readOpening_compile]
  dsimp only
  rw [Run.settle, hopen]
  dsimp only
  unfold Surroundings.runTask
  rw [← openedSurroundings, hread]
  dsimp only
  rw [Surroundings.perform, hrun, Run.settle]
  dsimp only
  generalize ((openedSurroundings environment).prepare "formforge.toml"
    { form := "form.json" }).lines = lines
  have hlog : LogOnly openedTree (addToLog "" lines openedTree) := logOnly_addToLog _ _ _
  have hhome : (addToLog "" lines openedTree).home = [] := hlog.home_eq
  have hold : (addToLog "" lines openedTree).fileAt
      ((addToLog "" lines openedTree).home ++ ["form.html"]) =
        some (Text.Utf8.encode "<!DOCTYPE html>") := by
    rw [hhome]
    exact hlog.fileAt_eq _ not_isLogPlace_document
  have hsave := FileTree.save_over_file (by decide) (by decide) (by decide +kernel)
    (by decide +kernel) hold (contentOf {} settings document).bytes
  unfold saveContent
  rw [hsave, hhome, record_of_lines_eq]
  · refine ⟨?_, FileTree.fileAt_put_self _ _ _⟩
    cases contentOf {} settings document with
    | text s => rfl
    | unencodable => exact exitCode_compileFailed _ _ _
  · cases contentOf {} settings document with
    | text s => rfl
    | unencodable => rfl

/-- A run without variables ends well, with a document in its place. -/
theorem compile_compiledTree :
    let run := (start [] (fun _ => .failure none) ["compile", "form.json"]).settle "" compiledTree
    run.1.exitCode = 0 ∧ ∃ r form settings document,
      ReachesDocument "" compiledTree [] (fun _ => .failure none) "formforge.toml" ["form.json"] r
        form settings document ∧
      PutsOnly compiledTree run.2 ((documentPath r form).place []) (Text.Utf8.encode document) := by
  have hload : ((openedSurroundings []).loadBoth "formforge.toml" "form.json").result =
      .ok ({}, {}) := by
    rw [← toOption_eq_some_iff]
    decide +kernel
  obtain ⟨document, hexit, -⟩ := settle_compiledTree rfl hload
  have hhelp : asksForHelp .compile ["form.json"] = false := rfl
  have h := compile_allOrNothing "" compiledTree [] (fun _ => .failure none) readOpening_compile
    hhelp
  obtain ⟨r, form, settings, document, hreaches, -, -, hputs⟩ := h.1 hexit
  exact ⟨hexit, r, form, settings, document, hreaches, hputs⟩

/-- A variable that gives the submission logger half a surrogate pair for its key. -/
def brokenKeyEnvironment : Environment :=
  [("FORMFORGE_PERSISTENCE", "\x7b\"api_key\": \"\\ud800\"\x7d")]

def brokenKeySettings : Settings :=
  { persistence := { apiKey := ⟨String.singleton (Char.ofNat 0xFFFD), false⟩ } }

/-- With the variable the command fails, and the document that was there is lost. -/
theorem compile_brokenKey :
    let run := (start brokenKeyEnvironment (fun _ => .failure none)
      ["compile", "form.json"]).settle "" compiledTree
    run.1.exitCode = 1 ∧ ¬IsLogPlace compiledTree.home ["form.html"] ∧
      compiledTree.fileAt ["form.html"] = some (Text.Utf8.encode "<!DOCTYPE html>") ∧
      run.2.fileAt ["form.html"] = some [] := by
  have hload : ((openedSurroundings brokenKeyEnvironment).loadBoth "formforge.toml"
      "form.json").result = .ok (brokenKeySettings, {}) := by
    rw [← toOption_eq_some_iff]
    decide +kernel
  obtain ⟨document, hexit, hfile⟩ := settle_compiledTree rfl hload
  exact ⟨hexit, not_isLogPlace_document, rfl, hfile⟩

end FormPress.Command
