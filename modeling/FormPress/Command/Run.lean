import FormPress.Command.Invocation
import FormPress.Command.LogFile
import FormPress.Document.Compile
import FormPress.Form.File
import FormPress.Image.Embed
import FormPress.Settings.Load
import FormPress.Text.Slug

/-!
# Running a command

A run is a function of the command line and of what surrounds it: files, variables, the network.
It reaches out twice: it has the log opened, and goes on with the files as they are then; and a run
that wants to save a document hands it over and goes on with what became of it.
-/

namespace FormPress.Command

/-- What stands under a path once some lines are in the log; the path may be that of the log. -/
abbrev Look := List LogLine → String → Except FileProblem FileEntry

structure Surroundings where
  look : Look
  environment : Environment
  network : Network

/-- What stops a command on its way. -/
inductive Failure where
  | log (fault : LogFault)
  | settings (fault : SettingsFault)
  | form (fault : FormFault)
  | references (fault : ReferenceFault)
  | number (fault : NumberFault)
  | image (fault : Image.AddressFault)
  | file (fault : FileFault)
  | unencodable
  | unusablePath

def Failure.message : Failure → String
  | .log fault => fault.message
  | .settings fault => fault.message
  | .form fault => fault.message
  | .references fault => fault.message
  | .number fault => fault.message
  | .image fault => fault.message
  | .file fault => fault.message
  | .unencodable => "surrogates not allowed"
  | .unusablePath => "embedded null byte"

/-- A failure that a command expects and reports. -/
def Failure.isExpected : Failure → Bool
  | .log _ => false
  | .settings (.badVariable _) => false
  | .settings _ => true
  | .form (.undecodable _) => false
  | .form _ => true
  | .references _ => true
  | .number _ => false
  | .image _ => false
  | .file _ => false
  | .unencodable => false
  | .unusablePath => false

/-- What a run leaves: an exit code, what it printed, what it complained about after its log lines,
those lines if the log was opened, and the failure that it did not expect. -/
structure Outcome where
  exitCode : Nat := 0
  printed : String := ""
  complaint : String := ""
  lines : Option (List LogLine) := none
  verbose : Bool := false
  unexpected : Option Failure := none

/-- What a run wants to save: a text, or one with half a surrogate pair, which no file can hold. -/
inductive Content where
  | text (s : String)
  | unencodable
deriving DecidableEq, Repr

/-- Why a run could not save. -/
inductive SaveFault where
  | file (fault : FileFault)
  | unencodable
deriving DecidableEq, Repr

def SaveFault.failure : SaveFault → Failure
  | .file fault => .file fault
  | .unencodable => .unencodable

/-- A run up to its end, or up to where it reaches out. Where it saves, the lines so far are in the
log. -/
inductive Run where
  | done (outcome : Outcome)
  | openLog (resume : Except LogFault Look → Run)
  | save (lines : List LogLine) (path : FilePath) (content : Content)
    (resume : Option SaveFault → Outcome)

/-- A line that the console shows: all with `verbose`, else those that are not for debugging. -/
def isShown (verbose : Bool) (l : LogLine) : Bool :=
  verbose || l.level != .debug

/-- What a run writes to standard error. -/
def Outcome.console (o : Outcome) : String :=
  Text.concat (((o.lines.getD []).filter (isShown o.verbose)).map fun l => showLine l ++ "\n") ++
    o.complaint

/-- An error as the console shows it. -/
def errorText (message : String) : String :=
  "Error: " ++ message ++ "\n"

/-- A path with a null character in it, which no system takes. -/
def isUnusable (path : String) : Bool :=
  path.toList.contains '\x00'

/-- The kind of what stands under a path before anything is in the log. -/
def Surroundings.kind (w : Surroundings) (path : String) : PathKind :=
  if isUnusable path then .unusable
  else
    match w.look [] path with
    | .ok (.file _) => .file
    | .ok .directory => .directory
    | .error _ => .nothing

/-- What stands under a path once it is brought to its short form and some lines are in the log. A
name that is too long is a failure; anything else that is in the way means that nothing is there. -/
def Surroundings.present? (w : Surroundings) (lines : List LogLine) (path : String) :
    Except Failure (Option FileEntry) :=
  let short := (FilePath.read path).write
  if isUnusable short then .ok none
  else
    match w.look lines short with
    | .ok entry => .ok (some entry)
    | .error .nameTooLong => .error (.file ⟨.nameTooLong, short⟩)
    | .error _ => .ok none

/-- Load the settings. That their file is read is in the log by then. -/
def Surroundings.loadSettings (w : Surroundings) (config : String) :
    Logged (Except Failure Settings) :=
  let present :=
    if config = "" then .ok none else w.present? [Settings.loadingLine config] config
  match present with
  | .error failure => pure (.error failure)
  | .ok entry => do
    return (← Settings.load config entry w.environment).mapError .settings

/-- Load the form when some lines are in the log. -/
def Surroundings.loadForm (w : Surroundings) (lines : List LogLine) (path : String) :
    Logged (Except Failure Form) :=
  match w.present? lines path with
  | .error failure => pure (.error failure)
  | .ok entry => do
    return (← Form.load path (FilePath.read path).write entry).mapError .form

/-- Load settings and form, in this order. -/
def Surroundings.loadBoth (w : Surroundings) (config path : String) :
    Logged (Except Failure (Settings × Form)) := do
  let loaded := w.loadSettings config
  match ← loaded with
  | .error failure => return .error failure
  | .ok settings =>
    match ← w.loadForm loaded.lines path with
    | .error failure => return .error failure
    | .ok form => return .ok (settings, form)

/-- The file of a document: the one asked for, or one named after the title of the form. -/
def documentPath (r : Request) (form : Form) : FilePath :=
  match r.output.filter (· != "") with
  | some path => FilePath.read path
  | none => FilePath.read (Text.slug form.title form.id ++ ".html")

/-- The loaded settings with what the request asks for. -/
def Request.settings (r : Request) (loaded : Settings) : Settings :=
  if r.strict then { loaded with strict := true } else loaded

/-- A document as a file would hold it. -/
def contentOf (form : Form) (settings : Settings) (document : String) : Content :=
  if (form.submissionPlan settings).result.isEncodable then .text document else .unencodable

/-- The document of a form with the file for it. -/
def Surroundings.prepare (w : Surroundings) (config : String) (r : Request) :
    Logged (Except Failure (FilePath × Content)) := do
  match ← w.loadBoth config r.form with
  | .error failure => return .error failure
  | .ok (loaded, form) =>
    let settings := r.settings loaded
    match ← form.logo settings r.embedLogo w.network with
    | .error fault => return .error (.image fault)
    | .ok logo =>
      settings.announceLanguage
      match ← form.compile settings logo with
      | .error (.references fault) => return .error (.references fault)
      | .error (.number fault) => return .error (.number fault)
      | .ok document => return .ok (documentPath r form, contentOf form settings document)

/-- The end of a compilation that failed. Failures of files are told as failures to write. -/
def compileFailed (verbose : Bool) (lines : List LogLine) (failure : Failure) : Outcome :=
  let told (head : String) : Outcome := {
    exitCode := 1
    complaint := errorText failure.message
    lines := some (lines ++ [⟨.error, .command, head ++ failure.message⟩])
    verbose := verbose }
  match failure with
  | .file _ => told "Failed to write output: "
  | _ =>
    if failure.isExpected then told "Compilation failed: "
    else { exitCode := 1, lines := some lines, verbose := verbose, unexpected := some failure }

/-- The end of a compilation whose document was to be saved. -/
def saveEnded (verbose : Bool) (lines : List LogLine) (path : FilePath) :
    Option SaveFault → Outcome
  | some fault => compileFailed verbose lines fault.failure
  | none => { printed := path.write ++ "\n", lines := some lines, verbose := verbose }

/-- Compile a form and save the document. -/
def Surroundings.compile (w : Surroundings) (config : String) (verbose : Bool) (r : Request) :
    Run :=
  let prepared := w.prepare config r
  match prepared.result with
  | .error failure => .done (compileFailed verbose prepared.lines failure)
  | .ok (path, content) =>
    if isUnusable path.write then .done (compileFailed verbose prepared.lines .unusablePath)
    else .save prepared.lines path content (saveEnded verbose prepared.lines path)

/-- The end of a command that could not load its form. -/
def loadFailed (verbose : Bool) (lines : List LogLine) (failure : Failure) : Outcome :=
  if failure.isExpected then
    { exitCode := 1, complaint := errorText failure.message, lines := some lines,
      verbose := verbose }
  else { exitCode := 1, lines := some lines, verbose := verbose, unexpected := some failure }

/-- Report the references of a form that lead nowhere or in a circle. -/
def Surroundings.check (w : Surroundings) (config : String) (verbose : Bool) (r : Request) :
    Outcome :=
  let loaded := w.loadBoth config r.form
  match loaded.result with
  | .error failure => loadFailed verbose loaded.lines failure
  | .ok (_, form) =>
    let checked := form.checkReferences false
    let base : Outcome := { lines := some (loaded.lines ++ checked.lines), verbose := verbose }
    match checked.result with
    | .error _ => base
    | .ok report =>
      if report.isClean then { base with printed := form.id ++ ": ok\n" }
      else
        { base with exitCode := 1, printed := Text.concat (report.lines.map (· ++ "\n")) }

/-- Print which fields are on which page. -/
def Surroundings.pages (w : Surroundings) (config : String) (verbose : Bool) (r : Request) :
    Outcome :=
  let loaded := w.loadBoth config r.form
  match loaded.result with
  | .error failure => loadFailed verbose loaded.lines failure
  | .ok (_, form) =>
    let rows := (paginate form.fields).map fun p =>
      Text.decimal (p.index + 1) ++ "\t" ++ Text.join ", " (p.fields.map Field.id) ++ "\n"
    { printed := "page\tfields\n" ++ Text.concat rows, lines := some loaded.lines,
      verbose := verbose }

def Surroundings.perform (w : Surroundings) (config : String) (verbose : Bool) (r : Request) :
    Task → Run
  | .compile => w.compile config verbose r
  | .check => .done (w.check config verbose r)
  | .pages => .done (w.pages config verbose r)

/-- Run a task with the words after its name. -/
def Surroundings.runTask (w : Surroundings) (config : String) (verbose : Bool) (task : Task)
    (words : List String) : Run :=
  match readRequest w.kind task words with
  | .error (.usage fault) =>
    .done
      { exitCode := 2, complaint := fault.text (some task), lines := some [], verbose := verbose }
  | .error .unusablePath =>
    .done { exitCode := 1, lines := some [], verbose := verbose, unexpected := some .unusablePath }
  | .ok none => .done { printed := helpText (some task), lines := some [], verbose := verbose }
  | .ok (some r) => w.perform config verbose r task

/-- Run a command line. The log is opened once the name of a command has been read, before the words
after it. -/
def start (environment : Environment) (network : Network) (words : List String) : Run :=
  match readOpening words with
  | .error fault => .done { exitCode := 2, complaint := fault.text none }
  | .ok .help => .done { printed := helpText none }
  | .ok .helpForLack => .done { exitCode := 2, complaint := helpText none }
  | .ok (.run config verbose task rest) =>
    .openLog fun
      | .error fault => .done { exitCode := 1, unexpected := some (.log fault) }
      | .ok look => Surroundings.runTask ⟨look, environment, network⟩ config verbose task rest

/-! ## Runs over a file tree -/

/-- The tree after a run: with its lines in the log, if that was opened. The first of them may be
there already. -/
def Outcome.record (o : Outcome) (stamp : String) (known : Nat) (tree : FileTree) : FileTree :=
  addToLog stamp ((o.lines.getD []).drop known) tree

/-- What stands in a tree once some lines are in its log. -/
def lookInto (stamp : String) (tree : FileTree) : Look :=
  fun lines path => (addToLog stamp lines tree).find path

/-- The bytes that get into an open file. -/
def Content.bytes : Content → List UInt8
  | .text s => Text.Utf8.encode s
  | .unencodable => []

/-- What stands against a content once its file is open. -/
def Content.fault : Content → Option SaveFault
  | .text _ => none
  | .unencodable => some .unencodable

/-- Save a content. The file for one that cannot be encoded is opened, and stays empty. -/
def saveContent (tree : FileTree) (path : FilePath) (content : Content) :
    FileTree × Option SaveFault :=
  let attempt := tree.save path content.bytes
  (attempt.tree, (attempt.fault.map .file).or content.fault)

/-- End a run over a file tree: the outcome, and the tree with the log and with the document, if it
could be saved. -/
def Run.settle (stamp : String) (tree : FileTree) : Run → Outcome × FileTree
  | .done outcome => (outcome, outcome.record stamp 0 tree)
  | .openLog resume =>
    match withLog tree with
    | .error fault => (resume (.error fault)).settle stamp tree
    | .ok tree => (resume (.ok (lookInto stamp tree))).settle stamp tree
  | .save lines path content resume =>
    let (saved, fault) := saveContent (addToLog stamp lines tree) path content
    (resume fault, (resume fault).record stamp lines.length saved)

end FormPress.Command
