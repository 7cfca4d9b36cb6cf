import FormPress.Command.Arguments

/-!
# Invocations

What a command line asks for. Options before the name of a command are for all commands: which file
has the settings, and how much the console shows. Each command works on one form file.
-/

namespace FormPress.Command

inductive Task where
  | compile | check | pages
deriving DecidableEq, Repr

def Task.name : Task → String
  | .compile => "compile"
  | .check => "check"
  | .pages => "pages"

def Task.all : List Task :=
  [.compile, .check, .pages]

def Task.ofName? (name : String) : Option Task :=
  Task.all.find? (·.name == name)

def helpOption : OptionSpec := { long := "--help" }

def commonOptions : List OptionSpec :=
  [{ long := "--config", short := some 'c', takesValue := true },
   { long := "--verbose", short := some 'v' }, helpOption]

def Task.options : Task → List OptionSpec
  | .compile =>
    [{ long := "--output", short := some 'o', takesValue := true }, { long := "--strict" },
     { long := "--no-embed-logo" }, helpOption]
  | .check => [helpOption]
  | .pages => [helpOption]

/-- How a command is used, in one line; without a command, how the program is. -/
def usageLine : Option Task → String
  | none => "Usage: cli [OPTIONS] COMMAND [ARGS]..."
  | some task => "Usage: cli " ++ task.name ++ " [OPTIONS] FORM"

/-- Where help is to be had. -/
def helpHint : Option Task → String
  | none => "Try 'cli --help' for help."
  | some task => "Try 'cli " ++ task.name ++ " --help' for help."

def helpText : Option Task → String
  | none =>
    usageLine none ++ "\n\n" ++
    "  formforge - compile form specifications into standalone HTML documents.\n\n" ++
    "Options:\n" ++
    "  -c, --config TEXT  Configuration file path\n" ++
    "  -v, --verbose      Log debug messages to the console\n" ++
    "  --help             Show this message and exit.\n\n" ++
    "Commands:\n" ++
    "  check    Report dangling field references and dependency cycles in FORM.\n" ++
    "  compile  Compile FORM (a JSON form export) into an HTML document.\n" ++
    "  pages    Print the page partition of FORM.\n"
  | some .compile =>
    usageLine (some .compile) ++ "\n\n" ++
    "  Compile FORM (a JSON form export) into an HTML document.\n\n" ++
    "Options:\n" ++
    "  -o, --output FILE  Output HTML file\n" ++
    "  --strict           Reject dangling references and dependency cycles\n" ++
    "  --no-embed-logo    Reference the logo by URL\n" ++
    "  --help             Show this message and exit.\n"
  | some .check =>
    usageLine (some .check) ++ "\n\n" ++
    "  Report dangling field references and dependency cycles in FORM.\n\n" ++
    "Options:\n  --help  Show this message and exit.\n"
  | some .pages =>
    usageLine (some .pages) ++ "\n\n" ++
    "  Print the page partition of FORM.\n\n" ++
    "Options:\n  --help  Show this message and exit.\n"

/-- A usage fault as the console shows it. -/
def UsageFault.text (task : Option Task) (fault : UsageFault) : String :=
  (if fault.showsUsage then usageLine task ++ "\n" ++ helpHint task ++ "\n\n" else "") ++
    "Error: " ++ fault.message ++ "\n"

/-- What the part of a command line before and with the name of a command asks for. -/
inductive Opening where
  | help
  | helpForLack
  | run (config : String) (verbose : Bool) (task : Task) (words : List String)
deriving DecidableEq, Repr

/-- The fault of a name that no command has. -/
def unknownCommand (name : String) : UsageFault :=
  .noSuchCommand name (Text.closeMatches name (Task.all.map Task.name))

/-- What stands in the place of a command without being the name of one. A word that looks like an
option is taken for one that came too late. -/
def refuseCommand (word : String) (words : List String) : Except UsageFault Opening :=
  if Text.startsWith word "-" then
    match splitWords commonOptions false (words.length + 1) (word :: words) with
    | .error fault => .error fault
    | .ok (given, _) =>
      if hasOption given "--help" then .ok .help else .error (unknownCommand word)
  else .error (unknownCommand word)

/-- Read a command line up to the name of the command. -/
def readOpening (words : List String) : Except UsageFault Opening :=
  if words.isEmpty then .ok .helpForLack
  else
    match splitWords commonOptions false words.length words with
    | .error fault => .error fault
    | .ok (given, rest) =>
      if hasOption given "--help" then .ok .help
      else
        match rest with
        | [] => .error .commandMissing
        | word :: more =>
          match Task.ofName? word with
          | none => refuseCommand word more
          | some task =>
            .ok (.run ((lastValue? given "--config").getD "formforge.toml")
              (hasOption given "--verbose") task more)

/-- What the words after the name of a command ask for. -/
structure Request where
  form : String
  output : Option String := none
  strict : Bool := false
  embedLogo : Bool := true
deriving DecidableEq, Repr

/-- What stands under a path, as far as a command line is concerned. No system takes a path that is
`unusable`. -/
inductive PathKind where
  | file | directory | nothing | unusable
deriving DecidableEq, Repr

/-- Why the words after the name of a command are refused. -/
inductive Refusal where
  | usage (fault : UsageFault)
  | unusablePath
deriving DecidableEq, Repr

/-- Check the path of the output, where nothing need stand. -/
def checkOutput (kind : String → PathKind) (path : String) : Except Refusal Unit :=
  match kind path with
  | .unusable => .error .unusablePath
  | .directory => .error (.usage (.pathIsDirectory "'--output' / '-o'" path))
  | .file | .nothing => .ok ()

/-- Check the words for a form file and nothing after it. -/
def readForm (kind : String → PathKind) : List String → Except Refusal String
  | [] => .error (.usage .argumentMissing)
  | form :: extra =>
    match kind form with
    | .unusable => .error .unusablePath
    | .nothing => .error (.usage (.pathMissing "'FORM'" form))
    | .directory => .error (.usage (.pathIsDirectory "'FORM'" form))
    | .file => if extra.isEmpty then .ok form else .error (.usage (.extraArguments extra))

/-- Read the words after the name of a command; `none` asks for help. The output is checked before
the form. -/
def readRequest (kind : String → PathKind) (task : Task) (words : List String) :
    Except Refusal (Option Request) :=
  match splitWords task.options true words.length words with
  | .error fault => .error (.usage fault)
  | .ok (given, rest) =>
    if hasOption given "--help" then .ok none
    else do
      let output := lastValue? given "--output"
      output.forM (checkOutput kind)
      let form ← readForm kind rest
      return some { form := form, output := output, strict := hasOption given "--strict",
                    embedLogo := !hasOption given "--no-embed-logo" }

end FormPress.Command
