import FormPress.Files.Basic
import FormPress.Json.Display
import FormPress.Log
import FormPress.Settings.Environment
import FormPress.Text.Utf8
import FormPress.Toml.Reader

/-!
# Loading settings

Settings come from a TOML file and from the environment, which wins key by key; what neither gives
has its default. A file that is required must be there; otherwise the environment alone will do. A
directory counts as an empty file.
-/

namespace FormPress

mutual

/-- A TOML value as JSON. No setting takes a moment, and none takes a list, so a moment stands as an
empty one. -/
def Toml.toJson : Toml → Json
  | .string s => .string s
  | .int i => .int i
  | .float x => .float x
  | .bool b => .bool b
  | .moment _ => .array []
  | .array items => .array (Toml.itemsToJson items)
  | .table entries => .object (Toml.entriesToJson entries)

def Toml.itemsToJson : List Toml → List Json
  | [] => []
  | v :: rest => v.toJson :: Toml.itemsToJson rest

def Toml.entriesToJson : List (String × Toml) → List (String × Json)
  | [] => []
  | (k, v) :: rest => (k, v.toJson) :: Toml.entriesToJson rest

end

/-- Why a settings file cannot be used. -/
inductive SettingsFileFault where
  | undecodable (fault : Text.Utf8.Fault)
  | badToml (fault : Toml.Fault)
  | badVariable (fault : Settings.BadVariable)
deriving DecidableEq, Repr

def SettingsFileFault.message : SettingsFileFault → String
  | .undecodable fault => fault.message
  | .badToml fault => fault.message
  | .badVariable fault => fault.message

/-- Why there are no settings. -/
inductive SettingsFault where
  | notFound (path : String)
  | badFile (path : String) (fault : SettingsFileFault)
  | invalid (faults : List Decode.Fault)
  | badEnvironment (given : Json) (faults : List Decode.Fault)
  | badVariable (fault : Settings.BadVariable)

namespace Settings

/-- The value at the end of a path, as far as the path leads. -/
def valueAt : List Decode.Step → Json → Json
  | [], v => v
  | .key k :: path, v => (v.member? k).elim v (valueAt path)
  | .index _ :: _, v => v

/-- As many characters in front as fit into a number of bytes. -/
def fittingFront : Nat → List Char → List Char
  | _, [] => []
  | budget, c :: rest =>
    if c.utf8Size ≤ budget then c :: fittingFront (budget - c.utf8Size) rest else []

/-- A text of more than fifty bytes without its middle. -/
def shortened (s : String) : String :=
  if s.utf8ByteSize ≤ 50 then s
  else
    String.ofList (fittingFront 25 s.toList) ++ "..." ++
      String.ofList (fittingFront 24 s.toList.reverse).reverse

/-- A fault in a full report: where, what, and the value at fault. -/
def reportLines (given : Json) (f : Decode.Fault) : String :=
  let v := valueAt f.path given
  let place := Text.join "." (f.path.map Decode.Step.text)
  (if f.path.isEmpty then "" else "\n" ++ place) ++ "\n  " ++ f.cause.message ++ " [type=" ++
    f.cause.tag ++ ", input_value=" ++ shortened v.displayInner ++ ", input_type=" ++
    v.kindName ++ "]"

/-- A full report of the faults of given values. -/
def report (given : Json) (faults : List Decode.Fault) : String :=
  Text.decimal faults.length ++
    (if faults.length = 1 then " validation error" else " validation errors") ++
    " for CompilerSettings" ++ Text.concat (faults.map (reportLines given))

def entriesOf : FileEntry → Except SettingsFileFault (List (String × Json))
  | .directory => .ok []
  | .file bytes =>
    match Text.Utf8.decode bytes with
    | .error fault => .error (.undecodable fault)
    | .ok text =>
      match Toml.read (String.ofList text) with
      | .error fault => .error (.badToml fault)
      | .ok entries => .ok (Toml.entriesToJson entries)

/-- The values that a settings file and the environment give together. -/
def gather (entry : FileEntry) (env : Environment) :
    Except SettingsFileFault (List (String × Json)) :=
  match entriesOf entry with
  | .error fault => .error fault
  | .ok entries =>
    match fromEnvironment env with
    | .error fault => .error (.badVariable fault)
    | .ok values => .ok (overlayMembers (ownSpellingFrom [] entries) values)

/-- Settings from a file that must be there, and the environment. -/
def loadFile (path : String) (entry : Option FileEntry) (env : Environment) :
    Except SettingsFault Settings :=
  match entry with
  | none => .error (.notFound path)
  | some entry =>
    match gather entry env with
    | .error fault => .error (.badFile path fault)
    | .ok values =>
      match checkOwn values with
      | .valid s => .ok s
      | .invalid faults => .error (.invalid faults)

/-- Settings from the environment alone. -/
def ofEnvironment (env : Environment) : Except SettingsFault Settings :=
  match fromEnvironment env with
  | .error fault => .error (.badVariable fault)
  | .ok values =>
    match checkOwn values with
    | .valid s => .ok s
    | .invalid faults => .error (.badEnvironment (.object values) faults)

/-- The line that says that a settings file is read. -/
def loadingLine (path : String) : LogLine :=
  ⟨.info, .settings, "Loading configuration file: " ++ path⟩

/-- Settings from a file, if it is there, and the environment; the log says which it was. -/
def load (path : String) (entry : Option FileEntry) (env : Environment) :
    Logged (Except SettingsFault Settings) :=
  match entry with
  | some entry =>
    if path = "" then pure (ofEnvironment env)
    else do
      Logged.write (loadingLine path)
      return loadFile path (some entry) env
  | none => do
    if path ≠ "" then
      Logged.tell .debug .settings ("Configuration file " ++ path ++ " not found, using defaults")
    return ofEnvironment env

end Settings

def SettingsFault.message : SettingsFault → String
  | .notFound path => "Configuration file not found: " ++ path
  | .badFile path fault => "Invalid configuration file " ++ path ++ ": " ++ fault.message
  | .invalid faults => "Configuration validation failed:" ++ Decode.indentedLines faults
  | .badEnvironment given faults =>
    "Configuration validation failed: " ++ Settings.report given faults
  | .badVariable fault => fault.message

end FormPress
