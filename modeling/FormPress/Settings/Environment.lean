import FormPress.Json.Reader
import FormPress.Settings.Check

/-!
# Settings in the environment

Variables whose names begin with `FORMFORGE_`, in any case. A single setting has a variable of its
own; a section has one that holds a JSON object, and one for each key, after two underscores. The
variables of single keys win over the object.
-/

namespace FormPress

/-- Variables with their values. -/
abbrev Environment := List (String × String)

namespace Settings

/-- The head of the names of all variables, in small letters. -/
def variableHead : String := "formforge_"

/-- The settings that stand alone. -/
def plainKeys : List String :=
  ["language", "strict", "allow_raw_html", "font_stylesheet_url"]

def sectionKeys : List (String × List String) :=
  [("persistence", ["enabled", "url", "api_key"]), ("sheets_relay", ["url", "api_key"]),
   ("images", ["embed_logo", "timeout"])]

/-- The variables by their names in small letters; of equal names the last value stays. -/
def foldNames (env : Environment) : Environment :=
  Table.ofEntries (env.map fun (name, value) => (foldName name, value))

/-- Split at double underscores, from the left. -/
def splitNested : List Char → List (List Char)
  | [] => [[]]
  | '_' :: '_' :: rest => [] :: splitNested rest
  | c :: rest =>
    match splitNested rest with
    | [] => [[c]]
    | piece :: pieces => (c :: piece) :: pieces

/-- Enter a text behind a path of keys; nothing changes where something else than an object stands
on the way. -/
def enterAt (value : String) : List String → List (String × Json) → List (String × Json)
  | [], ms => ms
  | [last], ms => Table.assign last (.string value) ms
  | key :: path, ms =>
    match Table.lookup key ms with
    | none => Table.assign key (.object (enterAt value path [])) ms
    | some (.object inner) => Table.assign key (.object (enterAt value path inner)) ms
    | some _ => ms

/-- The values of a section that have variables of their own. -/
def nestedValues (env : Environment) (title : String) : List (String × Json) :=
  let head := (variableHead ++ title ++ "__").toList
  env.foldl (fun ms (name, value) =>
      if head.isPrefixOf name.toList then
        enterAt value ((splitNested (name.toList.drop head.length)).map String.ofList) ms
      else ms)
    []

mutual

/-- The later value over the earlier: objects are merged key by key, all else is replaced. -/
def overlay : Json → Json → Json
  | .object old, .object new => .object (overlayMembers old new)
  | _, new => new

/-- The later members over the earlier, whose order stays. -/
def overlayMembers (old : List (String × Json)) :
    List (String × Json) → List (String × Json)
  | [] => old
  | (key, v) :: rest =>
    overlayMembers (Table.assign key
      (match Table.lookup key old with
        | some w => overlay w v
        | none => v) old) rest

end

/-- The keys of a section in their own spelling, whatever their case. -/
def ownSpelling (keys : List String) (ms : List (String × Json)) : List (String × Json) :=
  Table.ofEntries (ms.map fun (name, v) =>
    if keys.contains (foldName name) then (foldName name, v) else (name, v))

/-- A section whose variable holds no JSON. -/
structure BadVariable where
  title : String
deriving DecidableEq, Repr

/-- The wording of the fault. -/
def BadVariable.message (b : BadVariable) : String :=
  "error parsing value for field \"" ++ b.title ++ "\" from source \"EnvSettingsSource\""

/-- The value in a variable of a section: any JSON text whose integers are not too long, and of
which each key counts once. -/
def readVariable (text : String) : Except Json.SyntaxFault Json :=
  (Json.read { Json.Allowance.ofLength text.length with integerDigits := Number.digitLimit }
    text).map Json.distinctKeys

/-- What the environment gives for a section. A variable that holds `null` counts as none, and then
so do those of single keys. -/
def sectionValue (env : Environment) (title : String) (keys : List String) :
    Except BadVariable (Option Json) :=
  let nested := nestedValues env title
  match Table.lookup (variableHead ++ title) env with
  | none => .ok (if nested.isEmpty then none else some (.object (ownSpelling keys nested)))
  | some text =>
    match readVariable text with
    | .error _ => .error ⟨title⟩
    | .ok .null => .ok none
    | .ok (.object ms) => .ok (some (.object (ownSpelling keys (overlayMembers ms nested))))
    | .ok v => .ok (some v)

def sectionValues (env : Environment) :
    List (String × List String) → Except BadVariable (List (String × Json))
  | [] => .ok []
  | (title, keys) :: rest => do
    let v ← sectionValue env title keys
    let others ← sectionValues env rest
    return (v.map (title, ·)).toList ++ others

/-- The settings that the environment gives, as an object. -/
def fromEnvironment (environment : Environment) : Except BadVariable (List (String × Json)) := do
  let env := foldNames environment
  let plain := plainKeys.filterMap fun key =>
    (Table.lookup (variableHead ++ key) env).map fun value => (key, Json.string value)
  let sections ← sectionValues env sectionKeys
  return plain ++ sections

end Settings

end FormPress
