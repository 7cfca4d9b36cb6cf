import FormPress.Text.Quoted
import FormPress.Text.Similarity

/-!
# Command-line arguments

How the words of a command line split into options and positional arguments. An option has a long
name and maybe a short one, and takes a value or none; values come with an equals sign, directly
after a short name, or as the next word. Two dashes end the options.
-/

namespace FormPress.Command

/-- An option that a command knows. Names are written with their dashes. -/
structure OptionSpec where
  long : String
  short : Option Char := none
  takesValue : Bool := false
deriving DecidableEq, Repr

/-- What can be wrong with a command line. -/
inductive UsageFault where
  | noSuchOption (name : String) (similar : List String)
  | valueMissing (name : String)
  | valueRefused (name : String)
  | noSuchCommand (name : String) (similar : List String)
  | commandMissing
  | argumentMissing
  | pathMissing (place path : String)
  | pathIsDirectory (place path : String)
  | extraArguments (words : List String)
deriving DecidableEq, Repr

/-- A hint at similar names. -/
def hint : List String → String
  | [] => ""
  | [name] => " Did you mean " ++ Text.Quoted.write name ++ "?"
  | names =>
    let sorted := names.mergeSort fun a b => decide (a ≤ b)
    " (Did you mean one of: " ++ Text.join ", " (sorted.map Text.Quoted.write) ++ "?)"

def UsageFault.message : UsageFault → String
  | .noSuchOption name similar =>
    "No such option " ++ Text.Quoted.write name ++ "." ++ hint similar
  | .valueMissing name => "Option " ++ Text.Quoted.write name ++ " requires an argument."
  | .valueRefused name => "Option " ++ Text.Quoted.write name ++ " does not take a value."
  | .noSuchCommand name similar =>
    "No such command " ++ Text.Quoted.write name ++ "." ++ hint similar
  | .commandMissing => "Missing command."
  | .argumentMissing => "Missing argument 'FORM'."
  | .pathMissing place path =>
    "Invalid value for " ++ place ++ ": File " ++ Text.Quoted.write path ++ " does not exist."
  | .pathIsDirectory place path =>
    "Invalid value for " ++ place ++ ": File " ++ Text.Quoted.write path ++ " is a directory."
  | .extraArguments [word] => "Got unexpected extra argument (" ++ word ++ ")"
  | .extraArguments words => "Got unexpected extra arguments (" ++ Text.join " " words ++ ")"

/-- A fault is told together with how the command is used, unless the value of an option is at
fault. -/
def UsageFault.showsUsage : UsageFault → Bool
  | .valueMissing _ => false
  | .valueRefused _ => false
  | _ => true

/-- An option as given: its long name, and its value if it takes one. -/
structure Given where
  name : String
  value : Option String
deriving DecidableEq, Repr

/-- A word that is an option: a dash and more. -/
def isOption (word : String) : Bool :=
  Text.startsWith word "-" && word != "-"

/-- The value of an option from the words that follow it. -/
def takeValue (name : String) : List String → Except UsageFault (String × List String)
  | [] => .error (.valueMissing name)
  | v :: rest => .ok (v, rest)

/-- A word with a long name. -/
def readLong (spec : OptionSpec) (explicit : Option String)
    (rest : List String) : Except UsageFault (List Given × List String) :=
  match spec.takesValue, explicit with
  | true, some v => .ok ([⟨spec.long, some v⟩], rest)
  | true, none => (takeValue spec.long rest).map fun p => ([⟨spec.long, some p.1⟩], p.2)
  | false, some _ => .error (.valueRefused spec.long)
  | false, none => .ok ([⟨spec.long, none⟩], rest)

/-- The short names of a word, one after another; the first that takes a value takes what is left of
the word, or the next word. -/
def readShorts (specs : List OptionSpec) : List Char → List String →
    Except UsageFault (List Given × List String)
  | [], rest => .ok ([], rest)
  | c :: more, rest =>
    let name := "-" ++ String.singleton c
    match specs.find? (·.short == some c) with
    | none => .error (.noSuchOption name [])
    | some spec =>
      if spec.takesValue then
        if more.isEmpty then
          (takeValue name rest).map fun p => ([⟨spec.long, some p.1⟩], p.2)
        else .ok ([⟨spec.long, some (String.ofList more)⟩], rest)
      else (readShorts specs more rest).map fun p => (⟨spec.long, none⟩ :: p.1, p.2)

/-- An option word with the words after it. -/
def readOption (specs : List OptionSpec) (word : String) (rest : List String) :
    Except UsageFault (List Given × List String) :=
  let (name, explicit) :=
    match Text.splitFirst '=' word.toList with
    | some (name, value) => (String.ofList name, some (String.ofList value))
    | none => (word, none)
  match specs.find? (·.long == name) with
  | some spec => readLong spec explicit rest
  | none =>
    if Text.startsWith word "--" then
      .error (.noSuchOption name (Text.closeMatches name (specs.map OptionSpec.long)))
    else readShorts specs (word.toList.drop 1) rest

/-- Options and positional arguments. Unless options may follow arguments, the first argument ends
the options. The fuel is the number of words. -/
def splitWords (specs : List OptionSpec) (mixed : Bool) :
    Nat → List String → Except UsageFault (List Given × List String)
  | 0, words => .ok ([], words)
  | _ + 1, [] => .ok ([], [])
  | fuel + 1, word :: rest =>
    if word = "--" then .ok ([], rest)
    else if isOption word then
      match readOption specs word rest with
      | .error fault => .error fault
      | .ok (given, rest) =>
        (splitWords specs mixed fuel rest).map fun p => (given ++ p.1, p.2)
    else if mixed then (splitWords specs mixed fuel rest).map fun p => (p.1, word :: p.2)
    else .ok ([], word :: rest)

/-- The last value that an option was given. -/
def lastValue? (given : List Given) (name : String) : Option String :=
  (given.reverse.find? (·.name == name)).bind Given.value

def hasOption (given : List Given) (name : String) : Bool :=
  given.any (·.name == name)

end FormPress.Command
