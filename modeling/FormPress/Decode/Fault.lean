import FormPress.Json.Reader

/-!
# Faults

A document that does not fit is refused with every fault in it. A fault is a path into the document
and a cause; its wording is made here and nowhere else.
-/

namespace FormPress.Decode

/-- A step of a path into a document. -/
inductive Step where
  | key (name : String)
  | index (i : Nat)
deriving DecidableEq, Repr

def Step.text : Step → String
  | .key name => name
  | .index i => Text.decimal i

/-- What a number must satisfy. -/
inductive Bound where
  | atLeast (limit : Int)
  | atMost (limit : Int)
  | above (limit : Int)
  | below (limit : Int)
deriving DecidableEq, Repr

/-- What is wrong at a place of a document. -/
inductive Cause where
  | missing
  | notText
  | brokenText
  | notBool
  | unreadableBool
  | notInt
  | unreadableInt
  | fractionalInt
  | oversizedInt
  | notFinite
  | notNumber
  | unreadableNumber
  | outOfBounds (bound : Bound)
  | notOneOf (words : List String)
  | notArray
  | notObject
  | notSection (name : String)
  | unknownKey
  | notUrl
  | badUrl (reason : String)
  | badUrlScheme
  | oversizedUrl (limit : Nat)
  | blankLanguage
  | badJson (fault : Json.SyntaxFault)
deriving DecidableEq, Repr

/-- Words in quotes, with `or` before the last. -/
def alternatives : List String → String
  | [] => ""
  | [w] => "'" ++ w ++ "'"
  | [v, w] => "'" ++ v ++ "' or '" ++ w ++ "'"
  | w :: rest => "'" ++ w ++ "', " ++ alternatives rest

def Bound.message : Bound → String
  | .atLeast n => "Input should be greater than or equal to " ++ Text.decimalInt n
  | .atMost n => "Input should be less than or equal to " ++ Text.decimalInt n
  | .above n => "Input should be greater than " ++ Text.decimalInt n
  | .below n => "Input should be less than " ++ Text.decimalInt n

def Cause.message : Cause → String
  | .missing => "Field required"
  | .notText => "Input should be a valid string"
  | .brokenText =>
    "Input should be a valid string, unable to parse raw data as a unicode string"
  | .notBool => "Input should be a valid boolean"
  | .unreadableBool => "Input should be a valid boolean, unable to interpret input"
  | .notInt => "Input should be a valid integer"
  | .unreadableInt => "Input should be a valid integer, unable to parse string as an integer"
  | .fractionalInt => "Input should be a valid integer, got a number with a fractional part"
  | .oversizedInt => "Unable to parse input string as an integer, exceeded maximum size"
  | .notFinite => "Input should be a finite number"
  | .notNumber => "Input should be a valid number"
  | .unreadableNumber => "Input should be a valid number, unable to parse string as a number"
  | .outOfBounds bound => bound.message
  | .notOneOf words => "Input should be " ++ alternatives words
  | .notArray => "Input should be a valid array"
  | .notObject => "Input should be an object"
  | .notSection name => "Input should be a valid dictionary or instance of " ++ name
  | .unknownKey => "Extra inputs are not permitted"
  | .notUrl => "URL input should be a string or URL"
  | .badUrl reason => "Input should be a valid URL, " ++ reason
  | .badUrlScheme => "URL scheme should be 'http' or 'https'"
  | .oversizedUrl limit => "URL should have at most " ++ Text.decimal limit ++ " characters"
  | .blankLanguage => "Value error, language cannot be empty"
  | .badJson fault => "Invalid JSON: " ++ fault.message

/-- The short name of a bound in a full report. -/
def Bound.tag : Bound → String
  | .atLeast _ => "greater_than_equal"
  | .atMost _ => "less_than_equal"
  | .above _ => "greater_than"
  | .below _ => "less_than"

/-- The short name of a cause in a full report. -/
def Cause.tag : Cause → String
  | .missing => "missing"
  | .notText => "string_type"
  | .brokenText => "string_unicode"
  | .notBool => "bool_type"
  | .unreadableBool => "bool_parsing"
  | .notInt => "int_type"
  | .unreadableInt => "int_parsing"
  | .fractionalInt => "int_from_float"
  | .oversizedInt => "int_parsing_size"
  | .notFinite => "finite_number"
  | .notNumber => "float_type"
  | .unreadableNumber => "float_parsing"
  | .outOfBounds bound => bound.tag
  | .notOneOf _ => "enum"
  | .notArray => "list_type"
  | .notObject => "model_type"
  | .notSection _ => "model_type"
  | .unknownKey => "extra_forbidden"
  | .notUrl => "url_type"
  | .badUrl _ => "url_parsing"
  | .badUrlScheme => "url_scheme"
  | .oversizedUrl _ => "url_too_long"
  | .blankLanguage => "value_error"
  | .badJson _ => "json_invalid"

/-- A cause at the end of a path. -/
structure Fault where
  path : List Step
  cause : Cause
deriving DecidableEq, Repr

/-- A fault seen from one step further out. -/
def Fault.under (step : Step) (f : Fault) : Fault :=
  { f with path := step :: f.path }

/-- The path of a fault as text. -/
def Fault.location (f : Fault) : String :=
  Text.join " -> " (f.path.map Step.text)

def Fault.line (f : Fault) : String :=
  f.location ++ ": " ++ f.cause.message

/-- Faults as the indented lines of a message. -/
def indentedLines (faults : List Fault) : String :=
  Text.concat (faults.map fun f => "\n  - " ++ f.line)

end FormPress.Decode
