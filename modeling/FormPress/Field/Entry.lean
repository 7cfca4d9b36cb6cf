import FormPress.Field.Formula
import FormPress.Field.View

/-!
# Entry fields

Controls for one text, number, date or file, and their relatives: phone numbers with a country code,
amounts with a currency sign, ranges of two dates, values looked up in a table and values computed
by a formula.
-/

namespace FormPress.FieldView

open Markup

def inputOf (slots : Slots) : Markup :=
  .void "input" slots.attributes

/-- An input of a type that browsers know. -/
def nativeInput (v : FieldView) (type : String) : Markup :=
  inputOf (v.control (some type))

/-- An input for a file of some media types. -/
def fileInput (v : FieldView) (accept : String) : Markup :=
  inputOf ((v.control (some "file")).override
    [("placeholder", none), ("value", none), ("accept", some accept)])

/-- A hidden input, which carries the marks of its group itself. -/
def hiddenInput (v : FieldView) : Markup :=
  inputOf
    [("type", some "hidden"), ("id", some v.field.id), ("name", some v.field.name),
     ("value", given? v.field.defaultValue), ("data-field-id", some v.field.id),
     ("data-field-name", some v.field.name), ("data-conditions", given? (some v.field.rulesText))]

/-- Several lines of text. -/
def textArea (v : FieldView) (rows : String) (changes : Slots) : Markup :=
  label "textarea"
    (((v.control none).override [("value", none), ("rows", some rows)]).override changes).attributes
    (v.field.defaultValue.getD "")

/-- A text area of four lines. -/
def longText (v : FieldView) : Markup :=
  v.textArea "4" []

def placeholderOr (v : FieldView) (standing : String) : String :=
  (given? v.field.placeholder).getD standing

/-- A text area of three lines with a placeholder of its own. -/
def address (v : FieldView) : Markup :=
  v.textArea "3" [("placeholder", some (v.placeholderOr "Street address, city, state, zip"))]

/-- The country codes that a phone field offers, each with its country. -/
def countryCodes : List (String × String) :=
  [("+91", "IN"), ("+1", "US"), ("+44", "GB"), ("+971", "AE"), ("+65", "SG"), ("+63", "PH"),
   ("+33", "FR"), ("+49", "DE"), ("+81", "JP"), ("+86", "CN"), ("+61", "AU"), ("+34", "ES")]

/-- The code that is chosen at first. -/
def defaultCountryCode : String := "+91"

def countryOption (entry : String × String) : Markup :=
  label "option" (attr "value" entry.1 :: bareIf "selected" (entry.1 == defaultCountryCode))
    (entry.2 ++ " " ++ entry.1)

/-- A phone number: its country code, its digits, and a hidden input with both. -/
def phone (v : FieldView) : Markup :=
  let digits := (v.control (some "tel")).override
    [("id", some (v.field.id ++ "_number")), ("name", some v.field.rawName), ("value", none),
     ("min", none), ("max", none), ("step", none), ("accept", none),
     ("class", some "form-input phone-number-input"), ("data-phone-raw", some ""),
     ("placeholder", some (v.placeholderOr "Phone number"))]
  block 0 "div" [attr "class" "phone-input-group", attr "data-phone-for" v.field.id]
    [block 2 "select"
      ([attr "id" (v.field.id ++ "_code"), attr "class" "form-input country-code-select",
        attr "aria-label" "Country code", bare "data-phone-code"] ++
        bareIf "disabled" v.field.isDisabled)
      (countryCodes.map countryOption),
     inputOf digits,
     .void "input" [attr "type" "hidden", attr "id" v.field.id, attr "name" v.field.name]]

/-- An amount behind its currency sign. -/
def currency (v : FieldView) : Markup :=
  block 0 "div" [attr "class" "currency-input-group"]
    [label "span" [attr "class" "currency-symbol"] "$",
     inputOf ((v.control (some "number")).override
      [("placeholder", some (v.placeholderOr "0.00")),
       ("step", some ((v.field.step.map Binary64.label).getD "0.01")),
       ("minlength", none), ("maxlength", none), ("pattern", none), ("accept", none),
       ("class", some "form-input currency-input")])]

def rangeDate (v : FieldView) (part title : String) : Markup :=
  .void "input"
    ([attr "type" "date", attr "id" (v.field.id ++ "_" ++ part),
      attr "name" (v.field.name ++ "_" ++ part), attr "class" "form-input date-range-input",
      attr "aria-label" title] ++
      bareIf "required" v.field.isRequired ++ bareIf "disabled" v.field.isDisabled)

/-- Two dates with an arrow between them. -/
def dateRange (v : FieldView) : Markup :=
  block 0 "div" [attr "class" "date-range-group"]
    [v.rangeDate "start" "Start date",
     .element "span" [attr "class" "date-range-separator", attr "aria-hidden" "true"]
      [.entity "rarr"],
     v.rangeDate "end" "End date"]

/-- The source of a lookup: the id of the field that its reference names, or the reference. -/
def lookupSource (l : Lookup) (fields : List Field) : String :=
  match resolve? fields l.sourceId with
  | some f => f.id
  | none => l.sourceId

/-- The table of a lookup as a JSON object. -/
def lookupJson (table : List (String × String)) : Json :=
  .object (table.map fun e => (e.1, .string e.2))

/-- A value found in a table. -/
def lookup (v : FieldView) (fields : List Field) : Markup :=
  let source := (v.field.lookup.map fun l => lookupSource l fields).getD ""
  let table := (v.field.lookup.map (·.table)).getD []
  inputOf ((v.control (some "text")).override
    [("readonly", some ""), ("class", some "form-input lookup-field"),
     ("data-lookup-source", given? (some source)),
     ("data-lookup-map", some ((lookupJson table).write Json.compact))])

/-- A computed value. -/
def formula (v : FieldView) (fields : List Field) : Markup :=
  let expression := (v.field.formula.map fun f => Formula.resolve f.expression fields).getD ""
  inputOf ((v.control (some "text")).override
    [("readonly", some ""), ("required", none), ("class", some "form-input formula-field"),
     ("data-formula", given? (some expression))])

end FormPress.FieldView
