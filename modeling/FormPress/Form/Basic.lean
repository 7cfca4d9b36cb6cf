import FormPress.Form.Vocabulary
import FormPress.Number.Binary64
import FormPress.Json.Basic

/-!
# Forms

A form as its author describes it: texts, fields with their options and rules, theme, entrance
animations, page layout, and where submissions go. All values are immutable; defaults stand in the
structures themselves. Optional values that were given as `null` or not at all are `none`.
-/

namespace FormPress

/-- A condition on one option: shown when the named field compares so with the value. -/
structure ChoiceRule where
  fieldId : String := ""
  operator : Operator := .equals
  value : String := ""
deriving DecidableEq, Repr

/-- One option of a choice field. -/
structure Choice where
  label : String := ""
  value : String := ""
  address : Option String := none
  rule : Option ChoiceRule := none
deriving DecidableEq, Repr

/-- The option values shown when the source field has a certain value. -/
structure ChoiceGroup where
  sourceValue : String := ""
  visible : List String := []
deriving DecidableEq, Repr

/-- Options that depend on the value of a source field, in groups. -/
structure DependentChoices where
  sourceId : String := ""
  customSourceValues : List String := []
  groups : List ChoiceGroup := []
deriving DecidableEq, Repr

/-- A rule of a field: when the condition on another field holds, do the action. -/
structure Rule where
  dependsOn : String
  operator : Operator := .equals
  value : String := ""
  action : RuleAction := .reveal
  actionValue : Option String := none
deriving DecidableEq, Repr

/-- A field filled from a table, by the value of a source field. -/
structure Lookup where
  sourceId : String := ""
  table : List (String × String) := []
deriving DecidableEq, Repr

/-- A computed field: an expression with placeholders in braces, and references it declares. -/
structure Formula where
  expression : String := ""
  referenced : List String := []
deriving DecidableEq, Repr

/-- A field of the form. `kindName` may be any text; only known kinds have a rendering of their
own. -/
structure Field where
  id : String
  name : String := ""
  label : String := ""
  kindName : String := "text"
  placeholder : Option String := none
  defaultValue : Option String := none
  helpText : Option String := none
  isRequired : Bool := false
  isHidden : Bool := false
  isReadOnly : Bool := false
  isDisabled : Bool := false
  minLength : Option Int := none
  maxLength : Option Int := none
  min : Option Binary64 := none
  max : Option Binary64 := none
  step : Option Binary64 := none
  pattern : Option String := none
  accept : Option String := none
  options : List Choice := []
  rules : List Rule := []
  lookup : Option Lookup := none
  formula : Option Formula := none
  dependent : Option DependentChoices := none
  cssClass : Option String := none
  width : Option Binary64 := none
  autocomplete : Option String := none
  order : Binary64 := .zero
deriving DecidableEq, Repr

/-- The known kind of a field, if its kind is known. -/
def Field.kind (f : Field) : Option FieldKind :=
  Vocabulary.ofName? f.kindName

/-- Colours, sizes and texts of the stylesheet. -/
structure Theme where
  primaryColor : String := "#667eea"
  secondaryColor : String := "#764ba2"
  fontFamily : String := "'Inter', sans-serif"
  borderRadius : String := "12px"
  showLogo : Bool := false
  logoUrl : Option String := none
  backgroundColor : String := "#f1f5f9"
  formBackgroundColor : String := "#ffffff"
  textColor : String := "#1e293b"
  labelColor : String := "#1e293b"
  inputBorderColor : String := "#e2e8f0"
  inputBackgroundColor : String := "#ffffff"
  buttonTextColor : String := "#ffffff"
  formWidth : String := "100%"
  formMaxWidth : String := "520px"
  formPadding : String := "32px"
  inputPadding : String := "14px 16px"
  labelFontSize : String := "14px"
  inputFontSize : String := "15px"
  formShadow : Shadow := .extraLarge
  formLayout : GridLayout := .single
  logoMaxWidth : String := "72px"
  logoTopPadding : String := "16px"
  logoSidePadding : Option String := none
  headerFontSize : String := "22px"
  headerFontWeight : String := "700"
  headerFontStyle : String := "normal"
  headerAlign : Alignment := .center
  labelAlign : Alignment := .left
  fieldGap : String := "16px"
  lineHeight : String := "1.6"
  customCss : String := ""
  headerCursiveEnabled : Bool := false
  headerCursiveFont : String := "Great Vibes"
  headerCursivePart : CursivePart := .whole
deriving DecidableEq, Repr

/-- Attribution values used when the page's address has none. -/
structure AttributionDefaults where
  source : String := ""
  medium : String := ""
  campaign : String := ""
  term : String := ""
  content : String := ""
deriving DecidableEq, Repr

/-- The webhook that receives submissions. -/
structure Webhook where
  enabled : Bool := false
  url : String := ""
  method : SendMethod := .post
  headers : List (String × String) := []
  includeAttribution : Bool := true
  token : Option String := none
  sourceId : Option String := none
  redirectUrl : Option String := none
  attributionDefaults : AttributionDefaults := {}
deriving DecidableEq, Repr

/-- Tracking tags. -/
structure Pixels where
  snapPixelId : Option String := none
  metaPixelId : Option String := none
  googleAdsId : Option String := none
  googleAdsConversionLabel : Option String := none
  customScripts : Option String := none
deriving DecidableEq, Repr

/-- The spreadsheet that collects submissions. -/
structure Spreadsheet where
  enabled : Bool := false
  spreadsheetId : Option String := none
  sheetName : String := "Form Submissions"
deriving DecidableEq, Repr

/-- Entrance animations, one per part of the page. -/
structure Entrances where
  enabled : Bool := false
  logo : LogoEntrance := .still
  title : TitleEntrance := .still
  header : HeaderEntrance := .still
  fields : FieldEntrance := .still
  footer : FooterEntrance := .still
  easing : Easing := .spring
  duration : Int := 500
  staggerDelay : Int := 80
deriving DecidableEq, Repr

structure Form where
  id : String := "form"
  title : String := ""
  subHeader : Option String := none
  description : Option String := none
  venue : Option String := none
  dateTimeStamp : Option String := none
  footer : Option String := none
  submitButtonText : String := "Submit"
  successMessage : String := "Thank you for your submission!"
  redirectUrl : Option String := none
  fields : List Field := []
  theme : Theme := {}
  animations : Entrances := {}
  layout : PageLayout := .classic
  layoutImageUrl : Option String := none
  layoutImageFit : ImageFit := .cover
  layoutImagePositionX : Binary64 := .ofInt 50
  layoutImagePositionY : Binary64 := .ofInt 50
  layoutImagePanelWidth : Binary64 := .ofInt 45
  pageHeroImages : List (Int × String) := []
  webhook : Webhook := {}
  pixels : Pixels := {}
  spreadsheet : Spreadsheet := {}
  createdAt : Option String := none
  updatedAt : Option String := none
deriving DecidableEq, Repr

/-- A text that is present and not empty. -/
def given? (s : Option String) : Option String :=
  s.filter (· != "")

/-- The field that a reference names: by id, else by wire name. No field has the empty reference. -/
def resolve? (fields : List Field) (reference : String) : Option Field :=
  if reference = "" then none
  else
    match fields.find? (·.id == reference) with
    | some f => some f
    | none => fields.find? (·.name == reference)

/-- Fields in ascending order; fields of equal order keep their declared sequence. -/
def sortedFields (fields : List Field) : List Field :=
  fields.mergeSort fun f g => !g.order.lt f.order

end FormPress
