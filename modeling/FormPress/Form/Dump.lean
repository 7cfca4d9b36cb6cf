import FormPress.Form.Basic
import FormPress.Text.Basic

/-!
# Dumping forms

A form as a JSON value with every attribute under its camel spelling, defaults included. How numbers
are written is for the caller to say: as they are, or as texts. Loading the dump gives the form
again.
-/

namespace FormPress.Dump

def word {α : Type} [Vocabulary α] (a : α) : Json :=
  .string (Vocabulary.name a)

/-- A value or `null`. -/
def optional {α : Type} (dump : α → Json) : Option α → Json
  | none => .null
  | some a => dump a

def list {α : Type} (dump : α → Json) (items : List α) : Json :=
  .array (items.map dump)

/-- Texts under keys. -/
def table (entries : List (String × String)) : Json :=
  .object (entries.map fun (k, v) => (k, .string v))

/-- A condition on an option. -/
def choiceRule (r : ChoiceRule) : Json :=
  .object [
    ("fieldId", .string r.fieldId),
    ("operator", word r.operator),
    ("value", .string r.value)]

def choice (c : Choice) : Json :=
  .object [
    ("label", .string c.label),
    ("value", .string c.value),
    ("address", optional .string c.address),
    ("conditionalRule", optional choiceRule c.rule)]

/-- A group of dependent options. -/
def choiceGroup (g : ChoiceGroup) : Json :=
  .object [
    ("sourceValue", .string g.sourceValue),
    ("visibleOptionValues", list .string g.visible)]

def dependentChoices (d : DependentChoices) : Json :=
  .object [
    ("sourceFieldId", .string d.sourceId),
    ("customSourceValues", list .string d.customSourceValues),
    ("groups", list choiceGroup d.groups)]

def rule (r : Rule) : Json :=
  .object [
    ("dependsOnFieldId", .string r.dependsOn),
    ("operator", word r.operator),
    ("value", .string r.value),
    ("action", word r.action),
    ("actionValue", optional .string r.actionValue)]

/-- A look-up table. -/
def lookup (l : Lookup) : Json :=
  .object [("sourceFieldId", .string l.sourceId), ("lookupData", table l.table)]

def formula (f : Formula) : Json :=
  .object [
    ("expression", .string f.expression),
    ("referencedFieldIds", list .string f.referenced)]

/-- A field with its numbers written by `number`. -/
def fieldWith (number : Binary64 → Json) (f : Field) : Json :=
  .object [
    ("id", .string f.id),
    ("name", .string f.name),
    ("label", .string f.label),
    ("type", .string f.kindName),
    ("placeholder", optional .string f.placeholder),
    ("defaultValue", optional .string f.defaultValue),
    ("helpText", optional .string f.helpText),
    ("isRequired", .bool f.isRequired),
    ("isHidden", .bool f.isHidden),
    ("isReadOnly", .bool f.isReadOnly),
    ("isDisabled", .bool f.isDisabled),
    ("minLength", optional .int f.minLength),
    ("maxLength", optional .int f.maxLength),
    ("min", optional number f.min),
    ("max", optional number f.max),
    ("step", optional number f.step),
    ("pattern", optional .string f.pattern),
    ("accept", optional .string f.accept),
    ("options", list choice f.options),
    ("conditionalRules", list rule f.rules),
    ("lookupConfig", optional lookup f.lookup),
    ("formulaConfig", optional formula f.formula),
    ("dependentOptionsConfig", optional dependentChoices f.dependent),
    ("cssClass", optional .string f.cssClass),
    ("width", optional number f.width),
    ("autocomplete", optional .string f.autocomplete),
    ("order", number f.order)]

def theme (t : Theme) : Json :=
  .object [
    ("primaryColor", .string t.primaryColor),
    ("secondaryColor", .string t.secondaryColor),
    ("fontFamily", .string t.fontFamily),
    ("borderRadius", .string t.borderRadius),
    ("showLogo", .bool t.showLogo),
    ("logoUrl", optional .string t.logoUrl),
    ("backgroundColor", .string t.backgroundColor),
    ("formBackgroundColor", .string t.formBackgroundColor),
    ("textColor", .string t.textColor),
    ("labelColor", .string t.labelColor),
    ("inputBorderColor", .string t.inputBorderColor),
    ("inputBackgroundColor", .string t.inputBackgroundColor),
    ("buttonTextColor", .string t.buttonTextColor),
    ("formWidth", .string t.formWidth),
    ("formMaxWidth", .string t.formMaxWidth),
    ("formPadding", .string t.formPadding),
    ("inputPadding", .string t.inputPadding),
    ("labelFontSize", .string t.labelFontSize),
    ("inputFontSize", .string t.inputFontSize),
    ("formShadow", word t.formShadow),
    ("formLayout", word t.formLayout),
    ("logoMaxWidth", .string t.logoMaxWidth),
    ("logoTopPadding", .string t.logoTopPadding),
    ("logoSidePadding", optional .string t.logoSidePadding),
    ("headerFontSize", .string t.headerFontSize),
    ("headerFontWeight", .string t.headerFontWeight),
    ("headerFontStyle", .string t.headerFontStyle),
    ("headerAlign", word t.headerAlign),
    ("labelAlign", word t.labelAlign),
    ("fieldGap", .string t.fieldGap),
    ("lineHeight", .string t.lineHeight),
    ("customCss", .string t.customCss),
    ("headerCursiveEnabled", .bool t.headerCursiveEnabled),
    ("headerCursiveFont", .string t.headerCursiveFont),
    ("headerCursivePart", word t.headerCursivePart)]

def attributionDefaults (a : AttributionDefaults) : Json :=
  .object [
    ("utm_source", .string a.source),
    ("utm_medium", .string a.medium),
    ("utm_campaign", .string a.campaign),
    ("utm_term", .string a.term),
    ("utm_content", .string a.content)]

def webhook (w : Webhook) : Json :=
  .object [
    ("enabled", .bool w.enabled),
    ("url", .string w.url),
    ("method", word w.method),
    ("headers", table w.headers),
    ("includeUtmParams", .bool w.includeAttribution),
    ("token", optional .string w.token),
    ("sourceId", optional .string w.sourceId),
    ("redirectUrl", optional .string w.redirectUrl),
    ("utmParamDefaults", attributionDefaults w.attributionDefaults)]

/-- Tracking tags. -/
def pixels (p : Pixels) : Json :=
  .object [
    ("snapPixelId", optional .string p.snapPixelId),
    ("metaPixelId", optional .string p.metaPixelId),
    ("googleAdsId", optional .string p.googleAdsId),
    ("googleAdsConversionLabel", optional .string p.googleAdsConversionLabel),
    ("customScripts", optional .string p.customScripts)]

def spreadsheet (s : Spreadsheet) : Json :=
  .object [
    ("enabled", .bool s.enabled),
    ("spreadsheetId", optional .string s.spreadsheetId),
    ("sheetName", .string s.sheetName)]

def entrances (e : Entrances) : Json :=
  .object [
    ("enabled", .bool e.enabled),
    ("logo", word e.logo),
    ("title", word e.title),
    ("header", word e.header),
    ("fields", word e.fields),
    ("footer", word e.footer),
    ("easing", word e.easing),
    ("duration", .int e.duration),
    ("staggerDelay", .int e.staggerDelay)]

/-- Texts under integer keys. -/
def intTable (entries : List (Int × String)) : Json :=
  .object (entries.map fun (k, v) => (Text.decimalInt k, .string v))

/-- A form with its numbers written by `number`. -/
def formWith (number : Binary64 → Json) (f : Form) : Json :=
  .object [
    ("id", .string f.id),
    ("title", .string f.title),
    ("subHeader", optional .string f.subHeader),
    ("description", optional .string f.description),
    ("venue", optional .string f.venue),
    ("dateTimeStamp", optional .string f.dateTimeStamp),
    ("footer", optional .string f.footer),
    ("submitButtonText", .string f.submitButtonText),
    ("successMessage", .string f.successMessage),
    ("redirectUrl", optional .string f.redirectUrl),
    ("fields", list (fieldWith number) f.fields),
    ("theme", theme f.theme),
    ("animations", entrances f.animations),
    ("layout", word f.layout),
    ("layoutImageUrl", optional .string f.layoutImageUrl),
    ("layoutImageFit", word f.layoutImageFit),
    ("layoutImagePositionX", number f.layoutImagePositionX),
    ("layoutImagePositionY", number f.layoutImagePositionY),
    ("layoutImagePanelWidth", number f.layoutImagePanelWidth),
    ("pageHeroImages", intTable f.pageHeroImages),
    ("webhookConfig", webhook f.webhook),
    ("pixelConfig", pixels f.pixels),
    ("googleSheetsConfig", spreadsheet f.spreadsheet),
    ("createdAt", optional .string f.createdAt),
    ("updatedAt", optional .string f.updatedAt)]

/-- A form with its numbers as they are. -/
def form (f : Form) : Json :=
  formWith .float f

end FormPress.Dump
