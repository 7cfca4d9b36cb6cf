import FormPress.Decode.Checked
import FormPress.Decode.Scalar
import FormPress.Form.Basic

/-!
# Loading forms

The checks that turn a JSON value into a form. Attributes are checked in the order in which the
structures list them, so faults come out in that order. A number may stand for a text: inside a
field it is written in the `source` layout, elsewhere in the `plain` one. A field without a name
takes the raw value of its `id` as its name before anything is checked.
-/

namespace FormPress.Load

open Decode

/-- A text outside fields. -/
def outerText : Json → Checked String :=
  text .plain

/-- A text inside a field. -/
def innerText : Json → Checked String :=
  text .source

/-- A condition on an option. -/
def choiceRule (v : Json) : Checked ChoiceRule :=
  (members v).bind fun ms =>
    ChoiceRule.mk
      <$> field ms "field_id" innerText ""
      <*> field ms "operator" word .equals
      <*> field ms "value" innerText ""

def choice (v : Json) : Checked Choice :=
  (members v).bind fun ms =>
    Choice.mk
      <$> field ms "label" innerText ""
      <*> field ms "value" innerText ""
      <*> field ms "address" (optional innerText) none
      <*> field ms "conditional_rule" (optional choiceRule) none

/-- A group of dependent options. -/
def choiceGroup (v : Json) : Checked ChoiceGroup :=
  (members v).bind fun ms =>
    ChoiceGroup.mk
      <$> field ms "source_value" innerText ""
      <*> field ms "visible_option_values" (list innerText) []

def dependentChoices (v : Json) : Checked DependentChoices :=
  (members v).bind fun ms =>
    DependentChoices.mk
      <$> field ms "source_field_id" innerText ""
      <*> field ms "custom_source_values" (list innerText) []
      <*> field ms "groups" (list choiceGroup) []

def rule (v : Json) : Checked Rule :=
  (members v).bind fun ms =>
    Rule.mk
      <$> required ms "depends_on_field_id" innerText
      <*> field ms "operator" word .equals
      <*> field ms "value" innerText ""
      <*> field ms "action" word .reveal
      <*> field ms "action_value" (optional innerText) none

/-- A look-up table. -/
def lookup (v : Json) : Checked Lookup :=
  (members v).bind fun ms =>
    Lookup.mk
      <$> field ms "source_field_id" innerText ""
      <*> field ms "lookup_data" (table innerText) []

def formula (v : Json) : Checked Formula :=
  (members v).bind fun ms =>
    Formula.mk
      <$> field ms "expression" innerText ""
      <*> field ms "referenced_field_ids" (list innerText) []

/-- The members of a field object with a name: the value of `id` stands in for a name that is not
given. -/
def withName (ms : List (String × Json)) : List (String × Json) :=
  let nameGiven := ((Table.lookup "name" ms).map Json.isGiven).getD false
  match Table.lookup "id" ms with
  | some id => if !nameGiven && id.isGiven then Table.assign "name" id ms else ms
  | none => ms

def fieldOfMembers (ms : List (String × Json)) : Checked Field :=
  Field.mk
    <$> required ms "id" innerText
    <*> field ms "name" innerText ""
    <*> field ms "label" innerText ""
    <*> field ms "type" innerText "text"
    <*> field ms "placeholder" (optional innerText) none
    <*> field ms "default_value" (optional innerText) none
    <*> field ms "help_text" (optional innerText) none
    <*> field ms "is_required" bool false
    <*> field ms "is_hidden" bool false
    <*> field ms "is_read_only" bool false
    <*> field ms "is_disabled" bool false
    <*> field ms "min_length" (optional int) none
    <*> field ms "max_length" (optional int) none
    <*> field ms "min" (optional boundedNumber) none
    <*> field ms "max" (optional boundedNumber) none
    <*> field ms "step" (optional boundedNumber) none
    <*> field ms "pattern" (optional innerText) none
    <*> field ms "accept" (optional innerText) none
    <*> field ms "options" (list choice) []
    <*> field ms "conditional_rules" (list rule) []
    <*> field ms "lookup_config" (optional lookup) none
    <*> field ms "formula_config" (optional formula) none
    <*> field ms "dependent_options_config" (optional dependentChoices) none
    <*> field ms "css_class" (optional innerText) none
    <*> field ms "width" (optional boundedNumber) none
    <*> field ms "autocomplete" (optional innerText) none
    <*> field ms "order" boundedNumber .zero

/-- A field. In a field each key stands once, with its last value. -/
def formField (v : Json) : Checked Field :=
  (members v.distinctKeys).bind fun ms => fieldOfMembers (withName ms)

def theme (v : Json) : Checked Theme :=
  let d : Theme := {}
  (members v).bind fun ms =>
    Theme.mk
      <$> field ms "primary_color" outerText d.primaryColor
      <*> field ms "secondary_color" outerText d.secondaryColor
      <*> field ms "font_family" outerText d.fontFamily
      <*> field ms "border_radius" outerText d.borderRadius
      <*> field ms "show_logo" bool d.showLogo
      <*> field ms "logo_url" (optional outerText) d.logoUrl
      <*> field ms "background_color" outerText d.backgroundColor
      <*> field ms "form_background_color" outerText d.formBackgroundColor
      <*> field ms "text_color" outerText d.textColor
      <*> field ms "label_color" outerText d.labelColor
      <*> field ms "input_border_color" outerText d.inputBorderColor
      <*> field ms "input_background_color" outerText d.inputBackgroundColor
      <*> field ms "button_text_color" outerText d.buttonTextColor
      <*> field ms "form_width" outerText d.formWidth
      <*> field ms "form_max_width" outerText d.formMaxWidth
      <*> field ms "form_padding" outerText d.formPadding
      <*> field ms "input_padding" outerText d.inputPadding
      <*> field ms "label_font_size" outerText d.labelFontSize
      <*> field ms "input_font_size" outerText d.inputFontSize
      <*> field ms "form_shadow" word d.formShadow
      <*> field ms "form_layout" word d.formLayout
      <*> field ms "logo_max_width" outerText d.logoMaxWidth
      <*> field ms "logo_top_padding" outerText d.logoTopPadding
      <*> field ms "logo_side_padding" (optional outerText) d.logoSidePadding
      <*> field ms "header_font_size" outerText d.headerFontSize
      <*> field ms "header_font_weight" outerText d.headerFontWeight
      <*> field ms "header_font_style" outerText d.headerFontStyle
      <*> field ms "header_align" word d.headerAlign
      <*> field ms "label_align" word d.labelAlign
      <*> field ms "field_gap" outerText d.fieldGap
      <*> field ms "line_height" outerText d.lineHeight
      <*> field ms "custom_css" outerText d.customCss
      <*> field ms "header_cursive_enabled" bool d.headerCursiveEnabled
      <*> field ms "header_cursive_font" outerText d.headerCursiveFont
      <*> field ms "header_cursive_part" word d.headerCursivePart

/-- Attribution defaults; their keys have one spelling only. -/
def attributionDefaults (v : Json) : Checked AttributionDefaults :=
  (members v).bind fun ms =>
    AttributionDefaults.mk
      <$> exactField ms "utm_source" outerText ""
      <*> exactField ms "utm_medium" outerText ""
      <*> exactField ms "utm_campaign" outerText ""
      <*> exactField ms "utm_term" outerText ""
      <*> exactField ms "utm_content" outerText ""

def webhook (v : Json) : Checked Webhook :=
  (members v).bind fun ms =>
    Webhook.mk
      <$> field ms "enabled" bool false
      <*> field ms "url" outerText ""
      <*> field ms "method" word .post
      <*> field ms "headers" (table outerText) []
      <*> field ms "include_utm_params" bool true
      <*> field ms "token" (optional outerText) none
      <*> field ms "source_id" (optional outerText) none
      <*> field ms "redirect_url" (optional outerText) none
      <*> field ms "utm_param_defaults" attributionDefaults {}

/-- Tracking tags. -/
def pixels (v : Json) : Checked Pixels :=
  (members v).bind fun ms =>
    Pixels.mk
      <$> field ms "snap_pixel_id" (optional outerText) none
      <*> field ms "meta_pixel_id" (optional outerText) none
      <*> field ms "google_ads_id" (optional outerText) none
      <*> field ms "google_ads_conversion_label" (optional outerText) none
      <*> field ms "custom_scripts" (optional outerText) none

def spreadsheet (v : Json) : Checked Spreadsheet :=
  let d : Spreadsheet := {}
  (members v).bind fun ms =>
    Spreadsheet.mk
      <$> field ms "enabled" bool d.enabled
      <*> field ms "spreadsheet_id" (optional outerText) d.spreadsheetId
      <*> field ms "sheet_name" outerText d.sheetName

def entrances (v : Json) : Checked Entrances :=
  let d : Entrances := {}
  (members v).bind fun ms =>
    Entrances.mk
      <$> field ms "enabled" bool d.enabled
      <*> field ms "logo" word d.logo
      <*> field ms "title" word d.title
      <*> field ms "header" word d.header
      <*> field ms "fields" word d.fields
      <*> field ms "footer" word d.footer
      <*> field ms "easing" word d.easing
      <*> field ms "duration" (intAtLeast 0) d.duration
      <*> field ms "stagger_delay" (intAtLeast 0) d.staggerDelay

def form (v : Json) : Checked Form :=
  let d : Form := {}
  (members v).bind fun ms =>
    Form.mk
      <$> field ms "id" outerText d.id
      <*> field ms "title" outerText d.title
      <*> field ms "sub_header" (optional outerText) d.subHeader
      <*> field ms "description" (optional outerText) d.description
      <*> field ms "venue" (optional outerText) d.venue
      <*> field ms "date_time_stamp" (optional outerText) d.dateTimeStamp
      <*> field ms "footer" (optional outerText) d.footer
      <*> field ms "submit_button_text" outerText d.submitButtonText
      <*> field ms "success_message" outerText d.successMessage
      <*> field ms "redirect_url" (optional outerText) d.redirectUrl
      <*> field ms "fields" (list formField) d.fields
      <*> field ms "theme" theme d.theme
      <*> field ms "animations" entrances d.animations
      <*> field ms "layout" word d.layout
      <*> field ms "layout_image_url" (optional outerText) d.layoutImageUrl
      <*> field ms "layout_image_fit" word d.layoutImageFit
      <*> field ms "layout_image_position_x" percentage d.layoutImagePositionX
      <*> field ms "layout_image_position_y" percentage d.layoutImagePositionY
      <*> field ms "layout_image_panel_width" innerPercentage d.layoutImagePanelWidth
      <*> field ms "page_hero_images" (intTable outerText) d.pageHeroImages
      <*> field ms "webhook_config" webhook d.webhook
      <*> field ms "pixel_config" pixels d.pixels
      <*> field ms "google_sheets_config" spreadsheet d.spreadsheet
      <*> field ms "created_at" (optional outerText) d.createdAt
      <*> field ms "updated_at" (optional outerText) d.updatedAt

/-- What the text of a form may hold. -/
def allowance : Json.Allowance :=
  ⟨200, Number.digitLimit, Number.digitLimit, false⟩

/-- A checked value from a JSON text; a text that is not JSON has one fault, at the root. -/
def fromText {α : Type} (check : Json → Checked α) (s : String) : Checked α :=
  match Json.read allowance s with
  | .ok v => check v
  | .error fault => .fail (.badJson fault)

end FormPress.Load
