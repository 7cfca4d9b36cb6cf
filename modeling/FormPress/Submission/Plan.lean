import FormPress.Field.View
import FormPress.Field.Widget
import FormPress.Form.Pages
import FormPress.Log
import FormPress.Settings.Basic
import FormPress.Text.Mask
import FormPress.Text.Quoted

/-!
# Submission plans

What happens when a form is submitted, worked out from the form and the settings: which names are
sent, to which webhook, spreadsheet and logger, with which attribution, and which conversions are
reported. A webhook without an address and a spreadsheet without an id are left out, with a warning.
-/

namespace FormPress

/-! ## Wire names -/

/-- The names of helper inputs, which are never sent. -/
def internalNames (fields : List Field) : List String :=
  (fields.filter fun f => f.kind == some .tel).map Field.rawName

/-- The kinds that send nothing. -/
def FieldKind.isSilent : FieldKind → Bool
  | .sectionCollapse | .subform => true
  | k => k.isLayoutMark || k.isNotice

/-- The names that a field sends, in the order in which they are shown. -/
def Field.submittedNames (f : Field) : List String :=
  match f.kind with
  | none => [f.name]
  | some k =>
    if k.isSilent then []
    else
      match k with
      | .dateRange => [f.name ++ "_start", f.name ++ "_end"]
      | .socialLinks => FieldView.socialNetworks.map fun n => f.name ++ "_" ++ n.1
      | _ => [f.name]

/-- The columns of a spreadsheet: all names that are sent, in ascending order of the fields. -/
def Form.sheetColumns (form : Form) : List String :=
  (sortedFields form.fields).flatMap Field.submittedNames

def Form.firstNameOf? (form : Form) (kind : FieldKind) : Option String :=
  ((sortedFields form.fields).find? fun f => f.kind == some kind).map (·.name)

/-! ## Plans -/

/-- The webhook of a plan, with values that go with every submission. -/
structure WebhookTarget where
  url : String
  method : String
  headers : List (String × String)
  extra : List (String × String)
deriving DecidableEq, Repr

structure SheetTarget where
  url : String
  apiKey : ApiKey
  spreadsheetId : String
  sheetName : String
  columns : List String
  attributionColumns : List String
deriving DecidableEq, Repr

structure LoggerTarget where
  url : String
  apiKey : ApiKey
deriving DecidableEq, Repr

structure Conversions where
  reportsSnap : Bool
  reportsMeta : Bool
  googleAdsTarget : Option String
  emailField : Option String
  phoneField : Option String
deriving DecidableEq, Repr

/-- Whether any conversion is reported. -/
def Conversions.any (c : Conversions) : Bool :=
  c.reportsSnap || c.reportsMeta || c.googleAdsTarget.isSome

/-- All that a submission does. -/
structure SubmissionPlan where
  formId : String
  formTitle : String
  submitText : String
  successMessage : String
  redirectUrl : Option String
  redirectDelay : Nat
  webhook : Option WebhookTarget
  attributionDefaults : Option (List (String × String))
  sheet : Option SheetTarget
  logger : Option LoggerTarget
  conversions : Conversions
  internalNames : List String
deriving DecidableEq, Repr

/-- Whether a submission carries the attribution of the visit. -/
def SubmissionPlan.capturesAttribution (p : SubmissionPlan) : Bool :=
  p.attributionDefaults.isSome

/-- Every key that a page sends is whole. -/
def SubmissionPlan.isEncodable (p : SubmissionPlan) : Bool :=
  p.sheet.all (·.apiKey.isWhole) && p.logger.all (·.apiKey.isWhole)

/-- The delay before a redirect, in milliseconds. -/
def redirectDelay : Nat := 1400

namespace Form

def warn (form : Form) (message : String) : Logged Unit :=
  Logged.tell .warning .submission ("Form " ++ Text.Quoted.write form.id ++ ": " ++ message)

/-- The values that a webhook gets with every submission. -/
def webhookExtra (w : Webhook) : List (String × String) :=
  ((given? w.token).toList.map fun t => ("token", t)) ++
    ((given? w.sourceId).toList.map fun s => ("sourceId", s))

def webhookTarget (form : Form) : Logged (Option WebhookTarget) :=
  let w := form.webhook
  if !w.enabled then pure none
  else if w.url = "" then do
    form.warn "webhook enabled without a url, skipping"
    return none
  else do
    Logged.tell .debug .submission
      ("Form " ++ Text.Quoted.write form.id ++ " posts to webhook " ++ w.method.name ++ " " ++
        w.url ++ " (token " ++ Text.mask w.token 2 ++ ")")
    return some
      ⟨w.url, w.method.name,
        Table.assignAll [("Content-Type", "application/json")] w.headers, webhookExtra w⟩

/-- The parameters of an attribution with the values they have when the visit has none. -/
def attributionDefaults (form : Form) : Option (List (String × String)) :=
  if form.webhook.includeAttribution then
    let d := form.webhook.attributionDefaults
    some
      [("utm_source", d.source), ("utm_medium", d.medium), ("utm_campaign", d.campaign),
       ("utm_term", d.term), ("utm_content", d.content), ("utm_id", ""), ("gclid", ""),
       ("fbclid", "")]
  else none

/-- The attribution columns of every spreadsheet row. -/
def attributionColumns : List String :=
  ["utm_source", "utm_medium", "utm_campaign"]

def sheetTarget (form : Form) (settings : Settings) : Logged (Option SheetTarget) :=
  if !form.spreadsheet.enabled then pure none
  else
    match given? form.spreadsheet.spreadsheetId with
    | none => do
      form.warn "spreadsheet relay enabled without a spreadsheet id, skipping"
      return none
    | some id =>
      pure (some
        ⟨settings.relay.url, settings.relay.apiKey, id, form.spreadsheet.sheetName,
          form.sheetColumns, attributionColumns⟩)

/-- The target of a conversion of the advertisement network: account and label. -/
def googleAdsTarget (p : Pixels) : Option String :=
  match given? p.googleAdsId, given? p.googleAdsConversionLabel with
  | some id, some label => some (id ++ "/" ++ label)
  | _, _ => none

def conversions (form : Form) : Conversions :=
  ⟨(given? form.pixels.snapPixelId).isSome, (given? form.pixels.metaPixelId).isSome,
    googleAdsTarget form.pixels, form.firstNameOf? .email, form.firstNameOf? .tel⟩

/-- The logger of the settings, unless it is switched off. -/
def loggerTarget (settings : Settings) : Option LoggerTarget :=
  if settings.persistence.enabled then
    some ⟨settings.persistence.url, settings.persistence.apiKey⟩
  else none

def submissionPlan (form : Form) (settings : Settings) : Logged SubmissionPlan := do
  let webhook ← form.webhookTarget
  let sheet ← form.sheetTarget settings
  return {
    formId := form.id
    formTitle := form.title
    submitText := form.submitButtonText
    successMessage := form.successMessage
    redirectUrl := (given? form.webhook.redirectUrl).or (given? form.redirectUrl)
    redirectDelay := FormPress.redirectDelay
    webhook := webhook
    attributionDefaults := form.attributionDefaults
    sheet := sheet
    logger := loggerTarget settings
    conversions := form.conversions
    internalNames := internalNames form.fields }

end Form

end FormPress
