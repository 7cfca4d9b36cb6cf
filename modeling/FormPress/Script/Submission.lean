import FormPress.Script.Access
import FormPress.Script.Confetti
import FormPress.Submission.Plan

/-!
# Submission in the script

The last part of the page's script: it collects the values, posts them to the webhook, and on
success reports conversions, relays to the spreadsheet, records with the logger, and thanks or
redirects the visitor. Only the webhook is waited for; without one a submission succeeds at once.
-/

namespace FormPress.Script

/-- A table of texts as an object. -/
def table (entries : List (String × String)) : Json :=
  .object (entries.map fun e => (e.1, .string e.2))

/-- The submit button and the place for an error. -/
def submitHandles (p : SubmissionPlan) : List Code :=
  [code "var submitButton = form.querySelector(\".submit-btn\");",
   .line [.code "var submitText = ", quoted p.submitText, .code ";"],
   code "var formError = document.getElementById(\"form-error\");"]

def attributionParams (defaults : List (String × String)) : List Code :=
  [.line [.code "var utmDefaults = ", .value (table defaults), .code ";"],
   blank,
   function "attributionParams()" [
     code "var search = window.location.search;",
     block "if (!search && window.location.href.indexOf(\"?\") !== -1) " [
       code "search = \"?\" + window.location.href.split(\"?\")[1];"] [],
     code "var params = new URLSearchParams(search);",
     code "var result = \x7b\x7d;",
     block "Object.keys(utmDefaults).forEach(function (key) " [
       code "result[key] = params.get(key) || utmDefaults[key] || \"\";"] ");",
     code "return result;"]]

/-- The values of the form by name. -/
def collectValues : List Code :=
  [code "// Multi-valued names are joined; helper sub-inputs are left out.",
   function "collectValues()" [
     code "var values = \x7b\x7d;",
     block "new FormData(form).forEach(function (value, name) " [
       code "if (isInternal(name)) return;",
       code "var text = typeof value === \"string\" ? value : value.name;",
       .block [
         ("if (Object.prototype.hasOwnProperty.call(values, name)) ", [
           .line
             [.code "if (text !== \"\") values[name] = values[name] === \"\" ? text : ",
              .code "values[name] + ", quoted valueSeparator, .code " + text;"]]),
         (" else ", [
           code "values[name] = text;"])] []] ");",
     code "return values;"]]

/-- Show that a submission is under way. -/
def setBusy : List Code :=
  [function "setBusy(busy)" [
     code "if (!submitButton) return;",
     code "submitButton.disabled = busy;",
     .line
       [.code "submitButton.textContent = busy ? ", quoted "Submitting...",
        .code " : submitText;"]]]

/-- Show why a submission failed. -/
def showError : List Code :=
  [function "showError(message)" [
     code "if (!formError) return;",
     code "formError.textContent = message;",
     code "formError.hidden = false;"]]

/-- The value of a field that a conversion reports, or an empty text. -/
def reported (name : Option String) : Line :=
  match given? name with
  | some n => [.code "values[", quoted n, .code "] || \"\""]
  | none => [.code "\"\""]

def fireConversions (c : Conversions) : List Code :=
  let snap :=
    block "if (typeof snaptr !== \"undefined\") " [
      code "snaptr(\"track\", \"SIGN_UP\", \x7b",
      code "  sign_up_method: \"form_submission\",",
      .line ([.code "  user_email: "] ++ reported c.emailField ++ [.code ","]),
      .line ([.code "  phone_number: "] ++ reported c.phoneField ++ [.code "    \x7d);"])] []
  let lead :=
    block "if (typeof fbq !== \"undefined\") " [
      code "fbq(\"track\", \"Lead\", values);"] []
  let advertisement := fun (target : String) =>
    block "if (typeof gtag !== \"undefined\") " [
      .line
        [.code "gtag(\"event\", \"conversion\", \x7b send_to: ", quoted target,
         .code " \x7d);"]] []
  [function "fireConversions(values)"
    ((if c.reportsSnap then [snap] else []) ++ (if c.reportsMeta then [lead] else []) ++
      c.googleAdsTarget.toList.map advertisement)]

/-- The line that authorises a request. -/
def authorization (apiKey : String) : Code :=
  .line [.code "headers.Authorization = \"Bearer \" + ", quoted apiKey, .code ";"]

/-- Append a row to a spreadsheet. -/
def relayRow (s : SheetTarget) : List Code :=
  [block [.code "var row = ", .value (texts s.columns), .code ".map(function (name) "] [
     code "return values[name] || \"\";"] ");",
   block [.value (texts s.attributionColumns), .code ".forEach(function (name) "] [
     code "row.push(attribution ? attribution[name] || \"\" : \"\");"] ");",
   code "var headers = \x7b \"Content-Type\": \"application/json\" \x7d;"] ++
  (if s.apiKey.shown = "" then [] else [authorization s.apiKey.shown]) ++
  [.block [
     ("try ", [
       .block [
         ([.code "fetch(", quoted s.url, .code ", "], [
           code "method: \"POST\",",
           code "headers: headers,",
           block "body: JSON.stringify(" [
             code "action: \"append\",",
             .line [.code "spreadsheetId: ", quoted s.spreadsheetId, .code ","],
             .line [.code "sheetName: ", quoted s.sheetName, .code ","],
             code "rowData: row"] ")"]),
         (").catch(function (error) ", [
           code "console.warn(\"Spreadsheet relay failed:\", error);"])] ");"]),
     (" catch (error) ", [
       code "console.warn(\"Spreadsheet relay failed:\", error);"])] []]

/-- Relay a submission to the spreadsheet, if there is one. -/
def relayToSheet (p : SubmissionPlan) : List Code :=
  [function "relayToSheet(values, attribution)" (p.sheet.toList.flatMap relayRow)]

def recordEntry (p : SubmissionPlan) (l : LoggerTarget) : List Code :=
  [code ("var headers = \x7b \"Content-Type\": \"application/json\", " ++
     "Prefer: \"return=minimal\" \x7d;")] ++
  (if l.apiKey.shown = "" then []
   else [.line [.code "headers.apikey = ", quoted l.apiKey.shown, .code ";"],
     authorization l.apiKey.shown]) ++
  [.block [
     ("try ", [
       .block [
         ([.code "fetch(", quoted l.url, .code ", "], [
           code "method: \"POST\",",
           code "headers: headers,",
           block "body: JSON.stringify(" [
             .line [.code "form_id: ", quoted p.formId, .code ","],
             .line [.code "form_title: ", quoted p.formTitle, .code ","],
             code "data: data,",
             code "utm_params: attribution,",
             code "submitted_at: new Date().toISOString()"] ")"]),
         (").then(function (response) ", [
           code ("if (!response.ok) " ++
             "console.warn(\"Submission logger responded\", response.status);")]),
         (").catch(function (error) ", [
           code "console.warn(\"Submission logger failed:\", error);"])] ");"]),
     (" catch (error) ", [
       code "console.warn(\"Submission logger failed:\", error);"])] []]

/-- Record a submission, unless there is no logger. -/
def recordSubmission (p : SubmissionPlan) : List Code :=
  [function "recordSubmission(data, attribution)" (p.logger.toList.flatMap (recordEntry p))]

/-- Leave for another page after a moment. -/
def redirect (p : SubmissionPlan) (url : String) : List Code :=
  [block "setTimeout(function () " [
     .line [.code "window.top.location.href = ", quoted url, .code ";"]]
     [.code ", ", .value (.int p.redirectDelay), .code ");"]]

/-- Thank the visitor in place of the form. -/
def thank (p : SubmissionPlan) : List Code :=
  [code "var message = document.createElement(\"div\");",
   code "message.className = \"success-message\";",
   code "var mark = document.createElement(\"h2\");",
   code "mark.textContent = \"✓\";",
   code "var text = document.createElement(\"p\");",
   .line [.code "text.textContent = ", quoted p.successMessage, .code ";"],
   code "message.appendChild(mark);",
   code "message.appendChild(text);",
   code "form.innerHTML = \"\";",
   code "form.appendChild(message);"]

/-- What the visitor sees after a submission. -/
def finish (p : SubmissionPlan) : List Code :=
  [function "finish()"
    (code "launchConfetti();" ::
      match p.redirectUrl with
      | some url => redirect p url
      | none => thank p)]

def onSuccess : List Code :=
  [function "onSuccess(values, data, attribution)" [
     code "fireConversions(values);",
     code "relayToSheet(values, attribution);",
     code "recordSubmission(data, attribution);",
     code "finish();"]]

/-- The first page with a fault. -/
def firstInvalidPage : List Code :=
  [function "firstInvalidPage()" [
     block "for (var i = 0; i < pages.length; i++) " [
       code "if (!validateScope(pages[i])) return i;"] [],
     code "return -1;"]]

def postToWebhook (w : WebhookTarget) (withAttribution : Bool) : List Code :=
  [.line
     [.code "var data = Object.assign(\x7b\x7d, values, ", .value (table w.extra),
      .code (if withAttribution then ", attribution" else ""), .code ");"],
   blank,
   .block [
     ([.code "fetch(", quoted w.url, .code ", "], [
       .line [.code "method: ", quoted w.method, .code ","],
       .line [.code "headers: ", .value (table w.headers), .code ","],
       code "body: JSON.stringify(data)"]),
     (").then(function (response) ", [
       block "if (!response.ok) " [
         block "return response.text().then(function (body) " [
           .line
             [.code "throw new Error(", quoted "Submission failed",
              .code " + \" (\" + response.status + \")\" + (body ? \": \" + body : \"\"));"]]
           ");"] [],
       code "onSuccess(values, data, attribution);"]),
     (").catch(function (error) ", [
       code "console.error(\"Submission failed:\", error);",
       code "setBusy(false);",
       code "showError(error.message);"])] ");"]

/-- The handler of the form's submission. -/
def submitListener (p : SubmissionPlan) : List Code :=
  [block "form.addEventListener(\"submit\", function (event) "
    ([code "event.preventDefault();",
      code "if (formError) formError.hidden = true;",
      code "var invalid = firstInvalidPage();",
      block "if (invalid !== -1) " [
        code "if (invalid !== currentPage) goToPage(invalid, true);",
        code "validateScope(pages[invalid]);",
        code "return;"] [],
      blank,
      code "setBusy(true);",
      code "var values = collectValues();",
      .line
        [.code "var attribution = ",
         .code (if p.capturesAttribution then "attributionParams()" else "null"), .code ";"]] ++
      match p.webhook with
      | some w => postToWebhook w p.capturesAttribution
      | none => [code "onSuccess(values, values, attribution);"])
    ");"]

def submitHandler (p : SubmissionPlan) : List Code :=
  paragraphs
    ([submitHandles p] ++ p.attributionDefaults.toList.map attributionParams ++
      [collectValues, setBusy, showError, fireConversions p.conversions, relayToSheet p,
       recordSubmission p, finish p, onSuccess, firstInvalidPage, submitListener p])

def submission (p : SubmissionPlan) : List Code :=
  confetti ++ submitHandler p

end FormPress.Script
