import FormPress.Document.Page
import FormPress.Field.Render
import FormPress.Form.References
import FormPress.Script.Conditions
import FormPress.Script.Paging
import FormPress.Script.Reveal
import FormPress.Script.Submission
import FormPress.Script.Widgets
import FormPress.Style.Entrance
import FormPress.Style.Grid
import FormPress.Style.Layout
import FormPress.Style.Theme

/-!
# Compiling a form

From a form and the settings to the document: check the references, render the fields page by page,
and put stylesheet, markup and script together. The result is a function of form, settings and logo;
the log tells the steps in their order.
-/

namespace FormPress

/-- Why a form has no document. -/
inductive CompileFault where
  | references (fault : ReferenceFault)
  | number (fault : NumberFault)
deriving DecidableEq, Repr

def CompileFault.message : CompileFault → String
  | .references fault => fault.message
  | .number fault => fault.message

namespace Form

/-- The stylesheet of theme and layout, and what the log says about it. -/
def themeStyle (form : Form) : Logged String :=
  let theme := Style.write (Style.themeSheet form.theme)
  let layout := Style.writeLayout form.layout (LayoutImage.ofForm form)
  ⟨[⟨.debug, .theme,
      "Compiled theme for layout " ++ Text.Quoted.write form.layout.name ++ " (" ++
        Text.decimal (theme.length + layout.length) ++ " chars)"⟩],
    Text.joinGiven "\n" [theme, layout]⟩

def stylesheet (form : Form) (pages : List Page) : Logged String := do
  let theme ← form.themeStyle
  return Text.joinGiven "\n"
    [theme, Style.writeGrid form.theme.formLayout form.theme.fieldGap, Style.writePaging pages,
     form.animations.writeStyle]

/-- The script that turns pages, and what the log says about it. -/
def pagingScript (form : Form) (pages : List Page) : Logged String :=
  ⟨[⟨.debug, .pages,
      "Form " ++ Text.Quoted.write form.id ++ " has " ++ Text.decimal pages.length ++
        " page(s)"⟩],
    Script.write (Script.paging (form.shownHeroImages pages))⟩

/-- The script that reveals fields, empty when they do not move. -/
def revealScript (form : Form) : String :=
  if form.animations.animatesFields then Script.write (Script.reveal form.animations) else ""

def script (form : Form) (settings : Settings) (pages : List Page) : Logged String := do
  let plan ← form.submissionPlan settings
  let paging ← form.pagingScript pages
  return Text.joinGiven "\n"
    [Script.write (Script.access (internalNames form.fields)), Script.write Script.conditions,
     paging, Script.write Script.widgets, Script.write (Script.submission plan),
     form.revealScript]

/-- Render fields until one has a fault. -/
def renderFields (o : RenderOptions) (all : List Field) :
    List Field → Logged (Except NumberFault (List Markup))
  | [] => pure (.ok [])
  | f :: rest => do
    match ← f.renderLogged o all with
    | .error fault => return .error fault
    | .ok m =>
      let others ← renderFields o all rest
      return others.map (m :: ·)

/-- Render pages until a field has a fault. -/
def renderPages (o : RenderOptions) (all : List Field) :
    List Page → Logged (Except NumberFault (List (Page × List Markup)))
  | [] => pure (.ok [])
  | p :: rest => do
    match ← renderFields o all p.fields with
    | .error fault => return .error fault
    | .ok ms =>
      let others ← renderPages o all rest
      return others.map ((p, ms) :: ·)

/-- The document of a form whose references are accepted. -/
def assemble (form : Form) (settings : Settings) (logo : Option String) :
    Logged (Except NumberFault String) := do
  let pages := paginate form.fields
  ⟨form.animations.logLines, ()⟩
  let options : RenderOptions := ⟨settings.allowRawHtml, form.animations.animatesFields⟩
  match ← renderPages options form.fields pages with
  | .error fault => return .error fault
  | .ok rendered =>
    let stylesheet ← form.stylesheet pages
    let script ← form.script settings pages
    let parts : DocumentParts := {
      form := form
      language := settings.language
      fontStylesheet := settings.fontStylesheet
      logo := if form.theme.showLogo then logo else none
      stylesheet := stylesheet
      script := script
      pages := rendered }
    return .ok parts.write

def compile (form : Form) (settings : Settings) (logo : Option String) :
    Logged (Except CompileFault String) := do
  match ← form.checkReferences settings.strict with
  | .error fault => return .error (.references fault)
  | .ok _ =>
    match ← form.assemble settings logo with
    | .error fault => return .error (.number fault)
    | .ok html =>
      Logged.tell .info .compiler
        ("Compiled form " ++ Text.Quoted.write form.id ++ " (" ++ Text.decimal html.length ++
          " chars)")
      return .ok html

end Form

/-- What the log says when a language is taken up; without one, labels stay English. -/
def announceLanguage (language : String) : Logged Unit :=
  Logged.tell .debug .language
    (if language = "" then "No language specified, using NullTranslations (fallback to English)"
    else "Loaded translation for language: " ++ language)

/-- What the log says when a compiler takes up its language. -/
def Settings.announceLanguage (settings : Settings) : Logged Unit :=
  FormPress.announceLanguage settings.language

end FormPress
