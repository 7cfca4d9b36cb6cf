import FormPress.Field.View
import FormPress.Style.Token

/-!
# Notices

Parts of a form that show something and take no input: headings, paragraphs, banners, lines, gaps,
markup of the author, and the marks between sections and pages. Each is its own group.
-/

namespace FormPress.FieldView

open Markup

def heading (v : FieldView) (animate : Bool) : Markup :=
  label "h2" (v.group "form-heading" animate).attributes v.field.label

def paragraph (v : FieldView) (animate : Bool) : Markup :=
  label "p" (v.group "form-paragraph" animate).attributes
    ((given? v.field.helpText).getD v.field.label)

def bannerImage (address : String) : Markup :=
  .element "div"
    [attr "class" "banner-image",
     attr "style" ("background-image: " ++ Style.imageAddress address ++ ";")] []

/-- A title over a picture. -/
def banner (v : FieldView) (animate : Bool) : Markup :=
  block 0 "div" (v.group "form-banner" animate).attributes
    (((given? v.field.helpText).map bannerImage).toList ++
      [block 2 "div" [attr "class" "banner-content"] [label "h3" [] v.field.label]])

/-- A line. -/
def divider (v : FieldView) (animate : Bool) : Markup :=
  .void "hr" (v.group "form-divider" animate).attributes

/-- A text of the author; as markup only where that is allowed. -/
def htmlSnippet (v : FieldView) (rawHtml animate : Bool) : Markup :=
  let content :=
    ((given? v.field.helpText).or (given? v.field.defaultValue)).getD ""
  .element "div" (v.group "html-snippet" animate).attributes
    [if rawHtml then .raw content else .text content]

/-- The height of a gap when the field names none. -/
def defaultGap : String := "20px"

def gapHeight (v : FieldView) : String :=
  (given? (v.field.helpText.map Style.value)).getD defaultGap

/-- A gap. -/
def spacer (v : FieldView) (animate : Bool) : Markup :=
  .element "div"
    ((v.group "form-spacer" animate).override
      [("style", some ("height: " ++ v.gapHeight))]).attributes []

def sectionBreak (v : FieldView) (animate : Bool) : Markup :=
  block 0 "div" (v.group "section-break" animate).attributes
    (label "h3" [] v.field.label ::
      ((given? v.field.helpText).map (label "p" [attr "class" "help-text"])).toList)

def pageBreak (v : FieldView) : Markup :=
  .element "div"
    [attr "class" "page-break", attr "data-page-break" "true",
     attr "data-field-id" v.field.id, bare "hidden"] []

end FormPress.FieldView
