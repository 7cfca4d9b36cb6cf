import FormPress.Field.Notice
import FormPress.Field.Scale
import FormPress.Field.Selection
import FormPress.Field.Widget
import FormPress.Log
import FormPress.Text.Quoted

/-!
# Rendering fields

The markup of a field by its kind. Most fields stand in a group with their label and their help
text; notices, marks and hidden fields stand alone. A field of an unknown kind is rendered as a text
input, and the log says so.
-/

namespace FormPress

/-- What a rendering depends on beside the fields. -/
structure RenderOptions where
  rawHtml : Bool := false
  animate : Bool := false
deriving DecidableEq, Repr

namespace FieldView

/-- The control of a field, without the group around it. -/
def controlOf (v : FieldView) (fields : List Field) (o : RenderOptions) :
    FieldKind → Except NumberFault Markup
  | .text | .conditional | .dependent => .ok (v.nativeInput "text")
  | .email => .ok (v.nativeInput "email")
  | .number => .ok (v.nativeInput "number")
  | .url => .ok (v.nativeInput "url")
  | .password => .ok (v.nativeInput "password")
  | .date => .ok (v.nativeInput "date")
  | .time => .ok (v.nativeInput "time")
  | .datetimeLocal => .ok (v.nativeInput "datetime-local")
  | .color => .ok (v.nativeInput "color")
  | .range => .ok (v.nativeInput "range")
  | .file => .ok (v.nativeInput "file")
  | .image => .ok (v.fileInput "image/*")
  | .video => .ok (v.fileInput "video/*")
  | .pdfViewer => .ok (v.fileInput "application/pdf")
  | .hidden => .ok v.hiddenInput
  | .textarea => .ok v.longText
  | .address => .ok v.address
  | .tel => .ok v.phone
  | .currency => .ok v.currency
  | .dateRange => .ok v.dateRange
  | .lookup => .ok (v.lookup fields)
  | .formula => .ok (v.formula fields)
  | .select => .ok v.dropDown
  | .multiselect => .ok v.multiList
  | .radio | .multipleChoice => .ok v.radioGroup
  | .checkbox => .ok v.checkbox
  | .checkboxes => .ok v.checkboxGroup
  | .switch => .ok v.switch
  | .pictureChoice => .ok v.pictureChoice
  | .ranking => .ok v.ranking
  | .rating => v.stars "rating"
  | .starRating => v.stars "star-rating"
  | .opinionScale => v.opinionScale
  | .signature => .ok v.signature
  | .voiceRecording => .ok v.voiceRecording
  | .richText => .ok v.richText
  | .socialLinks => .ok v.socialLinks
  | .sectionCollapse => .ok v.sectionCollapse
  | .subform => .ok subform
  | .submissionPicker => .ok v.submissionPicker
  | .heading => .ok (v.heading o.animate)
  | .paragraph => .ok (v.paragraph o.animate)
  | .banner => .ok (v.banner o.animate)
  | .divider => .ok (v.divider o.animate)
  | .htmlSnippet => .ok (v.htmlSnippet o.rawHtml o.animate)
  | .spacer => .ok (v.spacer o.animate)
  | .sectionBreak => .ok (v.sectionBreak o.animate)
  | .pageBreak => .ok v.pageBreak

open Markup

def labelMarkup (v : FieldView) : Markup :=
  .element "label" [attr "class" "form-label", attr "for" v.field.id]
    (.text v.field.label ::
      (if v.field.hasRequiredMark then [label "span" [attr "class" "required"] "*"] else []))

/-- A control in its group, between the label and the help text. -/
def grouped (v : FieldView) (animate : Bool) (control : Markup) : Markup :=
  block 0 "div" (v.group "form-group" animate).attributes
    ([v.labelMarkup, control] ++
      ((given? v.field.helpText).map (label "span" [attr "class" "help-text"])).toList)

end FieldView

def FieldKind.standsAlone : FieldKind → Bool
  | .hidden => true
  | k => k.isLayoutMark || k.isNotice

namespace Field

/-- The markup of a field among all fields. -/
def render (o : RenderOptions) (fields : List Field) (f : Field) : Except NumberFault Markup := do
  let v ← f.view
  match f.kind with
  | none => return v.grouped o.animate (v.nativeInput "text")
  | some kind =>
    let control ← v.controlOf fields o kind
    return if kind.standsAlone then control else v.grouped o.animate control

/-- What the log says about the rendering of a field. -/
def renderLines (f : Field) : List LogLine :=
  match f.kind, f.view with
  | none, .ok _ =>
    [⟨.debug, .fields,
      "Unknown field type " ++ Text.Quoted.write f.kindName ++ " for field " ++
        Text.Quoted.write f.id ++ ", rendering as text"⟩]
  | _, _ => []

def renderLogged (o : RenderOptions) (fields : List Field) (f : Field) :
    Logged (Except NumberFault Markup) :=
  ⟨f.renderLines, f.render o fields⟩

end Field

end FormPress
