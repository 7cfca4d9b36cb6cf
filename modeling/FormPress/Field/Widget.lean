import FormPress.Field.Entry

/-!
# Widget fields

Controls that live by their script: drawing, recording, formatted text, links to profiles, a part
that folds, a nested form and a choice among earlier submissions.
-/

namespace FormPress.FieldView

open Markup

/-- A button that is not a submit button. -/
def button (css : String) (attributes : List Attribute) (title : String) : Markup :=
  label "button" (attr "type" "button" :: attr "class" css :: attributes) title

/-- The hidden input that takes the value of a widget. -/
def widgetInput (v : FieldView) (attributes : List Attribute) : Markup :=
  .void "input"
    ([attr "type" "hidden", attr "id" v.field.id, attr "name" v.field.name] ++ attributes ++
      (if v.field.isRequired then [attr "data-widget-required" "true"] else []))

/-- A pad to draw on. -/
def signature (v : FieldView) : Markup :=
  block 0 "div" [attr "class" "signature-pad", attr "data-signature-for" v.field.id]
    [.element "canvas"
      [attr "id" ("sig_" ++ v.field.id), attr "width" "400", attr "height" "200",
       attr "style" "touch-action: none;"] [],
     v.widgetInput [],
     block 2 "div" [attr "class" "sig-controls"]
      [button "sig-btn" [attr "data-signature-action" "clear"] "Clear",
       button "sig-btn" [attr "data-signature-action" "undo"] "Undo"],
     label "p" [attr "class" "help-text"] "Draw your signature above"]

def voiceRecording (v : FieldView) : Markup :=
  block 0 "div" [attr "class" "voice-recording-group", attr "data-voice-for" v.field.id]
    [button "record-btn" [attr "data-voice-action" "start"] "Start Recording",
     button "stop-btn" [attr "data-voice-action" "stop", bare "hidden"] "Stop",
     .element "audio" [attr "class" "voice-preview", bare "controls", bare "hidden"] [],
     v.widgetInput []]

/-- The commands of the text editor with the signs of their buttons. -/
def editorCommands : List (String × String) :=
  [("bold", "B"), ("italic", "I"), ("underline", "U")]

def richText (v : FieldView) : Markup :=
  let content := v.field.defaultValue.getD ""
  block 0 "div" [attr "class" "rich-text-editor", attr "data-rich-text-for" v.field.id]
    [block 2 "div" [attr "class" "rte-toolbar"]
      (editorCommands.map fun c => button "rte-btn" [attr "data-rte-command" c.1] c.2),
     label "div"
      [attr "id" (v.field.id ++ "_editor"), attr "class" "rte-editor",
       attr "contenteditable" "true", attr "role" "textbox", attr "aria-multiline" "true"]
      content,
     v.widgetInput [attr "value" content]]

/-- The networks of a profile field with their placeholders. -/
def socialNetworks : List (String × String) :=
  [("facebook", "Facebook URL"), ("instagram", "Instagram URL"), ("twitter", "Twitter URL"),
   ("linkedin", "LinkedIn URL")]

/-- One address for each network. -/
def socialLinks (v : FieldView) : Markup :=
  block 0 "div" [attr "class" "social-links-group"]
    (socialNetworks.map fun n =>
      .void "input"
        [attr "type" "url", attr "name" (v.field.name ++ "_" ++ n.1),
         attr "class" "form-input social-link-input", attr "placeholder" n.2])

/-- A part that unfolds. -/
def sectionCollapse (v : FieldView) : Markup :=
  let content := v.field.id ++ "_content"
  block 0 "div" [attr "class" "section-collapse-group"]
    [button "collapse-toggle" [attr "data-collapse-toggle" content, attr "aria-expanded" "false"]
      (v.placeholderOr v.field.label),
     block 2 "div" [attr "class" "collapse-content", attr "id" content, bare "hidden"]
      ((given? v.field.defaultValue).map (label "p" [])).toList]

/-- The place of a nested form. -/
def subform : Markup :=
  block 0 "div" [attr "class" "subform-group"]
    [label "div" [attr "class" "subform-placeholder"]
      "Nested form fields will be rendered here"]

/-- A list for earlier submissions, which the page fills. -/
def submissionPicker (v : FieldView) : Markup :=
  block 0 "select" v.choice.attributes
    [label "option" [attr "value" "", bare "disabled", bare "selected"]
      (v.placeholderOr "Select from previous submissions")]

end FormPress.FieldView
