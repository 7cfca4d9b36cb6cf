import FormPress.Field.Entry

/-!
# Selection fields

Controls that offer the options of a field: drop-down lists, groups of buttons or boxes, pictures,
and lists to be put in order; also the single box and the switch.
-/

namespace FormPress.FieldView

open Markup

/-- An option of a drop-down list. -/
def listOption (c : ChoiceView) : Markup :=
  label "option" (attr "value" c.value :: c.attributes ++ bareIf "selected" c.isChosen) c.label

/-- The empty option that asks for a choice; it is selected when no other is. -/
def promptOption (v : FieldView) : Markup :=
  label "option"
    ([attr "value" "", bare "disabled"] ++
      bareIf "selected" (!v.choices.any (·.isChosen)))
    (v.placeholderOr "Select an option")

/-- A drop-down list for one choice. -/
def dropDown (v : FieldView) : Markup :=
  block 0 "select" v.choice.attributes (v.promptOption :: v.choices.map listOption)

/-- A list for several choices. -/
def multiList (v : FieldView) : Markup :=
  block 0 "select" (v.choice.override [("multiple", some "")]).attributes
    (v.choices.map listOption)

/-- One button or box of a group. -/
def groupOption (v : FieldView) (type : String) (c : ChoiceView) : Markup :=
  block 2 "label" (attr "class" (type ++ "-option") :: c.attributes)
    [.void "input"
      ([attr "type" type, attr "name" v.field.name, attr "value" c.value] ++
        bareIf "required" (v.field.isRequired && type == "radio") ++
        bareIf "disabled" v.field.isDisabled ++ bareIf "checked" c.isChosen),
     label "span" [] c.label]

/-- A group of buttons or boxes of one input type. -/
def optionGroup (v : FieldView) (type : String) : Markup :=
  block 0 "div" [attr "class" (type ++ "-group"), attr "role" "group"]
    (v.choices.map (v.groupOption type))

/-- Buttons of which one is chosen. -/
def radioGroup (v : FieldView) : Markup :=
  v.optionGroup "radio"

/-- Boxes of which any may be chosen. -/
def checkboxGroup (v : FieldView) : Markup :=
  v.optionGroup "checkbox"

/-- A single box, checked at first by any default. -/
def boxOf (v : FieldView) (css : String) : Markup :=
  inputOf (v.choice.override
    [("type", some "checkbox"), ("checked", flagSlot (given? v.field.defaultValue).isSome),
     ("class", some css)])

/-- A box with the placeholder as its text. -/
def singleCheckbox (v : FieldView) : Markup :=
  block 0 "label" [attr "class" "checkbox-option"]
    (v.boxOf "form-checkbox" :: ((given? v.field.placeholder).map (label "span" [])).toList)

/-- A single box, or a group of boxes if the field has options. -/
def checkbox (v : FieldView) : Markup :=
  if v.choices.isEmpty then v.singleCheckbox else v.checkboxGroup

/-- A box drawn as a switch. -/
def switch (v : FieldView) : Markup :=
  block 0 "label" [attr "class" "switch-group"]
    [v.boxOf "switch-input",
     .element "span" [attr "class" "switch-slider", attr "aria-hidden" "true"] []]

/-- One picture; the label of its option is its address. -/
def pictureOption (v : FieldView) (c : ChoiceView) : Markup :=
  block 2 "label" (attr "class" "picture-choice-option" :: c.attributes)
    [.void "input"
      ([attr "type" "radio", attr "name" v.field.name, attr "value" c.value] ++
        bareIf "required" v.field.isRequired ++ bareIf "checked" c.isChosen),
     .void "img"
      [attr "src" c.label, attr "alt" c.value, attr "class" "picture-choice-image",
       attr "loading" "lazy"]]

def pictureChoice (v : FieldView) : Markup :=
  block 0 "div" [attr "class" "picture-choice-group", attr "role" "group"]
    (v.choices.map v.pictureOption)

def moveButton (direction title arrow : String) : Markup :=
  .element "button"
    [attr "type" "button", attr "class" "ranking-move", attr "data-ranking-move" direction,
     attr "aria-label" title]
    [.entity arrow]

def rankingItem (c : ChoiceView) : Markup :=
  block 4 "li" [attr "class" "ranking-item", attr "data-value" c.value]
    [label "span" [attr "class" "ranking-label"] c.label,
     moveButton "up" "Move up" "uarr", moveButton "down" "Move down" "darr"]

/-- Options to be put in order; the hidden input holds their values in the present order. -/
def ranking (v : FieldView) : Markup :=
  block 0 "div" [attr "class" "ranking-group", attr "data-ranking-for" v.field.id]
    [block 2 "ol" [attr "class" "ranking-list"] (v.choices.map rankingItem),
     .void "input"
      [attr "type" "hidden", attr "id" v.field.id, attr "name" v.field.name,
       attr "value" (Text.join valueSeparator (v.choices.map (·.value)))]]

end FormPress.FieldView
