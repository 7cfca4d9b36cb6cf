import FormPress.Style.Sheet

/-!
# Rules for controls

The part of the stylesheet that draws the controls of fields and the notices between them. It is the
same for all forms; what differs stands in variables.
-/

namespace FormPress.Style

/-- A colour that runs into another along the diagonal. -/
def gradient (first last : String) : String :=
  "linear-gradient(135deg, " ++ first ++ " 0%, " ++ last ++ " 100%)"

def onLines (selectors : List String) : String :=
  Text.join ",\n" selectors

/-- The arrow of a drop-down list, as an image inside the stylesheet. -/
def dropDownArrow : String :=
  "data:image/svg+xml,%3csvg xmlns='http://www.w3.org/2000/svg' fill='none' " ++
    "viewBox='0 0 20 20'%3e%3cpath stroke='%236b7280' stroke-linecap='round' " ++
    "stroke-linejoin='round' stroke-width='2' d='m6 8l4 4 4-4'/%3e%3c/svg%3e"

def inputRules : Sheet :=
  [.long ".form-input" <| each
     [("width", "100%"), ("padding", "var(--input-padding)"),
      ("border", "2px solid var(--border-color)"), ("border-radius", "8px"),
      ("font-family", "inherit"), ("font-size", "var(--input-font-size)"),
      ("background", "var(--input-bg)"), ("color", "var(--text-primary)"),
      ("transition", "all 0.2s ease")],
   .long ".form-input:focus" <| each
     [("outline", "none"), ("border-color", "var(--border-focus)"),
      ("box-shadow", "0 0 0 3px color-mix(in srgb, var(--primary-color) 10%, transparent)")],
   .short ".form-input::placeholder" [("color", "var(--text-light)")],
   .long "select.form-input:not([multiple])" <| each
     [("cursor", "pointer"), ("appearance", "none"),
      ("background-image", "url(\"" ++ dropDownArrow ++ "\")"),
      ("background-position", "right 12px center"), ("background-repeat", "no-repeat"),
      ("background-size", "16px"), ("padding-right", "40px")],
   .short "textarea.form-input" [("resize", "vertical"), ("min-height", "100px")],
   .short ".formula-field, .lookup-field"
     [("background", "var(--bg-secondary)"), ("font-family", "monospace")]]

/-- Buttons and boxes. -/
def choiceRules : Sheet :=
  [.short ".radio-group, .checkbox-group"
     [("display", "flex"), ("flex-direction", "column"), ("gap", "8px"),
      ("border", "2px solid transparent"), ("border-radius", "8px")],
   .long ".radio-option, .checkbox-option"
     [[("display", "flex"), ("align-items", "center"), ("gap", "8px")],
      [("font-size", "14px"), ("cursor", "pointer"), ("padding", "10px 14px")],
      [("border", "2px solid var(--border-color)"), ("border-radius", "8px")],
      [("transition", "all 0.15s ease")]],
   .short ".radio-option:hover, .checkbox-option:hover"
     [("border-color", "var(--border-focus)"), ("background", "var(--bg-secondary)")],
   .short ".radio-option input, .checkbox-option input" [("accent-color", "var(--primary-color)")]]

/-- Stars and opinion scales. -/
def scaleRules : Sheet :=
  [.short ".star-scale"
     [("display", "inline-flex"), ("flex-direction", "row-reverse"),
      ("justify-content", "flex-end"), ("gap", "4px"), ("font-size", "28px")],
   .short ".star-scale .star-input"
     [("position", "absolute"), ("opacity", "0"), ("width", "0"), ("height", "0")],
   .short ".rating-star, .star-rating-star"
     [("cursor", "pointer"), ("color", "var(--border-color)"), ("transition", "color 0.15s")],
   .short
     (onLines [".star-scale label:hover, .star-scale label:hover ~ label",
       ".star-scale .star-input:checked ~ label"])
     [("color", "#f59e0b")],
   .short ".opinion-scale-group .scale-labels"
     [("display", "flex"), ("justify-content", "space-between"), ("font-size", "12px"),
      ("color", "var(--text-secondary)")],
   .short ".opinion-scale-group .scale-inputs"
     [("display", "flex"), ("flex-wrap", "wrap"), ("gap", "6px")],
   .short ".scale-option"
     [("display", "inline-flex"), ("align-items", "center"), ("gap", "4px"),
      ("padding", "6px 10px"), ("border", "2px solid var(--border-color)"),
      ("border-radius", "8px"), ("cursor", "pointer"), ("font-size", "14px")],
   .short ".scale-option:has(input:checked)"
     [("border-color", "var(--primary-color)"),
      ("background", "color-mix(in srgb, var(--primary-color) 8%, transparent)")]]

def rankingRules : Sheet :=
  [.short ".ranking-list"
     [("list-style", "none"), ("display", "flex"), ("flex-direction", "column"), ("gap", "6px")],
   .short ".ranking-item"
     [("display", "flex"), ("align-items", "center"), ("gap", "8px"), ("padding", "8px 12px"),
      ("border", "2px solid var(--border-color)"), ("border-radius", "8px"),
      ("counter-increment", "rank")],
   .short ".ranking-item::before"
     [("content", "counter(rank) \".\""), ("font-weight", "600"),
      ("color", "var(--primary-color)")],
   .short ".ranking-label" [("flex", "1")],
   .short ".ranking-move"
     [("border", "1px solid var(--border-color)"), ("background", "var(--bg-primary)"),
      ("border-radius", "6px"), ("padding", "2px 8px"), ("cursor", "pointer")],
   .short ".ranking-list" [("counter-reset", "rank")]]

def switchRules : Sheet :=
  [.short ".switch-group"
     [("display", "inline-flex"), ("align-items", "center"), ("cursor", "pointer")],
   .short ".switch-input"
     [("position", "absolute"), ("opacity", "0"), ("width", "0"), ("height", "0")],
   .short ".switch-slider"
     [("width", "44px"), ("height", "24px"), ("border-radius", "12px"),
      ("background", "var(--border-color)"), ("position", "relative"),
      ("transition", "background 0.2s")],
   .short ".switch-slider::after"
     [("content", "\"\""), ("position", "absolute"), ("top", "3px"), ("left", "3px"),
      ("width", "18px"), ("height", "18px"), ("border-radius", "50%"), ("background", "#fff"),
      ("transition", "transform 0.2s")],
   .short ".switch-input:checked + .switch-slider" [("background", "var(--primary-color)")],
   .short ".switch-input:checked + .switch-slider::after" [("transform", "translateX(20px)")]]

def pictureRules : Sheet :=
  [.short ".picture-choice-group"
     [("display", "grid"), ("grid-template-columns", "repeat(auto-fill, minmax(120px, 1fr))"),
      ("gap", "10px")],
   .short ".picture-choice-option"
     [("border", "2px solid var(--border-color)"), ("border-radius", "8px"),
      ("overflow", "hidden"), ("cursor", "pointer")],
   .short ".picture-choice-option input" [("position", "absolute"), ("opacity", "0")],
   .short ".picture-choice-option:has(input:checked)" [("border-color", "var(--primary-color)")],
   .short ".picture-choice-image" [("display", "block"), ("width", "100%"), ("height", "auto")]]

/-- Controls made of several inputs. -/
def compoundRules : Sheet :=
  [.short ".phone-input-group" [("display", "flex"), ("gap", "8px")],
   .short ".country-code-select"
     [("width", "110px !important"), ("flex-shrink", "0"), ("font-size", "14px !important"),
      ("padding-right", "28px !important")],
   .short ".phone-number-input" [("flex", "1")],
   .short ".currency-input-group" [("display", "flex"), ("align-items", "center"), ("gap", "8px")],
   .short ".currency-symbol" [("font-weight", "600"), ("color", "var(--text-secondary)")],
   .short ".date-range-group" [("display", "flex"), ("align-items", "center"), ("gap", "8px")],
   .short ".date-range-separator" [("color", "var(--text-secondary)")],
   .short ".social-links-group"
     [("display", "flex"), ("flex-direction", "column"), ("gap", "8px")]]

/-- Widgets with buttons of their own. -/
def widgetRules : Sheet :=
  [.short ".signature-pad"
     [("border", "2px solid var(--border-color)"), ("border-radius", "8px"), ("padding", "12px"),
      ("text-align", "center"), ("background", "var(--bg-secondary)")],
   .short ".signature-pad canvas"
     [("border", "1px dashed var(--border-color)"), ("border-radius", "4px"),
      ("max-width", "100%"), ("background", "#fff"), ("cursor", "crosshair")],
   .short ".sig-controls"
     [("display", "flex"), ("gap", "8px"), ("justify-content", "center"), ("margin-top", "8px")],
   .long ".sig-btn, .record-btn, .stop-btn, .rte-btn, .collapse-toggle" <| each
     [("padding", "6px 16px"), ("background", "none"), ("border", "1px solid var(--border-color)"),
      ("border-radius", "6px"), ("cursor", "pointer"), ("font-family", "inherit"),
      ("font-size", "12px"), ("transition", "all 0.15s")],
   .short
     ".sig-btn:hover, .record-btn:hover, .stop-btn:hover, .rte-btn:hover, .collapse-toggle:hover"
     [("border-color", "var(--primary-color)"), ("color", "var(--primary-color)")],
   .short ".voice-recording-group"
     [("display", "flex"), ("align-items", "center"), ("flex-wrap", "wrap"), ("gap", "8px")],
   .short ".rich-text-editor"
     [("border", "2px solid var(--border-color)"), ("border-radius", "8px"),
      ("overflow", "hidden")],
   .short ".rte-toolbar"
     [("display", "flex"), ("gap", "4px"), ("padding", "6px"),
      ("background", "var(--bg-secondary)"), ("border-bottom", "1px solid var(--border-color)")],
   .short ".rte-editor"
     [("min-height", "120px"), ("padding", "var(--input-padding)"), ("outline", "none")],
   .short ".collapse-toggle[aria-expanded=\"true\"]" [("color", "var(--primary-color)")],
   .short ".collapse-content" [("padding", "8px 0")],
   .short ".subform-placeholder"
     [("padding", "16px"), ("border", "2px dashed var(--border-color)"), ("border-radius", "8px"),
      ("color", "var(--text-secondary)"), ("font-size", "13px"), ("text-align", "center")]]

/-- Parts that take no input. -/
def noticeRules : Sheet :=
  [.short ".section-break"
     [("margin", "8px 0"), ("padding-bottom", "8px"),
      ("border-bottom", "2px solid var(--border-color)"), ("grid-column", "1 / -1")],
   .short ".section-break h3" [("font-size", "16px"), ("font-weight", "600")],
   .short ".form-heading"
     [("font-size", "18px"), ("font-weight", "700"), ("grid-column", "1 / -1")],
   .short ".form-paragraph"
     [("font-size", "14px"), ("color", "var(--text-secondary)"), ("grid-column", "1 / -1")],
   .short ".form-banner"
     [("position", "relative"), ("border-radius", "8px"), ("overflow", "hidden"),
      ("min-height", "120px"), ("background", "var(--primary-gradient)"),
      ("grid-column", "1 / -1")],
   .short ".form-banner .banner-image"
     [("position", "absolute"), ("inset", "0"), ("background-size", "cover"),
      ("background-position", "center")],
   .short ".form-banner .banner-content"
     [("position", "relative"), ("padding", "24px"), ("color", "#fff")],
   .short ".form-divider"
     [("border", "none"), ("height", "1px"), ("background", "var(--border-color)"),
      ("margin", "12px 0"), ("grid-column", "1 / -1")],
   .short ".form-spacer" [("grid-column", "1 / -1")],
   .short ".html-snippet" [("grid-column", "1 / -1")]]

def controlRules : Sheet :=
  inputRules ++ choiceRules ++ scaleRules ++ rankingRules ++ switchRules ++ pictureRules ++
    compoundRules ++ widgetRules ++ noticeRules

end FormPress.Style
