import FormPress.Form.Basic
import FormPress.Style.Controls
import FormPress.Style.Token

/-!
# Themes

The stylesheet of a theme. The choices of the author become variables of the page; fixed rules use
them. Every authored text passes `Style.value` on its way into a variable.
-/

namespace FormPress

def Shadow.value : Shadow → String
  | .flat => "none"
  | .small => "0 1px 2px 0 rgba(0,0,0,0.05)"
  | .medium => "0 4px 6px -1px rgba(0,0,0,0.1)"
  | .large => "0 10px 15px -3px rgba(0,0,0,0.1)"
  | .extraLarge => "0 20px 25px -5px rgba(0,0,0,0.1), 0 10px 10px -5px rgba(0,0,0,0.04)"
  | .huge => "0 25px 50px -12px rgba(0,0,0,0.25)"

namespace Theme

/-- The padding at the sides of logo and header: that of the logo, else that of the form. -/
def sidePadding (t : Theme) : String :=
  (given? t.logoSidePadding).getD t.formPadding

/-- The padding above the header, less below a logo. -/
def headerPaddingTop (t : Theme) : String :=
  if t.showLogo then "10px" else "24px"

/-- Whether the colour of the page is a gradient of the author's own. -/
def hasGradient (t : Theme) : Bool :=
  Text.contains "gradient" t.backgroundColor

end Theme

namespace Style

/-- The background of the page: the author's gradient, or a gradient from the author's colour. -/
def pageBackground (t : Theme) : String :=
  if t.hasGradient then "var(--bg-page)" else gradient "var(--bg-page)" "#e2e8f0"

/-- The colours, sizes and texts of a theme as variables of the page. -/
def themeVariables (t : Theme) : Sheet :=
  [.long ":root" <| each
     [("--primary-color", value t.primaryColor), ("--secondary-color", value t.secondaryColor),
      ("--primary-gradient", gradient "var(--primary-color)" "var(--secondary-color)"),
      ("--text-primary", value t.textColor), ("--text-secondary", "#64748b"),
      ("--text-light", "#94a3b8"), ("--label-color", value t.labelColor),
      ("--bg-page", value t.backgroundColor), ("--bg-primary", value t.formBackgroundColor),
      ("--bg-secondary", "#f8fafc"), ("--input-bg", value t.inputBackgroundColor),
      ("--border-color", value t.inputBorderColor), ("--border-focus", "var(--primary-color)"),
      ("--button-text", value t.buttonTextColor), ("--radius", value t.borderRadius),
      ("--font-family", value t.fontFamily), ("--form-width", value t.formWidth),
      ("--form-max-width", value t.formMaxWidth), ("--form-padding", value t.formPadding),
      ("--input-padding", value t.inputPadding), ("--label-font-size", value t.labelFontSize),
      ("--input-font-size", value t.inputFontSize), ("--header-font-size", value t.headerFontSize),
      ("--header-font-weight", value t.headerFontWeight),
      ("--header-font-style", value t.headerFontStyle), ("--header-align", t.headerAlign.name),
      ("--label-align", t.labelAlign.name), ("--logo-max-width", value t.logoMaxWidth),
      ("--logo-top-padding", value t.logoTopPadding), ("--side-padding", value t.sidePadding),
      ("--field-gap", value t.fieldGap), ("--line-height", value t.lineHeight),
      ("--form-shadow", t.formShadow.value), ("--shadow-sm", "0 1px 2px 0 rgba(0,0,0,0.05)"),
      ("--shadow-md", "0 4px 6px -1px rgba(0,0,0,0.1)"),
      ("--shadow-lg", "0 10px 15px -3px rgba(0,0,0,0.1)")]]

/-- The page and the container of the form. -/
def pageRules (t : Theme) : Sheet :=
  [.short "[hidden]" [("display", "none !important")],
   .short "*" [("box-sizing", "border-box"), ("margin", "0"), ("padding", "0")],
   .long "body" <| each
     [("font-family", "var(--font-family)"), ("background", pageBackground t),
      ("min-height", "100vh"), ("display", "flex"), ("justify-content", "center"),
      ("align-items", "center"), ("padding", "20px"), ("color", "var(--text-primary)")],
   .long ".form-container" <| each
     [("background", "var(--bg-primary)"), ("border-radius", "var(--radius)"),
      ("box-shadow", "var(--form-shadow)"), ("width", "var(--form-width)"),
      ("max-width", "var(--form-max-width)"), ("position", "relative"), ("overflow", "hidden")],
   .long ".form-container::before"
     [[("content", "\"\"")],
      [("position", "absolute")],
      [("top", "0"), ("left", "0"), ("right", "0")],
      [("height", "4px")],
      [("background", "var(--primary-gradient)")]]]

/-- Logo, titles, event line, body and footer. -/
def headerRules (t : Theme) : Sheet :=
  [.long ".logo-container" <| each
     [("text-align", "var(--header-align)"),
      ("padding", "var(--logo-top-padding) var(--side-padding) 0"),
      ("background", "var(--bg-secondary)")],
   .short ".logo-container img"
     [("max-width", "var(--logo-max-width)"), ("height", "auto"),
      ("filter", "drop-shadow(0 1px 2px rgba(0,0,0,0.05))")],
   .long ".form-header" <| each
     [("padding", t.headerPaddingTop ++ " var(--side-padding) 16px"),
      ("text-align", "var(--header-align)"), ("background", "var(--bg-secondary)"),
      ("border-bottom", "1px solid var(--border-color)")],
   .long ".form-header h1" <| each
     [("font-size", "var(--header-font-size)"), ("font-weight", "var(--header-font-weight)"),
      ("font-style", "var(--header-font-style)"), ("color", "var(--text-primary)"),
      ("margin-bottom", "4px")],
   .short ".form-header .cursive" [("font-size", "1.2em")],
   .short ".form-header p" [("font-size", "14px"), ("color", "var(--text-secondary)")],
   .short ".form-sub-header"
     [("font-size", "14px"), ("font-weight", "500"), ("color", "var(--primary-color) !important"),
      ("margin-top", "4px"), ("letter-spacing", "0.02em")],
   .long ".form-event-meta" <| each
     [("display", "flex"), ("align-items", "center"), ("justify-content", "center"),
      ("flex-wrap", "wrap"), ("gap", "12px"), ("margin-top", "10px"), ("padding", "8px 16px"),
      ("background", "color-mix(in srgb, var(--primary-color) 6%, transparent)"),
      ("border", "1px solid color-mix(in srgb, var(--primary-color) 15%, transparent)"),
      ("border-radius", "8px")],
   .short ".form-event-meta-item"
     [("display", "flex"), ("align-items", "center"), ("gap", "5px"), ("font-size", "12px"),
      ("font-weight", "500"), ("color", "var(--text-secondary)")],
   .short ".form-event-meta-item svg" [("flex-shrink", "0"), ("opacity", "0.7")],
   .short ".form-body" [("padding", "24px var(--form-padding) var(--form-padding)")],
   .long ".form-footer" <| each
     [("text-align", "var(--header-align)"), ("font-size", "11px"), ("color", "var(--text-light)"),
      ("padding", "12px var(--form-padding) 16px"),
      ("border-top", "1px solid var(--border-color)"), ("line-height", "var(--line-height)")]]

/-- A field with its label and its help text. -/
def groupRules : Sheet :=
  [.short ".form-group" [("line-height", "var(--line-height)")],
   .long ".form-group > .form-label" <| each
     [("display", "block"), ("font-size", "var(--label-font-size)"), ("font-weight", "500"),
      ("color", "var(--label-color)"), ("text-align", "var(--label-align)"),
      ("margin-bottom", "6px")],
   .short ".required" [("color", "#ef4444"), ("margin-left", "2px")],
   .short ".help-text"
     [("display", "block"), ("font-size", "12px"), ("color", "var(--text-secondary)"),
      ("margin-top", "4px")],
   .short
     (onLines [".form-group.has-error .form-input", ".form-group.has-error .signature-pad",
       ".form-group.has-error .checkbox-group"])
     [("border-color", "#ef4444")]]

/-- The submit button and what follows it. -/
def submitRules : Sheet :=
  [.long ".submit-btn, .page-nav button" <| each
     [("width", "100%"), ("padding", "14px"), ("border", "none"), ("border-radius", "8px"),
      ("background", "var(--primary-gradient)"), ("color", "var(--button-text)"),
      ("font-family", "inherit"), ("font-size", "15px"), ("font-weight", "600"),
      ("cursor", "pointer"), ("transition", "all 0.2s ease"), ("box-shadow", "var(--shadow-md)")],
   .short ".submit-btn:hover"
     [("transform", "translateY(-2px)"), ("box-shadow", "var(--shadow-lg)")],
   .short ".submit-btn:disabled"
     [("background", gradient "#94a3b8" "#64748b"),
      ("cursor", "not-allowed"), ("transform", "none"), ("box-shadow", "var(--shadow-sm)")],
   .short ".submit-row" [("margin-top", "20px")],
   .short ".form-error"
     [("margin-top", "12px"), ("padding", "10px 14px"), ("border-radius", "8px"),
      ("background", "#fee2e2"), ("color", "#b91c1c"), ("font-size", "13px")],
   .short ".success-message" [("text-align", "center"), ("padding", "40px 20px")],
   .short ".success-message h2"
     [("font-size", "48px"), ("margin-bottom", "12px"), ("color", "var(--primary-color)")],
   .short ".success-message p" [("font-size", "16px"), ("color", "var(--text-secondary)")],
   .short ".address-display"
     [("display", "flex"), ("align-items", "center"), ("gap", "8px"), ("margin-top", "16px"),
      ("padding", "14px 16px"), ("background", "var(--bg-secondary)"), ("border-radius", "8px"),
      ("border", "1px solid var(--border-color)"), ("font-size", "13px"),
      ("color", "var(--text-secondary)")]]

def narrowRules : Sheet :=
  [.media "(max-width: 640px)"
     [(".form-body", [("padding", "20px 20px 24px")]),
      (".form-header", [("padding", "24px 20px 8px")]),
      (".phone-input-group, .date-range-group", [("flex-direction", "column"),
         ("align-items", "stretch")]),
      (".country-code-select", [("width", "100% !important")])]]

/-- The stylesheet of a theme, before the page layout. -/
def themeSheet (t : Theme) : Sheet :=
  themeVariables t ++ pageRules t ++ headerRules t ++ groupRules ++ controlRules ++ submitRules ++
    narrowRules

end Style

end FormPress
