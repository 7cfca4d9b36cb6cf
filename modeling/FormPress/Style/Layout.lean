import FormPress.Form.Pages
import FormPress.Number.Layout
import FormPress.Style.Controls
import FormPress.Style.Token

/-!
# Page layouts

The rules of the arrangements of a page around its form. Four of them show an image; the classic
arrangement has no rules of its own.
-/

namespace FormPress

/-- How an image fills its place: size and repetition. -/
def ImageFit.placement : ImageFit → String × String
  | .cover => ("cover", "no-repeat")
  | .contain => ("contain", "no-repeat")
  | .fill => ("100% 100%", "no-repeat")
  | .natural => ("auto", "no-repeat")
  | .zoomIn => ("130%", "no-repeat")
  | .zoomOut => ("70%", "no-repeat")
  | .tile => ("auto", "repeat")

structure LayoutImage where
  url : Option String := none
  fit : ImageFit := .cover
  positionX : Binary64 := .ofInt 50
  positionY : Binary64 := .ofInt 50
  panelWidth : Binary64 := .ofInt 45
deriving DecidableEq, Repr

namespace LayoutImage

/-- The image of a form: that of its first page. -/
def ofForm (form : Form) : LayoutImage :=
  ⟨form.heroImage? 0, form.layoutImageFit, form.layoutImagePositionX, form.layoutImagePositionY,
    form.layoutImagePanelWidth⟩

def size (i : LayoutImage) : String :=
  i.fit.placement.1

def repetition (i : LayoutImage) : String :=
  i.fit.placement.2

def position (i : LayoutImage) : String :=
  i.positionX.label ++ "% " ++ i.positionY.label ++ "%"

/-- The width that the image leaves to the form. -/
def formPanelWidth (i : LayoutImage) : Binary64 :=
  (Binary64.ofInt 100).sub i.panelWidth

def address (i : LayoutImage) : String :=
  Style.imageAddress (i.url.getD "")

def bannerImage (i : LayoutImage) : String :=
  match given? i.url with
  | some url => Style.imageAddress url
  | none => "var(--primary-gradient)"

end LayoutImage

namespace Style

/-- The colour behind an image. -/
def panelColor : String := "#6366f1"

def page (l : PageLayout) : String :=
  "body.layout-" ++ l.name

/-- On which side of the form the image stands. -/
def splitDirection (l : PageLayout) : String :=
  if l = .splitLeft then "row" else "row-reverse"

/-- A card with a deep shadow. -/
def cardRules : Sheet :=
  [.long "body.layout-card .form-container" <| each
     [("box-shadow",
        "0 32px 64px -12px rgba(0,0,0,0.28), 0 16px 32px -8px rgba(0,0,0,0.16), " ++
          "0 0 0 1px rgba(0,0,0,0.04)")]]

/-- The form beside an image panel. -/
def splitRules (l : PageLayout) (i : LayoutImage) : Sheet :=
  [.long (page l) <| each
     [("padding", "0"), ("align-items", "stretch"), ("justify-content", "flex-start"),
      ("min-height", "100vh"), ("flex-direction", splitDirection l)],
   .long ".layout-image-panel" <| each
     [("flex", "0 0 " ++ i.panelWidth.label ++ "%"), ("min-height", "100vh"),
      ("position", "relative"), ("overflow", "hidden"), ("background-color", panelColor),
      ("background-image", i.address), ("background-size", i.size),
      ("background-position", i.position), ("background-repeat", i.repetition)],
   .long ".layout-form-panel" <| each
     [("flex", "0 0 " ++ i.formPanelWidth.label ++ "%"), ("min-width", "0"),
      ("min-height", "100vh"), ("overflow-y", "auto"), ("display", "flex"),
      ("flex-direction", "column"), ("padding", "56px 64px"), ("background", "var(--bg-primary)")],
   .long (page l ++ " .form-container") <| each
     [("width", "100%"), ("max-width", "100%"), ("box-shadow", "none"), ("border-radius", "0"),
      ("background", "transparent")],
   .short (page l ++ " .form-container::before") [("display", "none")],
   .long
     (onLines
       [page l ++ " .logo-container", page l ++ " .form-header", page l ++ " .form-body"]) <| each
     [("padding-left", "0"), ("padding-right", "0")],
   .media "(max-width: 768px)"
     [(page l, [("flex-direction", "column")]),
      (".layout-image-panel", [("min-height", "260px"), ("flex", "none"), ("width", "100%")]),
      (".layout-form-panel", [("width", "100%"), ("padding", "40px 28px")])]]

def bannerRules (i : LayoutImage) : Sheet :=
  [.long "body.layout-banner-top" <| each
     [("flex-direction", "column"), ("align-items", "center"), ("justify-content", "flex-start"),
      ("padding", "0"), ("background", "var(--bg-primary)")],
   .long ".layout-banner" <| each
     [("width", "100%"), ("height", "260px"), ("flex-shrink", "0"),
      ("background-color", panelColor), ("background-image", i.bannerImage),
      ("background-size", i.size), ("background-position", i.position),
      ("background-repeat", i.repetition)],
   .long "body.layout-banner-top .form-container" <| each
     [("margin-top", "-48px"), ("margin-bottom", "32px"), ("position", "relative"),
      ("z-index", "1")]]

/-- The form over a blurred image. -/
def floatingRules (i : LayoutImage) : Sheet :=
  [.short "body.layout-floating" [("position", "relative")],
   .long ".layout-backdrop" <| each
     [("position", "fixed"), ("inset", "0"), ("z-index", "0"),
      ("background-color", "rgba(0,0,0,0.45)"), ("background-image", i.address),
      ("background-size", i.size), ("background-position", i.position),
      ("background-repeat", i.repetition), ("filter", "blur(10px)"), ("transform", "scale(1.05)")],
   .long "body.layout-floating .form-container" <| each
     [("position", "relative"), ("z-index", "1")]]

/-- The form over the whole page. -/
def fullscreenRules : Sheet :=
  [.long "body.layout-fullscreen" <| each
     [("padding", "0"), ("align-items", "stretch"), ("background", "var(--bg-primary)")],
   .long "body.layout-fullscreen .form-container" <| each
     [("border-radius", "0"), ("box-shadow", "none"), ("width", "100%"), ("max-width", "100%")]]

def layoutRules (l : PageLayout) (i : LayoutImage) : Sheet :=
  match l with
  | .classic => []
  | .card => cardRules
  | .splitLeft | .splitRight => splitRules l i
  | .bannerTop => bannerRules i
  | .floating => floatingRules i
  | .fullscreen => fullscreenRules

/-- The stylesheet of a layout, under a remark that names it; it ends in a line break. -/
def writeLayout (l : PageLayout) (i : LayoutImage) : String :=
  if l = .classic then "" else write (.comment ("layout: " ++ l.name) :: layoutRules l i) ++ "\n"

end Style

end FormPress
