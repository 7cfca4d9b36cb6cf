import FormPress.Document.Pixels
import FormPress.Form.Pages
import FormPress.Style.Title

/-!
# The page

The markup of the whole document: head with stylesheet, the form with its pages in the frame of its
layout, and the script at the end. What stands on a page is given as markup; this module puts it in
its place.
-/

namespace FormPress

structure DocumentParts where
  form : Form
  language : String
  fontStylesheet : Option String
  logo : Option String
  stylesheet : String
  script : String
  pages : List (Page × List Markup)

namespace DocumentParts

open Markup

/-- Whether any option has an address to show. -/
def showsAddress (d : DocumentParts) : Bool :=
  d.form.fields.any fun f => f.options.any fun c => (given? c.address).isSome

/-! ## Head -/

def stylesheetLink (url : String) : Markup :=
  .void "link" [attr "href" url, attr "rel" "stylesheet"]

/-- The style element: the stylesheet, and the rules of the author. -/
def styleElement (d : DocumentParts) : Markup :=
  .element "style" []
    [.raw ("\n" ++ d.stylesheet ++ "\n" ++
      (if d.form.theme.customCss = "" then ""
       else Style.block d.form.theme.customCss ++ "\n"))]

def head (d : DocumentParts) : Markup :=
  .element "head" []
    (onLines 0
      ([.void "meta" [attr "charset" "UTF-8"],
        .void "meta"
          [attr "name" "viewport", attr "content" "width=device-width, initial-scale=1.0"],
        label "title" [] d.form.title] ++
        ((given? d.fontStylesheet).toList.flatMap fun url =>
          [.void "link" [attr "rel" "preconnect", attr "href" "https://fonts.googleapis.com"],
           stylesheetLink url]) ++
        (d.form.theme.cursiveFontUrl?.toList.map stylesheetLink)) ++
      newline 0 :: d.form.pixels.markup ++ [newline 0, d.styleElement, newline 0])

/-! ## Header of the form -/

def titleRun (r : TitleRun) : Markup :=
  match r.style with
  | some style => label "span" [attr "class" "cursive", attr "style" style] r.text
  | none => label "span" [] r.text

def drawing (size : String) (shapes : List Markup) : Markup :=
  .element "svg"
    [attr "width" size, attr "height" size, attr "viewBox" "0 0 24 24", attr "fill" "none",
     attr "stroke" "currentColor", attr "stroke-width" "2", attr "stroke-linecap" "round",
     attr "stroke-linejoin" "round", attr "aria-hidden" "true"]
    shapes

/-- The outlines of a map pin. -/
def pin : List Markup :=
  [.closed "path" [attr "d" "M21 10c0 7-9 13-9 13s-9-6-9-13a9 9 0 0118 0z"],
   .closed "circle" [attr "cx" "12", attr "cy" "10", attr "r" "3"]]

/-- A line of a drawing. -/
def stroke (x1 y1 x2 y2 : String) : Markup :=
  .closed "line" [attr "x1" x1, attr "y1" y1, attr "x2" x2, attr "y2" y2]

def calendar : List Markup :=
  [.closed "rect"
     [attr "x" "3", attr "y" "4", attr "width" "18", attr "height" "18", attr "rx" "2",
      attr "ry" "2"],
   stroke "16" "2" "16" "6", stroke "8" "2" "8" "6", stroke "3" "10" "21" "10"]

/-- A text of the event line behind its drawing. -/
def eventItem (shapes : List Markup) (s : String) : Markup :=
  .element "span" [attr "class" "form-event-meta-item"] [drawing "13" shapes, .text s]

/-- Place and time of an event. -/
def eventLine (d : DocumentParts) : List Markup :=
  ((given? d.form.venue).toList.map (eventItem pin)) ++
    ((given? d.form.dateTimeStamp).toList.map (eventItem calendar))

/-- Title, texts and event line. -/
def header (d : DocumentParts) : Markup :=
  block 2 "div" [attr "class" "form-header"]
    ([.element "h1" [] ((d.form.theme.titleRuns d.form.title).map titleRun)] ++
      ((given? d.form.subHeader).toList.map (label "p" [attr "class" "form-sub-header"])) ++
      ((given? d.form.description).toList.map (label "p" [])) ++
      (if d.eventLine.isEmpty then []
       else [block 4 "div" [attr "class" "form-event-meta"] d.eventLine]))

/-! ## Pages -/

def pageDot (p : Page) : Markup :=
  .element "div"
    [attr "class" (if p.index = 0 then "page-dot active" else "page-dot"),
     attr "data-dot" (Text.decimal p.index)] []

/-- The dots of all pages, when there are several. -/
def pageIndicator (d : DocumentParts) : List Markup :=
  if d.pages.length ≤ 1 then []
  else [block 4 "div" [attr "class" "page-indicator"] (d.pages.map fun p => pageDot p.1)]

def submitButton (d : DocumentParts) : Markup :=
  label "button" [attr "type" "submit", attr "class" "submit-btn"] d.form.submitButtonText

def turnButton (css direction title : String) : Markup :=
  label "button" [attr "type" "button", attr "class" css, attr "data-page-nav" direction] title

def pageButtons (d : DocumentParts) (p : Page) : Markup :=
  if p.count ≤ 1 then block 8 "div" [attr "class" "submit-row"] [d.submitButton]
  else
    block 8 "div" [attr "class" "page-nav"]
      ((if p.hasPrevious then [turnButton "btn-back" "back" "Back"] else []) ++
        [if p.hasNext then turnButton "btn-next" "next" "Next" else d.submitButton])

/-- A page with its fields and its buttons. -/
def pageMarkup (d : DocumentParts) (page : Page × List Markup) : Markup :=
  let p := page.1
  block 6 "div"
    ([attr "class" (if p.index = 0 then "form-page active" else "form-page"),
      attr "data-page" (Text.decimal p.index)] ++ bareIf "hidden" (p.index != 0))
    [block 8 "div" [attr "class" "form-fields-grid"] page.2, d.pageButtons p]

def formElement (d : DocumentParts) : Markup :=
  block 4 "form" [attr "id" "generated-form", bare "novalidate"]
    (d.pages.map d.pageMarkup ++
      [.element "div"
        [attr "id" "form-error", attr "class" "form-error", attr "role" "alert", bare "hidden"]
        []])

/-- The place for the address of an option, when one has any. -/
def addressDisplay (d : DocumentParts) : List Markup :=
  if d.showsAddress then
    [block 4 "div" [attr "id" "address-display", attr "class" "address-display", bare "hidden"]
      [drawing "16" pin, .element "span" [attr "class" "address-text"] []]]
  else []

/-! ## Body -/

def logoMarkup (url : String) : Markup :=
  .element "div" [attr "class" "logo-container"] [.void "img" [attr "src" url, attr "alt" "Logo"]]

def container (d : DocumentParts) : Markup :=
  block 0 "div" [attr "class" "form-container"]
    (((given? d.logo).toList.map logoMarkup) ++
      [d.header,
       block 2 "div" [attr "class" "form-body"]
        (d.pageIndicator ++ [d.formElement] ++ d.addressDisplay)] ++
      ((given? d.form.footer).toList.map (label "div" [attr "class" "form-footer"])))

def imagePlace (css : String) : Markup :=
  .element "div" [attr "class" css, bare "data-hero-image"] []

/-- The container in the frame of the layout. -/
def frame (d : DocumentParts) : List Markup :=
  match d.form.layout with
  | .splitLeft | .splitRight =>
    [imagePlace "layout-image-panel",
     .element "div" [attr "class" "layout-form-panel"] [newline 0, d.container, newline 0]]
  | .bannerTop => [imagePlace "layout-banner", d.container]
  | .floating => [imagePlace "layout-backdrop", d.container]
  | .classic | .card | .fullscreen => [d.container]

/-- The script of the page inside a function of its own. -/
def scriptElement (d : DocumentParts) : Markup :=
  .element "script" []
    [.raw ("\n(function () \x7b\n\"use strict\";\n" ++ d.script ++
      "\nrefreshConditions();\n\x7d)();\n")]

def body (d : DocumentParts) : Markup :=
  .element "body"
    (if d.form.layout = .classic then [] else [attr "class" ("layout-" ++ d.form.layout.name)])
    (onLines 0 (d.frame ++ [d.scriptElement]) ++ [newline 0])

def markup (d : DocumentParts) : List Markup :=
  [.raw "<!DOCTYPE html>", newline 0,
   .element "html" [attr "lang" d.language]
    [newline 0, d.head, newline 0, d.body, newline 0]]

def write (d : DocumentParts) : String :=
  writeList d.markup

end DocumentParts

end FormPress
