import FormPress.Form.Basic
import FormPress.Form.Pages
import FormPress.Style.Sheet
import FormPress.Style.Token

/-!
# The layout of fields and pages

The rules that arrange the fields of a page: one column, two, three, or a grid of twelve columns on
which each field takes the columns of its width; narrow screens have one column. And the rules of a
form with more than one page: the dots that show the place, the buttons that turn, and the pages
that are not shown.
-/

namespace FormPress.Style

/-! ## Pages -/

def pagingRules : Sheet :=
  [.short ".page-indicator"
     [("display", "flex"), ("justify-content", "center"), ("gap", "8px"),
      ("margin-bottom", "20px")],
   .short ".page-dot"
     [("width", "10px"), ("height", "10px"), ("border-radius", "50%"),
      ("background", "var(--border-color)"), ("transition", "all 0.3s ease")],
   .short ".page-dot.active"
     [("background", "var(--primary-color)"), ("transform", "scale(1.25)")],
   .short ".page-dot.done" [("background", "var(--secondary-color)")],
   .short ".page-nav"
     [("display", "flex"), ("justify-content", "space-between"), ("gap", "12px"),
      ("margin-top", "24px")],
   .short ".page-nav .btn-back"
     [("background", "transparent"), ("color", "var(--primary-color)"),
      ("border", "2px solid var(--primary-color)")],
   .short ".page-nav .btn-next" [("margin-left", "auto")],
   .short ".form-page[hidden]" [("display", "none !important")]]

/-- The stylesheet of pages, empty for a single one. -/
def writePaging (pages : List Page) : String :=
  if pages.length < 2 then "" else write pagingRules

/-! ## The grid of fields -/

def fieldsGrid : String := ".form-fields-grid"

/-- The container as a grid of some columns. -/
def gridOf (columns gap : String) : Item :=
  .short fieldsGrid
    [("display", "grid"), ("grid-template-columns", "repeat(" ++ columns ++ ", 1fr)"),
     ("gap", gap)]

/-- One column on screens up to a width; `place` is the place of each field. -/
def oneColumnBelow (width place : String) : Item :=
  .media ("(max-width: " ++ width ++ ")")
    [(fieldsGrid, [("grid-template-columns", "1fr")]),
     (fieldsGrid ++ " > [data-field-id]", [("grid-column", place ++ " !important")])]

def gridRules (l : GridLayout) (gap : String) : Sheet :=
  match l with
  | .single =>
    [.short fieldsGrid [("display", "flex"), ("flex-direction", "column"), ("gap", gap)]]
  | .twoColumn => [gridOf "2" gap, oneColumnBelow "640px" "auto"]
  | .threeColumn =>
    [gridOf "3" gap,
     .media "(max-width: 768px)" [(fieldsGrid, [("grid-template-columns", "repeat(2, 1fr)")])],
     oneColumnBelow "480px" "auto"]
  | .custom =>
    [gridOf "12" gap,
     .short (fieldsGrid ++ " > [data-field-id]:not([style*=\"grid-column\"])")
       [("grid-column", "span 12 / span 12")],
     .short (fieldsGrid ++ " > .section-break") [("grid-column", "1 / -1")],
     oneColumnBelow "640px" "span 1"]

/-- The stylesheet of an arrangement with an authored gap; it ends in a line break. -/
def writeGrid (l : GridLayout) (gap : String) : String :=
  write (gridRules l (value gap)) ++ "\n"

end FormPress.Style
