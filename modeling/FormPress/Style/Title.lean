import FormPress.Form.Basic
import FormPress.Style.Token
import FormPress.Text.Percent

/-!
# Titles

The title of a form as one or two runs of text, of which one may be set in a cursive font. A half of
a title is rounded up.
-/

namespace FormPress

/-- A run of the title; a cursive run carries its style. -/
structure TitleRun where
  text : String
  style : Option String := none
deriving DecidableEq, Repr

namespace Theme

/-- The style of a cursive run. The quotes around the name of the font are its only ones. -/
def cursiveStyle (t : Theme) : String :=
  "font-family: '" ++
    String.ofList ((Style.valueChars t.headerCursiveFont.toList).filter (· != '\'')) ++
    "', cursive; font-size: 1.2em;"

def titleRuns (t : Theme) (title : String) : List TitleRun :=
  let style := some t.cursiveStyle
  let half := (title.toList.length + 1) / 2
  let left := String.ofList (title.toList.take half)
  let right := String.ofList (title.toList.drop half)
  if !t.headerCursiveEnabled then [⟨title, none⟩]
  else
    match t.headerCursivePart with
    | .whole => [⟨title, style⟩]
    | .left => [⟨left, style⟩, ⟨right, none⟩]
    | .right => [⟨left, none⟩, ⟨right, style⟩]

/-- The address of the cursive font, when there is one. -/
def cursiveFontUrl? (t : Theme) : Option String :=
  if t.headerCursiveEnabled && t.headerCursiveFont != "" then
    some
      ("https://fonts.googleapis.com/css2?family=" ++
        Text.Percent.formValue t.headerCursiveFont ++ "&display=swap")
  else none

end Theme

end FormPress
