import FormPress.Text.Blank
import FormPress.Text.Lower
import FormPress.Text.Word

/-!
# File name stems

A title becomes a file name in three steps: characters other than word characters, blanks and
hyphens are dropped and the rest is trimmed, capitals become small letters, and every run of blanks,
underscores and hyphens becomes one hyphen.
-/

namespace FormPress.Text

/-- What a title keeps. -/
def keptInSlug (c : Char) : Bool :=
  isWord c || isBlank c || c == '-'

/-- What separates the words of a title. -/
def isSlugBreak (c : Char) : Bool :=
  isBlank c || c == '_' || c == '-'

/-- One hyphen for each run of separators; `inRun` says that the run has its hyphen already. -/
def hyphenate (inRun : Bool) : List Char → List Char
  | [] => []
  | c :: rest =>
    if isSlugBreak c then
      if inRun then hyphenate true rest else '-' :: hyphenate true rest
    else c :: hyphenate false rest

/-- The file name stem of a title, which may be empty. -/
def slugChars (title : List Char) : List Char :=
  hyphenate false (lower (stripBy isBlank (title.filter keptInSlug)))

/-- The file name stem of a title, or a given text when the title leaves nothing. -/
def slug (title fallback : String) : String :=
  match slugChars title.toList with
  | [] => fallback
  | stem => String.ofList stem

end FormPress.Text
