/-!
# Vocabularies

The closed sets of words of a form document. Each is an inductive type with a name for every member;
the names are the words of the document, pairwise distinct, so a word has at most one member.
-/

namespace FormPress

/-- A closed set of members with names. -/
class Vocabulary (α : Type) where
  all : List α
  name : α → String

def Vocabulary.ofName? {α : Type} [Vocabulary α] (word : String) : Option α :=
  (Vocabulary.all : List α).find? fun a => Vocabulary.name a == word

/-- The kinds of field that have a rendering of their own. -/
inductive FieldKind where
  | text | email | tel | number | url | password | textarea | select | radio | checkbox | date
  | time | datetimeLocal | file | range | color | hidden | lookup | formula | conditional
  | dependent | rating | signature | sectionBreak | pageBreak | heading | paragraph | banner
  | pictureChoice | multiselect | switch | multipleChoice | checkboxes | dateRange | ranking
  | starRating | opinionScale | richText | address | currency | voiceRecording | submissionPicker
  | subform | sectionCollapse | divider | htmlSnippet | spacer | image | video | pdfViewer
  | socialLinks
deriving DecidableEq, Repr

namespace FieldKind

/-- Every member, in the order in which messages list them. -/
def all : List FieldKind :=
  [.text, .email, .tel, .number, .url, .password, .textarea, .select, .radio, .checkbox, .date,
   .time, .datetimeLocal, .file, .range, .color, .hidden, .lookup, .formula, .conditional,
   .dependent, .rating, .signature, .sectionBreak, .pageBreak, .heading, .paragraph, .banner,
   .pictureChoice, .multiselect, .switch, .multipleChoice, .checkboxes, .dateRange, .ranking,
   .starRating, .opinionScale, .richText, .address, .currency, .voiceRecording, .submissionPicker,
   .subform, .sectionCollapse, .divider, .htmlSnippet, .spacer, .image, .video, .pdfViewer,
   .socialLinks]

/-- The word for a member. -/
def name : FieldKind → String
  | .text => "text"
  | .email => "email"
  | .tel => "tel"
  | .number => "number"
  | .url => "url"
  | .password => "password"
  | .textarea => "textarea"
  | .select => "select"
  | .radio => "radio"
  | .checkbox => "checkbox"
  | .date => "date"
  | .time => "time"
  | .datetimeLocal => "datetime-local"
  | .file => "file"
  | .range => "range"
  | .color => "color"
  | .hidden => "hidden"
  | .lookup => "lookup"
  | .formula => "formula"
  | .conditional => "conditional"
  | .dependent => "dependent"
  | .rating => "rating"
  | .signature => "signature"
  | .sectionBreak => "section-break"
  | .pageBreak => "page-break"
  | .heading => "heading"
  | .paragraph => "paragraph"
  | .banner => "banner"
  | .pictureChoice => "picture-choice"
  | .multiselect => "multiselect"
  | .switch => "switch"
  | .multipleChoice => "multiple-choice"
  | .checkboxes => "checkboxes"
  | .dateRange => "date-range"
  | .ranking => "ranking"
  | .starRating => "star-rating"
  | .opinionScale => "opinion-scale"
  | .richText => "rich-text"
  | .address => "address"
  | .currency => "currency"
  | .voiceRecording => "voice-recording"
  | .submissionPicker => "submission-picker"
  | .subform => "subform"
  | .sectionCollapse => "section-collapse"
  | .divider => "divider"
  | .htmlSnippet => "html-snippet"
  | .spacer => "spacer"
  | .image => "image"
  | .video => "video"
  | .pdfViewer => "pdf-viewer"
  | .socialLinks => "social-links"

instance : Vocabulary FieldKind := ⟨all, name⟩

end FieldKind

/-- The comparisons of a condition. `oneOf` is written for an option that several groups of
dependent options list. -/
inductive Operator where
  | equals | notEquals | contains | greaterThan | lessThan | isEmpty | isNotEmpty | oneOf
deriving DecidableEq, Repr

namespace Operator

/-- Every member, in the order in which messages list them. -/
def all : List Operator :=
  [.equals, .notEquals, .contains, .greaterThan, .lessThan, .isEmpty, .isNotEmpty, .oneOf]

/-- The word for a member. -/
def name : Operator → String
  | .equals => "equals"
  | .notEquals => "not_equals"
  | .contains => "contains"
  | .greaterThan => "greater_than"
  | .lessThan => "less_than"
  | .isEmpty => "is_empty"
  | .isNotEmpty => "is_not_empty"
  | .oneOf => "in"

instance : Vocabulary Operator := ⟨all, name⟩

end Operator

/-- What a field rule does when its condition holds. -/
inductive RuleAction where
  | reveal | conceal | demand | setValue
deriving DecidableEq, Repr

namespace RuleAction

/-- Every member, in the order in which messages list them. -/
def all : List RuleAction :=
  [.reveal, .conceal, .demand, .setValue]

/-- The word for a member. -/
def name : RuleAction → String
  | .reveal => "show"
  | .conceal => "hide"
  | .demand => "require"
  | .setValue => "set_value"

instance : Vocabulary RuleAction := ⟨all, name⟩

end RuleAction

/-- The arrangements of the page around the form. -/
inductive PageLayout where
  | classic | card | splitLeft | splitRight | bannerTop | floating | fullscreen
deriving DecidableEq, Repr

namespace PageLayout

/-- Every member, in the order in which messages list them. -/
def all : List PageLayout :=
  [.classic, .card, .splitLeft, .splitRight, .bannerTop, .floating, .fullscreen]

/-- The word for a member. -/
def name : PageLayout → String
  | .classic => "classic"
  | .card => "card"
  | .splitLeft => "split-left"
  | .splitRight => "split-right"
  | .bannerTop => "banner-top"
  | .floating => "floating"
  | .fullscreen => "fullscreen"

instance : Vocabulary PageLayout := ⟨all, name⟩

end PageLayout

/-- The arrangements of the fields on a page. -/
inductive GridLayout where
  | single | twoColumn | threeColumn | custom
deriving DecidableEq, Repr

namespace GridLayout

/-- Every member, in the order in which messages list them. -/
def all : List GridLayout :=
  [.single, .twoColumn, .threeColumn, .custom]

/-- The word for a member. -/
def name : GridLayout → String
  | .single => "single"
  | .twoColumn => "two-column"
  | .threeColumn => "three-column"
  | .custom => "custom"

instance : Vocabulary GridLayout := ⟨all, name⟩

end GridLayout

/-- How the layout image fills its panel. -/
inductive ImageFit where
  | cover | contain | fill | natural | zoomIn | zoomOut | tile
deriving DecidableEq, Repr

namespace ImageFit

/-- Every member, in the order in which messages list them. -/
def all : List ImageFit :=
  [.cover, .contain, .fill, .natural, .zoomIn, .zoomOut, .tile]

/-- The word for a member. -/
def name : ImageFit → String
  | .cover => "cover"
  | .contain => "contain"
  | .fill => "fill"
  | .natural => "natural"
  | .zoomIn => "zoom-in"
  | .zoomOut => "zoom-out"
  | .tile => "tile"

instance : Vocabulary ImageFit := ⟨all, name⟩

end ImageFit

/-- The depth of the shadow under the form. -/
inductive Shadow where
  | flat | small | medium | large | extraLarge | huge
deriving DecidableEq, Repr

namespace Shadow

/-- Every member, in the order in which messages list them. -/
def all : List Shadow :=
  [.flat, .small, .medium, .large, .extraLarge, .huge]

/-- The word for a member. -/
def name : Shadow → String
  | .flat => "none"
  | .small => "sm"
  | .medium => "md"
  | .large => "lg"
  | .extraLarge => "xl"
  | .huge => "2xl"

instance : Vocabulary Shadow := ⟨all, name⟩

end Shadow

/-- Where a line of text is set. -/
inductive Alignment where
  | left | center | right
deriving DecidableEq, Repr

namespace Alignment

/-- Every member, in the order in which messages list them. -/
def all : List Alignment :=
  [.left, .center, .right]

/-- The word for a member. -/
def name : Alignment → String
  | .left => "left"
  | .center => "center"
  | .right => "right"

instance : Vocabulary Alignment := ⟨all, name⟩

end Alignment

/-- The request methods of a webhook. -/
inductive SendMethod where
  | post | put | patch
deriving DecidableEq, Repr

namespace SendMethod

/-- Every member, in the order in which messages list them. -/
def all : List SendMethod :=
  [.post, .put, .patch]

/-- The word for a member. -/
def name : SendMethod → String
  | .post => "POST"
  | .put => "PUT"
  | .patch => "PATCH"

instance : Vocabulary SendMethod := ⟨all, name⟩

end SendMethod

/-- The pace of an entrance. -/
inductive Easing where
  | ease | easeIn | easeOut | easeInOut | spring | bounce
deriving DecidableEq, Repr

namespace Easing

/-- Every member, in the order in which messages list them. -/
def all : List Easing :=
  [.ease, .easeIn, .easeOut, .easeInOut, .spring, .bounce]

/-- The word for a member. -/
def name : Easing → String
  | .ease => "ease"
  | .easeIn => "ease-in"
  | .easeOut => "ease-out"
  | .easeInOut => "ease-in-out"
  | .spring => "spring"
  | .bounce => "bounce"

instance : Vocabulary Easing := ⟨all, name⟩

end Easing

inductive LogoEntrance where
  | still | fadeIn | zoomIn | spinIn | floatIn | glowPulse | revealClip
deriving DecidableEq, Repr

namespace LogoEntrance

/-- Every member, in the order in which messages list them. -/
def all : List LogoEntrance :=
  [.still, .fadeIn, .zoomIn, .spinIn, .floatIn, .glowPulse, .revealClip]

/-- The word for a member. -/
def name : LogoEntrance → String
  | .still => "none"
  | .fadeIn => "fadeIn"
  | .zoomIn => "zoomIn"
  | .spinIn => "spinIn"
  | .floatIn => "floatIn"
  | .glowPulse => "glowPulse"
  | .revealClip => "revealClip"

instance : Vocabulary LogoEntrance := ⟨all, name⟩

end LogoEntrance

inductive TitleEntrance where
  | still | fadeIn | slideDown | bounceIn | typewriter | splitReveal | glitchIn | perspectiveFlip
deriving DecidableEq, Repr

namespace TitleEntrance

/-- Every member, in the order in which messages list them. -/
def all : List TitleEntrance :=
  [.still, .fadeIn, .slideDown, .bounceIn, .typewriter, .splitReveal, .glitchIn, .perspectiveFlip]

/-- The word for a member. -/
def name : TitleEntrance → String
  | .still => "none"
  | .fadeIn => "fadeIn"
  | .slideDown => "slideDown"
  | .bounceIn => "bounceIn"
  | .typewriter => "typewriter"
  | .splitReveal => "splitReveal"
  | .glitchIn => "glitchIn"
  | .perspectiveFlip => "perspectiveFlip"

instance : Vocabulary TitleEntrance := ⟨all, name⟩

end TitleEntrance

/-- The entrances of the line with venue and date. -/
inductive HeaderEntrance where
  | still | fadeIn | slideDown | expandIn | blurIn
deriving DecidableEq, Repr

namespace HeaderEntrance

/-- Every member, in the order in which messages list them. -/
def all : List HeaderEntrance :=
  [.still, .fadeIn, .slideDown, .expandIn, .blurIn]

/-- The word for a member. -/
def name : HeaderEntrance → String
  | .still => "none"
  | .fadeIn => "fadeIn"
  | .slideDown => "slideDown"
  | .expandIn => "expandIn"
  | .blurIn => "blurIn"

instance : Vocabulary HeaderEntrance := ⟨all, name⟩

end HeaderEntrance

inductive FieldEntrance where
  | still | fadeIn | slideUp | stagger | cascadeIn | flipIn | springIn
deriving DecidableEq, Repr

namespace FieldEntrance

/-- Every member, in the order in which messages list them. -/
def all : List FieldEntrance :=
  [.still, .fadeIn, .slideUp, .stagger, .cascadeIn, .flipIn, .springIn]

/-- The word for a member. -/
def name : FieldEntrance → String
  | .still => "none"
  | .fadeIn => "fadeIn"
  | .slideUp => "slideUp"
  | .stagger => "stagger"
  | .cascadeIn => "cascadeIn"
  | .flipIn => "flipIn"
  | .springIn => "springIn"

instance : Vocabulary FieldEntrance := ⟨all, name⟩

end FieldEntrance

inductive FooterEntrance where
  | still | fadeIn | slideUp | expandIn
deriving DecidableEq, Repr

namespace FooterEntrance

/-- Every member, in the order in which messages list them. -/
def all : List FooterEntrance :=
  [.still, .fadeIn, .slideUp, .expandIn]

/-- The word for a member. -/
def name : FooterEntrance → String
  | .still => "none"
  | .fadeIn => "fadeIn"
  | .slideUp => "slideUp"
  | .expandIn => "expandIn"

instance : Vocabulary FooterEntrance := ⟨all, name⟩

end FooterEntrance

/-- The part of the title that is set in the cursive font. -/
inductive CursivePart where
  | whole | left | right
deriving DecidableEq, Repr

namespace CursivePart

/-- Every member, in the order in which messages list them. -/
def all : List CursivePart :=
  [.whole, .left, .right]

/-- The word for a member. -/
def name : CursivePart → String
  | .whole => "all"
  | .left => "left"
  | .right => "right"

instance : Vocabulary CursivePart := ⟨all, name⟩

end CursivePart

end FormPress
