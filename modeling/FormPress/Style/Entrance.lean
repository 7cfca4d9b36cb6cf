import FormPress.Form.Basic
import FormPress.Log
import FormPress.Style.Sheet

/-!
# Entrance animations

Logo, titles, event line, fields and footer may each enter with a motion. Fields start invisible and
are revealed by a script; the other parts play their motion at once. Nothing is written when the
animations are switched off or every part stands still.
-/

namespace FormPress

/-- A motion with which a part enters. -/
inductive Motion where
  | fadeIn | slideDown | slideUp | zoomIn | spinIn | bounceIn | floatIn | glowPulse | revealClip
  | splitReveal | glitchIn | perspectiveFlip | expandIn | blurIn | cascadeIn | flipIn | springIn
deriving DecidableEq, Repr

/-- The name under which the stages of an effect are defined. -/
def keyframeName (effect : String) : String :=
  "_" ++ effect

namespace Motion

def effect : Motion → String
  | .fadeIn => "fadeIn"
  | .slideDown => "slideDown"
  | .slideUp => "slideUp"
  | .zoomIn => "zoomIn"
  | .spinIn => "spinIn"
  | .bounceIn => "bounceIn"
  | .floatIn => "floatIn"
  | .glowPulse => "glowPulse"
  | .revealClip => "revealClip"
  | .splitReveal => "splitReveal"
  | .glitchIn => "glitchIn"
  | .perspectiveFlip => "perspectiveFlip"
  | .expandIn => "expandIn"
  | .blurIn => "blurIn"
  | .cascadeIn => "cascadeIn"
  | .flipIn => "flipIn"
  | .springIn => "springIn"

def name (m : Motion) : String :=
  keyframeName m.effect

def frames : Motion → List (String × List Style.Declaration)
  | .fadeIn => [("from", [("opacity", "0")]), ("to", [("opacity", "1")])]
  | .slideDown =>
    [("from", [("opacity", "0"), ("transform", "translateY(-22px)")]),
     ("to", [("opacity", "1"), ("transform", "translateY(0)")])]
  | .slideUp =>
    [("from", [("opacity", "0"), ("transform", "translateY(22px)")]),
     ("to", [("opacity", "1"), ("transform", "translateY(0)")])]
  | .zoomIn =>
    [("from", [("opacity", "0"), ("transform", "scale(0.80)")]),
     ("to", [("opacity", "1"), ("transform", "scale(1)")])]
  | .spinIn =>
    [("from", [("opacity", "0"), ("transform", "rotate(-180deg) scale(0.5)")]),
     ("to", [("opacity", "1"), ("transform", "rotate(0deg) scale(1)")])]
  | .bounceIn =>
    [("0%", [("opacity", "0"), ("transform", "scale(0.3)")]),
     ("50%", [("opacity", "1"), ("transform", "scale(1.08)")]),
     ("80%", [("transform", "scale(0.95)")]), ("100%", [("transform", "scale(1)")])]
  | .floatIn =>
    [("0%", [("opacity", "0"), ("transform", "translateY(18px) scale(0.95)")]),
     ("60%", [("transform", "translateY(-6px) scale(1.02)")]),
     ("100%", [("opacity", "1"), ("transform", "none")])]
  | .glowPulse =>
    [("0%", [("opacity", "0"), ("filter", "brightness(3) blur(6px)")]),
     ("60%", [("filter", "brightness(1.4) blur(1px)")]),
     ("100%", [("opacity", "1"), ("filter", "none")])]
  | .revealClip =>
    [("from", [("opacity", "0"), ("clip-path", "inset(0 100% 0 0)")]),
     ("to", [("opacity", "1"), ("clip-path", "inset(0 0% 0 0)")])]
  | .splitReveal =>
    [("from", [("opacity", "0"), ("letter-spacing", "0.4em"), ("transform", "scaleX(1.25)")]),
     ("to", [("opacity", "1"), ("letter-spacing", "normal"), ("transform", "scaleX(1)")])]
  | .glitchIn =>
    [("0%", [("opacity", "0"), ("transform", "skew(6deg)")]),
     ("20%", [("opacity", "1"), ("transform", "skew(-4deg) translateX(4px)")]),
     ("40%", [("transform", "skew(2deg) translateX(-2px)")]),
     ("70%", [("transform", "skew(-1deg)")]), ("100%", [("opacity", "1"), ("transform", "none")])]
  | .perspectiveFlip =>
    [("from", [("opacity", "0"), ("transform", "perspective(500px) rotateX(90deg)")]),
     ("to", [("opacity", "1"), ("transform", "perspective(500px) rotateX(0)")])]
  | .expandIn =>
    [("from", [("opacity", "0"), ("transform", "scaleX(0.15)")]),
     ("to", [("opacity", "1"), ("transform", "scaleX(1)")])]
  | .blurIn =>
    [("from", [("opacity", "0"), ("filter", "blur(18px)")]),
     ("to", [("opacity", "1"), ("filter", "blur(0)")])]
  | .cascadeIn =>
    [("from", [("opacity", "0"), ("transform", "translateX(-30px)")]),
     ("to", [("opacity", "1"), ("transform", "none")])]
  | .flipIn =>
    [("from", [("opacity", "0"), ("transform", "perspective(400px) rotateY(90deg)")]),
     ("to", [("opacity", "1"), ("transform", "perspective(400px) rotateY(0)")])]
  | .springIn =>
    [("0%", [("opacity", "0"), ("transform", "scale(0.4)")]),
     ("55%", [("transform", "scale(1.12)")]), ("75%", [("transform", "scale(0.94)")]),
     ("100%", [("opacity", "1"), ("transform", "scale(1)")])]

end Motion

/-! ## Choices of the author -/

def LogoEntrance.motion? : LogoEntrance → Option Motion
  | .still => none
  | .fadeIn => some .fadeIn
  | .zoomIn => some .zoomIn
  | .spinIn => some .spinIn
  | .floatIn => some .floatIn
  | .glowPulse => some .glowPulse
  | .revealClip => some .revealClip

/-- The motion of the titles. Typing needs every letter apart, so it becomes a fade. -/
def TitleEntrance.motion? : TitleEntrance → Option Motion
  | .still => none
  | .fadeIn => some .fadeIn
  | .slideDown => some .slideDown
  | .bounceIn => some .bounceIn
  | .typewriter => some .fadeIn
  | .splitReveal => some .splitReveal
  | .glitchIn => some .glitchIn
  | .perspectiveFlip => some .perspectiveFlip

/-- The motion of the event line. -/
def HeaderEntrance.motion? : HeaderEntrance → Option Motion
  | .still => none
  | .fadeIn => some .fadeIn
  | .slideDown => some .slideDown
  | .expandIn => some .expandIn
  | .blurIn => some .blurIn

/-- The motion of a field. Fields that enter one after another slide. -/
def FieldEntrance.motion? : FieldEntrance → Option Motion
  | .still => none
  | .fadeIn => some .fadeIn
  | .slideUp => some .slideUp
  | .stagger => some .slideUp
  | .cascadeIn => some .cascadeIn
  | .flipIn => some .flipIn
  | .springIn => some .springIn

def FooterEntrance.motion? : FooterEntrance → Option Motion
  | .still => none
  | .fadeIn => some .fadeIn
  | .slideUp => some .slideUp
  | .expandIn => some .expandIn

/-- The timing function of an easing. -/
def Easing.value : Easing → String
  | .ease => "ease"
  | .easeIn => "ease-in"
  | .easeOut => "cubic-bezier(0.0, 0, 0.2, 1)"
  | .easeInOut => "ease-in-out"
  | .spring => "cubic-bezier(0.34, 1.56, 0.64, 1)"
  | .bounce => "cubic-bezier(0.68, -0.55, 0.265, 1.55)"

namespace Entrances

/-- The selector of the fields that wait to be revealed. -/
def fieldSelector : String := ".ff-reveal"

/-- The parts other than fields that move, in the order of the page, each with its selector. -/
def targets (e : Entrances) : List (String × Motion) :=
  [(".logo-container img", e.logo.motion?),
   (".form-header h1, .form-sub-header, .form-header p", e.title.motion?),
   (".form-event-meta", e.header.motion?),
   (".form-footer", e.footer.motion?)].filterMap fun t => t.2.map fun m => (t.1, m)

/-- The motion of the fields, when the animations are on. -/
def fieldMotion? (e : Entrances) : Option Motion :=
  if e.enabled then e.fields.motion? else none

/-- Whether fields start invisible. -/
def animatesFields (e : Entrances) : Bool :=
  e.fieldMotion?.isSome

/-- Whether anything moves. -/
def isActive (e : Entrances) : Bool :=
  e.enabled && (!e.targets.isEmpty || e.fields.motion?.isSome)

/-- The motions in use, each once. -/
def motions (e : Entrances) : List Motion :=
  Table.distinct (e.targets.map (·.2) ++ e.fields.motion?.toList)

def play (e : Entrances) (m : Motion) : Style.Declaration :=
  ("animation",
    m.name ++ " " ++ Text.decimalInt e.duration ++ "ms " ++ e.easing.value ++ " both")

/-- The rules of the fields: invisible at first, visible once they play. -/
def fieldRules (e : Entrances) (m : Motion) : Style.Sheet :=
  [.short fieldSelector [("opacity", "0")],
   .short (fieldSelector ++ ".animated") [e.play m, ("opacity", "1")]]

/-- The stages in use, the rules that play them, and the rules of the fields. -/
def rules (e : Entrances) : Style.Sheet :=
  (e.motions.map fun m => .keyframes m.name m.frames) ++
    (e.targets.map fun t => .short t.1 [e.play t.2]) ++
    (e.fields.motion?.toList.flatMap e.fieldRules)

/-- The stylesheet of the animations, empty when nothing moves; else it ends in a line break. -/
def writeStyle (e : Entrances) : String :=
  if e.isActive then Style.write e.rules ++ "\n" else ""

/-- The delay between fields, when they enter one after another. -/
def step (e : Entrances) : Int :=
  if e.fields = .stagger then e.staggerDelay else 0

/-- What the log says about the animations. -/
def logLines (e : Entrances) : List LogLine :=
  if e.isActive then
    [⟨.debug, .animation,
      "Compiled " ++ Text.decimal (e.targets.length + e.fields.motion?.toList.length) ++
        " animation rule(s)"⟩]
  else []

end Entrances

end FormPress
