import FormPress.Field.View

/-!
# Scale fields

Stars from one up to the upper bound, and opinions from the lower to the upper bound. The bounds are
whole parts of authored numbers, so a bound that is not finite is a fault.
-/

namespace FormPress.FieldView

open Markup

/-- The whole numbers from one to another, the ends included. -/
def between (low high : Int) : List Int :=
  (List.range (high + 1 - low).toNat).map fun (n : Nat) => low + n

theorem mem_between {low high i : Int} : i ∈ between low high ↔ low ≤ i ∧ i ≤ high := by
  simp only [between, List.mem_map, List.mem_range]
  constructor
  · rintro ⟨n, hn, rfl⟩
    omega
  · intro h
    exact ⟨(i - low).toNat, by omega, by omega⟩

/-- Whether the default of a field is the decimal form of a value. -/
def isDefaultValue (v : FieldView) (value : Int) : Bool :=
  v.field.defaultValue == some (Text.decimalInt value)

/-- A bound that is given and not zero, or a standing one. -/
def nonzeroOr (standing : Int) (bound : Option Binary64) : Except NumberFault Int :=
  match bound.filter (!·.isZero) with
  | none => .ok standing
  | some x => x.whole

/-- A bound that is given, or a standing one. -/
def boundOr (standing : Int) (bound : Option Binary64) : Except NumberFault Int :=
  match bound with
  | none => .ok standing
  | some x => x.whole

/-- The number of stars when the field does not say it. -/
def defaultStars : Int := 5

/-- The ends of an opinion scale when the field does not say them. -/
def defaultScale : Int × Int := (1, 10)

/-- One star: its button and its label. -/
def star (v : FieldView) (css : String) (value : Int) : List Markup :=
  let n := Text.decimalInt value
  let id := v.field.id ++ "_" ++ n
  [.void "input"
    ([attr "type" "radio", attr "id" id, attr "name" v.field.name, attr "value" n,
      attr "class" "star-input"] ++
      bareIf "required" v.field.isRequired ++ bareIf "checked" (v.isDefaultValue value)),
   .element "label" [attr "for" id, attr "class" css, attr "title" n] [.entity "#9733"]]

/-- A row of stars, the highest first. -/
def starRow (v : FieldView) (base : String) (count : Int) : Markup :=
  block 0 "div" [attr "class" (base ++ "-group star-scale"), attr "role" "radiogroup"]
    ((between 1 count).reverse.flatMap (v.star (base ++ "-star")))

/-- Stars up to the upper bound of the field. -/
def stars (v : FieldView) (base : String) : Except NumberFault Markup :=
  (nonzeroOr defaultStars v.field.max).map (v.starRow base)

def scaleOption (v : FieldView) (value : Int) : Markup :=
  let n := Text.decimalInt value
  block 4 "label" [attr "class" "scale-option"]
    [.void "input"
      ([attr "type" "radio", attr "name" v.field.name, attr "value" n] ++
        bareIf "required" v.field.isRequired ++ bareIf "checked" (v.isDefaultValue value)),
     label "span" [] n]

def scaleEnds (low high : Int) : Markup :=
  block 2 "div" [attr "class" "scale-labels"]
    [label "span" [attr "class" "scale-min"] (Text.decimalInt low),
     label "span" [attr "class" "scale-max"] (Text.decimalInt high)]

/-- The values of an opinion scale, with their ends when there are any. -/
def scaleRow (v : FieldView) (low high : Int) : Markup :=
  block 0 "div" [attr "class" "opinion-scale-group"]
    ((if low ≤ high then [scaleEnds low high] else []) ++
      [block 2 "div" [attr "class" "scale-inputs"] ((between low high).map v.scaleOption)])

/-- The greatest number of values that a scale may have. -/
def greatestCount : Int := 0x7fffffffffffffff

/-- An opinion between the bounds of the field. -/
def opinionScale (v : FieldView) : Except NumberFault Markup := do
  let low ← boundOr defaultScale.1 v.field.min
  let high ← boundOr defaultScale.2 v.field.max
  if greatestCount < high + 1 - low then .error .tooMany
  return v.scaleRow low high

end FormPress.FieldView
