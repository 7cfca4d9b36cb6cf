import FormPress.Number.Binary64
import FormPress.Text.Basic

/-!
# Number layouts

The shortest decimal that reads back as a given number, and how its digits are laid out. For one
digit, two, and so on, the two neighbours of the number on the grid of decimals with so many digits
are read back; the first grid with a hit gives the answer, of two hits the nearer one. Which one an
exact tie goes to is for the layout to say, and so are the exponents that are written positionally
and what follows a whole number; the exponent form has one digit before the point, a signed exponent
and at least two digits in it. Three layouts are in use: `source`, for values of a field and for
messages, `plain`, for other authored texts, and `json`.
-/

/-! ## Shortest decimals -/

namespace FormPress.Binary64

/-- A positive decimal: `coefficient * 10^exponent`. -/
structure Decimal where
  coefficient : Nat
  exponent : Int
deriving DecidableEq, Repr

/-- The decimal exponent of the leading digit of a positive fraction. -/
def leadingExponent (num den : Nat) : Int :=
  if den ≤ num then (digitCount (num / den) : Int) - 1
  else
    let count := digitCount (den / num)
    if den ≤ num * Nat.pow 10 (count - 1) then -((count : Int) - 1) else -(count : Int)

/-- The decimal reads back as the number. -/
def readsAs (x : Binary64) (d : Decimal) : Bool :=
  ofDecimal false d.coefficient d.exponent == x

/-- Which of two equally near decimals is taken. -/
inductive Tie where
  | even
  | above
deriving DecidableEq, Repr

/-- The better neighbour of `num / den` on the grid of multiples of `10^exponent`, if one reads
back as `x`. -/
def neighbour? (tie : Tie) (x : Binary64) (num den : Nat) (exponent : Int) : Option Decimal :=
  let a := num * Nat.pow 10 (-exponent).toNat
  let b := den * Nat.pow 10 exponent.toNat
  let below : Decimal := ⟨a / b, exponent⟩
  let above : Decimal := ⟨a / b + 1, exponent⟩
  let r := a % b
  let lowFirst := if 2 * r = b then tie == .even && a / b % 2 == 0 else decide (2 * r < b)
  let first := if lowFirst then below else above
  let second := if lowFirst then above else below
  if readsAs x first then some first else if readsAs x second then some second else none

/-- The first hit on the grids of `count` digits and more, `fuel` grids in all. -/
def searchDigits (tie : Tie) (x : Binary64) (num den : Nat) (leading : Int) :
    Nat → Nat → Option Decimal
  | 0, _ => none
  | fuel + 1, count =>
    match neighbour? tie x num den (leading - (count : Int) + 1) with
    | some d => some d
    | none => searchDigits tie x num den leading fuel (count + 1)

/-- A decimal without trailing zeros. -/
def Decimal.trim : Nat → Decimal → Decimal
  | 0, d => d
  | fuel + 1, d =>
    if d.coefficient ≠ 0 ∧ d.coefficient % 10 = 0 then
      Decimal.trim fuel ⟨d.coefficient / 10, d.exponent + 1⟩
    else d

/-- The exact value of a number as a decimal: units are multiples of `5^1074 * 10^-1074`. -/
def exactDecimal (x : Binary64) : Decimal :=
  ⟨x.magnitude * Nat.pow 5 1074, -1074⟩

/-- The shortest decimal that reads back as the magnitude of a finite number. -/
def shortest (tie : Tie) (x : Binary64) : Decimal :=
  match x with
  | .finite _ significand scale =>
    let y := Binary64.finite false significand scale
    let found :=
      searchDigits tie y y.magnitude unitsPerOne (leadingExponent y.magnitude unitsPerOne) 17 1
    (found.getD (exactDecimal y)).trim 1100
  | _ => ⟨0, 0⟩

end FormPress.Binary64

/-! ## Layouts -/

namespace FormPress

/-- The choices of a way to write numbers. -/
structure NumberLayout where
  /-- The leading exponents that are written positionally. -/
  positional : Int → Bool
  /-- What follows a whole number that is written positionally. -/
  wholeMark : String
  nanText : String
  infinityText : String
  /-- Which of two shortest decimals is taken when they are equally near. -/
  tie : Binary64.Tie

namespace NumberLayout

/-- Exponents from -4 to 15 are positional and a whole number shows `.0`. -/
def source : NumberLayout :=
  ⟨fun e => decide (-4 ≤ e ∧ e < 16), ".0", "nan", "inf", .even⟩

/-- All numbers are positional and a whole number shows no point; a tie goes up. -/
def plain : NumberLayout :=
  ⟨fun _ => true, "", "NaN", "inf", .above⟩

/-- The layout of JSON texts, which name the numbers that are not finite. -/
def json : NumberLayout :=
  ⟨fun e => decide (-4 ≤ e ∧ e < 16), ".0", "NaN", "Infinity", .even⟩

def zeros (n : Nat) : String :=
  String.ofList (List.replicate n '0')

/-- Digits with the point after the digit of exponent zero; `leading` is the exponent of the first
digit. -/
def writePositional (wholeMark : String) (digits : List Char) (leading : Int) : String :=
  let count : Int := digits.length
  if leading < 0 then "0." ++ zeros (-leading - 1).toNat ++ String.ofList digits
  else if count ≤ leading + 1 then
    String.ofList digits ++ zeros (leading + 1 - count).toNat ++ wholeMark
  else
    String.ofList (digits.take (leading + 1).toNat) ++ "." ++
      String.ofList (digits.drop (leading + 1).toNat)

/-- Digits with the point after the first of them, and the exponent. -/
def writeExponent (digits : List Char) (leading : Int) : String :=
  let mantissa :=
    match digits with
    | [] => ""
    | [d] => String.ofList [d]
    | d :: rest => String.ofList (d :: '.' :: rest)
  let size := Nat.toDigits 10 leading.natAbs
  let padded := if size.length < 2 then '0' :: size else size
  mantissa ++ (if leading < 0 then "e-" else "e+") ++ String.ofList padded

def write (layout : NumberLayout) (x : Binary64) : String :=
  let sign := if x.isNegative then "-" else ""
  match x with
  | .nan => layout.nanText
  | .infinite _ => sign ++ layout.infinityText
  | .finite _ significand _ =>
    if significand = 0 then sign ++ "0" ++ layout.wholeMark
    else
      let d := x.shortest layout.tie
      let digits := Nat.toDigits 10 d.coefficient
      let leading := d.exponent + digits.length - 1
      sign ++
        (if layout.positional leading then writePositional layout.wholeMark digits leading
         else writeExponent digits leading)

end NumberLayout

/-- A bound or step in markup and stylesheets: a whole number as an integer, other numbers by their
shortest digits. -/
def Binary64.label (x : Binary64) : String :=
  if x.isWhole then Text.decimalInt x.truncate else NumberLayout.source.write x

end FormPress
