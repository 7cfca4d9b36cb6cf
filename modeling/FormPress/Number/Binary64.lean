/-!
# Binary64 numbers

The numbers of a form are IEEE binary64 numbers, modelled exactly. A finite number is a significand
times a power of two, counted in units of `2^-1074`, the least positive number; so every finite
number is a whole number of units and all arithmetic is arithmetic of integers, rounded once at the
end to the nearest number, ties to the even significand.
-/

namespace FormPress

/-- A binary64 number. `finite negative significand scale` is `significand * 2^scale` units. -/
inductive Binary64 where
  | finite (negative : Bool) (significand scale : Nat)
  | infinite (negative : Bool)
  | nan
deriving DecidableEq, Repr

namespace Binary64

-- Powers are written with `Nat.pow`: the instance behind `^` depends on what is imported.

def unitsPerOne : Nat := Nat.pow 2 1074

/-- The largest scale of a finite number. -/
def maxScale : Nat := 2045

/-- A quotient rounded to the nearest natural number, a tie to the even one. -/
def roundHalfEven (num den : Nat) : Nat :=
  let q := num / den
  let r := num % den
  if 2 * r < den then q else if den < 2 * r then q + 1 else q + q % 2

/-- A rounded significand with its scale; a significand of 54 bits moves one bit up. -/
def pack (negative : Bool) (significand scale : Nat) : Binary64 :=
  if significand = Nat.pow 2 53 then
    if maxScale < scale + 1 then .infinite negative
    else .finite negative (Nat.pow 2 52) (scale + 1)
  else if maxScale < scale then .infinite negative
  else .finite negative significand scale

/-- The number nearest to `num / den` units. -/
def ofUnits (negative : Bool) (num den : Nat) : Binary64 :=
  let scale := Nat.log2 (num / den) - 52
  pack negative (roundHalfEven num (den * Nat.pow 2 scale)) scale

/-- The number nearest to the fraction `num / den`. -/
def ofRatio (negative : Bool) (num den : Nat) : Binary64 :=
  ofUnits negative (num * unitsPerOne) den

def zero : Binary64 := .finite false 0 0

def ofInt (i : Int) : Binary64 :=
  ofRatio (decide (i < 0)) i.natAbs 1

/-- The number of decimal digits of a natural number, one for zero. -/
def digitCount (n : Nat) : Nat :=
  (Nat.toDigits 10 n).length

/-- The number nearest to `coefficient * 10^exponent`. Beyond the range of all finite numbers the
power itself is never computed. -/
def ofDecimal (negative : Bool) (coefficient : Nat) (exponent : Int) : Binary64 :=
  if coefficient = 0 then .finite negative 0 0
  else if 310 < digitCount coefficient + exponent then .infinite negative
  else if digitCount coefficient + exponent < -330 then .finite negative 0 0
  else if 0 ≤ exponent then ofRatio negative (coefficient * Nat.pow 10 exponent.toNat) 1
  else ofRatio negative coefficient (Nat.pow 10 (-exponent).toNat)

/-- The magnitude of a finite number in units. -/
def magnitude : Binary64 → Nat
  | .finite _ significand scale => significand * Nat.pow 2 scale
  | _ => 0

def units : Binary64 → Int
  | .finite negative significand scale =>
    if negative then -((significand * Nat.pow 2 scale : Nat) : Int)
    else (significand * Nat.pow 2 scale : Nat)
  | _ => 0

/-- Whether the sign bit is set. -/
def isNegative : Binary64 → Bool
  | .finite negative _ _ => negative
  | .infinite negative => negative
  | .nan => false

/-- Strictly less; nothing is less than or greater than a NaN, and the zeros are equal. -/
def lt : Binary64 → Binary64 → Bool
  | .nan, _ => false
  | _, .nan => false
  | .infinite n, .infinite m => n && !m
  | .infinite n, .finite _ _ _ => n
  | .finite _ _ _, .infinite m => !m
  | .finite n s k, .finite m t l => decide (units (.finite n s k) < units (.finite m t l))

/-- Less or equal; false when a NaN takes part. -/
def le : Binary64 → Binary64 → Bool
  | .nan, _ => false
  | _, .nan => false
  | x, y => !lt y x

def isWhole : Binary64 → Bool
  | .finite _ significand scale => significand * Nat.pow 2 scale % unitsPerOne == 0
  | _ => false

/-- The whole part, toward zero, of a finite number. -/
def truncate (x : Binary64) : Int :=
  let whole : Nat := x.magnitude / unitsPerOne
  if x.isNegative then -(whole : Int) else whole

/-- A signed number of units, rounded; `zeroSign` is the sign of an exact zero. -/
def ofSignedUnits (zeroSign : Bool) (u : Int) : Binary64 :=
  if u = 0 then .finite zeroSign 0 0 else ofUnits (decide (u < 0)) u.natAbs 1

/-- The sum of two numbers. -/
def add : Binary64 → Binary64 → Binary64
  | .nan, _ => .nan
  | _, .nan => .nan
  | .infinite n, .infinite m => if n = m then .infinite n else .nan
  | .infinite n, .finite _ _ _ => .infinite n
  | .finite _ _ _, .infinite m => .infinite m
  | .finite n s k, .finite m t l =>
    ofSignedUnits (n && m) (units (.finite n s k) + units (.finite m t l))

/-- The number with the other sign. -/
def neg : Binary64 → Binary64
  | .finite negative significand scale => .finite (!negative) significand scale
  | .infinite negative => .infinite (!negative)
  | .nan => .nan

/-- The difference of two numbers. -/
def sub (x y : Binary64) : Binary64 :=
  add x (neg y)

/-- The product with the fraction `num / den`, rounded once. -/
def scaleBy (num den : Nat) : Binary64 → Binary64
  | .finite negative significand scale =>
    ofUnits negative (significand * Nat.pow 2 scale * num) den
  | x => x

/-- Neither positive nor negative. -/
def isZero : Binary64 → Bool
  | .finite _ significand _ => significand == 0
  | _ => false

end Binary64

/-! ## Whole numbers

A count or a bound is the whole part of a number, toward zero. A number that is not finite has none,
and a count past the range of a signed machine word is refused. -/

/-- Why a number has no whole part, or why a whole number is no count. -/
inductive NumberFault where
  | notANumber
  | infinite
  | tooMany
deriving DecidableEq, Repr

def NumberFault.message : NumberFault → String
  | .notANumber => "cannot convert float NaN to integer"
  | .infinite => "cannot convert float infinity to integer"
  | .tooMany => "too many values for a list"

def Binary64.whole (x : Binary64) : Except NumberFault Int :=
  match x with
  | .nan => .error .notANumber
  | .infinite _ => .error .infinite
  | .finite _ _ _ => .ok x.truncate

end FormPress
