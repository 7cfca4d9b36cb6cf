import FormPress.Text.Basic

/-!
# Punycode

Labels of host names in ASCII. The ASCII characters of a label come first, then the places of the
others: in ascending order of code points, each as the distance from the one before, in digits whose
thresholds adapt to the distances seen so far.
-/

namespace FormPress.Url.Punycode

/-- A digit: letters for 0 to 25, then figures. -/
def digitChar (d : Nat) : Char :=
  if d < 26 then Char.ofNat (97 + d) else Char.ofNat (22 + d)

/-- The value of a digit in either case. -/
def digitValue? (c : Char) : Option Nat :=
  if 'a' ≤ c ∧ c ≤ 'z' then some (c.toNat - 97)
  else if 'A' ≤ c ∧ c ≤ 'Z' then some (c.toNat - 65)
  else if '0' ≤ c ∧ c ≤ '9' then some (c.toNat - 22)
  else none

/-- The threshold of the digit at a position, always from 1 to 26. -/
def threshold (position bias : Nat) : Nat :=
  Nat.max 1 (Nat.min 26 (position - bias))

theorem one_le_threshold (position bias : Nat) : 1 ≤ threshold position bias :=
  Nat.le_max_left _ _

theorem threshold_le (position bias : Nat) : threshold position bias ≤ 26 := by
  rw [threshold]
  exact Nat.max_le.2 ⟨by omega, Nat.min_le_left _ _⟩

/-- Divide a distance by 35 until it is small; the steps add up to a bias. -/
def settle (delta bias : Nat) : Nat :=
  if 455 < delta then settle (delta / 35) (bias + 36) else bias + 36 * delta / (delta + 38)
termination_by delta
decreasing_by exact Nat.div_lt_self (by omega) (by omega)

/-- The bias after a distance, with the number of characters placed so far. -/
def adapt (delta count : Nat) (isFirst : Bool) : Nat :=
  let scaled := if isFirst then delta / 700 else delta / 2
  settle (scaled + scaled / count) 0

def digits (bias position q : Nat) : List Char :=
  let t := threshold position bias
  if q < t then [digitChar q]
  else digitChar (t + (q - t) % (36 - t)) :: digits bias (position + 36) ((q - t) / (36 - t))
termination_by q
decreasing_by
  have h1 := one_le_threshold position bias
  exact Nat.lt_of_le_of_lt (Nat.div_le_self _ _) (by omega)

/-- What an encoder knows: digits written, distance so far, bias, characters placed. -/
structure State where
  written : List Char
  delta : Nat
  bias : Nat
  placed : Nat

/-- Pass a character of the label while places for the code point `m` are written. -/
def pass (basic m : Nat) (st : State) (c : Char) : State :=
  if c.toNat < m then { st with delta := st.delta + 1 }
  else if c.toNat = m then
    ⟨st.written ++ digits st.bias 36 st.delta, 0,
      adapt st.delta (st.placed + 1) (st.placed == basic), st.placed + 1⟩
  else st

/-- Write the places of the code points in ascending order; `n` is the least that is left. -/
def encodeFrom (label : List Char) (basic : Nat) : Nat → List Nat → State → State
  | _, [], st => st
  | n, m :: rest, st =>
    let start := { st with delta := st.delta + (m - n) * (st.placed + 1) }
    let after := label.foldl (pass basic m) start
    encodeFrom label basic (m + 1) rest { after with delta := after.delta + 1 }

/-- A number in its place of an ascending list without repetition. -/
def insertAscending (n : Nat) : List Nat → List Nat
  | [] => [n]
  | m :: rest => if n < m then n :: m :: rest else if n = m then m :: rest
    else m :: insertAscending n rest

/-- The code points beyond ASCII, in ascending order. -/
def foreignPoints (label : List Char) : List Nat :=
  label.foldl (fun ms c => if c.toNat < 128 then ms else insertAscending c.toNat ms) []

/-- The ASCII form of a label. -/
def encode (label : List Char) : List Char :=
  let basic := label.filter fun c => decide (c.toNat < 128)
  let head := if basic.isEmpty then [] else basic ++ ['-']
  let start : State := ⟨head, 0, 72, basic.length⟩
  (encodeFrom label basic.length 128 (foreignPoints label) start).written

/-- All distances and weights are less than this. -/
def distanceBound : Nat := 0x100000000

/-- A distance from its digits, and the rest; nothing when they break off or go beyond the bound. -/
def readDistance? (bias : Nat) : Nat → Nat → Nat → List Char → Option (Nat × List Char)
  | _, _, _, [] => none
  | position, weight, value, c :: rest =>
    match digitValue? c with
    | none => none
    | some d =>
      let t := threshold position bias
      let sum := value + d * weight
      if distanceBound ≤ sum then none
      else if d < t then some (sum, rest)
      else if distanceBound ≤ weight * (36 - t) then none
      else readDistance? bias (position + 36) (weight * (36 - t)) sum rest

/-- Put a character at a place. -/
def insertAt (c : Char) : Nat → List Char → List Char
  | 0, s => c :: s
  | _ + 1, [] => [c]
  | n + 1, d :: rest => d :: insertAt c n rest

/-- Read distances and put the characters at their places; nothing when a code point is none. -/
def decodeFrom? : Nat → Nat → Nat → Nat → List Char → List Char → Option (List Char)
  | _, _, _, _, label, [] => some label
  | 0, _, _, _, _, _ => none
  | fuel + 1, n, i, bias, label, digits =>
    match readDistance? bias 36 1 i digits with
    | none => none
    | some (next, rest) =>
      let count := label.length + 1
      let point := n + next / count
      if point.isValidChar then
        decodeFrom? fuel point (next % count + 1) (adapt (next - i) count (i == 0))
          (insertAt (Char.ofNat point) (next % count) label) rest
      else none

/-- A label from its ASCII form. A hyphen stands only after ASCII characters of the label. -/
def decode? (s : List Char) : Option (List Char) :=
  match Text.splitLast '-' s with
  | some ([], _) => none
  | some (basic, digits) => decodeFrom? (digits.length + 1) 128 0 72 basic digits
  | none => decodeFrom? (s.length + 1) 128 0 72 [] s

end FormPress.Url.Punycode
