import FormPress.Number.Reading
import FormPress.Toml.Basic

/-!
# TOML numbers and moments

Each reader takes as much as its form allows and leaves the rest, or says that its form does not
begin here. A number has single underscores between digits only and no zero in front of another
digit.
-/

namespace FormPress.Toml

/-- The digits of a class that follow a digit, single underscores between them left out. -/
def spanFurtherDigits (isOne : Char → Bool) : List Char → List Char × List Char
  | [] => ([], [])
  | '_' :: d :: more =>
    if isOne d then
      let (ds, tail) := spanFurtherDigits isOne more
      (d :: ds, tail)
    else ([], '_' :: d :: more)
  | c :: rest =>
    if isOne c then
      let (ds, tail) := spanFurtherDigits isOne rest
      (c :: ds, tail)
    else ([], c :: rest)

/-- As many digits of a class as stand here, single underscores between them left out. -/
def spanDigitRun (isOne : Char → Bool) (s : List Char) : List Char × List Char :=
  match s with
  | [] => ([], [])
  | c :: rest =>
    if isOne c then
      let (ds, tail) := spanFurtherDigits isOne rest
      (c :: ds, tail)
    else ([], s)

def valueIn (base : Nat) (ds : List Char) : Nat :=
  ds.foldl (fun n d => n * base + (Text.hexValue? d).getD 0) 0

/-- An integer with a base mark after its leading zero: a number of the base, or just the zero. -/
def readBased (base : Nat) (isOne : Char → Bool) (mark : Char) (s : List Char) :
    Option (Toml × List Char) :=
  match s with
  | '0' :: c :: rest =>
    if c = mark then
      match spanDigitRun isOne rest with
      | ([], _) => none
      | (ds, tail) => some (.int (valueIn base ds), tail)
    else none
  | _ => none

/-- A fraction: a point and digits, or nothing. -/
def spanFraction (s : List Char) : List Char × List Char :=
  match s with
  | '.' :: rest =>
    match spanDigitRun Number.isDigit rest with
    | ([], _) => ([], s)
    | found => found
  | _ => ([], s)

/-- An exponent, if one stands here. -/
def spanExponent? (s : List Char) : Option (Int × List Char) :=
  match s with
  | [] => none
  | e :: rest =>
    if e = 'e' ∨ e = 'E' then
      let (negative, body) := Number.splitSign rest
      match spanDigitRun Number.isDigit body with
      | ([], _) => none
      | (ds, tail) =>
        let n : Int := Number.digitsValue ds
        some (if negative then -n else n, tail)
    else none

/-- The digits before the point of a decimal number: a single zero, or digits that begin with
another. -/
def spanWhole (s : List Char) : List Char × List Char :=
  match s with
  | '0' :: rest => (['0'], rest)
  | _ => spanDigitRun Number.isDigit s

/-- A decimal number with its sign. -/
def readDecimal (s : List Char) : Except Stop (Option (Toml × List Char)) :=
  let (negative, body) := Number.splitSign s
  match spanWhole body with
  | ([], _) => .ok none
  | (whole, afterWhole) =>
    let (fraction, afterFraction) := spanFraction afterWhole
    let value (e : Int) : Binary64 :=
      Binary64.ofDecimal negative (Number.digitsValue (whole ++ fraction)) (e - fraction.length)
    match spanExponent? afterFraction with
    | some (e, tail) => .ok (some (.float (value e), tail))
    | none =>
      if fraction.isEmpty then
        if Number.digitLimit < whole.length then .error (.tooManyDigits whole.length, s)
        else
          let n : Int := Number.digitsValue whole
          .ok (some (.int (if negative then -n else n), afterFraction))
      else .ok (some (.float (value 0), afterFraction))

/-- A number in one of the four bases. -/
def readNumber (s : List Char) : Except Stop (Option (Toml × List Char)) :=
  let isHex (c : Char) : Bool := (Text.hexValue? c).isSome
  match readBased 16 isHex 'x' s with
  | some found => .ok (some found)
  | none =>
    match readBased 2 (fun c => c == '0' || c == '1') 'b' s with
    | some found => .ok (some found)
    | none =>
      match readBased 8 (fun c => decide ('0' ≤ c ∧ c ≤ '7')) 'o' s with
      | some found => .ok (some found)
      | none => readDecimal s

/-- One of the words for infinity and NaN, with its sign. -/
def readWordNumber? (s : List Char) : Option (Toml × List Char) :=
  let (negative, body) := Number.splitSign s
  match body with
  | 'i' :: 'n' :: 'f' :: rest => some (.float (.infinite negative), rest)
  | 'n' :: 'a' :: 'n' :: rest => some (.float .nan, rest)
  | _ => none

/-- Exactly `width` digits. -/
def readFixed? (width : Nat) (s : List Char) : Option (Nat × List Char) :=
  let ds := (s.take width).takeWhile Number.isDigit
  if ds.length = width then some (Number.digitsValue ds, s.drop width) else none

/-- Exactly two digits with a value in a range. -/
def readPair? (low high : Nat) (s : List Char) : Option (Nat × List Char) :=
  match readFixed? 2 s with
  | some (n, rest) => if low ≤ n ∧ n ≤ high then some (n, rest) else none
  | none => none

/-- A character that is due here. -/
def readMark? (mark : Char) : List Char → Option (List Char)
  | c :: rest => if c = mark then some rest else none
  | [] => none

/-- The fraction of a second in microseconds; further digits are dropped. -/
def spanMicroseconds (s : List Char) : Nat × List Char :=
  match s with
  | '.' :: rest =>
    match Number.spanDigits rest with
    | ([], _) => (0, s)
    | (ds, tail) => (Number.digitsValue ((ds ++ List.replicate 6 '0').take 6), tail)
  | _ => (0, s)

def readClock? (s : List Char) : Option (TimeOfDay × List Char) := do
  let (hour, s) ← readPair? 0 23 s
  let s ← readMark? ':' s
  let (minute, s) ← readPair? 0 59 s
  let s ← readMark? ':' s
  let (second, s) ← readPair? 0 59 s
  let (microsecond, s) := spanMicroseconds s
  return (⟨hour, minute, second, microsecond⟩, s)

/-- An offset from universal time in minutes. -/
def readOffset? (s : List Char) : Option (Int × List Char) :=
  match s with
  | [] => none
  | c :: rest =>
    if c = 'Z' ∨ c = 'z' then some (0, rest)
    else if c = '+' ∨ c = '-' then do
      let (hour, s) ← readPair? 0 23 rest
      let s ← readMark? ':' s
      let (minute, s) ← readPair? 0 59 s
      let n : Int := ↑(hour * 60 + minute)
      return (if c = '-' then -n else n, s)
    else none

/-- A year with a day in February more. -/
def isLeapYear (year : Nat) : Bool :=
  year % 4 = 0 && (year % 100 != 0 || year % 400 = 0)

def daysInMonth (year month : Nat) : Nat :=
  if month = 2 then (if isLeapYear year then 29 else 28)
  else if month = 4 ∨ month = 6 ∨ month = 9 ∨ month = 11 then 30
  else 31

/-- A day that the calendar has. Years count from one. -/
def Date.isReal (d : Date) : Bool :=
  decide (1 ≤ d.year ∧ 1 ≤ d.day ∧ d.day ≤ daysInMonth d.year d.month)

/-- The form of a day, whether the calendar has it or not. -/
def readDate? (s : List Char) : Option (Date × List Char) := do
  let (year, s) ← readFixed? 4 s
  let s ← readMark? '-' s
  let (month, s) ← readPair? 1 12 s
  let s ← readMark? '-' s
  let (day, s) ← readPair? 1 31 s
  return (⟨year, month, day⟩, s)

/-- The time that may follow a day, with its offset. -/
def readTimeOfDate? (s : List Char) : Option (TimeOfDay × Option Int × List Char) :=
  match s with
  | [] => none
  | c :: rest =>
    if c = 'T' ∨ c = 't' ∨ c = ' ' then
      (readClock? rest).map fun (clock, tail) =>
        match readOffset? tail with
        | some (offset, tail) => (clock, some offset, tail)
        | none => (clock, none, tail)
    else none

/-- A day, a day with a time, or a time. -/
def readMoment (s : List Char) : Except Stop (Option (Toml × List Char)) :=
  match readDate? s with
  | some (day, rest) =>
    if !day.isReal then .error (.badDate, s)
    else
      match readTimeOfDate? rest with
      | some (clock, offset, tail) => .ok (some (.moment (.dateTime day clock offset), tail))
      | none => .ok (some (.moment (.date day), rest))
  | none => .ok ((readClock? s).map fun (clock, rest) => (.moment (.time clock), rest))

end FormPress.Toml
