import FormPress.Number.Binary64
import FormPress.Text.Basic
import FormPress.Text.Blank

/-!
# Numbers in texts

The lenient forms of numbers that a form may give as texts. White space around them is trimmed and
single underscores may stand inside. An integer may begin with zeros and end in a point and zeros; a
number may lack digits on one side of its point, have an exponent, or be one of the words for
infinity and NaN in any case.
-/

namespace FormPress.Number

/-- The greatest number of digits of an integer. -/
def digitLimit : Nat := 4300

/-- The wording for an integer with too many digits. -/
def tooManyDigits (count : Nat) : String :=
  "Exceeds the limit (" ++ Text.decimal digitLimit ++
    " digits) for integer string conversion: value has " ++ Text.decimal count ++
    " digits; use sys.set_int_max_str_digits() to increase the limit"

def isDigit (c : Char) : Bool :=
  decide ('0' ≤ c ∧ c ≤ '9')

/-- The value of a run of digits after a given value. -/
def accumulate (n : Nat) : List Char → Nat
  | [] => n
  | c :: rest => accumulate (n * 10 + (c.toNat - 48)) rest

def digitsValue (ds : List Char) : Nat :=
  accumulate 0 ds

def splitSign : List Char → Bool × List Char
  | '-' :: rest => (true, rest)
  | '+' :: rest => (false, rest)
  | s => (false, s)

/-- The digits at the front, and the rest. -/
def spanDigits (s : List Char) : List Char × List Char :=
  (s.takeWhile isDigit, s.dropWhile isDigit)

/-! ## Underscores -/

/-- Underscores may be dropped: none stands at an end or beside another. -/
def hasFitSeparators (s : List Char) : Bool :=
  s.head? != some '_' && s.getLast? != some '_' && !Text.occursIn ['_', '_'] s

/-- A text without its underscores. -/
def dropSeparators (s : List Char) : List Char :=
  s.filter (· != '_')

/-! ## Integers -/

/-- Why a text is no integer. -/
inductive IntFault where
  | unreadable
  | tooLong
deriving DecidableEq, Repr

/-- An integer in its strict form: a minus sign or none, and digits without a zero in front of
others. Too many digits are refused whatever follows them. -/
def readStrictInt (s : List Char) : Except IntFault Int :=
  let negative := s.head? = some '-'
  let (digits, rest) := spanDigits (if negative then s.drop 1 else s)
  let n : Int := digitsValue digits
  let value := if negative then -n else n
  if digits.isEmpty then .error .unreadable
  else if digits.head? = some '0' then
    if digits.length = 1 && rest.isEmpty then .ok value else .error .unreadable
  else if digitLimit < digits.length then .error .tooLong
  else if rest.isEmpty then .ok value
  else .error .unreadable

/-- What counts after a zero in front: all from the first other digit or minus sign on. Underscores
among the zeros are dropped with them; before a point and at the end the last character stays. -/
def afterZero (last : Char) : List Char → Option (List Char)
  | [] => some [last]
  | c :: rest =>
    if c = '0' ∨ c = '_' then afterZero c rest
    else if c = '.' then some (last :: c :: rest)
    else if c = '-' ∨ isDigit c then some (c :: rest)
    else none

/-- An integer without the zeros in front of it. -/
def dropLeadingZeros : List Char → Option (List Char)
  | [] => none
  | c :: rest =>
    if c = '0' then afterZero c rest
    else if c = '-' ∨ isDigit c then some (c :: rest)
    else none

/-- An integer without a point and zeros behind it. -/
def dropZeroFraction (s : List Char) : List Char :=
  match Text.splitFirst '.' s with
  | some (whole, zeros) => if !zeros.isEmpty && zeros.all (· == '0') then whole else s
  | none => s

/-- An integer after its plus sign, in its strict form as far as it has one. -/
def strictForm? (s : List Char) : Option (List Char) :=
  let negative := s.head? = some '-'
  (dropLeadingZeros (if negative then s.drop 1 else s)).map fun body =>
    let body := dropZeroFraction body
    let body := if hasFitSeparators body then dropSeparators body else body
    if negative then '-' :: body else body

def readInt (s : String) : Except IntFault Int :=
  match readStrictInt s.toList with
  | .error .unreadable =>
    let body :=
      match Text.stripBy Text.isSpace s.toList with
      | '+' :: '-' :: _ => none
      | '+' :: rest => strictForm? rest
      | trimmed => strictForm? trimmed
    match body with
    | some body => readStrictInt body
    | none => .error .unreadable
  | result => result

/-! ## Decimals -/

/-- An exponent part: nothing, or `e` with an integer. -/
def readExponent? : List Char → Option Int
  | [] => some 0
  | c :: rest =>
    if c == 'e' || c == 'E' then
      let (negative, body) := splitSign rest
      if body.isEmpty || !body.all isDigit then none
      else
        let n : Int := digitsValue body
        some (if negative then -n else n)
    else none

/-- A decimal after its sign: digits on at least one side of the point, and an exponent. -/
def readDecimal? (negative : Bool) (s : List Char) : Option Binary64 :=
  let (whole, afterWhole) := spanDigits s
  let (fraction, tail) :=
    match afterWhole with
    | '.' :: rest => spanDigits rest
    | rest => ([], rest)
  if whole.isEmpty && fraction.isEmpty then none
  else
    (readExponent? tail).map fun e =>
      Binary64.ofDecimal negative (digitsValue (whole ++ fraction)) (e - fraction.length)

/-- A number without blanks around it. -/
def readNumber? (s : List Char) : Option Binary64 :=
  let (negative, body) := splitSign s
  let word := Text.foldAscii (String.ofList body)
  if word = "inf" ∨ word = "infinity" then some (.infinite negative)
  else if word = "nan" then some .nan
  else readDecimal? negative body

/-- A number in a text: with blanks around it, or with underscores inside. -/
def readFloat? (s : String) : Option Binary64 :=
  match readNumber? (Text.stripBy Text.isSpace s.toList) with
  | some x => some x
  | none =>
    if hasFitSeparators s.toList then readNumber? (dropSeparators s.toList) else none

end FormPress.Number
