import FormPress.Json.Basic
import FormPress.Number.Reading

/-!
# Reading JSON

A reader that stops at the first fault and says what is wrong and where. Besides the grammar it
accepts the words `NaN`, `Infinity` and `-Infinity`. How deep containers may nest and how long
numbers may be is for the caller to say. A fault is kept with the text that follows it, so its place
is the length of what was read.

Places are counted as a text editor would: lines from one, and on a line the bytes up to and with
the one at fault. A line feed at fault already counts as the start of the next line.
-/

namespace FormPress.Json

/-- What can be wrong with a JSON text. -/
inductive Problem where
  | endInValue
  | endInString
  | endInObject
  | endInArray
  | expectedValue
  | expectedWord
  | expectedColon
  | expectedCommaOrBracket
  | expectedCommaOrBrace
  | keyNotString
  | trailingComma
  | trailingCharacters
  | badNumber
  | numberTooLong
  | badEscape
  | brokenHexEscape
  | loneSurrogate
  | controlCharacter
  | tooDeep
deriving DecidableEq, Repr

def Problem.message : Problem → String
  | .endInValue => "EOF while parsing a value"
  | .endInString => "EOF while parsing a string"
  | .endInObject => "EOF while parsing an object"
  | .endInArray => "EOF while parsing a list"
  | .expectedValue => "expected value"
  | .expectedWord => "expected ident"
  | .expectedColon => "expected \x60:\x60"
  | .expectedCommaOrBracket => "expected \x60,\x60 or \x60]\x60"
  | .expectedCommaOrBrace => "expected \x60,\x60 or \x60\x7d\x60"
  | .keyNotString => "key must be a string"
  | .trailingComma => "trailing comma"
  | .trailingCharacters => "trailing characters"
  | .badNumber => "invalid number"
  | .numberTooLong => "number out of range"
  | .badEscape => "invalid escape"
  | .brokenHexEscape => "unexpected end of hex escape"
  | .loneSurrogate => "lone leading surrogate in hex escape"
  | .controlCharacter => "control character (\\u0000-\\u001F) found while parsing a string"
  | .tooDeep => "recursion limit exceeded"

/-- A problem, and the text from the character at fault on. -/
abbrev Stop := Problem × List Char

/-- What a reader bounds, and what it lets pass. -/
structure Allowance where
  /-- Containers inside each other that hold something. An empty one may stand one step deeper. -/
  depth : Nat
  /-- The digits of an integer. -/
  integerDigits : Nat
  /-- The digits before the point or the exponent of another number. -/
  wholeDigits : Nat
  /-- Half a surrogate pair passes, and makes a broken string. -/
  surrogateHalves : Bool

/-- Everything passes that a text of a certain length can hold. -/
def Allowance.ofLength (n : Nat) : Allowance :=
  ⟨n, n, n, true⟩

def isJsonBlank (c : Char) : Bool :=
  c == ' ' || c == '\t' || c == '\n' || c == '\r'

/-- Drop the blanks in front. -/
def skipBlanks (s : List Char) : List Char :=
  s.dropWhile isJsonBlank

def byteLength (s : List Char) : Nat :=
  s.foldl (fun n c => n + c.utf8Size) 0

/-- The rest of a word after its first letter. -/
def readWord : List Char → List Char → Except Stop (List Char)
  | [], s => .ok s
  | _ :: _, [] => .error (.endInValue, [])
  | w :: word, c :: s => if c = w then readWord word s else .error (.expectedWord, c :: s)

/-- One digit is due here. -/
def requireDigit : List Char → Except Stop Unit
  | [] => .error (.endInValue, [])
  | c :: s => if Number.isDigit c then .ok () else .error (.badNumber, c :: s)

/-- The exponent after `e`: a sign and digits. -/
def readExponent (s : List Char) : Except Stop (Int × List Char) := do
  let (negative, body) :=
    match s with
    | '-' :: rest => (true, rest)
    | '+' :: rest => (false, rest)
    | rest => (false, rest)
  requireDigit body
  let (ds, rest) := Number.spanDigits body
  let n : Int := Number.digitsValue ds
  return (if negative then -n else n, rest)

/-- Digits that must not be more than a number of them; `rest` follows the digits. -/
def limitDigits (limit : Nat) (digits rest : List Char) : Except Stop Unit :=
  if limit < digits.length then .error (.numberTooLong, digits.drop (limit + 1) ++ rest)
  else .ok ()

/-- What follows the integer part of a number: a fraction, an exponent, both or neither. -/
def readNumberTail (a : Allowance) (negative : Bool) (whole s : List Char) :
    Except Stop (Json × List Char) := do
  let isInteger := !(s.head?.any fun c => c == '.' || c == 'e' || c == 'E')
  limitDigits (if isInteger then a.integerDigits else a.wholeDigits) whole s
  match s with
  | '.' :: afterPoint =>
    requireDigit afterPoint
    let (fraction, rest) := Number.spanDigits afterPoint
    let (e, rest) ←
      match rest with
      | 'e' :: tail => readExponent tail
      | 'E' :: tail => readExponent tail
      | rest => pure (0, rest)
    let x := Binary64.ofDecimal negative (Number.digitsValue (whole ++ fraction))
      (e - fraction.length)
    return (.float x, rest)
  | 'e' :: tail =>
    let (e, rest) ← readExponent tail
    return (.float (Binary64.ofDecimal negative (Number.digitsValue whole) e), rest)
  | 'E' :: tail =>
    let (e, rest) ← readExponent tail
    return (.float (Binary64.ofDecimal negative (Number.digitsValue whole) e), rest)
  | rest =>
    let n : Int := Number.digitsValue whole
    return (.int (if negative then -n else n), rest)

/-- A number after its sign. A zero in front of other digits is not a number. -/
def readNumber (a : Allowance) (negative : Bool) (s : List Char) :
    Except Stop (Json × List Char) :=
  match s with
  | [] => .error (.endInValue, [])
  | '0' :: rest =>
    match rest with
    | c :: more =>
      if Number.isDigit c then .error (.badNumber, c :: more)
      else readNumberTail a negative ['0'] rest
    | [] => readNumberTail a negative ['0'] rest
  | 'I' :: rest =>
    (readWord ['n', 'f', 'i', 'n', 'i', 't', 'y'] rest).map fun r =>
      (.float (.infinite negative), r)
  | c :: rest =>
    if Number.isDigit c then
      let (ds, tail) := Number.spanDigits (c :: rest)
      readNumberTail a negative ds tail
    else .error (.badNumber, c :: rest)

/-- The first character that is no hexadecimal digit among the next `count`. -/
def checkHex : Nat → List Char → Except Stop Unit
  | 0, _ => .ok ()
  | _ + 1, [] => .error (.endInString, [])
  | count + 1, c :: s =>
    match Text.hexValue? c with
    | some _ => checkHex count s
    | none => .error (.badEscape, c :: s)

/-- The four digits of a hexadecimal escape: their value, the last digit with the rest, and the
rest. -/
def readHex4 (s : List Char) : Except Stop (Nat × List Char × List Char) :=
  if byteLength (s.take 4) < 4 then .error (.endInString, [])
  else
    match s with
    | a :: b :: c :: d :: rest =>
      match Text.hexValue? a, Text.hexValue? b, Text.hexValue? c, Text.hexValue? d with
      | some a', some b', some c', some d' =>
        .ok (((a' * 16 + b') * 16 + c') * 16 + d', d :: rest, rest)
      | _, _, _, _ => (checkHex 4 s).bind fun _ => .error (.badEscape, s)
    | _ => (checkHex 4 s).bind fun _ => .error (.badEscape, s)

/-- A code unit of the leading half of a surrogate pair. -/
def isHighSurrogate (n : Nat) : Bool :=
  decide (0xD800 ≤ n ∧ n ≤ 0xDBFF)

/-- A code unit of the trailing half of a surrogate pair. -/
def isLowSurrogate (n : Nat) : Bool :=
  decide (0xDC00 ≤ n ∧ n ≤ 0xDFFF)

/-- What is wrong after a leading surrogate without its partner. -/
def missingPartner (s : List Char) : Stop :=
  match s with
  | '\\' :: c :: rest => (.brokenHexEscape, c :: rest)
  | ['\\'] => (.endInString, [])
  | [] => (.endInString, [])
  | c :: rest => (.brokenHexEscape, c :: rest)

/-- The trailing half of a surrogate pair, and the rest. -/
def readPartner (s : List Char) : Except Stop (Nat × List Char) := do
  match s with
  | '\\' :: 'u' :: more =>
    let (m, last, rest) ← readHex4 more
    if isLowSurrogate m then return (m, rest) else throw (.loneSurrogate, last)
  | _ => throw (missingPartner s)

/-- What stands in the body of a string: a character, or half a surrogate pair. -/
abbrev StringPart := Option Char

/-- A hexadecimal escape after `\u`; a surrogate pair is one character. -/
def readUnicodeEscape (a : Allowance) (s : List Char) : Except Stop (StringPart × List Char) := do
  let (n, last, rest) ← readHex4 s
  if isLowSurrogate n then
    if a.surrogateHalves then return (none, rest) else throw (.loneSurrogate, last)
  else if isHighSurrogate n then
    match readPartner rest with
    | .ok (m, rest) =>
      return (some (Char.ofNat (0x10000 + (n - 0xD800) * 0x400 + (m - 0xDC00))), rest)
    | .error stop => if a.surrogateHalves then return (none, rest) else throw stop
  else return (some (Char.ofNat n), rest)

/-- The body of a string up to its closing quotation mark. -/
def readStringBody (a : Allowance) : Nat → List Char → Except Stop (List StringPart × List Char)
  | 0, _ => .error (.endInString, [])
  | _ + 1, [] => .error (.endInString, [])
  | fuel + 1, c :: rest =>
    if c = '"' then .ok ([], rest)
    else if c = '\\' then
      match rest with
      | [] => .error (.endInString, [])
      | e :: more =>
        let simple (d : Char) : Except Stop (List StringPart × List Char) :=
          (readStringBody a fuel more).map fun p => (some d :: p.1, p.2)
        if e = '"' ∨ e = '\\' ∨ e = '/' then simple e
        else if e = 'b' then simple '\x08'
        else if e = 'f' then simple '\x0c'
        else if e = 'n' then simple '\n'
        else if e = 'r' then simple '\r'
        else if e = 't' then simple '\t'
        else if e = 'u' then
          match readUnicodeEscape a more with
          | .error stop => .error stop
          | .ok (d, tail) => (readStringBody a fuel tail).map fun p => (d :: p.1, p.2)
        else .error (.badEscape, rest)
    else if c.toNat < 0x20 then .error (.controlCharacter, c :: rest)
    else (readStringBody a fuel rest).map fun p => (some c :: p.1, p.2)

/-- The key of a body; half a pair leaves a replacement character. -/
def keyOf (body : List StringPart) : String :=
  String.ofList (body.map fun c => c.getD (Char.ofNat 0xFFFD))

def stringOf (body : List StringPart) : Json :=
  match body.mapM id with
  | some chars => .string (String.ofList chars)
  | none => .brokenString (keyOf body)

/-- A key with its colon, from its opening quotation mark on. -/
def readKey (a : Allowance) (fuel : Nat) (s : List Char) : Except Stop (String × List Char) := do
  let (key, rest) ← readStringBody a fuel (s.drop 1)
  match skipBlanks rest with
  | ':' :: more => return (keyOf key, more)
  | [] => throw (.endInObject, [])
  | other => throw (.expectedColon, other)

mutual

/-- A value after blanks. `depth` is the number of containers that may still hold something. -/
def readValue (a : Allowance) : Nat → Nat → List Char → Except Stop (Json × List Char)
  | 0, _, _ => .error (.endInValue, [])
  | fuel + 1, depth, s =>
    match skipBlanks s with
    | [] => .error (.endInValue, [])
    | c :: rest =>
      if c = '"' then
        (readStringBody a (rest.length + 1) rest).map fun p => (stringOf p.1, p.2)
      else if c = '\x7b' then
        match skipBlanks rest with
        | [] => .error (.endInObject, [])
        | '\x7d' :: more => .ok (.object [], more)
        | '"' :: more => (readMembers a fuel depth ('"' :: more)).map fun p => (.object p.1, p.2)
        | other => .error (.keyNotString, other)
      else if c = '[' then
        match skipBlanks rest with
        | [] => .error (.endInArray, [])
        | ']' :: more => .ok (.array [], more)
        | other => (readItems a fuel depth other).map fun p => (.array p.1, p.2)
      else if c = 't' then (readWord ['r', 'u', 'e'] rest).map fun r => (.bool true, r)
      else if c = 'f' then (readWord ['a', 'l', 's', 'e'] rest).map fun r => (.bool false, r)
      else if c = 'n' then (readWord ['u', 'l', 'l'] rest).map fun r => (.null, r)
      else if c = 'N' then (readWord ['a', 'N'] rest).map fun r => (.float .nan, r)
      else if c = '-' then readNumber a true rest
      else if Number.isDigit c ∨ c = 'I' then readNumber a false (c :: rest)
      else .error (.expectedValue, c :: rest)

/-- A value inside a container; `depth` counts the container. -/
def readInner (a : Allowance) : Nat → Nat → List Char → Except Stop (Json × List Char)
  | 0, _, _ => .error (.endInValue, [])
  | fuel + 1, depth, s =>
    match depth, skipBlanks s with
    | _, [] => .error (.endInValue, [])
    | 0, c :: rest => .error (.tooDeep, c :: rest)
    | d + 1, c :: rest => readValue a fuel d (c :: rest)

/-- The items of an array, from the first item to the closing bracket. -/
def readItems (a : Allowance) : Nat → Nat → List Char → Except Stop (List Json × List Char)
  | 0, _, _ => .error (.endInArray, [])
  | fuel + 1, depth, s =>
    match readInner a fuel depth s with
    | .error stop => .error stop
    | .ok (v, rest) =>
      match skipBlanks rest with
      | [] => .error (.endInArray, [])
      | ']' :: more => .ok ([v], more)
      | ',' :: more =>
        match skipBlanks more with
        | [] => .error (.endInValue, [])
        | ']' :: tail => .error (.trailingComma, ']' :: tail)
        | other => (readItems a fuel depth other).map fun p => (v :: p.1, p.2)
      | other => .error (.expectedCommaOrBracket, other)

/-- The members of an object, from the first key to the closing brace. -/
def readMembers (a : Allowance) :
    Nat → Nat → List Char → Except Stop (List (String × Json) × List Char)
  | 0, _, _ => .error (.endInObject, [])
  | fuel + 1, depth, s =>
    match readKey a (s.length + 1) s with
    | .error stop => .error stop
    | .ok (key, afterKey) =>
      match readInner a fuel depth afterKey with
      | .error stop => .error stop
      | .ok (v, rest) =>
        match skipBlanks rest with
        | [] => .error (.endInObject, [])
        | '\x7d' :: more => .ok ([(key, v)], more)
        | ',' :: more =>
          match skipBlanks more with
          | [] => .error (.endInValue, [])
          | '\x7d' :: tail => .error (.trailingComma, '\x7d' :: tail)
          | '"' :: tail =>
            (readMembers a fuel depth ('"' :: tail)).map fun p => ((key, v) :: p.1, p.2)
          | other => .error (.keyNotString, other)
        | other => .error (.expectedCommaOrBrace, other)

end

structure Place where
  line : Nat
  column : Nat
deriving DecidableEq, Repr

/-- The place after a text: its line, and the bytes since the last line feed. -/
def placeAfter (s : List Char) : Place :=
  s.foldl (fun p c => if c = '\n' then ⟨p.line + 1, 0⟩ else ⟨p.line, p.column + c.utf8Size⟩) ⟨1, 0⟩

/-- The place of the character that follows `before`; `rest` starts with it. -/
def placeOf (before rest : List Char) : Place :=
  let p := placeAfter before
  match rest with
  | [] => p
  | '\n' :: _ => ⟨p.line + 1, 0⟩
  | _ :: _ => ⟨p.line, p.column + 1⟩

structure SyntaxFault where
  problem : Problem
  place : Place
deriving DecidableEq, Repr

def SyntaxFault.message (f : SyntaxFault) : String :=
  f.problem.message ++ " at line " ++ Text.decimal f.place.line ++ " column " ++
    Text.decimal f.place.column

/-- Read a text that holds one value and blanks. Each level of nesting takes three steps of the
fuel, and a character at least. -/
def readChars (a : Allowance) (s : List Char) : Except Stop Json :=
  match readValue a (3 * s.length + 3) a.depth s with
  | .error stop => .error stop
  | .ok (v, rest) =>
    match skipBlanks rest with
    | [] => .ok v
    | other => .error (.trailingCharacters, other)

def read (a : Allowance) (s : String) : Except SyntaxFault Json :=
  match readChars a s.toList with
  | .ok v => .ok v
  | .error (problem, rest) =>
    .error ⟨problem, placeOf (s.toList.take (s.length - rest.length)) rest⟩

end FormPress.Json
