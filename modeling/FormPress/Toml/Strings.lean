import FormPress.Toml.Basic

/-!
# TOML strings

Basic strings have escapes, literal strings have none; both come on one line or, between triple
marks, on several. Control characters other than the tab are refused, and the line feed too on one
line. At the end of a string of several lines up to two more marks belong to the text.
-/

namespace FormPress.Toml

def isControl (c : Char) : Bool :=
  c.toNat < 32 || c.toNat = 127

/-- A character that no text may hold as it is. -/
def isIllegal (multiline : Bool) (c : Char) : Bool :=
  isControl c && c != '\t' && !(multiline && c == '\n')

/-- A blank inside a line. -/
def isBlank (c : Char) : Bool :=
  c == ' ' || c == '\t'

/-- A blank or a line feed. -/
def isBlankOrNewline (c : Char) : Bool :=
  isBlank c || c == '\n'

/-- A code point that is a character. -/
def isScalarValue (n : Nat) : Bool :=
  decide (n ≤ 0xD7FF ∨ (0xE000 ≤ n ∧ n ≤ 0x10FFFF))

/-- A character by `width` hexadecimal digits. -/
def readHexChar (width : Nat) (s : List Char) : Except Stop (Char × List Char) :=
  let digits := (s.take width).filterMap Text.hexValue?
  let n := digits.foldl (fun n d => n * 16 + d) 0
  if digits.length ≠ width then .error (.badHex, s)
  else if isScalarValue n then .ok (Char.ofNat n, s.drop width)
  else .error (.notScalar, s.drop width)

/-- What follows a backslash that ends a line: it hides the line end and the blanks that follow. -/
def skipLineEnd (s : List Char) : Except Stop (List Char) :=
  match s.dropWhile isBlank with
  | [] => .ok []
  | '\n' :: rest => .ok (rest.dropWhile isBlankOrNewline)
  | other => .error (.strayBackslash, other)

/-- The text of an escape after its backslash. -/
def readEscape (multiline : Bool) (s : List Char) : Except Stop (List Char × List Char) :=
  match s with
  | [] => .error (.strayBackslash, [])
  | e :: rest =>
    if multiline && isBlankOrNewline e then (skipLineEnd s).map fun tail => ([], tail)
    else
      match e with
      | 'b' => .ok (['\x08'], rest)
      | 't' => .ok (['\t'], rest)
      | 'n' => .ok (['\n'], rest)
      | 'f' => .ok (['\x0c'], rest)
      | 'r' => .ok (['\r'], rest)
      | '"' => .ok (['"'], rest)
      | '\\' => .ok (['\\'], rest)
      | 'u' => (readHexChar 4 rest).map fun p => ([p.1], p.2)
      | 'U' => (readHexChar 8 rest).map fun p => ([p.1], p.2)
      | _ => .error (.strayBackslash, rest)

/-- The body of a basic string up to its closing marks. The fuel is the length of the text. -/
def readBasic (multiline : Bool) : Nat → List Char → Except Stop (List Char × List Char)
  | 0, s => .error (.openString, s)
  | _ + 1, [] => .error (.openString, [])
  | fuel + 1, c :: rest =>
    if c = '"' then
      match multiline, rest with
      | false, _ => .ok ([], rest)
      | true, '"' :: '"' :: tail => .ok ([], tail)
      | true, _ => (readBasic multiline fuel rest).map fun p => (c :: p.1, p.2)
    else if c = '\\' then
      match readEscape multiline rest with
      | .error stop => .error stop
      | .ok (text, tail) => (readBasic multiline fuel tail).map fun p => (text ++ p.1, p.2)
    else if isIllegal multiline c then .error (.illegalCharacter c, c :: rest)
    else (readBasic multiline fuel rest).map fun p => (c :: p.1, p.2)

/-- The text before the first occurrence of a mark, and the text after the mark. -/
def splitAtMark (mark : List Char) : List Char → Option (List Char × List Char)
  | [] => none
  | c :: rest =>
    if mark.isPrefixOf (c :: rest) then some ([], (c :: rest).drop mark.length)
    else (splitAtMark mark rest).map fun p => (c :: p.1, p.2)

/-- Refuse a text at its first illegal character; `rest` is what follows it. -/
def refuseIllegal (multiline : Bool) (rest : List Char) : List Char → Except Stop Unit
  | [] => .ok ()
  | c :: more =>
    if isIllegal multiline c then .error (.invalidCharacter c, c :: more ++ rest)
    else refuseIllegal multiline rest more

/-- The body of a literal string up to its closing mark. -/
def readLiteral (multiline : Bool) (mark : List Char) (s : List Char) :
    Except Stop (List Char × List Char) :=
  match splitAtMark mark s with
  | none => .error (.openLiteral (String.ofList mark), [])
  | some (body, rest) =>
    (refuseIllegal multiline (mark ++ rest) body).map fun _ => (body, rest)

/-- Up to two more marks at the end of a text of several lines. -/
def takeExtraMarks (mark : Char) (body rest : List Char) : List Char × List Char :=
  let extra := (rest.take 2).takeWhile (· == mark)
  (body ++ extra, rest.drop extra.length)

/-- A string from its first mark on. -/
def readString (s : List Char) : Except Stop (String × List Char) :=
  match s with
  | '"' :: '"' :: '"' :: rest =>
    let body := match rest with | '\n' :: more => more | _ => rest
    (readBasic true (body.length + 1) body).map fun p =>
      let (text, tail) := takeExtraMarks '"' p.1 p.2
      (String.ofList text, tail)
  | '\'' :: '\'' :: '\'' :: rest =>
    let body := match rest with | '\n' :: more => more | _ => rest
    (readLiteral true ['\'', '\'', '\''] body).map fun p =>
      let (text, tail) := takeExtraMarks '\'' p.1 p.2
      (String.ofList text, tail)
  | '"' :: rest => (readBasic false (rest.length + 1) rest).map fun p => (String.ofList p.1, p.2)
  | '\'' :: rest => (readLiteral false ['\''] rest).map fun p => (String.ofList p.1, p.2)
  | other => .error (.badValue, other)

end FormPress.Toml
