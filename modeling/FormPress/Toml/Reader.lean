import FormPress.Toml.Scalar
import FormPress.Toml.Strings

/-!
# Reading TOML

A document is a sequence of statements: an entry, the header of a table, or the header of a table in
a list. Reading stops at the first fault. Beside the tables read so far the reader keeps which of
them may no longer be opened by a header and which may no longer change at all.
-/

namespace FormPress.Toml

/-- Drop the blanks in front. -/
def skipBlanks (s : List Char) : List Char :=
  s.dropWhile isBlank

/-- A character of a key without quotes. -/
def isBareKeyChar (c : Char) : Bool :=
  c.isAlphanum || c == '-' || c == '_'

/-- A character with which a key begins. -/
def isKeyStart (c : Char) : Bool :=
  isBareKeyChar c || c == '"' || c == '\''

/-- A part of a key. Its quoted forms stand on one line. -/
def readKeyPart (s : List Char) : Except Stop (String × List Char) :=
  match s with
  | [] => .error (.badKeyStart, [])
  | c :: rest =>
    if isBareKeyChar c then
      .ok (String.ofList (s.takeWhile isBareKeyChar), s.dropWhile isBareKeyChar)
    else if c = '\'' then
      (readLiteral false ['\''] rest).map fun p => (String.ofList p.1, p.2)
    else if c = '"' then
      (readBasic false (rest.length + 1) rest).map fun p => (String.ofList p.1, p.2)
    else .error (.badKeyStart, s)

/-- A dotted key with the blanks after it. The fuel is the length of the text. -/
def readKeyParts : Nat → List Char → Except Stop (Key × List Char)
  | 0, s => .error (.badKeyStart, s)
  | fuel + 1, s =>
    match readKeyPart s with
    | .error stop => .error stop
    | .ok (part, rest) =>
      match skipBlanks rest with
      | '.' :: more =>
        (readKeyParts fuel (skipBlanks more)).map fun p => (part :: p.1, p.2)
      | other => .ok ([part], other)

def readKey (s : List Char) : Except Stop (Key × List Char) :=
  readKeyParts (s.length + 1) s

/-- A comment, if one stands here, up to the end of its line. -/
def skipComment (s : List Char) : Except Stop (List Char) :=
  match s with
  | '#' :: rest =>
    let body := rest.takeWhile (· != '\n')
    let tail := rest.dropWhile (· != '\n')
    (refuseIllegal false tail body).map fun _ => tail
  | _ => .ok s

/-- The blanks, line ends and comments between the items of a list. The fuel is the length of the
text. -/
def skipFiller : Nat → List Char → Except Stop (List Char)
  | 0, s => .ok s
  | fuel + 1, s =>
    match s.dropWhile isBlankOrNewline with
    | '#' :: rest =>
      match skipComment ('#' :: rest) with
      | .error stop => .error stop
      | .ok tail => skipFiller fuel tail
    | other => .ok other

/-- A key and its equals sign, with the blanks around them. -/
def readKeyAndSign (s : List Char) : Except Stop (Key × List Char) :=
  match readKey s with
  | .error stop => .error stop
  | .ok (key, '=' :: rest) => .ok (key, skipBlanks rest)
  | .ok (_, other) => .error (.missingEquals, other)

/-- A key lies under one of the given keys, or is one of them. -/
def isWithin (sealedKeys : List Key) (key : Key) : Bool :=
  !key.isEmpty && sealedKeys.any (·.isPrefixOf key)

/-- Enter a value into the table of an inline table. -/
def enterInline (sealedKeys : List Key) (t : Entries) (key : Key) (v : Toml) :
    Except Problem Entries :=
  let (parent, stem) := splitKey key
  if isWithin sealedKeys key then .error (.immutable key)
  else
    match alter false (fun inner => some inner) parent t with
    | none => .error .overwritten
    | some _ =>
      match alter false (fun inner =>
          if (Table.lookup stem inner).isSome then none else some (Table.assign stem v inner))
          parent t with
      | none => .error (.duplicateKey stem)
      | some t => .ok t

/-- A value that is no list and no inline table. -/
def readSimple (s : List Char) : Except Stop (Toml × List Char) :=
  match s with
  | '"' :: _ => (readString s).map fun p => (.string p.1, p.2)
  | '\'' :: _ => (readString s).map fun p => (.string p.1, p.2)
  | 't' :: 'r' :: 'u' :: 'e' :: rest => .ok (.bool true, rest)
  | 'f' :: 'a' :: 'l' :: 's' :: 'e' :: rest => .ok (.bool false, rest)
  | _ =>
    match readMoment s with
    | .error stop => .error stop
    | .ok (some found) => .ok found
    | .ok none =>
      match readNumber s with
      | .error stop => .error stop
      | .ok (some found) => .ok found
      | .ok none =>
        match readWordNumber? s with
        | some found => .ok found
        | none => .error (.badValue, s)

mutual

/-- A value. Each level of nesting takes two units of fuel and at least one character. -/
def readValue : Nat → List Char → Except Stop (Toml × List Char)
  | 0, s => .error (.badValue, s)
  | fuel + 1, s =>
    match s with
    | '[' :: rest =>
      match skipFiller (rest.length + 1) rest with
      | .error stop => .error stop
      | .ok (']' :: tail) => .ok (.array [], tail)
      | .ok body => (readItems fuel body).map fun p => (.array p.1, p.2)
    | '\x7b' :: rest =>
      match skipBlanks rest with
      | '\x7d' :: tail => .ok (.table [], tail)
      | body => (readEntries fuel [] [] body).map fun p => (.table p.1, p.2)
    | _ => readSimple s

/-- The items of a list, from the first item to the closing bracket. -/
def readItems : Nat → List Char → Except Stop (List Toml × List Char)
  | 0, s => .error (.openArray, s)
  | fuel + 1, s =>
    match readValue fuel s with
    | .error stop => .error stop
    | .ok (v, afterValue) =>
      match skipFiller (afterValue.length + 1) afterValue with
      | .error stop => .error stop
      | .ok (']' :: tail) => .ok ([v], tail)
      | .ok (',' :: rest) =>
        match skipFiller (rest.length + 1) rest with
        | .error stop => .error stop
        | .ok (']' :: tail) => .ok ([v], tail)
        | .ok more => (readItems fuel more).map fun p => (v :: p.1, p.2)
      | .ok other => .error (.openArray, other)

/-- The entries of an inline table, from a key to the closing brace; `t` holds those before. -/
def readEntries : Nat → List Key → Entries → List Char → Except Stop (Entries × List Char)
  | 0, _, _, s => .error (.openInlineTable, s)
  | fuel + 1, sealedKeys, t, s =>
    match readKeyAndSign s with
    | .error stop => .error stop
    | .ok (key, afterSign) =>
      match readValue fuel afterSign with
      | .error stop => .error stop
      | .ok (v, afterValue) =>
        match enterInline sealedKeys t key v with
        | .error problem => .error (problem, afterValue)
        | .ok t =>
          match skipBlanks afterValue with
          | '\x7d' :: tail => .ok (t, tail)
          | ',' :: rest =>
            readEntries fuel (if v.isContainer then key :: sealedKeys else sealedKeys) t
              (skipBlanks rest)
          | other => .error (.openInlineTable, other)

end

/-- The state of reading a document: its tables, the keys that no header may open again, the keys
that become so at the next header, the keys that are sealed with all below them, and the key of the
table to which entries go. -/
structure Draft where
  root : Entries := []
  opened : List Key := []
  pending : List Key := []
  sealedKeys : List Key := []
  header : Key := []

/-- The keys on the way to an entry, all but its last part. -/
def waysTo (header : Key) : Key → List Key
  | [] => []
  | [_] => []
  | k :: rest => (header ++ [k]) :: waysTo (header ++ [k]) rest

namespace Draft

/-- The keys of dotted entries count as opened from the next header on. -/
def settle (d : Draft) : Draft :=
  { d with opened := d.pending ++ d.opened, pending := [] }

/-- Enter a value under a key of the current table. -/
def enter (d : Draft) (key : Key) (v : Toml) : Except Problem Draft :=
  let ways := waysTo d.header key
  match ways.find? (d.opened.contains ·) with
  | some way => .error (.redefined way)
  | none =>
    let (parent, stem) := splitKey key
    let path := d.header ++ parent
    if isWithin d.sealedKeys path then .error (.immutable path)
    else
      match alter true (fun inner =>
          if (Table.lookup stem inner).isSome then none else some (Table.assign stem v inner))
          path d.root with
      | none => .error .overwritten
      | some root =>
        .ok { d with
          root := root
          pending := ways ++ d.pending
          sealedKeys := if v.isContainer then (d.header ++ key) :: d.sealedKeys else d.sealedKeys }

/-- Open the table behind a key. -/
def openTable (d : Draft) (key : Key) : Except Problem Draft :=
  if d.opened.contains key || isWithin d.sealedKeys key then .error (.declaredTwice key)
  else
    match alter true some key d.root with
    | none => .error .overwritten
    | some root => .ok { d with root := root, opened := key :: d.opened, header := key }

/-- Open a new table of the list behind a key. What was known of keys below it is forgotten. -/
def openListTable (d : Draft) (key : Key) : Except Problem Draft :=
  if isWithin d.sealedKeys key then .error (.immutable key)
  else
    let (parent, stem) := splitKey key
    match alter true (appendTable stem) parent d.root with
    | none => .error .overwritten
    | some root =>
      .ok { d with
        root := root
        opened := key :: d.opened.filter (!key.isPrefixOf ·)
        sealedKeys := d.sealedKeys.filter (!key.isPrefixOf ·)
        header := key }

end Draft

/-- A step that may fail, at the place where the rest begins. -/
def atRest {α : Type} (rest : List Char) (x : Except Problem α) : Except Stop α :=
  match x with
  | .ok a => .ok a
  | .error problem => .error (problem, rest)

/-- An entry of the current table. -/
def readEntry (d : Draft) (s : List Char) : Except Stop (Draft × List Char) := do
  let (key, afterSign) ← readKeyAndSign s
  let (v, rest) ← readValue (2 * afterSign.length + 2) afterSign
  let d ← atRest rest (d.enter key v)
  return (d, rest)

/-- A header after its first bracket. -/
def readHeader (d : Draft) (s : List Char) : Except Stop (Draft × List Char) := do
  let d := d.settle
  match s with
  | '[' :: more =>
    let (key, rest) ← readKey (skipBlanks more)
    let d ← atRest rest (d.openListTable key)
    match rest with
    | ']' :: ']' :: tail => return (d, tail)
    | other => throw (.openListHeader, other)
  | _ =>
    let (key, rest) ← readKey (skipBlanks s)
    let d ← atRest rest (d.openTable key)
    match rest with
    | ']' :: tail => return (d, tail)
    | other => throw (.openHeader, other)

/-- The statement at the front of a line, or nothing before a comment. -/
def readStatement (d : Draft) (s : List Char) : Except Stop (Draft × List Char) :=
  match s with
  | [] => .ok (d, [])
  | c :: rest =>
    if isKeyStart c then readEntry d s
    else if c = '[' then readHeader d rest
    else if c = '#' then .ok (d, s)
    else .error (.invalidStatement, s)

/-- The lines of a document. The fuel is the length of the text. -/
def readLines : Nat → Draft → List Char → Except Stop Draft
  | 0, d, _ => .ok d
  | fuel + 1, d, s =>
    match skipBlanks s with
    | [] => .ok d
    | '\n' :: rest => readLines fuel d rest
    | line =>
      match readStatement d line with
      | .error stop => .error stop
      | .ok (d, afterStatement) =>
        match skipComment (skipBlanks afterStatement) with
        | .error stop => .error stop
        | .ok [] => .ok d
        | .ok ('\n' :: rest) => readLines fuel d rest
        | .ok other => .error (.trailingText, other)

/-- Line ends in pairs become line feeds; a carriage return alone stays. -/
def joinLineEnds : List Char → List Char
  | [] => []
  | '\r' :: '\n' :: rest => '\n' :: joinLineEnds rest
  | c :: rest => c :: joinLineEnds rest

def read (s : String) : Except Fault Entries :=
  let text := joinLineEnds s.toList
  match readLines (text.length + 1) {} text with
  | .ok d => .ok d.root
  | .error stop => .error (Fault.ofStop text stop)

end FormPress.Toml
