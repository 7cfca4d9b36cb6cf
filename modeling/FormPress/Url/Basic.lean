import FormPress.Number.Reading
import FormPress.Text.Blank
import FormPress.Text.Percent
import FormPress.Url.Host

/-!
# Addresses

Addresses of services on the web, read leniently and written in a normal form: scheme and host in
small letters, no standard port, a path without dot segments, and every character that may not stand
in its part percent-encoded. White space around an address and line breaks inside it do not count.
-/

namespace FormPress

/-- An address on the web. `query` and `fragment` are absent without their marks. -/
structure Url where
  scheme : String
  username : String
  password : String
  host : Url.Host
  port : Option Nat
  path : List String
  query : Option String
  fragment : Option String
deriving DecidableEq, Repr

namespace Url

/-! ## Encoding of the parts -/

/-- A character that no part of an address may hold. -/
def isOutside (c : Char) : Bool :=
  c.toNat < 0x20 || 0x7F ≤ c.toNat

/-- A character that must be encoded in a fragment. -/
def outsideFragment (c : Char) : Bool :=
  isOutside c || c == ' ' || c == '"' || c == '<' || c == '>' || c.toNat == 0x60

/-- A character that must be encoded in a path. -/
def outsidePath (c : Char) : Bool :=
  outsideFragment c || c == '#' || c == '?' || c == '\x7b' || c == '\x7d'

/-- A character that must be encoded in a name or a password. -/
def outsideUser (c : Char) : Bool :=
  outsidePath c || c ∈ "/:;=@[\\]^|".toList

/-- A character that must be encoded in a query. -/
def outsideQuery (c : Char) : Bool :=
  isOutside c || c ∈ " \"#<>'".toList

def encodePart (outside : Char → Bool) (s : List Char) : String :=
  Text.Percent.encode (fun c => !outside c) (String.ofList s)

/-! ## Reading -/

/-- The characters of an address that count. -/
def significant (s : String) : List Char :=
  (Text.stripBy (fun c => decide (c.toNat ≤ 0x20)) s.toList).filter fun c =>
    c != '\t' && c != '\n' && c != '\r'

/-- The scheme and what follows its colon. -/
def splitScheme (s : List Char) : Option (String × List Char) :=
  match s with
  | c :: _ =>
    if c.isAlpha then
      let isSchemeChar := fun c : Char => c.isAlphanum || c == '+' || c == '-' || c == '.'
      match s.dropWhile isSchemeChar with
      | ':' :: rest => some (Text.foldAscii (String.ofList (s.takeWhile isSchemeChar)), rest)
      | _ => none
    else none
  | [] => none

/-- The port that a scheme has by itself. -/
def standardPort (scheme : String) : Option Nat :=
  if scheme = "http" ∨ scheme = "ws" then some 80
  else if scheme = "https" ∨ scheme = "wss" then some 443
  else if scheme = "ftp" then some 21
  else none

/-- Schemes of addresses with a host. -/
def hasHost (scheme : String) : Bool :=
  (standardPort scheme).isSome

/-- A character that ends the part of an address before its path. -/
def endsAuthority (c : Char) : Bool :=
  c == '/' || c == '\\' || c == '?' || c == '#'

/-- Name and password before the last at sign of an authority, and the rest. -/
def splitUser (authority : List Char) : List Char × List Char :=
  (Text.splitLast '@' authority).getD ([], authority)

/-- A host and what follows it; a colon between brackets belongs to the host. -/
def splitHost (inBrackets : Bool) : List Char → List Char × List Char
  | [] => ([], [])
  | c :: rest =>
    if c = ':' ∧ ¬inBrackets then ([], c :: rest)
    else
      let (host, tail) := splitHost (if c = '[' then true else if c = ']' then false
        else inBrackets) rest
      (c :: host, tail)

/-- A port after its colon. -/
def readPort (scheme : String) (s : List Char) : Except Fault (Option Nat) :=
  if s.all Number.isDigit then
    let n := s.foldl (fun n c => n * 10 + (c.toNat - 48)) 0
    if 65535 < n then .error .badPort
    else .ok (if s.isEmpty || some n == standardPort scheme then none else some n)
  else .error .badPort

/-- A dot segment for the segment itself. -/
def isSingleDot (segment : String) : Bool :=
  let s := Text.foldAscii segment
  s == "." || s == "%2e"

/-- A dot segment for the segment above. -/
def isDoubleDot (segment : String) : Bool :=
  let s := Text.foldAscii segment
  s == ".." || s == ".%2e" || s == "%2e." || s == "%2e%2e"

/-- A text that names a drive: a letter with a colon or a bar. -/
def isDrive (s : List Char) : Bool :=
  match s with
  | [letter, mark] => letter.isAlpha && (mark == ':' || mark == '|')
  | _ => false

/-- The segments without the last, which stands in front; a drive is never left. -/
def leave : List String → List String
  | [] => []
  | segment :: above => if isDrive segment.toList then segment :: above else above

/-- Segments without the dot segments; a dot segment at the end leaves an empty one. `above` holds
the segments so far, the last first. -/
def resolveDots (above : List String) : List String → List String
  | [] => above.reverse
  | [last] =>
    if isDoubleDot last then ("" :: leave above).reverse
    else if isSingleDot last then ("" :: above).reverse
    else (last :: above).reverse
  | segment :: next :: rest =>
    if isDoubleDot segment then resolveDots (leave above) (next :: rest)
    else if isSingleDot segment then resolveDots above (next :: rest)
    else resolveDots (segment :: above) (next :: rest)

/-- The segments of a path. Both slashes separate. -/
def readPath (s : List Char) : List String :=
  let body := (s.map fun c => if c = '\\' then '/' else c)
  let body := match body with
    | '/' :: rest => rest
    | other => other
  resolveDots [] ((Text.splitAt '/' body).map (encodePart outsidePath))

/-- The part before a mark and, if the mark is there, the part after it. -/
def splitMark (mark : Char) (s : List Char) : List Char × Option (List Char) :=
  match Text.splitFirst mark s with
  | some (before, after) => (before, some after)
  | none => (s, none)

/-- An address of a scheme with a host, after the slashes. -/
def readAuthority (scheme : String) (s : List Char) : Except Fault Url := do
  let authority := s.takeWhile fun c => !endsAuthority c
  let rest := s.dropWhile fun c => !endsAuthority c
  let (user, place) := splitUser authority
  let (hostText, tail) := splitHost false place
  if hostText.isEmpty then .error .emptyHost
  let host ← Host.read hostText
  let port ← readPort scheme (tail.drop 1)
  let (name, password) := splitMark ':' user
  let (beforeFragment, fragment) := splitMark '#' rest
  let (path, query) := splitMark '?' beforeFragment
  return {
    scheme := scheme
    username := encodePart outsideUser name
    password := encodePart outsideUser (password.getD [])
    host := host
    port := port
    path := readPath path
    query := query.map (encodePart outsideQuery)
    fragment := fragment.map (encodePart outsideFragment) }

/-- A character that no host of an unknown scheme may hold. -/
def isForbiddenOpaque (c : Char) : Bool :=
  c ∈ "\x00 #/:<>?@[\\]^|".toList

/-- A host of an unknown scheme is an IPv6 address or a text without certain characters. -/
def checkOpaqueHost (host : List Char) : Except Fault Unit :=
  if host.head? = some '[' then (Host.read host).map fun _ => ()
  else if host.any isForbiddenOpaque then .error .badHostCharacter
  else .ok ()

/-- An address of an unknown scheme, after its two slashes. Name and password need a host, and so
does a port; a backslash ends the port. -/
def checkOpaque (s : List Char) : Except Fault Unit := do
  let authority := s.takeWhile fun c => !(c == '/' || c == '?' || c == '#')
  let rest := s.drop authority.length
  let (user, place) := splitUser authority
  let (host, tail) := splitHost false place
  let namesNobody := authority.head? = some '@' ∧ user.isEmpty ∧ place.isEmpty
  if namesNobody ∧ !rest.isEmpty then throw .emptyHost
  checkOpaqueHost host
  if host.isEmpty ∧ !tail.isEmpty then throw .emptyHost
  let _ ← readPort "" ((tail.drop 1).takeWhile (· != '\\'))
  if host.isEmpty ∧ !user.isEmpty ∧ user ≠ [':'] then throw .emptyHost

/-- An address of a file may name a host, which is then one as on the web; a drive is none. -/
def checkFile (s : List Char) : Except Fault Unit :=
  match s with
  | first :: second :: rest =>
    let isSlash (c : Char) : Bool := c == '/' || c == '\\'
    let host := rest.takeWhile fun c => !endsAuthority c
    if !(isSlash first && isSlash second) || host.isEmpty || isDrive host then .ok ()
    else (Host.read host).map fun _ => ()
  | _ => .ok ()

/-- An address that is none of the web, after the colon of its scheme. -/
def checkOther (scheme : String) (s : List Char) : Except Fault Unit :=
  if scheme = "file" then checkFile s
  else
    match s with
    | '/' :: '/' :: rest => checkOpaque rest
    | _ => .ok ()

/-- What a text is as an address. -/
inductive Reading where
  | web (url : Url)
  | otherScheme
  | fault (f : Fault)
deriving Repr

/-- Read an address. Only two schemes are those of the web. -/
def read (s : String) : Reading :=
  if s = "" then .fault .empty
  else
    match splitScheme (significant s) with
    | none => .fault .relative
    | some (scheme, rest) =>
      if hasHost scheme then
        match readAuthority scheme (rest.dropWhile fun c => c == '/' || c == '\\') with
        | .error f => .fault f
        | .ok url =>
          if scheme = "http" ∨ scheme = "https" then .web url else .otherScheme
      else
        match checkOther scheme rest with
        | .error f => .fault f
        | .ok () => .otherScheme

/-! ## Writing -/

/-- Name and password with their mark. -/
def userText (u : Url) : String :=
  if u.username = "" ∧ u.password = "" then ""
  else u.username ++ (if u.password = "" then "" else ":" ++ u.password) ++ "@"

/-- A part after its mark, if it is there. -/
def marked (mark : String) (part : Option String) : String :=
  match part with
  | some s => mark ++ s
  | none => ""

/-- The normal form of an address. -/
def write (u : Url) : String :=
  u.scheme ++ "://" ++ u.userText ++ u.host.write ++ marked ":" (u.port.map Text.decimal) ++ "/" ++
    Text.join "/" u.path ++ marked "?" u.query ++ marked "#" u.fragment

end Url

end FormPress
