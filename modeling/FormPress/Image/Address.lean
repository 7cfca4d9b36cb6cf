import FormPress.Text.Quoted
import FormPress.Url.Host

/-!
# Addresses of images

An address as far as the kind of an image hangs on it: scheme, host and path, each as it was
written. A host is not looked up, but brackets in it come in pairs and hold an address of their own,
and none of its characters stands for one at which a host ends.
-/

namespace FormPress.Image

/-- Why an address has no path to read a kind from. -/
inductive AddressFault where
  | unpairedBracket
  | badVersion
  | noAddress (inside : String)
  | bracketedIpv4
  | unsafeHost (host : String)
deriving DecidableEq, Repr

def AddressFault.message : AddressFault → String
  | .unpairedBracket => "Invalid IPv6 URL"
  | .badVersion => "IPvFuture address is invalid"
  | .noAddress inside =>
    Text.Quoted.write inside ++ " does not appear to be an IPv4 or IPv6 address"
  | .bracketedIpv4 => "An IPv4 address cannot be in brackets"
  | .unsafeHost host =>
    "netloc '" ++ host ++ "' contains invalid characters under NFKC normalization"

/-- The characters of an address that count. -/
def plainAddress (url : String) : List Char :=
  (url.toList.dropWhile fun c => decide (c.toNat ≤ 0x20)).filter fun c =>
    c != '\t' && c != '\r' && c != '\n'

/-! ## Schemes -/

def isSchemeChar (c : Char) : Bool :=
  c.isAlphanum || c == '+' || c == '-' || c == '.'

/-- The scheme of an address in small letters, and what follows it; empty when there is none. -/
def splitScheme (url : List Char) : List Char × List Char :=
  match Text.splitFirst ':' url with
  | some (scheme, rest) =>
    if scheme.head?.any Char.isAlpha && scheme.all isSchemeChar then
      (scheme.map Text.lowerAscii, rest)
    else ([], url)
  | none => ([], url)

/-! ## Hosts -/

def endsHost (c : Char) : Bool :=
  c == '/' || c == '?' || c == '#'

/-- Host and rest of what follows a scheme. -/
def splitHost (s : List Char) : List Char × List Char :=
  match s with
  | '/' :: '/' :: rest => (rest.takeWhile (!endsHost ·), rest.dropWhile (!endsHost ·))
  | _ => ([], s)

/-- An address of a later version: its number in hexadecimal digits, a point, and something. -/
def isLaterVersion (inside : List Char) : Bool :=
  match Text.splitFirst '.' (inside.drop 1) with
  | some (digits, rest) =>
    !digits.isEmpty && digits.all (fun c => (Text.hexValue? c).isSome) && !rest.isEmpty
  | none => false

/-- An IPv6 address that may name the zone in which it holds. -/
def isIpv6 (inside : List Char) : Bool :=
  match Text.splitFirst '%' inside with
  | some (address, zone) =>
    (Url.readIpv6 address).isOk && !zone.isEmpty && !zone.contains '%'
  | none => (Url.readIpv6 inside).isOk

/-- What stands between brackets, checked. -/
def checkBrackets (inside : List Char) : Except AddressFault Unit :=
  if inside.head? = some 'v' then
    if isLaterVersion inside then .ok () else .error .badVersion
  else if (Url.dottedPieces? inside).isSome then .error .bracketedIpv4
  else if isIpv6 inside then .ok ()
  else .error (.noAddress (String.ofList inside))

/-- What stands between the first opening bracket and the first closing one after it. -/
def betweenBrackets (host : List Char) : List Char :=
  ((host.dropWhile (· != '[')).drop 1).takeWhile (· != ']')

/-- Characters that stand for a slash, a question mark, a number sign, an at sign or a colon, alone
or among others. -/
def standIns : List Nat :=
  [0x2047, 0x2048, 0x2049, 0x2100, 0x2101, 0x2105, 0x2106, 0x2A74, 0xFE13, 0xFE16, 0xFE55, 0xFE56,
   0xFE5F, 0xFE6B, 0xFF03, 0xFF0F, 0xFF1A, 0xFF1F, 0xFF20]

def checkHost (host : List Char) : Except AddressFault Unit := do
  if host.contains '[' != host.contains ']' then throw .unpairedBracket
  if host.contains '[' then checkBrackets (betweenBrackets host)
  if host.any fun c => standIns.contains c.toNat then throw (.unsafeHost (String.ofList host))

/-! ## Paths -/

/-- Schemes whose paths may have parameters after a semicolon. -/
def parameterSchemes : List String :=
  ["", "ftp", "hdl", "prospero", "http", "imap", "https", "shttp", "rtsp", "rtsps", "rtspu", "sip",
   "sips", "mms", "sftp", "tel"]

/-- A path without the parameters of its last part. -/
def withoutParameters (path : List Char) : List Char :=
  let last := (path.reverse.takeWhile (· != '/')).reverse
  path.take (path.length - last.length) ++ last.takeWhile (· != ';')

/-- The path in what follows a host: without query and fragment. -/
def pathOf (scheme : String) (rest : List Char) : List Char :=
  let path := (rest.takeWhile (· != '#')).takeWhile (· != '?')
  if parameterSchemes.contains scheme then withoutParameters path else path

/-- An address taken apart; without a scheme of two letters or more it is a path as a whole. -/
structure Address where
  scheme : String
  path : List Char

/-- Take an address apart. -/
def Address.read (url : String) : Except AddressFault Address := do
  let (letters, rest) := splitScheme (plainAddress url)
  let (host, rest) := splitHost rest
  checkHost host
  let scheme := String.ofList letters
  if 1 < letters.length then return ⟨scheme, pathOf scheme rest⟩
  else return ⟨"", url.toList⟩

end FormPress.Image
