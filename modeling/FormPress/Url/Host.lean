import FormPress.Text.Utf8
import FormPress.Url.Domain

/-!
# Hosts

The host of an address: a domain, an IPv4 address in any of its spellings, or an IPv6 address
between brackets. Each is written in one way: domains in ASCII and small letters, IPv4 addresses as
four decimal numbers, IPv6 addresses with the longest run of zeros left out.
-/

namespace FormPress.Url

/-- Why an address is none. -/
inductive Fault where
  | empty | relative | emptyHost | badPort | badDomain | badIpv4 | badIpv6 | badHostCharacter
deriving DecidableEq, Repr

def Fault.message : Fault → String
  | .empty => "input is empty"
  | .relative => "relative URL without a base"
  | .emptyHost => "empty host"
  | .badPort => "invalid port number"
  | .badDomain => "invalid international domain name"
  | .badIpv4 => "invalid IPv4 address"
  | .badIpv6 => "invalid IPv6 address"
  | .badHostCharacter => "invalid domain character"

inductive Host where
  | domain (name : String)
  | ipv4 (address : Nat)
  | ipv6 (pieces : List Nat)
deriving DecidableEq, Repr

/-! ## IPv4 -/

/-- A number in one of three bases: `none` when it is none, `some none` when it is too large. -/
def ipv4Number? (s : List Char) : Option (Option Nat) :=
  let valueOf (base : Nat) (digits : List Char) : Option (Option Nat) :=
    if digits.all fun c => (Text.hexValue? c).any fun d => decide (d < base) then
      let n := digits.foldl (fun n c => n * base + (Text.hexValue? c).getD 0) 0
      some (if n < 0x100000000 then some n else none)
    else none
  match s with
  | [] => none
  | '0' :: 'x' :: digits => valueOf 16 digits
  | '0' :: 'X' :: digits => valueOf 16 digits
  | '0' :: d :: digits => valueOf 8 (d :: digits)
  | digits => valueOf 10 digits

/-- The labels of a domain without the empty one after a final dot. -/
def significantLabels (domain : List Char) : List (List Char) :=
  let labels := Text.splitAt '.' domain
  if labels.getLast? = some [] then labels.dropLast else labels

/-- Whether the last label is a number, so that the domain must be an IPv4 address. -/
def endsInNumber (domain : List Char) : Bool :=
  match (significantLabels domain).getLast? with
  | none => false
  | some label =>
    (!label.isEmpty && label.all fun c => decide ('0' ≤ c ∧ c ≤ '9')) || (ipv4Number? label).isSome

/-- The last number fills what the numbers before it leave. -/
def ipv4Of : Nat → List Nat → Option Nat
  | _, [] => none
  | shift, [n] => if n < Nat.pow 256 shift then some n else none
  | shift, n :: rest =>
    if n < 256 then (ipv4Of (shift - 1) rest).map fun tail => n * Nat.pow 256 (shift - 1) + tail
    else none

def readIpv4 (domain : List Char) : Except Fault Nat :=
  let labels := significantLabels domain
  if 4 < labels.length then .error .badIpv4
  else
    match labels.mapM fun l => (ipv4Number? l).join with
    | some numbers =>
      match ipv4Of 4 numbers with
      | some address => .ok address
      | none => .error .badIpv4
    | none => .error .badIpv4

/-- An IPv4 address as four decimal numbers. -/
def writeIpv4 (address : Nat) : String :=
  Text.join "."
    ([address / 0x1000000, address / 0x10000 % 256, address / 256 % 256, address % 256].map
      Text.decimal)

/-! ## IPv6 -/

/-- One to four hexadecimal digits. -/
def ipv6Piece? (s : List Char) : Option Nat :=
  if s.isEmpty || 4 < s.length || !s.all fun c => (Text.hexValue? c).isSome then none
  else some (s.foldl (fun n c => n * 16 + (Text.hexValue? c).getD 0) 0)

/-- A decimal number below 256 without leading zeros. -/
def dottedNumber? (s : List Char) : Option Nat :=
  if s.isEmpty || 3 < s.length || !s.all fun c => decide ('0' ≤ c ∧ c ≤ '9') then none
  else if s.head? = some '0' && 1 < s.length then none
  else
    let n := s.foldl (fun n c => n * 10 + (c.toNat - 48)) 0
    if n < 256 then some n else none

/-- Two pieces from an address in dotted form. -/
def dottedPieces? (s : List Char) : Option (List Nat) :=
  match (Text.splitAt '.' s).mapM dottedNumber? with
  | some [a, b, c, d] => some [a * 256 + b, c * 256 + d]
  | _ => none

/-- Pieces between colons; the last may be in dotted form. -/
def ipv6Pieces? : List (List Char) → Option (List Nat)
  | [] => some []
  | [last] => if last.contains '.' then dottedPieces? last else (ipv6Piece? last).map ([·])
  | piece :: rest => do
    let n ← ipv6Piece? piece
    let ns ← ipv6Pieces? rest
    return n :: ns

/-- Pieces of a part of an address, none for the empty part. -/
def ipv6Part? (s : List Char) : Option (List Nat) :=
  if s.isEmpty then some [] else ipv6Pieces? (Text.splitAt ':' s)

/-- Split at the first double colon, when there is one. -/
def splitGap : List Char → Option (List Char × List Char)
  | ':' :: ':' :: rest => some ([], rest)
  | c :: rest => (splitGap rest).map fun p => (c :: p.1, p.2)
  | [] => none

/-- The eight pieces of an IPv6 address. -/
def readIpv6 (s : List Char) : Except Fault (List Nat) :=
  let pieces? :=
    match splitGap s with
    | some (left, right) => do
      let ls ← ipv6Part? left
      let rs ← ipv6Part? right
      if left.contains '.' || 7 < ls.length + rs.length then none
      else some (ls ++ List.replicate (8 - ls.length - rs.length) 0 ++ rs)
    | none => (ipv6Part? s).filter fun ps => ps.length == 8
  match pieces? with
  | some ps => .ok ps
  | none => .error .badIpv6

/-- The length of the run of zeros at the front. -/
def zeroRun (ps : List Nat) : Nat :=
  (ps.takeWhile (· == 0)).length

/-- Start and length of the longest run of zeros, the first of equal ones. -/
def longestZeros (ps : List Nat) : Nat × Nat :=
  (List.range ps.length).foldl
    (fun best i => if best.2 < zeroRun (ps.drop i) then (i, zeroRun (ps.drop i)) else best) (0, 0)

/-- A piece in hexadecimal digits. -/
def writePiece (n : Nat) : String :=
  String.ofList (Nat.toDigits 16 n)

/-- An IPv6 address between brackets. A run of at least two zeros is left out. -/
def writeIpv6 (ps : List Nat) : String :=
  let (start, length) := longestZeros ps
  let colons (qs : List Nat) := Text.join ":" (qs.map writePiece)
  if length < 2 then "[" ++ colons ps ++ "]"
  else "[" ++ colons (ps.take start) ++ "::" ++ colons (ps.drop (start + length)) ++ "]"

/-! ## Hosts -/

/-- Characters for percent signs with two hexadecimal digits. -/
def percentDecode : List Char → List UInt8
  | '%' :: a :: b :: rest =>
    match Text.hexValue? a, Text.hexValue? b with
    | some x, some y => UInt8.ofNat (x * 16 + y) :: percentDecode rest
    | _, _ => Text.Utf8.encode "%" ++ percentDecode (a :: b :: rest)
  | c :: rest => Text.Utf8.encode (String.ofList [c]) ++ percentDecode rest
  | [] => []

/-- The host of an address on the web. -/
def Host.read (s : List Char) : Except Fault Host :=
  match s with
  | '[' :: rest =>
    if rest.getLast? = some ']' then (readIpv6 rest.dropLast).map .ipv6 else .error .badIpv6
  | _ =>
    match Text.Utf8.decode (percentDecode s) with
    | .error _ => .error .badDomain
    | .ok decoded =>
      match domainToAscii? decoded with
      | none => .error .badDomain
      | some ascii =>
        if ascii.isEmpty then .error .emptyHost
        else if endsInNumber ascii then (readIpv4 ascii).map .ipv4
        else .ok (.domain (String.ofList ascii))

def Host.write : Host → String
  | .domain name => name
  | .ipv4 address => writeIpv4 address
  | .ipv6 pieces => writeIpv6 pieces

end FormPress.Url
