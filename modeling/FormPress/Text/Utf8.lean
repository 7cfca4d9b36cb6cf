import FormPress.Text.Basic

/-!
# UTF-8

Decoding of byte sequences, with the place and the kind of the first fault. A fault covers the bytes
that could still begin a character: one byte that begins none, the well-formed beginning before a
byte that does not continue it, or all that is left when the bytes end inside a character.
-/

namespace FormPress.Text.Utf8

/-- The kinds of faults. -/
inductive Problem where
  | badStart
  | badContinuation
  | truncated
deriving DecidableEq, Repr

/-- The wording of a kind. -/
def Problem.message : Problem → String
  | .badStart => "invalid start byte"
  | .badContinuation => "invalid continuation byte"
  | .truncated => "unexpected end of data"

/-- A fault: the bytes from `start`, `length` of them, the first being `byte`. -/
structure Fault where
  problem : Problem
  start : Nat
  length : Nat
  byte : UInt8
deriving DecidableEq, Repr

def Fault.message (f : Fault) : String :=
  (if f.length = 1 then
      "'utf-8' codec can't decode byte 0x" ++ String.ofList (hex 2 f.byte.toNat) ++
        " in position " ++ decimal f.start
    else
      "'utf-8' codec can't decode bytes in position " ++ decimal f.start ++ "-" ++
        decimal (f.start + f.length - 1)) ++
    ": " ++ f.problem.message

/-- A byte that continues a character. -/
def isTail (b : UInt8) : Bool :=
  decide (0x80 ≤ b.toNat ∧ b.toNat ≤ 0xBF)

/-- How many bytes follow a first byte. -/
def tailCount? (b : UInt8) : Option Nat :=
  let n := b.toNat
  if n < 0x80 then some 0
  else if n < 0xC2 then none
  else if n < 0xE0 then some 1
  else if n < 0xF0 then some 2
  else if n < 0xF5 then some 3
  else none

/-- A second byte that a first byte admits: no overlong forms, no surrogates, and nothing past
U+10FFFF. -/
def admits (first second : UInt8) : Bool :=
  let b := second.toNat
  isTail second &&
    (if first = 0xE0 then decide (0xA0 ≤ b)
     else if first = 0xED then decide (b ≤ 0x9F)
     else if first = 0xF0 then decide (0x90 ≤ b)
     else if first = 0xF4 then decide (b ≤ 0x8F)
     else true)

/-- The number of bytes in front that are good as a tail of `count` bytes after `first`. -/
def goodTail (first : UInt8) (count : Nat) : List UInt8 → Nat
  | [] => 0
  | b :: rest =>
    if count = 0 then 0
    else if admits first b then 1 + ((rest.take (count - 1)).takeWhile isTail).length
    else 0

/-- The code point of a first byte and its tail. -/
def codePoint (first : UInt8) (tail : List UInt8) : Nat :=
  let lead :=
    match tail.length with
    | 0 => first.toNat
    | 1 => first.toNat % 0x20
    | 2 => first.toNat % 0x10
    | _ => first.toNat % 0x08
  tail.foldl (fun n b => n * 0x40 + b.toNat % 0x40) lead

/-- Decode from a position on; the fuel is the number of bytes. -/
def decodeFrom : Nat → Nat → List UInt8 → Except Fault (List Char)
  | _, _, [] => .ok []
  | 0, _, _ :: _ => .ok []
  | fuel + 1, start, b :: rest =>
    match tailCount? b with
    | none => .error ⟨.badStart, start, 1, b⟩
    | some count =>
      let good := goodTail b count rest
      if good = count then
        (decodeFrom fuel (start + 1 + count) (rest.drop count)).map
          (Char.ofNat (codePoint b (rest.take count)) :: ·)
      else if good = rest.length then .error ⟨.truncated, start, 1 + good, b⟩
      else .error ⟨.badContinuation, start, 1 + good, b⟩

def decode (bytes : List UInt8) : Except Fault (List Char) :=
  decodeFrom bytes.length 0 bytes

def encode (s : String) : List UInt8 :=
  s.toUTF8.toList

end FormPress.Text.Utf8
