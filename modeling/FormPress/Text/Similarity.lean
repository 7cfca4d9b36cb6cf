import FormPress.Text.Basic

/-!
# Similar texts

Two texts are as similar as the characters that they share, in blocks: the longest common block, and
in the same way the blocks before it and after it. Of blocks of one length the earliest counts. Two
texts are close when the shared characters are at least three fifths of all.
-/

namespace FormPress.Text

/-- The length of the common front of two texts. -/
def commonFront : List Char → List Char → Nat
  | a :: s, b :: t => if a = b then commonFront s t + 1 else 0
  | _, _ => 0

/-- A common block: where it begins in the two texts, and its length. -/
structure Block where
  left : Nat
  right : Nat
  length : Nat
deriving DecidableEq, Repr

/-- The longest of the blocks, the first of several. -/
def longestOf (blocks : List Block) : Block :=
  blocks.foldl (fun best b => if best.length < b.length then b else best) ⟨0, 0, 0⟩

/-- The longest common block of two texts. -/
def longestBlock (s t : List Char) : Block :=
  longestOf ((List.range s.length).flatMap fun i =>
    (List.range t.length).map fun j => ⟨i, j, commonFront (s.drop i) (t.drop j)⟩)

/-- The number of characters in common blocks. The fuel is the length of the first text. -/
def sharedCount : Nat → List Char → List Char → Nat
  | 0, _, _ => 0
  | fuel + 1, s, t =>
    let b := longestBlock s t
    if b.length = 0 then 0
    else
      b.length + sharedCount fuel (s.take b.left) (t.take b.right) +
        sharedCount fuel (s.drop (b.left + b.length)) (t.drop (b.right + b.length))

/-- The shared characters of two texts, and all their characters. -/
def similarity (s t : String) : Nat × Nat :=
  (2 * sharedCount (s.length + 1) s.toList t.toList, s.length + t.length)

def isClose (s t : String) : Bool :=
  let (shared, all) := similarity s t
  decide (6 * all ≤ 10 * shared)

/-- The first text is at least as good a match for a word as the second. -/
def isBetterMatch (word s t : String) : Bool :=
  let (sharedS, allS) := similarity s word
  let (sharedT, allT) := similarity t word
  if sharedS * allT = sharedT * allS then decide (t ≤ s)
  else decide (sharedT * allS < sharedS * allT)

/-- The three best of the texts that are close to a word. -/
def closeMatches (word : String) (candidates : List String) : List String :=
  ((candidates.filter (isClose · word)).mergeSort (isBetterMatch word)).take 3

end FormPress.Text
