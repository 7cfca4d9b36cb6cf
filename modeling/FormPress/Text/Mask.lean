/-!
# Masked secrets

A secret is shown in a log by its two ends. The number of characters to keep may be any integer; a
text of at most twice that length, and no text at all, is masked whole.
-/

namespace FormPress.Text

def maskMark : String := "***"

/-- The first `k` items; a negative `k` drops as many at the end. -/
def headPart {α : Type} (k : Int) (s : List α) : List α :=
  if 0 ≤ k then s.take k.toNat else s.take (s.length - (-k).toNat)

/-- The items from `k` on; a negative `k` counts from the end. -/
def tailPart {α : Type} (k : Int) (s : List α) : List α :=
  if 0 ≤ k then s.drop k.toNat else s.drop (s.length - (-k).toNat)

/-- The two ends of a secret around the mask. -/
def mask (secret : Option String) (keep : Int) : String :=
  match secret with
  | none => maskMark
  | some s =>
    if s.length = 0 ∨ (s.length : Int) ≤ keep * 2 then maskMark
    else
      String.ofList (headPart keep s.toList) ++ maskMark ++
        String.ofList (tailPart (-keep) s.toList)

end FormPress.Text
