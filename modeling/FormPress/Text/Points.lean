import FormPress.Text.Basic

/-!
# Tables of code points

Properties of characters are sorted tables of code points. A table is kept as a text: words between
blanks, each of hexadecimal numbers between commas. A word of a table of ranges holds the first and
the last code point of a range, or its only one; a word of a table of runs holds the value of the
code points besides.
-/

namespace FormPress.Text

/-- The number of a word of hexadecimal digits. -/
def hexNumber (digits : List Char) : Nat :=
  digits.foldl (fun n c => n * 16 + (hexValue? c).getD 0) 0

def tableNumbers (word : List Char) : List Nat :=
  (splitAt ',' word).map hexNumber

def tableWords (table : String) : List (List Char) :=
  (splitAt ' ' (table.toList.map fun c => if c = '\n' then ' ' else c)).filter (!·.isEmpty)

def readRanges (table : String) : List (Nat × Nat) :=
  (tableWords table).filterMap fun word =>
    match tableNumbers word with
    | [point] => some (point, point)
    | [first, last] => some (first, last)
    | _ => none

/-- Code points one after another with the same value. -/
structure Run where
  first : Nat
  last : Nat
  value : Nat
deriving DecidableEq, Repr

def readRuns (table : String) : List Run :=
  (tableWords table).filterMap fun word =>
    match tableNumbers word with
    | [point, value] => some ⟨point, point, value⟩
    | [first, last, value] => some ⟨first, last, value⟩
    | _ => none

/-- The value of a code point in a sorted list of runs. -/
def runValue? : List Run → Nat → Option Nat
  | [], _ => none
  | r :: rest, n =>
    if n < r.first then none else if n ≤ r.last then some r.value else runValue? rest n

/-- A value comes from a run that holds the code point. -/
theorem exists_run_of_runValue? {runs : List Run} {n value : Nat}
    (h : runValue? runs n = some value) :
    ∃ r ∈ runs, r.first ≤ n ∧ n ≤ r.last ∧ r.value = value := by
  induction runs with
  | nil => simp [runValue?] at h
  | cons r rest ih =>
    rw [runValue?] at h
    split at h
    · simp at h
    · split at h
      · exact ⟨r, by simp, by omega, by omega, by simpa using h⟩
      · obtain ⟨s, hs, hn⟩ := ih h
        exact ⟨s, by simp [hs], hn⟩

end FormPress.Text
