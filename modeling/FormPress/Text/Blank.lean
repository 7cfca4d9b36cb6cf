import FormPress.Text.Ranges

/-!
# Blank characters

Two classes of blanks. `isSpace` is the Unicode property White_Space, which governs the reading of
numbers; `isBlank` adds the four information separators U+001C to U+001F and governs the trimming
of authored text. Both are trimmed by `stripBy`, which drops the class at the two ends and nothing
between them.
-/

namespace FormPress.Text

/-- The characters with the property White_Space. -/
def spaceRanges : List (Nat × Nat) :=
  [(0x9, 0xD), (0x20, 0x20), (0x85, 0x85), (0xA0, 0xA0), (0x1680, 0x1680), (0x2000, 0x200A),
   (0x2028, 0x2029), (0x202F, 0x202F), (0x205F, 0x205F), (0x3000, 0x3000)]

/-- White_Space: what is trimmed around a number. -/
def isSpace (c : Char) : Bool :=
  inRanges spaceRanges c.toNat

/-- White_Space and the information separators: what is trimmed around authored text. -/
def isBlank (c : Char) : Bool :=
  isSpace c || (0x1C ≤ c.toNat && c.toNat ≤ 0x1F)

/-- Drop the characters of a class from both ends. -/
def stripBy (p : Char → Bool) (s : List Char) : List Char :=
  ((s.dropWhile p).reverse.dropWhile p).reverse

/-- Authored text without the blanks around it. -/
def strip (s : String) : String :=
  String.ofList (stripBy isBlank s.toList)

@[simp] theorem toList_strip (s : String) : (strip s).toList = stripBy isBlank s.toList := by
  simp [strip]

/-- Stripping only drops characters. -/
theorem mem_of_mem_stripBy {p : Char → Bool} {s : List Char} {c : Char}
    (h : c ∈ stripBy p s) : c ∈ s := by
  have h1 := (List.dropWhile_sublist p).subset (List.mem_reverse.1 h)
  exact (List.dropWhile_sublist p).subset (List.mem_reverse.1 h1)

end FormPress.Text
