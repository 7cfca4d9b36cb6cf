import FormPress.Style.Token
import Mathlib.Tactic.SplitIfs

/-!
# Addresses of images in stylesheets

An address stands in a stylesheet as a quoted string. Whoever reads the stylesheet ends the string
at its quotation mark, but breaks it off at the end of a line, of which there are three kinds: line
feed, carriage return and form feed. An address never holds a mark that ends its string, a backslash
or one of the first two; a form feed it keeps. So its string is closed by the mark behind it exactly
when the address of the author has no form feed.
-/

namespace FormPress.Style

/-! ## Reading a quoted string -/

/-- The characters that end a line of a stylesheet. -/
def endsLine (c : Char) : Bool :=
  c == '\n' || c == '\r' || c == '\x0c'

/-- What stands of an escape in front of a character of a string. -/
inductive Escape where
  /-- No escape that could go on. -/
  | absent
  /-- The backslash. -/
  | opened
  /-- Digits of the code of a character, behind which a number of others may stand. -/
  | code (more : Nat)
  /-- A carriage return, which takes a line feed with it. -/
  | carriage
deriving DecidableEq, Repr

/-- The escape with one character more, if the character belongs to it. A code may be closed by one
blank. -/
def Escape.next? : Escape → Char → Option Escape
  | .absent, _ => none
  | .opened, c =>
    some (if c = '\r' then .carriage else if (Text.hexValue? c).isSome then .code 5 else .absent)
  | .code more, c =>
    if (Text.hexValue? c).isSome ∧ 0 < more then some (.code (more - 1))
    else if c = ' ' ∨ c = '\t' ∨ endsLine c then
      some (if c = '\r' then .carriage else .absent)
    else none
  | .carriage, c => if c = '\n' then some .absent else none

/-- How a quoted string ends. -/
inductive StringEnd where
  /-- At the quotation mark, with what stands behind it. -/
  | closed (behind : List Char)
  /-- At the end of a line, which is no part of it. -/
  | broken (behind : List Char)
  /-- With the stylesheet. -/
  | unfinished
deriving DecidableEq, Repr

/-- The end of a string in double quotation marks, from behind its first mark on. -/
def endOfString (e : Escape) : List Char → StringEnd
  | [] => .unfinished
  | c :: rest =>
    match e.next? c with
    | some next => endOfString next rest
    | none =>
      if c = '"' then .closed rest
      else if endsLine c then .broken (c :: rest)
      else endOfString (if c = '\\' then .opened else .absent) rest

theorem endOfString_cons (c : Char) (rest : List Char) :
    endOfString .absent (c :: rest) =
      if c = '"' then .closed rest
      else if endsLine c then .broken (c :: rest)
      else endOfString (if c = '\\' then .opened else .absent) rest := rfl

/-- A text without quotation marks and backslashes is a string up to the mark behind it, unless a
line ends in it. -/
theorem endOfString_append_iff {cs : List Char} (h : ∀ c ∈ cs, c ≠ '"' ∧ c ≠ '\\')
    (rest : List Char) :
    endOfString .absent (cs ++ '"' :: rest) = .closed rest ↔ ∀ c ∈ cs, endsLine c = false := by
  induction cs with
  | nil => simp [endOfString_cons]
  | cons c cs ih =>
    obtain ⟨⟨hquote, hback⟩, hcs⟩ := List.forall_mem_cons.1 h
    rw [List.cons_append, endOfString_cons, if_neg hquote, List.forall_mem_cons]
    by_cases hline : endsLine c = true
    · simp [hline]
    · rw [if_neg hline, if_neg hback, ih hcs]
      simp [hline]

/-! ## Addresses -/

/-- What an address is written without. -/
def barredChars : List Char :=
  ['"', '\\', '<', '>', '\n', '\r']

/-- A character that may stand in a quoted string. -/
def isSafeChar (c : Char) : Bool :=
  !barredChars.contains c && !endsLine c

theorem isSafeChar_iff {c : Char} :
    isSafeChar c = true ↔ c ∉ barredChars ∧ endsLine c = false := by
  simp [isSafeChar]

/-- A character is left out, written by its code, or kept; of those that end
a line only the form feed is kept. -/
theorem mem_addressChar {c d : Char} (h : d ∈ addressChar c) :
    d ∉ barredChars ∧ (endsLine d = true ↔ c = '\x0c') := by
  have hcode {ds : List Char} (hds : ds.all isSafeChar = true) (hd : d ∈ ds) (hc : c ≠ '\x0c') :
      d ∉ barredChars ∧ (endsLine d = true ↔ c = '\x0c') := by
    obtain ⟨hsafe, hline⟩ := isSafeChar_iff.1 (List.all_eq_true.1 hds d hd)
    exact ⟨hsafe, by simp [hline, hc]⟩
  unfold addressChar at h
  split_ifs at h with hquote hback hopen hclose hline
  · exact hcode rfl h (by simp [hquote])
  · exact hcode rfl h (by simp [hback])
  · exact hcode rfl h (by simp [hopen])
  · exact hcode rfl h (by simp [hclose])
  · contradiction
  · obtain rfl := List.mem_singleton.1 h
    rw [not_or] at hline
    simp [barredChars, endsLine, hquote, hback, hopen, hclose, hline]

theorem mem_addressChar_formFeed {c : Char} : '\x0c' ∈ addressChar c ↔ c = '\x0c' := by
  constructor
  · exact fun h => (mem_addressChar h).2.1 rfl
  · rintro rfl
    decide

/-- **The string of an address is closed by its own mark, unless the address has a form feed.**
Nothing else of an address could end the string or go beyond it. -/
theorem imageAddress_closed_iff {s : String} (h : s ≠ "") :
    ∃ body, imageAddress s = "url(\"" ++ body ++ "\")" ∧
      (∀ c ∈ body.toList, c ∉ barredChars) ∧
      ('\x0c' ∈ body.toList ↔ '\x0c' ∈ s.toList) ∧
      ∀ rest, endOfString .absent (body.toList ++ '"' :: rest) = .closed rest ↔
        '\x0c' ∉ s.toList := by
  have hbody : (Text.substitute addressChar s).toList = s.toList.flatMap addressChar :=
    Text.toList_substitute addressChar s
  refine ⟨Text.substitute addressChar s, by rw [imageAddress, if_neg h], ?_, ?_, fun rest => ?_⟩
  · rw [hbody, List.forall_mem_flatMap]
    exact fun c _ d hd => (mem_addressChar hd).1
  · simp [hbody, List.mem_flatMap, mem_addressChar_formFeed]
  · rw [hbody, endOfString_append_iff]
    · rw [List.forall_mem_flatMap]
      constructor
      · intro hlines hfeed
        have hends := hlines _ hfeed '\x0c' (mem_addressChar_formFeed.2 rfl)
        exact absurd hends (by decide)
      · intro hfeed c hc d hd
        rw [Bool.eq_false_iff]
        intro hline
        exact hfeed ((mem_addressChar hd).2.1 hline ▸ hc)
    · rw [List.forall_mem_flatMap]
      intro c _ d hd
      have hsafe := (mem_addressChar hd).1
      simp only [barredChars, List.mem_cons, not_or] at hsafe
      exact ⟨hsafe.1, hsafe.2.1⟩

/-- An address with marks, a backslash and line ends of two kinds, which closes its string. -/
theorem imageAddress_closed_markedAddress :
    "a\"b\\\r\n<c>" ≠ "" ∧ ∃ body, imageAddress "a\"b\\\r\n<c>" = "url(\"" ++ body ++ "\")" ∧
      (∀ c ∈ body.toList, c ∉ barredChars) ∧
      endOfString .absent (body.toList ++ ['"', ')', ';']) = .closed [')', ';'] := by
  have hne : "a\"b\\\r\n<c>" ≠ "" := by decide
  obtain ⟨body, hwritten, hsafe, -, hclosed⟩ := imageAddress_closed_iff hne
  exact ⟨hne, body, hwritten, hsafe, (hclosed [')', ';']).2 (by decide)⟩

/-- A form feed in an address breaks its string off, and the mark that should close the string
opens another. -/
theorem imageAddress_formFeed :
    imageAddress "a\x0cb" = "url(\"a\x0cb\")" ∧
      endOfString .absent ("a\x0cb".toList ++ ['"', ')', ';']) =
        .broken ("\x0cb".toList ++ ['"', ')', ';']) := by
  constructor
  · decide
  · decide

end FormPress.Style
