import FormPress.Proofs.Markup.Forgery
import FormPress.Proofs.Script.Literals
import FormPress.Proofs.Script.Pieces

/-!
# Calm and neat scripts

A script is calm when its fixed code is calm: what comes from a form enters a script as a literal
only, and no literal holds a `<`.

The fixed code of a script is neat when it keeps its line and opens no marker that a value could
close. A literal keeps its line as well, since line breaks are escaped in it, and its quotation
marks stand where no marker has one. So neat code is written in lines of its own, without a marker
in them, whatever the values are.
-/

namespace FormPress.Script

open Markup (Leads Seen leads_of_eq_true settled unsettled)
open Text (Calm calm_empty calm_of_notMem)

/-! ## Calm scripts -/

/-- No value can leave its literal towards an end tag. -/
theorem calm_literal (v : Json) : Calm (literal v) := by
  apply calm_of_notMem
  rw [toList_literal, List.mem_flatMap]
  rintro ⟨c, -, hc⟩
  exact notMem_literalChar c hc

theorem calm_writeLine {after : Bool} {l : Line} (h : LineAll (fun _ => Calm) after l) :
    Calm (writeLine l) := by
  induction l generalizing after with
  | nil => exact calm_empty
  | cons p rest ih =>
    rw [writeLine, List.map_cons, Text.concat_cons]
    cases p with
    | code s =>
      rw [lineAll_code] at h
      exact h.1.append (ih h.2)
    | value v =>
      rw [lineAll_value] at h
      exact (calm_literal v).append (ih h.2)

theorem calm_indented (indent : Nat) {s : String} (h : Calm s) : Calm (indented indent s) := by
  unfold indented
  split
  · exact calm_empty
  · have hblanks : Calm (String.ofList (List.replicate indent ' ')) := by
      apply calm_of_notMem
      simp
    exact hblanks.append h

theorem lineRule_calm : LineRule (fun _ => Calm) Calm where
  line := calm_writeLine
  closing := fun h => Calm.append (calm_of_notMem (by simp)) h
  opening := fun h => h.append (calm_of_notMem (by simp))
  indented := fun indent h => calm_indented indent h

/-- **Calm code is written as a calm text, whatever its values.** -/
theorem calm_write {part : List Code} (h : ListAll (fun _ => Calm) part) : Calm (write part) :=
  Text.calm_join (calm_of_notMem (by simp)) (lineRule_calm.listLines 0 h)

/-! ## Neat texts -/

/-- A text in one line that leads from some states to others. -/
structure InLine (before after : List Seen) (s : List Char) : Prop where
  newline : '\n' ∉ s
  leads : Leads before after s

/-- Keeping a line can be computed. -/
def inLine (before after : List Seen) (s : List Char) : Bool :=
  Markup.leads before after s && !s.contains '\n'

section InLine

variable {before between after : List Seen} {s t : List Char}

theorem inLine_of_eq_true (h : inLine before after s = true) : InLine before after s := by
  rw [inLine, Bool.and_eq_true, Bool.not_eq_true', List.contains_eq_mem,
    decide_eq_false_iff_not] at h
  exact ⟨h.2, leads_of_eq_true h.1⟩

theorem InLine.append (hs : InLine before between s) (ht : InLine between after t) :
    InLine before after (s ++ t) := by
  refine ⟨?_, hs.leads.append ht.leads⟩
  rw [List.mem_append, not_or]
  exact ⟨hs.newline, ht.newline⟩

theorem InLine.mono (h : InLine before after s) {less more : List Seen} (hless : less ⊆ before)
    (hmore : after ⊆ more) : InLine less more s :=
  ⟨h.newline, h.leads.mono hless hmore⟩

end InLine

/-! ## Literals -/

/-- What is open inside a string: no quotation mark. -/
abbrev inString : List Seen := [.other, .letter, .equals]

theorem ofChar_mem_settled (c : Char) : Seen.ofChar c ∈ settled := by
  unfold Seen.ofChar
  split
  all_goals simp

theorem leads_of_forall_singleton {states : List Seen} {s : List Char}
    (h : ∀ c ∈ s, Leads states states [c]) : Leads states states s := by
  induction s with
  | nil => exact Markup.leads_nil fun _ hseen => hseen
  | cons c rest ih =>
    rw [List.forall_mem_cons] at h
    exact h.1.append (ih h.2)

/-- Without a quotation mark none becomes open. -/
theorem leads_of_notMem_quote {s : List Char} (h : '"' ∉ s) : Leads inString inString s := by
  refine leads_of_forall_singleton fun c hc => ?_
  have hquote : c ≠ '"' := by
    rintro rfl
    exact h hc
  have hsettled : settled ⊆ inString := by simp
  have hchar : Seen.ofChar c ∈ inString := hsettled (ofChar_mem_settled c)
  intro seen hseen
  simp only [List.mem_cons, List.not_mem_nil, or_false] at hseen
  rcases hseen with rfl | rfl | rfl
  · exact ⟨_, hchar, rfl⟩
  · by_cases hequals : c = '='
    · exact ⟨.equals, by simp, by simp [Seen.run, Seen.next, hequals]⟩
    · exact ⟨_, hchar, by simp [Seen.run, Seen.next, hequals]⟩
  · exact ⟨_, hchar, by simp [Seen.run, Seen.next, hquote]⟩

/-- Without an equals sign nothing becomes open. -/
theorem leads_of_notMem_equals {s : List Char} (h : '=' ∉ s) : Leads settled settled s := by
  refine leads_of_forall_singleton fun c hc => ?_
  have hequals : c ≠ '=' := by
    rintro rfl
    exact h hc
  intro seen hseen
  simp only [List.mem_cons, List.not_mem_nil, or_false] at hseen
  rcases hseen with rfl | rfl
  · exact ⟨_, ofChar_mem_settled c, rfl⟩
  · exact ⟨_, ofChar_mem_settled c, by simp [Seen.run, Seen.next, hequals]⟩

theorem inLine_of_notMem {s : List Char} (hline : '\n' ∉ s) (hquote : '"' ∉ s) :
    InLine inString inString s :=
  ⟨hline, leads_of_notMem_quote hquote⟩

/-- A character stays in its line and its string. -/
theorem inLine_escapeChar (c : Char) :
    InLine inString inString ((Json.escapeChar c).flatMap literalChar) := by
  have hcode : InLine inString inString ('\\' :: 'u' :: Text.hex 4 c.toNat) := by
    apply inLine_of_notMem
    · simpa using notMem_hex (by decide) 4 c.toNat
    · simpa using notMem_hex (by decide) 4 c.toNat
  rw [flatMap_escapeChar]
  split
  · exact hcode
  · unfold Json.escapeChar
    split_ifs with hquote hslash hline
    all_goals first | exact inLine_of_eq_true rfl | exact hcode | skip
    apply inLine_of_notMem
    · simpa using Ne.symm hline
    · simpa using Ne.symm hquote

theorem inLine_writeString (s : List Char) :
    InLine settled unsettled ((Json.writeString s).flatMap literalChar) := by
  have hbody : InLine inString inString ((s.flatMap Json.escapeChar).flatMap literalChar) := by
    induction s with
    | nil => exact inLine_of_eq_true rfl
    | cons c rest ih =>
      rw [List.flatMap_cons, List.flatMap_append]
      exact (inLine_escapeChar c).append ih
  have hopen : InLine settled inString ['"'] := inLine_of_eq_true rfl
  have hclose : InLine inString unsettled ['"'] := inLine_of_eq_true rfl
  have hwritten := (hopen.append hbody).append hclose
  rwa [← List.append_nil ((Json.writeString s).flatMap literalChar),
    transparent_literalChar.flatMap_writeString]

theorem inLine_isNumeral {s : String} (h : IsNumeral s) :
    InLine settled unsettled (s.toList.flatMap literalChar) := by
  have hself : s.toList.flatMap literalChar = s.toList :=
    flatMap_literalChar_self fun c hc => not_needsCode (by decide) (h.isNumberChar_of_mem c hc)
  have hleads : Leads settled settled s.toList := leads_of_notMem_equals (h.notMem (by decide))
  rw [hself]
  exact ⟨h.notMem (by decide), hleads.mono (fun _ hseen => hseen) (by simp)⟩

mutual

/-- A literal stays in its line, and is behind a value at its end. -/
theorem inLine_chars (v : Json) :
    InLine settled unsettled ((v.chars Json.spaced).flatMap literalChar) := by
  cases v with
  | null => exact inLine_of_eq_true rfl
  | bool b =>
    cases b with
    | true => exact inLine_of_eq_true rfl
    | false => exact inLine_of_eq_true rfl
  | int i => exact inLine_isNumeral (isNumeral_decimalInt i)
  | float x => exact inLine_isNumeral (NumberLayout.isNumeral_json x)
  | string s => exact inLine_writeString s.toList
  | brokenString => exact inLine_writeString _
  | array items =>
    have hopen : InLine settled settled ['['] := inLine_of_eq_true rfl
    have hclose : InLine unsettled unsettled [']'] := inLine_of_eq_true rfl
    rw [Json.chars, List.flatMap_append, List.flatMap_cons]
    exact (hopen.append (inLine_itemChars items)).append hclose
  | object members =>
    have hopen : InLine settled settled ['\x7b'] := inLine_of_eq_true rfl
    have hclose : InLine unsettled unsettled ['\x7d'] := inLine_of_eq_true rfl
    rw [Json.chars, List.flatMap_append, List.flatMap_cons]
    exact (hopen.append (inLine_memberChars members)).append hclose

theorem inLine_itemChars (items : List Json) :
    InLine settled unsettled ((Json.itemChars Json.spaced items).flatMap literalChar) := by
  have hcomma : InLine unsettled settled (Json.spaced.comma.flatMap literalChar) :=
    inLine_of_eq_true rfl
  match items with
  | [] => exact inLine_of_eq_true rfl
  | [v] => exact inLine_chars v
  | v :: w :: rest =>
    rw [Json.itemChars_cons v (by simp), List.flatMap_append, List.flatMap_append]
    exact (inLine_chars v).append (hcomma.append (inLine_itemChars (w :: rest)))

theorem inLine_memberChars (members : List (String × Json)) :
    InLine settled unsettled ((Json.memberChars Json.spaced members).flatMap literalChar) := by
  have hcolon : InLine unsettled settled (Json.spaced.colon.flatMap literalChar) :=
    inLine_of_eq_true rfl
  have hcomma : InLine unsettled settled (Json.spaced.comma.flatMap literalChar) :=
    inLine_of_eq_true rfl
  match members with
  | [] => exact inLine_of_eq_true rfl
  | [(k, v)] =>
    rw [Json.memberChars, List.flatMap_append, List.flatMap_append, List.append_assoc]
    exact (inLine_writeString k.toList).append (hcolon.append (inLine_chars v))
  | (k, v) :: m :: rest =>
    rw [Json.memberChars_cons k v (by simp)]
    simp only [List.flatMap_append]
    exact (inLine_writeString k.toList).append (hcolon.append ((inLine_chars v).append
      (hcomma.append (inLine_memberChars (m :: rest)))))

end

theorem inLine_literal (v : Json) : InLine settled unsettled (literal v).toList := by
  rw [toList_literal]
  exact inLine_chars v

/-! ## Fixed code -/

/-- Where a text stands before code, by whether a value comes right before it. -/
def openings (after : Bool) : List Seen :=
  if after then unsettled else settled

/-- Fixed code that stays in its line and opens no marker that a value could close. -/
structure Neat (after : Bool) (s : String) : Prop where
  calm : Calm s
  inLine : InLine (openings after) (openings (stillAfter after s)) s.toList

theorem neat_ofList {after : Bool} {cs : List Char} (hcalm : Text.calmFrom false cs = true)
    (hline : inLine (openings after) (openings (after && cs.isEmpty)) cs = true) :
    Neat after (String.ofList cs) := by
  refine ⟨Text.calm_ofList hcalm, ?_⟩
  have hempty : stillAfter after (String.ofList cs) = (after && cs.isEmpty) := by
    cases cs with
    | nil => simp [stillAfter]
    | cons c rest => simp [stillAfter, String.ext_iff]
  rw [String.toList_ofList, hempty]
  exact inLine_of_eq_true hline

/-- Code at the beginning of a line, in two parts. -/
theorem Neat.append {s t : String} (hs : Neat false s) (ht : Neat false t) :
    Neat false (s ++ t) := by
  refine ⟨hs.calm.append ht.calm, ?_⟩
  rw [String.toList_append]
  exact hs.inLine.append ht.inLine

theorem neat_function {signature : String} {body : List Code} (hsignature : Neat false signature)
    (hbody : ListAll Neat body) : (function signature body).All Neat := by
  have hfunction : Neat false "function " := neat_ofList rfl rfl
  rw [all_function]
  exact ⟨(hfunction.append hsignature).append (neat_ofList rfl rfl), hbody⟩

theorem ListAll.calm {part : List Code} (h : ListAll Neat part) :
    ListAll (fun _ => Calm) part :=
  h.mono fun hs => hs.calm

/-! ## Written code -/

theorem inLine_writeLine {after : Bool} {l : Line} (h : LineAll Neat after l) :
    InLine (openings after) unsettled (writeLine l).toList := by
  induction l generalizing after with
  | nil =>
    cases after with
    | true => exact inLine_of_eq_true rfl
    | false => exact inLine_of_eq_true rfl
  | cons p rest ih =>
    rw [writeLine, List.map_cons, Text.concat_cons, String.toList_append]
    cases p with
    | code s =>
      rw [lineAll_code] at h
      exact h.1.inLine.append (ih h.2)
    | value v =>
      rw [lineAll_value] at h
      obtain ⟨rfl, hrest⟩ := h
      exact (inLine_literal v).append (ih hrest)

theorem lineRule_inLine : LineRule Neat (fun s => InLine [.other] unsettled s.toList) where
  line := fun h => (inLine_writeLine h).mono (by simp [openings]) fun _ hseen => hseen
  closing := fun h => by
    have hbrace : InLine [.other] [.other] ['\x7d'] := inLine_of_eq_true rfl
    rw [String.toList_append]
    exact hbrace.append h
  opening := fun h => by
    have hbrace : InLine unsettled unsettled ['\x7b'] := inLine_of_eq_true rfl
    rw [String.toList_append]
    exact h.append hbrace
  indented := fun indent h => by
    unfold indented
    split
    · exact inLine_of_eq_true rfl
    · have hblanks : InLine [.other] [.other] (List.replicate indent ' ') := by
        induction indent with
        | zero => exact inLine_of_eq_true rfl
        | succ n ih =>
          have hblank : InLine [.other] [.other] [' '] := inLine_of_eq_true rfl
          exact hblank.append ih
      rw [String.toList_append, String.toList_ofList]
      exact hblanks.append h

/-- Texts joined by line breaks, each of which ends its line. -/
theorem leads_join {texts : List String} (h : ∀ s ∈ texts, Leads [.other] unsettled s.toList) :
    Leads [.other] unsettled (Text.join "\n" texts).toList := by
  have hbreak : Leads unsettled [.other] "\n".toList := leads_of_eq_true rfl
  induction texts with
  | nil => exact leads_of_eq_true rfl
  | cons s rest ih =>
    rw [List.forall_mem_cons] at h
    cases rest with
    | nil => exact h.1
    | cons t rest =>
      rw [Text.join_cons_cons, String.toList_append, String.toList_append]
      exact h.1.append (hbreak.append (ih h.2))

/-- **Neat code forges no marker, whatever its values.** -/
theorem leads_write {part : List Code} (h : ListAll Neat part) :
    Leads [.other] unsettled (write part).toList :=
  leads_join fun s hs => (lineRule_inLine.listLines 0 h s hs).leads

end FormPress.Script
