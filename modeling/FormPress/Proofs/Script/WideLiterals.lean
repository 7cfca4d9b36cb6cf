import FormPress.Proofs.Json.Wide
import FormPress.Proofs.Script.Literals

/-!
# Literals with any code points

A literal holds no character that could close what is around it and no control character, and a
reader of JSON reads the value back from it, whatever code points the texts of the value hold. The
literal of a value whose texts are texts of characters is the one that the script holds.
-/

namespace FormPress.Script

open CodePoint

/-! ## Characters -/

theorem flatMap_literalPoint (s : List Char) :
    (ofChars s).flatMap literalPoint = ofChars (s.flatMap literalChar) := by
  rw [ofChars, List.flatMap_map, ofChars, List.map_flatMap]
  rfl

/-- Codes make no difference to a reader of code points. -/
theorem transparent_literalPoint : WideJson.Transparent literalPoint where
  outside := fun _ hc =>
    congrArg ofChars (literalChar_of_not_needsCode (not_needsCode (by decide) hc))
  inside := fun p => by
    cases p with
    | half index => exact WideJson.readsAs_half index
    | char c =>
      have hescape := WideJson.readsAs_escape (.char c)
      rw [WideJson.escape] at hescape ⊢
      rw [flatMap_literalPoint, flatMap_escapeChar]
      split
      · rename_i hc
        exact WideJson.readsAs_code (toNat_lt_of_needsCode hc)
      · exact hescape

theorem isPrinted_of_mem_literalChar {c d : Char} (hc : Json.isPrinted c = true)
    (hd : d ∈ literalChar c) : Json.isPrinted d = true := by
  rw [literalChar] at hd
  split at hd
  · rw [List.mem_cons, List.mem_cons] at hd
    rcases hd with rfl | rfl | hd
    · decide
    · decide
    · exact Json.isPrinted_of_isNumberChar (isNumberChar_of_mem_hex d hd)
  · rw [List.mem_singleton] at hd
    subst hd
    exact hc

/-! ## Literals -/

/-- A literal holds no character that is written by its code, and no control character. -/
theorem harmless_wideLiteral (v : WideJson) :
    ∀ p ∈ wideLiteral v, 0x20 ≤ p.toNat ∧ p ∉ ofChars coded := by
  intro p hp
  obtain ⟨q, hq, hmem⟩ := List.mem_flatMap.1 hp
  have hprinted : 0x20 ≤ q.toNat := by
    have hall := WideJson.isPrinted_points Json.plain_spaced v
    exact of_decide_eq_true (List.all_eq_true.1 hall q hq)
  cases q with
  | half index =>
    obtain rfl := List.mem_singleton.1 hmem
    exact ⟨hprinted, by simp [ofChars]⟩
  | char c =>
    obtain ⟨d, hd, rfl⟩ := List.mem_map.1 hmem
    have hkeeps := isPrinted_of_mem_literalChar (decide_eq_true hprinted) hd
    refine ⟨of_decide_eq_true hkeeps, fun hcoded => ?_⟩
    obtain ⟨e, he, heq⟩ := List.mem_map.1 hcoded
    obtain rfl := CodePoint.char.inj heq
    have hcode := not_needsCode_of_mem_literalChar hd
    rw [needsCode_of_mem_coded he] at hcode
    contradiction

/-- The literal of an exact value is the one that scripts hold, by its code points. -/
theorem exists_wideLiteral {v : Json} (hv : v.Exact) :
    ∃ w, WideJson.ofJson? v = some w ∧ wideLiteral w = ofChars (literal v).toList := by
  obtain ⟨w, hw, hpoints⟩ := WideJson.exists_ofJson? Json.spaced hv
  exact ⟨w, hw, by rw [wideLiteral, hpoints, flatMap_literalPoint, toList_literal]⟩

/-- **A literal is harmless and faithful.** It holds no character that could end the script or an
attribute, no line separator and no control character, and it is read back as its value, whatever
code points the texts hold and however deep the value is nested. A value with texts of characters
has the literal that scripts hold, and the reader of characters reads that back too. -/
theorem literals_harmless_and_faithful :
    (∀ v : WideJson, (∀ p ∈ wideLiteral v, 0x20 ≤ p.toNat ∧ p ∉ ofChars coded) ∧
      WideJson.read (wideLiteral v) = some v) ∧
    ∀ v : Json, v.Exact →
      (∃ w, WideJson.ofJson? v = some w ∧ wideLiteral w = ofChars (literal v).toList) ∧
      Json.read (.ofLength (literal v).length) (literal v) = .ok v := by
  refine ⟨fun v => ⟨harmless_wideLiteral v, ?_⟩, fun v hv => ⟨exists_wideLiteral hv, ?_⟩⟩
  · exact WideJson.read_points transparent_literalPoint Json.plain_spaced v
  · exact read_literal hv

/-- A literal of a script, and one with halves of pairs in a key and in a text. -/
theorem literals_harmless_and_faithful_nested :
    (Json.object [("&", .array [.string "<'\n", .int (-7)])]).Exact ∧
    Json.read (.ofLength (literal (.object [("&", .array [.string "<'\n", .int (-7)])])).length)
        (literal (.object [("&", .array [.string "<'\n", .int (-7)])])) =
      .ok (.object [("&", .array [.string "<'\n", .int (-7)])]) ∧
    WideJson.read
        (wideLiteral (.object [([.half 0], .array [.text [.half 0x3D, .char '<'], .null])])) =
      some (.object [([.half 0], .array [.text [.half 0x3D, .char '<'], .null])]) := by
  have hexact : (Json.object [("&", .array [.string "<'\n", .int (-7)])]).Exact := by
    simp [Json.Exact, Json.ExactItems, Json.ExactMembers]
  exact ⟨hexact, (literals_harmless_and_faithful.2 _ hexact).2,
    (literals_harmless_and_faithful.1 _).2⟩

example : wideLiteral (.array [.text [.half 0x3D, .char '<', .char '\n'], .null]) =
    .char '[' :: .char '"' :: .half 0x3D :: ofChars "\\u003c\\n\", null]".toList := by
  rfl

end FormPress.Script
