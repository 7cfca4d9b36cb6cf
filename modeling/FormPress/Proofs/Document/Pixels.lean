import FormPress.Document.Pixels
import FormPress.Proofs.Markup.EndTags
import FormPress.Proofs.Script.Neat

/-!
# Tracking tags in a document

The tags of a form without markup of its author are quiet, whatever its ids; the networks that the
form names decide how many scripts there are.
-/

namespace FormPress.Pixels

open Markup Script
open Text (Calm calm_ofList)

/-! ## Scripts -/

theorem calm_snapScript (id : String) : ListAll (fun _ => Calm) (snapScript id) := by
  simp only [snapScript, listAll_nil, listAll_cons, all_code, all_line, lineAll_nil, lineAll_code,
    lineAll_quoted, stillAfter_false, and_true, true_and]
  repeat' apply And.intro
  all_goals repeat' first | exact calm_ofList rfl | apply Calm.append

theorem calm_metaScript (id : String) : ListAll (fun _ => Calm) (metaScript id) := by
  simp only [metaScript, listAll_nil, listAll_cons, all_code, all_line, lineAll_nil, lineAll_code,
    lineAll_quoted, stillAfter_false, and_true, true_and]
  repeat' apply And.intro
  all_goals repeat' first | exact calm_ofList rfl | apply Calm.append

theorem calm_googleScript (id : String) : ListAll (fun _ => Calm) (googleScript id) := by
  simp only [googleScript, listAll_nil, listAll_cons, all_code, all_line, lineAll_nil,
    lineAll_code, lineAll_quoted, stillAfter_false, and_true, true_and]
  repeat' apply And.intro
  all_goals exact calm_ofList rfl

theorem quiet_scriptOf {part : List Code} (h : ListAll (fun _ => Calm) part) :
    (scriptOf part).Quiet := by
  have htext : Calm ("\n" ++ Script.write part ++ "\n") :=
    (Calm.append (calm_ofList rfl) (Script.calm_write h)).append (calm_ofList rfl)
  rw [scriptOf, quiet_element, List.forall_mem_singleton, quiet_raw]
  exact ⟨isName_ofList rfl, by simp, htext⟩

/-! ## Tags -/

theorem quiet_metaImage (id : String) : (metaImage id).Quiet := by
  simp only [metaImage, attr, quiet_element, quiet_void, List.forall_mem_cons, List.not_mem_nil,
    false_implies, implies_true, and_true, true_and]
  repeat' apply And.intro
  all_goals exact isName_ofList rfl

theorem quiet_googleLoader (id : String) : (googleLoader id).Quiet := by
  simp only [googleLoader, attr, bare, quiet_element, List.forall_mem_cons, List.not_mem_nil,
    false_implies, implies_true, and_true]
  repeat' apply And.intro
  all_goals exact isName_ofList rfl

variable {p : Pixels}

theorem quiet_tags (hcustom : given? p.customScripts = none) : ∀ m ∈ p.tags, m.Quiet := by
  simp only [tags, hcustom, Option.toList_none, List.map_nil, List.append_nil,
    List.forall_mem_append, List.forall_mem_map, List.forall_mem_flatMap, List.forall_mem_cons,
    List.not_mem_nil, false_implies, implies_true, and_true]
  refine ⟨⟨?_, ?_⟩, ?_⟩
  · exact fun id _ => quiet_scriptOf (calm_snapScript id)
  · exact fun id _ => ⟨quiet_scriptOf (calm_metaScript id), quiet_metaImage id⟩
  · exact fun id _ => ⟨quiet_googleLoader id, quiet_scriptOf (calm_googleScript id)⟩

theorem quiet_markup (hcustom : given? p.customScripts = none) : ∀ m ∈ p.markup, m.Quiet := by
  intro m hm
  rw [markup, List.mem_flatMap] at hm
  obtain ⟨tag, htag, hm⟩ := hm
  rw [List.mem_cons, List.mem_singleton] at hm
  rcases hm with rfl | rfl
  · exact quiet_tags hcustom _ htag
  · exact quiet_newline 0

/-- The number of scripts in the tags. -/
def scriptCount (p : Pixels) : Nat :=
  (given? p.snapPixelId).isSome.toNat + (given? p.metaPixelId).isSome.toNat +
    2 * (given? p.googleAdsId).isSome.toNat

theorem countP_endNames_markup (q : String → Bool) (hq : q "noscript" = false) :
    (p.markup.flatMap endNames).countP q = p.scriptCount * (q "script").toNat := by
  have hnewlines : p.markup.flatMap endNames = p.tags.flatMap endNames := by
    rw [markup, List.flatMap_assoc]
    simp
  have hscript : ∀ part, endNames (scriptOf part) = ["script"] := by simp [scriptOf]
  have hone : ["script"].countP q = (q "script").toNat := by
    cases hs : q "script"
    all_goals simp [hs]
  have hsnap : (((given? p.snapPixelId).toList.map fun id =>
      scriptOf (snapScript id)).flatMap endNames).countP q =
        (given? p.snapPixelId).isSome.toNat * (q "script").toNat := by
    cases given? p.snapPixelId with
    | none => simp
    | some id => simpa [hscript] using hone
  have hmeta : (((given? p.metaPixelId).toList.flatMap fun id =>
      [scriptOf (metaScript id), metaImage id]).flatMap endNames).countP q =
        (given? p.metaPixelId).isSome.toNat * (q "script").toNat := by
    cases given? p.metaPixelId with
    | none => simp
    | some id =>
      have himage : endNames (metaImage id) = ["noscript"] := by simp [metaImage]
      simpa [hscript, himage, hq, List.countP_cons] using hone
  have hgoogle : (((given? p.googleAdsId).toList.flatMap fun id =>
      [googleLoader id, scriptOf (googleScript id)]).flatMap endNames).countP q =
        2 * (given? p.googleAdsId).isSome.toNat * (q "script").toNat := by
    cases given? p.googleAdsId with
    | none => simp
    | some id =>
      have hloader : endNames (googleLoader id) = ["script"] := by simp [googleLoader]
      have htwo : (["script", "script"]).countP q = 2 * (q "script").toNat := by
        rw [List.countP_cons, ← List.countP_singleton, hone]
        omega
      simpa [hscript, hloader] using htwo
  have hcustom : (((given? p.customScripts).toList.map Markup.raw).flatMap endNames).countP q =
      0 := by
    cases given? p.customScripts with
    | none => simp
    | some s => simp
  rw [hnewlines, tags, List.flatMap_append, List.flatMap_append, List.flatMap_append,
    List.countP_append, List.countP_append, List.countP_append, hsnap, hmeta, hgoogle, hcustom,
    scriptCount, Nat.add_mul, Nat.add_mul, Nat.add_zero]

end FormPress.Pixels
