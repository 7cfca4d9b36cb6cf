import FormPress.Proofs.Number.Numeral
import FormPress.Proofs.Style.Rules
import FormPress.Proofs.Table
import FormPress.Style.Entrance
import Mathlib.Data.List.Forall2
import Mathlib.Data.List.Nodup

/-!
# The stylesheet of the entrances

Read back, the stylesheet of the entrances defines the stages of every motion that its rules play,
each once, and no others. It has the rule that makes fields invisible exactly when the fields are
animated.
-/

namespace FormPress

open Style (Block IsPlain Unbraced definedNames playedNames readBlocks ruleBlock stagesBlock)

/-! ## Motions -/

namespace Motion

theorem plain_name (m : Motion) :
    Unbraced m.name.toList ∧ (';' ∉ m.name.toList ∧ ' ' ∉ m.name.toList) ∧
      Text.strip ("@keyframes " ++ m.name) = "@keyframes " ++ m.name := by
  cases m <;> decide

theorem unbraced_frames (m : Motion) : ∀ f ∈ m.frames, Unbraced f.1.toList ∧
    ∀ d ∈ f.2, Unbraced d.1.toList ∧ Unbraced d.2.toList := by
  cases m <;> decide

/-- No two motions have one name. -/
theorem name_injective : Function.Injective name := by
  have hnodup : ([fadeIn, slideDown, slideUp, zoomIn, spinIn, bounceIn, floatIn, glowPulse,
      revealClip, splitReveal, glitchIn, perspectiveFlip, expandIn, blurIn, cascadeIn, flipIn,
      springIn].map name).Nodup := by decide
  intro m n h
  exact List.inj_on_of_nodup_map hnodup (by cases m <;> decide) (by cases n <;> decide) h

end Motion

/-- A text that ends neither a declaration nor a rule. -/
def IsInner (s : List Char) : Prop :=
  Unbraced s ∧ ';' ∉ s

theorem isInner_append {s t : List Char} : IsInner (s ++ t) ↔ IsInner s ∧ IsInner t := by
  simp only [IsInner, Style.unbraced_append, List.mem_append, not_or]
  exact and_and_and_comm

theorem isInner_decimalInt (n : Int) : IsInner (Text.decimalInt n).toList := by
  have hnumeral := isNumeral_decimalInt n
  exact ⟨⟨hnumeral.notMem (by decide), hnumeral.notMem (by decide)⟩, hnumeral.notMem (by decide)⟩

theorem Easing.isInner_value (e : Easing) : IsInner e.value.toList := by
  unfold IsInner
  cases e <;> decide

namespace Entrances

variable (e : Entrances)

/-- The name of a motion stands in front of the first blank of the value that plays it. -/
theorem toList_play (m : Motion) : (e.play m).2.toList = m.name.toList ++
    ' ' :: ((Text.decimalInt e.duration).toList ++ "ms ".toList ++ e.easing.value.toList ++
      " both".toList) := by
  simp [play]

theorem plain_play (m : Motion) : IsPlain (e.play m) where
  property := by
    have hname : (e.play m).1 = "animation" := rfl
    rw [hname]
    decide
  value := by
    have hname : IsInner m.name.toList := ⟨m.plain_name.1, m.plain_name.2.1.1⟩
    rw [toList_play, ← IsInner, isInner_append, ← List.singleton_append, isInner_append,
      isInner_append, isInner_append, isInner_append]
    refine ⟨hname, ?_, ⟨⟨isInner_decimalInt _, ?_⟩, e.easing.isInner_value⟩, ?_⟩
    all_goals exact ⟨by decide, by decide⟩
  trimmed := by
    have hends : (e.play m).2.toList = '_' :: (m.effect.toList ++ ' ' ::
        ((Text.decimalInt e.duration).toList ++ "ms ".toList ++ e.easing.value.toList ++
          " bot".toList) ++ ['h']) := by
      simp [toList_play, Motion.name, keyframeName]
    have hname : Text.strip "animation" = "animation" := by decide
    refine ⟨hname, String.toList_inj.1 ?_⟩
    rw [Text.toList_strip, hends]
    exact Text.stripBy_of_ends (by decide) (by decide) _

theorem takeWhile_play (m : Motion) :
    String.ofList ((e.play m).2.toList.takeWhile (· != ' ')) = m.name := by
  have hname : ∀ c ∈ m.name.toList, (c != ' ') = true :=
    fun c hc => bne_iff_ne.2 (ne_of_mem_of_not_mem hc m.plain_name.2.1.2)
  rw [toList_play, List.takeWhile_append_of_pos hname, List.takeWhile_cons_of_neg (by decide),
    List.append_nil, String.ofList_toList]

/-! ## Blocks -/

/-- The blocks of the rules of the fields. -/
def fieldBlocks (m : Motion) : List Block :=
  [ruleBlock fieldSelector [("opacity", "0")],
   ruleBlock (fieldSelector ++ ".animated") [e.play m, ("opacity", "1")]]

/-- The blocks of the stylesheet: the motions, what plays them, and the rules of the fields. -/
def blocks : List Block :=
  e.motions.map (fun m => stagesBlock m.name m.frames) ++
    e.targets.map (fun t => ruleBlock t.1 [e.play t.2]) ++
    e.fields.motion?.toList.flatMap e.fieldBlocks

/-- A part other than a field has one of four selectors. -/
theorem mem_targets {e : Entrances} {t : String × Motion} (h : t ∈ e.targets) :
    t.1 ∈ [".logo-container img", ".form-header h1, .form-sub-header, .form-header p",
      ".form-event-meta", ".form-footer"] := by
  obtain ⟨s, hs, hmotion⟩ := List.mem_filterMap.1 h
  obtain ⟨m, -, rfl⟩ := Option.map_eq_some_iff.1 hmotion
  simp only [List.mem_cons, List.not_mem_nil, or_false] at hs
  rcases hs with rfl | rfl | rfl | rfl
  all_goals simp

/-- The selectors of the stylesheet are trimmed and have no braces, and none begins with an at
sign. -/
theorem plain_target {e : Entrances} {t : String × Motion} (h : t ∈ e.targets) :
    Unbraced t.1.toList ∧ Text.strip t.1 = t.1 ∧ t.1.toList.head? ≠ some '@' ∧
      t.1 ≠ fieldSelector := by
  have hall : ([".logo-container img", ".form-header h1, .form-sub-header, .form-header p",
      ".form-event-meta", ".form-footer"].all fun s => Unbraced s.toList ∧ Text.strip s = s ∧
        s.toList.head? ≠ some '@' ∧ s ≠ fieldSelector) = true := by decide
  exact of_decide_eq_true (List.all_eq_true.1 hall _ (mem_targets h))

theorem plain_opacityRule : ∀ d ∈ [(("opacity", "0") : Style.Declaration)], IsPlain d := by
  decide

theorem plain_fieldRule (m : Motion) : ∀ d ∈ [e.play m, ("opacity", "1")], IsPlain d := by
  have hopacity : ∀ d ∈ [(("opacity", "1") : Style.Declaration)], IsPlain d := by decide
  exact List.forall_mem_cons.2 ⟨e.plain_play m, hopacity⟩

theorem blocks_rules : List.Forall₂ Block.IsOf e.blocks e.rules := by
  refine List.rel_append (List.rel_append ?_ ?_) ?_
  · rw [List.forall₂_map_left_iff, List.forall₂_map_right_iff, List.forall₂_same]
    exact fun m _ => Style.isOf_keyframes m.plain_name.1 m.plain_name.2.2 m.unbraced_frames
  · rw [List.forall₂_map_left_iff, List.forall₂_map_right_iff, List.forall₂_same]
    intro t ht
    obtain ⟨hselector, htrimmed, -⟩ := plain_target ht
    exact Style.isOf_short hselector htrimmed (List.forall_mem_singleton.2 (e.plain_play t.2))
  · cases e.fields.motion? with
    | none => exact .nil
    | some m =>
      refine .cons ?_ (.cons ?_ .nil)
      · exact Style.isOf_short (by decide) (by decide) plain_opacityRule
      · exact Style.isOf_short (by decide) (by decide) (e.plain_fieldRule m)

/-- The stylesheet is read back; it has no blocks when nothing moves. -/
theorem readBlocks_writeStyle :
    readBlocks e.writeStyle = if e.isActive then e.blocks else [] := by
  unfold writeStyle
  split
  · exact Style.readBlocks_write e.blocks_rules
  · rfl

/-! ## Motions of the stylesheet -/

variable {e : Entrances}

theorem playedNames_target {t : String × Motion} (ht : t ∈ e.targets) :
    (ruleBlock t.1 [e.play t.2]).playedNames = [t.2.name] := by
  rw [Style.playedNames_ruleBlock (plain_target ht).2.2.1
    (List.forall_mem_singleton.2 (e.plain_play t.2)), ← e.takeWhile_play t.2]
  rfl

theorem playedNames_fieldBlocks (m : Motion) :
    (e.fieldBlocks m).flatMap Block.playedNames = [m.name] := by
  rw [fieldBlocks, List.flatMap_cons, List.flatMap_cons, List.flatMap_nil,
    Style.playedNames_ruleBlock (by decide) plain_opacityRule,
    Style.playedNames_ruleBlock (by decide) (e.plain_fieldRule m), ← e.takeWhile_play m]
  rfl

/-- The motions that are played: those of the parts, then that of the fields. -/
theorem playedNames_blocks : e.blocks.flatMap Block.playedNames =
    (e.targets.map (·.2) ++ e.fields.motion?.toList).map Motion.name := by
  have hmotions : (e.motions.map fun m => stagesBlock m.name m.frames).flatMap
      Block.playedNames = [] := by
    rw [List.flatMap_map, List.flatMap_eq_nil_iff]
    exact fun m _ => Style.playedNames_stagesBlock m.name m.frames
  have htargets : (e.targets.map fun t => ruleBlock t.1 [e.play t.2]).flatMap
      Block.playedNames = (e.targets.map (·.2)).map Motion.name := by
    rw [List.flatMap_map, List.flatMap_congr fun t ht => playedNames_target ht,
      ← List.map_eq_flatMap, List.map_map]
    rfl
  have hfields : (e.fields.motion?.toList.flatMap e.fieldBlocks).flatMap Block.playedNames =
      e.fields.motion?.toList.map Motion.name := by
    rw [List.flatMap_assoc, List.flatMap_congr fun m _ => playedNames_fieldBlocks m,
      ← List.map_eq_flatMap]
  rw [blocks, List.flatMap_append, List.flatMap_append, hmotions, htargets, hfields,
    List.nil_append, List.map_append]

theorem definedNames_blocks :
    e.blocks.filterMap Block.definedName? = e.motions.map Motion.name := by
  have hmotions : (e.motions.map fun m => stagesBlock m.name m.frames).filterMap
      Block.definedName? = e.motions.map Motion.name := by
    rw [List.filterMap_map, ← List.filterMap_eq_map]
    exact congrArg (e.motions.filterMap ·)
      (funext fun m => Style.definedName?_stagesBlock m.name m.frames)
  have htargets : (e.targets.map fun t => ruleBlock t.1 [e.play t.2]).filterMap
      Block.definedName? = [] := by
    rw [List.filterMap_map, List.filterMap_eq_nil_iff]
    exact fun t ht => Style.definedName?_ruleBlock (plain_target ht).2.2.1 _
  have hfields : (e.fields.motion?.toList.flatMap e.fieldBlocks).filterMap
      Block.definedName? = [] := by
    rw [List.filterMap_eq_nil_iff]
    intro b hb
    obtain ⟨m, -, hm⟩ := List.mem_flatMap.1 hb
    simp only [fieldBlocks, List.mem_cons, List.not_mem_nil, or_false] at hm
    rcases hm with rfl | rfl
    all_goals exact Style.definedName?_ruleBlock (by decide) _
  rw [blocks, List.filterMap_append, List.filterMap_append, hmotions, htargets, hfields,
    List.append_nil, List.append_nil]

/-- A motion is played exactly if it is defined. -/
theorem mem_definedNames_iff {name : String} :
    name ∈ definedNames e.writeStyle ↔ name ∈ playedNames e.writeStyle := by
  rw [definedNames, playedNames, readBlocks_writeStyle]
  split
  · rw [definedNames_blocks, playedNames_blocks, List.mem_map, List.mem_map]
    exact exists_congr fun m => and_congr_left' Table.mem_distinct
  · exact Iff.rfl

/-- No motion is defined twice. -/
theorem nodup_definedNames (e : Entrances) : (definedNames e.writeStyle).Nodup := by
  rw [definedNames, readBlocks_writeStyle]
  split
  · rw [definedNames_blocks]
    exact (Table.nodup_distinct _).map Motion.name_injective
  · exact List.nodup_nil

/-! ## The rule that hides fields -/

theorem isActive_of_animatesFields (h : e.animatesFields = true) :
    e.isActive = true ∧ ∃ m, e.fields.motion? = some m := by
  unfold animatesFields fieldMotion? at h
  split at h
  · rename_i henabled
    obtain ⟨m, hm⟩ := Option.isSome_iff_exists.1 h
    refine ⟨?_, m, hm⟩
    rw [isActive, henabled, hm, Option.isSome_some, Bool.or_true, Bool.and_true]
  · exact nomatch h

/-- Behind the stages and the parts, a block begins like the fields only if they move. -/
theorem head_of_mem_blocks {b : Block} (hb : b ∈ e.blocks)
    (hhead : b.head = fieldSelector.toList) : ∃ m, e.fields.motion? = some m := by
  rcases List.mem_append.1 hb with hb | hb
  · exfalso
    rcases List.mem_append.1 hb with hb | hb
    · obtain ⟨m, -, rfl⟩ := List.mem_map.1 hb
      have hmark : (stagesBlock m.name m.frames).head.head? = some '@' := by
        simp [stagesBlock]
      rw [hhead] at hmark
      revert hmark
      decide
    · obtain ⟨t, ht, rfl⟩ := List.mem_map.1 hb
      exact (plain_target ht).2.2.2 (String.toList_inj.1 hhead)
  · obtain ⟨m, hm, -⟩ := List.mem_flatMap.1 hb
    exact ⟨m, Option.mem_toList.1 hm⟩

/-- **The stylesheet makes fields invisible exactly when they are animated.** -/
theorem hasRule_writeStyle_iff (e : Entrances) :
    Style.HasRule e.writeStyle ".ff-reveal" [("opacity", "0")] ↔ e.animatesFields = true := by
  rw [Style.HasRule, readBlocks_writeStyle]
  constructor
  · rintro ⟨b, hb, hhead, -⟩
    split at hb
    · rename_i hactive
      obtain ⟨m, hm⟩ := head_of_mem_blocks hb hhead
      have henabled : e.enabled = true := (Bool.and_eq_true_iff.1 hactive).1
      rw [animatesFields, fieldMotion?, henabled, if_pos rfl, hm]
      rfl
    · exact nomatch hb
  · intro h
    obtain ⟨hactive, m, hm⟩ := isActive_of_animatesFields h
    refine ⟨ruleBlock fieldSelector [("opacity", "0")], ?_, rfl,
      Style.readDeclarations_ruleBlock _ plain_opacityRule⟩
    rw [if_pos hactive, blocks, hm]
    exact List.mem_append_right _ (by simp [fieldBlocks])

end Entrances

end FormPress
