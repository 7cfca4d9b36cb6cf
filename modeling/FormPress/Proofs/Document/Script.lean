import FormPress.Document.Compile
import FormPress.Proofs.Script.Images

/-!
# The script of a document

The script is made of parts that are neat one by one. So it is calm, holds no marker of a page, and
declares the images of the pages in one line.
-/

namespace FormPress

open Markup (Leads unsettled)
open Script (Code ListAll Neat declaresImages imagesLine)
open Text (Calm calm_ofList linesWhere)

theorem Text.calm_joinGiven {separator : String} {texts : List String}
    (hseparator : Calm separator) (h : ∀ s ∈ texts, Calm s) :
    Calm (joinGiven separator texts) :=
  calm_join hseparator fun s hs => h s (List.mem_filter.1 hs).1

namespace Form

/-- The parts of a document's script. -/
def scriptParts (form : Form) (settings : Settings) (pages : List Page) : List (List Code) :=
  [Script.access (internalNames form.fields), Script.conditions,
   Script.paging (form.shownHeroImages pages), Script.widgets,
   Script.submission (form.submissionPlan settings).result,
   if form.animations.animatesFields then Script.reveal form.animations else []]

variable (form : Form) (settings : Settings) (pages : List Page)

theorem script_eq :
    (form.script settings pages).result =
      Text.joinGiven "\n" ((form.scriptParts settings pages).map Script.write) := by
  have hreveal : form.revealScript =
      Script.write (if form.animations.animatesFields then Script.reveal form.animations
        else []) := by
    unfold revealScript
    split
    all_goals rfl
  rw [script, Logged.result_bind, Logged.result_bind, Logged.result_pure, hreveal]
  rfl

theorem neat_of_mem_scriptParts : ∀ part ∈ form.scriptParts settings pages, ListAll Neat part := by
  have hreveal : ListAll Neat
      (if form.animations.animatesFields then Script.reveal form.animations else []) := by
    split
    · exact Script.neat_reveal _
    · trivial
  simp only [scriptParts, List.forall_mem_cons, List.not_mem_nil, false_implies, implies_true,
    and_true]
  exact ⟨Script.neat_access _, Script.neat_conditions, Script.neat_paging _, Script.neat_widgets,
    Script.neat_submission _, hreveal⟩

theorem calm_script : Calm (form.script settings pages).result := by
  rw [script_eq]
  refine Text.calm_joinGiven (calm_ofList rfl) (List.forall_mem_map.2 fun part hpart => ?_)
  exact Script.calm_write (form.neat_of_mem_scriptParts settings pages part hpart).calm

theorem leads_script : Leads [.other] unsettled (form.script settings pages).result.toList := by
  rw [script_eq]
  refine Script.leads_join fun s hs => ?_
  obtain ⟨part, hpart, rfl⟩ := List.mem_map.1 (List.mem_filter.1 hs).1
  exact Script.leads_write (form.neat_of_mem_scriptParts settings pages part hpart)

/-- **The script declares the images of its pages, once.** -/
theorem linesWhere_script :
    linesWhere declaresImages (form.script settings pages).result.toList =
      [imagesLine (form.shownHeroImages pages)] := by
  have hreveal : linesWhere declaresImages (Script.write
      (if form.animations.animatesFields then Script.reveal form.animations else [])).toList =
        [] := by
    split
    · exact Script.linesWhere_of_apart (Script.neat_reveal _) (Script.apart_reveal _)
    · rfl
  have hconditions := Script.linesWhere_of_apart Script.neat_conditions Script.apart_conditions
  have hwidgets := Script.linesWhere_of_apart Script.neat_widgets Script.apart_widgets
  rw [script_eq, Text.linesWhere_joinGiven rfl, List.flatMap_map, scriptParts]
  simp only [List.flatMap_cons, List.flatMap_nil, Script.linesWhere_paging, hconditions, hwidgets,
    hreveal, Script.linesWhere_of_apart (Script.neat_access _) (Script.apart_access _),
    Script.linesWhere_of_apart (Script.neat_submission _) (Script.apart_submission _),
    List.nil_append, List.append_nil]

end Form

end FormPress
