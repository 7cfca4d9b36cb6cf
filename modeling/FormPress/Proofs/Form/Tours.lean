import FormPress.Proofs.Form.Checked
import Mathlib.Data.List.Rotate

/-!
# Tours of a graph

The walk in full: which ids it enters, in what sequence, and what it reports on its way. A tour is
given by one rule for each thing that can happen to an id that a step leads to, without a bound on
the number of steps. Every graph of fields has exactly one tour from its beginning, and what that
tour reports are the cycles of the graph.

A reported cycle stands in the sequence in which the walk entered its ids, and no edge closes two of
them. So no two are the same cycle, wherever they begin; and every circuit of the graph goes over an
edge that closes one of them.
-/

namespace FormPress

namespace Graph

open Relation

/-- A tour from the end of a path: the steps to `ids` are taken one after another. It enters the ids
`entered`, in this sequence, and leads from the state `w` to the state `later`. -/
inductive Tour (g : Graph) : List String → List String → Walk → List String → Walk → Prop
  | finish {path : List String} {w : Walk} : Tour g path [] w [] w
  /-- The id is on the path, so its cycle is reported. -/
  | close {path : List String} {id : String} {rest entered : List String} {w later : Walk}
      (hpath : id ∈ path)
      (hrest : Tour g path rest { w with found := cycleFrom id path :: w.found } entered later) :
      Tour g path (id :: rest) w entered later
  /-- The id was left for good before. -/
  | skip {path : List String} {id : String} {rest entered : List String} {w later : Walk}
      (hpath : id ∉ path) (hdone : id ∈ w.done) (hrest : Tour g path rest w entered later) :
      Tour g path (id :: rest) w entered later
  /-- The id is entered, and left for good after the steps to what it points to. -/
  | enter {path : List String} {id : String} {rest inner entered : List String}
      {w after later : Walk} (hpath : id ∉ path) (hdone : id ∉ w.done)
      (hinner : Tour g (id :: path) (g.targets id) w inner after)
      (hrest : Tour g path rest { after with done := id :: after.done } entered later) :
      Tour g path (id :: rest) w (id :: (inner ++ entered)) later

/-- The walk through the whole graph enters its ids in a sequence, and reports the cycles of the
graph. -/
def EntersIn (g : Graph) (entered : List String) : Prop :=
  ∃ later, Tour g [] g.ids {} entered later ∧ g.cycles = later.found.reverse

variable {g : Graph} {path ids entered : List String} {id : String} {fuel : Nat} {w later : Walk}

/-! ## The walk is a tour -/

/-- One step after another, when each visit is a tour of what its id points to. -/
theorem exists_tour_visitAll (hpath : g.IsPath path)
    (hvisit : ∀ {id : String} {w : Walk}, g.IsPath (id :: path) →
      ∃ inner after, Tour g (id :: path) (g.targets id) w inner after ∧
        visit g fuel path id w = { after with done := id :: after.done })
    (hids : ∀ id ∈ ids, id ∈ g.ids ∧ g.Leads path id) :
    ∃ entered, Tour g path ids w entered (visitAll g fuel path ids w) := by
  induction ids generalizing w with
  | nil =>
    rw [visitAll_nil]
    exact ⟨[], .finish⟩
  | cons id rest ih =>
    rw [List.forall_mem_cons] at hids
    obtain ⟨⟨hid, hleads⟩, hrest⟩ := hids
    rw [visitAll_cons]
    split
    · rename_i hmem
      obtain ⟨entered, htour⟩ := ih hrest
      exact ⟨entered, .close hmem htour⟩
    · rename_i hnew
      split
      · rename_i hdone
        obtain ⟨entered, htour⟩ := ih hrest
        exact ⟨entered, .skip hnew hdone htour⟩
      · rename_i hopen
        obtain ⟨inner, after, hinner, hafter⟩ := hvisit (w := w) (hpath.cons hid hnew hleads)
        rw [hafter]
        obtain ⟨entered, htour⟩ := ih hrest
        exact ⟨id :: (inner ++ entered), .enter hnew hopen hinner htour⟩

/-- A visit is a tour of what its id points to. The fuel goes down by one with each id on the path,
as in `deals_visit`. -/
theorem exists_tour_visit (hclosed : g.Closed) (hfuel : g.length < fuel + path.length)
    (hpath : g.IsPath (id :: path)) :
    ∃ inner after, Tour g (id :: path) (g.targets id) w inner after ∧
      visit g fuel path id w = { after with done := id :: after.done } := by
  induction fuel generalizing path id w with
  | zero =>
    have hlength := hpath.length_le
    rw [List.length_cons] at hlength
    omega
  | succ fuel ih =>
    have htargets : ∀ target ∈ g.targets id, target ∈ g.ids ∧ g.Leads (id :: path) target := by
      intro target htarget
      refine ⟨hclosed id target htarget, ?_⟩
      rintro last ⟨⟩
      exact htarget
    have hmore : g.length < fuel + (id :: path).length := by
      rw [List.length_cons]
      omega
    obtain ⟨inner, htour⟩ :=
      exists_tour_visitAll (w := w) hpath (fun hnext => ih hmore hnext) htargets
    exact ⟨inner, _, htour, by rw [visit]⟩

theorem exists_entersIn (hclosed : g.Closed) : ∃ entered, g.EntersIn entered := by
  have hleads : ∀ id ∈ g.ids, id ∈ g.ids ∧ g.Leads [] id := by
    refine fun id hid => ⟨hid, ?_⟩
    intro last hlast
    simp at hlast
  have hfuel : g.length < g.length + 1 + ([] : List String).length := by simp
  obtain ⟨entered, htour⟩ := exists_tour_visitAll (w := {}) isPath_nil
    (fun hpath => exists_tour_visit hclosed hfuel hpath) hleads
  exact ⟨entered, _, htour, rfl⟩

/-- The rules leave no choice. -/
theorem Tour.unique {entered' : List String} {later' : Walk} (h : Tour g path ids w entered later)
    (h' : Tour g path ids w entered' later') : entered = entered' ∧ later = later' := by
  induction h generalizing entered' later' with
  | finish =>
    cases h'
    exact ⟨rfl, rfl⟩
  | close hpath _ ih =>
    cases h' with
    | close _ hrest => exact ih hrest
    | skip hnew => exact absurd hpath hnew
    | enter hnew => exact absurd hpath hnew
  | skip hnew hdone _ ih =>
    cases h' with
    | close hpath => exact absurd hpath hnew
    | skip _ _ hrest => exact ih hrest
    | enter _ hopen => exact absurd hdone hopen
  | enter hnew hopen _ _ ihinner ihrest =>
    cases h' with
    | close hpath => exact absurd hpath hnew
    | skip _ hdone => exact absurd hdone hopen
    | enter _ _ hinner hrest =>
      obtain ⟨rfl, rfl⟩ := ihinner hinner
      obtain ⟨rfl, rfl⟩ := ihrest hrest
      exact ⟨rfl, rfl⟩

/-! ## What a tour enters -/

theorem Tour.mem_done_iff (h : Tour g path ids w entered later) {a : String} :
    a ∈ later.done ↔ a ∈ entered ∨ a ∈ w.done := by
  induction h with
  | finish => simp
  | close _ _ ih => exact ih
  | skip _ _ _ ih => exact ih
  | enter _ _ _ _ ihinner ihrest =>
    rw [ihrest, List.mem_cons, List.mem_cons, List.mem_append, ihinner]
    tauto

/-- What is entered was neither on the path nor left before. -/
theorem Tour.new_of_mem (h : Tour g path ids w entered later) :
    ∀ a ∈ entered, a ∉ path ∧ a ∉ w.done := by
  induction h with
  | finish => simp
  | close _ _ ih => exact ih
  | skip _ _ _ ih => exact ih
  | enter hnew hopen hinner _ ihinner ihrest =>
    rw [List.forall_mem_cons, List.forall_mem_append]
    refine ⟨⟨hnew, hopen⟩, fun a ha => ?_, fun a ha => ?_⟩
    · obtain ⟨hpath, hdone⟩ := ihinner a ha
      exact ⟨fun hmem => hpath (List.mem_cons_of_mem _ hmem), hdone⟩
    · obtain ⟨hpath, hdone⟩ := ihrest a ha
      exact ⟨hpath, fun hmem =>
        hdone (List.mem_cons_of_mem _ (hinner.mem_done_iff.2 (.inr hmem)))⟩

/-- After an id and what is entered from it, neither is entered again. -/
theorem Tour.notMem_of_enter {inner : List String} {after : Walk}
    (hinner : Tour g (id :: path) (g.targets id) w inner after)
    (hrest : Tour g path ids { after with done := id :: after.done } entered later) :
    ∀ a ∈ id :: inner, a ∉ entered := by
  intro a ha hmem
  refine (hrest.new_of_mem a hmem).2 ?_
  rcases List.mem_cons.1 ha with rfl | ha
  · exact List.mem_cons_self
  · exact List.mem_cons_of_mem _ (hinner.mem_done_iff.2 (.inl ha))

/-- No id is entered twice. -/
theorem Tour.nodup (h : Tour g path ids w entered later) : entered.Nodup := by
  induction h with
  | finish => exact List.nodup_nil
  | close _ _ ih => exact ih
  | skip _ _ _ ih => exact ih
  | enter _ _ hinner hrest ihinner ihrest =>
    have hapart := hinner.notMem_of_enter hrest
    rw [List.forall_mem_cons] at hapart
    rw [List.nodup_cons, List.mem_append, not_or, List.nodup_append]
    refine ⟨⟨fun hmem => ?_, hapart.1⟩, ihinner, ihrest, ?_⟩
    · exact (hinner.new_of_mem _ hmem).1 List.mem_cons_self
    · rintro a ha b hb rfl
      exact hapart.2 a ha hb

theorem Tour.mem_ids (hclosed : g.Closed) (h : Tour g path ids w entered later)
    (hids : ∀ id ∈ ids, id ∈ g.ids) : ∀ a ∈ entered, a ∈ g.ids := by
  induction h with
  | finish => simp
  | close _ _ ih => exact ih (List.forall_mem_cons.1 hids).2
  | skip _ _ _ ih => exact ih (List.forall_mem_cons.1 hids).2
  | @enter _ id _ _ _ _ _ _ _ _ _ _ ihinner ihrest =>
    rw [List.forall_mem_cons] at hids
    rw [List.forall_mem_cons, List.forall_mem_append]
    exact ⟨hids.1, ihinner fun target htarget => hclosed id target htarget, ihrest hids.2⟩

/-- From the beginning of a walk, every id that a step leads to is entered. -/
theorem Tour.mem_of_start (h : Tour g [] ids w entered later) :
    ∀ id ∈ ids, id ∈ w.done ∨ id ∈ entered := by
  generalize hpath : ([] : List String) = path at h
  induction h with
  | finish => simp
  | close hmem => simp [← hpath] at hmem
  | skip _ hdone _ ih => exact List.forall_mem_cons.2 ⟨.inl hdone, ih hpath⟩
  | @enter _ id rest inner _ _ _ _ _ _ hinner _ _ ihrest =>
    refine List.forall_mem_cons.2 ⟨.inr List.mem_cons_self, fun a ha => ?_⟩
    rw [List.mem_cons, List.mem_append]
    rcases ihrest hpath a ha with hdone | hmem
    · rcases List.mem_cons.1 hdone with rfl | hdone
      · exact .inr (.inl rfl)
      · exact (hinner.mem_done_iff.1 hdone).symm.imp_right fun hmem => .inr (.inl hmem)
    · exact .inr (.inr (.inr hmem))

/-- Every id is entered exactly once. -/
theorem EntersIn.perm_ids (hclosed : g.Closed) (hids : g.ids.Nodup) (h : g.EntersIn entered) :
    entered.Perm g.ids := by
  obtain ⟨later, htour, -⟩ := h
  rw [List.perm_ext_iff_of_nodup htour.nodup hids]
  refine fun a => ⟨htour.mem_ids hclosed (fun _ hid => hid) a, fun ha => ?_⟩
  exact (htour.mem_of_start a ha).resolve_left List.not_mem_nil

/-! ## What a tour reports -/

/-- No edge closes both of two lists. -/
def ClosedApart (c d : List String) : Prop :=
  ∀ a b, Closes c a b → ¬Closes d a b

/-- What a tour reports: parts of the way to an id, each closed by an edge of its own, which comes
from an id that was entered or leads from the end of the path to one of the next ids. -/
structure Reports (path ids entered : List String) (new : List (List String)) : Prop where
  sublist : ∀ cycle ∈ new, cycle.Sublist (path.reverse ++ entered)
  source : ∀ cycle ∈ new, ∀ a b, Closes cycle a b → a ∈ entered ∨ path.head? = some a ∧ b ∈ ids
  apart : new.Pairwise ClosedApart

theorem reports_nil : Reports path ids entered [] where
  sublist := by simp
  source := by simp
  apart := .nil

variable {rest inner : List String} {new : List (List String)}

/-- A step that reports nothing. -/
theorem Reports.cons (h : Reports path rest entered new) :
    Reports path (id :: rest) entered new where
  sublist := h.sublist
  source := fun cycle hcycle a b hcloses =>
    (h.source cycle hcycle a b hcloses).imp_right (And.imp_right (List.mem_cons_of_mem _))
  apart := h.apart

/-- A step back to an id on the path. -/
theorem Reports.close (h : Reports path rest entered new) (hid : id ∈ path) (hrest : id ∉ rest)
    (hnew : ∀ a ∈ entered, a ∉ path) :
    Reports path (id :: rest) entered (new ++ [cycleFrom id path]) := by
  have hedge (a b : String) (hcloses : Closes (cycleFrom id path) a b) :
      path.head? = some a ∧ b = id := by
    obtain ⟨hlast, hfirst⟩ := hcloses
    rw [getLast?_cycleFrom hid] at hlast
    rw [head?_cycleFrom hid, Option.some.injEq] at hfirst
    exact ⟨hlast, hfirst.symm⟩
  refine ⟨?_, ?_, ?_⟩
  · rw [List.forall_mem_append, List.forall_mem_singleton]
    exact ⟨h.sublist, cycleFrom_suffix.sublist.trans (List.sublist_append_left _ _)⟩
  · rw [List.forall_mem_append, List.forall_mem_singleton]
    refine ⟨h.cons.source, fun a b hcloses => .inr ?_⟩
    obtain ⟨hlast, rfl⟩ := hedge a b hcloses
    exact ⟨hlast, List.mem_cons_self⟩
  · rw [List.pairwise_append]
    refine ⟨h.apart, List.pairwise_singleton _ _, fun cycle hcycle => ?_⟩
    rw [List.forall_mem_singleton]
    intro a b hcloses hsame
    obtain ⟨hlast, rfl⟩ := hedge a b hsame
    rcases h.source cycle hcycle a b hcloses with hmem | ⟨-, hmem⟩
    · exact hnew a hmem (List.mem_of_mem_head? hlast)
    · exact hrest hmem

/-- A step to an id that is entered: what is reported from it, and what the next steps report. -/
theorem Reports.enter {found : List (List String)} {targets : List String}
    (hinner : Reports (id :: path) targets inner found) (h : Reports path rest entered new)
    (hpath : ∀ a ∈ id :: inner, a ∉ path) (hentered : ∀ a ∈ id :: inner, a ∉ entered) :
    Reports path (id :: rest) (id :: (inner ++ entered)) (new ++ found) := by
  have hsource : ∀ cycle ∈ found, ∀ a b, Closes cycle a b → a ∈ id :: inner := by
    intro cycle hcycle a b hcloses
    rcases hinner.source cycle hcycle a b hcloses with hmem | ⟨hlast, -⟩
    · exact List.mem_cons_of_mem _ hmem
    · obtain rfl := Option.some.inj hlast
      exact List.mem_cons_self
  refine ⟨?_, ?_, ?_⟩
  · rw [List.forall_mem_append]
    refine ⟨fun cycle hcycle => (h.sublist cycle hcycle).trans ?_, fun cycle hcycle => ?_⟩
    · refine List.Sublist.append_left ?_ _
      exact (List.sublist_append_right _ _).trans (List.sublist_cons_self _ _)
    · refine (hinner.sublist cycle hcycle).trans ?_
      rw [List.reverse_cons, List.append_assoc, List.singleton_append]
      exact ((List.sublist_append_left _ _).cons_cons id).append_left _
  · rw [List.forall_mem_append]
    refine ⟨fun cycle hcycle a b hcloses => ?_, fun cycle hcycle a b hcloses => .inl ?_⟩
    · refine (h.cons.source cycle hcycle a b hcloses).imp_left fun hmem => ?_
      exact List.mem_cons_of_mem _ (List.mem_append_right _ hmem)
    · rw [← List.cons_append]
      exact List.mem_append_left _ (hsource cycle hcycle a b hcloses)
  · rw [List.pairwise_append]
    refine ⟨h.apart, hinner.apart, fun c hc d hd a b hcloses hsame => ?_⟩
    have ha := hsource d hd a b hsame
    rcases h.source c hc a b hcloses with hmem | ⟨hlast, -⟩
    · exact hentered a ha hmem
    · exact hpath a ha (List.mem_of_mem_head? hlast)

/-- The induction is on the tour. What it finds stands in front of what was found before. -/
theorem Tour.exists_reports (htargets : ∀ id, (g.targets id).Nodup)
    (h : Tour g path ids w entered later) (hids : ids.Nodup) :
    ∃ new, later.found = new ++ w.found ∧ Reports path ids entered new := by
  induction h with
  | finish => exact ⟨[], rfl, reports_nil⟩
  | close hpath hrest ih =>
    rw [List.nodup_cons] at hids
    obtain ⟨new, hfound, hreports⟩ := ih hids.2
    refine ⟨_, ?_, hreports.close hpath hids.1 fun a ha => (hrest.new_of_mem a ha).1⟩
    rw [hfound, List.append_assoc, List.singleton_append]
  | skip _ _ _ ih =>
    obtain ⟨new, hfound, hreports⟩ := ih (List.nodup_cons.1 hids).2
    exact ⟨new, hfound, hreports.cons⟩
  | enter hpath _ hinner hrest ihinner ihrest =>
    obtain ⟨found, hfound, hreports⟩ := ihinner (htargets _)
    obtain ⟨new, hnew, hmore⟩ := ihrest (List.nodup_cons.1 hids).2
    refine ⟨new ++ found, by rw [hnew, hfound, List.append_assoc], ?_⟩
    refine hreports.enter hmore (List.forall_mem_cons.2 ⟨hpath, fun a ha hmem => ?_⟩)
      (hinner.notMem_of_enter hrest)
    exact (hinner.new_of_mem a ha).1 (List.mem_cons_of_mem _ hmem)

/-- The reports of the tour through the whole graph. -/
theorem EntersIn.reports (htargets : ∀ id, (g.targets id).Nodup) (hids : g.ids.Nodup)
    (h : g.EntersIn entered) :
    (∀ cycle ∈ g.cycles, cycle.Sublist entered) ∧ g.cycles.reverse.Pairwise ClosedApart := by
  obtain ⟨later, htour, hcycles⟩ := h
  obtain ⟨new, hfound, hreports⟩ := htour.exists_reports htargets hids
  rw [List.append_nil] at hfound
  rw [hcycles, List.reverse_reverse, hfound]
  refine ⟨fun cycle hcycle => ?_, hreports.apart⟩
  exact hreports.sublist cycle (List.mem_reverse.1 hcycle)

/-! ## Sequences of ids -/

/-- Of two ids that stand one after the other in a sequence, the first has the lower place. -/
theorem idxOf_lt_idxOf {a b : String} (hentered : entered.Nodup) (h : [a, b].Sublist entered) :
    entered.idxOf a < entered.idxOf b := by
  induction entered with
  | nil => simp at h
  | cons c rest ih =>
    rw [List.nodup_cons] at hentered
    have hne (d : String) (hd : d ∈ rest) : c ≠ d := by
      rintro rfl
      exact hentered.1 hd
    rcases List.sublist_cons_iff.1 h with hrest | ⟨_, ⟨rfl, rfl⟩, hb⟩
    · rw [List.idxOf_cons_ne rest (hne a (hrest.subset (by simp))),
        List.idxOf_cons_ne rest (hne b (hrest.subset (by simp)))]
      exact Nat.succ_lt_succ (ih hentered.2 hrest)
    · rw [List.idxOf_cons_self, List.idxOf_cons_ne rest (hne b (List.singleton_sublist.1 hb))]
      exact Nat.succ_pos _

/-- Two parts of one sequence with the same ids are the same. -/
theorem eq_of_sublist_of_perm {c d : List String} (hentered : entered.Nodup)
    (hc : c.Sublist entered) (hd : d.Sublist entered) (h : c.Perm d) : c = d := by
  have hplaces {part : List String} (hpart : part.Sublist entered) :
      part.Pairwise fun a b => entered.idxOf a < entered.idxOf b :=
    List.pairwise_iff_forall_sublist.2 fun hab => idxOf_lt_idxOf hentered (hab.trans hpart)
  exact h.eq_of_pairwise (fun a b _ _ hab hba => absurd hab (Nat.lt_asymm hba)) (hplaces hc)
    (hplaces hd)

/-- Two cycles that stand in one sequence and are closed by different edges are not the same cycle
from another beginning. -/
theorem not_isRotated_of_closedApart {c d : List String} (hentered : entered.Nodup)
    (hc : c.Sublist entered) (hd : d.Sublist entered) (hcycle : g.IsCycle c)
    (hapart : ClosedApart c d) : ¬c.IsRotated d := by
  intro hrotated
  obtain rfl := eq_of_sublist_of_perm hentered hc hd hrotated.perm
  obtain ⟨a, b, hcloses, -⟩ := hcycle.closes
  exact hapart a b hcloses hcloses

/-! ## Circuits -/

/-- Ids, which may repeat, each of which points to the next one, and the last one to the first. -/
structure IsCircuit (g : Graph) (circuit : List String) : Prop where
  chain : circuit.IsChain g.Edge
  closes : ∃ a b, Closes circuit a b ∧ g.Edge a b

/-- The circuit goes from one id to another: they are neighbours on it, or its end and its
beginning. -/
def GoesOver (circuit : List String) (a b : String) : Prop :=
  [a, b].IsInfix circuit ∨ Closes circuit a b

/-- An edge that closes no reported cycle. -/
def OpenEdge (g : Graph) (a b : String) : Prop :=
  g.Edge a b ∧ ¬∃ cycle ∈ g.cycles, Closes cycle a b

/-- A circuit of edges of one kind leads back to where it begins. -/
theorem transGen_of_closes {r : String → String → Prop} {circuit : List String} {a b : String}
    (hchain : circuit.IsChain r) (hcloses : Closes circuit a b) (hedge : r a b) :
    TransGen r b b := by
  obtain ⟨hlast, hfirst⟩ := hcloses
  have hne : circuit ≠ [] := by
    rintro rfl
    simp at hlast
  have hwalk := List.relationReflTransGen_of_exists_isChain circuit hchain hne
  rw [List.getLast?_eq_some_getLast hne, Option.some.injEq] at hlast
  rw [List.head?_eq_some_head hne, Option.some.injEq] at hfirst
  rw [hlast, hfirst] at hwalk
  exact TransGen.tail' hwalk hedge

/-- A circuit goes over an edge that closes a reported cycle, if open edges lead nowhere back. -/
theorem IsCircuit.exists_closes {circuit : List String} (h : g.IsCircuit circuit)
    (hopen : ∀ id, ¬TransGen g.OpenEdge id id) :
    ∃ cycle ∈ g.cycles, ∃ a b, Closes cycle a b ∧ GoesOver circuit a b := by
  by_contra hnone
  have hedge (a b : String) (hab : g.Edge a b) (hover : GoesOver circuit a b) :
      g.OpenEdge a b := by
    refine ⟨hab, ?_⟩
    rintro ⟨cycle, hcycle, hcloses⟩
    exact hnone ⟨cycle, hcycle, a, b, hcloses, hover⟩
  obtain ⟨a, b, hcloses, hab⟩ := h.closes
  refine hopen b (transGen_of_closes ?_ hcloses (hedge a b hab (.inr hcloses)))
  rw [List.isChain_iff_forall_rel_of_append_cons_cons]
  intro a b before behind hsplit
  refine hedge a b (List.isChain_iff_forall_rel_of_append_cons_cons.1 h.chain hsplit) (.inl ?_)
  exact ⟨before, behind, by rw [hsplit, List.append_assoc]; rfl⟩

end Graph

/-! ## The cycles of fields -/

section

variable (fields : List Field)

theorem nodup_targets_dependencyGraph (id : String) :
    ((dependencyGraph fields).targets id).Nodup := by
  unfold Graph.targets
  cases hlookup : Table.lookup id (dependencyGraph fields) with
  | none => exact List.nodup_nil
  | some targets =>
    obtain ⟨f, -, hf⟩ :=
      List.mem_map.1 (Table.mem_of_mem_ofEntries (Table.mem_of_lookup hlookup))
    obtain ⟨-, rfl⟩ := Prod.mk.inj hf
    exact Table.nodup_distinct _

theorem nodup_ids_dependencyGraph : (dependencyGraph fields).ids.Nodup :=
  Table.nodup_keys_ofEntries _

/-- **The walk comes to an end, and what it reports cuts every circuit.** There is one tour through
the graph of any fields, and each circuit of dependencies goes over an edge that closes a reported
cycle: without these edges no field depends on itself. So nothing is reported exactly when no field
does. -/
theorem circuits_cut :
    (∃! entered, (dependencyGraph fields).EntersIn entered) ∧
    (∀ circuit, (dependencyGraph fields).IsCircuit circuit →
      ∃ cycle ∈ (dependencyGraph fields).cycles, ∃ a b,
        Graph.Closes cycle a b ∧ Graph.GoesOver circuit a b) ∧
    (∀ id, ¬Relation.TransGen (dependencyGraph fields).OpenEdge id id) ∧
    ((dependencyGraph fields).cycles = [] ↔ ¬(dependencyGraph fields).HasCycle) := by
  have hclosed := closed_dependencyGraph fields
  have hopen := Graph.not_transGen_of_open hclosed
  refine ⟨?_, fun circuit h => h.exists_closes hopen, hopen, Graph.cycles_eq_nil_iff hclosed⟩
  obtain ⟨entered, htour⟩ := Graph.exists_entersIn hclosed
  refine ⟨entered, htour, ?_⟩
  rintro other ⟨later, hother, -⟩
  obtain ⟨first, hfirst, -⟩ := htour
  exact (hother.unique hfirst).1

/-- **Every report is a cycle, and none is reported twice.** The ids of a reported cycle are ids of
fields, all different, each depends on the next one and the last one on the first. The walk, which
enters every id once, entered the first of them before the others, and they stand in the sequence in
which it entered them. No two reported cycles are the same, wherever they begin. -/
theorem cycles_distinct :
    ∃ entered, (dependencyGraph fields).EntersIn entered ∧ entered.Nodup ∧
      (∀ id, id ∈ entered ↔ ∃ f ∈ fields, f.id = id) ∧
      (∀ cycle ∈ (dependencyGraph fields).cycles,
        (dependencyGraph fields).IsCycle cycle ∧ cycle.Sublist entered ∧
          ∀ first ∈ cycle.head?, ∀ id ∈ cycle.tail, entered.idxOf first < entered.idxOf id) ∧
      (dependencyGraph fields).cycles.Pairwise fun c d => ¬c.IsRotated d := by
  have hclosed := closed_dependencyGraph fields
  have hids := nodup_ids_dependencyGraph fields
  obtain ⟨entered, htour⟩ := Graph.exists_entersIn hclosed
  have hperm := htour.perm_ids hclosed hids
  have hentered : entered.Nodup := hperm.nodup_iff.2 hids
  obtain ⟨hsublist, hapart⟩ := htour.reports (nodup_targets_dependencyGraph fields) hids
  have hcycles (cycle : List String) (hcycle : cycle ∈ (dependencyGraph fields).cycles) :
      (dependencyGraph fields).IsCycle cycle := Graph.isCycle_of_mem_cycles hclosed hcycle
  refine ⟨entered, htour, hentered, fun id => ?_, fun cycle hcycle => ?_, ?_⟩
  · rw [hperm.mem_iff, mem_ids_dependencyGraph]
  · refine ⟨hcycles cycle hcycle, hsublist cycle hcycle, fun first hfirst id hid => ?_⟩
    have hpair : [first, id].Sublist cycle := by
      rw [← List.cons_head?_tail hfirst]
      exact (List.singleton_sublist.2 hid).cons_cons first
    exact Graph.idxOf_lt_idxOf hentered (hpair.trans (hsublist cycle hcycle))
  · rw [List.pairwise_reverse] at hapart
    refine hapart.imp_of_mem fun {c d} hc hd hcd => ?_
    exact fun hrotated => Graph.not_isRotated_of_closedApart hentered (hsublist d hd)
      (hsublist c hc) (hcycles d hd) hcd hrotated.symm

end

end FormPress
