import FormPress.Form.References
import FormPress.Proofs.Table
import Mathlib.Data.List.Chain
import Mathlib.Data.List.Nodup
import Mathlib.Data.List.Perm.Subperm
import Mathlib.Data.List.TakeWhile
import Mathlib.Logic.Relation

/-!
# Cycles of a graph

What the depth-first walk through a graph finds. Every list that it reports is a cycle of the graph;
and an id that it has left for good points only to ids left before it, or its edge closes a reported
cycle. So the walk reports something exactly when the graph has a directed cycle.
-/

namespace FormPress.Graph

open Relation

/-- One id points to another. -/
def Edge (g : Graph) (a b : String) : Prop :=
  b ∈ g.targets a

/-- Some id is reached from itself along the edges. -/
def HasCycle (g : Graph) : Prop :=
  ∃ id, TransGen g.Edge id id

/-- The ids that have an entry. -/
abbrev ids (g : Graph) : List String :=
  g.map Prod.fst

/-- Every edge leads to an id that has an entry. -/
def Closed (g : Graph) : Prop :=
  ∀ a b, g.Edge a b → b ∈ g.ids

/-- The edge from one id to another leads from the end of a list back to its beginning. -/
def Closes (cycle : List String) (a b : String) : Prop :=
  cycle.getLast? = some a ∧ cycle.head? = some b

/-- Different ids, each of which points to the next one, and the last one to the first. -/
structure IsCycle (g : Graph) (cycle : List String) : Prop where
  nodup : cycle.Nodup
  chain : cycle.IsChain g.Edge
  closes : ∃ a b, Closes cycle a b ∧ g.Edge a b

/-- A path of the walk, given from its end: different ids of the graph, each of which points to the
one that was entered after it. -/
structure IsPath (g : Graph) (path : List String) : Prop where
  nodup : path.Nodup
  chain : path.IsChain fun b a => g.Edge a b
  mem_ids : ∀ id ∈ path, id ∈ g.ids

variable {g : Graph} {path : List String} {id : String} {fuel : Nat} {w : Walk}

theorem mem_ids_of_edge {a b : String} (h : g.Edge a b) : a ∈ g.ids := by
  unfold Edge targets at h
  cases hlookup : Table.lookup a g with
  | none =>
    rw [hlookup] at h
    simp at h
  | some targets => exact List.mem_map.2 ⟨_, Table.mem_of_lookup hlookup, rfl⟩

theorem IsCycle.hasCycle {cycle : List String} (h : g.IsCycle cycle) : g.HasCycle := by
  obtain ⟨-, hchain, a, b, ⟨hlast, hfirst⟩, hedge⟩ := h
  have hne : cycle ≠ [] := by
    rintro rfl
    simp at hlast
  have hwalk := List.relationReflTransGen_of_exists_isChain cycle hchain hne
  have ha : cycle.getLast hne = a := by
    rw [List.getLast?_eq_some_getLast hne] at hlast
    exact Option.some.inj hlast
  have hb : cycle.head hne = b := by
    rw [List.head?_eq_some_head hne] at hfirst
    exact Option.some.inj hfirst
  rw [ha, hb] at hwalk
  exact ⟨b, TransGen.tail' hwalk hedge⟩

/-! ## Paths -/

theorem isPath_nil : g.IsPath [] where
  nodup := List.nodup_nil
  chain := List.isChain_nil
  mem_ids := by simp

/-- The end of a path points to an id; there is nothing to point from when the path is empty. -/
def Leads (g : Graph) (path : List String) (id : String) : Prop :=
  ∀ last ∈ path.head?, g.Edge last id

theorem IsPath.cons (hpath : g.IsPath path) (hid : id ∈ g.ids) (hnew : id ∉ path)
    (hleads : g.Leads path id) : g.IsPath (id :: path) where
  nodup := List.nodup_cons.2 ⟨hnew, hpath.nodup⟩
  chain := List.isChain_cons.2 ⟨hleads, hpath.chain⟩
  mem_ids := List.forall_mem_cons.2 ⟨hid, hpath.mem_ids⟩

/-- A path is at most as long as the graph. -/
theorem IsPath.length_le (hpath : g.IsPath path) : path.length ≤ g.length := by
  have hsub := hpath.nodup.subperm hpath.mem_ids
  simpa using hsub.length_le

theorem cycleFrom_suffix : cycleFrom id path <:+ path.reverse :=
  List.dropWhile_suffix _

theorem head?_cycleFrom (hid : id ∈ path) : (cycleFrom id path).head? = some id := by
  obtain ⟨left, right, hsplit, hleft⟩ := List.eq_append_cons_of_mem (List.mem_reverse.2 hid)
  have hskip : left.dropWhile (· != id) = [] := by
    rw [List.dropWhile_eq_nil_iff]
    intro a ha
    rw [bne_iff_ne]
    rintro rfl
    exact hleft ha
  rw [cycleFrom, hsplit, List.dropWhile_append, hskip]
  simp

theorem getLast?_cycleFrom (hid : id ∈ path) : (cycleFrom id path).getLast? = path.head? := by
  have hsuffix : cycleFrom id path <:+ path.reverse := cycleFrom_suffix
  obtain ⟨before, hsplit⟩ := hsuffix
  have hne : cycleFrom id path ≠ [] := by
    intro hnil
    have hhead := head?_cycleFrom hid
    simp [hnil] at hhead
  rw [← List.getLast?_reverse, ← hsplit, List.getLast?_append_of_ne_nil _ hne]

/-- An edge from the end of a path to an id on it closes the part of the path that starts there. -/
theorem closes_cycleFrom {last : String} (hid : id ∈ path) (hlast : path.head? = some last) :
    Closes (cycleFrom id path) last id :=
  ⟨by rw [getLast?_cycleFrom hid, hlast], head?_cycleFrom hid⟩

theorem IsPath.isCycle_cycleFrom (hpath : g.IsPath path) (hid : id ∈ path)
    (hleads : g.Leads path id) : g.IsCycle (cycleFrom id path) := by
  obtain ⟨last, hlast⟩ : ∃ last, path.head? = some last := by
    cases path with
    | nil => simp at hid
    | cons a rest => exact ⟨a, rfl⟩
  exact
    { nodup := (List.nodup_reverse.2 hpath.nodup).sublist cycleFrom_suffix.sublist
      chain := (List.isChain_reverse.2 hpath.chain).suffix cycleFrom_suffix
      closes := ⟨last, id, closes_cycleFrom hid hlast, hleads last hlast⟩ }

/-! ## The walk -/

/-- The ids left for good, the last one first: each points only to ids left before it, apart from
the edges that close a reported cycle. -/
def Settled (g : Graph) (found : List (List String)) : List String → Prop
  | [] => True
  | id :: rest =>
    (∀ target ∈ g.targets id, target ∈ rest ∨ ∃ cycle ∈ found, Closes cycle id target) ∧
      Settled g found rest

theorem Settled.mono {found more : List (List String)} (hsub : found ⊆ more) {done : List String}
    (h : g.Settled found done) : g.Settled more done := by
  induction done with
  | nil => trivial
  | cons id rest ih =>
    refine ⟨fun target htarget => ?_, ih h.2⟩
    refine (h.1 target htarget).imp_right ?_
    rintro ⟨cycle, hcycle, hcloses⟩
    exact ⟨cycle, hsub hcycle, hcloses⟩

/-- What holds of every state of the walk. -/
structure Walk.Valid (g : Graph) (w : Walk) : Prop where
  isCycle : ∀ cycle ∈ w.found, g.IsCycle cycle
  settled : g.Settled w.found w.done

/-- A later state of the walk: nothing is forgotten. -/
structure Walk.Extends (w later : Walk) : Prop where
  done : w.done ⊆ later.done
  found : w.found ⊆ later.found

theorem Walk.Extends.refl (w : Walk) : w.Extends w :=
  ⟨List.Subset.refl _, List.Subset.refl _⟩

theorem Walk.Extends.trans {w₁ w₂ w₃ : Walk} (h : w₁.Extends w₂) (h' : w₂.Extends w₃) :
    w₁.Extends w₃ :=
  ⟨List.Subset.trans h.done h'.done, List.Subset.trans h.found h'.found⟩

/-- The step from the end of a path to an id has been dealt with: the id is left for good, or the
edge to it closes a reported cycle. -/
def Walk.Covers (w : Walk) (path : List String) (id : String) : Prop :=
  id ∈ w.done ∨ ∃ cycle ∈ w.found, cycle.getLast? = path.head? ∧ cycle.head? = some id

theorem Walk.Covers.mono {later : Walk} (hext : w.Extends later) (h : w.Covers path id) :
    later.Covers path id := by
  refine h.imp (fun hdone => hext.done hdone) ?_
  rintro ⟨cycle, hcycle, hclose⟩
  exact ⟨cycle, hext.found hcycle, hclose⟩

/-- What a part of the walk does: it keeps a valid state valid, and deals with some steps. -/
structure Walk.Deals (g : Graph) (w later : Walk) (path ids : List String) : Prop where
  valid : later.Valid g
  grows : w.Extends later
  covers : ∀ id ∈ ids, later.Covers path id

/-- Leaving an id after all steps from it have been dealt with. -/
theorem Walk.Deals.leave {after : Walk} (h : w.Deals g after (id :: path) (g.targets id)) :
    w.Deals g { after with done := id :: after.done } path [id] where
  valid := by
    refine ⟨h.valid.isCycle, fun target htarget => ?_, h.valid.settled⟩
    rcases h.covers target htarget with hdone | ⟨cycle, hcycle, hlast, hfirst⟩
    · exact .inl hdone
    · exact .inr ⟨cycle, hcycle, hlast, hfirst⟩
  grows :=
    ⟨List.Subset.trans h.grows.done (List.subset_cons_self ..), h.grows.found⟩
  covers := List.forall_mem_singleton.2 (.inl List.mem_cons_self)

/-- Reporting the cycle of an id that is already on the path. -/
theorem Walk.Valid.report (hw : w.Valid g) (hpath : g.IsPath path) (hid : id ∈ path)
    (hleads : g.Leads path id) :
    w.Deals g { w with found := cycleFrom id path :: w.found } path [id] where
  valid :=
    { isCycle := List.forall_mem_cons.2 ⟨hpath.isCycle_cycleFrom hid hleads, hw.isCycle⟩
      settled := hw.settled.mono (List.subset_cons_self ..) }
  grows := ⟨List.Subset.refl _, List.subset_cons_self ..⟩
  covers := by
    rw [List.forall_mem_singleton]
    exact .inr ⟨_, List.mem_cons_self, getLast?_cycleFrom hid, head?_cycleFrom hid⟩

/-- The first step and then the others. -/
theorem Walk.Deals.cons {w₁ w₂ w₃ : Walk} {rest : List String} (hfirst : w₁.Deals g w₂ path [id])
    (hrest : w₂.Deals g w₃ path rest) : w₁.Deals g w₃ path (id :: rest) where
  valid := hrest.valid
  grows := hfirst.grows.trans hrest.grows
  covers := List.forall_mem_cons.2
    ⟨(hfirst.covers id List.mem_cons_self).mono hrest.grows, hrest.covers⟩

theorem visitAll_nil : visitAll g fuel path [] w = w := by
  rw [visitAll]

theorem visitAll_cons (rest : List String) :
    visitAll g fuel path (id :: rest) w =
      if id ∈ path then visitAll g fuel path rest { w with found := cycleFrom id path :: w.found }
      else if id ∈ w.done then visitAll g fuel path rest w
      else visitAll g fuel path rest (visit g fuel path id w) := by
  rw [visitAll]

/-- One step after another, when each visit does what it should. -/
theorem deals_visitAll (hpath : g.IsPath path)
    (hvisit : ∀ {id : String} {w : Walk}, w.Valid g → g.IsPath (id :: path) →
      w.Deals g (visit g fuel path id w) path [id])
    {ids : List String} (hids : ∀ id ∈ ids, id ∈ g.ids ∧ g.Leads path id) (hw : w.Valid g) :
    w.Deals g (visitAll g fuel path ids w) path ids := by
  induction ids generalizing w with
  | nil =>
    rw [visitAll_nil]
    exact ⟨hw, .refl w, by simp⟩
  | cons id rest ih =>
    rw [List.forall_mem_cons] at hids
    obtain ⟨⟨hid, hleads⟩, hrest⟩ := hids
    rw [visitAll_cons]
    split
    · rename_i hmem
      have hreport := hw.report hpath hmem hleads
      exact hreport.cons (ih hrest hreport.valid)
    · rename_i hnew
      split
      · rename_i hdone
        have hskip : w.Deals g w path [id] :=
          ⟨hw, .refl w, List.forall_mem_singleton.2 (.inl hdone)⟩
        exact hskip.cons (ih hrest hw)
      · have hfirst := hvisit hw (hpath.cons hid hnew hleads)
        exact hfirst.cons (ih hrest hfirst.valid)

/-- A visit leaves its id for good. The fuel is enough, because it goes down by one with each id on
the path, and no path is longer than the graph. -/
theorem deals_visit (hclosed : g.Closed) (hfuel : g.length < fuel + path.length)
    (hpath : g.IsPath (id :: path)) (hw : w.Valid g) :
    w.Deals g (visit g fuel path id w) path [id] := by
  induction fuel generalizing path id w with
  | zero =>
    have hlength := hpath.length_le
    rw [List.length_cons] at hlength
    omega
  | succ fuel ih =>
    have htargets : ∀ target ∈ g.targets id, target ∈ g.ids ∧ g.Leads (id :: path) target := by
      intro target htarget
      refine ⟨hclosed id target htarget, ?_⟩
      rintro last ⟨⟩
      exact htarget
    have hmore : g.length < fuel + (id :: path).length := by
      rw [List.length_cons]
      omega
    have hafter := deals_visitAll hpath (fun hw hnext => ih hmore hnext hw) htargets hw
    rw [visit]
    exact hafter.leave

/-! ## What the walk finds -/

theorem deals_cycles (hclosed : g.Closed) :
    Walk.Deals g {} (visitAll g (g.length + 1) [] g.ids {}) [] g.ids := by
  have hstart : Walk.Valid g {} := ⟨by simp, trivial⟩
  refine deals_visitAll isPath_nil (fun hw hpath => ?_) (fun id hid => ⟨hid, ?_⟩) hstart
  · exact deals_visit hclosed (by simp) hpath hw
  · intro last hlast
    simp at hlast

/-- Every list that the walk reports is a cycle. -/
theorem isCycle_of_mem_cycles (hclosed : g.Closed) {cycle : List String} (h : cycle ∈ g.cycles) :
    g.IsCycle cycle :=
  (deals_cycles hclosed).valid.isCycle cycle (List.mem_reverse.1 h)

/-- From an id left for good no endless way leads on, once the edges that close reported cycles are
taken away. -/
theorem Settled.acc {found : List (List String)} {done : List String} (h : g.Settled found done) :
    ∀ id ∈ done,
      Acc (fun b a => g.Edge a b ∧ ¬∃ cycle ∈ found, Closes cycle a b) id := by
  induction done with
  | nil => simp
  | cons id rest ih =>
    rw [List.forall_mem_cons]
    refine ⟨⟨id, ?_⟩, ih h.2⟩
    rintro target ⟨hedge, hopen⟩
    exact ih h.2 target ((h.1 target hedge).resolve_right hopen)

theorem not_transGen_of_acc {r : String → String → Prop} (h : Acc (Function.swap r) id) :
    ¬TransGen r id id := by
  rw [← transGen_swap]
  have hacc := h.transGen
  clear h
  induction hacc with
  | intro id _ ih => exact fun hcycle => ih id hcycle hcycle

/-- Every directed cycle of the graph takes an edge that closes a reported cycle: without these
edges no id is reached from itself. -/
theorem not_transGen_of_open (hclosed : g.Closed) (id : String) :
    ¬TransGen (fun a b => g.Edge a b ∧ ¬∃ cycle ∈ g.cycles, Closes cycle a b) id id := by
  intro hcycle
  have hwalk := deals_cycles hclosed
  have hid : id ∈ g.ids := by
    obtain ⟨b, hedge, -⟩ := TransGen.head'_iff.1 hcycle
    exact mem_ids_of_edge hedge.1
  have hdone : id ∈ (visitAll g (g.length + 1) [] g.ids {}).done := by
    refine (hwalk.covers id hid).resolve_right ?_
    rintro ⟨cycle, hfound, hlast, hfirst⟩
    obtain ⟨a, b, ⟨ha, -⟩, -⟩ := (hwalk.valid.isCycle cycle hfound).closes
    rw [ha] at hlast
    simp at hlast
  have hopen : TransGen (fun a b => g.Edge a b ∧ ¬∃ cycle ∈
      (visitAll g (g.length + 1) [] g.ids {}).found, Closes cycle a b) id id := by
    refine TransGen.mono (fun a b hab => ⟨hab.1, fun ⟨cycle, hfound, hcloses⟩ => ?_⟩) id id hcycle
    exact hab.2 ⟨cycle, List.mem_reverse.2 hfound, hcloses⟩
  exact not_transGen_of_acc (hwalk.valid.settled.acc id hdone) hopen

/-- **The walk reports a cycle exactly when the graph has one.** -/
theorem cycles_eq_nil_iff (hclosed : g.Closed) : g.cycles = [] ↔ ¬g.HasCycle := by
  constructor
  · rintro hnone ⟨id, hcycle⟩
    refine not_transGen_of_open hclosed id (TransGen.mono (fun a b hab => ⟨hab, ?_⟩) id id hcycle)
    rintro ⟨cycle, hfound, -⟩
    rw [hnone] at hfound
    exact List.not_mem_nil hfound
  · intro hnone
    rw [List.eq_nil_iff_forall_not_mem]
    exact fun cycle hfound => hnone (isCycle_of_mem_cycles hclosed hfound).hasCycle

end FormPress.Graph
