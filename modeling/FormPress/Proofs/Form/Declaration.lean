import FormPress.Proofs.Form.Checked
import FormPress.Proofs.Form.Pages
import FormPress.Proofs.Number.Comparison
import FormPress.Submission.Plan
import Mathlib.Data.List.Perm.Basic

/-!
# Fields in any order of declaration

Fields that are told apart by id, by name and by order may be declared in any sequence: references
resolve to the same fields, the ascending order is the same list, and what a check of the references
looks for is there or not there as before.
-/

namespace FormPress

/-- Fields of which no two share their id, their name or their place in the ascending order. At most
one of them takes a phone number. -/
structure FieldsApart (fields : List Field) : Prop where
  ids : (fields.map (·.id)).Nodup
  names : (fields.map (·.name)).Nodup
  isNumber : ∀ f ∈ fields, f.order ≠ .nan
  orders : fields.Pairwise fun f g => ¬f.order.Same g.order
  phones : (fields.filter fun f => f.kind == some .tel).length ≤ 1

/-- The form with other fields. -/
def Form.declaring (form : Form) (fields : List Field) : Form :=
  { form with fields := fields }

/-! ## References -/

/-- Where at most one entry fits, the first one that fits is the same in any sequence. -/
theorem find?_perm {α : Type} {p : α → Bool} {xs ys : List α} (h : xs.Perm ys)
    (hunique : ∀ a ∈ xs, ∀ b ∈ xs, p a = true → p b = true → a = b) :
    xs.find? p = ys.find? p := by
  cases hys : ys.find? p with
  | none =>
    rw [List.find?_eq_none] at hys ⊢
    exact fun a ha => hys a (h.mem_iff.1 ha)
  | some b =>
    have hb : b ∈ xs := h.mem_iff.2 (List.mem_of_find?_eq_some hys)
    have hpb : p b = true := List.find?_some hys
    cases hxs : xs.find? p with
    | none => exact absurd hpb (List.find?_eq_none.1 hxs b hb)
    | some a =>
      rw [hunique a (List.mem_of_find?_eq_some hxs) b hb (List.find?_some hxs) hpb]

/-- At most one field has a key when no two fields share one. -/
theorem find?_key_perm {key : Field → String} {fields others : List Field}
    (h : fields.Perm others) (hkeys : (fields.map key).Nodup) (s : String) :
    (fields.find? fun f => key f == s) = others.find? fun f => key f == s := by
  refine find?_perm h fun f hf g hg hfs hgs => ?_
  have hsame : key f = key g := (beq_iff_eq.1 hfs).trans (beq_iff_eq.1 hgs).symm
  exact List.inj_on_of_nodup_map hkeys hf hg hsame

variable {fields others : List Field}

theorem resolve?_perm (h : fields.Perm others) (hapart : FieldsApart fields) :
    resolve? fields = resolve? others := by
  funext reference
  rw [resolve?, resolve?, find?_key_perm h hapart.ids, find?_key_perm h hapart.names]

/-! ## The ascending order -/

/-- Numbers are put into their sequence on the line. -/
theorem sortedFields_eq_mergeSort (hnumber : ∀ f ∈ fields, f.order ≠ .nan) :
    sortedFields fields = fields.mergeSort fun f g => f.order.standsBefore g.order := by
  have hsort := List.map_mergeSort (r := fun f g : Field => !g.order.lt f.order)
    (s := fun f g : Field => f.order.standsBefore g.order) (f := id) (l := fields) ?_
  · simpa [sortedFields] using hsort
  · intro f hf g hg
    rw [Binary64.lt_eq_not_standsBefore (hnumber g hg) (hnumber f hf), Bool.not_not, id, id]

theorem pairwise_sortedFields (hnumber : ∀ f ∈ fields, f.order ≠ .nan) :
    (sortedFields fields).Pairwise fun f g => f.order.standsBefore g.order = true := by
  rw [sortedFields_eq_mergeSort hnumber]
  apply List.pairwise_mergeSort
  · intro f g k hfg hgk
    exact Binary64.standsBefore_trans hfg hgk
  · intro f g
    rw [Bool.or_eq_true]
    exact Binary64.standsBefore_total f.order g.order

theorem sortedFields_perm (h : fields.Perm others) (hapart : FieldsApart fields) :
    sortedFields fields = sortedFields others := by
  have hnumber : ∀ f ∈ others, f.order ≠ .nan :=
    fun f hf => hapart.isNumber f (h.mem_iff.2 hf)
  have hsorts : (sortedFields fields).Perm (sortedFields others) :=
    ((List.mergeSort_perm _ _).trans h).trans (List.mergeSort_perm _ _).symm
  refine hsorts.eq_of_pairwise ?_ (pairwise_sortedFields hapart.isNumber)
    (pairwise_sortedFields hnumber)
  intro f g hf hg hfg hgf
  rw [mem_sortedFields] at hf hg
  have hg' : g ∈ fields := h.mem_iff.2 hg
  by_contra hne
  have hplace : f.order.Same g.order := by
    rw [Binary64.Same, Binary64.le_eq_standsBefore (hapart.isNumber f hf) (hapart.isNumber g hg'),
      Binary64.le_eq_standsBefore (hapart.isNumber g hg') (hapart.isNumber f hf)]
    exact ⟨hfg, hgf⟩
  have hsymm : Std.Symm fun f g : Field => ¬f.order.Same g.order :=
    ⟨fun _ _ hfg hgf => hfg hgf.symm⟩
  exact hapart.orders.forall hf hg' hne hplace

theorem paginate_perm (h : fields.Perm others) (hapart : FieldsApart fields) :
    paginate fields = paginate others := by
  rw [paginate, paginate, sortedFields_perm h hapart]

/-! ## Helper names -/

theorem internalNames_perm (h : fields.Perm others) (hapart : FieldsApart fields) :
    internalNames fields = internalNames others := by
  have hphones := h.filter fun f => f.kind == some .tel
  have hone := hapart.phones
  rw [internalNames, internalNames]
  cases hleft : fields.filter fun f => f.kind == some .tel with
  | nil =>
    rw [hleft] at hphones
    rw [List.nil_perm.1 hphones]
  | cons f rest =>
    rw [hleft, List.length_cons] at hone
    obtain rfl : rest = [] := List.length_eq_zero_iff.1 (by omega)
    rw [hleft] at hphones
    rw [List.singleton_perm.1 hphones]

/-! ## Checks -/

theorem dependencies_congr (h : resolve? fields = resolve? others) (f : Field) :
    f.dependencies fields = f.dependencies others := by
  rw [Field.dependencies, Field.dependencies, h]

/-- With distinct ids every field has its own entry in the graph. -/
theorem edge_dependencyGraph_iff (hids : (fields.map (·.id)).Nodup) {a b : String} :
    (dependencyGraph fields).Edge a b ↔ ∃ f ∈ fields, f.id = a ∧ b ∈ f.dependencies fields := by
  constructor
  · intro hedge
    obtain ⟨f, hf, rfl⟩ := mem_ids_dependencyGraph.1 (Graph.mem_ids_of_edge hedge)
    rw [Graph.Edge, Graph.targets, lookup_dependencyGraph hids hf] at hedge
    exact ⟨f, hf, rfl, hedge⟩
  · rintro ⟨f, hf, rfl, hb⟩
    rw [Graph.Edge, Graph.targets, lookup_dependencyGraph hids hf]
    exact hb

theorem edge_dependencyGraph_perm (h : fields.Perm others) (hapart : FieldsApart fields)
    {a b : String} : (dependencyGraph fields).Edge a b ↔ (dependencyGraph others).Edge a b := by
  have hids : (others.map (·.id)).Nodup := (h.map _).nodup_iff.1 hapart.ids
  rw [edge_dependencyGraph_iff hapart.ids, edge_dependencyGraph_iff hids]
  simp only [h.mem_iff, dependencies_congr (resolve?_perm h hapart)]

namespace Form

variable {form : Form} (other : Form)

theorem refersNowhere_perm (h : form.fields.Perm other.fields) (hapart : FieldsApart form.fields) :
    form.RefersNowhere ↔ other.RefersNowhere := by
  rw [RefersNowhere, RefersNowhere, resolve?_perm h hapart]
  simp only [h.mem_iff]

theorem dependsInCircle_perm (h : form.fields.Perm other.fields)
    (hapart : FieldsApart form.fields) : form.DependsInCircle ↔ other.DependsInCircle := by
  have hedges : (dependencyGraph form.fields).Edge = (dependencyGraph other.fields).Edge := by
    funext a b
    exact propext (edge_dependencyGraph_perm h hapart)
  rw [DependsInCircle, DependsInCircle, Graph.HasCycle, Graph.HasCycle, hedges]

end Form

end FormPress
