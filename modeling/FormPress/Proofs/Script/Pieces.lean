import FormPress.Script.Code

/-!
# The fixed code of a script

What comes from a form enters a script as a literal only, so a property of the written script rests
on its fixed code and on what holds of every literal. `ListAll G` says that `G` holds of all fixed
code; `G` is told whether the code follows a value in its line; empty code leaves this as it is, and
no value follows another.
-/

namespace FormPress.Script

/-- Whether a value stands last before what comes after some code. -/
def stillAfter (after : Bool) (s : String) : Bool :=
  after && decide (s = "")

@[simp] theorem stillAfter_false (s : String) : stillAfter false s = false := rfl

/-- `G` holds of the fixed code of a line. -/
def LineAll (G : Bool → String → Prop) : Bool → Line → Prop
  | _, [] => True
  | after, .code s :: rest => G after s ∧ LineAll G (stillAfter after s) rest
  | after, .value _ :: rest => after = false ∧ LineAll G true rest

mutual

/-- `G` holds of the fixed code of all lines of a piece of code. -/
def Code.All (G : Bool → String → Prop) : Code → Prop
  | .line pieces => LineAll G false pieces
  | .block arms tail => ArmsAll G arms ∧ LineAll G false tail

/-- `G` holds of the fixed code of blocks. -/
def ArmsAll (G : Bool → String → Prop) : List (Line × List Code) → Prop
  | [] => True
  | (head, body) :: rest => LineAll G false head ∧ ListAll G body ∧ ArmsAll G rest

/-- `G` holds of the fixed code of several pieces of code. -/
def ListAll (G : Bool → String → Prop) : List Code → Prop
  | [] => True
  | c :: rest => c.All G ∧ ListAll G rest

end

section Pieces

variable {G : Bool → String → Prop} {after : Bool} {s : String} {v : Json} {head tail : Line}
  {body rest : List Code} {c : Code} {arms : List (Line × List Code)}

@[simp] theorem lineAll_nil : LineAll G after [] :=
  trivial

@[simp] theorem lineAll_code :
    LineAll G after (.code s :: tail) ↔ G after s ∧ LineAll G (stillAfter after s) tail :=
  Iff.rfl

@[simp] theorem lineAll_value :
    LineAll G after (.value v :: tail) ↔ after = false ∧ LineAll G true tail :=
  Iff.rfl

@[simp] theorem lineAll_quoted :
    LineAll G after (quoted s :: tail) ↔ after = false ∧ LineAll G true tail :=
  Iff.rfl

@[simp] theorem armsAll_nil : ArmsAll G [] :=
  trivial

@[simp] theorem armsAll_cons :
    ArmsAll G ((head, body) :: arms) ↔ LineAll G false head ∧ ListAll G body ∧ ArmsAll G arms :=
  Iff.rfl

@[simp] theorem listAll_nil : ListAll G [] :=
  trivial

@[simp] theorem listAll_cons : ListAll G (c :: rest) ↔ c.All G ∧ ListAll G rest :=
  Iff.rfl

@[simp] theorem all_line : (Code.line tail).All G ↔ LineAll G false tail :=
  Iff.rfl

@[simp] theorem all_blocks :
    (Code.block arms tail).All G ↔ ArmsAll G arms ∧ LineAll G false tail :=
  Iff.rfl

@[simp] theorem all_code : (code s).All G ↔ G false s :=
  iff_of_eq (and_true (G false s))

@[simp] theorem all_blank : blank.All G :=
  trivial

@[simp] theorem all_block :
    (block head body tail).All G ↔
      LineAll G false head ∧ ListAll G body ∧ LineAll G false tail := by
  rw [block, all_blocks, armsAll_cons]
  simp [and_assoc]

@[simp] theorem all_function {signature : String} :
    (function signature body).All G ↔
      G false ("function " ++ signature ++ " ") ∧ ListAll G body := by
  rw [function, all_block]
  simp

theorem listAll_append {left right : List Code} :
    ListAll G (left ++ right) ↔ ListAll G left ∧ ListAll G right := by
  induction left with
  | nil => simp
  | cons c rest ih => simp [ih, and_assoc]

theorem listAll_map {α : Type} {xs : List α} {item : α → Code} :
    ListAll G (xs.map item) ↔ ∀ a ∈ xs, (item a).All G := by
  induction xs with
  | nil => simp
  | cons a rest ih => simp [ih]

theorem listAll_flatMap {α : Type} {xs : List α} {part : α → List Code}
    (h : ∀ a ∈ xs, ListAll G (part a)) : ListAll G (xs.flatMap part) := by
  induction xs with
  | nil => simp
  | cons a rest ih =>
    rw [List.flatMap_cons, listAll_append]
    exact ⟨h a (by simp), ih fun b hb => h b (List.mem_cons_of_mem _ hb)⟩

theorem listAll_paragraphs {parts : List (List Code)} (h : ∀ part ∈ parts, ListAll G part) :
    ListAll G (paragraphs parts) := by
  fun_induction paragraphs parts with
  | case1 => trivial
  | case2 part => exact h part (by simp)
  | case3 part next rest ih =>
    rw [listAll_append, listAll_cons]
    exact ⟨h part (by simp), all_blank, ih fun p hp => h p (List.mem_cons_of_mem _ hp)⟩

end Pieces

/-! ## Weaker properties -/

section Mono

variable {G H : Bool → String → Prop}

theorem LineAll.mono (hle : ∀ {after s}, G after s → H after s) {after : Bool} {l : Line}
    (h : LineAll G after l) : LineAll H after l := by
  induction l generalizing after with
  | nil => trivial
  | cons p rest ih =>
    cases p with
    | code s => exact ⟨hle h.1, ih h.2⟩
    | value v => exact ⟨h.1, ih h.2⟩

mutual

theorem Code.All.mono (hle : ∀ {after s}, G after s → H after s) {c : Code} (h : c.All G) :
    c.All H := by
  cases c with
  | line pieces => exact LineAll.mono hle h
  | block arms tail => exact ⟨ArmsAll.mono hle h.1, LineAll.mono hle h.2⟩

theorem ArmsAll.mono (hle : ∀ {after s}, G after s → H after s) {arms : List (Line × List Code)}
    (h : ArmsAll G arms) : ArmsAll H arms := by
  cases arms with
  | nil => trivial
  | cons arm rest =>
    obtain ⟨hhead, hbody, hrest⟩ := h
    exact ⟨LineAll.mono hle hhead, ListAll.mono hle hbody, ArmsAll.mono hle hrest⟩

theorem ListAll.mono (hle : ∀ {after s}, G after s → H after s) {part : List Code}
    (h : ListAll G part) : ListAll H part := by
  cases part with
  | nil => trivial
  | cons c rest => exact ⟨Code.All.mono hle h.1, ListAll.mono hle h.2⟩

end

end Mono

/-! ## Written lines -/

/-- What holds of the fixed code of a line makes `L` hold of the written line, between braces and
behind blanks as well. -/
structure LineRule (G : Bool → String → Prop) (L : String → Prop) : Prop where
  line : ∀ {l : Line}, LineAll G false l → L (writeLine l)
  closing : ∀ {s : String}, L s → L ("\x7d" ++ s)
  opening : ∀ {s : String}, L s → L (s ++ "\x7b")
  indented : ∀ {s : String} (indent : Nat), L s → L (indented indent s)

namespace LineRule

variable {G : Bool → String → Prop} {L : String → Prop}

/-- The brace of the block before a line, if there is one. -/
theorem lead (h : LineRule G L) {lead : String} (hlead : lead = "" ∨ lead = "\x7d") {s : String}
    (hs : L s) : L (lead ++ s) := by
  rcases hlead with rfl | rfl
  · rwa [String.empty_append]
  · exact h.closing hs

mutual

theorem lines (h : LineRule G L) (indent : Nat) {c : Code} (hc : c.All G) :
    ∀ s ∈ c.lines indent, L s := by
  cases c with
  | line pieces =>
    rw [Code.lines, List.forall_mem_singleton]
    exact h.indented indent (h.line hc)
  | block arms tail =>
    rw [all_blocks] at hc
    rw [Code.lines]
    exact armLines h indent (.inl rfl) hc.1 hc.2

theorem armLines (h : LineRule G L) (indent : Nat) {lead : String}
    (hlead : lead = "" ∨ lead = "\x7d") {arms : List (Line × List Code)} (harms : ArmsAll G arms)
    {tail : Line} (htail : LineAll G false tail) :
    ∀ s ∈ Script.armLines indent lead arms tail, L s := by
  cases arms with
  | nil =>
    rw [Script.armLines, List.forall_mem_singleton]
    exact h.indented indent (h.lead hlead (h.line htail))
  | cons arm rest =>
    obtain ⟨head, body⟩ := arm
    obtain ⟨hhead, hbody, hrest⟩ := harms
    rw [Script.armLines, List.forall_mem_cons, List.forall_mem_append]
    exact ⟨h.indented indent (h.opening (h.lead hlead (h.line hhead))),
      listLines h (indent + 2) hbody, armLines h indent (.inr rfl) hrest htail⟩

theorem listLines (h : LineRule G L) (indent : Nat) {part : List Code} (hpart : ListAll G part) :
    ∀ s ∈ Script.listLines indent part, L s := by
  cases part with
  | nil => simp [Script.listLines]
  | cons c rest =>
    rw [listAll_cons] at hpart
    rw [Script.listLines, List.forall_mem_append]
    exact ⟨lines h indent hpart.1, listLines h indent hpart.2⟩

end

end LineRule

end FormPress.Script
