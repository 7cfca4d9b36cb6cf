import FormPress.Style.Sheet

/-!
# The texts of a stylesheet

A written stylesheet is put together from the texts of its items and a few seams. A property of texts
that passes to texts put together, and that the seams have, holds of the written sheet when it holds
of all its texts.
-/

namespace FormPress.Style

/-- Properties and values. -/
def declarationTexts (ds : List Declaration) : List String :=
  ds.flatMap fun d => [d.1, d.2]

/-- Selectors with their properties and values. -/
def ruleTexts (rules : List (String × List Declaration)) : List String :=
  rules.flatMap fun r => r.1 :: declarationTexts r.2

/-- The texts of an item; a remark is one text with its marks. -/
def Item.texts : Item → List String
  | .short selector ds => selector :: declarationTexts ds
  | .long selector lines => selector :: lines.flatMap declarationTexts
  | .media query rules => query :: ruleTexts rules
  | .keyframes name frames => name :: ruleTexts frames
  | .comment s => ["/* " ++ s ++ " */"]

def Sheet.texts (sheet : Sheet) : List String :=
  sheet.flatMap Item.texts

section Texts

variable {P : String → Prop} {s : String} {d : Declaration} {ds : List Declaration}
  {lines : List (List Declaration)} {r : String × List Declaration}
  {rules : List (String × List Declaration)} {i : Item} {left right : Sheet}

theorem forall_declarationTexts_nil : (∀ s ∈ declarationTexts [], P s) ↔ True := by
  simp [declarationTexts]

theorem forall_declarationTexts_cons :
    (∀ s ∈ declarationTexts (d :: ds), P s) ↔
      P d.1 ∧ P d.2 ∧ ∀ s ∈ declarationTexts ds, P s := by
  simp only [declarationTexts, List.flatMap_cons, List.cons_append, List.nil_append,
    List.forall_mem_cons]

theorem forall_ruleTexts_nil : (∀ s ∈ ruleTexts [], P s) ↔ True := by
  simp [ruleTexts]

theorem forall_ruleTexts_cons :
    (∀ s ∈ ruleTexts (r :: rules), P s) ↔
      (P r.1 ∧ ∀ s ∈ declarationTexts r.2, P s) ∧ ∀ s ∈ ruleTexts rules, P s := by
  simp only [ruleTexts, List.flatMap_cons, List.cons_append, List.forall_mem_cons,
    List.forall_mem_append, and_assoc]

theorem forall_texts_short :
    (∀ t ∈ (Item.short s ds).texts, P t) ↔ P s ∧ ∀ t ∈ declarationTexts ds, P t :=
  List.forall_mem_cons

theorem forall_texts_long :
    (∀ t ∈ (Item.long s lines).texts, P t) ↔
      P s ∧ ∀ ds ∈ lines, ∀ t ∈ declarationTexts ds, P t := by
  rw [Item.texts, List.forall_mem_cons, List.forall_mem_flatMap]

theorem forall_texts_each :
    (∀ t ∈ (Item.long s (each ds)).texts, P t) ↔ P s ∧ ∀ t ∈ declarationTexts ds, P t := by
  have hlines : (each ds).flatMap declarationTexts = declarationTexts ds := by
    simp only [each, List.flatMap_map, declarationTexts, List.flatMap_cons, List.flatMap_nil,
      List.append_nil]
  rw [Item.texts, List.forall_mem_cons, hlines]

theorem forall_texts_media :
    (∀ t ∈ (Item.media s rules).texts, P t) ↔ P s ∧ ∀ t ∈ ruleTexts rules, P t :=
  List.forall_mem_cons

theorem forall_texts_nil : (∀ s ∈ Sheet.texts [], P s) ↔ True := by
  simp [Sheet.texts]

theorem forall_texts_cons :
    (∀ s ∈ Sheet.texts (i :: right), P s) ↔
      (∀ s ∈ i.texts, P s) ∧ ∀ s ∈ Sheet.texts right, P s := by
  rw [Sheet.texts, List.flatMap_cons, List.forall_mem_append, Sheet.texts]

theorem forall_texts_append :
    (∀ s ∈ Sheet.texts (left ++ right), P s) ↔
      (∀ s ∈ Sheet.texts left, P s) ∧ ∀ s ∈ Sheet.texts right, P s := by
  rw [Sheet.texts, List.flatMap_append, List.forall_mem_append, Sheet.texts, Sheet.texts]

/-- A property of all texts of some rules holds of each rule's selector and declarations. -/
theorem forall_texts_of_mem {rules : List (String × List Declaration)}
    (h : ∀ s ∈ ruleTexts rules, P s) {r : String × List Declaration} (hr : r ∈ rules) :
    P r.1 ∧ ∀ s ∈ declarationTexts r.2, P s := by
  have htexts : ∀ s ∈ r.1 :: declarationTexts r.2, P s :=
    fun s hs => h s (List.mem_flatMap.2 ⟨r, hr, hs⟩)
  exact List.forall_mem_cons.1 htexts

end Texts

/-- What the writer puts between the texts of a sheet. -/
def seams : List String :=
  ["", " ", "\n", "\n  ", ":", ": ", ";", "; ", " \x7b", "\x7d", "@media ", "@keyframes "]

/-- A property that texts put together have from their parts, and that the seams have. -/
structure TextRule (P : String → Prop) : Prop where
  append : ∀ {s t : String}, P s → P t → P (s ++ t)
  seam : ∀ s ∈ seams, P s

namespace TextRule

variable {P : String → Prop} (rule : TextRule P)

include rule

theorem concat {texts : List String} (h : ∀ s ∈ texts, P s) : P (Text.concat texts) := by
  induction texts with
  | nil => exact rule.seam "" (by simp [seams])
  | cons s rest ih =>
    rw [Text.concat_cons]
    exact rule.append (h s (by simp)) (ih fun t ht => h t (List.mem_cons_of_mem _ ht))

theorem join {separator : String} {texts : List String} (hseparator : P separator)
    (h : ∀ s ∈ texts, P s) : P (Text.join separator texts) := by
  cases texts with
  | nil => exact rule.seam "" (by simp [seams])
  | cons s rest =>
    rw [Text.join_cons]
    refine rule.append (h s (by simp)) (rule.concat (List.forall_mem_map.2 fun t ht => ?_))
    exact rule.append hseparator (h t (List.mem_cons_of_mem _ ht))

/-- A text between two seams. -/
theorem enclosed {before after s : String} (hbefore : before ∈ seams) (hafter : after ∈ seams)
    (h : P s) : P (before ++ s ++ after) :=
  rule.append (rule.append (rule.seam _ hbefore) h) (rule.seam _ hafter)

theorem writeBody {head body : String} (hhead : P head) (hbody : P body) :
    P (writeBody head body) :=
  rule.append (rule.append (rule.append hhead (rule.seam _ (by simp [seams]))) hbody)
    (rule.seam _ (by simp [seams]))

/-- A property and its value around a seam. -/
theorem pair {ds : List Declaration} {seam : String} (hseam : seam ∈ seams)
    (h : ∀ s ∈ declarationTexts ds, P s) {d : Declaration} (hd : d ∈ ds) :
    P (d.1 ++ seam ++ d.2) := by
  have htexts : ∀ s ∈ [d.1, d.2], P s := fun s hs => h s (List.mem_flatMap.2 ⟨d, hd, hs⟩)
  exact rule.append (rule.append (htexts d.1 (by simp)) (rule.seam _ hseam)) (htexts d.2 (by simp))

theorem writeDeclarations {ds : List Declaration} (h : ∀ s ∈ declarationTexts ds, P s) :
    P (writeDeclarations ds) := by
  refine rule.join (rule.seam _ (by simp [seams])) (List.forall_mem_map.2 fun d hd => ?_)
  exact rule.append (rule.pair (by simp [seams]) h hd) (rule.seam _ (by simp [seams]))

theorem writeShort {selector : String} {ds : List Declaration} (hselector : P selector)
    (h : ∀ s ∈ declarationTexts ds, P s) : P (writeShort selector ds) :=
  rule.writeBody hselector
    (rule.enclosed (by simp [seams]) (by simp [seams]) (rule.writeDeclarations h))

theorem writeLines {head : String} {lines : List String} (hhead : P head)
    (h : ∀ l ∈ lines, P l) : P (writeLines head lines) := by
  refine rule.writeBody hhead (rule.append (rule.concat (List.forall_mem_map.2 fun l hl => ?_))
    (rule.seam _ (by simp [seams])))
  exact rule.append (rule.seam _ (by simp [seams])) (h l hl)

theorem writeFrame {frame : String × List Declaration} (hname : P frame.1)
    (h : ∀ s ∈ declarationTexts frame.2, P s) : P (writeFrame frame) := by
  refine rule.writeBody hname (rule.enclosed (by simp [seams]) (by simp [seams]) ?_)
  refine rule.join (rule.seam _ (by simp [seams])) (List.forall_mem_map.2 fun d hd => ?_)
  exact rule.pair (by simp [seams]) h hd

theorem writeItem {i : Item} (h : ∀ s ∈ i.texts, P s) : P i.write := by
  cases i with
  | short selector ds =>
    obtain ⟨hselector, hds⟩ := List.forall_mem_cons.1 h
    exact rule.writeShort hselector hds
  | long selector lines =>
    obtain ⟨hselector, hlines⟩ := List.forall_mem_cons.1 h
    refine rule.writeLines hselector (List.forall_mem_map.2 fun ds hds => ?_)
    exact rule.writeDeclarations fun s hs => hlines s (List.mem_flatMap.2 ⟨ds, hds, hs⟩)
  | media query rules =>
    obtain ⟨hquery, hrules⟩ := List.forall_mem_cons.1 h
    refine rule.writeLines (rule.append (rule.seam _ (by simp [seams])) hquery)
      (List.forall_mem_map.2 fun r hr => ?_)
    obtain ⟨hselector, hds⟩ := forall_texts_of_mem hrules hr
    exact rule.writeShort hselector hds
  | keyframes name frames =>
    obtain ⟨hname, hframes⟩ := List.forall_mem_cons.1 h
    refine rule.writeBody (rule.append (rule.seam _ (by simp [seams])) hname)
      (rule.enclosed (by simp [seams]) (by simp [seams]) ?_)
    refine rule.join (rule.seam _ (by simp [seams])) (List.forall_mem_map.2 fun f hf => ?_)
    obtain ⟨hstage, hds⟩ := forall_texts_of_mem hframes hf
    exact rule.writeFrame hstage hds
  | comment s => exact h _ (List.mem_singleton.2 rfl)

/-- **What holds of the texts of a sheet holds of the written sheet.** -/
theorem write {sheet : Sheet} (h : ∀ s ∈ sheet.texts, P s) : P (write sheet) := by
  refine rule.join (rule.seam _ (by simp [seams])) (List.forall_mem_map.2 fun i hi => ?_)
  exact rule.writeItem fun s hs => h s (List.mem_flatMap.2 ⟨i, hi, hs⟩)

end TextRule

end FormPress.Style
