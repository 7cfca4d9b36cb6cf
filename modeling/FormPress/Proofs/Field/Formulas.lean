import FormPress.Field.Formula
import FormPress.Proofs.Form.Checked
import Mathlib.Data.List.Forall2
import Mathlib.Data.List.Infix

/-!
# Placeholders of formulas

An expression is text with placeholders in it, and there is one way only to take it apart so. With
ids that can stand in a placeholder, `resolve` keeps all text and exchanges placeholders for
placeholders: the result comes apart at the same places, each placeholder names the field that it
named before, and resolving once more changes nothing.
-/

namespace FormPress.Formula

/-! ## Expressions in parts -/

/-- What stands between the braces of a placeholder: at least one character, and no brace. -/
structure IsInner (cs : List Char) : Prop where
  ne_nil : cs ≠ []
  notOpen : '\x7b' ∉ cs
  notClose : '\x7d' ∉ cs

/-- A placeholder as it stands in an expression. -/
def placeholder (cs : List Char) : List Char :=
  '\x7b' :: cs ++ ['\x7d']

/-- No placeholder stands anywhere in a text. -/
def IsPlain (text : List Char) : Prop :=
  ∀ cs, IsInner cs → ¬placeholder cs <:+: text

/-- A text, and behind it placeholders, each with the text that follows it. -/
structure Parts where
  front : List Char
  rest : List (List Char × List Char)

/-- The characters that are pending. -/
def Pending.chars : Pending → List Char
  | none => []
  | some seen => '\x7b' :: seen.reverse

namespace Parts

def chars (p : Parts) : List Char :=
  p.front ++ p.rest.flatMap fun q => placeholder q.1 ++ q.2

/-- Between the placeholders stand texts without any. -/
structure IsCut (p : Parts) : Prop where
  front : IsPlain p.front
  rest : ∀ q ∈ p.rest, IsInner q.1 ∧ IsPlain q.2

/-- The parts are those of an expression. -/
structure Splits (p : Parts) (expression : List Char) : Prop where
  chars_eq : p.chars = expression
  isCut : p.IsCut

/-- The parts with more text in front of them. -/
def after (text : List Char) (p : Parts) : Parts :=
  { p with front := text ++ p.front }

@[simp] theorem after_after (s t : List Char) (p : Parts) :
    after s (after t p) = after (s ++ t) p := by
  simp [after]

/-- Pieces with the texts between two placeholders in one. -/
def ofPieces : List Piece → Parts
  | [] => ⟨[], []⟩
  | .text cs :: rest => after cs (ofPieces rest)
  | .hole cs :: rest => ⟨[], (cs, (ofPieces rest).front) :: (ofPieces rest).rest⟩

theorem ofPieces_text (cs : List Char) (rest : List Piece) :
    ofPieces (.text cs :: rest) = after cs (ofPieces rest) := rfl

theorem ofPieces_hole (cs : List Char) (rest : List Piece) :
    ofPieces (.hole cs :: rest) = ⟨[], (cs, (ofPieces rest).front) :: (ofPieces rest).rest⟩ := rfl

/-- What was pending is text in front of the pieces that follow. -/
theorem ofPieces_flush (pending : Pending) (ps : List Piece) :
    ofPieces (flush pending ++ ps) = after pending.chars (ofPieces ps) := by
  cases pending with
  | none => rfl
  | some seen => rfl

theorem ofPieces_flush_nil (pending : Pending) :
    ofPieces (flush pending) = after pending.chars ⟨[], []⟩ := by
  simpa [ofPieces] using ofPieces_flush pending []

end Parts

open Parts

/-! ## Texts without placeholders -/

theorem IsPlain.of_suffix {part text : List Char} (h : IsPlain text) (hpart : part <:+ text) :
    IsPlain part :=
  fun cs hcs hwithin => h cs hcs (hwithin.trans hpart.isInfix)

theorem isPlain_nil : IsPlain [] := by
  intro cs _ hwithin
  simp [placeholder] at hwithin

theorem isPlain_cons_of_ne {c : Char} {text : List Char} (hc : c ≠ '\x7b') (h : IsPlain text) :
    IsPlain (c :: text) := by
  intro cs hcs hwithin
  rcases List.infix_cons_iff.1 hwithin with hhead | hwithin
  · exact hc (List.cons_prefix_cons.1 hhead).1.symm
  · exact h cs hcs hwithin

/-- Behind an open brace a text may go on that closes no placeholder. -/
theorem isPlain_open {text : List Char} (h : IsPlain text)
    (hclose : ∀ cs, IsInner cs → ¬cs ++ ['\x7d'] <+: text) : IsPlain ('\x7b' :: text) := by
  intro cs hcs hwithin
  rcases List.infix_cons_iff.1 hwithin with hhead | hwithin
  · exact hclose cs hcs (List.cons_prefix_cons.1 hhead).2
  · exact h cs hcs hwithin

/-- The text is empty, or it begins with an open brace. -/
def Opens (text : List Char) : Prop :=
  text = [] ∨ ∃ rest, text = '\x7b' :: rest

theorem not_closes_of_opens {seen text : List Char} (hseen : '\x7d' ∉ seen) (htext : Opens text)
    {cs : List Char} (hopen : '\x7b' ∉ cs) : ¬cs ++ ['\x7d'] <+: seen ++ text := by
  induction seen generalizing cs with
  | nil =>
    intro hhead
    rcases htext with rfl | ⟨rest, rfl⟩
    · simp at hhead
    · cases cs with
      | nil => simp at hhead
      | cons c cs =>
        obtain ⟨rfl, -⟩ := List.cons_prefix_cons.1 hhead
        simp at hopen
  | cons s seen ih =>
    intro hhead
    cases cs with
    | nil =>
      obtain ⟨rfl, -⟩ := List.cons_prefix_cons.1 hhead
      simp at hseen
    | cons c cs =>
      have hrest := (List.cons_prefix_cons.1 hhead).2
      exact ih (fun h => hseen (List.mem_cons_of_mem _ h))
        (fun h => hopen (List.mem_cons_of_mem _ h)) hrest

/-- No brace stands among the characters after an open one. -/
def Pending.IsBraceless (pending : Pending) : Prop :=
  ∀ seen, pending = some seen → '\x7b' ∉ seen ∧ '\x7d' ∉ seen

theorem isBraceless_none : Pending.IsBraceless none := by simp [Pending.IsBraceless]

theorem isBraceless_nil : Pending.IsBraceless (some []) := by simp [Pending.IsBraceless]

theorem Pending.IsBraceless.reverse {seen : List Char} (h : IsBraceless (some seen)) :
    '\x7b' ∉ seen.reverse ∧ '\x7d' ∉ seen.reverse := by
  simpa using h seen rfl

theorem Pending.IsBraceless.cons {seen : List Char} (h : IsBraceless (some seen)) {c : Char}
    (hopen : c ≠ '\x7b') (hclose : c ≠ '\x7d') : IsBraceless (some (c :: seen)) := by
  simpa [IsBraceless, Ne.symm hopen, Ne.symm hclose] using h seen rfl

theorem isPlain_of_notMem {seen text : List Char} (hseen : '\x7b' ∉ seen) (h : IsPlain text) :
    IsPlain (seen ++ text) := by
  induction seen with
  | nil => exact h
  | cons c seen ih =>
    have hc : c ≠ '\x7b' := fun heq => hseen (by simp [heq])
    exact isPlain_cons_of_ne hc (ih fun hmem => hseen (List.mem_cons_of_mem _ hmem))

/-- An open brace that is not closed before the next one is text. -/
theorem isPlain_flush {seen text : List Char} (hseen : '\x7b' ∉ seen ∧ '\x7d' ∉ seen)
    (htext : Opens text) (h : IsPlain text) : IsPlain ('\x7b' :: (seen ++ text)) :=
  isPlain_open (isPlain_of_notMem hseen.1 h) fun _ hcs =>
    not_closes_of_opens hseen.2 htext hcs.notOpen

/-! ## Taking an expression apart -/

namespace Parts

variable {p : Parts}

theorem isCut_nil : IsCut ⟨[], []⟩ where
  front := isPlain_nil
  rest := by simp

theorem IsCut.after_of_notMem {seen : List Char} (h : p.IsCut) (hseen : '\x7b' ∉ seen) :
    (after seen p).IsCut where
  front := isPlain_of_notMem hseen h.front
  rest := h.rest

theorem IsCut.after_open {seen : List Char} (h : p.IsCut) (hseen : '\x7b' ∉ seen ∧ '\x7d' ∉ seen)
    (hopens : Opens p.front) : (after ('\x7b' :: seen) p).IsCut where
  front := isPlain_flush hseen hopens h.front
  rest := h.rest

/-- Braces around nothing are text. -/
theorem IsCut.after_braces (h : p.IsCut) : (after ['\x7b', '\x7d'] p).IsCut where
  front := by
    refine isPlain_open (isPlain_cons_of_ne (by decide) h.front) fun cs hcs hhead => ?_
    cases cs with
    | nil => exact hcs.ne_nil rfl
    | cons c cs =>
      obtain ⟨rfl, -⟩ := List.cons_prefix_cons.1 hhead
      exact hcs.notClose List.mem_cons_self
  rest := h.rest

theorem IsCut.hole {cs : List Char} (h : p.IsCut) (hcs : IsInner cs) :
    IsCut ⟨[], (cs, p.front) :: p.rest⟩ where
  front := isPlain_nil
  rest := List.forall_mem_cons.2 ⟨⟨hcs, h.front⟩, h.rest⟩

end Parts

/-- The pieces of an expression make its parts. After an open brace the text in front of the first
placeholder is empty or begins with a brace, so nothing that is pending can be closed in it. -/
theorem isCut_scan (pending : Pending) (cs : List Char) (h : pending.IsBraceless) :
    (ofPieces (scan pending cs)).IsCut ∧
      (pending ≠ none → Opens (ofPieces (scan pending cs)).front) := by
  fun_induction scan pending cs with
  | case1 pending =>
    rw [ofPieces_flush_nil]
    cases pending with
    | none => exact ⟨isCut_nil, by simp⟩
    | some seen => exact ⟨isCut_nil.after_open h.reverse (.inl rfl), fun _ => .inr ⟨_, rfl⟩⟩
  | case2 pending rest ih =>
    obtain ⟨hcut, hopens⟩ := ih isBraceless_nil
    rw [ofPieces_flush]
    cases pending with
    | none => exact ⟨hcut, by simp⟩
    | some seen => exact ⟨hcut.after_open h.reverse (hopens (by simp)), fun _ => .inr ⟨_, rfl⟩⟩
  | case3 c rest hc ih =>
    obtain ⟨hcut, -⟩ := ih h
    exact ⟨hcut.after_of_notMem (by simpa using Ne.symm hc), by simp⟩
  | case4 rest seen hc ih =>
    obtain ⟨hcut, -⟩ := ih isBraceless_none
    split
    · exact ⟨hcut.after_braces, fun _ => .inr ⟨_, rfl⟩⟩
    · rename_i hne
      have hinner : IsInner seen.reverse := ⟨by simpa using hne, h.reverse.1, h.reverse.2⟩
      exact ⟨hcut.hole hinner, fun _ => .inl rfl⟩
  | case5 c rest hc seen hs ih =>
    obtain ⟨hcut, hopens⟩ := ih (h.cons hc hs)
    exact ⟨hcut, fun _ => hopens (by simp)⟩

theorem chars_after (text : List Char) (p : Parts) : (after text p).chars = text ++ p.chars := by
  simp [after, Parts.chars]

theorem chars_ofPieces (ps : List Piece) : (ofPieces ps).chars = ps.flatMap Piece.chars := by
  induction ps with
  | nil => rfl
  | cons piece rest ih =>
    rw [List.flatMap_cons, ← ih]
    cases piece with
    | text cs => exact chars_after cs _
    | hole cs => simp [ofPieces_hole, Parts.chars, placeholder, Piece.chars]

/-- An expression comes apart into the parts that its pieces make. -/
theorem splits_pieces (expression : String) :
    (ofPieces (pieces expression)).Splits expression.toList where
  chars_eq := by rw [chars_ofPieces, flatMap_pieces]
  isCut := (isCut_scan none _ isBraceless_none).1

/-! ## One way only -/

section Steps

variable (pending : Pending) (seen : List Char) (c : Char) (rest : List Char)

theorem scan_nil : scan pending [] = flush pending := by
  cases pending <;> rfl

theorem scan_open : scan pending ('\x7b' :: rest) = flush pending ++ scan (some []) rest := by
  cases pending <;> rfl

theorem scan_none (hc : c ≠ '\x7b') : scan none (c :: rest) = .text [c] :: scan none rest := by
  rw [scan, if_neg hc]

theorem scan_close :
    scan (some seen) ('\x7d' :: rest) =
      (if seen.isEmpty then .text ['\x7b', '\x7d'] else .hole seen.reverse) :: scan none rest :=
  rfl

theorem scan_some (hopen : c ≠ '\x7b') (hclose : c ≠ '\x7d') :
    scan (some seen) (c :: rest) = scan (some (c :: seen)) rest := by
  rw [scan, if_neg hopen]
  exact if_neg hclose

end Steps

/-- A text without placeholders stays text, if what follows is nothing or begins with a brace. -/
theorem ofPieces_scan_append {pending : Pending} (text tail : List Char) (h : pending.IsBraceless)
    (hplain : IsPlain (pending.chars ++ text)) (htail : Opens tail) :
    ofPieces (scan pending (text ++ tail)) =
      after (pending.chars ++ text) (ofPieces (scan none tail)) := by
  induction text generalizing pending with
  | nil =>
    rw [List.nil_append, List.append_nil]
    rcases htail with rfl | ⟨rest, rfl⟩
    · rw [scan_nil, scan_nil, ofPieces_flush_nil]
      rfl
    · rw [scan_open, scan_open, ofPieces_flush]
      rfl
  | cons c text ih =>
    rw [List.cons_append]
    by_cases hopen : c = '\x7b'
    · subst hopen
      have hrest : IsPlain (Pending.chars (some []) ++ text) :=
        hplain.of_suffix (List.suffix_append _ _)
      rw [scan_open, ofPieces_flush, ih isBraceless_nil hrest]
      simp [Pending.chars]
    · cases pending with
      | none =>
        have hrest : IsPlain (Pending.chars none ++ text) :=
          hplain.of_suffix (List.suffix_cons c text)
        rw [scan_none c _ hopen, ofPieces_text, ih isBraceless_none hrest]
        rfl
      | some seen =>
        by_cases hclose : c = '\x7d'
        · subst hclose
          have hempty : seen = [] := by
            by_contra hne
            have hinner : IsInner seen.reverse := ⟨by simpa using hne, h.reverse.1, h.reverse.2⟩
            exact hplain _ hinner ⟨[], text, by simp [Pending.chars, placeholder]⟩
          subst hempty
          have hrest : IsPlain (Pending.chars none ++ text) :=
            hplain.of_suffix ⟨['\x7b', '\x7d'], by simp [Pending.chars]⟩
          rw [scan_close, List.isEmpty_nil, if_pos rfl, ofPieces_text, ih isBraceless_none hrest]
          simp [Pending.chars]
        · have hchars : Pending.chars (some (c :: seen)) ++ text =
              Pending.chars (some seen) ++ c :: text := by
            simp [Pending.chars]
          rw [scan_some seen c _ hopen hclose, ih (h.cons hopen hclose) (hchars ▸ hplain), hchars]

theorem scan_seen (seen cs rest : List Char) (hcs : '\x7b' ∉ cs ∧ '\x7d' ∉ cs) :
    scan (some seen) (cs ++ rest) = scan (some (cs.reverse ++ seen)) rest := by
  induction cs generalizing seen with
  | nil => rfl
  | cons c cs ih =>
    obtain ⟨⟨hopen, hopens⟩, hclose, hcloses⟩ : ('\x7b' ≠ c ∧ '\x7b' ∉ cs) ∧
        '\x7d' ≠ c ∧ '\x7d' ∉ cs := by
      simpa using hcs
    rw [List.cons_append, scan_some seen c _ (Ne.symm hopen) (Ne.symm hclose),
      ih (c :: seen) ⟨hopens, hcloses⟩]
    simp

/-- A placeholder is scanned as one piece. -/
theorem scan_placeholder {cs : List Char} (h : IsInner cs) (rest : List Char) :
    scan none (placeholder cs ++ rest) = .hole cs :: scan none rest := by
  rw [placeholder, List.cons_append, List.cons_append, List.append_assoc, scan_open,
    scan_seen [] cs _ ⟨h.notOpen, h.notClose⟩, List.append_nil, List.singleton_append, scan_close,
    if_neg (by simpa using h.ne_nil)]
  simp [flush]

theorem Parts.chars_mk_cons (front : List Char) (q : List Char × List Char)
    (others : List (List Char × List Char)) :
    chars ⟨front, q :: others⟩ = front ++ (placeholder q.1 ++ chars ⟨q.2, others⟩) := by
  simp [chars]

/-- The pieces of parts that are put together make these parts again. -/
theorem ofPieces_scan_chars {p : Parts} (h : p.IsCut) : ofPieces (scan none p.chars) = p := by
  obtain ⟨front, rest⟩ := p
  induction rest generalizing front with
  | nil =>
    have hscan := ofPieces_scan_append front [] isBraceless_none h.front (.inl rfl)
    simpa [chars, scan_nil, flush, ofPieces, after, Pending.chars] using hscan
  | cons q others ih =>
    obtain ⟨⟨hinner, hplain⟩, hothers⟩ := List.forall_mem_cons.1 h.rest
    have hscan := ofPieces_scan_append front (placeholder q.1 ++ chars ⟨q.2, others⟩)
      isBraceless_none h.front (.inr ⟨_, rfl⟩)
    rw [chars_mk_cons, hscan, scan_placeholder hinner, ofPieces_hole, ih q.2 ⟨hplain, hothers⟩]
    simp [after, Pending.chars]

/-- **There is one way to take an expression apart.** -/
theorem splits_iff {p : Parts} {expression : String} :
    p.Splits expression.toList ↔ p = ofPieces (pieces expression) := by
  constructor
  · rintro ⟨hchars, hcut⟩
    rw [pieces, ← hchars, ofPieces_scan_chars hcut]
  · rintro rfl
    exact splits_pieces expression

/-! ## Resolving -/

variable {fields : List Field} {expression : String}

/-- The reference that a placeholder holds. -/
def reference (cs : List Char) : String :=
  String.ofList (Text.stripBy Text.isBlank cs)

/-- What stands in a placeholder when it is resolved: the id of the field that it names, or what
stood there. -/
def exchanged (fields : List Field) (cs : List Char) : List Char :=
  match resolve? fields (reference cs) with
  | some f => f.id.toList
  | none => cs

theorem exchanged_of_some {cs : List Char} {f : Field}
    (h : resolve? fields (reference cs) = some f) : exchanged fields cs = f.id.toList := by
  rw [exchanged, h]

theorem exchanged_of_none {cs : List Char} (h : resolve? fields (reference cs) = none) :
    exchanged fields cs = cs := by
  rw [exchanged, h]

def Parts.exchange (fields : List Field) (p : Parts) : Parts :=
  ⟨p.front, p.rest.map fun q => (exchanged fields q.1, q.2)⟩

theorem Piece.resolve_hole (fields : List Field) (cs : List Char) :
    Piece.resolve fields (.hole cs) = placeholder (exchanged fields cs) := by
  rw [Piece.resolve, exchanged]
  cases hfield : resolve? fields (reference cs) with
  | none =>
    have hnone : (Piece.hole cs).reference?.bind (resolve? fields) = none := hfield
    rw [hnone]
    rfl
  | some f =>
    have hsome : (Piece.hole cs).reference?.bind (resolve? fields) = some f := hfield
    rw [hsome]
    rfl

theorem flatMap_resolve (ps : List Piece) :
    ps.flatMap (Piece.resolve fields) = ((ofPieces ps).exchange fields).chars := by
  induction ps with
  | nil => rfl
  | cons piece rest ih =>
    rw [List.flatMap_cons, ih]
    cases piece with
    | text cs => exact (chars_after cs _).symm
    | hole cs =>
      rw [Piece.resolve_hole, ofPieces_hole]
      simp [exchange, chars]

/-- Resolving exchanges what stands in the placeholders and keeps all text. -/
theorem toList_resolve (expression : String) :
    (resolve expression fields).toList =
      ((ofPieces (pieces expression)).exchange fields).chars := by
  rw [resolve, String.toList_ofList, flatMap_resolve]

/-- An id that can stand in a placeholder and is found there as it is. -/
structure IsPlaceable (id : String) : Prop where
  inner : IsInner id.toList
  strip_eq : Text.strip id = id

instance (id : String) : Decidable (IsPlaceable id) :=
  decidable_of_iff
    ((id.toList ≠ [] ∧ '\x7b' ∉ id.toList ∧ '\x7d' ∉ id.toList) ∧ Text.strip id = id)
    ⟨fun h => ⟨⟨h.1.1, h.1.2.1, h.1.2.2⟩, h.2⟩,
      fun h => ⟨⟨h.inner.ne_nil, h.inner.notOpen, h.inner.notClose⟩, h.strip_eq⟩⟩

theorem IsPlaceable.reference_eq {id : String} (h : IsPlaceable id) : reference id.toList = id :=
  h.strip_eq

theorem IsPlaceable.ne_empty {id : String} (h : IsPlaceable id) : id ≠ "" := by
  rintro rfl
  exact h.inner.ne_nil rfl

theorem isInner_exchanged (hids : ∀ f ∈ fields, IsPlaceable f.id) {cs : List Char}
    (h : IsInner cs) : IsInner (exchanged fields cs) := by
  cases hfield : resolve? fields (reference cs) with
  | none => rwa [exchanged_of_none hfield]
  | some f =>
    rw [exchanged_of_some hfield]
    exact (hids f (mem_of_resolve? hfield)).inner

theorem Parts.IsCut.exchange (hids : ∀ f ∈ fields, IsPlaceable f.id) {p : Parts} (h : p.IsCut) :
    (p.exchange fields).IsCut where
  front := h.front
  rest := List.forall_mem_map.2 fun q hq =>
    ⟨isInner_exchanged hids (h.rest q hq).1, (h.rest q hq).2⟩

/-- A placeholder names the field that it named before, by its id. -/
theorem resolve?_exchanged (hids : ∀ f ∈ fields, IsPlaceable f.id) (cs : List Char) :
    (resolve? fields (reference (exchanged fields cs))).map (·.id) =
      (resolve? fields (reference cs)).map (·.id) := by
  cases hfield : resolve? fields (reference cs) with
  | none => rw [exchanged_of_none hfield, hfield]
  | some f =>
    have hf := mem_of_resolve? hfield
    obtain ⟨g, hg, hid⟩ := exists_resolve?_id hf (hids f hf).ne_empty
    rw [exchanged_of_some hfield, (hids f hf).reference_eq, hg, Option.map_some, Option.map_some,
      hid]

theorem exchanged_exchanged (hids : ∀ f ∈ fields, IsPlaceable f.id) (cs : List Char) :
    exchanged fields (exchanged fields cs) = exchanged fields cs := by
  have hsame := resolve?_exchanged hids cs
  cases hfield : resolve? fields (reference cs) with
  | none => rw [exchanged_of_none hfield, exchanged_of_none hfield]
  | some f =>
    rw [hfield, Option.map_some] at hsame
    obtain ⟨g, hg, hid⟩ := Option.map_eq_some_iff.1 hsame
    rw [exchanged_of_some hg, exchanged_of_some hfield, hid]

theorem Parts.exchange_exchange (hids : ∀ f ∈ fields, IsPlaceable f.id) (p : Parts) :
    (p.exchange fields).exchange fields = p.exchange fields := by
  simp [exchange, Function.comp_def, exchanged_exchanged hids]

/-- The parts of a resolved expression are the exchanged parts of the expression. -/
theorem splits_resolve (hids : ∀ f ∈ fields, IsPlaceable f.id) (expression : String) :
    ((ofPieces (pieces expression)).exchange fields).Splits (resolve expression fields).toList where
  chars_eq := (toList_resolve expression).symm
  isCut := (splits_pieces expression).isCut.exchange hids

theorem resolve_resolve (hids : ∀ f ∈ fields, IsPlaceable f.id) (expression : String) :
    resolve (resolve expression fields) fields = resolve expression fields := by
  have hparts := splits_iff.1 (splits_resolve hids expression)
  rw [← String.toList_inj, toList_resolve, ← hparts, exchange_exchange hids, toList_resolve]

/-- What becomes of a placeholder and the text behind it: if it names a field it holds the id of
this field, else what it held before; either way it names the same id, or nothing as before. -/
structure Corresponds (fields : List Field) (a b : List Char × List Char) : Prop where
  text_eq : b.2 = a.2
  named : ∀ f, resolve? fields (reference a.1) = some f → b.1 = f.id.toList
  kept : resolve? fields (reference a.1) = none → b.1 = a.1
  same : (resolve? fields (reference b.1)).map (·.id) =
    (resolve? fields (reference a.1)).map (·.id)

theorem corresponds_exchanged (hids : ∀ f ∈ fields, IsPlaceable f.id)
    (q : List Char × List Char) : Corresponds fields q (exchanged fields q.1, q.2) where
  text_eq := rfl
  named := fun _ h => exchanged_of_some h
  kept := exchanged_of_none
  same := resolve?_exchanged hids q.1

/-- **Resolving keeps the text of an expression and the fields that its placeholders name.** The
expression comes apart in one way. The result comes apart into the same text in front and, one for
one, placeholders that name what they named, each with the same text behind it; resolving it again
changes nothing. -/
theorem resolve_preserves (hids : ∀ f ∈ fields, IsPlaceable f.id) (expression : String) :
    (∃! p : Parts, p.Splits expression.toList) ∧
    (∀ p : Parts, p.Splits expression.toList →
      ∃ q : Parts, q.Splits (resolve expression fields).toList ∧ q.front = p.front ∧
        List.Forall₂ (Corresponds fields) p.rest q.rest) ∧
    resolve (resolve expression fields) fields = resolve expression fields := by
  refine ⟨⟨_, splits_pieces expression, fun p hp => splits_iff.1 hp⟩, fun p hp => ?_,
    resolve_resolve hids expression⟩
  obtain rfl := splits_iff.1 hp
  refine ⟨_, splits_resolve hids expression, rfl, ?_⟩
  exact List.forall₂_map_right_iff.2 (List.forall₂_same.2 fun q _ => corresponds_exchanged hids q)

/-- Fields of which one has the name of another's id, and two share their id. -/
def overlappingFields : List Field :=
  [{ id := "a", name := "first" }, { id := "b", name := "a" }, { id := "a", name := "c" }]

/-- An expression with nested, empty and open braces. -/
def entangled : String :=
  "\x7b \x7bfirst\x7d\x7d + \x7b\tb \x7d - \x7bghost\x7d\x7b\x7d * \x7b\x7bc\x7d / \x7ba"

theorem resolve_preserves_entangled :
    (∀ f ∈ overlappingFields, IsPlaceable f.id) ∧
    resolve entangled overlappingFields =
      "\x7b \x7ba\x7d\x7d + \x7bb\x7d - \x7bghost\x7d\x7b\x7d * \x7b\x7ba\x7d / \x7ba" ∧
    (∃! p : Parts, p.Splits entangled.toList) ∧
    resolve (resolve entangled overlappingFields) overlappingFields =
      resolve entangled overlappingFields := by
  have hids : ∀ f ∈ overlappingFields, IsPlaceable f.id := by decide
  obtain ⟨hunique, -, hagain⟩ := resolve_preserves hids entangled
  exact ⟨hids, by decide, hunique, hagain⟩

end FormPress.Formula
