import FormPress.Proofs.Markup.EndTags
import FormPress.Proofs.Text.Places

/-!
# Scans of written markup

Markup without raw texts, as a whole document's body is, with elements closed in their start tags
beside those of fields. A scan goes over the written text and adds something up at each tag, in a
way that no text between the tags can change; then its result on the text is what the tags of the
tree add up to. Reading tags is a scan, and so is counting the places of a pattern.
-/

namespace FormPress.Markup

/-! ## Markup without raw texts -/

mutual

/-- No raw texts, names for which `N` holds, and attributes for which `P` holds. An element that is
closed in its start tag ends with a value. -/
def Built (N : String → Prop) (P : Attribute → Prop) : Markup → Prop
  | .text _ => True
  | .entity name => name ∈ entityNames
  | .raw _ => False
  | .element name attributes children =>
    N name ∧ (∀ a ∈ attributes, P a) ∧ BuiltList N P children
  | .void name attributes => N name ∧ ∀ a ∈ attributes, P a
  | .closed name attributes =>
    N name ∧ (∀ a ∈ attributes, P a) ∧ attributes ≠ [] ∧ ∀ a ∈ attributes, a.value ≠ none

/-- All pieces of a list are built so. -/
def BuiltList (N : String → Prop) (P : Attribute → Prop) : List Markup → Prop
  | [] => True
  | m :: rest => Built N P m ∧ BuiltList N P rest

end

variable {N : String → Prop} {P Q : Attribute → Prop}

theorem builtList_iff {ms : List Markup} : BuiltList N P ms ↔ ∀ m ∈ ms, Built N P m := by
  induction ms with
  | nil => simp [BuiltList]
  | cons m rest ih => simp [BuiltList, ih]

@[simp] theorem built_text (s : String) : Built N P (.text s) := trivial

@[simp] theorem built_element {name : String} {attributes : List Attribute}
    {children : List Markup} :
    Built N P (.element name attributes children) ↔
      N name ∧ (∀ a ∈ attributes, P a) ∧ ∀ m ∈ children, Built N P m := by
  rw [← builtList_iff]
  rfl

@[simp] theorem built_void {name : String} {attributes : List Attribute} :
    Built N P (.void name attributes) ↔ N name ∧ ∀ a ∈ attributes, P a :=
  Iff.rfl

@[simp] theorem built_closed {name : String} {attributes : List Attribute} :
    Built N P (.closed name attributes) ↔
      N name ∧ (∀ a ∈ attributes, P a) ∧ attributes ≠ [] ∧ ∀ a ∈ attributes, a.value ≠ none :=
  Iff.rfl

@[simp] theorem built_newline (indent : Nat) : Built N P (newline indent) := by simp [newline]

@[simp] theorem built_label {name : String} {attributes : List Attribute} {s : String} :
    Built N P (label name attributes s) ↔ N name ∧ ∀ a ∈ attributes, P a := by
  simp [label]

@[simp] theorem built_onLines {indent : Nat} {ms : List Markup} :
    (∀ m ∈ onLines indent ms, Built N P m) ↔ ∀ m ∈ ms, Built N P m :=
  forall_mem_onLines (built_newline indent)

@[simp] theorem built_block {indent : Nat} {name : String} {attributes : List Attribute}
    {children : List Markup} :
    Built N P (block indent name attributes children) ↔
      N name ∧ (∀ a ∈ attributes, P a) ∧ ∀ m ∈ children, Built N P m := by
  simp [block, or_imp, forall_and]

mutual

theorem Built.mono {N' : String → Prop} (hN : ∀ name, N name → N' name) (hPQ : ∀ a, P a → Q a)
    {m : Markup} (h : Built N P m) : Built N' Q m := by
  cases m with
  | text s => exact built_text s
  | entity name => exact h
  | raw s => exact h.elim
  | closed name attributes =>
    obtain ⟨hname, hattributes, hclosed⟩ := built_closed.1 h
    exact built_closed.2 ⟨hN _ hname, fun a ha => hPQ a (hattributes a ha), hclosed⟩
  | void name attributes =>
    rw [built_void] at h ⊢
    exact ⟨hN _ h.1, fun a ha => hPQ a (h.2 a ha)⟩
  | element name attributes children =>
    rw [Built] at h ⊢
    exact ⟨hN _ h.1, fun a ha => hPQ a (h.2.1 a ha), BuiltList.mono hN hPQ h.2.2⟩

theorem BuiltList.mono {N' : String → Prop} (hN : ∀ name, N name → N' name)
    (hPQ : ∀ a, P a → Q a) {ms : List Markup} (h : BuiltList N P ms) : BuiltList N' Q ms := by
  cases ms with
  | nil => trivial
  | cons m rest => exact ⟨Built.mono hN hPQ h.1, BuiltList.mono hN hPQ h.2⟩

end

mutual

/-- The vocabulary of fields is a part of any larger one. -/
theorem Sound.built (hN : ∀ name ∈ elementNames ++ voidNames, N name) {m : Markup}
    (h : Sound P m) : Built N P m := by
  cases m with
  | text s => exact built_text s
  | entity name =>
    rw [sound_entity] at h
    rwa [Built]
  | raw s => simp at h
  | closed name attributes => simp at h
  | void name attributes =>
    rw [sound_void] at h
    exact ⟨hN name (List.mem_append_right _ h.1), h.2⟩
  | element name attributes children =>
    rw [Sound] at h
    rw [Built]
    exact ⟨hN name (List.mem_append_left _ h.1), h.2.1, SoundList.built hN h.2.2⟩

theorem SoundList.built (hN : ∀ name ∈ elementNames ++ voidNames, N name) {ms : List Markup}
    (h : SoundList P ms) : BuiltList N P ms := by
  cases ms with
  | nil => trivial
  | cons m rest => exact ⟨Sound.built hN h.1, SoundList.built hN h.2⟩

end

mutual

/-- Markup without raw texts and with plain names is quiet. -/
theorem Built.quiet {m : Markup} (h : Built IsName (fun a => IsName a.name) m) : Quiet m := by
  cases m with
  | text s => exact quiet_text s
  | entity name => exact h
  | raw s => exact h.elim
  | closed name attributes =>
    obtain ⟨hname, hattributes, -⟩ := built_closed.1 h
    exact quiet_closed.2 ⟨hname, hattributes⟩
  | void name attributes => exact quiet_void.2 h
  | element name attributes children =>
    rw [Built] at h
    rw [Quiet]
    exact ⟨h.1, h.2.1, BuiltList.quiet h.2.2⟩

theorem BuiltList.quiet {ms : List Markup} (h : BuiltList IsName (fun a => IsName a.name) ms) :
    QuietList ms := by
  cases ms with
  | nil => trivial
  | cons m rest => exact ⟨Built.quiet h.1, BuiltList.quiet h.2⟩

end

mutual

/-- What holds at every name holds at the names of the end tags. -/
theorem Built.of_mem_endNames {m : Markup} (h : Built N P m) {name : String}
    (hname : name ∈ endNames m) : N name := by
  cases m with
  | element tag attributes children =>
    rw [Built] at h
    rw [endNames, List.mem_append, List.mem_singleton] at hname
    rcases hname with hname | rfl
    · exact BuiltList.of_mem_endNames h.2.2 hname
    · exact h.1
  | _ => simp at hname

theorem BuiltList.of_mem_endNames {ms : List Markup} (h : BuiltList N P ms) {name : String}
    (hname : name ∈ listEndNames ms) : N name := by
  cases ms with
  | nil => simp [listEndNames] at hname
  | cons m rest =>
    rw [listEndNames, List.mem_append] at hname
    rcases hname with hname | hname
    · exact Built.of_mem_endNames h.1 hname
    · exact BuiltList.of_mem_endNames h.2 hname

end

mutual

/-- What holds at every attribute of a tree holds at every attribute of its tags. -/
theorem Built.of_mem_tags {m : Markup} (h : Built N P m) {t : Tag} (ht : t ∈ tags m) :
    ∀ a ∈ t.attributes, P a := by
  cases m with
  | text s => simp at ht
  | entity name => simp at ht
  | raw s => simp at ht
  | closed name attributes =>
    rw [tags, List.mem_singleton] at ht
    subst ht
    exact (built_closed.1 h).2.1
  | void name attributes =>
    rw [tags, List.mem_singleton] at ht
    subst ht
    exact (built_void.1 h).2
  | element name attributes children =>
    rw [Built] at h
    rw [tags, List.mem_cons] at ht
    rcases ht with rfl | ht
    · exact h.2.1
    · exact BuiltList.of_mem_tags h.2.2 ht

theorem BuiltList.of_mem_tags {ms : List Markup} (h : BuiltList N P ms) {t : Tag}
    (ht : t ∈ listTags ms) : ∀ a ∈ t.attributes, P a := by
  cases ms with
  | nil => simp [listTags] at ht
  | cons m rest =>
    rw [listTags, List.mem_append] at ht
    rcases ht with ht | ht
    · exact Built.of_mem_tags h.1 ht
    · exact BuiltList.of_mem_tags h.2 ht

end

/-! ## Scans -/

/-- A scan of texts that starts in content. In front of a text that is `Ok` a piece of content or an
end tag changes nothing, and a start tag adds to the result. -/
structure Scan (N : String → Prop) (P : Attribute → Prop) {γ : Type} (scan : List Char → γ)
    (add : Tag → γ → γ) (Ok : List Char → Prop) : Prop where
  content : ∀ {s t : List Char}, '<' ∉ s → '"' ∉ s → Ok t → Ok (s ++ t) ∧ scan (s ++ t) = scan t
  startTag : ∀ {name : String} {attributes : List Attribute} {t : List Char}, N name →
    (∀ a ∈ attributes, P a) → Ok t → Ok ((startTag name attributes).toList ++ t) ∧
      scan ((startTag name attributes).toList ++ t) = add ⟨name, attributes⟩ (scan t)
  closedTag : ∀ {name : String} {attributes : List Attribute} {t : List Char}, N name →
    (∀ a ∈ attributes, P a) → attributes ≠ [] → (∀ a ∈ attributes, a.value ≠ none) → Ok t →
      Ok ((closedTag name attributes).toList ++ t) ∧
      scan ((closedTag name attributes).toList ++ t) = add ⟨name, attributes⟩ (scan t)
  endTag : ∀ {name : String} {t : List Char}, N name → Ok t → Ok ((endTag name).toList ++ t) ∧
    scan ((endTag name).toList ++ t) = scan t

namespace Scan

variable {γ : Type} {scan : List Char → γ} {add : Tag → γ → γ} {Ok : List Char → Prop}

/-- A scan of more markup is one of less. -/
theorem mono {N' : String → Prop} {P' : Attribute → Prop} (h : Scan N P scan add Ok)
    (hN : ∀ name, N' name → N name) (hP : ∀ a, P' a → P a) : Scan N' P' scan add Ok where
  content := h.content
  startTag := fun hname hattributes => h.startTag (hN _ hname) fun a ha => hP a (hattributes a ha)
  closedTag := fun hname hattributes =>
    h.closedTag (hN _ hname) fun a ha => hP a (hattributes a ha)
  endTag := fun hname => h.endTag (hN _ hname)

theorem notMem_entity {c : Char} (hc : c = '<' ∨ c = '"') {name : String}
    (h : name ∈ entityNames) : c ∉ (Markup.write (.entity name)).toList := by
  simp only [entityNames, List.mem_cons, List.not_mem_nil, or_false] at h
  rw [write_entity]
  rcases h with rfl | rfl | rfl | rfl
  all_goals rcases hc with rfl | rfl
  all_goals simp

-- The induction is on the tree, with any text behind it that the scan accepts.
mutual

/-- **On written markup a scan adds up the tags of the tree.** -/
theorem write (h : Scan N P scan add Ok) {m : Markup} (hm : Built N P m) {t : List Char}
    (ht : Ok t) :
    Ok ((Markup.write m).toList ++ t) ∧
      scan ((Markup.write m).toList ++ t) = (tags m).foldr add (scan t) := by
  cases m with
  | text s =>
    rw [write_text, toList_escape]
    exact h.content (notMem_flatMap_escapeChar (.inl rfl) _)
      (notMem_flatMap_escapeChar (.inr (.inr (.inl rfl))) _) ht
  | entity name =>
    rw [Built] at hm
    exact h.content (notMem_entity (.inl rfl) hm) (notMem_entity (.inr rfl) hm) ht
  | raw s => exact hm.elim
  | void name attributes =>
    rw [built_void] at hm
    rw [write_void]
    exact h.startTag hm.1 hm.2 ht
  | closed name attributes =>
    obtain ⟨hname, hattributes, hne, hvalued⟩ := built_closed.1 hm
    have hwrite : Markup.write (.closed name attributes) = Markup.closedTag name attributes := by
      simp [Markup.write, writeAfter]
    rw [hwrite]
    exact h.closedTag hname hattributes hne hvalued ht
  | element name attributes children =>
    rw [Built] at hm
    obtain ⟨hname, hattributes, hchildren⟩ := hm
    obtain ⟨hok, hend⟩ := h.endTag hname ht
    obtain ⟨hok, hinner⟩ := h.writeList hchildren hok
    obtain ⟨hok, hstart⟩ := h.startTag hname hattributes hok
    rw [write_element, String.toList_append, String.toList_append, List.append_assoc,
      List.append_assoc]
    refine ⟨hok, ?_⟩
    rw [hstart, hinner, hend, tags]
    rfl

theorem writeList (h : Scan N P scan add Ok) {ms : List Markup} (hms : BuiltList N P ms)
    {t : List Char} (ht : Ok t) :
    Ok ((Markup.writeList ms).toList ++ t) ∧
      scan ((Markup.writeList ms).toList ++ t) = (listTags ms).foldr add (scan t) := by
  cases ms with
  | nil => exact ⟨by simpa using ht, by simp [listTags]⟩
  | cons m rest =>
    obtain ⟨hok, hrest⟩ := h.writeList hms.2 ht
    obtain ⟨hok, hfirst⟩ := h.write hms.1 hok
    rw [writeList_cons, String.toList_append, List.append_assoc]
    refine ⟨hok, ?_⟩
    rw [hfirst, hrest, listTags, List.foldr_append]

end

end Scan

end FormPress.Markup
