import FormPress.Proofs.Style.Pieces
import FormPress.Proofs.Text.Lines
import FormPress.Proofs.Text.Splits

/-!
# Reading the rules of a stylesheet

A stylesheet without remarks and quoted texts is read as a sequence of blocks: what stands in front
of a pair of braces, and what stands between them, other pairs included. From a written sheet every
item is read back, and from the block of a rule its declarations, as long as braces stand only where
the writer puts them.
-/

namespace FormPress.Style

/-! ## Blocks -/

/-- What stands in front of a pair of braces, and what stands between them. -/
structure Block where
  head : List Char
  body : List Char
deriving DecidableEq

/-- A text that is being read: the blocks so far, the head and the body of the next one, and the
number of braces that are open. -/
structure Scan where
  blocks : List Block := []
  head : List Char := []
  body : List Char := []
  depth : Nat := 0

def Scan.step (s : Scan) (c : Char) : Scan :=
  if s.depth = 0 then
    if c = '\x7b' then { s with depth := 1 } else { s with head := s.head ++ [c] }
  else if c = '\x7b' then { s with body := s.body ++ [c], depth := s.depth + 1 }
  else if c = '\x7d' then
    if s.depth = 1 then { blocks := s.blocks ++ [⟨Text.stripBy Text.isBlank s.head, s.body⟩] }
    else { s with body := s.body ++ [c], depth := s.depth - 1 }
  else { s with body := s.body ++ [c] }

def Scan.run (s : Scan) (text : List Char) : Scan :=
  text.foldl Scan.step s

/-- The blocks of a stylesheet, their heads without the blanks around them. -/
def readBlocks (css : String) : List Block :=
  (Scan.run {} css.toList).blocks

theorem Scan.run_append (s : Scan) (text rest : List Char) :
    s.run (text ++ rest) = (s.run text).run rest :=
  List.foldl_append

theorem Scan.run_singleton (s : Scan) (c : Char) : s.run [c] = s.step c := rfl

/-! ## Texts between braces -/

/-- A text without braces. -/
def Unbraced (text : List Char) : Prop :=
  '\x7b' ∉ text ∧ '\x7d' ∉ text

instance (text : List Char) : Decidable (Unbraced text) :=
  inferInstanceAs (Decidable (_ ∧ _))

/-- A text that stands between braces as it is. -/
def Balanced (text : List Char) : Prop :=
  ∀ s : Scan, 0 < s.depth → s.run text = { s with body := s.body ++ text }

variable {text rest head body : List Char} {c : Char}

theorem unbraced_append : Unbraced (text ++ rest) ↔ Unbraced text ∧ Unbraced rest := by
  simp only [Unbraced, List.mem_append, not_or]
  exact and_and_and_comm

theorem balanced_nil : Balanced [] := by
  intro s _
  simp [Scan.run]

theorem Balanced.append (h : Balanced text) (hrest : Balanced rest) : Balanced (text ++ rest) := by
  intro s hs
  rw [Scan.run_append, h s hs, hrest { s with body := s.body ++ text } hs]
  simp only [List.append_assoc]

theorem balanced_singleton (hopen : c ≠ '\x7b') (hclose : c ≠ '\x7d') : Balanced [c] := by
  intro s hs
  rw [Scan.run_singleton, Scan.step, if_neg (Nat.ne_of_gt hs), if_neg hopen, if_neg hclose]

theorem Unbraced.balanced (h : Unbraced text) : Balanced text := by
  induction text with
  | nil => exact balanced_nil
  | cons c rest ih =>
    obtain ⟨hc, hrest⟩ := unbraced_append.1 (show Unbraced ([c] ++ rest) from h)
    simp only [Unbraced, List.mem_singleton] at hc
    exact (balanced_singleton (Ne.symm hc.1) (Ne.symm hc.2)).append (ih hrest)

/-- Braces around a text that stands between braces. -/
theorem Balanced.braced (h : Balanced text) : Balanced ('\x7b' :: (text ++ ['\x7d'])) := by
  intro s hs
  have hopen : s.step '\x7b' = { s with body := s.body ++ ['\x7b'], depth := s.depth + 1 } := by
    rw [Scan.step, if_neg (Nat.ne_of_gt hs), if_pos rfl]
  have hinner := h { s with body := s.body ++ ['\x7b'], depth := s.depth + 1 } (Nat.succ_pos _)
  rw [← List.singleton_append, Scan.run_append, Scan.run_singleton, hopen, Scan.run_append, hinner,
    Scan.run_singleton, Scan.step]
  dsimp only
  rw [if_neg (Nat.succ_ne_zero _), if_neg (by decide), if_pos rfl, if_neg (by omega),
    Nat.add_sub_cancel]
  simp only [List.append_assoc, List.cons_append, List.nil_append]

theorem balanced_concat {texts : List String} (h : ∀ t ∈ texts, Balanced t.toList) :
    Balanced (Text.concat texts).toList := by
  induction texts with
  | nil => exact balanced_nil
  | cons t rest ih =>
    obtain ⟨ht, hrest⟩ := List.forall_mem_cons.1 h
    rw [Text.concat_cons, String.toList_append]
    exact ht.append (ih hrest)

theorem balanced_join {separator : String} {texts : List String}
    (hseparator : Balanced separator.toList) (h : ∀ t ∈ texts, Balanced t.toList) :
    Balanced (Text.join separator texts).toList := by
  cases texts with
  | nil => exact balanced_nil
  | cons t rest =>
    obtain ⟨ht, hrest⟩ := List.forall_mem_cons.1 h
    rw [Text.join_cons, String.toList_append]
    refine ht.append (balanced_concat (List.forall_mem_map.2 fun u hu => ?_))
    rw [String.toList_append]
    exact hseparator.append (hrest u hu)

theorem balanced_spaced {s : String} (h : Balanced s.toList) :
    Balanced (" " ++ s ++ " ").toList := by
  have hspace : Balanced " ".toList := Unbraced.balanced (by decide)
  rw [String.toList_append, String.toList_append]
  exact (hspace.append h).append hspace

/-! ## Blocks that are written -/

theorem Scan.run_head (s : Scan) (hs : s.depth = 0) (h : Unbraced text) :
    s.run text = { s with head := s.head ++ text } := by
  induction text generalizing s with
  | nil => simp [Scan.run]
  | cons c rest ih =>
    obtain ⟨hc, hrest⟩ := unbraced_append.1 (show Unbraced ([c] ++ rest) from h)
    simp only [Unbraced, List.mem_singleton] at hc
    have hstep : s.step c = { s with head := s.head ++ [c] } := by
      rw [Scan.step, if_pos hs, if_neg (Ne.symm hc.1)]
    rw [← List.singleton_append, Scan.run_append, Scan.run_singleton, hstep,
      ih { s with head := s.head ++ [c] } hs hrest]
    simp only [List.append_assoc]

/-- Reading a block, from its head to its closing brace. -/
theorem Scan.run_block (blocks : List Block) (before : List Char) (hhead : Unbraced head)
    (hbody : Balanced body) :
    Scan.run { blocks := blocks, head := before } (head ++ '\x7b' :: (body ++ ['\x7d'])) =
      { blocks := blocks ++ [⟨Text.stripBy Text.isBlank (before ++ head), body⟩] } := by
  have hopen (h : List Char) : Scan.run { blocks := blocks, head := h } ['\x7b'] =
      { blocks := blocks, head := h, depth := 1 } := rfl
  rw [Scan.run_append, Scan.run_head _ rfl hhead, ← List.singleton_append, Scan.run_append, hopen,
    Scan.run_append, hbody _ Nat.one_pos]
  rfl

/-! ## Items -/

/-- The block of a rule on one line. -/
def ruleBlock (selector : String) (ds : List Declaration) : Block :=
  ⟨selector.toList, (" " ++ writeDeclarations ds ++ " ").toList⟩

/-- The block of the stages of an animation. -/
def stagesBlock (name : String) (frames : List (String × List Declaration)) : Block :=
  ⟨("@keyframes " ++ name).toList, (" " ++ Text.join " " (frames.map writeFrame) ++ " ").toList⟩

/-- The block of lines further in. -/
def linesBlock (head : String) (lines : List String) : Block :=
  ⟨head.toList, (Text.concat (lines.map fun l => "\n  " ++ l) ++ "\n").toList⟩

/-- The block of an item; a remark has none. -/
def Item.block? : Item → Option Block
  | .short selector ds => some (ruleBlock selector ds)
  | .long selector lines => some (linesBlock selector (lines.map writeDeclarations))
  | .media query rules =>
    some (linesBlock ("@media " ++ query) (rules.map fun r => writeShort r.1 r.2))
  | .keyframes name frames => some (stagesBlock name frames)
  | .comment _ => none

/-- A block that is read back from the text of an item. -/
structure Block.IsOf (b : Block) (i : Item) : Prop where
  block : i.block? = some b
  head : Unbraced b.head
  trimmed : Text.stripBy Text.isBlank b.head = b.head
  body : Balanced b.body

/-- An item is written as its block. -/
theorem write_of_block? {i : Item} {b : Block} (h : i.block? = some b) :
    i.write.toList = b.head ++ [' '] ++ '\x7b' :: (b.body ++ ['\x7d']) := by
  have hbody (head body : String) : (writeBody head body).toList =
      head.toList ++ [' '] ++ '\x7b' :: (body.toList ++ ['\x7d']) := by
    simp [writeBody]
  cases i with
  | comment s => exact nomatch h
  | short selector ds | keyframes name frames | long selector lines | media query rules =>
    obtain rfl := Option.some.inj h
    exact hbody _ _

/-- Reading an item behind some blank text. -/
theorem Block.IsOf.run {b : Block} {i : Item} (h : b.IsOf i) (blocks : List Block)
    {before : List Char} (hbefore : before = [] ∨ before = ['\n']) :
    Scan.run { blocks := blocks, head := before } i.write.toList =
      { blocks := blocks ++ [b] } := by
  have hhead : Unbraced (b.head ++ [' ']) := unbraced_append.2 ⟨h.head, by decide⟩
  have htrimmed : Text.stripBy Text.isBlank (before ++ (b.head ++ [' '])) = b.head := by
    have hinner := (Text.stripBy_concat_of_pos (p := Text.isBlank) (c := ' ') (by decide)
      b.head).trans h.trimmed
    rcases hbefore with rfl | rfl
    · exact hinner
    · exact (Text.stripBy_cons_of_pos (by decide) _).trans hinner
  rw [write_of_block? h.block, Scan.run_block blocks before hhead h.body, htrimmed]

theorem run_write_rest {sheet : Sheet} {found : List Block}
    (h : List.Forall₂ Block.IsOf found sheet) (blocks : List Block) :
    Scan.run { blocks := blocks } (Text.concat (sheet.map fun i => "\n" ++ i.write)).toList =
      { blocks := blocks ++ found } := by
  induction h generalizing blocks with
  | nil => simp [Scan.run]
  | @cons b i found sheet hb _ ih =>
    have hbreak : Scan.run { blocks := blocks } "\n".toList =
        { blocks := blocks, head := ['\n'] } := rfl
    rw [List.map_cons, Text.concat_cons, String.toList_append, String.toList_append,
      Scan.run_append, Scan.run_append, hbreak, hb.run blocks (.inr rfl), ih, List.append_assoc,
      List.singleton_append]

/-- **The items of a sheet are read back** from the written sheet, and from it with a line break at
its end. -/
theorem readBlocks_write {sheet : Sheet} {found : List Block}
    (h : List.Forall₂ Block.IsOf found sheet) : readBlocks (write sheet ++ "\n") = found := by
  have hend (blocks : List Block) : Scan.run { blocks := blocks } "\n".toList =
      { blocks := blocks, head := ['\n'] } := rfl
  have hwrite : Scan.run {} (write sheet).toList = { blocks := found } := by
    cases h with
    | nil => rfl
    | @cons b i found sheet hb hrest =>
      rw [write, List.map_cons, Text.join_cons, List.map_map, String.toList_append,
        Scan.run_append, hb.run [] (.inl rfl)]
      exact run_write_rest hrest [b]
  rw [readBlocks, String.toList_append, Scan.run_append, hwrite, hend]

/-! ## Declarations -/

/-- The declarations in the body of a rule: the parts between semicolons that have a colon. -/
def readDeclarations (body : List Char) : List Declaration :=
  (Text.splitAt ';' body).filterMap fun part => (Text.splitFirst ':' part).map fun p =>
    (String.ofList (Text.stripBy Text.isBlank p.1), String.ofList (Text.stripBy Text.isBlank p.2))

/-- A declaration that a written rule gives back. -/
structure IsPlain (d : Declaration) : Prop where
  property : Unbraced d.1.toList ∧ ':' ∉ d.1.toList ∧ ';' ∉ d.1.toList
  value : Unbraced d.2.toList ∧ ';' ∉ d.2.toList
  trimmed : Text.strip d.1 = d.1 ∧ Text.strip d.2 = d.2

instance (d : Declaration) : Decidable (IsPlain d) :=
  decidable_of_iff _ ⟨fun h : _ ∧ _ ∧ _ => ⟨h.1, h.2.1, h.2.2⟩,
    fun h => ⟨h.property, h.value, h.trimmed⟩⟩

theorem readDeclarations_cons {d : Declaration} (hd : IsPlain d) (rest : List Char) :
    readDeclarations ((" " ++ writeDeclaration d).toList ++ rest) = d :: readDeclarations rest := by
  obtain ⟨-, hcolon, hsemicolon⟩ := hd.property
  have hsplit : (" " ++ writeDeclaration d).toList ++ rest =
      (' ' :: d.1.toList ++ ':' :: ' ' :: d.2.toList) ++ ';' :: rest := by
    simp [writeDeclaration]
  have hnone : ';' ∉ ' ' :: d.1.toList ++ ':' :: ' ' :: d.2.toList := by
    simp [hsemicolon, hd.value.2]
  have hfront : ':' ∉ ' ' :: d.1.toList := by
    simp [hcolon]
  have hblank (s : String) : Text.stripBy Text.isBlank (' ' :: s.toList) =
      (Text.strip s).toList := by
    rw [Text.stripBy_cons_of_pos (by decide), Text.toList_strip]
  rw [readDeclarations, hsplit, Text.splitAt_append, Text.splitAt_of_notMem hnone,
    List.singleton_append, List.filterMap_cons, Text.splitFirst_append hfront, Option.map_some,
    hblank, hblank, hd.trimmed.1, hd.trimmed.2, String.ofList_toList, String.ofList_toList]
  rfl

/-- **The declarations of a rule are read back** from its body. -/
theorem readDeclarations_ruleBlock (selector : String) {ds : List Declaration}
    (h : ∀ d ∈ ds, IsPlain d) :
    readDeclarations (ruleBlock selector ds).body = ds := by
  have hconcat : readDeclarations ((Text.concat (ds.map fun d => " " ++ writeDeclaration d)).toList
      ++ [' ']) = ds := by
    induction ds with
    | nil => rfl
    | cons d rest ih =>
      obtain ⟨hd, hrest⟩ := List.forall_mem_cons.1 h
      rw [List.map_cons, Text.concat_cons, String.toList_append, List.append_assoc,
        readDeclarations_cons hd, ih hrest]
  cases ds with
  | nil => rfl
  | cons d rest =>
    have hjoin : " " ++ writeDeclarations (d :: rest) =
        Text.concat ((d :: rest).map fun d => " " ++ writeDeclaration d) := by
      rw [writeDeclarations, List.map_cons, Text.join_cons, List.map_cons, Text.concat_cons,
        List.map_map, String.append_assoc]
      rfl
    rw [ruleBlock, hjoin, String.toList_append]
    exact hconcat

/-! ## Items without other braces -/

theorem unbraced_writeDeclaration {d : Declaration} (h : IsPlain d) :
    Unbraced (writeDeclaration d).toList := by
  rw [writeDeclaration, String.toList_append, String.toList_append, String.toList_append,
    unbraced_append, unbraced_append, unbraced_append]
  exact ⟨⟨⟨h.property.1, by decide⟩, h.value.1⟩, by decide⟩

theorem isOf_short {selector : String} {ds : List Declaration}
    (hselector : Unbraced selector.toList) (htrimmed : Text.strip selector = selector)
    (hds : ∀ d ∈ ds, IsPlain d) :
    (ruleBlock selector ds).IsOf (.short selector ds) where
  block := rfl
  head := hselector
  trimmed := (Text.toList_strip selector).symm.trans (congrArg String.toList htrimmed)
  body := balanced_spaced (balanced_join (Unbraced.balanced (by decide))
    (List.forall_mem_map.2 fun d hd => (unbraced_writeDeclaration (hds d hd)).balanced))

theorem balanced_writeFrame {frame : String × List Declaration} (hname : Unbraced frame.1.toList)
    (hds : ∀ d ∈ frame.2, Unbraced d.1.toList ∧ Unbraced d.2.toList) :
    Balanced (writeFrame frame).toList := by
  have hinner : Balanced (Text.join "; " (frame.2.map fun d => d.1 ++ ":" ++ d.2)).toList := by
    refine balanced_join (Unbraced.balanced (by decide)) (List.forall_mem_map.2 fun d hd => ?_)
    rw [String.toList_append, String.toList_append]
    obtain ⟨hproperty, hvalue⟩ := hds d hd
    exact Unbraced.balanced (unbraced_append.2 ⟨unbraced_append.2 ⟨hproperty, by decide⟩, hvalue⟩)
  have hhead : Balanced (frame.1.toList ++ [' ']) :=
    hname.balanced.append (Unbraced.balanced (by decide))
  have hsplit : (writeFrame frame).toList = (frame.1.toList ++ [' ']) ++ '\x7b' ::
      ((" " ++ Text.join "; " (frame.2.map fun d => d.1 ++ ":" ++ d.2) ++ " ").toList ++
        ['\x7d']) := by
    simp [writeFrame, writeBody]
  rw [hsplit]
  exact hhead.append (balanced_spaced hinner).braced

theorem isOf_keyframes {name : String} {frames : List (String × List Declaration)}
    (hname : Unbraced name.toList)
    (htrimmed : Text.strip ("@keyframes " ++ name) = "@keyframes " ++ name)
    (hframes : ∀ f ∈ frames, Unbraced f.1.toList ∧
      ∀ d ∈ f.2, Unbraced d.1.toList ∧ Unbraced d.2.toList) :
    (stagesBlock name frames).IsOf (.keyframes name frames) where
  block := rfl
  head := by
    rw [stagesBlock, String.toList_append]
    exact unbraced_append.2 ⟨by decide, hname⟩
  trimmed := (Text.toList_strip _).symm.trans (congrArg String.toList htrimmed)
  body := balanced_spaced (balanced_join (Unbraced.balanced (by decide))
    (List.forall_mem_map.2 fun f hf => balanced_writeFrame (hframes f hf).1 (hframes f hf).2))

/-! ## Motions -/

/-- What stands in front of the name of the stages of a motion. -/
def stagesMark : List Char :=
  "@keyframes ".toList

/-- The name under which a block defines the stages of a motion. -/
def Block.definedName? (b : Block) : Option String :=
  if stagesMark.isPrefixOf b.head then some (String.ofList (b.head.drop stagesMark.length))
  else none

/-- The motions that a rule plays: the first word of each value of `animation`. -/
def Block.playedNames (b : Block) : List String :=
  if b.head.head? = some '@' then []
  else (readDeclarations b.body).filterMap fun d =>
    if d.1 = "animation" then some (String.ofList (d.2.toList.takeWhile (· != ' '))) else none

/-- The names of the motions that a stylesheet defines. -/
def definedNames (css : String) : List String :=
  (readBlocks css).filterMap Block.definedName?

/-- The names of the motions that the rules of a stylesheet play. -/
def playedNames (css : String) : List String :=
  (readBlocks css).flatMap Block.playedNames

/-- A stylesheet has a rule of this selector with these declarations and no others. -/
def HasRule (css selector : String) (ds : List Declaration) : Prop :=
  ∃ b ∈ readBlocks css, b.head = selector.toList ∧ readDeclarations b.body = ds

theorem definedName?_stagesBlock (name : String) (frames : List (String × List Declaration)) :
    (stagesBlock name frames).definedName? = some name := by
  have hhead : (stagesBlock name frames).head = stagesMark ++ name.toList :=
    String.toList_append
  rw [Block.definedName?, hhead, List.isPrefixOf_iff_prefix.2 (List.prefix_append _ _), if_pos rfl,
    List.drop_left, String.ofList_toList]

theorem playedNames_stagesBlock (name : String) (frames : List (String × List Declaration)) :
    (stagesBlock name frames).playedNames = [] := by
  have hhead : (stagesBlock name frames).head = '@' :: ("keyframes " ++ name).toList := by
    simp [stagesBlock]
  rw [Block.playedNames, hhead, List.head?_cons, if_pos rfl]

theorem definedName?_ruleBlock {selector : String} (h : selector.toList.head? ≠ some '@')
    (ds : List Declaration) : (ruleBlock selector ds).definedName? = none := by
  refine if_neg fun hmark => h ?_
  obtain ⟨rest, hrest⟩ := List.isPrefixOf_iff_prefix.1 hmark
  have hselector : selector.toList = stagesMark ++ rest := hrest.symm
  rw [hselector]
  rfl

theorem playedNames_ruleBlock {selector : String} (h : selector.toList.head? ≠ some '@')
    {ds : List Declaration} (hds : ∀ d ∈ ds, IsPlain d) :
    (ruleBlock selector ds).playedNames = ds.filterMap fun d =>
      if d.1 = "animation" then some (String.ofList (d.2.toList.takeWhile (· != ' '))) else none :=
    by
  have hhead : (ruleBlock selector ds).head = selector.toList := rfl
  rw [Block.playedNames, hhead, if_neg h, readDeclarations_ruleBlock selector hds]

end FormPress.Style
