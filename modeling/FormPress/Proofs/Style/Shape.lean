import FormPress.Document.Compile

/-!
# The shape of a stylesheet

The shape of a text is what it keeps of the characters that divide a stylesheet into rules and
declarations, close the style element around it or begin an escape, and of the control characters.
An authored value has an empty shape, so a stylesheet can be compared with another one text by text:
each is reduced to its bones, which have the shape of the text and nothing else of it.
-/

namespace FormPress.Style

/-! ## Shape of texts -/

/-- A character that divides rules and declarations, closes an element or begins an escape, or a
control character. -/
def isShaping (c : Char) : Bool :=
  [';', '\x7b', '\x7d', '<', '>', '\\'].contains c || c.toNat < 0x20 || c.toNat == 0x7F

/-- The characters of a text on which the structure of a stylesheet rests. -/
def shape (s : String) : List Char :=
  s.toList.filter isShaping

theorem shape_append (s t : String) : shape (s ++ t) = shape s ++ shape t := by
  rw [shape, String.toList_append, List.filter_append]
  rfl

/-- What the filter of authored values drops covers the shaping characters. -/
theorem endsValue_of_isShaping {c : Char} (h : isShaping c = true) : endsValue c = true := by
  simp only [isShaping, List.contains_cons, List.contains_nil, Bool.or_false] at h
  simpa only [endsValue, Bool.or_assoc] using h

theorem shape_value (s : String) : shape (value s) = [] := by
  rw [shape, value, String.toList_ofList, valueChars, List.filter_eq_nil_iff]
  intro c hc hshaping
  have hkept := (List.mem_filter.1 (Text.mem_of_mem_stripBy hc)).2
  rw [endsValue_of_isShaping hshaping] at hkept
  contradiction

/-! ## Bones -/

/-- The shape of a text, as a text. -/
def bones (s : String) : String :=
  String.ofList (shape s)

theorem shape_bones (s : String) : shape (bones s) = shape s := by
  simp only [bones, shape, String.toList_ofList, List.filter_filter, Bool.and_self]

theorem bones_append (s t : String) : bones (s ++ t) = bones s ++ bones t := by
  simp only [bones, shape_append, String.ofList_append]

theorem bones_value (s : String) : bones (value s) = "" := by
  rw [bones, shape_value, String.ofList_nil]

theorem bones_ofList {cs : List Char} (h : cs.all (fun c => !isShaping c) = true) :
    bones (String.ofList cs) = "" := by
  have hshape : shape (String.ofList cs) = [] := by
    rw [shape, String.toList_ofList, List.filter_eq_nil_iff]
    intro c hc
    simpa using List.all_eq_true.1 h c hc
  rw [bones, hshape, String.ofList_nil]

/-- Every text of a declaration reduced to its bones. -/
def Declaration.bare (d : Declaration) : Declaration :=
  (bones d.1, bones d.2)

/-- Every text of an item reduced to its bones. -/
def Item.bare : Item → Item
  | .short selector ds => .short (bones selector) (ds.map Declaration.bare)
  | .long selector lines => .long (bones selector) (lines.map (·.map Declaration.bare))
  | .media query rules =>
    .media (bones query) (rules.map fun r => (bones r.1, r.2.map Declaration.bare))
  | .keyframes name frames =>
    .keyframes (bones name) (frames.map fun f => (bones f.1, f.2.map Declaration.bare))
  | .comment s => .comment (bones s)

/-! ## The shape of a written sheet -/

theorem shape_concat (texts : List String) :
    shape (Text.concat texts) = texts.flatMap shape := by
  induction texts with
  | nil => rfl
  | cons s rest ih => rw [Text.concat_cons, shape_append, ih, List.flatMap_cons]

/-- Two joins have the same shape when their texts have, one by one. -/
theorem shape_join_congr (separator : String) {texts others : List String}
    (h : texts.map shape = others.map shape) :
    shape (Text.join separator texts) = shape (Text.join separator others) := by
  cases texts with
  | nil =>
    cases others with
    | nil => rfl
    | cons t rest => contradiction
  | cons s rest =>
    cases others with
    | nil => contradiction
    | cons t tail =>
      obtain ⟨hfirst, hrest⟩ := List.cons_eq_cons.1 h
      have hflat (xs : List String) : (xs.map (separator ++ ·)).flatMap shape =
          (xs.map shape).flatMap (shape separator ++ ·) := by
        simp only [List.flatMap_map, shape_append]
      rw [Text.join_cons, Text.join_cons, shape_append, shape_append, shape_concat, shape_concat,
        hflat, hflat, hfirst, hrest]

theorem shape_writeDeclarations_bare (ds : List Declaration) :
    shape (writeDeclarations (ds.map Declaration.bare)) = shape (writeDeclarations ds) := by
  apply shape_join_congr
  simp only [List.map_map]
  refine List.map_congr_left fun d _ => ?_
  simp only [Function.comp, writeDeclaration, Declaration.bare, shape_append, shape_bones]

theorem shape_writeShort_bare (selector : String) (ds : List Declaration) :
    shape (writeShort (bones selector) (ds.map Declaration.bare)) =
      shape (writeShort selector ds) := by
  simp only [writeShort, writeBody, shape_append, shape_bones, shape_writeDeclarations_bare]

theorem shape_writeFrame_bare (frame : String × List Declaration) :
    shape (writeFrame (bones frame.1, frame.2.map Declaration.bare)) = shape (writeFrame frame) := by
  have hstage : shape (Text.join "; " ((frame.2.map Declaration.bare).map fun d =>
      d.1 ++ ":" ++ d.2)) = shape (Text.join "; " (frame.2.map fun d => d.1 ++ ":" ++ d.2)) := by
    apply shape_join_congr
    simp only [List.map_map]
    refine List.map_congr_left fun d _ => ?_
    simp only [Function.comp, Declaration.bare, shape_append, shape_bones]
  simp only [writeFrame, writeBody, shape_append, shape_bones, hstage]

theorem shape_writeLines_congr {head other : String} {lines others : List String}
    (hhead : shape head = shape other) (h : lines.map shape = others.map shape) :
    shape (writeLines head lines) = shape (writeLines other others) := by
  have hflat (xs : List String) : (xs.map fun l => "\n  " ++ l).flatMap shape =
      (xs.map shape).flatMap (shape "\n  " ++ ·) := by
    simp only [List.flatMap_map, shape_append]
  simp only [writeLines, writeBody, shape_append, shape_concat, hflat, hhead, h]

theorem Item.shape_write_bare (i : Item) : shape i.bare.write = shape i.write := by
  cases i with
  | short selector ds => rw [Item.bare, Item.write, Item.write, shape_writeShort_bare]
  | long selector lines =>
    rw [Item.bare, Item.write, Item.write]
    apply shape_writeLines_congr (shape_bones selector)
    simp only [List.map_map, Function.comp_def, shape_writeDeclarations_bare]
  | media query rules =>
    rw [Item.bare, Item.write, Item.write]
    apply shape_writeLines_congr
    · rw [shape_append, shape_append, shape_bones]
    · simp only [List.map_map, Function.comp_def, shape_writeShort_bare]
  | keyframes name frames =>
    have hframes : shape (Text.join " " ((frames.map fun f =>
        (bones f.1, f.2.map Declaration.bare)).map writeFrame)) =
          shape (Text.join " " (frames.map writeFrame)) := by
      apply shape_join_congr
      simp only [List.map_map, Function.comp_def, shape_writeFrame_bare]
    simp only [Item.bare, Item.write, writeBody, shape_append, shape_bones, hframes]
  | comment s => simp only [Item.bare, Item.write, shape_append, shape_bones]

/-- A sheet has the shape of its bones. -/
theorem shape_write_bare (sheet : Sheet) :
    shape (write (sheet.map Item.bare)) = shape (write sheet) := by
  apply shape_join_congr
  simp only [List.map_map]
  exact List.map_congr_left fun i _ => i.shape_write_bare

/-- Sheets with the same bones are written in the same shape. -/
theorem shape_write_congr {sheet other : Sheet} (h : sheet.map Item.bare = other.map Item.bare) :
    shape (write sheet) = shape (write other) := by
  rw [← shape_write_bare sheet, h, shape_write_bare]

/-! ## The bones of a theme -/

theorem bones_name (a : Alignment) : bones a.name = "" := by
  cases a
  all_goals exact bones_ofList rfl

theorem bones_shadow (s : Shadow) : bones s.value = "" := by
  cases s
  all_goals exact bones_ofList rfl

theorem bones_append_eq_empty {s t : String} (hs : bones s = "") (ht : bones t = "") :
    bones (s ++ t) = "" := by
  rw [bones_append, hs, ht, String.append_empty]

theorem bones_gradient {first last : String} (hfirst : bones first = "") (hlast : bones last = "") :
    bones (gradient first last) = "" := by
  have hbegin : bones "linear-gradient(135deg, " = "" := bones_ofList rfl
  have hmiddle : bones " 0%, " = "" := bones_ofList rfl
  have hend : bones " 100%)" = "" := bones_ofList rfl
  unfold gradient
  exact bones_append_eq_empty (bones_append_eq_empty (bones_append_eq_empty
    (bones_append_eq_empty hbegin hfirst) hmiddle) hlast) hend

theorem bones_pageBackground (t : Theme) : bones (pageBackground t) = "" := by
  unfold pageBackground
  split
  · exact bones_ofList rfl
  · apply bones_gradient
    · exact bones_ofList rfl
    · exact bones_ofList rfl

theorem bones_headerPaddingTop (t : Theme) : bones t.headerPaddingTop = "" := by
  unfold Theme.headerPaddingTop
  split
  · exact bones_ofList rfl
  · exact bones_ofList rfl

theorem bare_themeVariables (t u : Theme) :
    (themeVariables t).map Item.bare = (themeVariables u).map Item.bare := by
  simp only [themeVariables, each, List.map_cons, List.map_nil, Item.bare, Declaration.bare,
    bones_value, bones_name, bones_shadow]

theorem bare_pageRules (t u : Theme) :
    (pageRules t).map Item.bare = (pageRules u).map Item.bare := by
  simp only [pageRules, each, List.map_cons, List.map_nil, Item.bare, Declaration.bare,
    bones_pageBackground]

theorem bare_headerRules (t u : Theme) :
    (headerRules t).map Item.bare = (headerRules u).map Item.bare := by
  simp only [headerRules, each, List.map_cons, List.map_nil, Item.bare, Declaration.bare,
    bones_append, bones_headerPaddingTop]

theorem bare_themeSheet (t u : Theme) :
    (themeSheet t).map Item.bare = (themeSheet u).map Item.bare := by
  simp only [themeSheet, List.map_append, bare_themeVariables t u, bare_pageRules t u,
    bare_headerRules t u]

theorem bare_gridRules (l : GridLayout) (gap other : String) :
    (gridRules l (value gap)).map Item.bare = (gridRules l (value other)).map Item.bare := by
  cases l
  all_goals
    simp only [gridRules, gridOf, oneColumnBelow, List.map_cons, List.map_nil, Item.bare,
      Declaration.bare, bones_value]

/-! ## The stylesheet of theme and layout -/

/-- The stylesheet of a theme and, where the layout has rules, that of the layout behind it. -/
def writeTheme (t : Theme) (l : PageLayout) (i : LayoutImage) : String :=
  Text.joinGiven "\n" [write (themeSheet t), writeLayout l i]

theorem write_themeSheet_ne_empty (t : Theme) : write (themeSheet t) ≠ "" := by
  have hroot : ∃ rest, write (themeSheet t) = ":root" ++ rest := by
    simp only [write, themeSheet, themeVariables, List.cons_append, List.map_cons, Text.join_cons,
      Item.write, writeLines, writeBody, String.append_assoc]
    exact ⟨_, rfl⟩
  obtain ⟨rest, hrest⟩ := hroot
  rw [hrest]
  intro hempty
  have hroot : ":root" = "" := (String.append_eq_empty_iff.1 hempty).1
  contradiction

/-- The rules of the theme come first; a line break stands before those of the layout. -/
theorem writeTheme_eq (t : Theme) (l : PageLayout) (i : LayoutImage) :
    writeTheme t l i =
      write (themeSheet t) ++ if writeLayout l i = "" then "" else "\n" ++ writeLayout l i := by
  have hgiven : (write (themeSheet t) != "") = true := bne_iff_ne.2 (write_themeSheet_ne_empty t)
  rw [writeTheme, Text.joinGiven, List.filter_cons, if_pos hgiven]
  by_cases h : writeLayout l i = ""
  · simp [h]
  · simp [h, Text.join_cons]

theorem themeStyle_result (form : Form) :
    form.themeStyle.result = writeTheme form.theme form.layout (LayoutImage.ofForm form) := by
  rw [Form.themeStyle, writeTheme]

/-- **No text of a theme changes the structure of the stylesheet.** The stylesheet of a form is that
of its theme, layout and layout image; under one layout and one image any two themes are written in
the same shape, and so are any two gaps in one arrangement of fields. -/
theorem shape_writeTheme :
    (∀ form : Form, form.themeStyle.result =
      writeTheme form.theme form.layout (LayoutImage.ofForm form)) ∧
    (∀ (t u : Theme) (l : PageLayout) (i : LayoutImage),
      shape (writeTheme t l i) = shape (writeTheme u l i)) ∧
    ∀ (l : GridLayout) (gap other : String),
      shape (writeGrid l gap) = shape (writeGrid l other) := by
  refine ⟨themeStyle_result, fun t u l i => ?_, fun l gap other => ?_⟩
  · rw [writeTheme_eq, writeTheme_eq, shape_append, shape_append,
      shape_write_congr (bare_themeSheet t u)]
  · rw [writeGrid, writeGrid, shape_append, shape_append,
      shape_write_congr (bare_gridRules l gap other)]

end FormPress.Style
