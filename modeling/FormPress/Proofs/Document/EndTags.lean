import FormPress.Proofs.Document.Body
import FormPress.Proofs.Document.Compile
import FormPress.Proofs.Document.Marks
import FormPress.Proofs.Document.Pixels
import FormPress.Proofs.Document.Script
import FormPress.Proofs.Field.WellFormed
import FormPress.Proofs.Style.Sheets

/-!
# End tags of a document

A document without markup of its author is quiet: its stylesheet and its script are calm, and all
other texts are escaped. So the elements that the compiler writes are the only ones that end. None
of them is a page that a field forged: no attribute in the markup of a field is a mark of a page,
whatever the texts of the field, since its names come from a fixed vocabulary without those of marks
and its classes are not that of the submit button.
-/

namespace FormPress

open Markup
open Text (Calm calm_ofList)

/-! ## Fields are no pages -/

theorem unmarked_of_mem_plainNames {a : Attribute} (h : a.name ∈ plainNames)
    (hclass : a ≠ submitClass) : a.Unmarked := by
  have hdisjoint : ∀ name ∈ plainNames, name ∉ markNames := by
    simp [plainNames, markNames]
  exact ⟨hdisjoint _ h, hclass⟩

theorem isApart_of_mem_plainNames {a : Attribute} (h : a.name ∈ plainNames) : a.IsApart := by
  have hnames : ∀ name ∈ plainNames, Attribute.IsApart ⟨name, a.value⟩ := by
    simp only [plainNames, List.forall_mem_cons, List.not_mem_nil, false_implies, implies_true,
      and_true]
    repeat' apply And.intro
    all_goals exact isApart_ofList rfl
  exact hnames _ h

theorem silent_of_mem_markerNames {a : Attribute} (h : a.name ∈ markerNames) : a.Silent := by
  have hnames : ∀ name ∈ markerNames, Attribute.Silent ⟨name, a.value⟩ := by
    simp only [markerNames, List.forall_mem_cons, List.not_mem_nil, false_implies, implies_true,
      and_true]
    repeat' apply And.intro
    all_goals exact silent_ofList rfl
  exact hnames _ h

namespace FieldView

variable {f : Field} {v : FieldView} {fields : List Field} {a : Attribute}

theorem Carries.silent (hv : f.view = .ok v) (h : v.Carries fields a) : a.Silent := by
  cases h with
  | plain h hclass => exact ⟨isApart_of_mem_plainNames h, unmarked_of_mem_plainNames h hclass⟩
  | marker hc he =>
    obtain ⟨d, -, rfl⟩ := exists_choice hv hc
    exact silent_of_mem_markerNames (Field.mem_markerNames he)
  | source hl hs => exact silent_ofList rfl

theorem Identifies.silent (h : v.Identifies a) : a.Silent := by
  cases h with
  | plain h hclass => exact ⟨isApart_of_mem_plainNames h, unmarked_of_mem_plainNames h hclass⟩
  | id => exact silent_ofList rfl
  | name => exact silent_ofList rfl
  | rules h => exact silent_ofList rfl

end FieldView

theorem isTagName_of_mem : ∀ name ∈ elementNames ++ voidNames, IsTagName name := by
  simp only [elementNames, voidNames, List.cons_append, List.nil_append, List.forall_mem_cons,
    List.not_mem_nil, false_implies, implies_true, and_true]
  repeat' apply And.intro
  all_goals exact isTagName_ofList rfl

/-- **A field holds no mark of a page.** -/
theorem Field.markless_render {o : RenderOptions} {fields : List Field} {f : Field} {m : Markup}
    (hraw : f.HoldsNoRaw o) (h : f.render o fields = .ok m) : m.Markless := by
  obtain ⟨v, hv, hroot⟩ := rooted_render hraw h
  have hsound : m.Sound Attribute.Silent := by
    refine hroot.sound.mono fun a ha => ?_
    rcases ha with ha | ha
    · exact ha.silent
    · exact ha.silent hv
  exact hsound.built isTagName_of_mem

/-! ## The stylesheet -/

namespace Form

theorem calm_stylesheet (form : Form) (pages : List Page) :
    Calm (form.stylesheet pages).result := by
  have htheme : Calm form.themeStyle.result := by
    rw [themeStyle]
    dsimp only
    refine Text.calm_joinGiven (calm_ofList rfl) ?_
    simp only [List.forall_mem_cons, List.not_mem_nil, false_implies, implies_true, and_true]
    exact ⟨Style.calm_write (Style.calm_themeSheet _), Style.calm_writeLayout _ _⟩
  rw [stylesheet, Logged.result_bind, Logged.result_pure]
  refine Text.calm_joinGiven (calm_ofList rfl) ?_
  simp only [List.forall_mem_cons, List.not_mem_nil, false_implies, implies_true, and_true]
  exact ⟨htheme, Style.calm_writeGrid _ _, Style.calm_writePaging _,
    form.animations.calm_writeStyle⟩

end Form

/-! ## Quiet documents -/

namespace DocumentParts

variable {d : DocumentParts}

theorem quiet_styleElement (hstyle : Calm d.stylesheet) : d.styleElement.Quiet := by
  have hrules : Calm (if d.form.theme.customCss = "" then ""
      else Style.block d.form.theme.customCss ++ "\n") := by
    split
    · exact Text.calm_empty
    · exact Style.calm_block _
  have htext : Calm ("\n" ++ d.stylesheet ++ "\n" ++ (if d.form.theme.customCss = "" then ""
      else Style.block d.form.theme.customCss ++ "\n")) :=
    ((Calm.append (calm_ofList rfl) hstyle).append (calm_ofList rfl)).append hrules
  rw [styleElement, quiet_element, List.forall_mem_singleton, quiet_raw]
  exact ⟨isName_ofList rfl, by simp, htext⟩

theorem quiet_scriptElement (hscript : Calm d.script) : d.scriptElement.Quiet := by
  have htext : Calm ("\n(function () \x7b\n\"use strict\";\n" ++ d.script ++
      "\nrefreshConditions();\n\x7d)();\n") :=
    (Calm.append (calm_ofList rfl) hscript).append (calm_ofList rfl)
  rw [scriptElement, quiet_element, List.forall_mem_singleton, quiet_raw]
  exact ⟨isName_ofList rfl, by simp, htext⟩

/-- What stands in the head of a document. -/
def headItems (d : DocumentParts) : List Markup :=
  onLines 0
    ([.void "meta" [attr "charset" "UTF-8"],
      .void "meta"
        [attr "name" "viewport", attr "content" "width=device-width, initial-scale=1.0"],
      label "title" [] d.form.title] ++
      ((given? d.fontStylesheet).toList.flatMap fun url =>
        [.void "link" [attr "rel" "preconnect", attr "href" "https://fonts.googleapis.com"],
         stylesheetLink url]) ++
      (d.form.theme.cursiveFontUrl?.toList.map stylesheetLink)) ++
    newline 0 :: d.form.pixels.markup ++ [newline 0, d.styleElement, newline 0]

theorem head_eq (d : DocumentParts) : d.head = .element "head" [] d.headItems := rfl

theorem quiet_headItems (hstyle : Calm d.stylesheet)
    (hcustom : given? d.form.pixels.customScripts = none) : ∀ m ∈ d.headItems, m.Quiet := by
  have hpixels := Pixels.quiet_markup hcustom
  simp only [headItems, stylesheetLink, attr, quiet_void, quiet_label, quiet_newline,
    quiet_onLines, quiet_styleElement hstyle, List.cons_append, List.forall_mem_append,
    List.forall_mem_cons, List.forall_mem_map, List.forall_mem_flatMap, List.not_mem_nil,
    false_implies, implies_true, and_true, true_and]
  refine ⟨⟨⟨?_, ?_⟩, ⟨?_, ?_, ?_⟩, ?_, fun _ _ => ?_, fun _ _ => ?_⟩, hpixels⟩
  all_goals repeat' apply And.intro
  all_goals exact isName_ofList rfl

theorem quiet_body (hscript : Calm d.script)
    (hpages : ∀ page ∈ d.pages, ∀ m ∈ page.2, m.Framing) : d.body.Quiet := by
  have hframe : ∀ m ∈ d.frame, m.Quiet := fun m hm => (framing_frame hpages m hm).quiet
  rw [body, quiet_element, List.forall_mem_append, quiet_onLines, List.forall_mem_append,
    List.forall_mem_singleton, List.forall_mem_singleton]
  refine ⟨isName_ofList rfl, ?_, ⟨hframe, quiet_scriptElement hscript⟩,
    quiet_newline 0⟩
  split
  · simp
  · rw [List.forall_mem_singleton]
    exact isName_ofList rfl

/-- A document is quiet when its stylesheet, its script and its fields are. -/
theorem quiet_markup (hstyle : Calm d.stylesheet) (hscript : Calm d.script)
    (hcustom : given? d.form.pixels.customScripts = none)
    (hpages : ∀ page ∈ d.pages, ∀ m ∈ page.2, m.Framing) : ∀ m ∈ d.markup, m.Quiet := by
  have hhead : d.head.Quiet := by
    rw [head_eq, quiet_element]
    exact ⟨isName_ofList rfl, by simp, quiet_headItems hstyle hcustom⟩
  simp only [markup, attr, quiet_element, quiet_raw, quiet_newline, hhead,
    quiet_body hscript hpages, List.forall_mem_cons, List.not_mem_nil, false_implies,
    implies_true, and_true, true_and]
  exact ⟨calm_ofList rfl, isName_ofList rfl, isName_ofList rfl⟩

/-! ## The elements that end -/

variable {q : String → Bool}

theorem countP_singleton_toNat (q : String → Bool) (name : String) :
    [name].countP q = (q name).toNat := by
  rw [List.countP_singleton]
  cases q name
  all_goals rfl

theorem countP_endNames_headItems (htitle : q "title" = false)
    (hnoscript : q "noscript" = false) :
    (d.headItems.flatMap endNames).countP q =
      (q "style").toNat + d.form.pixels.scriptCount * (q "script").toNat := by
  have hpixels := d.form.pixels.countP_endNames_markup q hnoscript
  have hfonts : ((given? d.fontStylesheet).toList.flatMap fun url =>
      [.void "link" [attr "rel" "preconnect", attr "href" "https://fonts.googleapis.com"],
       stylesheetLink url]).flatMap endNames = [] := by
    rw [List.flatMap_assoc]
    simp [stylesheetLink]
  have hcursive : (d.form.theme.cursiveFontUrl?.toList.map stylesheetLink).flatMap endNames =
      [] := by
    simp [stylesheetLink]
  have hstyle : (endNames d.styleElement).countP q = (q "style").toNat := by
    rw [styleElement, endNames_element]
    simpa using countP_singleton_toNat q "style"
  simp only [headItems, endNames_void, endNames_label, endNames_newline,
    flatMap_endNames_onLines, List.flatMap_append, List.flatMap_cons, List.flatMap_nil,
    List.countP_append, List.countP_nil, countP_singleton_toNat, hpixels, hfonts, hcursive,
    hstyle, htitle, Bool.toNat_false]
  omega

theorem countP_endNames_body (hq : ∀ name, IsTagName name → q name = false)
    (hpages : ∀ page ∈ d.pages, ∀ m ∈ page.2, m.Framing) :
    (endNames d.body).countP q = (q "script").toNat := by
  have hbody : q "body" = false := hq _ (isTagName_ofList rfl)
  have hframe : (d.frame.flatMap endNames).countP q = 0 := by
    rw [List.countP_eq_zero, List.forall_mem_flatMap]
    intro m hm name hname
    simp [hq name (Built.of_mem_endNames (framing_frame hpages m hm) hname)]
  have hscript : (endNames d.scriptElement).countP q = (q "script").toNat := by
    rw [scriptElement, endNames_element]
    simpa using countP_singleton_toNat q "script"
  simp only [body, endNames_element, endNames_newline, flatMap_endNames_onLines,
    List.flatMap_append, List.flatMap_cons, List.flatMap_nil, List.countP_append, List.countP_nil,
    countP_singleton_toNat, hframe, hscript, hbody, Bool.toNat_false]
  omega

/-- Beside the tracking tags a document has one style and one script. -/
theorem countP_endNames_markup (hq : ∀ name, IsTagName name → q name = false)
    (hpages : ∀ page ∈ d.pages, ∀ m ∈ page.2, m.Framing) :
    (d.markup.flatMap endNames).countP q =
      (q "style").toNat + (1 + d.form.pixels.scriptCount) * (q "script").toNat := by
  have hhtml : q "html" = false := hq _ (isTagName_ofList rfl)
  have hhead : q "head" = false := hq _ (isTagName_ofList rfl)
  have hitems := countP_endNames_headItems (d := d) (hq "title" (isTagName_ofList rfl))
    (hq "noscript" (isTagName_ofList rfl))
  simp only [markup, head_eq, endNames_element, endNames_raw, endNames_newline,
    List.flatMap_cons, List.flatMap_nil, List.countP_append, List.countP_nil,
    countP_singleton_toNat, hitems, countP_endNames_body hq hpages, hhtml, hhead,
    Bool.toNat_false]
  rw [Nat.add_mul]
  omega

end DocumentParts

/-! ## Compiled documents -/

/-- The number of places in a document at which an end tag with a name begins, in either case. -/
def endTagCount (name html : String) : Nat :=
  Text.occurrences (Text.endTagPattern name.toList) html.toList

namespace Form

variable {form : Form} {settings : Settings} {logo : Option String} {html : String}

section Parts

variable {rendered : List (Page × List Markup)}

theorem calm_stylesheet_parts : Calm (form.parts settings logo rendered).stylesheet := by
  dsimp only [parts]
  exact form.calm_stylesheet (paginate form.fields)

theorem calm_script_parts : Calm (form.parts settings logo rendered).script := by
  dsimp only [parts]
  exact form.calm_script settings (paginate form.fields)

/-- The fixed parts of a document are calm by themselves, so it is quiet when its fields are. -/
theorem quietList_parts (hcustom : given? form.pixels.customScripts = none)
    (hpages : ∀ page ∈ rendered, ∀ m ∈ page.2, m.Framing) :
    QuietList (form.parts settings logo rendered).markup := by
  rw [quietList_iff]
  exact DocumentParts.quiet_markup calm_stylesheet_parts calm_script_parts hcustom hpages

/-- The end tags under the name of a style or a script are those of the compiler. -/
theorem endTagCount_parts (hcustom : given? form.pixels.customScripts = none)
    (hpages : ∀ page ∈ rendered, ∀ m ∈ page.2, m.Framing) {name : String}
    (hname : name ∈ ["style", "script"]) :
    endTagCount name (form.parts settings logo rendered).write =
      (closes name.toList "style").toNat +
        (1 + form.pixels.scriptCount) * (closes name.toList "script").toNat := by
  have hother : ∀ other, IsTagName other → closes name.toList other = false :=
    fun other h => h.not_closes name hname
  have hletters : '>' ∉ name.toList := by
    rw [List.mem_pair] at hname
    rcases hname with rfl | rfl
    all_goals simp
  have hquiet : QuietList (form.parts settings logo rendered).markup :=
    quietList_parts hcustom hpages
  -- The written text has the end tags of its elements only, so it is enough to count in the tree.
  have hwrite := occurrences_writeList hletters hquiet []
  rw [List.append_nil, listEndNames_eq,
    DocumentParts.countP_endNames_markup hother hpages] at hwrite
  exact hwrite

end Parts

/-- **A document has one style and the scripts of the compiler.** No text of a form, of the settings
or of a logo opens or closes one, unless markup of the author is let through. -/
theorem endTagCount_compile (hcustom : given? form.pixels.customScripts = none)
    (hraw : settings.allowRawHtml = false ∨ ∀ f ∈ form.fields, f.kind ≠ some .htmlSnippet)
    (h : (form.compile settings logo).result = .ok html) :
    endTagCount "style" html = 1 ∧
      endTagCount "script" html =
        1 + (given? form.pixels.snapPixelId).isSome.toNat +
          (given? form.pixels.metaPixelId).isSome.toNat +
          2 * (given? form.pixels.googleAdsId).isSome.toNat := by
  obtain ⟨rendered, hrendered, rfl⟩ := compile_eq_ok h
  have hpages : ∀ page ∈ rendered, ∀ m ∈ page.2, m.Framing := by
    intro page hpage m hm
    obtain ⟨f, hf, hrender⟩ := exists_field hrendered hpage hm
    have hmarkless := Field.markless_render (hraw.imp_right fun hkinds => hkinds f hf) hrender
    exact hmarkless.framing
  have hstyle : closes "style".toList "style" = true := closes_ofList rfl
  have hother : closes "style".toList "script" = false := closes_ofList rfl
  have hscript : closes "script".toList "script" = true := closes_ofList rfl
  have hother' : closes "script".toList "style" = false := closes_ofList rfl
  rw [endTagCount_parts hcustom hpages (by simp), endTagCount_parts hcustom hpages (by simp),
    hstyle, hother, hscript, hother', Pixels.scriptCount, Bool.toNat_true, Bool.toNat_false]
  omega

/-- A form whose texts look like end tags. -/
def closingForm : Form :=
  { title := "</title></script>"
    fields := [{ id := "f", name := "f", kindName := "text", label := "</STYLE>",
                 defaultValue := some "</script>" }]
    theme := { customCss := "a \x7b\x7d </style><script>", primaryColor := "red</style>" }
    pixels := { snapPixelId := some "</script>", googleAdsId := some "</script>" } }

theorem endTagCount_closingForm :
    ∃ html, (closingForm.compile {} none).result = .ok html ∧
      endTagCount "style" html = 1 ∧ endTagCount "script" html = 4 := by
  have hrender : ∀ f ∈ closingForm.fields,
      ∃ m, f.render (closingForm.renderOptions {}) closingForm.fields = .ok m := by
    rw [closingForm, List.forall_mem_singleton]
    exact ⟨_, rfl⟩
  obtain ⟨html, h⟩ := exists_compile none (checkReferences_lenient closingForm) hrender
  exact ⟨html, h, endTagCount_compile rfl (.inl rfl) h⟩

end Form

end FormPress
