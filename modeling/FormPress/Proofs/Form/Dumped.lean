import FormPress.Form.Load
import FormPress.Proofs.Form.Tidy
import FormPress.Proofs.Json.Printed
import FormPress.Proofs.Text.Utf8

/-!
# Dumped forms

The dump of a record passes the check of its kind and comes out as the record. Each record goes the
same way: its keys are the camel spellings of its attributes, so every attribute is found, and the
value of every attribute is a dump one level down. What a record needs for it is what is said of
loaded records.

So a form that came out of a file is dumped, written as a file and loaded from it, which gives the
form itself. The file is decoded to the text that was written, since it is UTF-8 and has no line
ends to unify; the text is read as the value that was dumped, which fits the reader; and the value
is loaded attribute by attribute. All that is needed of the form follows from its having been
loaded, apart from the names: a field with an id and an empty name takes the id for its name when it
is loaded, so a field with an id must have a name.
-/

namespace FormPress.Load

open Decode

/-! ## Records inside fields -/

theorem choiceRule_dump (r : ChoiceRule) : choiceRule (Dump.choiceRule r) = .valid r := by
  refine bind_members ["field_id", "operator", "value"] ?_ ?_ fun ms h => ?_
  · repeat' first | apply map_camel_cons | rfl
  · simp only [List.map_cons, List.map_nil]
    decide
  · simp only [List.map_cons, List.map_nil, List.cons.injEq, and_true] at h
    simp [field, h, innerText]

theorem choice_dump (c : Choice) : choice (Dump.choice c) = .valid c := by
  have hrule : optional choiceRule (Dump.optional Dump.choiceRule c.rule) = .valid c.rule :=
    optional_dump (fun _ => nofun) fun r _ => choiceRule_dump r
  refine bind_members ["label", "value", "address", "conditional_rule"] ?_ ?_ fun ms h => ?_
  · repeat' first | apply map_camel_cons | rfl
  · simp only [List.map_cons, List.map_nil]
    decide
  · simp only [List.map_cons, List.map_nil, List.cons.injEq, and_true] at h
    simp [field, h, innerText, hrule]

theorem choiceGroup_dump (g : ChoiceGroup) : choiceGroup (Dump.choiceGroup g) = .valid g := by
  refine bind_members ["source_value", "visible_option_values"] ?_ ?_ fun ms h => ?_
  · repeat' first | apply map_camel_cons | rfl
  · simp only [List.map_cons, List.map_nil]
    decide
  · simp only [List.map_cons, List.map_nil, List.cons.injEq, and_true] at h
    simp [field, h, innerText]

theorem dependentChoices_dump (d : DependentChoices) :
    dependentChoices (Dump.dependentChoices d) = .valid d := by
  have hgroups : list choiceGroup (Dump.list Dump.choiceGroup d.groups) = .valid d.groups :=
    list_dump fun g _ => choiceGroup_dump g
  refine bind_members ["source_field_id", "custom_source_values", "groups"] ?_ ?_ fun ms h => ?_
  · repeat' first | apply map_camel_cons | rfl
  · simp only [List.map_cons, List.map_nil]
    decide
  · simp only [List.map_cons, List.map_nil, List.cons.injEq, and_true] at h
    simp [field, h, innerText, hgroups]

theorem rule_dump (r : Rule) : rule (Dump.rule r) = .valid r := by
  refine bind_members ["depends_on_field_id", "operator", "value", "action", "action_value"]
    ?_ ?_ fun ms h => ?_
  · repeat' first | apply map_camel_cons | rfl
  · simp only [List.map_cons, List.map_nil]
    decide
  · simp only [List.map_cons, List.map_nil, List.cons.injEq, and_true] at h
    simp [field, required, h, innerText]

theorem lookup_dump {l : Lookup} (hl : (l.table.map Prod.fst).Nodup) :
    lookup (Dump.lookup l) = .valid l := by
  refine bind_members ["source_field_id", "lookup_data"] ?_ ?_ fun ms h => ?_
  · repeat' first | apply map_camel_cons | rfl
  · simp only [List.map_cons, List.map_nil]
    decide
  · simp only [List.map_cons, List.map_nil, List.cons.injEq, and_true] at h
    simp [field, h, innerText, table_dump .source hl]

theorem formula_dump (f : Formula) : formula (Dump.formula f) = .valid f := by
  refine bind_members ["expression", "referenced_field_ids"] ?_ ?_ fun ms h => ?_
  · repeat' first | apply map_camel_cons | rfl
  · simp only [List.map_cons, List.map_nil]
    decide
  · simp only [List.map_cons, List.map_nil, List.cons.injEq, and_true] at h
    simp [field, h, innerText]

/-! ## Records of the form -/

theorem theme_dump (t : Theme) : theme (Dump.theme t) = .valid t := by
  unfold theme Dump.theme
  dsimp only
  refine bind_members
    ["primary_color", "secondary_color", "font_family", "border_radius", "show_logo", "logo_url",
      "background_color", "form_background_color", "text_color", "label_color",
      "input_border_color", "input_background_color", "button_text_color", "form_width",
      "form_max_width", "form_padding", "input_padding", "label_font_size", "input_font_size",
      "form_shadow", "form_layout", "logo_max_width", "logo_top_padding", "logo_side_padding",
      "header_font_size", "header_font_weight", "header_font_style", "header_align", "label_align",
      "field_gap", "line_height", "custom_css", "header_cursive_enabled", "header_cursive_font",
      "header_cursive_part"] ?_ ?_ fun ms h => ?_
  · dsimp only
    repeat' first | apply map_camel_cons | rfl
  · simp only [List.map_cons, List.map_nil]
    decide
  · simp only [List.map_cons, List.map_nil, List.cons.injEq, and_true] at h
    simp [field, h, outerText]

theorem attributionDefaults_dump (a : AttributionDefaults) :
    attributionDefaults (Dump.attributionDefaults a) = .valid a := by
  refine bind_exactMembers ?_ fun ms h => ?_
  · simp only [List.map_cons, List.map_nil]
    decide
  · simp only [List.map_cons, List.map_nil, List.cons.injEq, and_true] at h
    simp [exactField, h, outerText]

theorem webhook_dump {w : Webhook} (hw : (w.headers.map Prod.fst).Nodup) :
    webhook (Dump.webhook w) = .valid w := by
  refine bind_members ["enabled", "url", "method", "headers", "include_utm_params", "token",
    "source_id", "redirect_url", "utm_param_defaults"] ?_ ?_ fun ms h => ?_
  · repeat' first | apply map_camel_cons | rfl
  · simp only [List.map_cons, List.map_nil]
    decide
  · simp only [List.map_cons, List.map_nil, List.cons.injEq, and_true] at h
    simp [field, h, outerText, table_dump .plain hw, attributionDefaults_dump]

theorem pixels_dump (p : Pixels) : pixels (Dump.pixels p) = .valid p := by
  refine bind_members ["snap_pixel_id", "meta_pixel_id", "google_ads_id",
    "google_ads_conversion_label", "custom_scripts"] ?_ ?_ fun ms h => ?_
  · repeat' first | apply map_camel_cons | rfl
  · simp only [List.map_cons, List.map_nil]
    decide
  · simp only [List.map_cons, List.map_nil, List.cons.injEq, and_true] at h
    simp [field, h, outerText]

theorem spreadsheet_dump (s : Spreadsheet) : spreadsheet (Dump.spreadsheet s) = .valid s := by
  unfold spreadsheet
  dsimp only
  refine bind_members ["enabled", "spreadsheet_id", "sheet_name"] ?_ ?_ fun ms h => ?_
  · repeat' first | apply map_camel_cons | rfl
  · simp only [List.map_cons, List.map_nil]
    decide
  · simp only [List.map_cons, List.map_nil, List.cons.injEq, and_true] at h
    simp [field, h, outerText]

theorem entrances_dump {e : Entrances} (he : e.IsLoaded) :
    entrances (Dump.entrances e) = .valid e := by
  unfold entrances
  dsimp only
  refine bind_members ["enabled", "logo", "title", "header", "fields", "footer", "easing",
    "duration", "stagger_delay"] ?_ ?_ fun ms h => ?_
  · repeat' first | apply map_camel_cons | rfl
  · simp only [List.map_cons, List.map_nil]
    decide
  · simp only [List.map_cons, List.map_nil, List.cons.injEq, and_true] at h
    simp [field, h, intAtLeast_int he.duration.1, intAtLeast_int he.staggerDelay.1]

/-! ## Fields and forms -/

variable {number : Binary64 → Json}

/-- A field with a name keeps it. -/
theorem withName_eq_self {ms : List (String × Json)} {id name : String}
    (hid : Table.lookup "id" ms = some (.string id))
    (hname : Table.lookup "name" ms = some (.string name)) (h : id ≠ "" → name ≠ "") :
    withName ms = ms := by
  have hgiven : (!(Json.string name).isGiven && (Json.string id).isGiven) = false := by
    simp only [Json.isGiven]
    grind
  simp [withName, hid, hname, hgiven]

theorem fieldOfMembers_dump {f : Field} {ms : List (String × Json)}
    (hnumber : Dump.IsSpelling number) (hf : f.IsLoaded)
    (hdump : Dump.fieldWith number f = .object ms) : fieldOfMembers ms = .valid f := by
  have hoptions : list choice (Dump.list Dump.choice f.options) = .valid f.options :=
    list_dump fun c _ => choice_dump c
  have hrules : list rule (Dump.list Dump.rule f.rules) = .valid f.rules :=
    list_dump fun r _ => rule_dump r
  have hlookup : optional lookup (Dump.optional Dump.lookup f.lookup) = .valid f.lookup :=
    optional_dump (fun _ => nofun) fun l hl => lookup_dump (hf.lookup l hl)
  have hformula : optional formula (Dump.optional Dump.formula f.formula) = .valid f.formula :=
    optional_dump (fun _ => nofun) fun g _ => formula_dump g
  have hdependent : optional dependentChoices (Dump.optional Dump.dependentChoices f.dependent) =
      .valid f.dependent :=
    optional_dump (fun _ => nofun) fun d _ => dependentChoices_dump d
  have hread : (members (.object ms)).bind fieldOfMembers = .valid f := by
    rw [← hdump]
    unfold fieldOfMembers Dump.fieldWith
    refine bind_members
      ["id", "name", "label", "type", "placeholder", "default_value", "help_text", "is_required",
        "is_hidden", "is_read_only", "is_disabled", "min_length", "max_length", "min", "max",
        "step", "pattern", "accept", "options", "conditional_rules", "lookup_config",
        "formula_config", "dependent_options_config", "css_class", "width", "autocomplete",
        "order"] ?_ ?_ fun ms h => ?_
    · repeat' first | apply map_camel_cons | rfl
    · simp only [List.map_cons, List.map_nil]
      decide
    · simp only [List.map_cons, List.map_nil, List.cons.injEq, and_true] at h
      simp [field, required, h, innerText, hoptions, hrules, hlookup, hformula, hdependent,
        optional_number hnumber hf.min, optional_number hnumber hf.max,
        optional_number hnumber hf.step, optional_number hnumber hf.width,
        boundedNumber_spelled hnumber hf.order]
  exact hread

theorem formField_dump {f : Field} (hnumber : Dump.IsSpelling number) (hf : f.IsLoaded)
    (hname : f.id ≠ "" → f.name ≠ "") : formField (Dump.fieldWith number f) = .valid f := by
  have htidy : Json.Tidy allowance 5 (Dump.fieldWith number f) := Dump.tidy_field hnumber hf
  obtain ⟨ms, hms⟩ : ∃ ms, Dump.fieldWith number f = .object ms := ⟨_, rfl⟩
  have hlookups : Table.lookup "id" ms = some (.string f.id) ∧
      Table.lookup "name" ms = some (.string f.name) := by
    cases hms
    exact ⟨rfl, rfl⟩
  rw [formField, htidy.distinctKeys_eq, hms, members, Checked.bind,
    withName_eq_self hlookups.1 hlookups.2 hname]
  exact fieldOfMembers_dump hnumber hf hms

/-- **The dump of a loaded form is loaded as that form.** -/
theorem form_dump {form : Form} (hnumber : Dump.IsSpelling number) (hform : form.IsLoaded)
    (hnames : ∀ f ∈ form.fields, f.id ≠ "" → f.name ≠ "") :
    Load.form (Dump.formWith number form) = .valid form := by
  have hfields : list formField (Dump.list (Dump.fieldWith number) form.fields) =
      .valid form.fields :=
    list_dump fun f hf => formField_dump hnumber (hform.fields f hf) (hnames f hf)
  have hheroes := intTable_dump .plain hform.pageHeroImages.1 hform.pageHeroImages.2
  have hx := hform.layoutImagePositionX
  have hy := hform.layoutImagePositionY
  have hwidth := hform.layoutImagePanelWidth
  unfold Load.form Dump.formWith
  dsimp only
  refine bind_members
    ["id", "title", "sub_header", "description", "venue", "date_time_stamp", "footer",
      "submit_button_text", "success_message", "redirect_url", "fields", "theme", "animations",
      "layout", "layout_image_url", "layout_image_fit", "layout_image_position_x",
      "layout_image_position_y", "layout_image_panel_width", "page_hero_images", "webhook_config",
      "pixel_config", "google_sheets_config", "created_at", "updated_at"] ?_ ?_ fun ms h => ?_
  · repeat' first | apply map_camel_cons | rfl
  · simp only [List.map_cons, List.map_nil]
    decide
  · simp only [List.map_cons, List.map_nil, List.cons.injEq, and_true] at h
    simp [field, h, outerText, hfields, theme_dump, entrances_dump hform.animations,
      hx.passes _ (number_spelled hnumber hx.isCanonical),
      hy.passes _ (number_spelled hnumber hy.isCanonical),
      hwidth.passes _ (number_spelled hnumber hwidth.isCanonical), hheroes,
      webhook_dump hform.headers, pixels_dump, spreadsheet_dump]

end FormPress.Load

/-! ## Forms that are loaded again -/

namespace FormPress

open Dump (IsSpelling)

variable {number : Binary64 → Json} {spacing : Json.Spacing}

/-- A value that fits the reader of form files is read from its text. -/
theorem Load.fromText_write {α : Type} (check : Json → Decode.Checked α)
    (hspacing : spacing.Plain) {v : Json} (hv : Json.Fits allowance allowance.depth v) :
    fromText check (v.write spacing) = check v := by
  rw [fromText, Json.read_write_of_fits hspacing hv]

namespace Form

variable {form : Form}

theorem ofText_dump (hform : form.IsLoaded) (hnames : ∀ f ∈ form.fields, f.id ≠ "" → f.name ≠ "")
    (hnumber : IsSpelling number) (hspacing : spacing.Plain) (path : String) :
    ofText path ((Dump.formWith number form).write spacing) = .ok form := by
  have htidy : Json.Tidy Load.allowance 200 (Dump.formWith number form) :=
    Dump.tidy_form hnumber hform
  rw [ofText, Load.fromText_write Load.form hspacing htidy.fits,
    Load.form_dump hnumber hform hnames]

/-- A file with the text of a value holds that text. -/
theorem ofBytes_write (hspacing : spacing.Plain) (path : String) (v : Json) :
    ofBytes path (Text.Utf8.encode (v.write spacing)) = ofText path (v.write spacing) := by
  rw [ofBytes, Text.Utf8.decode_encode, Json.write, String.toList_ofList]
  dsimp only
  rw [Json.unifyNewlines_chars hspacing]

/-- **A form that was loaded, is dumped and is loaded again comes out as it was.** -/
theorem ofEntry_dump {path : String} {entry : Option FileEntry}
    (hload : ofEntry path entry = .ok form)
    (hnames : ∀ f ∈ form.fields, f.id ≠ "" → f.name ≠ "") (hnumber : IsSpelling number)
    (hspacing : spacing.Plain) (copy : String) :
    ofEntry copy (some (.file (Text.Utf8.encode ((Dump.formWith number form).write spacing)))) =
      .ok form := by
  rw [ofEntry, ofBytes_write hspacing]
  exact ofText_dump (isLoaded_of_ofEntry hload) hnames hnumber hspacing copy

/-- A form with one field that has a step. -/
def steppedForm : Form where
  fields := [{ id := "a", name := "b", step := some (.ofDecimal false 5 (-1)) }]

/-- Its file, as short as can be. -/
def steppedFile : FileEntry :=
  .file (Text.Utf8.encode "\x7b\"fields\":[\x7b\"id\":\"a\",\"name\":\"b\",\"step\":0.5\x7d]\x7d")

theorem ofEntry_dump_steppedForm :
    ofEntry "form.json" (some steppedFile) = .ok steppedForm ∧
      (∀ f ∈ steppedForm.fields, f.id ≠ "" → f.name ≠ "") ∧ IsSpelling .float ∧
      Json.compact.Plain ∧
      ofEntry "copy.json" (some (.file (Text.Utf8.encode
        ((Dump.formWith .float steppedForm).write Json.compact)))) = .ok steppedForm := by
  have hload : ofEntry "form.json" (some steppedFile) = .ok steppedForm :=
    toOption_eq_some_iff.1 (by decide +kernel)
  have hnames : ∀ f ∈ steppedForm.fields, f.id ≠ "" → f.name ≠ "" := by decide
  exact ⟨hload, hnames, Dump.isSpelling_float, Json.plain_compact,
    ofEntry_dump hload hnames Dump.isSpelling_float Json.plain_compact "copy.json"⟩

end Form

end FormPress
