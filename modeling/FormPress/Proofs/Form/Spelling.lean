import FormPress.Form.File
import FormPress.Proofs.Decode.Spelling
import FormPress.Proofs.Form.Dumped
import FormPress.Proofs.Json.Printed
import FormPress.Proofs.Text.Utf8
import Mathlib.Logic.Relation

/-!
# Forms with keys in another spelling

A form file may spell every attribute in camel case or in snake case, each one as it likes: files
that differ in such keys only are refused together, or give the same form. Each record of a form is
read through its attributes, of which no two share a spelling; and whether the text passes the
bounds of the reader is decided by how deep it nests and how long its integers are, which no
spelling changes. So a dump with its keys in any spelling is loaded as the form that was dumped.
-/

namespace FormPress

namespace Load

open Decode

/-! ## The attributes of the records of a form

Headers, look-up data, hero images and attribution defaults have keys that are no attributes with
two spellings, so they are left alone. -/

def choiceRuleShape : Shape :=
  .record ["field_id", "operator", "value"] []

def choiceShape : Shape :=
  .record ["label", "value", "address"] [("conditional_rule", choiceRuleShape)]

def choiceGroupShape : Shape :=
  .record ["source_value", "visible_option_values"] []

def dependentChoicesShape : Shape :=
  .record ["source_field_id", "custom_source_values"] [("groups", .list choiceGroupShape)]

def ruleShape : Shape :=
  .record ["depends_on_field_id", "operator", "value", "action", "action_value"] []

def lookupShape : Shape :=
  .record ["source_field_id", "lookup_data"] []

def formulaShape : Shape :=
  .record ["expression", "referenced_field_ids"] []

def fieldShape : Shape :=
  .record ["id", "name", "label", "type", "placeholder", "default_value", "help_text",
      "is_required", "is_hidden", "is_read_only", "is_disabled", "min_length", "max_length", "min",
      "max", "step", "pattern", "accept", "css_class", "width", "autocomplete", "order"]
    [("options", .list choiceShape), ("conditional_rules", .list ruleShape),
      ("lookup_config", lookupShape), ("formula_config", formulaShape),
      ("dependent_options_config", dependentChoicesShape)]

def themeShape : Shape :=
  .record ["primary_color", "secondary_color", "font_family", "border_radius", "show_logo",
      "logo_url", "background_color", "form_background_color", "text_color", "label_color",
      "input_border_color", "input_background_color", "button_text_color", "form_width",
      "form_max_width", "form_padding", "input_padding", "label_font_size", "input_font_size",
      "form_shadow", "form_layout", "logo_max_width", "logo_top_padding", "logo_side_padding",
      "header_font_size", "header_font_weight", "header_font_style", "header_align", "label_align",
      "field_gap", "line_height", "custom_css", "header_cursive_enabled", "header_cursive_font",
      "header_cursive_part"] []

def webhookShape : Shape :=
  .record ["enabled", "url", "method", "headers", "include_utm_params", "token", "source_id",
      "redirect_url", "utm_param_defaults"] []

def pixelsShape : Shape :=
  .record ["snap_pixel_id", "meta_pixel_id", "google_ads_id", "google_ads_conversion_label",
      "custom_scripts"] []

def spreadsheetShape : Shape :=
  .record ["enabled", "spreadsheet_id", "sheet_name"] []

def entrancesShape : Shape :=
  .record ["enabled", "logo", "title", "header", "fields", "footer", "easing", "duration",
      "stagger_delay"] []

def formShape : Shape :=
  .record ["id", "title", "sub_header", "description", "venue", "date_time_stamp", "footer",
      "submit_button_text", "success_message", "redirect_url", "layout", "layout_image_url",
      "layout_image_fit", "layout_image_position_x", "layout_image_position_y",
      "layout_image_panel_width", "page_hero_images", "created_at", "updated_at"]
    [("fields", .list fieldShape), ("theme", themeShape), ("animations", entrancesShape),
      ("webhook_config", webhookShape), ("pixel_config", pixelsShape),
      ("google_sheets_config", spreadsheetShape)]

/-- All records that have attributes with two spellings. -/
def shapes : List Shape :=
  [choiceRuleShape, choiceShape, choiceGroupShape, dependentChoicesShape, ruleShape, lookupShape,
    formulaShape, fieldShape, themeShape, webhookShape, pixelsShape, spreadsheetShape,
    entrancesShape, formShape]

/-- No two attributes of a record share a spelling. -/
theorem apart_of_mem_shapes : ∀ shape ∈ shapes, Apart shape.attributes := by
  decide +kernel

/-! ## Checks of the records -/

theorem agrees_choiceRule : Agrees choiceRuleShape choiceRule := by
  refine agrees_record (apart_of_mem_shapes choiceRuleShape (by simp [shapes])) fun ms ns h => ?_
  repeat' first | apply SameVerdict.seq | apply SameVerdict.map
  all_goals exact h.field (by decide) _ _

theorem agrees_choice : Agrees choiceShape choice := by
  refine agrees_record (apart_of_mem_shapes choiceShape (by simp [shapes])) fun ms ns h => ?_
  repeat' first | apply SameVerdict.seq | apply SameVerdict.map
  all_goals first
    | exact h.field (by decide) _ _
    | exact h.part agrees_choiceRule.optional (by simp) _

theorem agrees_choiceGroup : Agrees choiceGroupShape choiceGroup := by
  refine agrees_record (apart_of_mem_shapes choiceGroupShape (by simp [shapes])) fun ms ns h => ?_
  repeat' first | apply SameVerdict.seq | apply SameVerdict.map
  all_goals exact h.field (by decide) _ _

theorem agrees_dependentChoices : Agrees dependentChoicesShape dependentChoices := by
  have hapart := apart_of_mem_shapes dependentChoicesShape (by simp [shapes])
  refine agrees_record hapart fun ms ns h => ?_
  repeat' first | apply SameVerdict.seq | apply SameVerdict.map
  all_goals first
    | exact h.field (by decide) _ _
    | exact h.part agrees_choiceGroup.list (by simp) _

theorem agrees_rule : Agrees ruleShape rule := by
  refine agrees_record (apart_of_mem_shapes ruleShape (by simp [shapes])) fun ms ns h => ?_
  repeat' first | apply SameVerdict.seq | apply SameVerdict.map
  all_goals first
    | exact h.field (by decide) _ _
    | exact h.required (by decide) _

theorem agrees_lookup : Agrees lookupShape lookup := by
  refine agrees_record (apart_of_mem_shapes lookupShape (by simp [shapes])) fun ms ns h => ?_
  repeat' first | apply SameVerdict.seq | apply SameVerdict.map
  all_goals exact h.field (by decide) _ _

theorem agrees_formula : Agrees formulaShape formula := by
  refine agrees_record (apart_of_mem_shapes formulaShape (by simp [shapes])) fun ms ns h => ?_
  repeat' first | apply SameVerdict.seq | apply SameVerdict.map
  all_goals exact h.field (by decide) _ _

/-- A name that is not given is taken from the same id on both sides. -/
theorem sameAttributes_withName {names : List String} {parts : List (String × Shape)}
    {ms ns : List (String × Json)} (h : SameAttributes names parts ms ns)
    (hapart : Apart (names ++ parts.map Prod.fst)) (hms : (ms.map Prod.fst).Nodup)
    (hns : (ns.map Prod.fst).Nodup) (hname : "name" ∈ names) (hid : "id" ∈ names) :
    SameAttributes names parts (withName ms) (withName ns) := by
  have hcamel : camel "name" = "name" ∧ camel "id" = "id" := by decide +kernel
  have hlookup {key : String} (hkey : key ∈ names) (hcamel : camel key = key) :
      Table.lookup key ms = Table.lookup key ns := by
    have hvalue := h.names key hkey
    rwa [value?_eq, value?_eq, hcamel, Option.or_self, Option.or_self,
      Table.lookupLast_of_nodup hms, Table.lookupLast_of_nodup hns] at hvalue
  unfold withName
  rw [hlookup hname hcamel.1, hlookup hid hcamel.2]
  dsimp only
  split
  · split
    · exact h.assign hapart hms hns hname hcamel.1 _
    · exact h
  · exact h

theorem agrees_formField : Agrees fieldShape formField := by
  intro v w hv h
  have hapart := apart_of_mem_shapes fieldShape (by simp [shapes])
  have hw := h.keysOnce hv
  -- no key is dropped from either side
  rw [formField, formField, hv.distinctKeys_eq, hw.distinctKeys_eq]
  obtain ⟨ms, ns, rfl, rfl, hsame⟩ := h.sameAttributes hapart hv
  have hnamed := sameAttributes_withName hsame hapart (Json.keysOnce_object.1 hv).1
    (Json.keysOnce_object.1 hw).1 (by decide) (by decide)
  change SameVerdict (fieldOfMembers (withName ms)) (fieldOfMembers (withName ns))
  unfold fieldOfMembers
  repeat' first | apply SameVerdict.seq | apply SameVerdict.map
  all_goals first
    | exact hnamed.field (by decide) _ _
    | exact hnamed.required (by decide) _
    | exact hnamed.part agrees_choice.list (by simp) _
    | exact hnamed.part agrees_rule.list (by simp) _
    | exact hnamed.part agrees_lookup.optional (by simp) _
    | exact hnamed.part agrees_formula.optional (by simp) _
    | exact hnamed.part agrees_dependentChoices.optional (by simp) _

theorem agrees_theme : Agrees themeShape theme := by
  refine agrees_record (apart_of_mem_shapes themeShape (by simp [shapes])) fun ms ns h => ?_
  repeat' first | apply SameVerdict.seq | apply SameVerdict.map
  all_goals exact h.field (by decide) _ _

theorem agrees_webhook : Agrees webhookShape webhook := by
  refine agrees_record (apart_of_mem_shapes webhookShape (by simp [shapes])) fun ms ns h => ?_
  repeat' first | apply SameVerdict.seq | apply SameVerdict.map
  all_goals exact h.field (by decide) _ _

theorem agrees_pixels : Agrees pixelsShape pixels := by
  refine agrees_record (apart_of_mem_shapes pixelsShape (by simp [shapes])) fun ms ns h => ?_
  repeat' first | apply SameVerdict.seq | apply SameVerdict.map
  all_goals exact h.field (by decide) _ _

theorem agrees_spreadsheet : Agrees spreadsheetShape spreadsheet := by
  refine agrees_record (apart_of_mem_shapes spreadsheetShape (by simp [shapes])) fun ms ns h => ?_
  repeat' first | apply SameVerdict.seq | apply SameVerdict.map
  all_goals exact h.field (by decide) _ _

theorem agrees_entrances : Agrees entrancesShape entrances := by
  refine agrees_record (apart_of_mem_shapes entrancesShape (by simp [shapes])) fun ms ns h => ?_
  repeat' first | apply SameVerdict.seq | apply SameVerdict.map
  all_goals exact h.field (by decide) _ _

theorem agrees_form : Agrees formShape form := by
  refine agrees_record (apart_of_mem_shapes formShape (by simp [shapes])) fun ms ns h => ?_
  repeat' first | apply SameVerdict.seq | apply SameVerdict.map
  all_goals first
    | exact h.field (by decide) _ _
    | exact h.part agrees_formField.list (by simp) _
    | exact h.part agrees_theme (by simp) _
    | exact h.part agrees_entrances (by simp) _
    | exact h.part agrees_webhook (by simp) _
    | exact h.part agrees_pixels (by simp) _
    | exact h.part agrees_spreadsheet (by simp) _

/-- Any number of keys may be spelled in the other way, one after another. -/
theorem respelled_form {v w : Json} (hv : v.KeysOnce)
    (h : Relation.ReflTransGen (Respells formShape) v w) :
    SameVerdict (form v) (form w) ∧ w.KeysOnce ∧
      ∀ depth digits, v.Within depth digits ↔ w.Within depth digits := by
  induction h with
  | refl => exact ⟨.refl _, hv, fun _ _ => Iff.rfl⟩
  | tail _ hstep ih =>
    obtain ⟨hverdict, hkeys, hwithin⟩ := ih
    exact ⟨hverdict.trans (agrees_form _ _ hkeys hstep), hstep.keysOnce hkeys,
      fun depth digits => (hwithin depth digits).trans (hstep.within_iff depth digits)⟩

/-- **A dump is loaded as its form, however its keys are spelled.** -/
theorem form_respelledDump {number : Binary64 → Json} {f : Form} {v : Json}
    (hnumber : Dump.IsSpelling number) (hform : f.IsLoaded)
    (hnames : ∀ g ∈ f.fields, g.id ≠ "" → g.name ≠ "")
    (h : Relation.ReflTransGen (Respells formShape) (Dump.formWith number f) v) :
    form v = .valid f := by
  have htidy : Json.Tidy allowance 200 (Dump.formWith number f) := Dump.tidy_form hnumber hform
  have hkeys := Json.keysOnce_of_distinctKeys_eq htidy.distinctKeys_eq
  exact ((respelled_form hkeys h).1 f).1 (form_dump hnumber hform hnames)

end Load

namespace Form

/-! ## Files -/

/-- The bytes are a JSON text of a value, however deep it nests and however long its integers are.
Its strings hold no half of a surrogate pair, and no other number has more digits before its point
than integers may have. -/
def Holds (bytes : List UInt8) (v : Json) : Prop :=
  ∃ chars depth digits, Text.Utf8.decode bytes = .ok chars ∧
    Json.read ⟨depth, digits, Number.digitLimit, false⟩
      (String.ofList (Text.unifyNewlines chars)) = .ok v

/-- Two files that differ in the spelling of attributes only: they hold values of which one is got
from the other by spelling keys in the other way; or neither holds a value, as no spelling of a key
mends or breaks what stands beside it. -/
inductive Respelled (bytes others : List UInt8) : Prop
  | document {v w : Json} (hbytes : Holds bytes v) (hothers : Holds others w) (hkeys : v.KeysOnce)
      (hsteps : Relation.ReflTransGen (Decode.Respells Load.formShape) v w)
  | unreadable (hbytes : ∀ v, ¬Holds bytes v) (hothers : ∀ w, ¬Holds others w)

variable {bytes others : List UInt8} {form : Form} {path : String}

theorem ofText_eq_ok_iff {text : String} : ofText path text = .ok form ↔
    ∃ v, Json.read Load.allowance text = .ok v ∧ Load.form v = .valid form := by
  unfold ofText Load.fromText
  cases Json.read Load.allowance text with
  | error fault => exact iff_of_false (nomatch ·) fun ⟨v, hv, _⟩ => nomatch hv
  | ok v =>
    dsimp only
    cases hform : Load.form v with
    | valid f => simp [hform]
    | invalid faults => simp [hform]

theorem ofBytes_eq_ok_iff : ofBytes path bytes = .ok form ↔
    ∃ chars v, Text.Utf8.decode bytes = .ok chars ∧
      Json.read Load.allowance (String.ofList (Text.unifyNewlines chars)) = .ok v ∧
        Load.form v = .valid form := by
  unfold ofBytes
  cases Text.Utf8.decode bytes with
  | error fault => simp
  | ok chars => simp [ofText_eq_ok_iff]

/-- A file that is read holds a value. -/
theorem exists_holds (h : ofBytes path bytes = .ok form) : ∃ v, Holds bytes v := by
  obtain ⟨chars, v, hchars, hread, -⟩ := ofBytes_eq_ok_iff.1 h
  exact ⟨v, chars, _, _, hchars, hread⟩

/-- What a file with a value gives is decided by the value. -/
theorem Holds.ofBytes_eq_ok_iff {v : Json} (h : Holds bytes v) :
    ofBytes path bytes = .ok form ↔
      v.Within Load.allowance.depth Load.allowance.integerDigits ∧ Load.form v = .valid form := by
  obtain ⟨chars, depth, digits, hchars, hread⟩ := h
  have hsame : Json.SameLeaves Load.allowance ⟨depth, digits, Number.digitLimit, false⟩ :=
    ⟨rfl, rfl⟩
  rw [Form.ofBytes_eq_ok_iff]
  constructor
  · rintro ⟨chars', w, hchars', hw, hform⟩
    obtain rfl := Except.ok.inj (hchars.symm.trans hchars')
    obtain ⟨hwithin, rfl⟩ := (hsame.read_eq_ok_iff hread).1 hw
    exact ⟨hwithin, hform⟩
  · rintro ⟨hwithin, hform⟩
    exact ⟨chars, v, hchars, (hsame.read_eq_ok_iff hread).2 ⟨hwithin, rfl⟩, hform⟩

/-- **The spelling of attributes does not matter**: one file gives a form if and only if the other
gives it. -/
theorem ofEntry_respelled (h : Respelled bytes others) (path copy : String) (form : Form) :
    ofEntry path (some (.file bytes)) = .ok form ↔
      ofEntry copy (some (.file others)) = .ok form := by
  rw [ofEntry, ofEntry]
  cases h with
  | document hbytes hothers hkeys hsteps =>
    obtain ⟨hverdict, -, hwithin⟩ := Load.respelled_form hkeys hsteps
    rw [hbytes.ofBytes_eq_ok_iff, hothers.ofBytes_eq_ok_iff, hwithin, hverdict form]
  | unreadable hbytes hothers =>
    have hnone {os : List UInt8} (hos : ∀ v, ¬Holds os v) (p : String) :
        ofBytes p os ≠ .ok form := fun hform => (exists_holds hform).elim hos
    exact iff_of_false (hnone hbytes path) (hnone hothers copy)

/-- A value that fits a reader is held by a file with its text. -/
theorem holds_write {spacing : Json.Spacing} (hspacing : spacing.Plain) {depth digits : Nat}
    {v : Json} (hv : Json.Fits ⟨depth, digits, Number.digitLimit, false⟩ depth v) :
    Holds (Text.Utf8.encode (v.write spacing)) v := by
  refine ⟨(v.write spacing).toList, depth, digits, Text.Utf8.decode_encode _, ?_⟩
  rw [Json.write, String.toList_ofList, Json.unifyNewlines_chars hspacing]
  exact Json.read_write_of_fits hspacing hv

/-- A form with one field, with two of its attributes under the keys that are given. -/
def spelledForm (requiredKey buttonKey : String) : Json :=
  .object [("fields", .array [.object [("id", .string "q"), (requiredKey, .bool true)]]),
    (buttonKey, .string "Go")]

/-- Its file. -/
def spelledFile (requiredKey buttonKey : String) : List UInt8 :=
  Text.Utf8.encode ((spelledForm requiredKey buttonKey).write Json.compact)

theorem holds_spelledFile (requiredKey buttonKey : String) :
    Holds (spelledFile requiredKey buttonKey) (spelledForm requiredKey buttonKey) := by
  refine @holds_write _ Json.plain_compact 3 0 _ ?_
  simp [spelledForm, Json.Fits, Json.FitsMembers, Json.FitsItems]

theorem respells_isRequired (buttonKey : String) :
    Decode.Respells Load.formShape (spelledForm "isRequired" buttonKey)
      (spelledForm "is_required" buttonKey) := by
  have hcamel : Decode.camel "is_required" = "isRequired" := by decide +kernel
  have hfield : Decode.Respells Load.fieldShape
      (.object [("id", .string "q"), ("isRequired", .bool true)])
      (.object [("id", .string "q"), ("is_required", .bool true)]) :=
    @Decode.Respells.key _ _ "is_required" _ _ _ [_] [] (by decide) (.inl hcamel.symm) (.inr rfl)
      (by simp [Decode.Spells, hcamel])
  exact @Decode.Respells.part _ _ "fields" _ (.list Load.fieldShape) _ _ [] _ (by simp) (.inr rfl)
    (@Decode.Respells.item _ _ _ [] [] hfield)

theorem respells_submitButtonText (requiredKey : String) :
    Decode.Respells Load.formShape (spelledForm requiredKey "submitButtonText")
      (spelledForm requiredKey "submit_button_text") := by
  have hcamel : Decode.camel "submit_button_text" = "submitButtonText" := by decide +kernel
  exact @Decode.Respells.key _ _ "submit_button_text" _ _ _ [_] [] (by decide)
    (.inl hcamel.symm) (.inr rfl) (by simp [Decode.Spells, hcamel])

theorem ofEntry_respelled_spelledFile :
    Respelled (spelledFile "isRequired" "submitButtonText")
        (spelledFile "is_required" "submit_button_text") ∧
      ∃ form, ofEntry "form.json" (some (.file (spelledFile "isRequired" "submitButtonText"))) =
          .ok form ∧
        ofEntry "copy.json" (some (.file (spelledFile "is_required" "submit_button_text"))) =
          .ok form := by
  have hkeys : (spelledForm "isRequired" "submitButtonText").KeysOnce := by
    rw [spelledForm]
    simp [Json.KeysOnce, Json.MembersKeysOnce, Json.ItemsKeysOnce]
  have hrespelled : Respelled (spelledFile "isRequired" "submitButtonText")
      (spelledFile "is_required" "submit_button_text") :=
    .document (holds_spelledFile _ _) (holds_spelledFile _ _) hkeys
      ((Relation.ReflTransGen.single (respells_isRequired _)).tail (respells_submitButtonText _))
  have hload : (ofEntry "form.json"
      (some (.file (spelledFile "isRequired" "submitButtonText")))).toOption.isSome = true := by
    decide +kernel
  obtain ⟨form, hform⟩ := Option.isSome_iff_exists.1 hload
  have hcamel := toOption_eq_some_iff.1 hform
  exact ⟨hrespelled, form, hcamel,
    (ofEntry_respelled hrespelled "form.json" "copy.json" form).1 hcamel⟩

end Form

end FormPress
