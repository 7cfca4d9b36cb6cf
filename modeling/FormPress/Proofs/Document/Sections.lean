import FormPress.Proofs.Document.EndTags
import FormPress.Proofs.Markup.Forgery

/-!
# The sections of a written document

A written document in three pieces: up to the end of its head, the markup of its body, and the
script with what follows it. The cuts are found in the text alone: the head has no other end tag
like its own, and in the body no other tag begins like that of the script.
-/

namespace FormPress

open Markup
open Script (declaresImages)
open Text (Calm Inert cutAt endTagPattern linesWhere occurrences places)

/-- A document from the end tag of its head on. -/
def fromHead (html : String) : String :=
  String.ofList (cutAt (endTagPattern "head".toList) html.toList).2

/-- The markup of a document's body, up to the script. -/
def bodyMarkup (html : String) : String :=
  String.ofList (cutAt (startPattern "script") (fromHead html).toList).1

/-- The script of a document's body and what follows it. -/
def bodyScript (html : String) : String :=
  String.ofList (cutAt (startPattern "script") (fromHead html).toList).2

namespace Markup

theorem writeList_append (left right : List Markup) :
    writeList (left ++ right) = writeList left ++ writeList right := by
  induction left with
  | nil => simp
  | cons m rest ih => simp [ih, String.append_assoc]

theorem write_newline_zero : write (newline 0) = "\n" := by
  simp [newline, escape, Text.substitute, escapeChar]

end Markup

namespace DocumentParts

variable {d : DocumentParts}

/-- What stands in a document before the end tag of its head. -/
def prologue (d : DocumentParts) : String :=
  "<!DOCTYPE html>" ++ "\n" ++ startTag "html" [attr "lang" d.language] ++ "\n" ++
    startTag "head" [] ++ writeList d.headItems

def bodyAttributes (d : DocumentParts) : List Attribute :=
  if d.form.layout = .classic then [] else [attr "class" ("layout-" ++ d.form.layout.name)]

/-- What stands in a document from the end tag of its head to the script. -/
def bodyText (d : DocumentParts) : String :=
  endTag "head" ++ "\n" ++ startTag "body" d.bodyAttributes ++ writeList (onLines 0 d.frame) ++
    "\n"

/-- The script of a document and what follows it. -/
def scriptText (d : DocumentParts) : String :=
  Markup.write d.scriptElement ++ "\n" ++ endTag "body" ++ "\n" ++ endTag "html"

/-- A document is its three sections. -/
theorem write_body (d : DocumentParts) :
    Markup.write d.body =
      startTag "body" d.bodyAttributes ++ writeList (onLines 0 d.frame) ++ "\n" ++
        (Markup.write d.scriptElement ++ "\n" ++ endTag "body") := by
  have hlines : onLines 0 (d.frame ++ [d.scriptElement]) =
      onLines 0 d.frame ++ [newline 0, d.scriptElement] := by
    simp [onLines]
  rw [body, write_element, hlines, writeList_append, writeList_append, writeList_cons,
    writeList_cons, writeList_nil, writeList_cons, writeList_nil, write_newline_zero,
    bodyAttributes]
  simp only [String.append_assoc, String.append_empty]

theorem write_eq (d : DocumentParts) : d.write = d.prologue ++ d.bodyText ++ d.scriptText := by
  have hraw : Markup.write (.raw "<!DOCTYPE html>") = "<!DOCTYPE html>" := by
    simp [Markup.write, writeAfter]
  rw [DocumentParts.write, markup]
  unfold prologue bodyText scriptText
  simp only [writeList_cons, writeList_nil, hraw, write_element, write_newline_zero, head_eq,
    write_body, String.append_assoc, String.append_empty]

theorem countP_headItems : (listEndNames d.headItems).countP (closes "head".toList) = 0 := by
  have htitle : closes "head".toList "title" = false := closes_ofList rfl
  have hnoscript : closes "head".toList "noscript" = false := closes_ofList rfl
  have hstyle : closes "head".toList "style" = false := closes_ofList rfl
  have hscript : closes "head".toList "script" = false := closes_ofList rfl
  rw [listEndNames_eq, countP_endNames_headItems htitle hnoscript, hstyle, hscript]
  rfl

/-- The end tag of the head is the first one of its name. -/
theorem inert_prologue (hstyle : Calm d.stylesheet)
    (hcustom : given? d.form.pixels.customScripts = none) :
    Inert (endTagPattern "head".toList) d.prologue.toList := by
  have hdoctype : Calm "<!DOCTYPE html>" := Text.calm_ofList rfl
  have hhtml : Calm (startTag "html" [attr "lang" d.language]) :=
    calm_startTag (isName_ofList rfl) (List.forall_mem_singleton.2 (isName_ofList rfl))
  have hline : Calm "\n" := Text.calm_ofList rfl
  have hhead : Calm (startTag "head" []) := calm_startTag (isName_ofList rfl) (by simp)
  have hquiet := quietList_iff.2 (quiet_headItems hstyle hcustom)
  refine Text.inert_of_occurrences (by decide) fun t => ?_
  unfold prologue
  simp only [String.toList_append, List.append_assoc]
  rw [hdoctype.occurrences_append, hline.occurrences_append, hhtml.occurrences_append,
    hline.occurrences_append, hhead.occurrences_append, occurrences_writeList (by simp) hquiet,
    countP_headItems, Nat.zero_add]

/-! ## Scans of the body -/

/-- The tags of a document's body, the script apart. -/
def bodyTags (d : DocumentParts) : List Tag :=
  ⟨"body", d.bodyAttributes⟩ :: d.frame.flatMap tags

theorem isApart_of_mem_bodyAttributes : ∀ a ∈ d.bodyAttributes, a.IsApart := by
  unfold bodyAttributes
  split
  · simp
  · exact List.forall_mem_singleton.2 (isApart_ofList rfl)

/-- A scan of the body adds up its tags. -/
theorem scan_bodyText {γ : Type} {scan : List Char → γ} {add : Tag → γ → γ}
    {Ok : List Char → Prop} (h : Scan IsTagName Attribute.IsApart scan add Ok)
    (hpages : ∀ page ∈ d.pages, ∀ m ∈ page.2, m.Framing) {t : List Char} (ht : Ok t) :
    Ok (d.bodyText.toList ++ t) ∧
      scan (d.bodyText.toList ++ t) = d.bodyTags.foldr add (scan t) := by
  have hframe : BuiltList IsTagName Attribute.IsApart (onLines 0 d.frame) :=
    builtList_iff.2 (built_onLines.2 (framing_frame hpages))
  have htags : listTags (onLines 0 d.frame) = d.frame.flatMap tags := by
    rw [listTags_eq, flatMap_tags_onLines]
  have hbody : IsTagName "body" := isTagName_ofList rfl
  have hhead : IsTagName "head" := isTagName_ofList rfl
  obtain ⟨hok, hlast⟩ := h.content (s := ['\n']) (by decide) (by decide) ht
  obtain ⟨hok, hlines⟩ := h.writeList hframe hok
  obtain ⟨hok, hstart⟩ := h.startTag hbody isApart_of_mem_bodyAttributes hok
  obtain ⟨hok, hline⟩ := h.content (s := ['\n']) (by decide) (by decide) hok
  obtain ⟨hok, hend⟩ := h.endTag hhead hok
  have htext : d.bodyText.toList ++ t =
      (endTag "head").toList ++ (['\n'] ++ ((startTag "body" d.bodyAttributes).toList ++
        ((writeList (onLines 0 d.frame)).toList ++ (['\n'] ++ t)))) := by
    unfold bodyText
    simp only [String.toList_append, List.append_assoc]
    rfl
  rw [htext]
  refine ⟨hok, ?_⟩
  rw [hend, hline, hstart, hlines, hlast, htags]
  rfl

/-! ## The script -/

/-- How the script of a document begins. -/
def scriptOpening : List Char :=
  "<script>\n(function () \x7b\n\"use strict\";".toList

/-- How the script of a document ends, and what follows it. -/
def scriptClosing : List Char :=
  "refreshConditions();\n\x7d)();\n</script>\n</body>\n</html>".toList

theorem toList_scriptText (d : DocumentParts) :
    d.scriptText.toList =
      scriptOpening ++ '\n' :: (d.script.toList ++ '\n' :: scriptClosing) := by
  have hstart : startTag "script" [] ++ "\n(function () \x7b\n\"use strict\";\n" =
      String.ofList (scriptOpening ++ ['\n']) := rfl
  have hend : "\nrefreshConditions();\n\x7d)();\n" ++ (endTag "script" ++ ("\n" ++
      (endTag "body" ++ ("\n" ++ endTag "html")))) = String.ofList ('\n' :: scriptClosing) := rfl
  have hraw (s : String) : Markup.write (.raw s) = s := by
    simp [Markup.write, writeAfter]
  have hwrite : d.scriptText =
      startTag "script" [] ++ "\n(function () \x7b\n\"use strict\";\n" ++ (d.script ++
        ("\nrefreshConditions();\n\x7d)();\n" ++ (endTag "script" ++ ("\n" ++
          (endTag "body" ++ ("\n" ++ endTag "html")))))) := by
    simp only [scriptText, scriptElement, write_element, writeList_cons, writeList_nil, hraw,
      String.append_assoc, String.append_empty]
  rw [hwrite, hstart, hend]
  simp

/-- The script holds no marker, whatever stands in its literals. -/
theorem places_scriptText (hscript : Leads [.other] unsettled d.script.toList)
    {name value : String} (hname : name ∈ countedNames) (hvalue : IsName value) :
    places (marker name value) d.scriptText.toList = 0 := by
  have hopening : Leads [.other] [.other] (scriptOpening ++ ['\n']) := leads_of_eq_true rfl
  have hclosing : Leads unsettled unsettled ('\n' :: scriptClosing) := leads_of_eq_true rfl
  obtain ⟨last, -, hrun⟩ := (hopening.append (hscript.append hclosing)) .other (by simp)
  rw [List.append_assoc, List.singleton_append, ← toList_scriptText] at hrun
  exact places_eq_zero_of_run (exists_endsName hname) hvalue hrun

theorem linesWhere_scriptText (d : DocumentParts) :
    linesWhere declaresImages d.scriptText.toList = linesWhere declaresImages d.script.toList := by
  have hopening : linesWhere declaresImages scriptOpening = [] := rfl
  have hclosing : linesWhere declaresImages scriptClosing = [] := rfl
  rw [toList_scriptText, Text.linesWhere_append, Text.linesWhere_append, hopening, hclosing,
    List.nil_append, List.append_nil]

/-! ## Cuts -/

theorem toList_write_eq (d : DocumentParts) :
    d.write.toList = d.prologue.toList ++ (d.bodyText.toList ++ d.scriptText.toList) := by
  rw [write_eq, String.toList_append, String.toList_append, List.append_assoc]

theorem fromHead_write (hstyle : Calm d.stylesheet)
    (hcustom : given? d.form.pixels.customScripts = none) :
    fromHead d.write = d.bodyText ++ d.scriptText := by
  have hbegin : ∃ rest, d.bodyText.toList ++ d.scriptText.toList =
      endTagPattern "head".toList ++ rest := by
    unfold bodyText
    simp only [String.toList_append, toList_endTag, endTagPattern, List.append_assoc,
      List.cons_append]
    exact ⟨_, rfl⟩
  obtain ⟨rest, hrest⟩ := hbegin
  have hcut : (cutAt (endTagPattern "head".toList) (endTagPattern "head".toList ++ rest)).2 =
      endTagPattern "head".toList ++ rest := by
    rw [endTagPattern, Text.cutAt_of_prefix]
  rw [fromHead, toList_write_eq, (inert_prologue hstyle hcustom).cutAt_append, hrest, hcut,
    ← hrest, ← String.toList_append, String.ofList_toList]

/-- The markup of the body has no script. -/
theorem inert_bodyText (hpages : ∀ page ∈ d.pages, ∀ m ∈ page.2, m.Framing) :
    Inert (startPattern "script") d.bodyText.toList := by
  have hscript : IsName "script" := isName_ofList rfl
  have hscan : Scan IsTagName Attribute.IsApart (places (startPattern "script"))
      (fun _ n => n) fun _ => True := by
    refine (scan_startPattern hscript).mono (fun name hname => ⟨hname.isName, ?_⟩)
      fun _ ha => ha.isName
    exact hname.not_prefix
  have hnone : ∀ (ts : List Tag) (n : Nat), ts.foldr (fun _ n => n) n = n := by
    intro ts n
    induction ts with
    | nil => rfl
    | cons t rest ih => exact ih
  intro t
  rw [(scan_bodyText hscan hpages trivial).2, hnone]

/-- The script is the first element of its kind behind the head. -/
theorem cutAt_script (hpages : ∀ page ∈ d.pages, ∀ m ∈ page.2, m.Framing) :
    cutAt (startPattern "script") (d.bodyText.toList ++ d.scriptText.toList) =
      (d.bodyText.toList, d.scriptText.toList) := by
  have hbegin : ∃ rest, d.scriptText.toList = startPattern "script" ++ rest := by
    unfold scriptText scriptElement
    simp only [write_element, String.toList_append, toList_startTag, startPattern,
      List.append_assoc, List.cons_append]
    exact ⟨_, rfl⟩
  obtain ⟨rest, hrest⟩ := hbegin
  rw [(inert_bodyText hpages).cutAt_append, hrest, startPattern, Text.cutAt_of_prefix,
    List.append_nil]

theorem bodyMarkup_write (hstyle : Calm d.stylesheet)
    (hcustom : given? d.form.pixels.customScripts = none)
    (hpages : ∀ page ∈ d.pages, ∀ m ∈ page.2, m.Framing) :
    bodyMarkup d.write = d.bodyText := by
  rw [bodyMarkup, fromHead_write hstyle hcustom, String.toList_append, cutAt_script hpages,
    String.ofList_toList]

theorem bodyScript_write (hstyle : Calm d.stylesheet)
    (hcustom : given? d.form.pixels.customScripts = none)
    (hpages : ∀ page ∈ d.pages, ∀ m ∈ page.2, m.Framing) :
    bodyScript d.write = d.scriptText := by
  rw [bodyScript, fromHead_write hstyle hcustom, String.toList_append, cutAt_script hpages,
    String.ofList_toList]

end DocumentParts

end FormPress
