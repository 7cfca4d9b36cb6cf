import FormPress.Decode.Checked
import FormPress.Decode.Scalar
import FormPress.Settings.Basic
import FormPress.Text.Blank
import FormPress.Text.Lower
import FormPress.Url.Basic

/-!
# Checking settings

Settings from an object of named values. Texts must be texts, addresses are brought to their normal
form, and keys that no setting has are refused at the top level, after all other faults. Only when
everything else is right does a blank language count.
-/

namespace FormPress

open Decode

namespace Settings

/-- The greatest length of an address, in bytes. -/
def urlLimit : Nat := 2083

/-- An address on the web, in its normal form. -/
def webAddress : Json → Checked String
  | .string s =>
    if urlLimit < s.utf8ByteSize then .fail (.oversizedUrl urlLimit)
    else
      match Url.read s with
      | .web url => .valid url.write
      | .otherScheme => .fail .badUrlScheme
      | .fault f => .fail (.badUrl f.message)
  | .brokenString _ => .fail .brokenText
  | _ => .fail .notUrl

/-- A key as it is given. -/
def apiKey : Json → Checked ApiKey
  | .string s => .valid ⟨s, true⟩
  | .brokenString shown => .valid ⟨shown, false⟩
  | _ => .fail .notText

/-- A section with named values. -/
def subsection {α : Type} (name : String) (check : List (String × Json) → Checked α) :
    Json → Checked α
  | .object members => check members
  | _ => .fail (.notSection name)

/-- The section of the submission logger. -/
def persistenceSection (ms : List (String × Json)) : Checked PersistenceSettings :=
  PersistenceSettings.mk <$> exactField ms "enabled" bool ({} : PersistenceSettings).enabled <*>
    exactField ms "url" webAddress ({} : PersistenceSettings).url <*>
    exactField ms "api_key" apiKey {}

def relaySection (ms : List (String × Json)) : Checked RelaySettings :=
  RelaySettings.mk <$> exactField ms "url" webAddress ({} : RelaySettings).url <*>
    exactField ms "api_key" apiKey {}

def imageSection (ms : List (String × Json)) : Checked ImageSettings :=
  ImageSettings.mk <$> exactField ms "embed_logo" bool ({} : ImageSettings).embedLogo <*>
    exactField ms "timeout" (intAtLeast 1) ({} : ImageSettings).timeout

/-- The keys of the top level. -/
def knownKeys : List String :=
  ["language", "strict", "allow_raw_html", "font_stylesheet_url", "persistence", "sheets_relay",
   "images"]

/-- A fault for each key that no setting has. -/
def unknownKeys (ms : List (String × Json)) : Checked Unit :=
  match (ms.filter fun m => !knownKeys.contains m.1).map fun m =>
      (⟨[.key m.1], .unknownKey⟩ : Fault) with
  | [] => .valid ()
  | faults => .invalid faults

def withLanguage (s : Settings) : Checked Settings :=
  if Text.strip s.language = "" then .fail .blankLanguage else .valid s

/-- A name in small letters. -/
def foldName (name : String) : String :=
  String.ofList (Text.lower name.toList)

/-- The keys of the top level in their own spelling, whatever their case. Of several spellings of a
key the first counts; `seen` holds the keys so far. -/
def ownSpellingFrom (seen : List String) : List (String × Json) → List (String × Json)
  | [] => []
  | (name, v) :: rest =>
    let key := foldName name
    if !knownKeys.contains key then (name, v) :: ownSpellingFrom seen rest
    else if seen.contains key then ownSpellingFrom seen rest
    else (key, v) :: ownSpellingFrom (key :: seen) rest

/-- Settings from named values, whose keys are in their own spelling. -/
def checkOwn (ms : List (String × Json)) : Checked Settings :=
  let d : Settings := {}
  let known :=
    Settings.mk <$> exactField ms "language" plainText d.language <*>
      exactField ms "strict" bool d.strict <*>
      exactField ms "allow_raw_html" bool d.allowRawHtml <*>
      exactField ms "font_stylesheet_url" (optional webAddress) d.fontStylesheet <*>
      exactField ms "persistence" (subsection "PersistenceConfig" persistenceSection) {} <*>
      exactField ms "sheets_relay" (subsection "SheetsRelayConfig" relaySection) {} <*>
      exactField ms "images" (subsection "ImageConfig" imageSection) {}
  ((fun s (_ : Unit) => s) <$> known <*> unknownKeys ms).bind withLanguage

/-- Settings from named values. The case of a top-level key does not count. -/
def check (ms : List (String × Json)) : Checked Settings :=
  checkOwn (ownSpellingFrom [] ms)

end Settings

end FormPress
