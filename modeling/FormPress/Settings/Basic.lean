/-!
# Settings

What holds for all forms that one run compiles: the language of the document, how strict the checks
are, and the addresses of the services that a page talks to.
-/

namespace FormPress

/-- The key of a service. A key with half a surrogate pair is not whole; it shows a replacement
character there. -/
structure ApiKey where
  shown : String := ""
  isWhole : Bool := true
deriving DecidableEq, Repr

/-- The logger to which every page reports its submissions. -/
structure PersistenceSettings where
  enabled : Bool := true
  url : String := "http://localhost:54321/rest/v1/form_submissions"
  apiKey : ApiKey := {}
deriving DecidableEq, Repr

/-- The relay that appends submissions to a spreadsheet. -/
structure RelaySettings where
  url : String := "http://localhost:54321/functions/v1/google-sheets"
  apiKey : ApiKey := {}
deriving DecidableEq, Repr

/-- The embedding of logos; the timeout is in seconds. -/
structure ImageSettings where
  embedLogo : Bool := true
  timeout : Int := 10
deriving DecidableEq, Repr

/-- The settings of a run. Addresses are in their normal form. -/
structure Settings where
  language : String := "en"
  strict : Bool := false
  allowRawHtml : Bool := false
  fontStylesheet : Option String :=
    some "https://fonts.googleapis.com/css2?family=Inter:wght@300;400;500;600;700&display=swap"
  persistence : PersistenceSettings := {}
  relay : RelaySettings := {}
  images : ImageSettings := {}
deriving DecidableEq, Repr

end FormPress
