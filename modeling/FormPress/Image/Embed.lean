import FormPress.Form.Basic
import FormPress.Image.MediaType
import FormPress.Log
import FormPress.Settings.Basic
import FormPress.Text.Base64

/-!
# Embedding images

A logo becomes part of the document, so that the document does not depend on the host of the image.
Embedding is an inquiry: it makes its requests and goes on with the replies, so that it can be told
what the network was asked for. Where an image cannot be had, it is referenced by its address
instead and the log tells why. An image that came without its type, from an address that cannot be
taken apart, is a fault.
-/

namespace FormPress

/-- What the network gives back for an address: an answer, or a failure that may have a status. -/
inductive Reply where
  | answer (status : Int) (contentType : Option String) (body : List UInt8)
  | failure (status : Option Int)
deriving DecidableEq, Repr

/-- The network as far as images are concerned. -/
abbrev Network := String → Reply

namespace Image

/-- A request for an image; the timeout is in seconds. -/
structure Request where
  url : String
  timeout : Int
deriving DecidableEq, Repr

/-! ## Inquiries -/

/-- A computation that may ask the network: it has a value, or makes a request and goes on with the
reply. -/
inductive Inquiry (α : Type) where
  | done (value : α)
  | ask (request : Request) (resume : Reply → Inquiry α)

namespace Inquiry

variable {α β : Type}

/-- Change the value. -/
def map (f : α → β) : Inquiry α → Inquiry β
  | .done a => .done (f a)
  | .ask request resume => .ask request fun reply => (resume reply).map f

/-- The value under the replies of a network. -/
def value (reply : Request → Reply) : Inquiry α → α
  | .done a => a
  | .ask request resume => (resume (reply request)).value reply

/-- The requests that a network gets, in order. -/
def requests (reply : Request → Reply) : Inquiry α → List Request
  | .done _ => []
  | .ask request resume => request :: (resume (reply request)).requests reply

@[simp] theorem value_map (reply : Request → Reply) (f : α → β) (i : Inquiry α) :
    (i.map f).value reply = f (i.value reply) := by
  induction i with
  | done a => rfl
  | ask request resume ih => exact ih _

@[simp] theorem requests_map (reply : Request → Reply) (f : α → β) (i : Inquiry α) :
    (i.map f).requests reply = i.requests reply := by
  induction i with
  | done a => rfl
  | ask request resume ih => exact congrArg (request :: ·) (ih _)

end Inquiry

/-! ## Images -/

/-- Why an image cannot be embedded. -/
inductive Fault where
  | unavailable (url : String) (status : Option Int)
  | empty (url : String)
  | badAddress (fault : AddressFault)
deriving DecidableEq, Repr

def Fault.message : Fault → String
  | .unavailable url status =>
    "Failed to fetch image " ++ url ++ " (status: " ++
      (status.map Text.decimalInt).getD "N/A" ++ ")"
  | .empty url => "Image " ++ url ++ " is empty"
  | .badAddress fault => fault.message

/-- A status with which a server refuses. -/
def isRefusal (status : Int) : Bool :=
  decide (400 ≤ status ∧ status < 600)

/-- An address with data inside. -/
def dataAddress (kind : String) (body : List UInt8) : String :=
  "data:" ++ kind ++ ";base64," ++ Text.Base64.encode body

/-- The image of a reply as an address with the data inside. -/
def ofReply (url : String) : Reply → Except Fault String
  | .failure status => .error (.unavailable url status)
  | .answer status contentType body =>
    if isRefusal status then .error (.unavailable url (some status))
    else if body.isEmpty then .error (.empty url)
    else ((mediaType contentType url).map (dataAddress · body)).mapError .badAddress

/-- An image from the network as an address with the data inside. -/
def fetch (url : String) (timeout : Int) : Inquiry (Except Fault String) :=
  .ask ⟨url, timeout⟩ fun reply => .done (ofReply url reply)

/-- Where an image cannot be had, its address is taken instead and the log tells why. -/
def settle (url : String) : Except Fault String → Logged (Except AddressFault String)
  | .error (.badAddress fault) => return .error fault
  | .error fault => do
    Logged.tell .warning .images (fault.message ++ ", referencing the image by URL")
    return .ok url
  | .ok data => do
    Logged.tell .debug .images
      ("Embedded image " ++ url ++ " (" ++ Text.decimal data.length ++ " chars)")
    return .ok data

/-- There is nothing to embed without an address, or when the data is inside already. -/
def isSettled (url : String) : Bool :=
  url = "" || Text.startsWith url "data:"

/-- An image as an address with the data inside where possible, else as it was given. -/
def embed (url : String) (timeout : Int) : Inquiry (Logged (Except AddressFault String)) :=
  if isSettled url then .done (return .ok url) else (fetch url timeout).map (settle url)

end Image

namespace Form

/-- The address of the logo, if the form shows one. -/
def logoUrl? (form : Form) : Option String :=
  if form.theme.showLogo then form.theme.logoUrl.filter (· != "") else none

/-- The inquiry after the logo of the document: it is embedded where that is wanted, else referenced
by its address. -/
def logoInquiry (form : Form) (settings : Settings) (embed : Bool) :
    Image.Inquiry (Logged (Except Image.AddressFault (Option String))) :=
  match form.logoUrl? with
  | none => .done (return .ok none)
  | some url =>
    if embed && settings.images.embedLogo then
      (Image.embed url settings.images.timeout).map fun logged => do return (← logged).map some
    else .done (return .ok (some url))

/-- The logo of the document under a network that replies to addresses. -/
def logo (form : Form) (settings : Settings) (embed : Bool) (network : Network) :
    Logged (Except Image.AddressFault (Option String)) :=
  (form.logoInquiry settings embed).value fun request => network request.url

end Form

end FormPress
