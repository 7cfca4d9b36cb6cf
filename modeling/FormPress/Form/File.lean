import FormPress.Files.Basic
import FormPress.Form.Load
import FormPress.Log
import FormPress.Text.Quoted
import FormPress.Text.Utf8

/-!
# Form files

A form is read from a file: bytes of UTF-8, with line ends of any of the three kinds. The reader is
a function of what the file system holds under the path.
-/

namespace FormPress

/-- Why a form file cannot be used. -/
inductive FormFault where
  | notFound (path : String)
  | isDirectory (path : String)
  | undecodable (fault : Text.Utf8.Fault)
  | invalid (path : String) (faults : List Decode.Fault)
deriving DecidableEq, Repr

def FormFault.message : FormFault → String
  | .notFound path => "Form file not found: " ++ path
  | .isDirectory path =>
    "Failed to read form file " ++ path ++ ": " ++ (FileFault.mk .isDirectory path).message
  | .undecodable fault => fault.message
  | .invalid path faults => "Form validation failed: " ++ path ++ Decode.indentedLines faults

namespace Form

def ofText (path text : String) : Except FormFault Form :=
  match Load.fromText Load.form text with
  | .valid f => .ok f
  | .invalid faults => .error (.invalid path faults)

def ofBytes (path : String) (bytes : List UInt8) : Except FormFault Form :=
  match Text.Utf8.decode bytes with
  | .ok chars => ofText path (String.ofList (Text.unifyNewlines chars))
  | .error fault => .error (.undecodable fault)

def ofEntry (path : String) : Option FileEntry → Except FormFault Form
  | none => .error (.notFound path)
  | some .directory => .error (.isDirectory path)
  | some (.file bytes) => ofBytes path bytes

/-- Load a form and say so in the log; `shownPath` is the path as the log shows it. -/
def load (path shownPath : String) (entry : Option FileEntry) : Logged (Except FormFault Form) :=
  match ofEntry path entry with
  | .error fault => pure (.error fault)
  | .ok form => do
    Logged.tell .debug .forms
      ("Loaded form " ++ Text.Quoted.write form.id ++ " with " ++
        Text.decimal form.fields.length ++ " field(s) from " ++ shownPath)
    return .ok form

end Form

end FormPress
