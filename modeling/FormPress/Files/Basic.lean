import FormPress.Text.Basic
import FormPress.Text.Quoted

/-!
# Files

Paths, what stands under a path, and what can stand against reading or writing there. A path is the
names that lead to it. Written paths have one slash between names; names that stand for the
directory itself are dropped, and steps upwards stay as they are. Of the slashes in front one stays,
or two where there are exactly two.
-/

namespace FormPress

/-! ## Paths -/

/-- A path: the number of slashes in front, and its names. -/
structure FilePath where
  slashes : Nat
  names : List String
deriving DecidableEq, Repr

namespace FilePath

/-- The pieces of a text between slashes. -/
def pieces (s : String) : List String :=
  (Text.splitAt '/' s.toList).map String.ofList

/-- The slashes in front of a text, as far as they count. -/
def leadingSlashes (s : String) : Nat :=
  if !Text.startsWith s "/" then 0
  else if Text.startsWith s "//" && !Text.startsWith s "///" then 2
  else 1

/-- The path that a text names. -/
def read (s : String) : FilePath :=
  ⟨leadingSlashes s, (pieces s).filter fun p => p != "" && p != "."⟩

/-- Whether a path starts at the root. -/
def isAbsolute (p : FilePath) : Bool :=
  p.slashes != 0

/-- The text of a path; the directory itself is a dot. -/
def write (p : FilePath) : String :=
  if p.isAbsolute then String.ofList (List.replicate p.slashes '/') ++ Text.join "/" p.names
  else if p.names.isEmpty then "."
  else Text.join "/" p.names

/-- The directory in which a path lies. -/
def parent (p : FilePath) : FilePath :=
  { p with names := p.names.dropLast }

/-- The directory itself. -/
def isHere (p : FilePath) : Bool :=
  !p.isAbsolute && p.names.isEmpty

end FilePath

/-! ## Entries and problems -/

/-- What a file system holds under a path. -/
inductive FileEntry where
  | file (bytes : List UInt8)
  | directory
deriving DecidableEq, Repr

/-- What can stand against the use of a path. -/
inductive FileProblem where
  | missing
  | alreadyThere
  | notDirectory
  | isDirectory
  | nameTooLong
deriving DecidableEq, Repr

/-- The number by which systems know a problem. -/
def FileProblem.number : FileProblem → Nat
  | .missing => 2
  | .alreadyThere => 17
  | .notDirectory => 20
  | .isDirectory => 21
  | .nameTooLong => 36

def FileProblem.words : FileProblem → String
  | .missing => "No such file or directory"
  | .alreadyThere => "File exists"
  | .notDirectory => "Not a directory"
  | .isDirectory => "Is a directory"
  | .nameTooLong => "File name too long"

/-- A problem with a path. -/
structure FileFault where
  problem : FileProblem
  path : String
deriving DecidableEq, Repr

/-- The wording of a fault: number, words and the quoted path. -/
def FileFault.message (f : FileFault) : String :=
  "[Errno " ++ Text.decimal f.problem.number ++ "] " ++ f.problem.words ++ ": " ++
    Text.Quoted.write f.path

end FormPress
