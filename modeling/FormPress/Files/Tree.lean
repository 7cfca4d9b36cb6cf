import FormPress.Files.Basic
import FormPress.Table

/-!
# File trees

A file system as a list of what stands under absolute names; the directories on the way to an entry
are there too, and so is the working directory. Paths are walked from the root or from the working
directory, one name after another.
-/

namespace FormPress

/-- Entries by the names that lead to them from the root, and the working directory. -/
structure FileTree where
  entries : List (List String × FileEntry) := []
  home : List String := []
deriving Repr

namespace FileTree

/-- The greatest length of a name, in bytes. -/
def nameLimit : Nat := 255

/-- The least length of a path that is too long, in bytes. -/
def pathLimit : Nat := 4096

/-- What stands under absolute names. -/
def entryAt (t : FileTree) (names : List String) : Option FileEntry :=
  match Table.lookup names t.entries with
  | some e => some e
  | none =>
    if names.isPrefixOf t.home || t.entries.any (fun e => names.isPrefixOf e.1) then
      some .directory
    else none

/-- What a file holds. -/
def fileAt (t : FileTree) (names : List String) : Option (List UInt8) :=
  match Table.lookup names t.entries with
  | some (.file bytes) => some bytes
  | _ => none

/-! ## Walks -/

/-- What a walk ends at. -/
inductive Found where
  | file (bytes : List UInt8)
  | directory (names : List String)

/-- Walk along the pieces of a path from a directory on. -/
def walk (t : FileTree) : List String → List String → Except FileProblem Found
  | place, [] => .ok (.directory place)
  | place, p :: rest =>
    if p = "" ∨ p = "." then walk t place rest
    else if p = ".." then walk t place.dropLast rest
    else if nameLimit < p.utf8ByteSize then .error .nameTooLong
    else
      match t.entryAt (place ++ [p]) with
      | none => .error .missing
      | some .directory => walk t (place ++ [p]) rest
      | some (.file bytes) => if rest.isEmpty then .ok (.file bytes) else .error .notDirectory

/-- The directory in which a path starts. -/
def start (t : FileTree) (path : FilePath) : List String :=
  if path.isAbsolute then [] else t.home

/-- What stands under a written path. -/
def find (t : FileTree) (path : String) : Except FileProblem FileEntry :=
  if path = "" then .error .missing
  else if pathLimit ≤ path.utf8ByteSize then .error .nameTooLong
  else
    match walk t (t.start (FilePath.read path)) (FilePath.pieces path) with
    | .ok (.file bytes) => .ok (.file bytes)
    | .ok (.directory _) => .ok .directory
    | .error problem => .error problem

/-- The directory that holds what a path names and its name there, or what stands against it. A path
without names has an empty one. -/
def locate (t : FileTree) (path : FilePath) : Except FileProblem (List String × String) :=
  if pathLimit ≤ path.write.utf8ByteSize then .error .nameTooLong
  else
    match path.names.getLast? with
    | none => .ok (t.start path, "")
    | some name =>
      match walk t (t.start path) path.names.dropLast with
      | .error problem => .error problem
      | .ok (.file _) => .error .notDirectory
      | .ok (.directory place) =>
        if nameLimit < name.utf8ByteSize then .error .nameTooLong else .ok (place, name)

/-! ## Changes -/

/-- What a change comes to: the tree as it is then, and what stood against it. -/
structure Attempt where
  tree : FileTree
  fault : Option FileFault := none

/-- Put a file in place of what stands under its names. -/
def put (t : FileTree) (names : List String) (bytes : List UInt8) : FileTree :=
  { t with entries := Table.assign names (.file bytes) t.entries }

/-- Take away what stands under names, but not what stands below. -/
def remove (t : FileTree) (names : List String) : FileTree :=
  { t with entries := t.entries.filter (·.1 ≠ names) }

/-- Give what stands under names, and all below, other names. -/
def rename (t : FileTree) (source target : List String) : FileTree :=
  { t with
    entries := t.entries.map fun e =>
      if source.isPrefixOf e.1 then (target ++ e.1.drop source.length, e.2) else e }

/-- Make one directory in a directory that is there. -/
def makeOne (t : FileTree) (path : FilePath) : Except FileProblem FileTree :=
  match t.locate path with
  | .error problem => .error problem
  | .ok (place, name) =>
    if name = "" ∨ name = ".." ∨ (t.entryAt (place ++ [name])).isSome then .error .alreadyThere
    else .ok { t with entries := t.entries ++ [(place ++ [name], .directory)] }

/-- A directory that is there already is as good as a new one. -/
def tolerate (t : FileTree) (path : FilePath) (made : Except FileProblem FileTree) : Attempt :=
  match made with
  | .ok made => { tree := made }
  | .error problem =>
    match walk t (t.start path) path.names with
    | .ok (.directory _) => { tree := t }
    | _ => { tree := t, fault := some ⟨problem, path.write⟩ }

/-- Make a directory and those on the way to it; the names come in reverse. Of a way that cannot be
made to its end the front stays. -/
def makeWay (t : FileTree) (slashes : Nat) : List String → Attempt
  | [] => { tree := t }
  | last :: before =>
    let path : FilePath := ⟨slashes, (last :: before).reverse⟩
    match t.makeOne path with
    | .error .missing =>
      let way := makeWay t slashes before
      if way.fault.isSome then way else tolerate way.tree path (way.tree.makeOne path)
    | made => tolerate t path made

def makeDirectory (t : FileTree) (path : FilePath) : Attempt :=
  makeWay t path.slashes path.names.reverse

def writeFile (t : FileTree) (path : FilePath) (bytes : List UInt8) : Attempt :=
  match t.locate path with
  | .error problem => { tree := t, fault := some ⟨problem, path.write⟩ }
  | .ok (place, name) =>
    if name = "" ∨ name = ".." then { tree := t, fault := some ⟨.isDirectory, path.write⟩ }
    else
      match t.entryAt (place ++ [name]) with
      | some .directory => { tree := t, fault := some ⟨.isDirectory, path.write⟩ }
      | _ => { tree := t.put (place ++ [name]) bytes }

/-- Write a file, making its directory first where it does not lie in the working directory. -/
def save (t : FileTree) (path : FilePath) (bytes : List UInt8) : Attempt :=
  if path.parent.isHere then t.writeFile path bytes
  else
    let way := t.makeDirectory path.parent
    if way.fault.isSome then way else way.tree.writeFile path bytes

end FileTree

end FormPress
