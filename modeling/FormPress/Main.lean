import FormPress.Command.Run

/-!
# The program

The command line over real files. Everything that is decided is decided by `Command`; here the files
that a command line names are read, the log and the document are written, and the texts go to the
console. There is no connection to the network, so images are always referenced by their address.
-/

namespace FormPress.Main

open FormPress.Command

def lookAt (path : String) : IO (Except FileProblem FileEntry) := do
  if path = "" then return .error .missing
  let place := (← IO.currentDir) / path
  if ← place.isDir then return .ok .directory
  if ← place.pathExists then
    return .ok (.file (← IO.FS.readBinFile place).toList)
  if (FilePath.pieces path).any (FileTree.nameLimit < ·.utf8ByteSize) then
    return .error .nameTooLong
  return .error .missing

/-- The words of a command line that may be paths, as they are and in their short form. -/
def possiblePaths (words : List String) : List String :=
  let afterEquals := words.map fun w => String.ofList ((w.toList.dropWhile (· != '=')).drop 1)
  let afterLetter := words.map fun w => String.ofList (w.toList.drop 2)
  let values := words ++ afterEquals ++ afterLetter ++ ["formforge.toml"]
  Table.distinct (values ++ values.map fun w => (FilePath.read w).write)

/-- The names of the variables that hold settings. -/
def variableNames : List String :=
  let names := Settings.plainKeys ++ Settings.sectionKeys.flatMap fun (title, keys) =>
    title :: keys.map fun key => title ++ "__" ++ key
  names.map fun name => String.ofList ((Settings.variableHead ++ name).toList.map Char.toUpper)

/-- The variables that hold settings. -/
def readEnvironment : IO Environment := do
  let found ← variableNames.mapM fun name => do
    return (← IO.getEnv name).map fun value => (name, value)
  return found.filterMap id

/-- What stands under the paths that a command line may name. Lines are written when a run ends, so
the log has none of them before. -/
def lookAround (words : List String) : IO Look := do
  let entries ← (possiblePaths words).mapM fun path => do return (path, ← lookAt path)
  return fun _ path => (Table.lookup path entries).getD (.error .missing)

/-- Open the log file, or tell what stands against it. -/
def openLogFile : IO (Option LogFault) := do
  try IO.FS.createDirAll logPath.parent.write catch _ => return some .noDirectory
  try IO.FS.withFile logPath.write .append fun _ => return none catch _ => return some .isDirectory

/-- What stands against a path that could not be written. -/
def faultAt (path : FilePath) : IO FileFault := do
  let parent := path.parent.write
  match ← lookAt path.write, ← lookAt parent with
  | .ok .directory, _ => return ⟨.isDirectory, path.write⟩
  | _, .ok (.file _) => return ⟨.alreadyThere, parent⟩
  | .error .nameTooLong, _ => return ⟨.nameTooLong, path.write⟩
  | _, _ => return ⟨.missing, path.write⟩

/-- Save a document, and tell what stood against it. -/
def saveDocument (path : FilePath) (content : Content) : IO (Option SaveFault) := do
  try
    if !path.parent.isHere then IO.FS.createDirAll path.parent.write
    match content with
    | .text document =>
      IO.FS.writeFile path.write document
      return none
    | .unencodable =>
      IO.FS.writeFile path.write ""
      return some .unencodable
  catch _ => return some (.file (← faultAt path))

/-- The path of the log file, or of a backup. -/
def logPathOf (number : Nat) : String :=
  (FilePath.mk 0 ["data", logName number]).write

/-- Make the log file the first backup, and each backup the next. -/
def shiftBackups : IO Unit := do
  (List.range backupLimit).reverse.forM fun number => do
    if (← lookAt (logPathOf number)).isOk then
      IO.FS.rename (logPathOf number) (logPathOf (number + 1))

/-- Append a line to the log file. -/
def writeLogLine (l : LogLine) : IO Unit := do
  let line := showLine l ++ "\n"
  let old ← IO.FS.readBinFile logPath.write
  if overflows old.toList line then shiftBackups
  IO.FS.withFile logPath.write .append fun handle => handle.putStr line

/-- End a run: write to its log what is not there yet, and its texts. -/
def finish (known : Nat) (o : Outcome) : IO UInt32 := do
  ((o.lines.getD []).drop known).forM writeLogLine
  (← IO.getStdout).putStr o.printed
  let stderr ← IO.getStderr
  stderr.putStr o.console
  o.unexpected.forM fun failure => stderr.putStr (failure.message ++ "\n")
  return UInt32.ofNat o.exitCode

/-- Go through a run. -/
def follow (words : List String) : Run → IO UInt32
  | .done o => finish 0 o
  | .openLog resume => do
    match ← openLogFile with
    | some fault => follow words (resume (.error fault))
    | none =>
      let look ← lookAround words
      follow words (resume (.ok look))
  | .save lines path content resume => do
    lines.forM writeLogLine
    finish lines.length (resume (← saveDocument path content))

end FormPress.Main

open FormPress in
/-- Run the command line. -/
def main (words : List String) : IO UInt32 := do
  let environment ← Main.readEnvironment
  Main.follow words (Command.start environment (fun _ => .failure none) words)
