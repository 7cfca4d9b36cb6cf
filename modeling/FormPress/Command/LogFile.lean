import FormPress.Files.Tree
import FormPress.Log
import FormPress.Text.Utf8

/-!
# The log file

Where log lines go: to the end of `data/formforge.log`, each after the time at which it was written.
Before a line that would fill the file, the file becomes the first of its backups, the first backup
the second and so on; the last is given up. A directory in the place of a backup is in the way: then
the line is dropped.
-/

namespace FormPress.Command

/-- A line of the log as the console and the log file show it. -/
def showLine (l : LogLine) : String :=
  "[" ++ l.level.label ++ "] [" ++ l.speaker.name ++ "] - " ++ l.message

def logPath : FilePath := ⟨0, ["data", "formforge.log"]⟩

/-- The size that the log file stays below, in bytes. -/
def logLimit : Nat := 5 * 1024 * 1024

/-- The number of backups. -/
def backupLimit : Nat := 10

/-- The name of the log file, or of the backup with a number from one on. -/
def logName : Nat → String
  | 0 => "formforge.log"
  | number => "formforge.log." ++ Text.decimal number

/-- Where the log or a backup lies, from the root on. -/
def logPlace (home : List String) (number : Nat) : List String :=
  home ++ ["data", logName number]

/-- Make the log or a backup the next backup, or find that a directory is in the way. -/
def shiftLog (number : Nat) (t : FileTree) : Option FileTree :=
  let source := logPlace t.home number
  let target := logPlace t.home (number + 1)
  match t.entryAt source with
  | none => some t
  | some _ =>
    match t.entryAt target with
    | some .directory => none
    | _ => some ((t.remove target).rename source target)

/-- Shift the log and the backups below a number, the last of them first. Whether all could be
shifted is told; those before one that could not stay where they are then. -/
def rollOver : Nat → FileTree → FileTree × Bool
  | 0, t => (t, true)
  | number + 1, t =>
    match shiftLog number t with
    | none => (t, false)
    | some shifted => rollOver number shifted

/-- Whether a line fills a file that holds something. -/
def overflows (old : List UInt8) (line : String) : Bool :=
  !old.isEmpty && decide (logLimit ≤ old.length + line.length)

/-- Write a line to the log. -/
def writeLine (stamp : String) (t : FileTree) (l : LogLine) : FileTree :=
  let place := logPlace t.home 0
  let line := stamp ++ showLine l ++ "\n"
  let old := (t.fileAt place).getD []
  if overflows old line then
    let rolled := rollOver backupLimit t
    if rolled.2 then rolled.1.put place (Text.Utf8.encode line) else rolled.1
  else t.put place (old ++ Text.Utf8.encode line)

/-- The tree with lines in the log. -/
def addToLog (stamp : String) (lines : List LogLine) (t : FileTree) : FileTree :=
  lines.foldl (writeLine stamp) t

/-- Why the log cannot be opened: a file stands in the place of its directory, or a directory in its
own place. -/
inductive LogFault where
  | noDirectory
  | isDirectory
deriving DecidableEq, Repr

def LogFault.message : LogFault → String
  | .noDirectory => (FileFault.mk .alreadyThere "data").message
  | .isDirectory => "Unable to configure handler 'file'"

/-- The tree with the log open: its file is there. -/
def withLog (t : FileTree) : Except LogFault FileTree :=
  let way := t.makeDirectory logPath.parent
  if way.fault.isSome then .error .noDirectory
  else
    let place := logPlace t.home 0
    match way.tree.entryAt place with
    | some .directory => .error .isDirectory
    | some (.file _) => .ok way.tree
    | none => .ok (way.tree.put place [])

end FormPress.Command
