import Emend.Disk.Basic
import Emend.Event
import Emend.Revision.Failure

/-!
# Sessions

A session is a disk that is worked on and the log of the work. An action may change the session
and then either yields a value or fails; what it changed before it fails stays changed.
-/

namespace Emend

structure Session where
  disk : Disk
  log : List Event

abbrev Action := ExceptT Failure (StateM Session)

namespace Action

def emit (event : Event) : Action Unit :=
  modify fun session => { session with log := session.log ++ [event] }

def emitAll (events : List Event) : Action Unit :=
  modify fun session => { session with log := session.log ++ events }

def inspect {α : Type} (path : String) (question : Disk → Except Disk.Fault α) : Action α := do
  match question (← get).disk with
  | .ok answer => return answer
  | .error fault => throw (.disk path fault)

/-- Change the disk, on behalf of a path; what is refused changes nothing. -/
def change (path : String) (operation : Disk → Except Disk.Fault Disk) : Action Unit := do
  match operation (← get).disk with
  | .ok disk => modify fun session => { session with disk }
  | .error fault => throw (.disk path fault)

/-! ## Files -/

def load (path : String) : Action String := inspect path fun disk => disk.readText path

def loadRules (path : String) : Action (List RuleSpec) := do
  match RuleFile.parse path (← load path) with
  | .ok specs => return specs
  | .error error => throw (.ruleFile error)

def save (path text : String) : Action Unit := change path fun disk => disk.write path text.toUTF8

/-- Write a text to a temporary file and move it to a path. When the move is refused, the
temporary file is removed. -/
def saveAtomic (path text : String) : Action Unit := do
  let directory := Path.directoryOf path
  match (← get).disk.makeTemporary directory text.toUTF8 with
  | .error fault => throw (.temporary directory fault)
  | .ok (location, disk) =>
    match disk.rename location path with
    | .ok disk => modify fun session => { session with disk }
    | .error fault =>
      modify fun session => { session with disk := disk.remove location }
      throw (.disk path fault)

/-- Make the directory that a path lies in, unless the path names none. -/
def makeRoom (path : String) : Action Unit := do
  let directory := (Path.parent? path).getD ""
  if !directory.isEmpty then
    let (result, disk) := (← get).disk.makeDirectories directory
    modify fun session => { session with disk }
    match result with
    | .ok () => return
    | .error fault => throw (.disk directory fault)

/-- Copy a file to its backup, if there is a file; the path of the backup. -/
def backUp (path : String) : Action (Option String) := do
  if (← get).disk.leads path then
    let backup := Path.backup path
    change backup fun disk => disk.copy path backup
    return some backup
  else return none

end Action

end Emend
