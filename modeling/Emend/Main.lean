import Emend.Cli.Basic
import Emend.Cli.Help

/-!
# The program

The places that a run can reach are read into a disk, the run works on that disk, and what it
changed is carried over.
-/

namespace Emend.Cli

/-! ## Between disks -/

def pathOf (location : Disk.Location) : String := "/" ++ "/".intercalate location

/-- The places that a route passes, if every step leads on. -/
def placesAlong (start : Disk.Location) (steps : List Path.Step) : List Disk.Location :=
  steps.scanl (fun location step =>
    match step with
    | .stay => location
    | .up => location.dropLast
    | .down name => location ++ [name]) start

def readNode (location : Disk.Location) : IO (Option Disk.Node) := do
  let path := pathOf location
  let isDirectory ← try (← IO.FS.realPath path).isDir catch _ => pure false
  if isDirectory then return some .directory
  try
    return some (.file (← IO.FS.readBinFile path))
  catch _ => return none

def readDisk (paths : List String) : IO Disk := do
  let workingDirectory := (placesAlong [] (Path.route (← IO.currentDir).toString).steps).getLast?
  let empty : Disk := ⟨[], workingDirectory.getD []⟩
  let routes := paths.map Path.route
  let places := placesAlong [] (empty.workingDirectory.map .down) ++
    routes.flatMap fun route => placesAlong (empty.startOf route) route.steps
  places.foldlM (fun disk location => do
    match ← readNode location with
    | some node => return disk.put location node
    | none => return disk) empty

/-- Carry over what became different at one place. A file may be put in place of another one in
one step. -/
def writeNode (writeMode : WriteMode) (location : Disk.Location) : Disk.Node → IO Unit
  | .directory => IO.FS.createDirAll (pathOf location)
  | .file content =>
    match writeMode with
    | .inPlace => IO.FS.writeBinFile (pathOf location) content
    | .atomic => do
      let beside := pathOf location ++ ".tmp"
      IO.FS.writeBinFile beside content
      IO.FS.rename beside (pathOf location)

def writeChanges (writeMode : WriteMode) (before after : Disk) : IO Unit :=
  after.entries.reverse.forM fun (location, node) =>
    if before.node? location = some node then pure () else writeNode writeMode location node

/-! ## Runs -/

def pathsOf (options : Options) : List String :=
  let output := options.revision.output.getD options.file
  [options.rules, options.file, output, Path.backup output]

def eventLine (event : Event) : String :=
  let value : FieldValue → String
    | .text value => value
    | .number value => toString value
  let fields := event.fields.map fun (name, field) => " " ++ name ++ "=" ++ value field
  event.level.name ++ " " ++ event.message ++ String.join fields

def showEvents (verbose : Bool) (log : List Event) : IO Unit :=
  (log.filter fun event => verbose || event.level ≠ .debug).forM fun event =>
    IO.eprintln (eventLine event)

def execute (options : Options) : IO UInt32 := do
  let before ← readDisk (pathsOf options)
  let (result, session) := (run options).run ⟨before, []⟩
  showEvents options.verbose session.log
  writeChanges options.revision.writeMode before session.disk
  match result with
  | .ok (_, output) =>
    IO.print output
    return 0
  | .error trouble =>
    IO.eprintln ("Error: " ++ trouble.message)
    return 1

end Emend.Cli

def main (arguments : List String) : IO UInt32 := do
  match Emend.Cli.Options.ofArguments arguments with
  | .ok options => Emend.Cli.execute options
  | .error .help =>
    IO.print Emend.Cli.helpText
    return 0
  | .error .version =>
    IO.print Emend.Cli.versionText
    return 0
  | .error (.usage fault) =>
    IO.eprintln fault.message
    return 2
