import Emend.Disk.Fault
import Emend.Disk.Path

/-!
# Disks

A disk holds files and directories, each under the names that lead to it from the root. Paths are
walked from the root or from the working directory; every step asks for a directory to start
from. Each operation either yields the changed disk or leaves the disk as it was.
-/

namespace Emend

namespace Disk

/-- The names that lead to a place from the root. -/
abbrev Location := List String

inductive Node where
  | directory
  | file (content : ByteArray)

/-- Contents are compared byte by byte. -/
instance : DecidableEq Node
  | .directory, .directory => .isTrue rfl
  | .directory, .file _ => .isFalse Node.noConfusion
  | .file _, .directory => .isFalse Node.noConfusion
  | .file first, .file second =>
    if same : first.data = second.data then .isTrue (congrArg Node.file (ByteArray.ext same))
    else .isFalse fun equal => same (congrArg ByteArray.data (Node.file.inj equal))

end Disk

structure Disk where
  entries : List (Disk.Location × Disk.Node)
  workingDirectory : Disk.Location

namespace Disk

/-- What a place holds. The root is a directory. -/
def node? (disk : Disk) (location : Location) : Option Node :=
  if location = [] then some .directory else disk.entries.lookup location

def put (disk : Disk) (location : Location) (node : Node) : Disk :=
  { disk with
    entries := (location, node) :: disk.entries.filter fun entry => entry.1 ≠ location }

def remove (disk : Disk) (location : Location) : Disk :=
  { disk with entries := disk.entries.filter fun entry => entry.1 ≠ location }

/-- Dropping the entries of one place hides that place and no other. -/
theorem lookup_filter_ne (entries : List (Location × Node)) (place location : Location) :
    (entries.filter fun entry => entry.1 ≠ location).lookup place =
      if place = location then none else entries.lookup place := by
  induction entries with
  | nil => simp
  | cons entry rest ih =>
    obtain ⟨key, node⟩ := entry
    by_cases kept : key = location
    · rw [List.filter_cons_of_neg (by simpa using kept), ih]
      by_cases same : place = location
      · rw [if_pos same, if_pos same]
      · rw [if_neg same, if_neg same, List.lookup_cons]
        have other : (place == key) = false := by
          rw [kept]
          exact beq_false_of_ne same
        rw [other]
    · rw [List.filter_cons_of_pos (by simpa using kept), List.lookup_cons, List.lookup_cons, ih]
      by_cases found : place = key
      · have moved : place ≠ location := fun same => kept (found ▸ same)
        rw [if_neg moved, if_neg moved]
      · have other : (place == key) = false := beq_false_of_ne found
        rw [other]

/-- Putting something at a place shows there and nowhere else. -/
theorem node?_put (disk : Disk) (location place : Location) (node : Node) (named : location ≠ []) :
    (disk.put location node).node? place =
      if place = location then some node else disk.node? place := by
  unfold node? put
  by_cases same : place = location
  · rw [if_pos same, same, if_neg named, List.lookup_cons, beq_self_eq_true]
  · rw [if_neg same, List.lookup_cons, beq_false_of_ne same, lookup_filter_ne, if_neg same]

theorem node?_remove (disk : Disk) (location place : Location) (named : location ≠ []) :
    (disk.remove location).node? place =
      if place = location then none else disk.node? place := by
  unfold node? remove
  by_cases same : place = location
  · rw [if_pos same, same, if_neg named, lookup_filter_ne, if_pos rfl]
  · rw [if_neg same, lookup_filter_ne, if_neg same]

/-! ## Walking -/

/-- The number of bytes that a name may have. -/
def maxNameLength : Nat := 255

/-- The number of bytes that no path may reach. -/
def pathLengthBound : Nat := 4096

def checkPath (path : String) : Except Fault Unit :=
  if path.toList.contains '\x00' then .error .nulInName
  else if path.isEmpty then .error .notFound
  else if pathLengthBound ≤ path.utf8ByteSize then .error .nameTooLong
  else .ok ()

def checkName (name : String) : Except Fault Unit :=
  if maxNameLength < name.utf8ByteSize then .error .nameTooLong else .ok ()

def checkDirectory (disk : Disk) (location : Location) : Except Fault Unit :=
  if disk.node? location = some .directory then .ok () else .error .notDirectory

def step (disk : Disk) (location : Location) (step : Path.Step) : Except Fault Location := do
  disk.checkDirectory location
  match step with
  | .stay => return location
  | .up => return location.dropLast
  | .down name =>
    checkName name
    if (disk.node? (location ++ [name])).isNone then throw .notFound
    return location ++ [name]

def startOf (disk : Disk) (route : Path.Route) : Location :=
  if route.fromRoot then [] else disk.workingDirectory

def walk (disk : Disk) (start : Location) (steps : List Path.Step) : Except Fault Location :=
  steps.foldlM disk.step start

def locate (disk : Disk) (path : String) : Except Fault Location := do
  checkPath path
  let route := Path.route path
  let location ← disk.walk (disk.startOf route) route.steps
  if route.slash then disk.checkDirectory location
  return location

/-- Where a path points whose last name need not exist. -/
inductive Target where
  /-- A path that ends in a step other than a name. -/
  | place
  /-- A name in a directory, perhaps with a slash behind it. -/
  | entry (directory : Location) (name : String) (slash : Bool)
deriving DecidableEq, Repr

/-- Walk a path up to its last name. -/
def target (disk : Disk) (path : String) : Except Fault Target := do
  checkPath path
  let route := Path.route path
  let directory ← disk.walk (disk.startOf route) route.steps.dropLast
  disk.checkDirectory directory
  match route.steps.getLast? with
  | some (.down name) => return .entry directory name route.slash
  | _ => return .place

/-! ## Questions -/

def leads (disk : Disk) (path : String) : Bool := (disk.locate path).isOk

def isDirectory (disk : Disk) (path : String) : Bool :=
  match disk.locate path with
  | .ok location => disk.node? location = some .directory
  | .error _ => false

def read (disk : Disk) (path : String) : Except Fault ByteArray := do
  match disk.node? (← disk.locate path) with
  | some (.file content) => return content
  | _ => throw .isDirectory

def readText (disk : Disk) (path : String) : Except Fault String := do
  match String.fromUTF8? (← disk.read path) with
  | some text => return text
  | none => throw .notText

/-! ## Changes -/

/-- Give a file a content, and make the file if there is none. -/
def write (disk : Disk) (path : String) (content : ByteArray) : Except Fault Disk := do
  match ← disk.target path with
  | .place => throw .isDirectory
  | .entry directory name slash =>
    if slash then throw .isDirectory
    checkName name
    let location := directory ++ [name]
    if disk.node? location = some .directory then throw .isDirectory
    return disk.put location (.file content)

def copy (disk : Disk) (source path : String) : Except Fault Disk := do
  match disk.node? (← disk.locate source) with
  | some (.file content) => disk.write path content
  | _ => throw .notRegular

/-- Make a directory where nothing is. -/
def makeDirectory (disk : Disk) (path : String) : Except Fault Disk := do
  match ← disk.target path with
  | .place => throw .alreadyExists
  | .entry directory name _ =>
    checkName name
    let location := directory ++ [name]
    if (disk.node? location).isSome then throw .alreadyExists
    return disk.put location .directory

/-- Make the first one of several directories, each in the next one, and with it those of the
others that are missing. What is made stays when a later step is refused. -/
def makeChain (disk : Disk) : List String → Except Fault Unit × Disk
  | [] => (.ok (), disk)
  | path :: outer =>
    match disk.makeDirectory path with
    | .ok disk => (.ok (), disk)
    | .error .notFound =>
      match disk.makeChain outer with
      | (.error fault, disk) => (.error fault, disk)
      | (.ok (), disk) =>
        match disk.makeDirectory path with
        | .ok disk => (.ok (), disk)
        | .error fault => (if disk.isDirectory path then .ok () else .error fault, disk)
    | .error fault => (if disk.isDirectory path then .ok () else .error fault, disk)

/-- Make a directory and those that it lies in, unless they are there. -/
def makeDirectories (disk : Disk) (path : String) : Except Fault Unit × Disk :=
  disk.makeChain ((path :: Path.outer path).filter fun path => !path.isEmpty)

/-! ## Temporary files -/

def temporaryName (index : Nat) : String := ".tmp" ++ toString index

def freeName (disk : Disk) (directory : Location) : String :=
  let isFree index := (disk.node? (directory ++ [temporaryName index])).isNone
  temporaryName (((List.range (disk.entries.length + 1)).find? isFree).getD 0)

/-- The number of bytes set aside for the name of a temporary file. -/
def temporaryNameLength : Nat := 10

def fromRoot (disk : Disk) (path : String) : String :=
  if path.toList.head? = some '/' then path
  else String.join (disk.workingDirectory.map ("/" ++ ·)) ++ "/" ++ path

/-- The number of bytes in the path of a temporary file in a directory. The path starts at the
root. -/
def temporaryPathLength (disk : Disk) (directory : String) : Nat :=
  (disk.fromRoot directory).utf8ByteSize + 1 + temporaryNameLength

def checkTemporary (disk : Disk) (directory : String) : Except Fault Unit :=
  if pathLengthBound ≤ disk.temporaryPathLength directory then .error .nameTooLong else .ok ()

/-- Make a temporary file in a directory; its place and the changed disk. -/
def makeTemporary (disk : Disk) (directory : String) (content : ByteArray) :
    Except Fault (Location × Disk) := do
  checkPath directory
  disk.checkTemporary directory
  let parent ← disk.locate directory
  disk.checkDirectory parent
  let location := parent ++ [disk.freeName parent]
  return (location, disk.put location (.file content))

/-- Move a file from a place to a path, over the file that is there. -/
def rename (disk : Disk) (source : Location) (path : String) : Except Fault Disk := do
  match ← (disk.target path).mapError fun fault =>
      if fault = .nulInName then .invalidTarget else fault with
  | .place => throw .busy
  | .entry directory name slash =>
    checkName name
    if slash then throw .notDirectory
    let location := directory ++ [name]
    match disk.node? location, disk.node? source with
    | some .directory, _ => throw .isDirectory
    | _, some node => return (disk.remove source).put location node
    | _, none => throw .notFound

end Disk

end Emend
