import Emend.Revision.Basic

/-!
# Command-line arguments

Arguments are taken one after another. An option waits for its value in the next argument, unless
the value is attached; it is settled when the argument after that begins something else. The
first fault decides, and so does a request for help or for the version.
-/

namespace Emend.Cli

/-! ## What arguments stand for -/

inductive Flag where
  | dryRun
  | strict
  | atomic
  | backup
  | report
  | verbose
deriving DecidableEq, Repr

/-- What a value is given for. -/
inductive Slot where
  | rules
  | output
  | file
deriving DecidableEq, Repr

inductive Meaning where
  | flag (flag : Flag)
  | slot (slot : Slot)
  | help
  | version
deriving DecidableEq, Repr

def longNames : List (String × Meaning) := [
  ("rules", .slot .rules),
  ("output", .slot .output),
  ("dry-run", .flag .dryRun),
  ("strict", .flag .strict),
  ("atomic", .flag .atomic),
  ("backup", .flag .backup),
  ("report", .flag .report),
  ("verbose", .flag .verbose),
  ("help", .help),
  ("version", .version)]

def shortNames : List (Char × Meaning) := [
  ('r', .slot .rules),
  ('o', .slot .output),
  ('v', .flag .verbose),
  ('h', .help),
  ('V', .version)]

inductive UsageFault where
  /-- A value that has to be given is not. -/
  | missing (slot : Slot)
  /-- An argument that stands for nothing. -/
  | unknown (argument : String)
  /-- An option without a value, or with an empty one. -/
  | noValue (slot : Slot)
  /-- A value given twice. -/
  | repeatedSlot (slot : Slot)
  /-- A switch given twice. -/
  | repeatedFlag (flag : Flag)
  /-- A value attached to what takes none. -/
  | unwantedValue (value : String)
deriving DecidableEq, Repr

def Slot.name : Slot → String
  | .rules => "--rules <RULES>"
  | .output => "--output <PATH>"
  | .file => "<FILE>"

def Flag.name (flag : Flag) : String :=
  match longNames.find? fun entry => entry.2 = .flag flag with
  | some (name, _) => "--" ++ name
  | none => ""

def UsageFault.message : UsageFault → String
  | missing slot => "error: " ++ slot.name ++ " was not provided"
  | unknown argument => "error: unexpected argument '" ++ argument ++ "'"
  | noValue slot => "error: " ++ slot.name ++ " needs a value"
  | repeatedSlot slot => "error: " ++ slot.name ++ " cannot be used multiple times"
  | repeatedFlag flag => "error: " ++ flag.name ++ " cannot be used multiple times"
  | unwantedValue value => "error: unexpected value '" ++ value ++ "'"

inductive Stop where
  | help
  | version
  | usage (fault : UsageFault)
deriving DecidableEq, Repr

/-! ## Arguments read so far -/

/-- What the arguments so far say. -/
structure Progress where
  flags : List Flag := []
  values : List (Slot × String) := []
  /-- What is still to be settled, with its value if there is one yet. -/
  pending : Option (Slot × Option String) := none
  /-- Whether a file was named. -/
  fileNamed : Bool := false
  /-- Whether options are over. -/
  optionsOver : Bool := false
deriving DecidableEq, Repr

namespace Progress

def store (progress : Progress) (slot : Slot) (value : String) : Except Stop Progress :=
  if (progress.values.lookup slot).isSome then .error (.usage (.repeatedSlot slot))
  else if value.isEmpty then .error (.usage (.noValue slot))
  else .ok { progress with values := progress.values ++ [(slot, value)], pending := none }

def settle (progress : Progress) : Except Stop Progress :=
  match progress.pending with
  | none => .ok progress
  | some (slot, none) => .error (.usage (.noValue slot))
  | some (slot, some value) => progress.store slot value

def set (progress : Progress) (flag : Flag) : Except Stop Progress := do
  let progress ← progress.settle
  if progress.flags.contains flag then throw (.usage (.repeatedFlag flag))
  return { progress with flags := progress.flags ++ [flag] }

def take (progress : Progress) (value? : Option String) : Meaning → Except Stop Progress
  | .flag flag => progress.set flag
  | .slot slot => do
    let progress ← progress.settle
    match value? with
    | some value => progress.store slot value
    | none => return { progress with pending := some (slot, none) }
  | .help => do
    discard progress.settle
    throw .help
  | .version => do
    discard progress.settle
    throw .version

def waits (progress : Progress) : Bool :=
  match progress.pending with
  | some (_, none) => true
  | _ => false

/-- Take an argument that is no option. -/
def name (progress : Progress) (argument : String) : Except Stop Progress := do
  if progress.fileNamed then throw (.usage (.unknown argument))
  let progress ← progress.settle
  return { progress with pending := some (.file, some argument), fileNamed := true }

/-- Give what is pending its value. -/
def fill (progress : Progress) (value : String) : Progress :=
  { progress with pending := progress.pending.map fun (slot, _) => (slot, some value) }

/-! ## Options -/

/-- Split a text at the first equals sign. -/
def splitValue : List Char → List Char × Option (List Char)
  | [] => ([], none)
  | c :: text =>
    if c = '=' then ([], some text)
    else
      let (name, value?) := splitValue text
      (c :: name, value?)

/-- Take an option with a long name, after its two hyphens. -/
def long (progress : Progress) (text : List Char) : Except Stop Progress :=
  let (name, value?) := splitValue text
  let value? := value?.map String.ofList
  match longNames.lookup (String.ofList name), value? with
  | none, _ => .error (.usage (.unknown (String.ofList text)))
  | some (.slot slot), _ => progress.take value? (.slot slot)
  | some _, some value => .error (.usage (.unwantedValue value))
  | some meaning, none => progress.take none meaning

/-- Take options with short names, after their hyphen. The rest of the argument is the value of
the first one that takes a value. -/
def short (progress : Progress) : List Char → Except Stop Progress
  | [] => .ok progress
  | c :: rest =>
    match shortNames.lookup c with
    | none => .error (.usage (.unknown (String.singleton c)))
    | some (.slot slot) =>
      let value? :=
        match rest with
        | [] => none
        | '=' :: value => some (String.ofList value)
        | value => some (String.ofList value)
      progress.take value? (.slot slot)
    | some meaning => do (← progress.take none meaning).short rest

def step (progress : Progress) (argument : String) : Except Stop Progress :=
  if progress.optionsOver then progress.name argument
  else
    match argument.toList with
    | ['-', '-'] => .ok { progress with optionsOver := true }
    | '-' :: '-' :: text => progress.long text
    | '-' :: c :: text => progress.short (c :: text)
    | _ => if progress.waits then .ok (progress.fill argument) else progress.name argument

end Progress

/-! ## Options of a run -/

structure Options where
  /-- The path of the rule file. -/
  rules : String
  /-- The path of the file to be revised. -/
  file : String
  /-- Print the report. -/
  report : Bool
  /-- Show what matters little, too. -/
  verbose : Bool
  revision : Revision
deriving DecidableEq, Repr

def Progress.require (progress : Progress) (slot : Slot) : Except Stop String :=
  match progress.values.lookup slot with
  | some value => .ok value
  | none => .error (.usage (.missing slot))

def Progress.options (progress : Progress) : Except Stop Options := do
  let has flag := progress.flags.contains flag
  return {
    rules := ← progress.require .rules
    file := ← progress.require .file
    report := has .report
    verbose := has .verbose
    revision := {
      writeMode := if has .atomic then .atomic else .inPlace
      backup := has .backup
      dryRun := has .dryRun
      strict := has .strict
      output := progress.values.lookup .output } }

def Options.ofArguments (arguments : List String) : Except Stop Options := do
  let progress ← arguments.foldlM Progress.step {}
  (← progress.settle).options

end Emend.Cli
