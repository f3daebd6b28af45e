import Emend.Cli.Arguments
import Emend.Report.Writer

/-!
# Runs of the program

A run reads the rule file, compiles the rules, revises the file, and tells what became of it. A
failure is told with what the run was about to do.
-/

namespace Emend.Cli

inductive Purpose where
  | loadRules (path : String)
  | compileRules (path : String)
  | revise (path : String)
deriving DecidableEq, Repr

def Purpose.message : Purpose → String
  | loadRules path => "Failed to load rules from " ++ path
  | compileRules path => "Invalid rule in " ++ path
  | revise path => "Failed to rewrite " ++ path

structure Trouble where
  purpose : Purpose
  failure : Failure
deriving DecidableEq, Repr

/-- What failed, why, and what that rests on. -/
def Trouble.chain (trouble : Trouble) : List String :=
  trouble.purpose.message :: trouble.failure.message :: trouble.failure.cause?.toList

def Trouble.message (trouble : Trouble) : String := ": ".intercalate trouble.chain

/-! ## Work that prints -/

structure Console where
  session : Session
  printed : String

/-- Work on a session on behalf of a run. -/
abbrev Task := ExceptT Trouble (StateM Console)

def toward {α : Type} (purpose : Purpose) (action : Action α) : Task α := do
  let console ← get
  let (result, session) := action.run console.session
  set { console with session }
  match result with
  | .ok value => return value
  | .error failure => throw ⟨purpose, failure⟩

def print (text : String) : Task Unit :=
  modify fun console => { console with printed := console.printed ++ text }

/-! ## Runs -/

/-- The line that tells what became of a file. -/
def headline (options : Options) (summary : Summary) : String :=
  match summary.output with
  | some output =>
    "Rewrite complete: " ++ output ++ " now has " ++ toString summary.lineCount ++ " lines\n"
  | none =>
    "Dry run: " ++ options.file ++ " would have " ++ toString summary.lineCount ++ " lines\n"

/-- Tell what became of a file, and if that is wanted what each rule did. -/
def tell (options : Options) (summary : Summary) : Task Unit := do
  print (headline options summary)
  if options.report then print (summary.report.write ++ "\n")

def perform (options : Options) : Task Summary := do
  let specs ← toward (.loadRules options.rules) do
    let specs ← Action.loadRules options.rules
    Action.emit (.rulesLoaded specs.length)
    return specs
  let pipeline ← toward (.compileRules options.rules) (options.revision.compile specs)
  let summary ← toward (.revise options.file) (options.revision.revise pipeline options.file)
  tell options summary
  return summary

/-- Do what is asked on a session; what was done and what was printed. -/
def run (options : Options) : ExceptT Trouble (StateM Session) (Summary × String) :=
  fun session =>
    match (perform options).run ⟨session, ""⟩ with
    | (.ok summary, console) => (.ok (summary, console.printed), console.session)
    | (.error trouble, console) => (.error trouble, console.session)

end Emend.Cli
