import Emend.Pipeline
import Emend.Revision.Session
import Emend.Text.Lines

/-!
# Revisions

A revision reads a file, runs a pipeline over its text, and writes the result back or somewhere
else. Nothing is written before every rule has run and, in a strict revision, applied.
-/

namespace Emend

inductive WriteMode where
  /-- Over the file that is there. -/
  | inPlace
  /-- To a temporary file that then takes the place of the other one. -/
  | atomic
deriving DecidableEq, Repr

structure Revision where
  writeMode : WriteMode := .inPlace
  /-- Keep a copy of what is overwritten. -/
  backup : Bool := false
  /-- Write nothing. -/
  dryRun : Bool := false
  /-- Fail unless every rule applies. -/
  strict : Bool := false
  /-- Where the result goes, if not back to its source. -/
  output : Option String := none
  /-- The limit on the weight of each pattern. -/
  weightLimit : Nat := Pattern.defaultWeightLimit
deriving DecidableEq, Repr

structure Summary where
  source : String
  /-- Where the result was written, if it was. -/
  output : Option String
  backup : Option String
  /-- Whether the result differs from the source. -/
  changed : Bool
  /-- The number of lines of the result. -/
  lineCount : Nat
  report : Report
deriving DecidableEq, Repr

def Summary.written (summary : Summary) : Bool := summary.output.isSome

namespace Revision

def write (revision : Revision) (path text : String) : Action Unit :=
  match revision.writeMode with
  | .inPlace => Action.save path text
  | .atomic => Action.saveAtomic path text

def emendFile (revision : Revision) (pipeline : Pipeline) (source : String) :
    Action (String × Emended) := do
  let text ← Action.load source
  let run := pipeline.run { sourceFile := some source } text
  Action.emitAll run.log
  if revision.strict then
    match run.report.require with
    | .ok () => pure ()
    | .error missed => throw (.unapplied missed)
  return (text, run.toEmended)

def summarize (source text : String) (emended : Emended) : Summary where
  source := source
  output := none
  backup := none
  changed := emended.buffer ≠ text
  lineCount := lineCount emended.buffer
  report := emended.report

def deliver (revision : Revision) (summary : Summary) (text : String) : Action Summary := do
  let output := revision.output.getD summary.source
  Action.makeRoom output
  let backup ← if revision.backup then Action.backUp output else pure none
  revision.write output text
  Action.emit (.written output summary.lineCount summary.report.totalMatches)
  return { summary with output := some output, backup }

def revise (revision : Revision) (pipeline : Pipeline) (source : String) : Action Summary := do
  let (text, emended) ← revision.emendFile pipeline source
  let summary := summarize source text emended
  if revision.dryRun then
    Action.emit (.nothingWritten source)
    return summary
  else revision.deliver summary emended.buffer

def compile (revision : Revision) (specs : List RuleSpec) : Action Pipeline :=
  match Pipeline.ofSpecs revision.weightLimit specs with
  | .ok pipeline => return pipeline
  | .error error => throw (.rule error)

/-- Compile rules and revise a file with them. The rules are compiled before the file is read. -/
def run (revision : Revision) (specs : List RuleSpec) (source : String) : Action Summary := do
  revision.revise (← revision.compile specs) source

end Revision

end Emend
