import Emend.Event
import Emend.Report
import Emend.Rule.Scan

/-!
# Pipelines

A pipeline threads one buffer through transformations in order: what one leaves is what the next
one gets. A run yields the final buffer, a report with one outcome for each transformation, and
the events on the way. Rules can be compiled all up front, or each one right before it runs; in
the second case a rule that does not compile stops the run, and the rules before it keep their
effect.
-/

namespace Emend

structure Context where
  sourceFile : Option String := none
deriving DecidableEq, Repr, Inhabited

def Context.label (context : Context) : String := context.sourceFile.getD "<buffer>"

/-- Anything that emends a buffer and counts what it replaced. One that hands its buffer back has
emended it to the same text. -/
structure Transformation where
  name : String
  description : String := ""
  emend : Context → String → Emendation

def Rule.transformation (rule : Rule) : Transformation where
  name := rule.name
  description := rule.description
  emend _ buffer := rule.emend buffer

/-! ## Runs -/

structure Emended where
  buffer : String
  report : Report
deriving DecidableEq, Repr, Inhabited

structure Run extends Emended where
  log : List Event
deriving DecidableEq, Repr, Inhabited

def Run.start (buffer : String) : Run := ⟨⟨buffer, Report.empty⟩, []⟩

def Emendation.outcome (emendation : Emendation) (index : Nat) (name : String) : Outcome where
  ruleIndex := index
  ruleName := name
  matchCount := emendation.matchCount
  applied := 0 < emendation.matchCount
  unterminated := emendation.unterminated

def Outcome.events (outcome : Outcome) (description source : String) : List Event :=
  .applying description outcome.ruleName outcome.ruleIndex ::
    (if 0 < outcome.unterminated then [.unterminated outcome.ruleName source] else []) ++
    (if outcome.matchCount = 0 then [.matchedNothing outcome.ruleName source] else []) ++
    [.finished outcome.ruleName outcome.matchCount]

/-- Run one more transformation, with the given number in the report. -/
def Run.step (context : Context) (run : Run) (index : Nat) (transformation : Transformation) :
    Run :=
  let emendation := transformation.emend context run.buffer
  let outcome := emendation.outcome index transformation.name
  { buffer := emendation.text
    report := run.report.push outcome
    log := run.log ++ outcome.events transformation.description context.label }

/-- Run transformations in order, numbered from `index` on. -/
def Run.steps (context : Context) (run : Run) (index : Nat) : List Transformation → Run
  | [] => run
  | transformation :: rest => (run.step context index transformation).steps context (index + 1) rest

/-! ## Compiled up front -/

structure Pipeline where
  transformations : List Transformation

namespace Pipeline

def empty : Pipeline := ⟨[]⟩

def push (pipeline : Pipeline) (transformation : Transformation) : Pipeline :=
  ⟨pipeline.transformations ++ [transformation]⟩

def size (pipeline : Pipeline) : Nat := pipeline.transformations.length

def names (pipeline : Pipeline) : List String := pipeline.transformations.map Transformation.name

/-- Compile rules; the first one that does not compile decides the error. -/
def ofSpecs (limit : Nat) (specs : List RuleSpec) : Except RuleError Pipeline :=
  return ⟨(← specs.mapM (Rule.compile limit)).map Rule.transformation⟩

def run (pipeline : Pipeline) (context : Context) (buffer : String) : Run :=
  let run := (Run.start buffer).steps context 0 pipeline.transformations
  { run with
    log := run.log ++
      [.rulesApplied context.label run.report.size run.report.totalMatches] }

end Pipeline

/-! ## Compiled step by step -/

/-- A run that a rule stopped by not compiling. -/
structure Interrupted where
  ruleIndex : Nat
  /-- What the rules before it did. -/
  run : Run
  error : RuleError
deriving DecidableEq, Repr

def Interrupted.message (interrupted : Interrupted) : String :=
  "run stopped at rule " ++ toString interrupted.ruleIndex ++ ": " ++ interrupted.error.message

/-- Compile and run rules in turn, numbered from `index` on. -/
def Run.compileSteps (limit : Nat) (context : Context) (run : Run) (index : Nat) :
    List RuleSpec → Except Interrupted Run
  | [] => .ok run
  | spec :: rest =>
    match Rule.compile limit spec with
    | .error error => .error ⟨index, run, error⟩
    | .ok rule =>
      (run.step context index rule.transformation).compileSteps limit context (index + 1) rest

/-- Compile and run each rule before the next one is compiled. -/
def applySpecs (limit : Nat) (context : Context) (specs : List RuleSpec) (buffer : String) :
    Except Interrupted Run :=
  (Run.start buffer).compileSteps limit context 0 specs

end Emend
