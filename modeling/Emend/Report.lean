/-!
# Reports

A report lists what each rule of a run did, in the order in which the rules ran.
-/

namespace Emend

structure Outcome where
  ruleIndex : Nat
  ruleName : String
  matchCount : Nat
  applied : Bool
  unterminated : Nat
deriving DecidableEq, Repr, Inhabited

structure Report where
  outcomes : List Outcome
deriving DecidableEq, Repr, Inhabited

namespace Report

def empty : Report := ⟨[]⟩

def push (report : Report) (outcome : Outcome) : Report := ⟨report.outcomes ++ [outcome]⟩

def size (report : Report) : Nat := report.outcomes.length

def isEmpty (report : Report) : Bool := report.outcomes.isEmpty

def unapplied (report : Report) : List Outcome :=
  report.outcomes.filter fun outcome => !outcome.applied

def allApplied (report : Report) : Bool := report.outcomes.all Outcome.applied

/-- The number of regions replaced by all rules. It is a natural number, which does not overflow. -/
def totalMatches (report : Report) : Nat :=
  report.outcomes.foldr (fun outcome total => outcome.matchCount + total) 0

def unappliedNames (report : Report) : List String := report.unapplied.map Outcome.ruleName

end Report

/-! ## Strict runs -/

structure Unapplied where
  names : List String
deriving DecidableEq, Repr, Inhabited

def Unapplied.message (unapplied : Unapplied) : String :=
  "Rules did not apply: " ++ ", ".intercalate unapplied.names

/-- Refuse a report in which a rule did not apply. -/
def Report.require (report : Report) : Except Unapplied Unit :=
  if report.allApplied then .ok () else .error ⟨report.unappliedNames⟩

end Emend
