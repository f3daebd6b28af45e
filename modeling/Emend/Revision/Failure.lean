import Emend.Disk.Fault
import Emend.Report
import Emend.Rule.Basic
import Emend.RuleFile.Basic

/-!
# Failures

Whatever can go wrong between reading a rule file and writing a result. A failure may rest on
another one that has a wording of its own.
-/

namespace Emend

inductive Failure where
  /-- A file operation is refused. -/
  | disk (path : String) (fault : Disk.Fault)
  /-- No temporary file can be made in a directory. The path that was tried is not told, for its
  name is a random one. -/
  | temporary (directory : String) (fault : Disk.Fault)
  | rule (error : RuleError)
  | ruleFile (error : RuleFile.Error)
  | unapplied (missed : Unapplied)
deriving DecidableEq, Repr

namespace Failure

def diskMessage (path : String) (fault : Disk.Fault) : String :=
  "I/O error on " ++ path ++ ": " ++ fault.message

def message : Failure → String
  | disk path fault => diskMessage path fault
  | temporary directory fault => diskMessage directory fault
  | rule error => error.message
  | ruleFile error => error.message
  | unapplied missed => missed.message

/-- The wording of what a failure rests on. -/
def cause? : Failure → Option String
  | disk _ fault => some fault.message
  | temporary _ fault => some fault.message
  | rule (.pattern _ error) => some error.message
  | ruleFile (.faulty _ fault) => some fault.message
  | _ => none

end Failure

end Emend
