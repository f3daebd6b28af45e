import Emend.Pattern.Basic
import Emend.Rule.Spec
import Emend.Template.Parser

/-!
# Compiled rules

Compiling a rule checks its pattern, its terminator, that a deletion has no replacement, and the
replacement template, in this order. A rule that compiles can be applied to any buffer.
-/

namespace Emend

/-- Why a rule does not compile. The rule goes by the name that reports use. -/
inductive RuleError where
  | pattern (rule : String) (error : Pattern.Error)
  | template (rule : String) (fault : Template.Fault)
  /-- A deletion with a replacement. -/
  | replacementOfErased (rule : String)
deriving DecidableEq, Repr

def RuleError.message : RuleError → String
  | .pattern rule error => "Pattern error in rule '" ++ rule ++ "': " ++ error.message
  | .template rule fault => "Template error in rule '" ++ rule ++ "': " ++ fault.message
  | .replacementOfErased rule =>
    "Invalid rule '" ++ rule ++ "': erase-region rules cannot have a replacement"

structure Rule where
  name : String
  pattern : Pattern
  terminator : Option Pattern
  template : Template
  mode : Mode
deriving DecidableEq, Repr

namespace Rule

/-- The flags that patterns of rules start with: anchors match at lines, and a dot matches line
ends too. -/
def patternSettings : Pattern.Settings := { multiLine := true, dotAll := true }

def compilePattern (rule : String) (limit : Nat) (source : String) : Except RuleError Pattern :=
  (Pattern.compile patternSettings limit source).mapError (.pattern rule)

def compileTerminator (rule : String) (limit : Nat) :
    Option String → Except RuleError (Option Pattern)
  | none => .ok none
  | some source => (compilePattern rule limit source).map some

def compile (limit : Nat) (spec : RuleSpec) : Except RuleError Rule := do
  let name := spec.displayName
  let pattern ← compilePattern name limit spec.pattern
  let terminator ← compileTerminator name limit spec.terminator
  if spec.mode = .eraseRegion && !spec.replacement.isEmpty then
    throw (.replacementOfErased name)
  let template ← (Template.parse pattern.groupNames spec.replacement).mapError (.template name)
  return { name, pattern, terminator, template, mode := spec.mode }

def description (rule : Rule) : String :=
  let start := rule.mode.name ++ " /" ++ rule.pattern.source ++ "/"
  match rule.terminator with
  | none => start
  | some terminator => start ++ " until /" ++ terminator.source ++ "/"

end Rule

end Emend
