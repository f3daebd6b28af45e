import Emend.Pattern.TreeReader
import Emend.Pattern.Meaning
import Emend.Pattern.Weight
import Emend.Pattern.Search

/-!
# Patterns

A pattern is compiled from its text under initial flags and a limit on its weight. The compiled
pattern finds matches and knows its groups by number and by name.
-/

namespace Emend

structure Pattern where
  /-- The text it was written as. -/
  source : String
  program : Pattern.Program
  /-- For each group, the whole match first, its name if it has one. -/
  groupNames : List (Option String)
deriving DecidableEq, Repr, Inhabited

namespace Pattern

/-- The weight that a compiled pattern may have unless told otherwise: ten mebibytes. -/
def defaultWeightLimit : Nat := 10 * Nat.pow 2 20

/-- The names of the groups of an expression, by number. Numbers that no group has count. -/
def namesOf (expr : Expr) : List (Option String) :=
  (List.range (expr.lastGroup + 1)).map fun index => (expr.groups.lookup index).join

def compile (initial : Settings) (limit : Nat) (source : String) : Except Error Pattern :=
  let located : Except LocatedFault (Expr × Settings) := do
    (← Tree.read source).expr initial
  match located with
  | .error fault => .error (.faulty source fault)
  | .ok (expr, _) =>
    if expr.fits limit then .ok ⟨source, .ofExpr expr, namesOf expr⟩
    else .error (.tooLarge limit)

/-- The number of groups, the whole match included. -/
def groupCount (pattern : Pattern) : Nat := pattern.groupNames.length

def find? (pattern : Pattern) (text : Text) (lower : Nat) : Option (Match text lower) :=
  pattern.program.find? text lower

end Pattern

end Emend
