/-!
# Rule specifications

A rule says which text to look for and what to put in its place. Where a rule has a terminator,
the region that it replaces goes on from the match up to the next match of the terminator.
-/

namespace Emend

inductive Mode where
  /-- The leftmost region alone. -/
  | firstMatch
  /-- Every region. -/
  | replaceAll
  /-- Every region, by nothing. -/
  | eraseRegion
deriving DecidableEq, Repr, Inhabited

namespace Mode

def name : Mode → String
  | firstMatch => "first-match"
  | replaceAll => "replace-all"
  | eraseRegion => "erase-region"

/-- The names that rule files may use, in the order in which messages list them. -/
def acceptedNames : List (String × Mode) := [
  ("first-match", firstMatch),
  ("first-match-only", firstMatch),
  ("replace-all", replaceAll),
  ("erase-region", eraseRegion)]

def ofName? (name : String) : Option Mode := acceptedNames.lookup name

theorem ofName?_name (mode : Mode) : ofName? mode.name = some mode := by
  cases mode <;> decide

end Mode

structure RuleSpec where
  name : String := ""
  pattern : String := ""
  replacement : String := ""
  mode : Mode := .firstMatch
  /-- The pattern in front of whose next match a region ends. -/
  terminator : Option String := none
deriving DecidableEq, Repr, Inhabited

namespace RuleSpec

def firstMatch (name pattern replacement : String) : RuleSpec :=
  { name, pattern, replacement, mode := .firstMatch }

def replaceAll (name pattern replacement : String) : RuleSpec :=
  { name, pattern, replacement, mode := .replaceAll }

def eraseRegion (name pattern : String) : RuleSpec :=
  { name, pattern, mode := .eraseRegion }

def withTerminator (spec : RuleSpec) (terminator : String) : RuleSpec :=
  { spec with terminator := some terminator }

def displayName (spec : RuleSpec) : String :=
  if spec.name.isEmpty then "<unnamed>" else spec.name

end RuleSpec

end Emend
