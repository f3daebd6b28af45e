import Emend.Unicode.CharSet
import Emend.Unicode.CaseOrbit

/-!
# Simple case folding

Ignoring case widens a set by the partners of its members: whatever lies in the same case orbit.
-/

namespace Emend.Unicode

/-- The code points of one orbit, written as a row of single ranges. -/
def readOrbit (text : String) : List Nat :=
  ((CharSet.readRow text).map Prod.fst).reverse

def caseOrbits : List (List Nat) :=
  caseOrbitRows.flatMap fun row => (row.splitOn "; ").map readOrbit

/-- The orbits that meet a set. -/
def orbitsOf (set : CharSet) : List (List Nat) :=
  caseOrbits.filter fun orbit => orbit.any set.holds

def foldCase (set : CharSet) : CharSet :=
  match (orbitsOf set).flatten with
  | [] => set
  | partners => set.union (CharSet.ofRanges (partners.map fun code => (code, code)))

end Emend.Unicode
