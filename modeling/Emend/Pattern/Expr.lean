import Emend.Unicode.CharSet

/-!
# Expressions

An expression says what a pattern matches, with flags and notation resolved. Sequences and
choices are nested to the right and hold no member of their own kind on the left; the functions
that build expressions keep them in this form.
-/

namespace Emend.Pattern

inductive WordEdge where
  | boundary
  | noBoundary
  | start
  | stop
  | startHalf
  | stopHalf
deriving DecidableEq, Repr

/-- A condition on a position that looks at the characters around it. -/
inductive Look where
  | textStart
  | textEnd
  | lineStart
  | lineEnd
  /-- Like `lineStart`, where a carriage return also ends a line. -/
  | returnLineStart
  /-- Like `lineEnd`, where a carriage return also ends a line. -/
  | returnLineEnd
  | word (edge : WordEdge) (ascii : Bool)
deriving DecidableEq, Repr

inductive Expr where
  | empty
  | literal (chars : List Char)
  | set (members : CharSet)
  | look (which : Look)
  | capture (index : Nat) (name : Option String) (inner : Expr)
  | repetition (least : Nat) (most : Option Nat) (greedy : Bool) (inner : Expr)
  | seq (first rest : Expr)
  | choice (first rest : Expr)
deriving DecidableEq, Repr, Inhabited

namespace Expr

/-! ## Measures -/

def size : Expr → Nat
  | capture _ _ inner => inner.size + 1
  | repetition _ _ _ inner => inner.size + 1
  | seq first rest => first.size + rest.size + 1
  | choice first rest => first.size + rest.size + 1
  | _ => 1

/-- The least length of a match, if the expression can match at all. -/
def minLength? : Expr → Option Nat
  | empty => some 0
  | literal chars => some chars.length
  | set members => if members.isEmpty then none else some 1
  | look _ => some 0
  | capture _ _ inner => inner.minLength?
  | repetition least _ _ inner => inner.minLength?.map (· * least)
  | seq first rest => do return (← first.minLength?) + (← rest.minLength?)
  | choice first rest => do return min (← first.minLength?) (← rest.minLength?)

def maxLength? : Expr → Option Nat
  | empty => some 0
  | literal chars => some chars.length
  | set members => if members.isEmpty then none else some 1
  | look _ => some 0
  | capture _ _ inner => inner.maxLength?
  | repetition _ most _ inner => do return (← inner.maxLength?) * (← most)
  | seq first rest => do return (← first.maxLength?) + (← rest.maxLength?)
  | choice first rest => do return max (← first.maxLength?) (← rest.maxLength?)

def consumes (expr : Expr) : Bool := expr.minLength?.any (0 < ·)

/-! ## Sequences -/

def parts : Expr → List Expr
  | empty => []
  | seq first rest => first :: rest.parts
  | other => [other]

def ofParts : List Expr → Expr
  | [] => empty
  | [part] => part
  | part :: rest => seq part (ofParts rest)

def joinLiterals : List Expr → List Expr
  | [] => []
  | part :: rest =>
    match part, joinLiterals rest with
    | literal first, literal second :: joined => literal (first ++ second) :: joined
    | part, joined => part :: joined

def concat (exprs : List Expr) : Expr := ofParts (joinLiterals (exprs.flatMap parts))

/-! ## Choices -/

def branches : Expr → List Expr
  | choice first rest => first :: rest.branches
  | other => [other]

def ofBranches : List Expr → Expr
  | [] => set CharSet.empty
  | [branch] => branch
  | branch :: rest => choice branch (ofBranches rest)

def ofSet (members : CharSet) : Expr :=
  match members.toChar? with
  | some c => literal [c]
  | none => set members

def toSet? : Expr → Option CharSet
  | literal [c] => some (CharSet.single c)
  | set members => some members
  | _ => none

def toSets? (exprs : List Expr) : Option (List CharSet) := exprs.mapM toSet?

def isSeq : Expr → Bool
  | seq _ _ => true
  | _ => false

def commonFront : List Expr → List Expr → List Expr
  | first :: rest, first' :: rest' =>
    if first = first' then first :: commonFront rest rest' else []
  | _, _ => []

/-- The members that several sequences have in common at the front; none, if one of the
expressions is no sequence. -/
def sharedFront : List Expr → List Expr
  | [] => []
  | branch :: rest =>
    if (branch :: rest).all isSeq then
      rest.foldl (fun front other => commonFront front other.parts) branch.parts
    else []

/-- A choice, tried in order. A front that all branches share is taken out of the choice, and a
choice between single characters is a set. -/
def choose : (fuel : Nat) → List Expr → Expr
  | fuel, exprs =>
    match exprs.flatMap branches with
    | [] => set CharSet.empty
    | [branch] => branch
    | flat =>
      match toSets? flat, sharedFront flat, fuel with
      | some sets, _, _ => ofSet (CharSet.unions sets)
      | none, front@(_ :: _), fuel + 1 =>
        let backs := flat.map fun branch => concat (branch.parts.drop front.length)
        concat (front ++ [choose fuel backs])
      | none, _, _ => ofBranches flat

def alternation (exprs : List Expr) : Expr :=
  choose (exprs.foldl (fun total expr => total + expr.size) 0) exprs

/-! ## Repetitions -/

/-- A repetition. What matches the empty text only is repeated at most once, and counts of zero
and one need no repetition. -/
def iterate (least : Nat) (most : Option Nat) (greedy : Bool) (inner : Expr) : Expr :=
  let onlyEmpty := inner.maxLength? = some 0
  let least := if onlyEmpty then min least 1 else least
  let most := if onlyEmpty then some (most.elim 1 (min · 1)) else most
  if least = 0 && most = some 0 then empty
  else if least = 1 && most = some 1 then inner
  else repetition least most greedy inner

/-! ## Groups -/

def groups : Expr → List (Nat × Option String)
  | capture index name inner => (index, name) :: inner.groups
  | repetition _ _ _ inner => inner.groups
  | seq first rest => first.groups ++ rest.groups
  | choice first rest => first.groups ++ rest.groups
  | _ => []

end Expr

end Emend.Pattern
