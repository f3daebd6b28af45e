import Emend.Pattern.Expr

/-!
# The weight of an expression

Before an expression is compiled its weight in bytes is held against a limit, so that counted
repetitions cannot blow up. The weight is that of an automaton over the bytes of the text, with
every repetition written out. Plain literals are searched without an automaton and weigh nothing.
For very long literals, and where the limit is far from the usual one, it is an approximation.
-/

namespace Emend.Pattern

/-! ## Ranges of code points as ranges of bytes -/

abbrev ByteRange := Nat × Nat

/-- The byte ranges that together encode the numbers between two bounds with one lead byte and
`more` bytes of six bits each; `lead` and `next` are what the bytes count from. -/
def byteSequences (lead next : Nat) : (more : Nat) → (first last : Nat) → List (List ByteRange)
  | 0, first, last => [[(lead + first, lead + last)]]
  | more + 1, first, last =>
    let unit := 64 ^ (more + 1)
    let high := first / unit
    let high' := last / unit
    let low := first % unit
    let low' := last % unit
    let below (fixed first last : Nat) :=
      (byteSequences next next more first last).map ((lead + fixed, lead + fixed) :: ·)
    if high = high' then below high low low'
    else
      let middle := if low = 0 then high else high + 1
      let middle' := if low' + 1 = unit then high' + 1 else high'
      (if low = 0 then [] else below high low (unit - 1)) ++
      (if middle < middle' then
        [(lead + middle, lead + middle' - 1) :: List.replicate (more + 1) (next, next + 63)]
      else []) ++
      (if low' + 1 = unit then [] else below high' 0 low')

/-- The first and the last code point of each encoded length, with the number of bytes after the
lead byte and what the lead byte counts from. Surrogates have no encoding. -/
def encodedLengths : List (Nat × Nat × Nat × Nat) :=
  [(0, 0x7F, 0, 0), (0x80, 0x7FF, 1, 0xC0), (0x800, 0xD7FF, 2, 0xE0), (0xE000, 0xFFFF, 2, 0xE0),
    (0x10000, 0x10FFFF, 3, 0xF0)]

def encodedSequences (range : Nat × Nat) : List (List ByteRange) :=
  encodedLengths.flatMap fun (first, last, more, lead) =>
    let first := max first range.1
    let last := min last range.2
    if first ≤ last then byteSequences lead 0x80 more first last else []

/-! ## States -/

def stateWeight : Nat := 32

def transitionWeight : Nat := 8

def branchWeight : Nat := 4

def forkWeight : Nat := stateWeight + 2 * branchWeight

/-- The number of members that a list has beyond those that it shares with another one in
front. -/
def newMembers : List ByteRange → List ByteRange → Nat
  | known :: rest, range :: ranges =>
    if known = range then newMembers rest ranges else ranges.length + 1
  | _, ranges => ranges.length

/-- The weight of states that read one of several sequences, where sequences with a common front
share its states. `previous` is the sequence before. -/
def sequencesWeight (previous : List ByteRange) : List (List ByteRange) → Nat
  | [] => 0
  | sequence :: rest =>
    newMembers previous sequence * stateWeight + branchWeight + sequencesWeight sequence rest

def setWeight (members : CharSet) : Nat :=
  let ranges := members.ranges.toList
  2 * stateWeight +
    if ranges.all (·.2 ≤ 0x7F) then transitionWeight * ranges.length
    else sequencesWeight [] (ranges.flatMap encodedSequences)

namespace Expr

def weight : Expr → Nat
  | empty => stateWeight
  | literal chars => stateWeight * (chars.map Char.utf8Size).sum
  | set members => setWeight members
  | look _ => stateWeight
  | capture _ _ inner => inner.weight + 2 * stateWeight
  | repetition 0 none _ inner =>
    inner.weight + if inner.consumes then forkWeight else 2 * forkWeight + stateWeight
  | repetition least none _ inner => least * inner.weight + forkWeight
  | repetition least (some most) _ inner =>
    most * inner.weight + (most - least) * forkWeight + if least = most then 0 else stateWeight
  | seq first rest => first.weight + rest.weight
  | choice first rest => first.weight + rest.weight + stateWeight + branchWeight

/-- Whether an expression is a literal or a choice between literals. -/
def isPlain : Expr → Bool
  | literal _ => true
  | choice first rest => first.isPlain && rest.isPlain
  | _ => false

/-- The weight of what surrounds an expression in its automaton: a loop that passes over any
byte, the whole match as a group, and the accepting state. -/
def frameWeight : Nat := forkWeight + (2 * stateWeight + transitionWeight) + 3 * stateWeight

/-- Whether an expression is within a limit on the weight of its automaton. -/
def fits (expr : Expr) (limit : Nat) : Bool :=
  expr.isPlain || expr.weight + frameWeight ≤ limit

end Expr

end Emend.Pattern
