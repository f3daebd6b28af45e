import Emend.Pattern.Program
import Emend.Unicode.Property

/-!
# Searching

A search tries the positions of a text from left to right. At each position it follows the
program depth first, preferred continuations first, and never enters the same address at the same
position twice: what failed once fails again.
-/

namespace Emend.Pattern

abbrev Text := Array Char

/-! ## Conditions on a position -/

def Text.before? (text : Text) (position : Nat) : Option Char :=
  if position = 0 then none else text[position - 1]?

def isWordChar (ascii : Bool) (c : Char) : Bool :=
  if ascii then c.isAlphanum || c = '_' else Unicode.wordSet.contains c

def WordEdge.holds (edge : WordEdge) (before after : Bool) : Bool :=
  match edge with
  | .boundary => before != after
  | .noBoundary => before == after
  | .start => !before && after
  | .stop => before && !after
  | .startHalf => !before
  | .stopHalf => !after

def Look.holds (text : Text) (position : Nat) : Look → Bool
  | .textStart => position = 0
  | .textEnd => position = text.size
  | .lineStart => position = 0 || text.before? position = some '\n'
  | .lineEnd => position = text.size || text[position]? = some '\n'
  | .returnLineStart =>
    position = 0 || text.before? position = some '\n' ||
      (text.before? position = some '\r' && text[position]? ≠ some '\n')
  | .returnLineEnd =>
    position = text.size || text[position]? = some '\r' ||
      (text[position]? = some '\n' && text.before? position ≠ some '\r')
  | .word edge ascii =>
    edge.holds ((text.before? position).any (isWordChar ascii))
      (text[position]?.any (isWordChar ascii))

/-! ## Visited places -/

/-- The addresses entered at each position from `base` on, as one bit mask per position. -/
structure Visited where
  base : Nat
  masks : Array Nat

def Visited.none (base : Nat) : Visited := ⟨base, #[]⟩

def Visited.contains (visited : Visited) (address position : Nat) : Bool :=
  (visited.masks.getD (position - visited.base) 0).testBit address

def Visited.insert (visited : Visited) (address position : Nat) : Visited :=
  let index := position - visited.base
  let bit := 1 <<< address
  if index < visited.masks.size then
    { visited with masks := visited.masks.modify index (· ||| bit) }
  else
    let gap := index - visited.masks.size
    { visited with masks := (visited.masks ++ Array.replicate gap 0).push bit }

/-! ## Threads -/

/-- The places of groups: for each slot a position, once it is known. -/
abbrev Slots := List (Option Nat)

/-- A continuation to be tried in a search that began at `origin`. -/
structure Thread (text : Text) (origin : Nat) where
  address : Address
  position : Nat
  slots : Slots
  origin_le : origin ≤ position
  le_size : position ≤ text.size

namespace Thread

variable {text : Text} {origin : Nat}

def goto (thread : Thread text origin) (address : Address) : Thread text origin :=
  { thread with address := address }

def advance (thread : Thread text origin) (address : Address)
    (inside : thread.position < text.size) : Thread text origin where
  address := address
  position := thread.position + 1
  slots := thread.slots
  origin_le := Nat.le_succ_of_le thread.origin_le
  le_size := inside

def save (thread : Thread text origin) (slot : Nat) (address : Address) : Thread text origin :=
  { thread with address := address, slots := thread.slots.set slot (some thread.position) }

def read (thread : Thread text origin) (test : Char → Bool) (address : Address) :
    List (Thread text origin) :=
  if inside : thread.position < text.size then
    if test text[thread.position] then [thread.advance address inside] else []
  else []

/-- The continuations after an instruction, in order of preference. -/
def step (thread : Thread text origin) : Inst → List (Thread text origin)
  | .accept => []
  | .char c next => thread.read (· = c) next
  | .set members next => thread.read members.contains next
  | .look which next => if which.holds text thread.position then [thread.goto next] else []
  | .save slot next => [thread.save slot next]
  | .fork first second => [thread.goto first, thread.goto second]

end Thread

/-! ## Search at one position -/

/-- How a search at one position ends: with a thread that accepts, or with the places visited. -/
inductive Attempt (text : Text) (origin : Nat) where
  | found (thread : Thread text origin)
  | failed (visited : Visited)

def explore {text : Text} {origin : Nat} (program : Program) :
    (fuel : Nat) → List (Thread text origin) → Visited → Attempt text origin
  | 0, _, visited => .failed visited
  | _ + 1, [], visited => .failed visited
  | fuel + 1, thread :: waiting, visited =>
    if visited.contains thread.address thread.position then
      explore program fuel waiting visited
    else
      match program.code[thread.address]? with
      | none => explore program fuel waiting (visited.insert thread.address thread.position)
      | some .accept => .found thread
      | some inst =>
        explore program fuel (thread.step inst ++ waiting)
          (visited.insert thread.address thread.position)

/-- A number of steps that no search over a text exceeds: every place is entered at most once and
leaves at most two threads waiting. -/
def Program.fuel (program : Program) (text : Text) : Nat :=
  2 * program.code.size * (text.size + 1) + 2

def Program.thread (program : Program) (text : Text) (origin : Nat)
    (inside : origin ≤ text.size) : Thread text origin where
  address := program.start
  position := origin
  slots := List.replicate program.slots none
  origin_le := Nat.le_refl origin
  le_size := inside

/-! ## Search over a text -/

structure Match (text : Text) (lower : Nat) where
  start : Nat
  stop : Nat
  slots : Slots
  lower_le : lower ≤ start
  start_le : start ≤ stop
  stop_le : stop ≤ text.size

namespace Match

variable {text : Text} {lower : Nat}

def ofThread {origin : Nat} (thread : Thread text origin) (above : lower ≤ origin) :
    Match text lower where
  start := origin
  stop := thread.position
  slots := thread.slots
  lower_le := above
  start_le := thread.origin_le
  stop_le := thread.le_size

def group? (found : Match text lower) (index : Nat) : Option (Nat × Nat) :=
  match index with
  | 0 => some (found.start, found.stop)
  | _ + 1 => do
    let start ← (found.slots[startSlot index]?).join
    let stop ← (found.slots[stopSlot index]?).join
    return (start, stop)

end Match

/-- Search at `origin` and the `more` positions after it. -/
def Program.seek (program : Program) (text : Text) (lower : Nat) (visited : Visited) :
    (more origin : Nat) → lower ≤ origin → origin + more = text.size → Option (Match text lower)
  | more, origin, above, inside =>
    let thread := program.thread text origin (inside ▸ Nat.le_add_right origin more)
    match explore program (program.fuel text) [thread] visited with
    | .found thread => some (Match.ofThread thread above)
    | .failed visited =>
      match more with
      | 0 => none
      | more + 1 =>
        program.seek text lower visited more (origin + 1) (Nat.le_succ_of_le above)
          (by omega)

/-- The leftmost match at or after a position, the preferred one of those that start there. -/
def Program.find? (program : Program) (text : Text) (lower : Nat) : Option (Match text lower) :=
  if inside : lower ≤ text.size then
    program.seek text lower (Visited.none lower) (text.size - lower) lower (Nat.le_refl lower)
      (by omega)
  else none

end Emend.Pattern
