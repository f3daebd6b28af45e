/-!
# Sets of code points

A set is a sorted array of closed ranges with gaps between them. Membership is a binary search;
the Boolean operations rest on union and complement alone.
-/

namespace Emend

/-- A set of code points as closed ranges, sorted and apart. -/
structure CharSet where
  /-- The ranges, each as its least and its greatest member. -/
  ranges : Array (Nat × Nat)
deriving DecidableEq, Repr, Inhabited

namespace CharSet

def maxCode : Nat := 0x10FFFF

/-! ## Building -/

/-- Join sorted ranges that overlap or touch, with `lo` to `hi` the range being grown. -/
def joinFrom (lo hi : Nat) : List (Nat × Nat) → List (Nat × Nat)
  | [] => [(lo, hi)]
  | (lo', hi') :: rest =>
    if lo' ≤ hi + 1 then joinFrom lo (max hi hi') rest
    else (lo, hi) :: joinFrom lo' hi' rest

def join : List (Nat × Nat) → List (Nat × Nat)
  | [] => []
  | (lo, hi) :: rest => joinFrom lo hi rest

def ofRanges (ranges : List (Nat × Nat)) : CharSet :=
  ⟨(join (ranges.mergeSort fun first second => first.1 ≤ second.1)).toArray⟩

def range (lo hi : Nat) : CharSet := ⟨#[(lo, hi)]⟩

def single (c : Char) : CharSet := range c.toNat c.toNat

def empty : CharSet := ⟨#[]⟩

def all : CharSet := range 0 maxCode

def ascii : CharSet := range 0 0x7F

/-! ## Membership -/

/-- Binary search for a range that holds `code`, among those from `lo` up to `hi`. -/
def search (ranges : Array (Nat × Nat)) (code : Nat) : (fuel lo hi : Nat) → Bool
  | 0, _, _ => false
  | fuel + 1, lo, hi =>
    if lo < hi then
      let middle := (lo + hi) / 2
      match ranges[middle]? with
      | none => false
      | some (least, greatest) =>
        if code < least then search ranges code fuel lo middle
        else if greatest < code then search ranges code fuel (middle + 1) hi
        else true
    else false

def holds (set : CharSet) (code : Nat) : Bool :=
  search set.ranges code (set.ranges.size + 1) 0 set.ranges.size

def contains (set : CharSet) (c : Char) : Bool := set.holds c.toNat

def isEmpty (set : CharSet) : Bool := set.ranges.isEmpty

def isAscii (set : CharSet) : Bool :=
  set.ranges.all fun range => range.2 ≤ 0x7F

def toChar? (set : CharSet) : Option Char :=
  match set.ranges.toList with
  | [(lo, hi)] => if lo = hi then some (Char.ofNat lo) else none
  | _ => none

/-! ## Operations -/

def union (first second : CharSet) : CharSet :=
  ofRanges (first.ranges.toList ++ second.ranges.toList)

/-- The gaps between sorted ranges, from `from` up to the greatest code point. -/
def gapsFrom (start : Nat) : List (Nat × Nat) → List (Nat × Nat)
  | [] => if start ≤ maxCode then [(start, maxCode)] else []
  | (lo, hi) :: rest =>
    if start < lo then (start, lo - 1) :: gapsFrom (hi + 1) rest
    else gapsFrom (hi + 1) rest

def complement (set : CharSet) : CharSet := ⟨(gapsFrom 0 set.ranges.toList).toArray⟩

def inter (first second : CharSet) : CharSet :=
  (first.complement.union second.complement).complement

def diff (first second : CharSet) : CharSet := first.inter second.complement

def symmDiff (first second : CharSet) : CharSet :=
  (first.union second).diff (first.inter second)

def unions (sets : List CharSet) : CharSet :=
  ofRanges (sets.flatMap fun set => set.ranges.toList)

/-! ## Reading -/

def hexValue (c : Char) : Nat :=
  if c.isDigit then c.toNat - '0'.toNat else c.toNat + 10 - 'A'.toNat

/-- What has been read of a row of ranges: those complete, a lower end, the number under way. -/
structure Reading where
  ranges : List (Nat × Nat) := []
  lower : Option Nat := none
  number : Nat := 0

def Reading.close (state : Reading) : Reading :=
  ⟨(state.lower.getD state.number, state.number) :: state.ranges, none, 0⟩

def Reading.step (state : Reading) (c : Char) : Reading :=
  if c = ' ' then state.close
  else if c = '-' then { state with lower := some state.number, number := 0 }
  else { state with number := state.number * 16 + hexValue c }

/-- The ranges of a row such as `41-5A 61`, last one first. -/
def readRow (row : String) : List (Nat × Nat) :=
  (row.toList.foldl Reading.step {}).close.ranges

/-- The set written by rows of ranges in ascending order. -/
def ofRows (rows : List String) : CharSet :=
  ⟨(join (rows.flatMap fun row => (readRow row).reverse)).toArray⟩

end CharSet

end Emend
