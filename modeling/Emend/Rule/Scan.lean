import Emend.Rule.Basic

/-!
# Scanning and replacing

A scan walks over a text from left to right and replaces regions. Each region starts with a match
of the pattern; the next search begins where the region ends, or one character further when the
region is empty. The scan stops at the first region when the mode says so, and at a match without
a terminator. The new text is put together on the way: what lies between two regions is copied,
and the expansion of the template takes the place of each region.
-/

namespace Emend

open Pattern (Text Match)

/-- What an application of a rule does to a buffer. -/
structure Emendation where
  /-- What the buffer becomes; the buffer itself, where it is handed back. -/
  text : String
  /-- The number of regions replaced. -/
  matchCount : Nat
  /-- The number of matches without a terminator. -/
  unterminated : Nat
deriving DecidableEq, Repr

structure Scan where
  /-- The new text so far. -/
  output : String
  /-- Where the part of the old text begins that the new one does not account for. -/
  copiedTo : Nat
  /-- Where the next search begins. -/
  searchFrom : Nat
  matchCount : Nat
  unterminated : Nat
deriving DecidableEq, Repr

def Scan.start : Scan := ⟨"", 0, 0, 0, 0⟩

namespace Rule

variable {text : Text} {lower : Nat}

/-! ## Regions -/

/-- Where the region that a match starts ends, unless its terminator never comes. -/
def stop? (rule : Rule) (found : Match text lower) : Option Nat :=
  match rule.terminator with
  | none => some found.stop
  | some terminator => (terminator.find? text found.stop).map Match.start

/-- A region does not end before its match does. -/
theorem le_of_stop? {rule : Rule} {found : Match text lower} {stop : Nat}
    (ends : rule.stop? found = some stop) : found.stop ≤ stop := by
  unfold stop? at ends
  split at ends
  · cases ends
    exact Nat.le_refl _
  · obtain ⟨close, -, rfl⟩ := Option.map_eq_some_iff.mp ends
    exact close.lower_le

/-- Where the search goes on behind a region. -/
def resume (start stop : Nat) : Nat := if start < stop then stop else stop + 1

def slice (text : Text) (start stop : Nat) : List Char := (text.extract start stop).toList

def groupText? (found : Match text lower) (index : Nat) : Option (List Char) :=
  (found.group? index).map fun (start, stop) => slice text start stop

def expansion (rule : Rule) (found : Match text lower) (stop : Nat) : List Char :=
  rule.template.expand (slice text found.start stop) (groupText? found)

/-! ## The loop -/

/-- Copy the text up to a match, and put the expansion in place of the region that it starts. -/
def replace (rule : Rule) (scan : Scan) (found : Match text lower) (stop : Nat) : Scan :=
  let copied := scan.output ++ String.ofList (slice text scan.copiedTo found.start)
  { scan with
    output :=
      if rule.template.isEmpty then copied
      else copied ++ String.ofList (rule.expansion found stop)
    copiedTo := stop
    matchCount := scan.matchCount + 1 }

def advance (rule : Rule) (text : Text) (scan : Scan) : ForInStep Scan :=
  match rule.pattern.find? text scan.searchFrom with
  | none => .done scan
  | some found =>
    match rule.stop? found with
    | none => .done { scan with unterminated := scan.unterminated + 1 }
    | some stop =>
      let replaced := rule.replace scan found stop
      if rule.mode = .firstMatch then .done replaced
      else .yield { replaced with searchFrom := resume found.start stop }

/-- A scan that goes on searches further on. -/
theorem searchFrom_lt_of_advance {rule : Rule} {scan next : Scan}
    (turn : rule.advance text scan = .yield next) : scan.searchFrom < next.searchFrom := by
  unfold advance at turn
  split at turn
  · cases turn
  · rename_i found _
    split at turn
    · cases turn
    · rename_i stop ends
      split at turn
      · cases turn
      · cases turn
        have above := found.lower_le
        have within := found.start_le
        have later := le_of_stop? ends
        change scan.searchFrom < resume found.start stop
        unfold resume
        split <;> omega

def scanFrom (rule : Rule) (text : Text) (scan : Scan) : Scan :=
  if scan.searchFrom ≤ text.size then
    match _turn : rule.advance text scan with
    | .done last => last
    | .yield next => rule.scanFrom text next
  else scan
termination_by text.size + 1 - scan.searchFrom
decreasing_by
  have further := searchFrom_lt_of_advance _turn
  omega

def emend (rule : Rule) (buffer : String) : Emendation :=
  let text := buffer.toList.toArray
  let scan := rule.scanFrom text .start
  if scan.matchCount = 0 then ⟨buffer, 0, scan.unterminated⟩
  else
    ⟨scan.output ++ String.ofList (slice text scan.copiedTo text.size), scan.matchCount,
      scan.unterminated⟩

end Rule

end Emend
