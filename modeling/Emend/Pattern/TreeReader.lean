import Emend.Pattern.ClassReader
import Emend.Unicode.Property

/-!
# Reading a pattern into its tree

Branches are separated by bars, groups stand in parentheses, and a repetition takes the part
right before it. After reading, the depth of the tree is held against a limit.
-/

namespace Emend.Pattern.Reader

/-! ## Groups -/

def isNameChar (first : Bool) (c : Char) : Bool :=
  if first then c = '_' || Unicode.alphabeticSet.contains c
  else c = '_' || c = '.' || c = '[' || c = ']' || Unicode.alphabeticSet.contains c ||
    Unicode.numericSet.contains c

/-- Read the name of a group up to its closing angle, which is left to be read. -/
def nameChars (first : Bool) : (fuel : Nat) → Reader (List Char)
  | 0 => return []
  | fuel + 1 => do
    match ← peek? with
    | none => return []
    | some '>' => return []
    | some c =>
      if isNameChar first c then
        let _ ← bump
        return c :: (← nameChars false fuel)
      else fail .groupNameInvalid (← charSpan)

def groupName : Reader String := do
  let start ← position
  let chars ← nameChars true (← remaining)
  let span ← spanFrom start
  if ← atEnd then fail .groupNameUnexpectedEnd (← hereSpan)
  let _ ← bump
  if chars.isEmpty then fail .groupNameEmpty ⟨start, start⟩
  let name := String.ofList chars
  let cursor ← get
  match cursor.names.lookup name with
  | some earlier => fail (.groupNameDuplicate earlier) span
  | none =>
    set { cursor with names := (name, span) :: cursor.names }
    return name

def flagOf? : Char → Option Flag
  | 'i' => some .ignoreCase
  | 'm' => some .multiLine
  | 's' => some .dotAll
  | 'U' => some .swapGreed
  | 'u' => some .unicode
  | 'R' => some .crlf
  | 'x' => some .extended
  | _ => none

def flagItemOf? (c : Char) : Option FlagItem :=
  if c = '-' then some .negation else (flagOf? c).map .flag

def repeatedItem (item : FlagItem) (earlier : Span) : Fault :=
  match item with
  | .negation => .flagRepeatedNegation earlier
  | .flag _ => .flagDuplicate earlier

/-- Read flags up to a colon or a closing parenthesis, which is left to be read. `seen` holds the
flags read, last one first. -/
def flagItems : (fuel : Nat) → (seen : List (FlagItem × Span)) → Reader Flags
  | 0, _ => return []
  | fuel + 1, seen => do
    match ← peek? with
    | none => fail .flagUnexpectedEnd (← hereSpan)
    | some c =>
      if c = ':' || c = ')' then
        match seen with
        | (.negation, span) :: _ => fail .flagDanglingNegation span
        | _ => return (seen.map Prod.fst).reverse
      else
        let span ← charSpan
        match flagItemOf? c with
        | none => fail .flagUnrecognized span
        | some item =>
          match seen.lookup item with
          | some earlier => fail (repeatedItem item earlier) span
          | none =>
            if ← bump then flagItems fuel ((item, span) :: seen)
            else fail .flagUnexpectedEnd (← hereSpan)

inductive GroupHead where
  /-- Flags for the rest of the enclosing group. -/
  | flags (flags : Flags)
  /-- A group whose content follows. -/
  | group (kind : GroupKind)

def nextCapture : Reader Nat := do
  let cursor ← get
  set { cursor with captures := cursor.captures + 1 }
  return cursor.captures + 1

/-- Whether a look-around comes next; if so, its opening is passed. -/
def lookAroundAhead : Reader Bool := do
  if ← bumpIf "?=" then return true
  else if ← bumpIf "?!" then return true
  else if ← bumpIf "?<=" then return true
  else bumpIf "?<!"

/-- Whether a group name comes next; if so, its opening is passed. -/
def nameAhead : Reader Bool := do
  if ← bumpIf "?P<" then return true else bumpIf "?<"

def groupHead : Reader GroupHead := do
  let opened ← charSpan
  let _ ← bump
  skipBlanks
  if ← lookAroundAhead then fail .lookAround (← spanFrom opened.start)
  let inner ← hereSpan
  if ← nameAhead then
    let index ← nextCapture
    let name ← groupName
    return .group (.capture index (some name))
  else if ← bumpIf "?" then
    if ← atEnd then fail .groupUnclosed opened
    let flags ← flagItems (← remaining) []
    let closed := (← peek?) = some ')'
    let _ ← bump
    if closed then
      if flags.isEmpty then fail .repetitionMissing inner
      else return .flags flags
    else return .group (.plain flags)
  else return .group (.capture (← nextCapture) none)

/-! ## Repetitions -/

def maxCount : Nat := 0xFFFFFFFF

/-- Take the part that a repetition applies to from the parts read, last one first. -/
def repeated (parts : List Tree) : Reader (Tree × List Tree) := do
  match parts with
  | [] => fail .repetitionMissing (← hereSpan)
  | .empty _ :: _ => fail .repetitionMissing (← hereSpan)
  | .setFlags _ _ :: _ => fail .repetitionMissing (← hereSpan)
  | part :: earlier => return (part, earlier)

def simpleRepetition (least : Nat) (most : Option Nat) (parts : List Tree) :
    Reader (List Tree) := do
  let (part, earlier) ← repeated parts
  let more ← bump
  let lazy := more && (← peek?) = some '?'
  if lazy then
    let _ ← bump
  return .repetition (← spanFrom part.span.start) least most (!lazy) part :: earlier

/-- Read a decimal number with blanks around it. The fault for a missing number is answered, not
raised, since what follows decides. -/
def decimal : Reader (Except LocatedFault Nat) := do
  let cursor ← get
  let blanks := (cursor.rest.takeWhile isBlank).length
  set { cursor with rest := cursor.rest.drop blanks, position := cursor.position + blanks }
  let start ← position
  let digits ← takeSkipping Char.isDigit (← remaining)
  let span ← spanFrom start
  let _ ← takeSkipping isBlank (← remaining)
  let value := digits.foldl (fun value c => value * 10 + (c.toNat - '0'.toNat)) 0
  if digits.isEmpty then return .error ⟨.repetitionCountEmpty, span⟩
  else if value ≤ maxCount then return .ok value
  else return .error ⟨.decimalInvalid, span⟩

def expect {α : Type} : Except LocatedFault α → Reader α
  | .ok value => return value
  | .error located => throw located

/-- The upper bound of a counted repetition after its lower bound, up to the closing brace. -/
def countRange (brace : Nat) (least : Except LocatedFault Nat) : Reader (Nat × Option Nat) := do
  if (← peek?) = some ',' then
    if !(← bumpAndSkip) then fail .repetitionCountUnclosed (← spanFrom brace)
    if (← peek?) = some '\x7d' then return (← expect least, none)
    else
      let least ← expect least
      let most ← expect (← decimal)
      return (least, some most)
  else
    let count ← expect least
    return (count, some count)

def countedRepetition (parts : List Tree) : Reader (List Tree) := do
  let brace ← position
  let (part, earlier) ← repeated parts
  if !(← bumpAndSkip) then fail .repetitionCountUnclosed (← spanFrom brace)
  let first ← decimal
  if ← atEnd then fail .repetitionCountUnclosed (← spanFrom brace)
  let (least, most) ← countRange brace first
  if (← peek?) ≠ some '\x7d' then fail .repetitionCountUnclosed (← spanFrom brace)
  let more ← bumpAndSkip
  let lazy := more && (← peek?) = some '?'
  if lazy then
    let _ ← bump
  if most.any (· < least) then fail .repetitionCountInvalid (← spanFrom brace)
  return .repetition (← spanFrom part.span.start) least most (!lazy) part :: earlier

/-! ## Branches -/

def primitive (c : Char) : Reader Tree := do
  let span ← charSpan
  match c with
  | '\\' => escape
  | '.' => let _ ← bump; return .dot span
  | '^' => let _ ← bump; return .assertion span .startLine
  | '$' => let _ ← bump; return .assertion span .endLine
  | _ => let _ ← bump; return .literal ⟨span, c, false⟩

/-- Branches under way: where the first one starts, those complete, last one first, where the
current one starts, and its parts, last one first. -/
structure Branches where
  start : Nat
  complete : List Tree
  current : Nat
  parts : List Tree

def Branches.startingAt (position : Nat) : Branches := ⟨position, [], position, []⟩

def Branches.branch (branches : Branches) (stop : Nat) : Tree :=
  Tree.ofParts ⟨branches.current, stop⟩ branches.parts.reverse

def Branches.push (branches : Branches) (part : Tree) : Branches :=
  { branches with parts := part :: branches.parts }

def Branches.split (branches : Branches) (stop next : Nat) : Branches :=
  ⟨branches.start, branches.branch stop :: branches.complete, next, []⟩

def Branches.tree (branches : Branches) (stop : Nat) : Tree :=
  let last := branches.branch stop
  match branches.complete with
  | [] => last
  | complete => .alternation ⟨branches.start, stop⟩ (last :: complete).reverse

def setExtended (extended : Bool) : Reader Unit :=
  modify fun cursor => { cursor with extended := extended }

def GroupKind.flags : GroupKind → Flags
  | .capture _ _ => []
  | .plain flags => flags

/-- Read branches up to the end of the enclosing group, whose opening parenthesis is `opened`, or
up to the end of the pattern. -/
def branches (opened : Option Span) : (fuel : Nat) → Branches → Reader Tree
  | 0, under => return under.tree under.current
  | fuel + 1, under => do
    skipBlanks
    match ← peek? with
    | none =>
      match opened with
      | some span => fail .groupUnclosed span
      | none => return under.tree (← position)
    | some '(' =>
      let span ← charSpan
      match ← groupHead with
      | .flags flags =>
        match flags.state? .extended with
        | some extended => setExtended extended
        | none => pure ()
        branches opened fuel (under.push (.setFlags (← spanFrom span.start) flags))
      | .group kind =>
        let extended := (← get).extended
        setExtended ((Flags.state? (GroupKind.flags kind) .extended).getD extended)
        let inner ← branches (some span) fuel (Branches.startingAt (← position))
        setExtended extended
        branches opened fuel (under.push (.group (← spanFrom span.start) kind inner))
    | some ')' =>
      if opened.isNone then fail .groupUnopened (← charSpan)
      let stop ← position
      let _ ← bump
      return under.tree stop
    | some '|' =>
      let stop ← position
      let _ ← bump
      branches opened fuel (under.split stop (← position))
    | some '[' => branches opened fuel (under.push (← bracketedClass))
    | some '?' =>
      branches opened fuel { under with parts := ← simpleRepetition 0 (some 1) under.parts }
    | some '*' =>
      branches opened fuel { under with parts := ← simpleRepetition 0 none under.parts }
    | some '+' =>
      branches opened fuel { under with parts := ← simpleRepetition 1 none under.parts }
    | some '\x7b' =>
      branches opened fuel { under with parts := ← countedRepetition under.parts }
    | some c => branches opened fuel (under.push (← primitive c))

end Reader

/-! ## The nesting limit -/

def nestLimit : Nat := 250

/-- Enter a node that counts as a level below `depth` levels. -/
def enter (depth : Nat) (span : Span) : Except LocatedFault Unit :=
  if depth < nestLimit then .ok () else .error ⟨.nestLimitExceeded nestLimit, span⟩

mutual

def ClassTree.checkDepth (depth : Nat) : ClassTree → Except LocatedFault Unit
  | .empty _ => .ok ()
  | .literal _ => .ok ()
  | .range _ _ _ => .ok ()
  | .named _ _ _ => .ok ()
  | .bracketed span _ inner => do
    enter depth span
    inner.checkDepth (depth + 1)
  | .union span items => do
    enter depth span
    ClassTree.checkDepths (depth + 1) items
  | .binary span _ left right => do
    enter depth span
    left.checkDepth (depth + 1)
    right.checkDepth (depth + 1)

def ClassTree.checkDepths (depth : Nat) : List ClassTree → Except LocatedFault Unit
  | [] => .ok ()
  | item :: rest => do
    item.checkDepth depth
    ClassTree.checkDepths depth rest

end

mutual

def Tree.checkDepth (depth : Nat) : Tree → Except LocatedFault Unit
  | .empty _ => .ok ()
  | .setFlags _ _ => .ok ()
  | .literal _ => .ok ()
  | .dot _ => .ok ()
  | .assertion _ _ => .ok ()
  | .named _ _ _ => .ok ()
  | .bracketed span _ inner => do
    enter depth span
    inner.checkDepth (depth + 1)
  | .repetition span _ _ _ inner => do
    enter depth span
    inner.checkDepth (depth + 1)
  | .group span _ inner => do
    enter depth span
    inner.checkDepth (depth + 1)
  | .alternation span branches => do
    enter depth span
    Tree.checkDepths (depth + 1) branches
  | .concat span parts => do
    enter depth span
    Tree.checkDepths (depth + 1) parts

def Tree.checkDepths (depth : Nat) : List Tree → Except LocatedFault Unit
  | [] => .ok ()
  | tree :: rest => do
    tree.checkDepth depth
    Tree.checkDepths depth rest

end

/-! ## Reading -/

def Tree.read (pattern : String) : Except LocatedFault Tree := do
  let cursor := Cursor.ofString pattern
  let fuel := cursor.rest.length + 1
  let (tree, _) ← (Reader.branches none fuel (Reader.Branches.startingAt 0)).run cursor
  tree.checkDepth 0
  return tree

end Emend.Pattern
