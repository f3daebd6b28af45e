import Emend.Pattern.Fault

/-!
# Reading a pattern character by character

A reader moves over the characters of a pattern and may stop with a located fault. In extended
mode blanks and comments between the parts of a pattern are passed over.
-/

namespace Emend.Pattern

structure Cursor where
  /-- The characters not yet read. -/
  rest : List Char
  /-- The number of characters read. -/
  position : Nat
  /-- Whether blanks and comments are passed over. -/
  extended : Bool
  /-- The number of capturing groups opened. -/
  captures : Nat
  /-- The names of groups so far and where they were written. -/
  names : List (String × Span)
deriving Repr, Inhabited

def Cursor.ofString (pattern : String) : Cursor := ⟨pattern.toList, 0, false, 0, []⟩

abbrev Reader := StateT Cursor (Except LocatedFault)

namespace Reader

def fail {α : Type} (fault : Fault) (span : Span) : Reader α :=
  throw ⟨fault, span⟩

def position : Reader Nat := return (← get).position

def peek? : Reader (Option Char) := return (← get).rest.head?

def peekSecond? : Reader (Option Char) := return (← get).rest.tail.head?

def atEnd : Reader Bool := return (← get).rest.isEmpty

def hereSpan : Reader Span := return ⟨(← get).position, (← get).position⟩

def charSpan : Reader Span := return ⟨(← get).position, (← get).position + 1⟩

def spanFrom (start : Nat) : Reader Span := return ⟨start, (← get).position⟩

/-- Pass one character, and say whether another one follows. -/
def bump : Reader Bool := do
  let cursor ← get
  match cursor.rest with
  | [] => return false
  | _ :: rest =>
    set { cursor with rest := rest, position := cursor.position + 1 }
    return !rest.isEmpty

/-- Pass the given text if it comes next. -/
def bumpIf (text : String) : Reader Bool := do
  let cursor ← get
  let expected := text.toList
  if expected.isPrefixOf cursor.rest then
    set { cursor with
      rest := cursor.rest.drop expected.length, position := cursor.position + expected.length }
    return true
  else return false

/-! ## Blanks and comments -/

def isBlank (c : Char) : Bool :=
  c = ' ' || ('\t' ≤ c && c ≤ '\r') || c = '\u0085' || c = '\u00a0' || c = '\u1680' ||
    ('\u2000' ≤ c && c ≤ '\u200a') || c = '\u2028' || c = '\u2029' || c = '\u202f' ||
    c = '\u205f' || c = '\u3000'

def blankLength (inComment : Bool) : List Char → Nat
  | [] => 0
  | c :: rest =>
    if inComment then blankLength (c ≠ '\n') rest + 1
    else if isBlank c then blankLength false rest + 1
    else if c = '#' then blankLength true rest + 1
    else 0

def skipBlanks : Reader Unit := do
  let cursor ← get
  if cursor.extended then
    let length := blankLength false cursor.rest
    set { cursor with rest := cursor.rest.drop length, position := cursor.position + length }

/-- Pass one character and then blanks, and say whether another character follows. -/
def bumpAndSkip : Reader Bool := do
  if ← bump then
    skipBlanks
    return !(← atEnd)
  else return false

/-- The first character that is neither blank nor opens the first comment. -/
def significantIn? (inComment : Bool) : List Char → Option Char
  | [] => none
  | c :: rest =>
    if isBlank c then significantIn? inComment rest
    else if !inComment && c = '#' then significantIn? true rest
    else some c

/-- The character after the next one, with blanks between them passed over in extended mode. -/
def peekSignificant? : Reader (Option Char) := do
  let cursor ← get
  if cursor.extended then
    match cursor.rest with
    | [] => return none
    | _ :: rest => return (significantIn? false rest).or rest.head?
  else return cursor.rest.tail.head?

def takeSkipping (accept : Char → Bool) : (fuel : Nat) → Reader (List Char)
  | 0 => return []
  | fuel + 1 => do
    match ← peek? with
    | some c =>
      if accept c then
        let _ ← bumpAndSkip
        return c :: (← takeSkipping accept fuel)
      else return []
    | none => return []

/-- A bound on the number of characters still to be read. -/
def remaining : Reader Nat := return (← get).rest.length + 1

end Reader

end Emend.Pattern
