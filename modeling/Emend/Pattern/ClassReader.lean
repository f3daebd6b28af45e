import Emend.Pattern.Escape

/-!
# Classes in brackets

A class lists characters, ranges and other classes. Between lists stand set operators, which
bind equally and to the left; a class may hold further classes in brackets of their own.
-/

namespace Emend.Pattern.Reader

/-! ## Lists under way -/

/-- The items of a list, last one first, and the span they cover. -/
structure Items where
  span : Span
  items : List ClassTree

def Items.startingAt (position : Nat) : Items := ⟨⟨position, position⟩, []⟩

def Items.push (list : Items) (item : ClassTree) : Items :=
  ⟨⟨if list.items.isEmpty then item.span.start else list.span.start, item.span.stop⟩,
    item :: list.items⟩

def Items.tree (list : Items) : ClassTree :=
  match list.items with
  | [] => .empty list.span
  | [item] => item
  | items => .union list.span items.reverse

/-- Apply the operator that waits on the left, if there is one. -/
def applyWaiting (waiting : Option (SetOperator × ClassTree)) (right : ClassTree) : ClassTree :=
  match waiting with
  | none => right
  | some (operator, left) => .binary ⟨left.span.start, right.span.stop⟩ operator left right

/-! ## Items -/

def asciiClassOf? (name : String) : Option AsciiClass :=
  match name with
  | "alnum" => some .alnum
  | "alpha" => some .alpha
  | "ascii" => some .ascii
  | "blank" => some .blank
  | "cntrl" => some .cntrl
  | "digit" => some .digit
  | "graph" => some .graph
  | "lower" => some .lower
  | "print" => some .print
  | "punct" => some .punct
  | "space" => some .space
  | "upper" => some .upper
  | "word" => some .word
  | "xdigit" => some .xdigit
  | _ => none

/-- A class such as `[:alpha:]` at an opening bracket; otherwise nothing is read. -/
def asciiClass? : Reader (Option ClassTree) := do
  let cursor ← get
  match cursor.rest with
  | '[' :: ':' :: text =>
    let negated := text.head? = some '^'
    let named := if negated then text.tail else text
    let name := named.takeWhile (· ≠ ':')
    match named.drop name.length, asciiClassOf? (String.ofList name) with
    | ':' :: ']' :: rest, some which =>
      let length := name.length + (if negated then 5 else 4)
      set { cursor with rest := rest, position := cursor.position + length }
      return some (.named ⟨cursor.position, cursor.position + length⟩ negated (.ascii which))
    | _, _ => return none
  | _ => return none

/-- One item of a class before it is known whether a range follows. -/
def classAtom : Reader Tree := do
  match ← peek? with
  | some '\\' => escape
  | some c =>
    let span ← charSpan
    let _ ← bump
    return .literal ⟨span, c, false⟩
  | none => fail .classUnclosed (← hereSpan)

def atomItem : Tree → Reader ClassTree
  | .literal leaf => return .literal leaf
  | .named span negated which => return .named span negated which
  | other => fail .classEscapeInvalid other.span

def atomLiteral : Tree → Reader Literal
  | .literal leaf => return leaf
  | other => fail .classRangeLiteral other.span

/-- A character, a range or a named class; `opened` is the span of the innermost open bracket. -/
def classItem (opened : Span) : Reader ClassTree := do
  let first ← classAtom
  skipBlanks
  match ← peek? with
  | none => fail .classUnclosed opened
  | some c =>
    let next ← peekSignificant?
    if c ≠ '-' || next = some ']' || next = some '-' then atomItem first
    else if ← bumpAndSkip then
      let second ← classAtom
      let span : Span := ⟨first.span.start, second.span.stop⟩
      let least ← atomLiteral first
      let greatest ← atomLiteral second
      if least.char ≤ greatest.char then return .range span least greatest
      else fail .classRangeInvalid span
    else fail .classUnclosed opened

/-! ## Brackets -/

def leadingHyphens (start : Nat) : (fuel : Nat) → Items → Reader Items
  | 0, list => return list
  | fuel + 1, list => do
    if (← peek?) = some '-' then
      let span ← charSpan
      if ← bumpAndSkip then leadingHyphens start fuel (list.push (.literal ⟨span, '-', false⟩))
      else fail .classUnclosed ⟨start, start⟩
    else return list

/-- Read the head of a class from its bracket on: whether it is negated, and the first items. -/
def classHead : Reader (Bool × Items) := do
  let start ← position
  if !(← bumpAndSkip) then fail .classUnclosed (← spanFrom start)
  let negated := (← peek?) = some '^'
  if negated then
    if !(← bumpAndSkip) then fail .classUnclosed (← spanFrom start)
  let list ← leadingHyphens start (← remaining) (Items.startingAt (← position))
  if list.items.isEmpty && (← peek?) = some ']' then
    let span ← charSpan
    if !(← bumpAndSkip) then fail .classUnclosed (← spanFrom start)
    return (negated, list.push (.literal ⟨span, ']', false⟩))
  else return (negated, list)

def operatorAhead? : Reader (Option SetOperator) := do
  match ← peek?, ← peekSecond? with
  | some '&', some '&' => return some .intersection
  | some '-', some '-' => return some .difference
  | some '~', some '~' => return some .symmetricDifference
  | _, _ => return none

/-- Read a class up to its closing bracket. `opened` is the span of its head, `waiting` the
operator and its left side that wait for a right side, `list` the list under way. -/
def classBody (opened : Span) (negated : Bool) :
    (fuel : Nat) → Option (SetOperator × ClassTree) → Items → Reader ClassTree
  | 0, _, _ => fail .classUnclosed opened
  | fuel + 1, waiting, list => do
    skipBlanks
    match ← peek? with
    | none => fail .classUnclosed opened
    | some '[' =>
      match ← asciiClass? with
      | some named => classBody opened negated fuel waiting (list.push named)
      | none =>
        let start ← position
        let (innerNegated, first) ← classHead
        let span ← spanFrom start
        let inner ← classBody span innerNegated fuel none first
        classBody opened negated fuel waiting (list.push inner)
    | some ']' =>
      let inner := applyWaiting waiting list.tree
      let _ ← bump
      return .bracketed ⟨opened.start, ← position⟩ negated inner
    | some _ =>
      match ← operatorAhead? with
      | some operator =>
        let left := applyWaiting waiting list.tree
        let _ ← bump
        let _ ← bump
        classBody opened negated fuel (some (operator, left)) (Items.startingAt (← position))
      | none =>
        let item ← classItem opened
        classBody opened negated fuel waiting (list.push item)

def bracketedClass : Reader Tree := do
  let start ← position
  let (negated, first) ← classHead
  let span ← spanFrom start
  match ← classBody span negated (← remaining) none first with
  | .bracketed span negated inner => return .bracketed span negated inner
  | other => return .bracketed other.span false other

end Emend.Pattern.Reader
