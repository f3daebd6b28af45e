/-!
# Syntax trees of patterns

A pattern is read into a tree whose nodes remember where they were written. Positions count
characters from the start of the pattern.
-/

namespace Emend.Pattern

/-- A stretch of a pattern, from its first character up to the one after its last. -/
structure Span where
  start : Nat
  stop : Nat
deriving DecidableEq, Repr, Inhabited

/-! ## Leaves -/

structure Literal where
  span : Span
  char : Char
  /-- Written with two hexadecimal digits, so that it may mean a byte. -/
  isByte : Bool
deriving DecidableEq, Repr, Inhabited

inductive Assertion where
  | startLine
  | endLine
  | startText
  | endText
  | wordBoundary
  | notWordBoundary
  | wordStart
  | wordEnd
  | wordStartHalf
  | wordEndHalf
deriving DecidableEq, Repr

inductive ShortClass where
  | digit
  | space
  | word
deriving DecidableEq, Repr

/-- Classes written inside brackets as `[:name:]`. -/
inductive AsciiClass where
  | alnum
  | alpha
  | ascii
  | blank
  | cntrl
  | digit
  | graph
  | lower
  | print
  | punct
  | space
  | upper
  | word
  | xdigit
deriving DecidableEq, Repr

inductive PropertyName where
  | named (name : String)
  | valued (name value : String)
deriving DecidableEq, Repr

inductive NamedClass where
  | short (which : ShortClass)
  | ascii (which : AsciiClass)
  | property (which : PropertyName)
deriving DecidableEq, Repr

/-! ## Flags -/

/-- Options that a pattern can switch on and off for a part of itself. -/
inductive Flag where
  | ignoreCase
  | multiLine
  | dotAll
  | swapGreed
  | unicode
  | crlf
  | extended
deriving DecidableEq, Repr

inductive FlagItem where
  | negation
  | flag (which : Flag)
deriving DecidableEq, Repr

/-- A list of flags: those after the negation are switched off. -/
abbrev Flags := List FlagItem

def Flags.state? (flags : Flags) (which : Flag) : Option Bool :=
  if flags.contains (.flag which) then
    some (!(flags.takeWhile (· ≠ .flag which)).contains .negation)
  else none

/-! ## Classes in brackets -/

inductive SetOperator where
  | intersection
  | difference
  | symmetricDifference
deriving DecidableEq, Repr

inductive ClassTree where
  | empty (span : Span)
  | literal (leaf : Literal)
  | range (span : Span) (least greatest : Literal)
  | named (span : Span) (negated : Bool) (which : NamedClass)
  | bracketed (span : Span) (negated : Bool) (inner : ClassTree)
  | union (span : Span) (items : List ClassTree)
  | binary (span : Span) (operator : SetOperator) (left right : ClassTree)
deriving Repr, Inhabited

def ClassTree.span : ClassTree → Span
  | .empty span => span
  | .literal leaf => leaf.span
  | .range span _ _ => span
  | .named span _ _ => span
  | .bracketed span _ _ => span
  | .union span _ => span
  | .binary span _ _ _ => span

/-! ## Trees -/

inductive GroupKind where
  | capture (index : Nat) (name : Option String)
  | plain (flags : Flags)
deriving DecidableEq, Repr

inductive Tree where
  | empty (span : Span)
  | setFlags (span : Span) (flags : Flags)
  | literal (leaf : Literal)
  | dot (span : Span)
  | assertion (span : Span) (which : Assertion)
  | named (span : Span) (negated : Bool) (which : NamedClass)
  | bracketed (span : Span) (negated : Bool) (inner : ClassTree)
  | repetition (span : Span) (least : Nat) (most : Option Nat) (greedy : Bool) (inner : Tree)
  | group (span : Span) (kind : GroupKind) (inner : Tree)
  | alternation (span : Span) (branches : List Tree)
  | concat (span : Span) (parts : List Tree)
deriving Repr, Inhabited

def Tree.span : Tree → Span
  | .empty span => span
  | .setFlags span _ => span
  | .literal leaf => leaf.span
  | .dot span => span
  | .assertion span _ => span
  | .named span _ _ => span
  | .bracketed span _ _ => span
  | .repetition span _ _ _ _ => span
  | .group span _ _ => span
  | .alternation span _ => span
  | .concat span _ => span

/-- A node of the given parts: none and a single one need no concatenation. -/
def Tree.ofParts (span : Span) : List Tree → Tree
  | [] => .empty span
  | [part] => part
  | parts => .concat span parts

end Emend.Pattern
