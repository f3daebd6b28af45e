import Emend.Pattern.Expr
import Emend.Pattern.Fault
import Emend.Unicode.Property
import Emend.Unicode.Fold

/-!
# The meaning of a tree

A tree becomes an expression under the flags in force at each place. Flags set inside a group
hold to the end of that group. With the `unicode` flag off, classes are ASCII classes, and what
would match a part of a character is refused.
-/

namespace Emend.Pattern

structure Settings where
  ignoreCase : Bool := false
  multiLine : Bool := false
  dotAll : Bool := false
  swapGreed : Bool := false
  unicode : Bool := true
  crlf : Bool := false
deriving DecidableEq, Repr

def Settings.update (mode : Settings) (flags : Flags) : Settings where
  ignoreCase := (flags.state? .ignoreCase).getD mode.ignoreCase
  multiLine := (flags.state? .multiLine).getD mode.multiLine
  dotAll := (flags.state? .dotAll).getD mode.dotAll
  swapGreed := (flags.state? .swapGreed).getD mode.swapGreed
  unicode := (flags.state? .unicode).getD mode.unicode
  crlf := (flags.state? .crlf).getD mode.crlf

abbrev Meaning := Except LocatedFault

/-! ## Classes -/

def AsciiClass.ranges : AsciiClass → List (Char × Char)
  | .alnum => [('0', '9'), ('A', 'Z'), ('a', 'z')]
  | .alpha => [('A', 'Z'), ('a', 'z')]
  | .ascii => [('\x00', '\x7f')]
  | .blank => [('\t', '\t'), (' ', ' ')]
  | .cntrl => [('\x00', '\x1f'), ('\x7f', '\x7f')]
  | .digit => [('0', '9')]
  | .graph => [('!', '~')]
  | .lower => [('a', 'z')]
  | .print => [(' ', '~')]
  | .punct => [('!', '/'), (':', '@'), ('[', '\x60'), ('\x7b', '~')]
  | .space => [('\t', '\r'), (' ', ' ')]
  | .upper => [('A', 'Z')]
  | .word => [('0', '9'), ('A', 'Z'), ('_', '_'), ('a', 'z')]
  | .xdigit => [('0', '9'), ('A', 'F'), ('a', 'f')]

def AsciiClass.set (which : AsciiClass) : CharSet :=
  CharSet.ofRanges (which.ranges.map fun (lo, hi) => (lo.toNat, hi.toNat))

def ShortClass.set (mode : Settings) : ShortClass → CharSet
  | .digit => if mode.unicode then Unicode.digitSet else AsciiClass.digit.set
  | .space => if mode.unicode then Unicode.spaceSet else AsciiClass.space.set
  | .word => if mode.unicode then Unicode.wordSet else AsciiClass.word.set

def foldAscii (members : CharSet) : CharSet :=
  let shifted (lo hi : Nat) (shift : Nat → Nat) : CharSet :=
    CharSet.ofRanges ((members.inter (CharSet.range lo hi)).ranges.toList.map
      fun (least, greatest) => (shift least, shift greatest))
  CharSet.unions [members, shifted 0x41 0x5A (· + 32), shifted 0x61 0x7A (· - 32)]

/-- Add the other cases of members, where case is ignored. -/
def Settings.fold (mode : Settings) (members : CharSet) : CharSet :=
  if !mode.ignoreCase then members
  else if mode.unicode then Unicode.foldCase members
  else foldAscii members

/-- Refuse a set that would match a part of a character. -/
def Settings.whole (mode : Settings) (span : Span) (members : CharSet) : Meaning CharSet :=
  if mode.unicode || members.isAscii then .ok members else .error ⟨.invalidUtf8, span⟩

def negateIf (negated : Bool) (members : CharSet) : CharSet :=
  if negated then members.complement else members

/-- Ignore case, then negate. -/
def Settings.foldAndNegate (mode : Settings) (span : Span) (negated : Bool) (members : CharSet) :
    Meaning CharSet :=
  mode.whole span (negateIf negated (mode.fold members))

def PropertyName.set (span : Span) (which : PropertyName) : Meaning CharSet :=
  let found := match which with
    | .named name => Unicode.namedSet name
    | .valued name value => Unicode.valueSet name value
  match found with
  | .ok members => .ok members
  | .error .unknownProperty => .error ⟨.propertyNotFound, span⟩
  | .error .unknownValue => .error ⟨.propertyValueNotFound, span⟩

def NamedClass.set (mode : Settings) (span : Span) (negated : Bool) : NamedClass → Meaning CharSet
  | .short which => mode.whole span (negateIf negated (which.set mode))
  | .ascii which => mode.foldAndNegate span negated which.set
  | .property which =>
    if mode.unicode then do mode.foldAndNegate span negated (← which.set span)
    else .error ⟨.unicodeNotAllowed, span⟩

/-- The code of a literal: a lone byte above ASCII is no character. -/
def Literal.code (mode : Settings) (leaf : Literal) : Meaning Nat :=
  let code := leaf.char.toNat
  if !mode.unicode && leaf.isByte && 0x7F < code then .error ⟨.invalidUtf8, leaf.span⟩
  else .ok code

def Literal.codeInClass (mode : Settings) (leaf : Literal) : Meaning Nat := do
  let code ← leaf.code mode
  if !mode.unicode && 0x7F < code then .error ⟨.unicodeNotAllowed, leaf.span⟩ else .ok code

def SetOperator.apply (operator : SetOperator) (left right : CharSet) : CharSet :=
  match operator with
  | .intersection => left.inter right
  | .difference => left.diff right
  | .symmetricDifference => left.symmDiff right

mutual

def ClassTree.set (mode : Settings) : ClassTree → Meaning CharSet
  | .empty _ => .ok CharSet.empty
  | .literal leaf => do
    let code ← leaf.codeInClass mode
    return CharSet.range code code
  | .range _ least greatest => do
    return CharSet.range (← least.codeInClass mode) (← greatest.codeInClass mode)
  | .named span negated which => which.set mode span negated
  | .bracketed span negated inner => do
    mode.foldAndNegate span negated (← inner.set mode)
  | .union _ items => return CharSet.unions (← ClassTree.sets mode items)
  | .binary _ operator left right => do
    let left ← left.set mode
    let right ← right.set mode
    return operator.apply (mode.fold left) (mode.fold right)

def ClassTree.sets (mode : Settings) : List ClassTree → Meaning (List CharSet)
  | [] => .ok []
  | item :: rest => return (← item.set mode) :: (← ClassTree.sets mode rest)

end

/-! ## Leaves -/

def Literal.expr (mode : Settings) (leaf : Literal) : Meaning Expr := do
  let _ ← leaf.code mode
  let folded := mode.fold (CharSet.single leaf.char)
  if mode.ignoreCase && (mode.unicode || leaf.char.toNat ≤ 0x7F) then return Expr.ofSet folded
  else return .literal [leaf.char]

def Settings.dot (mode : Settings) (span : Span) : Meaning Expr :=
  let newline := CharSet.single '\n'
  if !mode.unicode then .error ⟨.invalidUtf8, span⟩
  else if mode.dotAll then .ok (.set CharSet.all)
  else if mode.crlf then
    .ok (.set (newline.union (CharSet.single '\r')).complement)
  else .ok (.set newline.complement)

def Settings.look (mode : Settings) : Assertion → Look
  | .startLine =>
    if !mode.multiLine then .textStart
    else if mode.crlf then .returnLineStart
    else .lineStart
  | .endLine =>
    if !mode.multiLine then .textEnd
    else if mode.crlf then .returnLineEnd
    else .lineEnd
  | .startText => .textStart
  | .endText => .textEnd
  | .wordBoundary => .word .boundary (!mode.unicode)
  | .notWordBoundary => .word .noBoundary (!mode.unicode)
  | .wordStart => .word .start (!mode.unicode)
  | .wordEnd => .word .stop (!mode.unicode)
  | .wordStartHalf => .word .startHalf (!mode.unicode)
  | .wordEndHalf => .word .stopHalf (!mode.unicode)

/-! ## Trees -/

mutual

/-- The expression of a tree, and the flags in force after it. -/
def Tree.expr (mode : Settings) : Tree → Meaning (Expr × Settings)
  | .empty _ => .ok (.empty, mode)
  | .setFlags _ flags => .ok (.empty, mode.update flags)
  | .literal leaf => return (← leaf.expr mode, mode)
  | .dot span => return (← mode.dot span, mode)
  | .assertion _ which => .ok (.look (mode.look which), mode)
  | .named span negated which => return (Expr.ofSet (← which.set mode span negated), mode)
  | .bracketed span negated inner => do
    let members ← mode.foldAndNegate span negated (← inner.set mode)
    return (Expr.ofSet members, mode)
  | .repetition _ least most greedy inner => do
    let (expr, mode) ← inner.expr mode
    return (expr.iterate least most (greedy != mode.swapGreed), mode)
  | .group _ (.capture index name) inner => do
    let (expr, _) ← inner.expr mode
    return (.capture index name expr, mode)
  | .group _ (.plain flags) inner => do
    let (expr, _) ← inner.expr (mode.update flags)
    return (expr, mode)
  | .alternation _ branches => do
    let (exprs, mode) ← Tree.exprs mode branches
    return (Expr.alternation exprs, mode)
  | .concat _ parts => do
    let (exprs, mode) ← Tree.exprs mode parts
    return (Expr.concat exprs, mode)

/-- The expressions of trees, each under the flags in force after the one before. -/
def Tree.exprs (mode : Settings) : List Tree → Meaning (List Expr × Settings)
  | [] => .ok ([], mode)
  | tree :: rest => do
    let (expr, mode) ← tree.expr mode
    let (exprs, mode) ← Tree.exprs mode rest
    return (expr :: exprs, mode)

end

end Emend.Pattern
