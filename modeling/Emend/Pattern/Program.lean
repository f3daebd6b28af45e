import Emend.Pattern.Expr

/-!
# Programs

A program is a list of instructions that a search steps through. Where several continuations are
possible, the instruction lists them in order of preference. Code is laid down from the back: an
expression is compiled in front of the address where it continues.
-/

namespace Emend.Pattern

abbrev Address := Nat

inductive Inst where
  /-- Accept. -/
  | accept
  /-- Read one given character. -/
  | char (c : Char) (next : Address)
  /-- Read one character of a set. -/
  | set (members : CharSet) (next : Address)
  /-- Check a condition on the position. -/
  | look (which : Look) (next : Address)
  /-- Store the position in a slot. -/
  | save (slot : Nat) (next : Address)
  /-- Go on at the first address, or else at the second. -/
  | fork (first second : Address)
deriving DecidableEq, Repr, Inhabited

abbrev Code := Array Inst

/-- Code with the address where an expression in it begins. -/
structure Block where
  code : Code
  entry : Address
deriving DecidableEq, Repr, Inhabited

namespace Block

def push (block : Block) (inst : Inst) : Block :=
  let entry := block.code.size
  ⟨block.code.push inst, entry⟩

def enterAt (block : Block) (entry : Address) : Block := { block with entry := entry }

def patch (block : Block) (address : Address) (inst : Inst) : Block :=
  { block with code := block.code.setIfInBounds address inst }

/-- A fork that prefers to go on with `body` when greedy, and to leave otherwise. -/
def choiceOf (greedy : Bool) (body leave : Address) : Inst :=
  if greedy then .fork body leave else .fork leave body

/-- Lay down code several times, each time in front of what is there. -/
def times (lay : Block → Block) : Nat → Block → Block
  | 0, block => block
  | count + 1, block => times lay count (lay block)

def literal (chars : List Char) (block : Block) : Block :=
  chars.foldr (fun c block => block.push (.char c block.entry)) block

/-- Lay down code that may be passed over, to the address `leave`. -/
def optional (greedy : Bool) (leave : Address) (lay : Block → Block) (block : Block) : Block :=
  let body := lay block
  body.push (choiceOf greedy body.entry leave)

def oneOrMore (greedy : Bool) (lay : Block → Block) (block : Block) : Block :=
  let loop := block.push (.fork block.entry block.entry)
  let body := lay loop
  body.patch loop.entry (choiceOf greedy body.entry block.entry)

/-- Lay down code that runs any number of times and reads something each time. -/
def zeroOrMore (greedy : Bool) (lay : Block → Block) (block : Block) : Block :=
  (oneOrMore greedy lay block).enterAt block.code.size

/-- Lay down a repetition. Code that may match the empty text and repeats without bound is laid
down as an optional run of once or more, which keeps the order of preference. -/
def repetition (least : Nat) (most : Option Nat) (greedy consumes : Bool)
    (lay : Block → Block) (block : Block) : Block :=
  match least, most with
  | 0, none =>
    if consumes then zeroOrMore greedy lay block
    else optional greedy block.entry (oneOrMore greedy lay) block
  | least + 1, none => times lay least (oneOrMore greedy lay block)
  | least, some most =>
    times lay least (times (optional greedy block.entry lay) (most - least) block)

end Block

def startSlot (index : Nat) : Nat := 2 * index

def stopSlot (index : Nat) : Nat := 2 * index + 1

/-- Lay down an expression in front of a block. -/
def Expr.lay : Expr → Block → Block
  | .empty, block => block
  | .literal chars, block => Block.literal chars block
  | .set members, block => block.push (.set members block.entry)
  | .look which, block => block.push (.look which block.entry)
  | .capture index _ inner, block =>
    let close := block.push (.save (stopSlot index) block.entry)
    let body := inner.lay close
    body.push (.save (startSlot index) body.entry)
  | .repetition least most greedy inner, block =>
    Block.repetition least most greedy inner.consumes inner.lay block
  | .seq first rest, block => first.lay (rest.lay block)
  | .choice first rest, block =>
    let second := rest.lay block
    let body := first.lay (second.enterAt block.entry)
    body.push (.fork body.entry second.entry)

structure Program where
  code : Code
  start : Address
  /-- The number of slots for the places of groups. -/
  slots : Nat
deriving DecidableEq, Repr, Inhabited

def Expr.lastGroup (expr : Expr) : Nat :=
  expr.groups.foldl (fun last group => max last group.1) 0

def Program.ofExpr (expr : Expr) : Program :=
  let block := expr.lay ⟨#[.accept], 0⟩
  ⟨block.code, block.entry, 2 * (expr.lastGroup + 1)⟩

end Emend.Pattern
