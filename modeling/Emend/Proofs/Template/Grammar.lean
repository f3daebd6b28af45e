import Mathlib.Data.List.Forall2
import Emend.Template.Parser

/-!
# The grammar of templates

A template is split into pieces from left to right. What follows a backslash decides which piece it
begins, and a piece of digits takes as many of them as it can. Each piece stands for characters and
references: a name between angles, or digits, refer to a group by its number or by its name.
-/

namespace Emend.Template

/-! ## Pieces -/

def goesOn (kind : Char → Bool) (text : List Char) : Bool := text.head?.any kind

/-- The letters that stand for control characters behind a backslash. -/
def controls : List (Char × Char) := [
  ('n', '\n'), ('t', '\t'), ('r', '\r'), ('a', '\x07'), ('b', '\x08'), ('f', '\x0c'),
  ('v', '\x0b')]

def octalCode (digits : List Char) : Nat := Nat.ofDigitChars 8 digits 0

/-- A text begins with a piece, and a rest follows. -/
inductive Reads : (text : List Char) → Piece → (rest : List Char) → Prop where
  /-- A character other than a backslash is itself. -/
  | plain {c : Char} {rest : List Char} (other : c ≠ '\\') : Reads (c :: rest) (.text [c]) rest
  | backslash {rest : List Char} : Reads ('\\' :: '\\' :: rest) (.text ['\\']) rest
  | control {letter control : Char} {rest : List Char} (known : (letter, control) ∈ controls) :
      Reads ('\\' :: letter :: rest) (.text [control]) rest
  /-- A zero takes up to two further octal digits. -/
  | zero {digits rest : List Char} (octal : ∀ digit ∈ digits, isOctal digit = true)
      (greedy : digits.length = 2 ∨ digits.length < 2 ∧ goesOn isOctal rest = false) :
      Reads ('\\' :: '0' :: (digits ++ rest)) (.text [Char.ofNat (octalCode digits)]) rest
  /-- Three octal digits that do not begin with a zero are a code of one byte. -/
  | octal {first second third : Char} {rest : List Char} (nonzero : first ≠ '0')
      (octal : ∀ digit ∈ [first, second, third], isOctal digit = true)
      (small : octalCode [first, second, third] ≤ 0o377) :
      Reads ('\\' :: first :: second :: third :: rest)
        (.text [Char.ofNat (octalCode [first, second, third])]) rest
  /-- Two digits are a reference, unless they begin a code. -/
  | twoDigits {first second : Char} {rest : List Char} (nonzero : first ≠ '0')
      (digits : first.isDigit = true ∧ second.isDigit = true)
      (noCode : ¬ (isOctal first = true ∧ isOctal second = true ∧ goesOn isOctal rest = true)) :
      Reads ('\\' :: first :: second :: rest) (.reference [first, second]) rest
  | oneDigit {digit : Char} {rest : List Char} (nonzero : digit ≠ '0')
      (isDigit : digit.isDigit = true) (alone : goesOn Char.isDigit rest = false) :
      Reads ('\\' :: digit :: rest) (.reference [digit]) rest
  /-- A name reaches up to the next closing angle. -/
  | named {name rest : List Char} (shut : '>' ∉ name) :
      Reads ('\\' :: 'g' :: '<' :: (name ++ '>' :: rest)) (.reference name) rest
  /-- A backslash in front of anything else but a letter is kept. -/
  | kept {c : Char} {rest : List Char} (other : c ≠ '\\') (noLetter : c.isAlpha = false)
      (noDigit : c.isDigit = false) : Reads ('\\' :: c :: rest) (.text ['\\', c]) rest

inductive Splits : (text : List Char) → List Piece → Prop where
  | nil : Splits [] []
  | cons {text rest : List Char} {piece : Piece} {pieces : List Piece}
      (reads : Reads text piece rest) (others : Splits rest pieces) :
      Splits text (piece :: pieces)

/-! ## References -/

/-- The group that a reference is about, among groups given by their names. -/
inductive Refers (groupNames : List (Option String)) : (name : List Char) → (index : Nat) → Prop
    where
  /-- Digits are a number, with zeros in front or without, that fits in eight bytes. -/
  | number {digits : List Char} (some : digits ≠ []) (isDigit : ∀ c ∈ digits, c.isDigit = true)
      (bounded : Nat.ofDigitChars 10 digits 0 < numberBound)
      (inside : Nat.ofDigitChars 10 digits 0 < groupNames.length) :
      Refers groupNames digits (Nat.ofDigitChars 10 digits 0)
  /-- Anything else is a name. -/
  | name {name : List Char} {index : Nat} (word : ∃ c ∈ name, c.isDigit = false)
      (named : groupNames[index]? = some (some (String.ofList name)))
      (first : ∀ earlier < index, groupNames[earlier]? ≠ some (some (String.ofList name))) :
      Refers groupNames name index

/-! ## Meaning -/

inductive Atom where
  | char (c : Char)
  | group (index : Nat)
deriving DecidableEq, Repr

/-- What an atom stands for in the place of a region. A group that took no part in the match stands
for nothing, and group zero for the region. -/
def Atom.expand (region : List Char) (group : Nat → Option (List Char)) : Atom → List Char
  | char c => [c]
  | .group index =>
    if index = 0 then region
    else
      match group index with
      | some chars => chars
      | none => []

inductive Stands (groupNames : List (Option String)) : Piece → List Atom → Prop where
  | text (chars : List Char) : Stands groupNames (.text chars) (chars.map .char)
  | reference {name : List Char} {index : Nat} (refers : Refers groupNames name index) :
      Stands groupNames (.reference name) [.group index]

def Segment.atoms : Segment → List Atom
  | literal chars => chars.map .char
  | .group index => [.group index]

def atomsOf (segments : List Segment) : List Atom := segments.flatMap Segment.atoms

/-- Texts side by side make up one literal. -/
structure IsMerged (segments : List Segment) : Prop where
  full : Segment.literal [] ∉ segments
  apart : segments.IsChain fun before behind =>
    ∀ first second, ¬ (before = .literal first ∧ behind = .literal second)

end Emend.Template
