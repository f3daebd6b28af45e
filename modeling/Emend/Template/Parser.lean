import Emend.Template.Basic

/-!
# Reading templates

A template is read from left to right, one piece at a time. A backslash begins a reference, a
character code or a control character; before punctuation it stands for itself and what follows
it. Every reference has to name a group of the pattern. The first piece that is faulty decides
the fault. An offset in a fault counts the bytes before the piece.
-/

namespace Emend.Template

inductive Fault where
  /-- The template ends after a backslash. -/
  | trailingBackslash
  /-- A reference by name does not open its angle. -/
  | angleExpected (offset : Nat)
  /-- A backslash before a letter that means nothing. -/
  | badEscape (letter : Char) (offset : Nat)
  /-- Three octal digits beyond the last one-byte code. -/
  | octalTooLarge (digits : List Char) (offset : Nat)
  /-- A reference by name does not close its angle. -/
  | unterminated (name : List Char)
  /-- A reference without a name. -/
  | emptyReference
  /-- A group number that is too large to be one. -/
  | invalidGroup (name : List Char)
  /-- A number that the pattern has no group for. -/
  | missingGroup (index groups : Nat)
  /-- A name that the pattern has no group for. -/
  | unknownName (name : List Char)
deriving DecidableEq, Repr

def Fault.message : Fault → String
  | .trailingBackslash => "trailing backslash"
  | .angleExpected offset => "expected '<' after \\g at offset " ++ toString offset
  | .badEscape letter offset =>
    "bad escape \\" ++ String.singleton letter ++ " at offset " ++ toString offset
  | .octalTooLarge digits offset =>
    "octal escape value \\" ++ String.ofList digits ++
      " outside of range 0-0o377 at offset " ++ toString offset
  | .unterminated name => "unterminated group reference \\g<" ++ String.ofList name
  | .emptyReference => "empty group reference"
  | .invalidGroup name => "invalid group " ++ String.ofList name
  | .missingGroup index groups =>
    "reference to group " ++ toString index ++ ", but the pattern has " ++ toString groups ++
      " group(s)"
  | .unknownName name => "unknown group name '" ++ String.ofList name ++ "'"

/-- A fault of a text that stands behind `bytes` further bytes. -/
def Fault.shift (bytes : Nat) : Fault → Fault
  | .angleExpected offset => .angleExpected (offset + bytes)
  | .badEscape letter offset => .badEscape letter (offset + bytes)
  | .octalTooLarge digits offset => .octalTooLarge digits (offset + bytes)
  | other => other

/-! ## Digits -/

def isOctal (c : Char) : Bool := '0' ≤ c && c ≤ '7'

def digitsValue (base : Nat) (digits : List Char) : Nat :=
  digits.foldl (fun value c => value * base + (c.toNat - '0'.toNat)) 0

def maxOctal : Nat := 0o377

def numberBound : Nat := Nat.pow 2 64

/-! ## Pieces -/

/-- The smallest unit of a template: text, or the name between the angles of a reference. -/
inductive Piece where
  | text (chars : List Char)
  | reference (name : List Char)
deriving DecidableEq, Repr

abbrev Rest (text : List Char) := { rest : List Char // rest.length ≤ text.length }

abbrev PieceOf (text : List Char) := Except Fault (Piece × Rest text)

/-- Split a text at the first closing angle, which belongs to neither part. -/
def splitAngle? : (text : List Char) → Option (List Char × Rest text)
  | [] => none
  | c :: text =>
    if c = '>' then some ([], ⟨text, Nat.le_succ _⟩)
    else (splitAngle? text).map fun (name, rest) => (c :: name, ⟨rest, Nat.le_succ_of_le rest.2⟩)

def octalPiece {text : List Char} (digits : List Char) (rest : Rest text) :
    PieceOf text :=
  let code := digitsValue 8 digits
  if code ≤ maxOctal then .ok (.text [Char.ofNat code], rest)
  else .error (.octalTooLarge digits 0)

/-- The piece after a backslash and a zero: a code with up to two further octal digits. -/
def zeroPiece : (text : List Char) → PieceOf text
  | first :: second :: text =>
    if isOctal first then
      if isOctal second then octalPiece ['0', first, second] ⟨text, by simp; omega⟩
      else octalPiece ['0', first] ⟨second :: text, by simp⟩
    else octalPiece ['0'] ⟨first :: second :: text, by simp⟩
  | [first] =>
    if isOctal first then octalPiece ['0', first] ⟨[], by simp⟩
    else octalPiece ['0'] ⟨[first], by simp⟩
  | [] => octalPiece ['0'] ⟨[], by simp⟩

/-- The piece after a backslash and another digit: a code if three octal digits stand together,
or else a reference by one or two digits. -/
def digitPiece (digit : Char) : (text : List Char) → PieceOf text
  | first :: second :: text =>
    if first.isDigit then
      if isOctal digit && isOctal first && isOctal second then
        octalPiece [digit, first, second] ⟨text, by simp; omega⟩
      else .ok (.reference [digit, first], ⟨second :: text, by simp⟩)
    else .ok (.reference [digit], ⟨first :: second :: text, by simp⟩)
  | [first] =>
    if first.isDigit then .ok (.reference [digit, first], ⟨[], by simp⟩)
    else .ok (.reference [digit], ⟨[first], by simp⟩)
  | [] => .ok (.reference [digit], ⟨[], by simp⟩)

def namePiece : (text : List Char) → PieceOf text
  | '<' :: text =>
    match splitAngle? text with
    | some (name, rest) => .ok (.reference name, ⟨rest, Nat.le_succ_of_le rest.2⟩)
    | none => .error (.unterminated text)
  | _ => .error (.angleExpected 0)

def controlOf? : Char → Option Char
  | 'n' => some '\n'
  | 't' => some '\t'
  | 'r' => some '\r'
  | 'a' => some '\x07'
  | 'b' => some '\x08'
  | 'f' => some '\x0c'
  | 'v' => some '\x0b'
  | _ => none

/-- The piece that begins with a backslash; `text` is what follows it. -/
def escapePiece : (text : List Char) → PieceOf text
  | [] => .error .trailingBackslash
  | c :: text =>
    let longer (piece : PieceOf text) : PieceOf (c :: text) :=
      piece.map fun (piece, rest) => (piece, ⟨rest, Nat.le_succ_of_le rest.2⟩)
    let left : Rest (c :: text) := ⟨text, Nat.le_succ _⟩
    if c = '\\' then .ok (.text ['\\'], left)
    else if c = '0' then longer (zeroPiece text)
    else if c.isDigit then longer (digitPiece c text)
    else if c = 'g' then longer (namePiece text)
    else
      match controlOf? c with
      | some control => .ok (.text [control], left)
      | none =>
        if c.isAlpha then .error (.badEscape c 0) else .ok (.text ['\\', c], left)

def readPiece (c : Char) (text : List Char) : PieceOf text :=
  if c = '\\' then escapePiece text else .ok (.text [c], ⟨text, Nat.le_refl _⟩)

/-! ## References -/

/-- The group that a reference names, among groups given by their names, the whole match
first. -/
def resolve (groupNames : List (Option String)) (name : List Char) : Except Fault Nat :=
  if name.isEmpty then .error .emptyReference
  else if name.all Char.isDigit then
    let index := digitsValue 10 name
    if numberBound ≤ index then .error (.invalidGroup name)
    else if index < groupNames.length then .ok index
    else .error (.missingGroup index (groupNames.length - 1))
  else
    match groupNames.findIdx? (· == some (String.ofList name)) with
    | some index => .ok index
    | none => .error (.unknownName name)

def Piece.segment (groupNames : List (Option String)) : Piece → Except Fault Segment
  | .text chars => .ok (.literal chars)
  | .reference name => (resolve groupNames name).map .group

/-! ## Templates -/

def byteLength (text : List Char) : Nat :=
  text.foldr (fun c length => c.utf8Size + length) 0

def parseChars (groupNames : List (Option String)) : List Char → Except Fault (List Segment)
  | [] => .ok []
  | c :: text => do
    let (piece, rest) ← readPiece c text
    let segment ← piece.segment groupNames
    match parseChars groupNames rest.1 with
    | .ok segments => return cons segment segments
    | .error fault => .error (fault.shift (byteLength (c :: text) - byteLength rest))
termination_by text => text.length
decreasing_by exact Nat.lt_succ_of_le rest.2

def parse (groupNames : List (Option String)) (template : String) : Except Fault Template :=
  return ⟨← parseChars groupNames template.toList⟩

end Emend.Template
