import Emend.Json.NumberReader

/-!
# Reading strings

A string ends at a quote. A backslash begins an escape: one letter, or four hexadecimal digits
for a unit of sixteen bits, where two surrogate units together stand for one character. Control
characters have to be escaped.
-/

namespace Emend.Json

/-! ## Units of sixteen bits -/

def hexValue? (c : Char) : Option Nat :=
  if c.isDigit then some (c.toNat - '0'.toNat)
  else if 'a' ≤ c && c ≤ 'f' then some (c.toNat - 'a'.toNat + 10)
  else if 'A' ≤ c && c ≤ 'F' then some (c.toNat - 'A'.toNat + 10)
  else none

def unitOf? (a b c d : Char) : Option Nat := do
  return (((← hexValue? a) * 16 + (← hexValue? b)) * 16 + (← hexValue? c)) * 16 + (← hexValue? d)

/-- Read four hexadecimal digits. Bytes that are no digits are counted as if they were. -/
def readUnit (text : List Char) : Except Fault (Parsed Nat) :=
  let unit? :=
    match text with
    | a :: b :: c :: d :: rest => (unitOf? a b c d).map fun unit => (unit, rest)
    | _ => none
  match unit? with
  | some read => .ok read
  | none =>
    if byteLength text < 4 then .error (.here .endInString [])
    else .error (.ahead .badEscape 4 text)

def isLeading (unit : Nat) : Bool := 0xD800 ≤ unit && unit ≤ 0xDBFF

def isTrailing (unit : Nat) : Bool := 0xDC00 ≤ unit && unit ≤ 0xDFFF

def pairedChar (leading trailing : Nat) : Char :=
  Char.ofNat (0x10000 + (leading - 0xD800) * 0x400 + (trailing - 0xDC00))

def readInPair (expected : Char) : List Char → Except Fault (Parsed Unit)
  | [] => .error (.here .endInString [])
  | c :: rest =>
    if c = expected then .ok ((), rest) else .error (.ahead .surrogateCutShort 1 (c :: rest))

/-- Read a character written as one unit or as two. -/
def readUnits (text : List Char) : Except Fault (Parsed Char) := do
  let (unit, rest) ← readUnit text
  if isTrailing unit then throw (.here .loneSurrogate rest)
  if !isLeading unit then return (Char.ofNat unit, rest)
  let ((), rest) ← readInPair '\\' rest
  let ((), rest) ← readInPair 'u' rest
  let (unit', rest) ← readUnit rest
  if !isTrailing unit' then throw (.here .loneSurrogate rest)
  return (pairedChar unit unit', rest)

/-! ## Escapes -/

/-- The characters that one letter behind a backslash stands for. -/
def letterEscapes : List (Char × Char) := [
  ('"', '"'), ('\\', '\\'), ('/', '/'), ('b', '\x08'), ('f', '\x0c'), ('n', '\n'), ('r', '\r'),
  ('t', '\t')]

def readEscape : List Char → Except Fault (Parsed Char)
  | [] => .error (.here .endInString [])
  | c :: rest =>
    if c = 'u' then readUnits rest
    else
      match letterEscapes.lookup c with
      | some char => .ok (char, rest)
      | none => .error (.ahead .badEscape 1 (c :: rest))

/-! ## Strings -/

def isControl (c : Char) : Bool := c.toNat < 0x20

/-- Read the characters of a string up to its closing quote. A text of `fuel` characters ends
before the fuel does. -/
def readChars : (fuel : Nat) → List Char → Except Fault (Parsed (List Char))
  | 0, text => .error (.here .endInString text)
  | _ + 1, [] => .error (.here .endInString [])
  | fuel + 1, c :: text =>
    if c = '"' then .ok ([], text)
    else if c = '\\' then do
      let (char, rest) ← readEscape text
      let (chars, rest) ← readChars fuel rest
      return (char :: chars, rest)
    else if isControl c then .error (.ahead .controlCharacter 1 (c :: text))
    else do
      let (chars, rest) ← readChars fuel text
      return (c :: chars, rest)

/-- Read a string, after its opening quote. A text of `fuel` characters ends before the fuel
does. -/
def readString (fuel : Nat) (text : List Char) : Except Fault (Parsed String) := do
  let (chars, rest) ← readChars fuel text
  return (String.ofList chars, rest)

end Emend.Json
