import Emend.Pattern.Reader

/-!
# Escapes

A backslash introduces a class, a condition on a position, or a character that would be hard to
write or would mean something else.
-/

namespace Emend.Pattern.Reader

/-! ## Characters by number -/

def hexDigit? (c : Char) : Option Nat :=
  if '0' ≤ c && c ≤ '9' then some (c.toNat - '0'.toNat)
  else if 'a' ≤ c && c ≤ 'f' then some (c.toNat - 'a'.toNat + 10)
  else if 'A' ≤ c && c ≤ 'F' then some (c.toNat - 'A'.toNat + 10)
  else none

/-- The character with a number, unless the number is too large or a surrogate. -/
def charOfCode? (code : Nat) : Option Char :=
  if h : code.isValidChar then some (Char.ofNatAux code h) else none

def hexValue (digits : List Char) : Nat :=
  digits.foldl (fun value c => value * 16 + (hexDigit? c).getD 0) 0

def hexDigits : (count : Nat) → Reader (List Char)
  | 0 => return []
  | count + 1 => do
    match ← peek? with
    | some c =>
      if (hexDigit? c).isNone then fail .escapeHexInvalidDigit (← charSpan)
      else
        let more ← bumpAndSkip
        if count = 0 then return [c]
        else if !more then fail .escapeUnexpectedEnd (← hereSpan)
        else return c :: (← hexDigits count)
    | none => fail .escapeUnexpectedEnd (← hereSpan)

/-- A character written with digits of a fixed count; `start` is where the escape began. -/
def fixedHex (start count : Nat) : Reader Literal := do
  let first ← position
  let digits ← hexDigits count
  match charOfCode? (hexValue digits) with
  | some c => return ⟨← spanFrom start, c, count = 2⟩
  | none => fail .escapeHexInvalid (← spanFrom first)

/-- Read hexadecimal digits up to a closing brace, which is left to be read. -/
def hexDigitsInBraces : (fuel : Nat) → Reader (List Char)
  | 0 => return []
  | fuel + 1 => do
    if ← bumpAndSkip then
      match ← peek? with
      | some c =>
        if c = '\x7d' then return []
        else if (hexDigit? c).isNone then fail .escapeHexInvalidDigit (← charSpan)
        else return c :: (← hexDigitsInBraces fuel)
      | none => return []
    else return []

def bracedHex (start : Nat) : Reader Literal := do
  let brace ← position
  let digits ← hexDigitsInBraces (← remaining)
  if ← atEnd then fail .escapeUnexpectedEnd (← spanFrom brace)
  else
    let last ← position
    let _ ← bumpAndSkip
    if digits.isEmpty then fail .escapeHexEmpty (← spanFrom brace)
    else
      match charOfCode? (hexValue digits) with
      | some c => return ⟨← spanFrom start, c, false⟩
      | none => fail .escapeHexInvalid ⟨brace + 1, last⟩

def hexEscape (start count : Nat) : Reader Literal := do
  if ← bumpAndSkip then
    if (← peek?) = some '\x7b' then bracedHex start else fixedHex start count
  else fail .escapeUnexpectedEnd (← hereSpan)

/-! ## Classes by property -/

def propertyText : (fuel : Nat) → Reader (List Char)
  | 0 => return []
  | fuel + 1 => do
    if ← bumpAndSkip then
      match ← peek? with
      | some c => if c = '\x7d' then return [] else return c :: (← propertyText fuel)
      | none => return []
    else return []

def splitAtFirst? (separator : List Char) : List Char → Option (List Char × List Char)
  | [] => none
  | c :: rest =>
    if separator.isPrefixOf (c :: rest) then some ([], (c :: rest).drop separator.length)
    else (splitAtFirst? separator rest).map fun (before, after) => (c :: before, after)

/-- What the text between the braces asks for: a name, or a name and a value with a sign between
them. An exclamation mark before the sign changes nothing. -/
def propertyOf (text : List Char) : PropertyName :=
  let signs := [['!', '='], [':'], ['=']]
  match signs.findSome? fun sign => splitAtFirst? sign text with
  | some (name, value) => .valued (String.ofList name) (String.ofList value)
  | none => .named (String.ofList text)

def propertyEscape (start : Nat) (negated : Bool) : Reader Tree := do
  if ← bumpAndSkip then
    match ← peek? with
    | some c =>
      if c = '\x7b' then
        let text ← propertyText (← remaining)
        if ← atEnd then fail .escapeUnexpectedEnd (← hereSpan)
        else
          let _ ← bump
          return .named (← spanFrom start) negated (.property (propertyOf text))
      else if c = '\\' then fail .propertyInvalid (← charSpan)
      else
        let _ ← bumpAndSkip
        return .named (← spanFrom start) negated (.property (.named (String.singleton c)))
    | none => fail .escapeUnexpectedEnd (← hereSpan)
  else fail .escapeUnexpectedEnd (← hereSpan)

/-! ## Word boundaries -/

def isBoundaryChar (c : Char) : Bool := c.isAlpha || c = '-'

def boundaryOf? (name : List Char) : Option Assertion :=
  if name = "start".toList then some .wordStart
  else if name = "end".toList then some .wordEnd
  else if name = "start-half".toList then some .wordStartHalf
  else if name = "end-half".toList then some .wordEndHalf
  else none

/-- A special word boundary at an opening brace. When the brace opens a counted repetition
instead, nothing is read. -/
def specialBoundary? (start : Nat) : Reader (Option Assertion) := do
  let before ← get
  if ← bumpAndSkip then
    let first ← position
    match ← peek? with
    | some c =>
      if isBoundaryChar c then
        let name ← takeSkipping isBoundaryChar (← remaining)
        if (← peek?) = some '\x7d' then
          let last ← position
          let _ ← bump
          match boundaryOf? name with
          | some which => return some which
          | none => fail .wordBoundaryUnrecognized ⟨first, last⟩
        else fail .wordBoundaryUnclosed (← spanFrom before.position)
      else
        set before
        return none
    | none => return none
  else fail .wordBoundaryUnexpectedEnd (← spanFrom start)

def wordBoundary (start : Nat) : Reader Tree := do
  let plain ← spanFrom start
  if (← peek?) = some '\x7b' then
    match ← specialBoundary? start with
    | some which => return .assertion (← spanFrom start) which
    | none => return .assertion plain .wordBoundary
  else return .assertion plain .wordBoundary

/-! ## All escapes -/

def isMeta (c : Char) : Bool := "\\.+*?()|[]\x7b\x7d^$#&-~".toList.contains c

/-- Other characters that may be escaped without need. -/
def isEscapable (c : Char) : Bool :=
  c.toNat ≤ 0x7F && !c.isAlphanum && c ≠ '<' && c ≠ '>'

def controlOf? : Char → Option Char
  | 'a' => some '\x07'
  | 'f' => some '\x0c'
  | 't' => some '\t'
  | 'n' => some '\n'
  | 'r' => some '\r'
  | 'v' => some '\x0b'
  | _ => none

def assertionOf? : Char → Option Assertion
  | 'A' => some .startText
  | 'z' => some .endText
  | 'B' => some .notWordBoundary
  | '<' => some .wordStart
  | '>' => some .wordEnd
  | _ => none

/-- The class that a one-letter escape stands for, and whether it is negated. -/
def shortClassOf? : Char → Option (ShortClass × Bool)
  | 'd' => some (.digit, false)
  | 's' => some (.space, false)
  | 'w' => some (.word, false)
  | 'D' => some (.digit, true)
  | 'S' => some (.space, true)
  | 'W' => some (.word, true)
  | _ => none

def simpleEscape (start : Nat) (c : Char) : Reader Tree := do
  let _ ← bump
  let span ← spanFrom start
  if isMeta c || isEscapable c then return .literal ⟨span, c, false⟩
  else if c = 'b' then wordBoundary start
  else
    match shortClassOf? c, controlOf? c, assertionOf? c with
    | some (which, negated), _, _ => return .named span negated (.short which)
    | none, some control, _ => return .literal ⟨span, control, false⟩
    | none, none, some which => return .assertion span which
    | none, none, none => fail .escapeUnrecognized span

def escape : Reader Tree := do
  let start ← position
  let _ ← bump
  match ← peek? with
  | none => fail .escapeUnexpectedEnd (← spanFrom start)
  | some c =>
    if c.isDigit then
      let after := (← charSpan).stop
      fail .backreference ⟨start, after⟩
    else if c = 'x' then return .literal (← hexEscape start 2)
    else if c = 'u' then return .literal (← hexEscape start 4)
    else if c = 'U' then return .literal (← hexEscape start 8)
    else if c = 'p' then propertyEscape start false
    else if c = 'P' then propertyEscape start true
    else simpleEscape start c

end Emend.Pattern.Reader
