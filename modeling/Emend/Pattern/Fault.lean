import Emend.Pattern.Syntax
import Emend.Text.Lines

/-!
# Faults of patterns

Why a pattern is refused, and the message that shows the fault below the pattern's text. A
pattern of one line is shown indented; one of several lines is shown with line numbers between
two rules.
-/

namespace Emend.Pattern

inductive Fault where
  | classEscapeInvalid
  | classRangeInvalid
  | classRangeLiteral
  | classUnclosed
  | decimalInvalid
  | escapeHexEmpty
  | escapeHexInvalid
  | escapeHexInvalidDigit
  | escapeUnexpectedEnd
  | escapeUnrecognized
  | flagDanglingNegation
  | flagDuplicate (earlier : Span)
  | flagRepeatedNegation (earlier : Span)
  | flagUnexpectedEnd
  | flagUnrecognized
  | groupNameDuplicate (earlier : Span)
  | groupNameEmpty
  | groupNameInvalid
  | groupNameUnexpectedEnd
  | groupUnclosed
  | groupUnopened
  | nestLimitExceeded (limit : Nat)
  | repetitionCountInvalid
  | repetitionCountEmpty
  | repetitionCountUnclosed
  | repetitionMissing
  | wordBoundaryUnclosed
  | wordBoundaryUnrecognized
  | wordBoundaryUnexpectedEnd
  | propertyInvalid
  | backreference
  | lookAround
  | unicodeNotAllowed
  | invalidUtf8
  | propertyNotFound
  | propertyValueNotFound
deriving DecidableEq, Repr

def Fault.message : Fault → String
  | .classEscapeInvalid => "invalid escape sequence found in character class"
  | .classRangeInvalid => "invalid character class range, the start must be <= the end"
  | .classRangeLiteral => "invalid range boundary, must be a literal"
  | .classUnclosed => "unclosed character class"
  | .decimalInvalid => "decimal literal invalid"
  | .escapeHexEmpty => "hexadecimal literal empty"
  | .escapeHexInvalid => "hexadecimal literal is not a Unicode scalar value"
  | .escapeHexInvalidDigit => "invalid hexadecimal digit"
  | .escapeUnexpectedEnd =>
    "incomplete escape sequence, reached end of pattern prematurely"
  | .escapeUnrecognized => "unrecognized escape sequence"
  | .flagDanglingNegation => "dangling flag negation operator"
  | .flagDuplicate _ => "duplicate flag"
  | .flagRepeatedNegation _ => "flag negation operator repeated"
  | .flagUnexpectedEnd => "expected flag but got end of regex"
  | .flagUnrecognized => "unrecognized flag"
  | .groupNameDuplicate _ => "duplicate capture group name"
  | .groupNameEmpty => "empty capture group name"
  | .groupNameInvalid => "invalid capture group character"
  | .groupNameUnexpectedEnd => "unclosed capture group name"
  | .groupUnclosed => "unclosed group"
  | .groupUnopened => "unopened group"
  | .nestLimitExceeded limit =>
    "exceed the maximum number of nested parentheses/brackets (" ++ toString limit ++ ")"
  | .repetitionCountInvalid =>
    "invalid repetition count range, the start must be <= the end"
  | .repetitionCountEmpty => "repetition quantifier expects a valid decimal"
  | .repetitionCountUnclosed => "unclosed counted repetition"
  | .repetitionMissing => "repetition operator missing expression"
  | .wordBoundaryUnclosed =>
    "special word boundary assertion is either unclosed or contains an invalid character"
  | .wordBoundaryUnrecognized =>
    "unrecognized special word boundary assertion, valid choices are: " ++
      "start, end, start-half or end-half"
  | .wordBoundaryUnexpectedEnd =>
    "found either the beginning of a special word boundary or a bounded repetition on a \\b " ++
      "with an opening brace, but no closing brace"
  | .propertyInvalid => "invalid Unicode character class"
  | .backreference => "backreferences are not supported"
  | .lookAround => "look-around, including look-ahead and look-behind, is not supported"
  | .unicodeNotAllowed => "Unicode not allowed here"
  | .invalidUtf8 => "pattern can match invalid UTF-8"
  | .propertyNotFound => "Unicode property not found"
  | .propertyValueNotFound => "Unicode property value not found"

/-- The earlier place that a fault refers to. -/
def Fault.earlier? : Fault → Option Span
  | .flagDuplicate earlier => some earlier
  | .flagRepeatedNegation earlier => some earlier
  | .groupNameDuplicate earlier => some earlier
  | _ => none

structure LocatedFault where
  fault : Fault
  span : Span
deriving DecidableEq, Repr

/-! ## Lines and columns -/

/-- A place in a text, both parts counted from one. -/
structure Place where
  line : Nat
  column : Nat
deriving DecidableEq, Repr

def Place.of (text : List Char) (position : Nat) : Place :=
  let before := text.take position
  ⟨before.count '\n' + 1, (before.reverse.takeWhile (· ≠ '\n')).length + 1⟩

/-! ## The picture of a fault -/

/-- Draw carets below columns: `column` is the one reached, each mark a first column and a
width. -/
def caretsFrom (column : Nat) : List (Nat × Nat) → List Char
  | [] => []
  | (start, width) :: rest =>
    List.replicate (start - column) ' ' ++ List.replicate width '^' ++
      caretsFrom (max column start + width) rest

def Span.before (first second : Span) : Bool :=
  first.start < second.start || (first.start = second.start && first.stop ≤ second.stop)

/-- The marks on one line, as first columns and widths. -/
def marksOn (text : List Char) (spans : List Span) (line : Nat) : List (Nat × Nat) :=
  spans.filterMap fun span =>
    let start := Place.of text span.start
    let stop := Place.of text span.stop
    if start.line = stop.line && start.line = line then
      some (start.column, max 1 (stop.column - start.column))
    else none

def spanNote? (text : List Char) (span : Span) : Option String :=
  let start := Place.of text span.start
  let stop := Place.of text span.stop
  if start.line = stop.line then none
  else some ("on line " ++ toString start.line ++ " (column " ++ toString start.column ++
    ") through line " ++ toString stop.line ++ " (column " ++ toString (stop.column - 1) ++ ")")

def padded (width number : Nat) : String :=
  let digits := toString number
  String.ofList (List.replicate (width - digits.length) ' ') ++ digits

def picturedLine (text : List Char) (spans : List Span) (width : Nat) (index : Nat)
    (line : List Char) : String :=
  let label := if width = 0 then "    " else padded width (index + 1) ++ ": "
  let marks := marksOn text spans (index + 1)
  let shown := label ++ String.ofList line ++ "\n"
  if marks.isEmpty then shown
  else
    let margin := if width = 0 then 4 else width + 2
    shown ++ String.ofList (List.replicate margin ' ' ++ caretsFrom 1 marks) ++ "\n"

def LocatedFault.message (located : LocatedFault) (pattern : String) : String :=
  let text := pattern.toList
  let lines := Text.lines text
  let several := text.contains '\n'
  let count := lines.length + (if text.getLast? = some '\n' then 1 else 0)
  let width := if count ≤ 1 then 0 else (toString count).length
  let spans := (located.span :: located.fault.earlier?.toList).mergeSort Span.before
  let picture := String.join (lines.mapIdx (picturedLine text spans width))
  let rule := String.ofList (List.replicate 79 '~') ++ "\n"
  let notes := spans.filterMap (spanNote? text)
  let error := "error: " ++ located.fault.message
  if several then
    "regex parse error:\n" ++ rule ++ picture ++ rule ++
      String.join (notes.map (· ++ "\n")) ++ error
  else "regex parse error:\n" ++ picture ++ error

/-! ## Errors -/

inductive Error where
  /-- The text is faulty. -/
  | faulty (pattern : String) (located : LocatedFault)
  /-- The compiled form would be larger than allowed. -/
  | tooLarge (limit : Nat)
deriving DecidableEq, Repr

def Error.message : Error → String
  | .faulty pattern located => located.message pattern
  | .tooLarge limit => "Compiled regex exceeds size limit of " ++ toString limit ++ " bytes."

end Emend.Pattern
