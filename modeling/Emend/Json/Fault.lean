/-!
# Faults of JSON texts

A fault is placed by how many bytes of the text are left behind it, and told with the line and
the column of that place, counted in bytes.
-/

namespace Emend.Json

inductive Cause where
  | endInValue
  | endInString
  | endInList
  | endInObject
  | colonExpected
  | listCommaOrEndExpected
  | objectCommaOrEndExpected
  | wordExpected
  | valueExpected
  | keyNotString
  | trailingComma
  | trailingCharacters
  | tooDeep
  | controlCharacter
  | badEscape
  | loneSurrogate
  | surrogateCutShort
  | badNumber
  | numberTooLarge
deriving DecidableEq, Repr

def Cause.message : Cause → String
  | endInValue => "EOF while parsing a value"
  | endInString => "EOF while parsing a string"
  | endInList => "EOF while parsing a list"
  | endInObject => "EOF while parsing an object"
  | colonExpected => "expected `:`"
  | listCommaOrEndExpected => "expected `,` or `]`"
  | objectCommaOrEndExpected => "expected `,` or `\x7d`"
  | wordExpected => "expected ident"
  | valueExpected => "expected value"
  | keyNotString => "key must be a string"
  | trailingComma => "trailing comma"
  | trailingCharacters => "trailing characters"
  | tooDeep => "recursion limit exceeded"
  | controlCharacter => "control character (\\u0000-\\u001F) found while parsing a string"
  | badEscape => "invalid escape"
  | loneSurrogate => "lone leading surrogate in hex escape"
  | surrogateCutShort => "unexpected end of hex escape"
  | badNumber => "invalid number"
  | numberTooLarge => "number out of range"

structure Fault where
  cause : Cause
  /-- The number of bytes behind the place. -/
  left : Nat
deriving DecidableEq, Repr

def byteLength (text : List Char) : Nat :=
  text.foldr (fun c length => c.utf8Size + length) 0

def Fault.here (cause : Cause) (rest : List Char) : Fault := ⟨cause, byteLength rest⟩

/-- A fault that lies some bytes into what is left of a text. -/
def Fault.ahead (cause : Cause) (bytes : Nat) (rest : List Char) : Fault :=
  ⟨cause, byteLength rest - bytes⟩

/-! ## Lines and columns -/

/-- A place by line, from one on, and by column: the number of bytes since the line began. -/
structure LineColumn where
  line : Nat
  column : Nat
deriving DecidableEq, Repr

def LineColumn.advance (place : LineColumn) (byte : UInt8) : LineColumn :=
  if byte = 10 then ⟨place.line + 1, 0⟩ else { place with column := place.column + 1 }

structure Error where
  cause : Cause
  place : LineColumn
deriving DecidableEq, Repr

def Fault.located (fault : Fault) (text : String) : Error :=
  let bytes := text.toUTF8.toList
  ⟨fault.cause, (bytes.take (bytes.length - fault.left)).foldl LineColumn.advance ⟨1, 0⟩⟩

def Error.message (error : Error) : String :=
  error.cause.message ++ " at line " ++ toString error.place.line ++ " column " ++
    toString error.place.column

end Emend.Json
