import Emend.Json.StringReader

/-!
# Reading JSON texts

A text holds one value with blanks around it. Lists and objects may be nested up to a limit. The
members of an object are sorted by key, and the last one of several with the same key counts.
-/

namespace Emend.Json

def isBlank (c : Char) : Bool := c = ' ' || c = '\n' || c = '\t' || c = '\r'

def skipBlanks (text : List Char) : List Char := text.dropWhile isBlank

def readWord : (word text : List Char) → Except Fault (Parsed Unit)
  | [], text => .ok ((), text)
  | _ :: _, [] => .error (.here .endInValue [])
  | expected :: word, c :: text =>
    if c = expected then readWord word text else .error (.ahead .wordExpected 1 (c :: text))

/-! ## Lists -/

abbrev ValueReader := List Char → Except Fault (Parsed Json)

/-- What stands in front of the next item of a list: nothing further, if the list ends here. -/
def beforeItem (isFirst : Bool) (text : List Char) : Except Fault (Bool × List Char) :=
  match skipBlanks text with
  | [] => .error (.here .endInList [])
  | c :: rest =>
    if c = ']' then .ok (false, rest)
    else if isFirst then .ok (true, c :: rest)
    else if c = ',' then
      match skipBlanks rest with
      | [] => .error (.here .endInValue [])
      | ']' :: rest => .error (.ahead .trailingComma 1 (']' :: rest))
      | rest => .ok (true, rest)
    else .error (.ahead .listCommaOrEndExpected 1 (c :: rest))

/-- Read the items of a list up to its end. A text of `fuel` characters holds fewer items than
that. -/
def readItems (readValue : ValueReader) : (fuel : Nat) → (isFirst : Bool) → List Char →
    Except Fault (Parsed (List Json))
  | 0, _, text => .error (.here .endInList text)
  | fuel + 1, isFirst, text => do
    let (more, rest) ← beforeItem isFirst text
    if more then
      let (item, rest) ← readValue rest
      let (items, rest) ← readItems readValue fuel false rest
      return (item :: items, rest)
    else return ([], rest)

/-! ## Objects -/

/-- What stands in front of the next key of an object, up to its opening quote: nothing further,
if the object ends here. -/
def beforeKey (isFirst : Bool) (text : List Char) : Except Fault (Bool × List Char) :=
  match skipBlanks text with
  | [] => .error (.here .endInObject [])
  | c :: rest =>
    if c = '}' then .ok (false, rest)
    else if isFirst then
      if c = '"' then .ok (true, rest) else .error (.ahead .keyNotString 1 (c :: rest))
    else if c = ',' then
      match skipBlanks rest with
      | [] => .error (.here .endInValue [])
      | c :: rest =>
        if c = '"' then .ok (true, rest)
        else if c = '}' then .error (.ahead .trailingComma 1 (c :: rest))
        else .error (.ahead .keyNotString 1 (c :: rest))
    else .error (.ahead .objectCommaOrEndExpected 1 (c :: rest))

def readColon (text : List Char) : Except Fault (Parsed Unit) :=
  match skipBlanks text with
  | [] => .error (.here .endInObject [])
  | c :: rest => if c = ':' then .ok ((), rest) else .error (.ahead .colonExpected 1 (c :: rest))

/-- Read the members of an object up to its end, into those read before. A text of `fuel`
characters holds fewer members than that. -/
def readMembers (readValue : ValueReader) : (fuel : Nat) → (isFirst : Bool) →
    (members : List (String × Json)) → List Char → Except Fault (Parsed (List (String × Json)))
  | 0, _, _, text => .error (.here .endInObject text)
  | fuel + 1, isFirst, members, text => do
    let (more, rest) ← beforeKey isFirst text
    if more then
      let (key, rest) ← readString (fuel + 1) rest
      let ((), rest) ← readColon rest
      let (value, rest) ← readValue rest
      readMembers readValue fuel false (insertMember key value members) rest
    else return (members, rest)

/-! ## Values -/

/-- Read a value that is no list and no object, of which `c` is the first character. -/
def readScalar (fuel : Nat) (c : Char) (text : List Char) : Except Fault (Parsed Json) :=
  if c = '"' then (readString fuel text).map fun (value, rest) => (.string value, rest)
  else if c = '-' then (readNumber true text).map fun (value, rest) => (.number value, rest)
  else if c.isDigit then
    (readNumber false (c :: text)).map fun (value, rest) => (.number value, rest)
  else if c = 'n' then (readWord ['u', 'l', 'l'] text).map fun ((), rest) => (.null, rest)
  else if c = 't' then (readWord ['r', 'u', 'e'] text).map fun ((), rest) => (.bool true, rest)
  else if c = 'f' then
    (readWord ['a', 'l', 's', 'e'] text).map fun ((), rest) => (.bool false, rest)
  else .error (.ahead .valueExpected 1 (c :: text))

/-- Read a value in which lists and objects are nested at most `depth` deep. The text has fewer
characters than `fuel`. -/
def readValue (fuel depth : Nat) (text : List Char) : Except Fault (Parsed Json) :=
  match skipBlanks text with
  | [] => .error (.here .endInValue [])
  | c :: rest =>
    if c = '[' then
      match depth with
      | 0 => .error (.ahead .tooDeep 1 (c :: rest))
      | depth + 1 =>
        (readItems (readValue fuel depth) fuel true rest).map fun (items, rest) =>
          (.array items, rest)
    else if c = '{' then
      match depth with
      | 0 => .error (.ahead .tooDeep 1 (c :: rest))
      | depth + 1 =>
        (readMembers (readValue fuel depth) fuel true [] rest).map fun (members, rest) =>
          (.object members, rest)
    else readScalar fuel c rest
termination_by structural depth

def maxDepth : Nat := 127

def parseChars (text : List Char) : Except Fault Json := do
  let (value, rest) ← readValue (text.length + 1) maxDepth text
  match skipBlanks rest with
  | [] => return value
  | rest => throw (.ahead .trailingCharacters 1 rest)

def parse (text : String) : Except Error Json :=
  (parseChars text.toList).mapError fun fault => fault.located text

end Emend.Json
