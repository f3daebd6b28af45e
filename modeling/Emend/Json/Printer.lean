import Emend.Json.Value

/-!
# Printing JSON

A value is printed either without any blanks, or over several lines with one item or member a
line. In strings only the quote, the backslash and control characters are escaped.
-/

namespace Emend.Json

/-! ## Strings -/

def escaped (c : Char) : List Char :=
  if c = '"' then ['\\', '"']
  else if c = '\\' then ['\\', '\\']
  else if c = '\x08' then ['\\', 'b']
  else if c = '\x0c' then ['\\', 'f']
  else if c = '\n' then ['\\', 'n']
  else if c = '\r' then ['\\', 'r']
  else if c = '\t' then ['\\', 't']
  else if c.toNat < 0x20 then
    ['\\', 'u', '0', '0', Nat.digitChar (c.toNat / 16), Nat.digitChar (c.toNat % 16)]
  else [c]

def stringText (value : String) : List Char := '"' :: value.toList.flatMap escaped ++ ['"']

/-! ## Without blanks -/

mutual

def compactText : Json → List Char
  | null => ['n', 'u', 'l', 'l']
  | bool true => ['t', 'r', 'u', 'e']
  | bool false => ['f', 'a', 'l', 's', 'e']
  | number value => value.text
  | string value => stringText value
  | array items => '[' :: compactItems items
  | object members => '{' :: compactMembers members

def compactItems : List Json → List Char
  | [] => [']']
  | [item] => compactText item ++ [']']
  | item :: next :: rest => compactText item ++ ',' :: compactItems (next :: rest)

def compactMembers : List (String × Json) → List Char
  | [] => ['}']
  | [(key, value)] => stringText key ++ ':' :: compactText value ++ ['}']
  | (key, value) :: next :: rest =>
    stringText key ++ ':' :: compactText value ++ ',' :: compactMembers (next :: rest)

end

def compact (value : Json) : String := String.ofList value.compactText

/-! ## Over several lines -/

/-- A line end and the blanks in front of what is nested at a depth. -/
def lineBreak (depth : Nat) : List Char := '\n' :: List.replicate (2 * depth) ' '

mutual

/-- A value over several lines, at a depth. Empty lists and objects take no line of their own. -/
def prettyText (depth : Nat) : Json → List Char
  | null => ['n', 'u', 'l', 'l']
  | bool true => ['t', 'r', 'u', 'e']
  | bool false => ['f', 'a', 'l', 's', 'e']
  | number value => value.text
  | string value => stringText value
  | array [] => ['[', ']']
  | array (item :: rest) => '[' :: prettyItems depth (item :: rest)
  | object [] => ['{', '}']
  | object (member :: rest) => '{' :: prettyMembers depth (member :: rest)

def prettyItems (depth : Nat) : List Json → List Char
  | [] => lineBreak depth ++ [']']
  | [item] => lineBreak (depth + 1) ++ prettyText (depth + 1) item ++ lineBreak depth ++ [']']
  | item :: next :: rest =>
    lineBreak (depth + 1) ++ prettyText (depth + 1) item ++ ',' :: prettyItems depth (next :: rest)

def prettyMembers (depth : Nat) : List (String × Json) → List Char
  | [] => lineBreak depth ++ ['}']
  | [(key, value)] =>
    lineBreak (depth + 1) ++ stringText key ++ ':' :: ' ' :: prettyText (depth + 1) value ++
      lineBreak depth ++ ['}']
  | (key, value) :: next :: rest =>
    lineBreak (depth + 1) ++ stringText key ++ ':' :: ' ' :: prettyText (depth + 1) value ++
      ',' :: prettyMembers depth (next :: rest)

end

def pretty (value : Json) : String := String.ofList (value.prettyText 0)

end Emend.Json
