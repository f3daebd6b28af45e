import Emend.Decimal.Shortest

/-!
# JSON values

The members of an object are listed under their keys. What is read from a text lists them by
key; what is built to be printed keeps the order in which it was built.
-/

namespace Emend

/-- A JSON number. Whole numbers that fit in 64 bits stay exact. -/
inductive Json.Number where
  | natural (value : Nat)
  /-- A negative whole number, by its magnitude. -/
  | negative (magnitude : Nat)
  | float (isNegative : Bool) (magnitude : Binary64)
deriving DecidableEq, Repr, Inhabited

inductive Json where
  | null
  | bool (value : Bool)
  | number (value : Json.Number)
  | string (value : String)
  | array (items : List Json)
  | object (members : List (String × Json))
deriving Repr, Inhabited

namespace Json

def Number.text : Number → List Char
  | natural value => Nat.toDigits 10 value
  | negative magnitude => '-' :: Nat.toDigits 10 magnitude
  | float isNegative magnitude =>
    (if isNegative then ['-'] else []) ++ magnitude.shortest.text

def nat (value : Nat) : Json := number (.natural value)

/-- Put a member among others that are sorted by key, in place of one with the same key. -/
def insertMember (key : String) (value : Json) :
    List (String × Json) → List (String × Json)
  | [] => [(key, value)]
  | (key', value') :: rest =>
    if key < key' then (key, value) :: (key', value') :: rest
    else if key = key' then (key, value) :: rest
    else (key', value') :: insertMember key value rest

end Json

end Emend
