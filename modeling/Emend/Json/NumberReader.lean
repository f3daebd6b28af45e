import Emend.Json.Fault
import Emend.Json.Value

/-!
# Reading numbers

A number is read as a whole number of at most 64 bits with a power of ten. Digits that do not
fit any more are left out of the first and count in the second. The result is exact when there
is neither a point, nor a power of ten, nor a digit left out.
-/

namespace Emend.Json

abbrev Parsed (α : Type) := α × List Char

/-- The bound on whole numbers. -/
def wordBound : Nat := Nat.pow 2 64

/-- The bound on the magnitude of negative whole numbers. -/
def negativeBound : Nat := Nat.pow 2 63

def powerBound : Nat := Nat.pow 2 31

def digitValue (c : Char) : Nat := c.toNat - '0'.toNat

/-! ## Digits -/

structure Digits where
  /-- The number that the digits add up to. -/
  value : Nat
  /-- How many digits the number took in. -/
  taken : Nat
  /-- How many digits no longer fitted. -/
  dropped : Nat
  rest : List Char

/-- Read digits as long as the number stays below a bound, and pass over those that follow. -/
def readDigits (bound value taken : Nat) : List Char → Digits
  | [] => ⟨value, taken, 0, []⟩
  | c :: text =>
    if c.isDigit then
      let value' := value * 10 + digitValue c
      if value' < bound then readDigits bound value' (taken + 1) text
      else
        let rest := text.dropWhile Char.isDigit
        ⟨value, taken, text.length - rest.length + 1, rest⟩
    else ⟨value, taken, 0, c :: text⟩

/-! ## Floating-point numbers -/

/-- A number under way: the digits so far and the power of ten that they count for. -/
structure Significand where
  isNegative : Bool
  value : Nat
  power : Int

def Significand.float (significand : Significand) (rest : List Char) :
    Except Fault (Parsed Number) :=
  match (Binary64.ofNat? significand.value).bind (·.scale? significand.power) with
  | some magnitude => .ok (.float significand.isNegative magnitude, rest)
  | none => .error (.here .numberTooLarge rest)

def readPower (significand : Significand) (text : List Char) : Except Fault (Parsed Number) :=
  let (isNegative, text) := match text with
    | '+' :: rest => (false, rest)
    | '-' :: rest => (true, rest)
    | _ => (false, text)
  match text with
  | [] => .error (.here .endInValue [])
  | c :: rest =>
    if c.isDigit then
      let digits := readDigits powerBound (digitValue c) 1 rest
      if digits.dropped = 0 then
        let power : Int := if isNegative then -digits.value else digits.value
        Significand.float { significand with power := significand.power + power } digits.rest
      else if isNegative || significand.value = 0 then
        .ok (.float significand.isNegative Binary64.zero, digits.rest)
      else .error (.here .numberTooLarge (rest.drop digits.taken))
    else .error (.ahead .badNumber 1 text)

def readAfterDigits (significand : Significand) : List Char → Except Fault (Parsed Number)
  | 'e' :: rest => readPower significand rest
  | 'E' :: rest => readPower significand rest
  | rest => significand.float rest

def readFraction (significand : Significand) (text : List Char) : Except Fault (Parsed Number) :=
  let digits := readDigits wordBound significand.value 0 text
  if digits.taken = 0 && digits.dropped = 0 then
    match text with
    | [] => .error (.here .endInValue [])
    | _ => .error (.ahead .badNumber 1 text)
  else
    readAfterDigits
      { significand with value := digits.value, power := significand.power - digits.taken }
      digits.rest

/-! ## Numbers -/

/-- The whole number with a sign; negative zero and magnitudes beyond the range of negative
numbers are floating-point numbers. -/
def readWhole (isNegative : Bool) (value : Nat) (rest : List Char) : Except Fault (Parsed Number) :=
  if !isNegative then .ok (.natural value, rest)
  else if 0 < value && value ≤ negativeBound then .ok (.negative value, rest)
  else Significand.float ⟨isNegative, value, 0⟩ rest

def readAfterWhole (isNegative : Bool) (digits : Digits) : Except Fault (Parsed Number) :=
  let significand : Significand := ⟨isNegative, digits.value, digits.dropped⟩
  match digits.rest with
  | '.' :: rest => readFraction significand rest
  | 'e' :: rest => readPower significand rest
  | 'E' :: rest => readPower significand rest
  | rest =>
    if digits.dropped = 0 then readWhole isNegative digits.value rest else significand.float rest

/-- Read a number, after its sign. A zero in front of another digit is refused. -/
def readNumber (isNegative : Bool) : List Char → Except Fault (Parsed Number)
  | [] => .error (.here .endInValue [])
  | c :: text =>
    if c = '0' then
      match text with
      | next :: _ =>
        if next.isDigit then .error (.ahead .badNumber 1 text)
        else readAfterWhole isNegative ⟨0, 1, 0, text⟩
      | [] => readAfterWhole isNegative ⟨0, 1, 0, []⟩
    else if c.isDigit then
      readAfterWhole isNegative (readDigits wordBound (digitValue c) 1 text)
    else .error (.ahead .badNumber 1 (c :: text))

end Emend.Json
