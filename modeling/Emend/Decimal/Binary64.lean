/-!
# Binary floating-point magnitudes

A magnitude is a natural number times a power of two, with fifty-three bits at most. Quotients of
natural numbers are rounded to the nearest magnitude, and to the even one of two that are equally
near; what is too large for a magnitude has none.
-/

namespace Emend

/-- The value `mantissa * 2 ^ exponent`. -/
structure Binary64 where
  mantissa : Nat
  exponent : Int
deriving DecidableEq, Repr, Inhabited

namespace Binary64

def mantissaBound : Nat := Nat.pow 2 53

def minExponent : Int := -1074

def maxExponent : Int := 971

def zero : Binary64 := ⟨0, minExponent⟩

def isZero (value : Binary64) : Bool := value.mantissa = 0

/-! ## Quotients -/

/-- The quotient of two numbers as a fraction in units of `2 ^ exponent`. -/
def inUnits (num den : Nat) (exponent : Int) : Nat × Nat :=
  (num * Nat.pow 2 (-exponent).toNat, den * Nat.pow 2 exponent.toNat)

/-- A quotient rounded to the nearest natural number, a half to the even one. -/
def roundHalfEven (num den : Nat) : Nat :=
  let floor := num / den
  let twice := 2 * (num % den)
  if twice < den || (twice = den && floor % 2 = 0) then floor else floor + 1

def exponentOf (num den : Nat) : Int :=
  let guess : Int := (num.log2 : Int) - den.log2 - 53
  let (num', den') := inUnits num den guess
  max minExponent (if num' / den' < mantissaBound then guess else guess + 1)

/-- The magnitude next to a quotient, if it is not too large. -/
def ofQuotient? (num den : Nat) : Option Binary64 :=
  if num = 0 then some zero
  else
    let exponent := exponentOf num den
    let (num', den') := inUnits num den exponent
    let mantissa := roundHalfEven num' den'
    let value : Binary64 :=
      if mantissa < mantissaBound then ⟨mantissa, exponent⟩ else ⟨mantissa / 2, exponent + 1⟩
    if value.exponent ≤ maxExponent then some value else none

def ofNat? (n : Nat) : Option Binary64 := ofQuotient? n 1

def toQuotient (value : Binary64) : Nat × Nat :=
  (value.mantissa * Nat.pow 2 value.exponent.toNat, Nat.pow 2 (-value.exponent).toNat)

/-! ## Arithmetic -/

def mul? (first second : Binary64) : Option Binary64 :=
  let (num, den) := first.toQuotient
  let (num', den') := second.toQuotient
  ofQuotient? (num * num') (den * den')

def div? (first second : Binary64) : Option Binary64 :=
  let (num, den) := first.toQuotient
  let (num', den') := second.toQuotient
  ofQuotient? (num * den') (den * num')

/-- The greatest power of ten that a magnitude can be scaled by in one step. -/
def maxPower : Nat := 308

/-- Scale a magnitude by a power of ten, in steps that are each rounded. -/
def scale? (value : Binary64) (exponent : Int) : Option Binary64 :=
  if exponent.natAbs ≤ maxPower then
    (ofNat? (Nat.pow 10 exponent.natAbs)).bind fun power =>
      if 0 ≤ exponent then value.mul? power else value.div? power
  else if value.isZero then some value
  else if 0 ≤ exponent then none
  else do
    let power ← ofNat? (Nat.pow 10 maxPower)
    (← value.div? power).scale? (exponent + maxPower)
termination_by exponent.natAbs
decreasing_by simp [maxPower] at *; omega

end Binary64

end Emend
