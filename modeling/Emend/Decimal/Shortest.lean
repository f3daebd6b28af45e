import Emend.Decimal.Binary64

/-!
# Shortest decimals

The decimal form of a magnitude has the fewest digits that read back as the magnitude, and among
those the digits nearest to it. It is written out where the leading digit stands near the point,
and with a power of ten elsewhere.
-/

namespace Emend

/-- The value `digits * 10 ^ exponent`. -/
structure Decimal where
  digits : Nat
  exponent : Int
deriving DecidableEq, Repr, Inhabited

namespace Binary64

/-! ## The interval of reals that round to a magnitude -/

/-- A magnitude with the ends of the interval that rounds to it, all three as numerators over one
denominator. -/
structure Interval where
  low : Nat
  value : Nat
  high : Nat
  den : Nat
  /-- Whether the ends round to the magnitude as well. -/
  closed : Bool

/-- The interval that rounds to a magnitude. Below a power of two its end is nearer, for
magnitudes lie closer together there. -/
def interval (value : Binary64) : Interval :=
  let gap := if value.mantissa * 2 = mantissaBound && minExponent < value.exponent then 1 else 2
  let scale := Nat.pow 2 value.exponent.toNat
  { low := (4 * value.mantissa - gap) * scale
    value := 4 * value.mantissa * scale
    high := (4 * value.mantissa + 2) * scale
    den := 4 * Nat.pow 2 (-value.exponent).toNat
    closed := value.mantissa % 2 = 0 }

def Interval.holds (interval : Interval) (decimal : Decimal) : Bool :=
  let num := decimal.digits * Nat.pow 10 decimal.exponent.toNat * interval.den
  let den := Nat.pow 10 (-decimal.exponent).toNat
  let low := interval.low * den
  let high := interval.high * den
  if interval.closed then low ≤ num && num ≤ high else low < num && num < high

/-! ## The search -/

/-- The power of ten of the leading digit of a quotient, counted up or down from a guess. -/
def leadingPower (num den : Nat) : (fuel : Nat) → Int → Int
  | 0, power => power
  | fuel + 1, power =>
    let num' := num * Nat.pow 10 (-power).toNat
    let den' := den * Nat.pow 10 power.toNat
    if num' < den' then leadingPower num den fuel (power - 1)
    else if 10 * den' ≤ num' then leadingPower num den fuel (power + 1)
    else power

/-- The decimal on a grid that is nearest to a magnitude among those that round to it. -/
def Interval.onGrid? (interval : Interval) (exponent : Int) : Option Decimal :=
  let num := interval.value * Nat.pow 10 (-exponent).toNat
  let den := interval.den * Nat.pow 10 exponent.toNat
  let below : Decimal := ⟨num / den, exponent⟩
  let above : Decimal := ⟨num / den + 1, exponent⟩
  let twice := 2 * (num % den)
  let (near, far) :=
    if twice < den || (twice = den && below.digits % 2 = 0) then (below, above) else (above, below)
  if interval.holds near then some near
  else if interval.holds far then some far
  else none

/-- The number of digits that tell all magnitudes apart. -/
def maxDigits : Nat := 17

def Interval.shortest (interval : Interval) (power : Int) : Decimal :=
  let grids := (List.range maxDigits).map fun (more : Nat) => power - (more : Int)
  (grids.findSome? interval.onGrid?).getD ⟨0, 0⟩

def shortest (value : Binary64) : Decimal :=
  if value.isZero then ⟨0, 0⟩
  else
    let interval := value.interval
    let guess := ((value.mantissa.log2 + value.exponent) * 3) / 10
    interval.shortest (leadingPower interval.value interval.den 700 guess)

end Binary64

namespace Decimal

/-! ## Text -/

/-- Where the point may stand without a power of ten: the least and the greatest power of the
leading digit. -/
def writtenOut : Int × Int := (-5, 15)

def significant (decimal : Decimal) : List Char :=
  ((Nat.toDigits 10 decimal.digits).reverse.dropWhile (· = '0')).reverse

def power (decimal : Decimal) : Int :=
  decimal.exponent + (Nat.toDigits 10 decimal.digits).length - 1

def powerText (power : Int) : List Char :=
  let digits := Nat.toDigits 10 power.natAbs
  (if power < 0 then '-' else '+') :: List.replicate (2 - digits.length) '0' ++ digits

/-- The text of a decimal. A text without a power of ten has a digit on each side of the
point. -/
def text (decimal : Decimal) : List Char :=
  if decimal.digits = 0 then ['0', '.', '0']
  else
    let digits := decimal.significant
    let power := decimal.power
    if power < writtenOut.1 || writtenOut.2 < power then
      let fraction := if digits.length = 1 then [] else '.' :: digits.drop 1
      digits.take 1 ++ fraction ++ 'e' :: powerText power
    else if power < 0 then
      '0' :: '.' :: List.replicate (power.natAbs - 1) '0' ++ digits
    else
      let whole := power.toNat + 1
      let fraction := digits.drop whole
      digits.take whole ++ List.replicate (whole - digits.length) '0' ++
        '.' :: if fraction.isEmpty then ['0'] else fraction

end Decimal

end Emend
