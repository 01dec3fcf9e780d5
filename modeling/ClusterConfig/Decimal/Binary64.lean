set_option autoImplicit false

/-!
# Double-precision numbers

The 64-bit binary floating-point format, kept as its bits. A decimal is rounded to the nearest number
of the format, ties to the even significand, and a number is written with the fewest decimal digits
that are rounded back to it. Both directions are exact arithmetic on natural numbers.
-/

namespace ClusterConfig

structure Binary64 where
  bits : UInt64
deriving DecidableEq, Repr

namespace Binary64

def storedBits : Nat := 52

def storedLimit : Nat := Nat.pow 2 storedBits

/-- The exponent of the least significant bit of the smallest numbers. -/
def leastExponent : Int := -1074

def infinity : Binary64 := ⟨0x7FF0000000000000⟩

def notANumber : Binary64 := ⟨0x7FF8000000000000⟩

def negate (x : Binary64) : Binary64 := ⟨x.bits ^^^ 0x8000000000000000⟩

def isNegative (x : Binary64) : Bool := x.bits &&& 0x8000000000000000 != 0

def magnitude (x : Binary64) : Nat := x.bits.toNat % Nat.pow 2 63

def isInfinite (x : Binary64) : Bool := x.magnitude == infinity.bits.toNat

def isNotANumber (x : Binary64) : Bool := decide (infinity.bits.toNat < x.magnitude)

def isZero (x : Binary64) : Bool := x.magnitude == 0

/-- Numeric equality, under which the two zeros are equal, and so is every number that is not a number
to any other such. -/
def same (x y : Binary64) : Bool :=
  x == y || (x.isZero && y.isZero) || (x.isNotANumber && y.isNotANumber)

def fractionPower (base : Nat) (exponent : Int) : Nat × Nat :=
  if 0 ≤ exponent then (Nat.pow base exponent.toNat, 1) else (1, Nat.pow base (-exponent).toNat)

def decode (x : Binary64) : Nat × Int :=
  let field := x.magnitude / storedLimit
  let fraction := x.magnitude % storedLimit
  if field = 0 then (fraction, leastExponent)
  else (fraction + storedLimit, leastExponent + (field - 1 : Nat))

/-!
## From decimals
-/

/-- The quotient rounded to the nearest natural number, ties to even. -/
def roundedQuotient (numerator denominator : Nat) : Nat :=
  let quotient := numerator / denominator
  let twiceRest := 2 * (numerator % denominator)
  if twiceRest < denominator ∨ (twiceRest = denominator ∧ quotient % 2 = 0) then quotient
  else quotient + 1

/-- The positive number nearest to a positive fraction. There is none if the fraction is too large
for a finite number. -/
def ofFraction? (numerator denominator : Nat) : Option Binary64 :=
  let estimate : Int := (numerator.log2 : Int) - denominator.log2 - storedBits
  let fits (exponent : Int) : Bool :=
    let (up, down) := fractionPower 2 exponent
    decide (numerator * down < denominator * up * (2 * storedLimit)) &&
      decide (denominator * up * storedLimit ≤ numerator * down)
  let exponent := max leastExponent (if fits estimate then estimate else estimate - 1)
  let (up, down) := fractionPower 2 exponent
  let significand := roundedQuotient (numerator * down) (denominator * up)
  let bits := (exponent - leastExponent).toNat * storedLimit + significand
  if bits < infinity.bits.toNat then some ⟨UInt64.ofNat bits⟩ else none

/-- The number nearest to `digits * 10 ^ exponent`. There is none if that is too large for a finite
number. Exponents far outside the format's range are decided without computing the power. -/
def ofDecimal? (digits : Nat) (exponent : Int) : Option Binary64 :=
  let places : Int := (Nat.toDigits 10 digits).length + exponent
  if digits = 0 ∨ places < -400 then some ⟨0⟩
  else if 400 < places then none
  else
    let (up, down) := fractionPower 10 exponent
    ofFraction? (digits * up) down

/-!
## To decimals
-/

/-- The greatest `p` with `10 ^ p` at most the fraction. -/
def decimalOrder (numerator denominator : Nat) : Int :=
  let estimate : Int :=
    ((Nat.toDigits 10 numerator).length : Int) - (Nat.toDigits 10 denominator).length
  let (up, down) := fractionPower 10 estimate
  if denominator * up ≤ numerator * down then estimate else estimate - 1

/-- The numbers that round to a given finite positive number, in quarters of its last place: the lower
bound, the number itself, the upper bound, whether the bounds belong to them, and the size of a quarter
as a fraction. Below a power of two the next number is half as far away as above it. -/
structure RoundingInterval where
  low : Nat
  centre : Nat
  high : Nat
  closed : Bool
  quarter : Nat × Nat

def roundingInterval (x : Binary64) : RoundingInterval :=
  let (significand, exponent) := x.decode
  let below := if significand = storedLimit ∧ leastExponent < exponent then 1 else 2
  { low := 4 * significand - below
    centre := 4 * significand
    high := 4 * significand + 2
    closed := significand % 2 == 0
    quarter := fractionPower 2 (exponent - 2) }

/-- The multiple of `10 ^ place` nearest to the centre, among the two neighbours of the centre that lie
in the interval; a tie goes to the even multiple. -/
def RoundingInterval.multiple? (interval : RoundingInterval) (place : Int) : Option Nat :=
  let (up, down) := fractionPower 10 place
  let (size, parts) := interval.quarter
  let scaled (bound : Nat) : Nat := bound * size * down
  let grid (multiple : Nat) : Nat := multiple * up * parts
  let inside (multiple : Nat) : Bool :=
    if interval.closed then
      decide (scaled interval.low ≤ grid multiple) && decide (grid multiple ≤ scaled interval.high)
    else decide (scaled interval.low < grid multiple) && decide (grid multiple < scaled interval.high)
  let floor := scaled interval.centre / grid 1
  let nearest := roundedQuotient (scaled interval.centre) (grid 1)
  if inside nearest then some nearest
  else if inside floor then some floor
  else if inside (floor + 1) then some (floor + 1)
  else none

/-- Remove zeros from the end of a positive number of at most `fuel` digits, counting them in the
exponent. -/
def withoutFinalZeros : Nat → Nat → Int → Nat × Int
  | 0, digits, exponent => (digits, exponent)
  | fuel + 1, digits, exponent =>
      if digits % 10 = 0 then withoutFinalZeros fuel (digits / 10) (exponent + 1)
      else (digits, exponent)

/-- The fewest decimal digits that are rounded to a finite positive number, and the exponent of the
last of them. Seventeen digits always suffice. -/
def shortest (x : Binary64) : Nat × Int :=
  let interval := x.roundingInterval
  let (size, parts) := interval.quarter
  let order := decimalOrder (interval.centre * size) parts
  let found := (List.range 17).findSome? fun (count : Nat) =>
    let place := order - count
    (interval.multiple? place).map fun multiple => (multiple, place)
  let (digits, exponent) := found.getD (interval.centre, 0)
  withoutFinalZeros 17 digits exponent

end Binary64

end ClusterConfig
