import ClusterConfig.Decimal.Binary64

set_option autoImplicit false

/-!
# Numbers of YAML documents

A number is an integer of at most 64 bits or a double-precision number. An integer and a floating-point
number are different values even if they are numerically equal.
-/

namespace ClusterConfig.Yaml

inductive Number where
  | integer (value : Int)
  | float (value : Binary64)
deriving DecidableEq, Repr

/-- Which numbers are written without an exponent: the decimal point stands at most `greatest` places
behind the beginning of the first digit, and less than `least` places before it. -/
structure Positional where
  greatest : Int
  least : Int

/-- Numbers below `10 ^ 16` and from `10 ^ -5` on are written without an exponent. -/
def Number.positional : Positional := ⟨16, 5⟩

/-- Lay out the digits of a positive number whose last digit has the given exponent. -/
def layout (rule : Positional) (digits : List Char) (exponent : Int) : List Char :=
  let point : Int := digits.length + exponent
  if 0 ≤ exponent ∧ point ≤ rule.greatest then
    digits ++ List.replicate exponent.toNat '0' ++ ['.', '0']
  else if 0 < point ∧ point ≤ rule.greatest then
    digits.take point.toNat ++ '.' :: digits.drop point.toNat
  else if -rule.least < point ∧ point ≤ 0 then
    '0' :: '.' :: (List.replicate (-point).toNat '0' ++ digits)
  else
    let mantissa :=
      match digits with
      | first :: second :: others => first :: '.' :: second :: others
      | short => short
    mantissa ++ 'e' :: (point - 1).repr.toList

def floatText (x : Binary64) : List Char :=
  let sign := if x.isNegative then ['-'] else []
  if x.isNotANumber then ".nan".toList
  else if x.isInfinite then sign ++ ".inf".toList
  else if x.isZero then sign ++ "0.0".toList
  else
    let (digits, exponent) := x.shortest
    sign ++ layout Number.positional (Nat.toDigits 10 digits) exponent

namespace Number

def text : Number → String
  | .integer value => value.repr
  | .float value => String.ofList (floatText value)

def same : Number → Number → Bool
  | .integer left, .integer right => left == right
  | .float left, .float right => left.same right
  | _, _ => false

end Number

end ClusterConfig.Yaml
