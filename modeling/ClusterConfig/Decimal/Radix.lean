set_option autoImplicit false

/-!
# Natural numbers in a base

Reading runs of digits. A run reads as a number exactly if it is not empty and holds digits of the
base only; leading zeros are accepted and there is no greatest length.
-/

namespace ClusterConfig.Radix

/-- The value of a digit of the given base, at most sixteen. Letters count in either case. -/
def digit? (base : Nat) (c : Char) : Option Nat :=
  let value :=
    if '0' ≤ c ∧ c ≤ '9' then some (c.toNat - '0'.toNat)
    else if 'a' ≤ c ∧ c ≤ 'f' then some (c.toNat - 'a'.toNat + 10)
    else if 'A' ≤ c ∧ c ≤ 'F' then some (c.toNat - 'A'.toNat + 10)
    else none
  value.filter (· < base)

/-- Read further digits after those that gave `value`. -/
def naturalFrom? (base value : Nat) : List Char → Option Nat
  | [] => some value
  | c :: cs =>
      match digit? base c with
      | some digit => naturalFrom? base (value * base + digit) cs
      | none => none

def natural? (base : Nat) (text : List Char) : Option Nat :=
  if text.isEmpty then none else naturalFrom? base 0 text

end ClusterConfig.Radix
