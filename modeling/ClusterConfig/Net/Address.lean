import ClusterConfig.Decimal.Radix
import ClusterConfig.Text.Split

set_option autoImplicit false

/-!
# IPv4 addresses

An address is a 32-bit word. Its one written form is the dotted quad: four decimal octets without
leading zeros.
-/

namespace ClusterConfig

structure Address where
  bits : BitVec 32
deriving DecidableEq, Repr

namespace Address

/-- The address with the given octets, the most significant one first. -/
def ofOctets (first second third fourth : Nat) : Address :=
  ⟨BitVec.ofNat 32 (((first * 256 + second) * 256 + third) * 256 + fourth)⟩

def octets (address : Address) : List Nat :=
  let word := address.bits.toNat
  [word / 0x1000000 % 256, word / 0x10000 % 256, word / 0x100 % 256, word % 256]

def text (address : Address) : String :=
  Text.join "." (address.octets.map Nat.repr)

/-- An octet in its one decimal form: at most 255, and the very digits of its value. -/
def octet? (digits : List Char) : Option Nat :=
  (Radix.natural? 10 digits).filter fun value =>
    decide (value ≤ 255) && Nat.toDigits 10 value == digits

def parse? (text : String) : Option Address :=
  match (Text.pieces '.' text.toList).mapM octet? with
  | some [first, second, third, fourth] => some (ofOctets first second third fourth)
  | _ => none

end Address

end ClusterConfig
