import ClusterConfig.Net.Address

set_option autoImplicit false

/-!
# IPv4 networks

A network is a base address and a prefix length, written `base/length`. The base has no bit set
outside the prefix, so every network has one base.
-/

namespace ClusterConfig

namespace Network

/-- A difference that may not fall below zero. -/
def difference? (whole part : Nat) : Option Nat :=
  if part ≤ whole then some (whole - part) else none

/-- A word that is shifted, and not by its whole width. -/
def shifted? (word : BitVec 32) (count : Nat) : Option (BitVec 32) :=
  if count < 32 then some (word <<< count) else none

/-- The word of which the first bits, as many as the length says, are set. -/
def mask? (length : Nat) : Option (BitVec 32) :=
  if length = 0 then some 0
  else do
    let count ← difference? 32 length
    shifted? (BitVec.allOnes 32) count

/-- No operation is refused for a length that a prefix can have, and one is for every longer one. -/
theorem mask?_eq (length : Nat) :
    mask? length = if length ≤ 32 then some (BitVec.allOnes 32 <<< (32 - length)) else none := by
  rw [mask?]
  by_cases isZero : length = 0
  · rw [if_pos isZero, isZero]
    decide
  · rw [if_neg isZero]
    by_cases short : length ≤ 32
    · have narrow : 32 - length < 32 := by omega
      simp [difference?, shifted?, short, narrow]
    · simp [difference?, short]

theorem isSome_mask? {length : Nat} (short : length ≤ 32) : (mask? length).isSome := by
  rw [mask?_eq, if_pos short, Option.isSome_some]

def mask (length : Nat) (short : length ≤ 32) : BitVec 32 := (mask? length).get (isSome_mask? short)

end Network

structure Network where
  base : Address
  prefixLength : Nat
  prefixLength_le : prefixLength ≤ 32
  aligned : base.bits &&& ~~~Network.mask prefixLength prefixLength_le = 0
deriving DecidableEq

namespace Network

inductive Fault where
  | malformed (text : String)
  | prefixTooLong (base : Address) (length : Nat)
  | hostBits (base : Address) (length : Nat)
deriving DecidableEq, Repr

def written (base : Address) (length : Nat) : String :=
  base.text ++ "/" ++ length.repr

def Fault.message : Fault → String
  | .malformed text => text
  | .prefixTooLong base length => written base length
  | .hostBits base length => written base length ++ " has host bits set"

def ofPrefix (base : Address) (length : Nat) : Except Fault Network :=
  if short : length ≤ 32 then
    if aligned : base.bits &&& ~~~mask length short = 0 then .ok ⟨base, length, short, aligned⟩
    else .error (.hostBits base length)
  else .error (.prefixTooLong base length)

/-- A written prefix length: decimal digits with a value below 256. Longer prefixes than an address
has bits are a fault of the network and not of its notation. -/
def prefixLength? (digits : List Char) : Option Nat :=
  (Radix.natural? 10 digits).filter fun length => decide (length < 256)

/-- Read a network. An address alone stands for the network of that single address. -/
def parse (text : String) : Except Fault Network :=
  let parts :=
    match Text.splitAtFirst? '/' text with
    | none => (Address.parse? text).map fun base => (base, 32)
    | some (base, length) => do
        let length ← prefixLength? length.toList
        let base ← Address.parse? base
        pure (base, length)
  match parts with
  | some (base, length) => ofPrefix base length
  | none => .error (.malformed text)

def text (network : Network) : String :=
  written network.base network.prefixLength

def contains (network : Network) (address : Address) : Bool :=
  address.bits &&& mask network.prefixLength network.prefixLength_le == network.base.bits

end Network

end ClusterConfig
