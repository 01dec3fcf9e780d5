import ClusterConfig.Proofs.Setup.Loading
import Mathlib.Algebra.Ring.Nat

set_option autoImplicit false

/-!
# Networks as intervals

A network holds the addresses from its base on, as many as its prefix leaves open: the mask of a prefix
length is a statement about bits, and this module says it with numbers. Two networks whose intervals meet are
nested, since both bounds of the smaller one have the same quotient by the size of the larger one.
-/

namespace ClusterConfig

namespace Network

variable {base address : Address} {length : Nat} {network left right : Network} {word : BitVec 32}

/-!
## Masks
-/

/-- How many addresses share a prefix. -/
def size (length : Nat) : Nat := 2 ^ (32 - length)

theorem size_pos (length : Nat) : 0 < size length := Nat.two_pow_pos _

theorem mask_eq_shiftLeft (short : length ≤ 32) :
    mask length short = BitVec.allOnes 32 <<< (32 - length) := by
  have isMask : mask? length = some (BitVec.allOnes 32 <<< (32 - length)) := by rw [mask?_eq, if_pos short]
  exact Option.get_of_eq_some (isSome_mask? short) isMask

theorem toNat_and_mask (word : BitVec 32) (short : length ≤ 32) :
    (word &&& mask length short).toNat = word.toNat / size length * size length := by
  have small : word.toNat / size length * size length < 2 ^ 32 :=
    Nat.lt_of_le_of_lt (Nat.div_mul_le_self _ _) word.isLt
  rw [mask_eq_shiftLeft, ← BitVec.shiftLeft_ushiftRight, BitVec.toNat_shiftLeft, BitVec.toNat_ushiftRight,
    Nat.shiftLeft_eq, Nat.shiftRight_eq_div_pow]
  exact Nat.mod_eq_of_lt small

theorem and_not_eq_zero_iff (mask : BitVec 32) : word &&& ~~~mask = 0 ↔ word &&& mask = word := by
  constructor
  · intro outside
    calc
      word &&& mask = (word &&& mask) ||| (word &&& ~~~mask) := by
        rw [outside]
        exact BitVec.or_zero.symm
      _ = word &&& (mask ||| ~~~mask) := BitVec.and_or_distrib_left.symm
      _ = word := by rw [BitVec.or_not_self, BitVec.and_allOnes]
  · intro inside
    rw [← inside, BitVec.and_assoc, BitVec.and_not_self]
    exact BitVec.and_zero

/-- A word has no bit outside a prefix exactly if the size of the network divides it. -/
theorem aligned_iff_dvd (short : length ≤ 32) :
    word &&& ~~~mask length short = 0 ↔ size length ∣ word.toNat := by
  rw [and_not_eq_zero_iff, ← BitVec.toNat_inj, toNat_and_mask, Nat.dvd_iff_div_mul_eq]

theorem ofPrefix_eq_ok_iff :
    ofPrefix base length = .ok network ↔ network.base = base ∧ network.prefixLength = length := by
  rw [ofPrefix]
  constructor
  · intro isNetwork
    split at isNetwork
    · split at isNetwork
      · cases isNetwork
        exact ⟨rfl, rfl⟩
      · cases isNetwork
    · cases isNetwork
  · intro both
    obtain ⟨rfl, rfl⟩ := both
    rw [dif_pos network.prefixLength_le, dif_pos network.aligned]

theorem exists_ofPrefix_iff :
    (∃ network, ofPrefix base length = .ok network) ↔ length ≤ 32 ∧ size length ∣ base.bits.toNat := by
  simp only [ofPrefix_eq_ok_iff]
  constructor
  · intro facts
    obtain ⟨network, rfl, rfl⟩ := facts
    exact ⟨network.prefixLength_le, (aligned_iff_dvd network.prefixLength_le).mp network.aligned⟩
  · intro both
    obtain ⟨short, divides⟩ := both
    exact ⟨⟨base, length, short, (aligned_iff_dvd short).mpr divides⟩, rfl, rfl⟩

/-!
## Intervals
-/

/-- The first address of a network, as a number. -/
def first (network : Network) : Nat := network.base.bits.toNat

/-- The last address of a network, as a number. -/
def last (network : Network) : Nat := network.first + size network.prefixLength - 1

theorem size_dvd_first (network : Network) : size network.prefixLength ∣ network.first :=
  (aligned_iff_dvd network.prefixLength_le).mp network.aligned

/-- There is room for the whole network below the number of all addresses, which its size divides, too. -/
theorem last_le (network : Network) : network.last ≤ 2 ^ 32 - 1 := by
  have below : network.first < 2 ^ 32 := network.base.bits.isLt
  have sizeDivides : size network.prefixLength ∣ 2 ^ 32 := Nat.pow_dvd_pow 2 (Nat.sub_le 32 _)
  have fits : size network.prefixLength ≤ 2 ^ 32 - network.first :=
    Nat.le_of_dvd (Nat.sub_pos_of_lt below) (Nat.dvd_sub sizeDivides network.size_dvd_first)
  rw [last]
  omega

theorem contains_iff_div_eq :
    network.contains address = true ↔
      address.bits.toNat / size network.prefixLength = network.first / size network.prefixLength := by
  have whole : network.first / size network.prefixLength * size network.prefixLength = network.first :=
    Nat.div_mul_cancel network.size_dvd_first
  rw [contains, beq_iff_eq, ← BitVec.toNat_inj, toNat_and_mask]
  constructor
  · intro same
    rw [first, ← same, Nat.mul_div_cancel _ (size_pos _)]
  · intro same
    rw [same]
    exact whole

theorem contains_iff :
    network.contains address = true ↔ network.first ≤ address.bits.toNat ∧ address.bits.toNat ≤ network.last := by
  rw [contains_iff_div_eq, Nat.div_eq_iff (size_pos _), Nat.div_mul_cancel network.size_dvd_first, last]

theorem contains_base (network : Network) : network.contains network.base = true :=
  contains_iff_div_eq.mpr rfl

/-!
## Two networks
-/

/-- Every address of the second network is one of the first. -/
def Includes (outer inner : Network) : Prop :=
  ∀ address, inner.contains address = true → outer.contains address = true

/-- No address is in both networks. -/
def Apart (left right : Network) : Prop :=
  ∀ address, ¬ (left.contains address = true ∧ right.contains address = true)

theorem size_eq_mul (shorter : left.prefixLength ≤ right.prefixLength) :
    size left.prefixLength =
      size right.prefixLength * 2 ^ (right.prefixLength - left.prefixLength) := by
  have parts : 32 - left.prefixLength =
      (32 - right.prefixLength) + (right.prefixLength - left.prefixLength) := by
    have atMost := right.prefixLength_le
    omega
  rw [size, size, parts, Nat.pow_add]

/-- A network with a shorter prefix does not tell the addresses of the other one apart. -/
theorem contains_iff_contains_base (shorter : left.prefixLength ≤ right.prefixLength)
    (inRight : right.contains address = true) :
    left.contains address = true ↔ left.contains right.base = true := by
  have sameQuotient : address.bits.toNat / size left.prefixLength = right.first / size left.prefixLength := by
    rw [size_eq_mul shorter, ← Nat.div_div_eq_div_mul, contains_iff_div_eq.mp inRight, Nat.div_div_eq_div_mul]
  rw [contains_iff_div_eq, contains_iff_div_eq, sameQuotient, first]

theorem exists_contains_last (network : Network) :
    ∃ address, network.contains address = true ∧ address.bits.toNat = network.last := by
  have small : network.last < 2 ^ 32 := Nat.lt_of_le_pred (by decide) network.last_le
  have isLast : (BitVec.ofNat 32 network.last).toNat = network.last := Nat.mod_eq_of_lt small
  have notEmpty := size_pos network.prefixLength
  refine ⟨⟨BitVec.ofNat 32 network.last⟩, contains_iff.mpr ?_, isLast⟩
  rw [isLast, last]
  omega

/-- A network that lies in another one is not larger. -/
theorem size_le_of_includes (includes : Includes left right) :
    size right.prefixLength ≤ size left.prefixLength := by
  obtain ⟨address, inRight, isLast⟩ := right.exists_contains_last
  have firstInside := contains_iff.mp (includes _ right.contains_base)
  have lastInside := contains_iff.mp (includes _ inRight)
  rw [isLast] at lastInside
  have lower : left.first ≤ right.first := firstInside.1
  have upper : right.last ≤ left.last := lastInside.2
  have notEmpty := size_pos left.prefixLength
  rw [last, last] at upper
  omega

theorem includes_iff :
    Includes left right ↔ left.prefixLength ≤ right.prefixLength ∧ left.contains right.base = true := by
  constructor
  · intro includes
    have exponents := (Nat.pow_le_pow_iff_right (by decide)).mp (size_le_of_includes includes)
    have leftShort := left.prefixLength_le
    have rightShort := right.prefixLength_le
    exact ⟨by omega, includes _ right.contains_base⟩
  · intro both address inRight
    exact (contains_iff_contains_base both.1 inRight).mpr both.2

theorem apart_iff :
    Apart left right ↔ left.contains right.base = false ∧ right.contains left.base = false := by
  constructor
  · intro apart
    constructor
    · exact Bool.eq_false_iff.mpr fun inLeft => apart _ ⟨inLeft, right.contains_base⟩
    · exact Bool.eq_false_iff.mpr fun inRight => apart _ ⟨left.contains_base, inRight⟩
  · intro both address inBoth
    rcases Nat.le_total left.prefixLength right.prefixLength with shorter | shorter
    · have inLeft := (contains_iff_contains_base shorter inBoth.2).mp inBoth.1
      exact Bool.false_ne_true (both.1.symm.trans inLeft)
    · have inRight := (contains_iff_contains_base shorter inBoth.1).mp inBoth.2
      exact Bool.false_ne_true (both.2.symm.trans inRight)

/-- Of two networks, the one with the shorter prefix includes the other one, or they are apart. -/
theorem includes_or_apart (shorter : left.prefixLength ≤ right.prefixLength) :
    Includes left right ∨ Apart left right := by
  cases inLeft : left.contains right.base with
  | true => exact .inl (includes_iff.mpr ⟨shorter, inLeft⟩)
  | false =>
      refine .inr fun address inBoth => ?_
      have atBase := (contains_iff_contains_base shorter inBoth.2).mp inBoth.1
      exact Bool.false_ne_true (inLeft.symm.trans atBase)

/-- A network is an interval of addresses: from its base, as many as its prefix leaves open. The interval ends
at an address, and the mask is computed by operations that are not refused: no word is shifted by its whole
width. -/
structure IsInterval (network : Network) : Prop where
  checkedMask : mask? network.prefixLength = some (mask network.prefixLength network.prefixLength_le)
  shift : network.prefixLength ≠ 0 → ∃ count < 32, difference? 32 network.prefixLength = some count ∧
    mask network.prefixLength network.prefixLength_le = BitVec.allOnes 32 <<< count
  upper : network.base.bits.toNat + 2 ^ (32 - network.prefixLength) - 1 ≤ 2 ^ 32 - 1
  contains_iff : ∀ address, network.contains address = true ↔
    network.base.bits.toNat ≤ address.bits.toNat ∧
      address.bits.toNat ≤ network.base.bits.toNat + 2 ^ (32 - network.prefixLength) - 1

/-- How two networks lie to each other. Whether one includes the other is decided by their prefixes, and
where neither does they have no address in common. -/
structure NestedOrApart (left right : Network) : Prop where
  includes_iff : Includes left right ↔ left.prefixLength ≤ right.prefixLength ∧ left.contains right.base = true
  apart_iff : Apart left right ↔ left.contains right.base = false ∧ right.contains left.base = false
  either : left.prefixLength ≤ right.prefixLength → Includes left right ∨ Apart left right

theorem isInterval (network : Network) : IsInterval network := by
  constructor
  · exact (Option.some_get _).symm
  · intro positive
    have short := network.prefixLength_le
    exact ⟨32 - network.prefixLength, by omega, if_pos short, mask_eq_shiftLeft short⟩
  · exact network.last_le
  · intro address
    exact contains_iff

theorem nestedOrApart (left right : Network) : NestedOrApart left right :=
  ⟨includes_iff, apart_iff, includes_or_apart⟩

/-- **Networks as intervals.** A base and a prefix length form a network exactly if the length is that of a
prefix and the size of the network divides the base. A network is the interval of as many addresses from its
base; two networks are nested or apart; and in every setup that is read, both services lie in the interval of
their network. -/
theorem networks_are_intervals :
    (∀ base length, (∃ network, ofPrefix base length = .ok network) ↔
      length ≤ 32 ∧ 2 ^ (32 - length) ∣ base.bits.toNat) ∧
    (∀ base length network, ofPrefix base length = .ok network →
      network.base = base ∧ network.prefixLength = length ∧ IsInterval network) ∧
    (∀ left right, NestedOrApart left right) ∧
    ∀ document setup, Setup.read document = .ok setup →
      ∀ address ∈ [setup.addressing.api, setup.addressing.dns],
        setup.addressing.services.base.bits.toNat ≤ address.bits.toNat ∧
          address.bits.toNat ≤ setup.addressing.services.base.bits.toNat +
            2 ^ (32 - setup.addressing.services.prefixLength) - 1 := by
  refine ⟨?_, ?_, nestedOrApart, ?_⟩
  · intro base length
    exact exists_ofPrefix_iff
  · intro base length network isNetwork
    obtain ⟨isBase, isLength⟩ := ofPrefix_eq_ok_iff.mp isNetwork
    exact ⟨isBase, isLength, network.isInterval⟩
  · intro document setup _ address isService
    have inside : setup.addressing.services.contains address = true := by
      rcases List.mem_pair.mp isService with rfl | rfl
      · exact setup.addressing.api_inside
      · exact setup.addressing.dns_inside
    exact (setup.addressing.services.isInterval.contains_iff address).mp inside

/-- The network of all addresses, and a network in it that holds the services of a setup. -/
theorem networks_are_intervals_sample :
    ∃ everything services setup, ofPrefix (.ofOctets 0 0 0 0) 0 = .ok everything ∧
      ofPrefix (.ofOctets 172 28 0 0) 16 = .ok services ∧ Setup.read (Setup.sample [] []) = .ok setup ∧
      (∀ address, everything.contains address = true) ∧
      (∀ address, services.contains address = true ↔
        2887516160 ≤ address.bits.toNat ∧ address.bits.toNat ≤ 2887581695) ∧
      Includes everything services ∧ setup.addressing.services = services ∧
      2887516160 ≤ setup.addressing.api.bits.toNat ∧ setup.addressing.api.bits.toNat ≤ 2887581695 := by
  obtain ⟨succeeds, intervals, nested, inside⟩ := networks_are_intervals
  obtain ⟨everything, isEverything⟩ := (succeeds (.ofOctets 0 0 0 0) 0).mpr (by decide)
  obtain ⟨services, isServices⟩ := (succeeds (.ofOctets 172 28 0 0) 16).mpr (by decide)
  obtain ⟨setup, isRead, same⟩ := Reading.exists_ok_of_any
    (show (Setup.read (Setup.sample [] [])).toOption.any (fun setup =>
        setup.addressing.services.base = .ofOctets 172 28 0 0 ∧
          setup.addressing.services.prefixLength = 16) = true by
      decide +kernel)
  obtain ⟨atZero, noPrefix, whole⟩ := intervals _ _ _ isEverything
  obtain ⟨atBase, isPrefix, part⟩ := intervals _ _ _ isServices
  have isSetupServices : setup.addressing.services = services :=
    Except.ok.inj ((ofPrefix_eq_ok_iff.mpr (of_decide_eq_true same)).symm.trans isServices)
  have containsAll (address : Address) : everything.contains address = true := by
    have below := address.bits.isLt
    have isZero : (Address.ofOctets 0 0 0 0).bits.toNat = 0 := rfl
    rw [whole.contains_iff, atZero, noPrefix, isZero]
    omega
  have isInside := inside _ _ isRead setup.addressing.api List.mem_cons_self
  have partIff := part.contains_iff
  rw [isSetupServices, atBase, isPrefix] at isInside
  rw [atBase, isPrefix] at partIff
  refine ⟨everything, services, setup, isEverything, isServices, isRead, containsAll, partIff, ?_,
    isSetupServices, isInside⟩
  rcases (nested everything services).either (by rw [noPrefix]; exact Nat.zero_le _) with includes | apart
  · exact includes
  · exact absurd ⟨containsAll _, services.contains_base⟩ (apart _)

end Network

end ClusterConfig
