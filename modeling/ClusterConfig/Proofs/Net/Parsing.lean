import ClusterConfig.Proofs.Decimal.Radix
import ClusterConfig.Proofs.Net.Intervals
import ClusterConfig.Proofs.Net.Written
import ClusterConfig.Proofs.Reading
import ClusterConfig.Proofs.Setup.Blocks

set_option autoImplicit false

/-!
# Reading addresses and networks

An address has one written form, and only that is read. The length of a network's prefix may be written with
zeros before it or, for a single address, not at all; it is always printed, and without these zeros.
-/

namespace ClusterConfig

/-!
## Addresses
-/

namespace Address

variable {text : String} {address : Address} {digits : List Char} {value first second third fourth : Nat}

/-- Four decimal numbers below 256 between points, without leading zeros, and the address of which they are
the octets. -/
inductive DottedQuad : String → Address → Prop where
  | intro {first second third fourth : Nat} :
      first ≤ 255 → second ≤ 255 → third ≤ 255 → fourth ≤ 255 →
      DottedQuad (Text.join "." [first.repr, second.repr, third.repr, fourth.repr])
        (.ofOctets first second third fourth)

theorem octets_ofOctets (isFirst : first ≤ 255) (isSecond : second ≤ 255) (isThird : third ≤ 255)
    (isFourth : fourth ≤ 255) :
    (ofOctets first second third fourth).octets = [first, second, third, fourth] := by
  have isWord : (ofOctets first second third fourth).bits.toNat =
      ((first * 256 + second) * 256 + third) * 256 + fourth := by
    refine Nat.mod_eq_of_lt ?_
    omega
  simp only [octets, isWord, List.cons.injEq, and_true]
  refine ⟨?_, ?_, ?_, ?_⟩ <;> omega

theorem exists_octets (address : Address) :
    ∃ first second third fourth, first ≤ 255 ∧ second ≤ 255 ∧ third ≤ 255 ∧ fourth ≤ 255 ∧
      address = ofOctets first second third fourth := by
  obtain ⟨bits⟩ := address
  have below := bits.isLt
  refine ⟨bits.toNat / 0x1000000 % 256, bits.toNat / 0x10000 % 256, bits.toNat / 0x100 % 256,
    bits.toNat % 256, by omega, by omega, by omega, by omega, ?_⟩
  rw [ofOctets, Address.mk.injEq, ← BitVec.toNat_inj, BitVec.toNat_ofNat, Nat.mod_eq_of_lt (by omega)]
  omega

theorem dottedQuad_iff : DottedQuad text address ↔ text = address.text := by
  constructor
  · intro spelled
    cases spelled with
    | intro isFirst isSecond isThird isFourth =>
        rw [Address.text, octets_ofOctets isFirst isSecond isThird isFourth]
        rfl
  · intro isText
    obtain ⟨first, second, third, fourth, isFirst, isSecond, isThird, isFourth, rfl⟩ := address.exists_octets
    rw [isText, Address.text, octets_ofOctets isFirst isSecond isThird isFourth]
    exact .intro isFirst isSecond isThird isFourth

theorem octet?_eq_some_iff :
    octet? digits = some value ↔ digits = Nat.toDigits 10 value ∧ value ≤ 255 := by
  rw [octet?, Option.filter_eq_some_iff, Bool.and_eq_true, decide_eq_true_iff, beq_iff_eq]
  constructor
  · intro facts
    exact ⟨facts.2.2.symm, facts.2.1⟩
  · intro both
    obtain ⟨rfl, small⟩ := both
    exact ⟨Radix.natural?_toDigits value, small, rfl⟩

theorem mapM_octet?_eq_some_iff {pieces : List (List Char)} {values : List Nat} :
    pieces.mapM octet? = some values ↔
      pieces = values.map (Nat.toDigits 10) ∧ ∀ value ∈ values, value ≤ 255 := by
  rw [Reading.mapM_eq_some_iff]
  simp only [octet?_eq_some_iff]
  constructor
  · intro related
    induction related with
    | nil => exact ⟨rfl, fun _ member => absurd member List.not_mem_nil⟩
    | cons both _ ih => exact ⟨by rw [List.map_cons, both.1, ih.1], List.forall_mem_cons.mpr ⟨both.2, ih.2⟩⟩
  · intro both
    obtain ⟨rfl, small⟩ := both
    exact List.forall₂_map_left_iff.mpr (List.forall₂_same.mpr fun value member => ⟨rfl, small value member⟩)

/-- The pieces of a text are numerals exactly if the text is the numerals between points. -/
theorem pieces_eq_numerals_iff {values : List Nat} (present : values ≠ []) :
    Text.pieces '.' text.toList = values.map (Nat.toDigits 10) ↔ text = Text.join "." (values.map Nat.repr) := by
  have areTexts : (values.map (Nat.toDigits 10)).map String.ofList = values.map Nat.repr := by
    rw [List.map_map]
    exact List.map_congr_left fun value _ => String.toList_injective (by simp)
  constructor
  · intro arePieces
    have joined : Text.join "." ((Text.pieces '.' text.toList).map String.ofList) = text := Text.join_pieces text
    rw [← joined, arePieces, areTexts]
  · intro isText
    have noPoint : ∀ numeral ∈ values.map Nat.repr, '.' ∉ numeral.toList := by
      intro numeral isNumeral
      obtain ⟨value, _, rfl⟩ := List.mem_map.mp isNumeral
      exact not_mem_repr (by decide)
    have split : (Text.pieces '.' text.toList).map String.ofList = values.map Nat.repr := by
      rw [isText]
      exact Text.pieces_join (by simpa using present) noPoint
    rw [← areTexts] at split
    exact List.map_injective_iff.mpr (fun _ _ same => String.ofList_injective same) split

theorem parse?_eq_some_iff : parse? text = some address ↔ text = address.text := by
  rw [← dottedQuad_iff, parse?]
  constructor
  · intro isAddress
    split at isAddress
    · rename_i first second third fourth areOctets
      cases isAddress
      obtain ⟨arePieces, small⟩ := mapM_octet?_eq_some_iff.mp areOctets
      rw [(pieces_eq_numerals_iff (List.cons_ne_nil _ _)).mp arePieces]
      simp only [List.forall_mem_cons] at small
      exact .intro small.1 small.2.1 small.2.2.1 small.2.2.2.1
    · cases isAddress
  · intro spelled
    cases spelled with
    | @intro first second third fourth isFirst isSecond isThird isFourth =>
        have arePieces := (pieces_eq_numerals_iff (List.cons_ne_nil first [second, third, fourth])).mpr rfl
        have small : ∀ value ∈ [first, second, third, fourth], value ≤ 255 := by simp [*]
        have areOctets := mapM_octet?_eq_some_iff.mpr ⟨arePieces, small⟩
        simp only [List.map_cons, List.map_nil] at areOctets
        rw [areOctets]

theorem parse?_text (address : Address) : parse? address.text = some address := parse?_eq_some_iff.mpr rfl

theorem text_injective {other : Address} (same : address.text = other.text) : address = other :=
  Option.some.inj ((parse?_text address).symm.trans (parse?_eq_some_iff.mpr same))

theorem slash_not_mem_text (address : Address) : '/' ∉ address.text.toList :=
  not_mem_text (by decide) (by decide)

end Address

/-!
## Networks
-/

namespace Network

variable {text : String} {base : Address} {digits : List Char} {length : Nat} {network : Network}

/-- The text has the form of a network with the given base and prefix length, whether or not they form one.
The length is a run of digits of any length; without one, the network is that of a single address. -/
inductive Spells : String → Address → Nat → Prop where
  | alone {base : Address} : Spells base.text base 32
  | withLength {base : Address} {digits : String} : digits ≠ "" → (∀ c ∈ digits.toList, c.isDigit = true) →
      Spells (base.text ++ "/" ++ digits) base (Nat.ofDigitChars 10 digits.toList 0)

/-- No bit of the base is set outside the first ones, as many as the length says. -/
def Confined (base : Address) (length : Nat) : Prop :=
  ∀ position < 32 - length, base.bits.getLsbD position = false

instance : Decidable (Confined base length) :=
  inferInstanceAs (Decidable (∀ position < 32 - length, base.bits.getLsbD position = false))

theorem aligned_iff_confined (short : length ≤ 32) :
    base.bits &&& ~~~mask length short = 0 ↔ Confined base length := by
  rw [and_not_eq_zero_iff, mask_eq_shiftLeft]
  constructor
  · intro inside position outside
    have bit := congrArg (fun word => word.getLsbD position) inside
    simpa [BitVec.getLsbD_shiftLeft, outside] using bit.symm
  · intro confined
    refine BitVec.eq_of_getLsbD_eq fun position below => ?_
    by_cases outside : position < 32 - length
    · rw [BitVec.getLsbD_and, confined position outside, Bool.false_and]
    · have inWord : position - (32 - length) < 32 := by omega
      have set : (BitVec.allOnes 32 <<< (32 - length)).getLsbD position = true := by
        rw [BitVec.getLsbD_shiftLeft, BitVec.getLsbD_allOnes, decide_eq_true below, decide_eq_false outside,
          decide_eq_true inWord]
        rfl
      rw [BitVec.getLsbD_and, set, Bool.and_true]

theorem splitAtFirst?_text (base : Address) : Text.splitAtFirst? '/' base.text = none := by
  rw [Text.splitAtFirst?, Option.map_eq_none_iff, Text.splitFirst?_eq_none]
  exact base.slash_not_mem_text

theorem splitAtFirst?_slash (base : Address) (digits : String) :
    Text.splitAtFirst? '/' (base.text ++ "/" ++ digits) = some (base.text, digits) :=
  Text.splitAtFirst?_eq_some_iff.mpr ⟨rfl, base.slash_not_mem_text⟩

theorem Spells.unique {other : Address} {length' : Nat} (spells : Spells text base length)
    (spells' : Spells text other length') : base = other ∧ length = length' := by
  cases spells with
  | alone =>
      generalize isText : base.text = text at spells'
      cases spells' with
      | alone => exact ⟨Address.text_injective isText, rfl⟩
      | withLength =>
          have split := splitAtFirst?_text base
          rw [isText, splitAtFirst?_slash] at split
          cases split
  | @withLength base digits _ _ =>
      generalize isText : base.text ++ "/" ++ digits = text at spells'
      have split := splitAtFirst?_slash base digits
      rw [isText] at split
      cases spells' with
      | alone =>
          rw [splitAtFirst?_text] at split
          cases split
      | withLength =>
          rw [splitAtFirst?_slash, Option.some.injEq, Prod.mk.injEq] at split
          obtain ⟨sameText, rfl⟩ := split
          exact ⟨(Address.text_injective sameText).symm, rfl⟩

theorem prefixLength?_eq_some_iff :
    prefixLength? digits = some length ↔
      digits ≠ [] ∧ (∀ c ∈ digits, c.isDigit = true) ∧ Nat.ofDigitChars 10 digits 0 = length ∧ length < 256 := by
  rw [prefixLength?, Option.filter_eq_some_iff, Radix.natural?_eq_some_iff, decide_eq_true_iff]
  simp only [and_assoc]

/-- The base and the prefix length in a text. Lengths that do not fit into a byte are not understood. -/
def parts? (text : String) : Option (Address × Nat) :=
  match Text.splitAtFirst? '/' text with
  | none => (Address.parse? text).map fun base => (base, 32)
  | some (base, length) => do
      let length ← prefixLength? length.toList
      let base ← Address.parse? base
      pure (base, length)

theorem parse_eq (text : String) :
    parse text = match parts? text with
      | some (base, length) => ofPrefix base length
      | none => .error (.malformed text) := rfl

theorem spells_of_parts? (areParts : parts? text = some (base, length)) :
    Spells text base length ∧ length < 256 := by
  rw [parts?] at areParts
  split at areParts
  · obtain ⟨address, isAddress, areBoth⟩ := Option.map_eq_some_iff.mp areParts
    obtain ⟨rfl, rfl⟩ := Prod.mk.inj areBoth
    rw [Address.parse?_eq_some_iff.mp isAddress]
    exact ⟨.alone, by decide⟩
  · rename_i front digits split
    simp only [Option.bind_eq_bind, Option.bind_eq_some_iff, pure, Option.some.injEq, Prod.mk.injEq] at areParts
    obtain ⟨_, isLength, address, isAddress, rfl, rfl⟩ := areParts
    obtain ⟨present, allDigits, rfl, small⟩ := prefixLength?_eq_some_iff.mp isLength
    obtain ⟨rfl, _⟩ := Text.splitAtFirst?_eq_some_iff.mp split
    rw [Address.parse?_eq_some_iff.mp isAddress]
    exact ⟨.withLength (by simpa using present) allDigits, small⟩

theorem parts?_of_spells (spells : Spells text base length) (small : length < 256) :
    parts? text = some (base, length) := by
  cases spells with
  | alone =>
      rw [parts?, splitAtFirst?_text]
      dsimp only
      rw [Address.parse?_text]
      rfl
  | withLength present allDigits =>
      have isLength := prefixLength?_eq_some_iff.mpr ⟨by simpa using present, allDigits, rfl, small⟩
      rw [parts?, splitAtFirst?_slash]
      dsimp only
      rw [isLength, Address.parse?_text]
      rfl

theorem parse_of_spells (spells : Spells text base length) (small : length < 256) :
    parse text = ofPrefix base length := by
  rw [parse_eq, parts?_of_spells spells small]

theorem parse_of_malformed (malformed : ∀ base length, Spells text base length → 256 ≤ length) :
    parse text = .error (.malformed text) := by
  have noParts : parts? text = none := by
    refine Option.eq_none_iff_forall_ne_some.mpr fun both areParts => ?_
    obtain ⟨spells, small⟩ := spells_of_parts? areParts
    exact Nat.not_le_of_lt small (malformed _ _ spells)
  rw [parse_eq, noParts]

theorem spells_of_parse (isNetwork : parse text = .ok network) :
    Spells text network.base network.prefixLength := by
  rw [parse_eq] at isNetwork
  split at isNetwork
  · rename_i base length areParts
    obtain ⟨rfl, rfl⟩ := ofPrefix_eq_ok_iff.mp isNetwork
    exact (spells_of_parts? areParts).1
  · cases isNetwork

theorem parse_eq_ok_iff : parse text = .ok network ↔ Spells text network.base network.prefixLength := by
  constructor
  · exact spells_of_parse
  · intro spells
    have small : network.prefixLength < 256 := Nat.lt_of_le_of_lt network.prefixLength_le (by decide)
    rw [parse_of_spells spells small]
    exact ofPrefix_eq_ok_iff.mpr ⟨rfl, rfl⟩

theorem Spells.of_numeral {digits : String} (isText : text = base.text ++ "/" ++ digits) (present : digits ≠ "")
    (allDigits : ∀ c ∈ digits.toList, c.isDigit = true) (isLength : Nat.ofDigitChars 10 digits.toList 0 = length) :
    Spells text base length := by
  subst isText isLength
  exact .withLength present allDigits

theorem spells_text (network : Network) : Spells network.text network.base network.prefixLength := by
  have isNumeral := Radix.natural?_eq_some_iff.mp (Radix.natural?_toDigits network.prefixLength)
  rw [← Nat.toList_repr] at isNumeral
  exact .of_numeral rfl (by simp) isNumeral.2.1 isNumeral.2.2

theorem parse_text (network : Network) : parse network.text = .ok network :=
  parse_eq_ok_iff.mpr network.spells_text

/-- What becomes of a text that is read as a network: it spells one whose base is confined to the prefix, or it
is refused, for one of three reasons. -/
structure Reads (text : String) : Prop where
  unambiguous : ∀ base length other length', Spells text base length → Spells text other length' →
    base = other ∧ length = length'
  accepted : ∀ base length,
    (∃ network, parse text = .ok network ∧ network.base = base ∧ network.prefixLength = length) ↔
      Spells text base length ∧ length ≤ 32 ∧ Confined base length
  malformed : (∀ base length, Spells text base length → 256 ≤ length) →
    parse text = .error (.malformed text)
  tooLong : ∀ base length, Spells text base length → 32 < length → length < 256 →
    parse text = .error (.prefixTooLong base length)
  hostBits : ∀ base length, Spells text base length → length ≤ 32 → ¬ Confined base length →
    parse text = .error (.hostBits base length)
  refused : (∀ base length, Spells text base length → length ≤ 32 → ¬ Confined base length) →
    ∃ fault, Setup.readNetwork text = .error (.notNetwork fault)

/-- How the printed form of a network differs from a text that it is read from: an address alone is given its
length, and a written length loses its leading zeros. -/
structure Canonical (text : String) (network : Network) : Prop where
  alone : '/' ∉ text.toList → network.text = text ++ "/32"
  withLength : ∀ front digits, text = front ++ "/" ++ digits → '/' ∉ front.toList →
    ∃ zeros, digits = String.ofList (List.replicate zeros '0') ++ network.prefixLength.repr ∧
      network.text = front ++ "/" ++ network.prefixLength.repr

theorem accepted_iff :
    (∃ network, parse text = .ok network ∧ network.base = base ∧ network.prefixLength = length) ↔
      Spells text base length ∧ length ≤ 32 ∧ Confined base length := by
  constructor
  · intro isRead
    obtain ⟨network, isNetwork, rfl, rfl⟩ := isRead
    exact ⟨parse_eq_ok_iff.mp isNetwork, network.prefixLength_le, (aligned_iff_confined _).mp network.aligned⟩
  · intro facts
    obtain ⟨spells, short, confined⟩ := facts
    exact ⟨⟨base, length, short, (aligned_iff_confined short).mpr confined⟩, parse_eq_ok_iff.mpr spells, rfl, rfl⟩

theorem reads (text : String) : Reads text := by
  constructor
  case unambiguous => exact fun _ _ _ _ spells spells' => spells.unique spells'
  case accepted => exact fun _ _ => accepted_iff
  case malformed => exact parse_of_malformed
  case tooLong =>
    intro base length spells long small
    rw [parse_of_spells spells small, ofPrefix, dif_neg (Nat.not_le_of_lt long)]
  case hostBits =>
    intro base length spells short outside
    rw [parse_of_spells spells (Nat.lt_of_le_of_lt short (by decide)), ofPrefix, dif_pos short,
      dif_neg fun aligned => outside ((aligned_iff_confined short).mp aligned)]
  case refused =>
    intro notAccepted
    rw [Setup.readNetwork]
    cases isParsed : parse text with
    | error fault => exact ⟨fault, rfl⟩
    | ok network =>
        obtain ⟨spells, short, confined⟩ := accepted_iff.mp ⟨network, isParsed, rfl, rfl⟩
        exact absurd confined (notAccepted _ _ spells short)

theorem Spells.written_alone (spells : Spells text base length) (noSlash : '/' ∉ text.toList) :
    written base length = text ++ "/32" := by
  cases spells with
  | alone =>
      have isLength : "/" ++ Nat.repr 32 = "/32" := by decide
      rw [written, String.append_assoc, isLength]
  | withLength =>
      refine absurd ?_ noSlash
      simp

theorem Spells.written_withLength {front digits : String} (spells : Spells text base length)
    (isText : text = front ++ "/" ++ digits) (noSlash : '/' ∉ front.toList) :
    ∃ zeros, digits = String.ofList (List.replicate zeros '0') ++ length.repr ∧
      written base length = front ++ "/" ++ length.repr := by
  have split : Text.splitAtFirst? '/' text = some (front, digits) :=
    Text.splitAtFirst?_eq_some_iff.mpr ⟨isText, noSlash⟩
  cases spells with
  | alone =>
      rw [splitAtFirst?_text] at split
      cases split
  | withLength present allDigits =>
      rw [splitAtFirst?_slash, Option.some.injEq, Prod.mk.injEq] at split
      obtain ⟨isFront, isDigits⟩ := split
      obtain ⟨zeros, areDigits⟩ := Radix.exists_eq_zeros (by simpa using present) allDigits
      refine ⟨zeros, String.toList_injective ?_, ?_⟩
      · rw [String.toList_append, String.toList_ofList, Nat.toList_repr, ← isDigits]
        exact areDigits
      · rw [written, isFront]

theorem canonical (isNetwork : parse text = .ok network) : Canonical text network := by
  have spells := parse_eq_ok_iff.mp isNetwork
  constructor
  · exact spells.written_alone
  · intro front digits
    exact spells.written_withLength

/-- **Networks and addresses are read as they are written.** A text is read as a network exactly if it is a
dotted quad, alone or before a slash and a run of digits, that has no bit outside the prefix, and any other text is
refused. A printed network is read again, and the printed form is the text that was read, up to zeros before the
length and the length of an address alone. An address is read from its dotted quad and from nothing else. -/
theorem read_exactly_written :
    (∀ text, Reads text) ∧
    (∀ network, parse network.text = .ok network) ∧
    (∀ text network, parse text = .ok network → Canonical text network) ∧
    (∀ text address, text = address.text ↔ Address.DottedQuad text address) ∧
    (∀ text address, Setup.readAddress text = .ok address ↔ text = address.text) ∧
    ∀ text, (∀ address, text ≠ Address.text address) →
      Setup.readAddress text = .error (.notAddress text) := by
  refine ⟨reads, parse_text, fun _ _ => canonical, fun _ _ => Address.dottedQuad_iff.symm, ?_, ?_⟩
  · intro text address
    rw [Setup.readAddress_eq_ok_iff]
    exact Address.parse?_eq_some_iff
  · intro text notAddress
    have isNone : Address.parse? text = none :=
      Option.eq_none_iff_forall_ne_some.mpr fun address isAddress =>
        notAddress address (Address.parse?_eq_some_iff.mp isAddress)
    rw [Setup.readAddress, isNone]

/-- Zeros before the length are dropped and a missing length is added. Host bits are refused, and so is an octet
with a leading zero. -/
theorem read_exactly_written_sample :
    (∃ network, parse "10.0.0.0/0024" = .ok network ∧ network.text = "10.0.0.0/24") ∧
    (∃ network, parse "10.0.0.7" = .ok network ∧ network.text = "10.0.0.7/32") ∧
    parse "10.0.0.7/24" = .error (.hostBits (.ofOctets 10 0 0 7) 24) ∧
    Setup.readAddress "10.0.0.07" = .error (.notAddress "10.0.0.07") := by
  obtain ⟨reads, _, canonical, _, _, refused⟩ := read_exactly_written
  have hasZeros : Spells "10.0.0.0/0024" (.ofOctets 10 0 0 0) 24 :=
    @Spells.of_numeral _ _ _ "0024" (by decide +kernel) (by decide) (List.all_eq_true.mp rfl) (by decide)
  have isAlone : Spells "10.0.0.7" (.ofOctets 10 0 0 7) 32 := by
    have isText : (Address.ofOctets 10 0 0 7).text = "10.0.0.7" := by decide +kernel
    exact isText ▸ Spells.alone
  have hasHostBits : Spells "10.0.0.7/24" (.ofOctets 10 0 0 7) 24 :=
    @Spells.of_numeral _ _ _ "24" (by decide +kernel) (by decide) (List.all_eq_true.mp rfl) (by decide)
  refine ⟨?_, ?_, (reads _).hostBits _ _ hasHostBits (by decide) (by decide), refused _ ?_⟩
  · obtain ⟨network, isRead, _, isLength⟩ := ((reads _).accepted _ _).mpr ⟨hasZeros, by decide, by decide⟩
    obtain ⟨_, _, isText⟩ :=
      (canonical _ _ isRead).withLength "10.0.0.0" "0024" (by decide +kernel) (by decide +kernel)
    refine ⟨network, isRead, isText.trans ?_⟩
    rw [isLength]
    decide +kernel
  · obtain ⟨network, isRead, _, _⟩ := ((reads _).accepted _ _).mpr ⟨isAlone, by decide, by decide⟩
    exact ⟨network, isRead, ((canonical _ _ isRead).alone (by decide +kernel)).trans (by decide +kernel)⟩
  · intro address isText
    have isRead := Address.parse?_eq_some_iff.mpr isText
    have isNone : Address.parse? "10.0.0.07" = none := by decide +kernel
    exact Option.some_ne_none _ (isRead.symm.trans isNone)

end Network

end ClusterConfig
