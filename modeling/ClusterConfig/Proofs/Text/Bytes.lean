import Mathlib.Tactic.SplitIfs

set_option autoImplicit false

/-!
# The order of bytes

Texts are ordered by their characters, and their encodings by bytes. The two orders are the same: UTF-8
gives greater characters greater bytes, and no character's bytes begin those of another one.
-/

namespace ClusterConfig.Text

def bytes (text : String) : List UInt8 := text.toUTF8.data.toList

variable {left right : String}

theorem bytes_eq_flatMap (text : String) : bytes text = text.toList.flatMap String.utf8EncodeChar := by
  rw [bytes, String.toUTF8_eq_toByteArray, ← String.utf8Encode_toList, List.utf8Encode,
    List.toList_data_toByteArray]

theorem cons_ofNat_lt_iff {first second : Nat} {rest rest' : List UInt8} (isByte : first < 256)
    (isByte' : second < 256) :
    UInt8.ofNat first :: rest < UInt8.ofNat second :: rest' ↔
      first < second ∨ first = second ∧ rest < rest' := by
  rw [List.cons_lt_cons_iff, UInt8.lt_iff_toNat_lt, ← UInt8.toNat_inj, UInt8.toNat_ofNat_of_lt' isByte,
    UInt8.toNat_ofNat_of_lt' isByte']

/-- The bytes of a smaller character come first, whatever follows. -/
theorem utf8EncodeChar_append_lt {before after : Char} (smaller : before < after) (rest rest' : List UInt8) :
    String.utf8EncodeChar before ++ rest < String.utf8EncodeChar after ++ rest' := by
  have values : before.val.toNat < after.val.toNat := smaller
  have last : after.val.toNat < 0x110000 := by
    rcases after.valid with low | ⟨_, high⟩
    · omega
    · exact high
  -- Each byte after the first one holds six bits, so the digits are those to the base 64.
  have square (value : Nat) : value / 4096 = value / 64 / 64 := by rw [Nat.div_div_eq_div_mul]
  have cube (value : Nat) : value / 262144 = value / 64 / 64 / 64 := by
    rw [Nat.div_div_eq_div_mul, Nat.div_div_eq_div_mul]
  unfold String.utf8EncodeChar
  simp only [square, cube]
  generalize before.val.toNat = low, after.val.toNat = high at values last ⊢
  -- Encodings of different lengths differ in their first bytes, and others in the first digit that does.
  split_ifs <;> simp (disch := omega) only [List.cons_append, cons_ofNat_lt_iff] <;> omega

theorem bytes_lt_of_lt (smaller : left < right) : bytes left < bytes right := by
  rw [bytes_eq_flatMap, bytes_eq_flatMap]
  rw [String.lt_iff] at smaller
  generalize left.toList = characters, right.toList = characters' at smaller ⊢
  induction smaller with
  | @nil next rest =>
      obtain ⟨byte, others, isCharacter⟩ :=
        List.exists_cons_of_ne_nil (String.utf8EncodeChar_ne_nil (c := next))
      rw [List.flatMap_cons, isCharacter]
      exact List.nil_lt_cons byte _
  | rel first =>
      rw [List.flatMap_cons, List.flatMap_cons]
      exact utf8EncodeChar_append_lt first _ _
  | cons _ ih =>
      rw [List.flatMap_cons, List.flatMap_cons]
      exact List.append_left_lt ih

/-- Texts are in the order of their bytes. -/
theorem bytes_lt_iff : bytes left < bytes right ↔ left < right := by
  constructor
  · intro smaller
    by_cases isSmaller : left < right
    · exact isSmaller
    · rcases Std.le_iff_lt_or_eq.mp (String.not_lt.mp isSmaller) with larger | same
      · exact absurd (bytes_lt_of_lt larger) (List.lt_asymm smaller)
      · exact absurd (same ▸ smaller) (List.lt_irrefl (bytes right))
  · exact bytes_lt_of_lt

end ClusterConfig.Text
