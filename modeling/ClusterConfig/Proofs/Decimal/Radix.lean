import ClusterConfig.Decimal.Radix
import Mathlib.Data.List.Basic

set_option autoImplicit false

/-!
# Laws of decimal numerals

A run of digits reads as the number that it denotes, whatever its length. Every number has one numeral without
leading zeros, and every other run of digits for it has zeros before that numeral.
-/

namespace ClusterConfig.Radix

variable {c : Char} {digits : List Char} {number value : Nat}

theorem isDigit_iff : c.isDigit = true ↔ '0' ≤ c ∧ c ≤ '9' := by
  rw [Char.isDigit, Bool.and_eq_true, decide_eq_true_iff, decide_eq_true_iff]
  exact Iff.rfl

theorem digit_lt (isDigit : c.isDigit = true) : c.toNat - '0'.toNat < 10 :=
  Nat.lt_succ_of_le (Nat.sub_le_sub_right (Char.isDigit_iff_toNat.mp isDigit).2 _)

theorem digit?_of_isDigit (isDigit : c.isDigit = true) : digit? 10 c = some (c.toNat - '0'.toNat) := by
  rw [digit?, if_pos (isDigit_iff.mp isDigit), Option.filter_some, if_pos (decide_eq_true (digit_lt isDigit))]

/-- The letters, which are digits of larger bases, are too large. -/
theorem digit?_of_not_isDigit (notDigit : c.isDigit = false) : digit? 10 c = none := by
  have notBetween : ¬ ('0' ≤ c ∧ c ≤ '9') := fun between =>
    Bool.false_ne_true (notDigit.symm.trans (isDigit_iff.mpr between))
  rw [digit?, if_neg notBetween, Option.filter_eq_none_iff]
  intro digit isDigit small
  have isSmall : digit < 10 := of_decide_eq_true small
  split at isDigit
  · cases isDigit
    omega
  · split at isDigit
    · cases isDigit
      omega
    · cases isDigit

theorem naturalFrom?_eq (digits : List Char) (value : Nat) :
    naturalFrom? 10 value digits =
      if digits.all Char.isDigit then some (Nat.ofDigitChars 10 digits value) else none := by
  induction digits generalizing value with
  | nil => rfl
  | cons c rest ih =>
      cases isDigit : c.isDigit with
      | true =>
          rw [naturalFrom?, digit?_of_isDigit isDigit, List.all_cons, isDigit, Bool.true_and,
            Nat.ofDigitChars_cons, Nat.mul_comm 10]
          exact ih _
      | false => rw [naturalFrom?, digit?_of_not_isDigit isDigit, List.all_cons, isDigit, Bool.false_and]; rfl

theorem natural?_eq_some_iff :
    natural? 10 digits = some number ↔
      digits ≠ [] ∧ (∀ c ∈ digits, c.isDigit = true) ∧ Nat.ofDigitChars 10 digits 0 = number := by
  rw [natural?, naturalFrom?_eq, ← List.all_eq_true]
  by_cases empty : digits = []
  · simp [empty]
  · cases digits.all Char.isDigit <;> simp [empty]

theorem natural?_toDigits (number : Nat) : natural? 10 (Nat.toDigits 10 number) = some number :=
  natural?_eq_some_iff.mpr ⟨Nat.toDigits_ne_nil,
    fun _ member => Nat.isDigit_of_mem_toDigits (by decide) (by decide) member, Nat.ofDigitChars_ten_toDigits⟩

theorem digitChar_of_isDigit (isDigit : c.isDigit = true) : Nat.digitChar (c.toNat - '0'.toNat) = c := by
  apply Char.toNat_inj.mp
  rw [Nat.toNat_digitChar_of_lt_ten (digit_lt isDigit)]
  exact Nat.add_sub_cancel' (Char.isDigit_iff_toNat.mp isDigit).1

/-- Digits after a numeral of a positive number give the numeral of a larger one. -/
theorem toDigits_ofDigitChars (positive : 0 < value) (allDigits : ∀ c ∈ digits, c.isDigit = true) :
    Nat.toDigits 10 (Nat.ofDigitChars 10 digits value) = Nat.toDigits 10 value ++ digits := by
  induction digits generalizing value with
  | nil => rw [Nat.ofDigitChars_nil, List.append_nil]
  | cons c rest ih =>
      obtain ⟨isDigit, others⟩ := List.forall_mem_cons.mp allDigits
      have small := digit_lt isDigit
      have step : Nat.toDigits 10 (10 * value + (c.toNat - '0'.toNat)) = Nat.toDigits 10 value ++ [c] := by
        rw [← Nat.toDigits_append_toDigits (by decide) positive small, Nat.toDigits_of_lt_base small,
          digitChar_of_isDigit isDigit]
      rw [Nat.ofDigitChars_cons, ih (by omega) others, step, List.append_assoc, List.singleton_append]

theorem ofDigitChars_zero_cons (digits : List Char) :
    Nat.ofDigitChars 10 ('0' :: digits) 0 = Nat.ofDigitChars 10 digits 0 := Nat.ofDigitChars_cons

/-- A run of digits is the numeral of its number after zeros. -/
theorem exists_eq_zeros (present : digits ≠ []) (allDigits : ∀ c ∈ digits, c.isDigit = true) :
    ∃ zeros, digits = List.replicate zeros '0' ++ Nat.toDigits 10 (Nat.ofDigitChars 10 digits 0) := by
  induction digits with
  | nil => exact absurd rfl present
  | cons c rest ih =>
      obtain ⟨isDigit, others⟩ := List.forall_mem_cons.mp allDigits
      by_cases isZero : c = '0'
      · subst isZero
        by_cases alone : rest = []
        · subst alone
          exact ⟨0, rfl⟩
        · obtain ⟨zeros, isRest⟩ := ih alone others
          refine ⟨zeros + 1, ?_⟩
          rw [ofDigitChars_zero_cons, List.replicate_succ, List.cons_append, ← isRest]
      · have differs : '0'.toNat ≠ c.toNat := fun same => isZero (Char.toNat_inj.mp same.symm)
        have positive : 0 < c.toNat - '0'.toNat :=
          Nat.sub_pos_of_lt (Nat.lt_of_le_of_ne (Char.isDigit_iff_toNat.mp isDigit).1 differs)
        refine ⟨0, ?_⟩
        rw [Nat.ofDigitChars_cons, Nat.mul_zero, Nat.zero_add, toDigits_ofDigitChars positive others,
          Nat.toDigits_of_lt_base (digit_lt isDigit), digitChar_of_isDigit isDigit]
        rfl

end ClusterConfig.Radix
