set_option autoImplicit false

/-!
# UTF-8

Decoding of file contents. Bytes that are not UTF-8 are refused with the place where they stop being
UTF-8: the index at which the offending character begins, and how many bytes are certainly wrong.
-/

namespace ClusterConfig.Utf8

/-- Where a sequence of bytes stops being UTF-8: at bytes that begin no character, or at the end, inside
a character. -/
inductive Fault where
  | invalid (length index : Nat)
  | incomplete (index : Nat)
deriving DecidableEq, Repr

def Fault.message : Fault → String
  | .invalid length index =>
      "invalid utf-8 sequence of " ++ length.repr ++ " bytes from index " ++ index.repr
  | .incomplete index => "incomplete utf-8 byte sequence from index " ++ index.repr

/-- The bounds of each byte that must follow `lead` to complete a character. No character begins
with a byte for which there is no answer. -/
def continuation (lead : UInt8) : Option (List (UInt8 × UInt8)) :=
  if lead ≤ 0x7F then some []
  else if lead < 0xC2 then none
  else if lead ≤ 0xDF then some [(0x80, 0xBF)]
  else if lead = 0xE0 then some [(0xA0, 0xBF), (0x80, 0xBF)]
  else if lead = 0xED then some [(0x80, 0x9F), (0x80, 0xBF)]
  else if lead ≤ 0xEF then some [(0x80, 0xBF), (0x80, 0xBF)]
  else if lead = 0xF0 then some [(0x90, 0xBF), (0x80, 0xBF), (0x80, 0xBF)]
  else if lead ≤ 0xF3 then some [(0x80, 0xBF), (0x80, 0xBF), (0x80, 0xBF)]
  else if lead = 0xF4 then some [(0x80, 0x8F), (0x80, 0xBF), (0x80, 0xBF)]
  else none

/-- Follow the bytes from inside a character: it began at `start`, `seen` of its bytes have been
accepted, and the bytes still `owed` have the given bounds. Reaching the end of complete bytes is
reported as a character that is missing altogether. -/
def faultFrom (start seen : Nat) : List (UInt8 × UInt8) → List UInt8 → Fault
  | _, [] => .incomplete start
  | [], byte :: rest =>
      match continuation byte with
      | none => .invalid 1 (start + seen)
      | some owed => faultFrom (start + seen) 1 owed rest
  | (low, high) :: owed, byte :: rest =>
      if low ≤ byte ∧ byte ≤ high then faultFrom start (seen + 1) owed rest
      else .invalid seen start

def firstFault (bytes : ByteArray) : Fault :=
  faultFrom 0 0 [] bytes.toList

def decode (bytes : ByteArray) : Except Fault String :=
  match String.fromUTF8? bytes with
  | some text => .ok text
  | none => .error (firstFault bytes)

theorem decode_toUTF8 (text : String) : decode text.toUTF8 = .ok text := by
  have valid : text.toUTF8.IsValidUTF8 := text.isValidUTF8
  simp only [decode, String.fromUTF8?, valid, dite_true]
  rfl

theorem decode_eq_ok_iff {bytes : ByteArray} {text : String} : decode bytes = .ok text ↔ text.toUTF8 = bytes := by
  constructor
  · intro decoded
    simp only [decode, String.fromUTF8?] at decoded
    split at decoded
    · rename_i found
      split at found
      · cases found
        cases decoded
        rfl
      · cases found
    · cases decoded
  · intro encoded
    rw [← encoded, decode_toUTF8]

theorem decode_eq_error {bytes : ByteArray} (foreign : ∀ text : String, text.toUTF8 ≠ bytes) :
    decode bytes = .error (firstFault bytes) := by
  cases decoded : decode bytes with
  | ok text => exact absurd (decode_eq_ok_iff.mp decoded) (foreign text)
  | error fault =>
      simp only [decode] at decoded
      split at decoded
      · cases decoded
      · exact decoded.symm

end ClusterConfig.Utf8
