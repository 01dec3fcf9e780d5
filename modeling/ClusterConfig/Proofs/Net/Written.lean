import ClusterConfig.Net.Network
import ClusterConfig.Setup.Service
import ClusterConfig.Proofs.Text

set_option autoImplicit false

/-!
# Characters of written addresses

An address, a network and an endpoint are written with digits and a few marks, so that they hold none of
the characters that lists and lines are divided by.
-/

namespace ClusterConfig

variable {c : Char}

theorem not_mem_repr {number : Nat} (notDigit : c.isDigit = false) : c ∉ number.repr.toList := by
  intro member
  rw [Nat.toList_repr] at member
  have isDigit := Nat.isDigit_of_mem_toDigits (by decide) (by decide) member
  exact Bool.false_ne_true (notDigit.symm.trans isDigit)

theorem Address.not_mem_text {address : Address} (notDigit : c.isDigit = false) (notDot : c ≠ '.') :
    c ∉ address.text.toList := by
  intro member
  have foreign : c ∉ ".".toList := by simpa using notDot
  obtain ⟨octet, written, inOctet⟩ := (Text.mem_join_iff foreign).mp member
  obtain ⟨number, _, rfl⟩ := List.mem_map.mp written
  exact not_mem_repr notDigit inOctet

theorem Network.not_mem_text {network : Network} (notDigit : c.isDigit = false)
    (foreign : c ∉ "./".toList) : c ∉ network.text.toList := by
  obtain ⟨notDot, notSlash⟩ : c ≠ '.' ∧ c ≠ '/' := by simpa using foreign
  rw [Network.text, Network.written, String.toList_append, String.toList_append]
  simp only [List.mem_append, Address.not_mem_text notDigit notDot, not_mem_repr notDigit, or_false,
    false_or]
  simpa using notSlash

/-- The number of a service is written right after the address. -/
theorem Address.endpoint_eq (address : Address) (service : Service) :
    address.endpoint service = "https://" ++ address.text ++ (":" ++ service.number.repr) :=
  String.append_assoc

theorem Address.not_mem_endpoint {address : Address} {service : Service}
    (notDigit : c.isDigit = false) (foreign : c ∉ "https://.".toList) :
    c ∉ (address.endpoint service).toList := by
  have notScheme : c ∉ "https://".toList := fun member => foreign (List.mem_append_left ['.'] member)
  have notDot : c ≠ '.' := fun same => foreign (same ▸ by decide)
  have notColon : c ≠ ':' := fun same => foreign (same ▸ by decide)
  rw [Address.endpoint, String.toList_append, String.toList_append, String.toList_append]
  simp only [List.mem_append, notScheme, Address.not_mem_text notDigit notDot, not_mem_repr notDigit,
    or_false, false_or]
  simpa using notColon

end ClusterConfig
