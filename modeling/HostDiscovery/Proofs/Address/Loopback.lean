import HostDiscovery.Proofs.Address.RoundTrip

/-! Which texts denote the machine itself. The test looks at the written text of a record, not at
the text that the record was read from; it comes to the same number however that was spelled. -/
namespace HostDiscovery

open NumericAddress

namespace NumericAddress

lemma head?_octets (value : BitVec 32) :
    (octets value).head? = some (value.toNat / 2 ^ 24) := by
  have hlt : value.toNat < 2 ^ 32 := value.isLt
  have hfirst : value.toNat / 256 / 256 / 256 % 256 = value.toNat / 2 ^ 24 := by omega
  simp [octets, toDigits, hfirst]

lemma isLoopback_v4_iff {value : BitVec 32} :
    (v4 value).isLoopback = true ↔ value.toNat / 2 ^ 24 = 127 := by
  rw [isLoopback, head?_octets, beq_iff_eq, Option.some.injEq]

lemma isLoopback_v6_iff {value : BitVec 128} : (v6 value).isLoopback = true ↔ value = 1 :=
  beq_iff_eq

/-- A text denotes the machine itself: an IPv4 number that begins with the octet 127, or the IPv6
number one. -/
def SpellsLoopback (s : Text) : Prop :=
  (∃ value : BitVec 32, Spells s (.v4 value) ∧ value.toNat / 2 ^ 24 = 127) ∨ Spells s (.v6 1)

lemma Spells.isLoopback_iff {s : Text} {ip : NumericAddress} (h : Spells s ip) :
    ip.isLoopback = true ↔ SpellsLoopback s := by
  constructor
  · intro hip
    cases ip with
    | v4 value => exact .inl ⟨value, h, isLoopback_v4_iff.mp hip⟩
    | v6 value => exact .inr (isLoopback_v6_iff.mp hip ▸ h)
  · rintro (⟨value, hvalue, hfirst⟩ | hone)
    · rw [h.unique hvalue]
      exact isLoopback_v4_iff.mpr hfirst
    · rw [h.unique hone]
      exact isLoopback_v6_iff.mpr rfl

end NumericAddress

namespace NetworkAddress

/-- The test always has an answer for a record that was read, and it is yes exactly if what stands
in front of the first percent sign denotes the machine itself. -/
theorem isLoopback_of_parse {s : String} {a : NetworkAddress} (h : parse s = .ok a) :
    ∃ answer, a.isLoopback = .ok answer ∧
      (answer = true ↔ SpellsLoopback (addressPart s)) := by
  obtain ⟨ip, hip, rfl⟩ := parse_eq_ok_iff.mp h
  exact ⟨ip.isLoopback, isLoopback_ofNumeric ip _, hip.isLoopback_iff⟩

/-- The number one with a dotted quad at its end and a zone behind it. -/
theorem isLoopback_of_dotted_tail :
    let a : NetworkAddress := { address := "::1", version := .v6, zone := some "lo%1" }
    parse "0:00::0.0.0.1%lo%1" = .ok a ∧ a.isLoopback = .ok true := by
  intro a
  have h : parse "0:00::0.0.0.1%lo%1" = .ok a := by decide +kernel
  have hone : Spells (addressPart "0:00::0.0.0.1%lo%1") (.v6 1) :=
    parse?_eq_some_iff.mp (by decide +kernel)
  obtain ⟨answer, hanswer, hloopback⟩ := isLoopback_of_parse h
  obtain rfl : answer = true := hloopback.mpr (.inr hone)
  exact ⟨h, hanswer⟩

end NetworkAddress

end HostDiscovery
