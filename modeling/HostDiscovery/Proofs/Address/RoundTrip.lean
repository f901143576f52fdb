import HostDiscovery.Proofs.Address.Written

/-! Addresses with a zone, from text to record and back. A record stands for the number and the zone
that its text spells, so it is read back from the text that sockets are bound to, and records are
equal as their numbers and zones are. -/
namespace HostDiscovery

open Text NumericAddress

namespace NumericAddress

/-- The number of an address, in 32 bits or in 128. -/
def toNat : NumericAddress → Nat
  | .v4 value => value.toNat
  | .v6 value => value.toNat

lemma eq_iff_version_toNat {x y : NumericAddress} :
    x = y ↔ x.version = y.version ∧ x.toNat = y.toNat := by
  cases x <;> cases y <;> simp [version, toNat, BitVec.toNat_inj]

lemma toText_injective {x y : NumericAddress} (h : x.toText = y.toText) : x = y :=
  (spells_toText x).unique (h ▸ spells_toText y)

end NumericAddress

namespace NetworkAddress

def addressPart (s : String) : Text := s.toList.takeWhile (· ≠ '%')

def zonePart (s : String) : Text := (s.toList.dropWhile (· ≠ '%')).tail

lemma cutAt_eq_parts (s : String) :
    (cutAt '%' s.toList).1 = addressPart s ∧ (cutAt '%' s.toList).2.getD [] = zonePart s := by
  unfold addressPart zonePart
  induction s.toList with
  | nil => exact ⟨rfl, rfl⟩
  | cons c rest ih =>
    by_cases hc : c = '%'
    · simp [cutAt, hc]
    · simpa [cutAt, hc] using ih

lemma ofNumeric_getD (ip : NumericAddress) (zone : Option Text) :
    ofNumeric ip zone = ofNumeric ip (some (zone.getD [])) := by
  cases zone <;> rfl

/-- Exactly the texts that spell an address are read, each as that address with its zone. -/
theorem parse_eq_ok_iff {s : String} {a : NetworkAddress} :
    parse s = .ok a ↔ ∃ ip, Spells (addressPart s) ip ∧ a = ofNumeric ip (some (zonePart s)) := by
  obtain ⟨haddress, hzone⟩ := cutAt_eq_parts s
  constructor
  · intro h
    obtain ⟨ip, hip, rfl⟩ := exists_of_parse h
    rw [haddress] at hip
    rw [ofNumeric_getD, hzone]
    exact ⟨ip, parse?_eq_some_iff.mp hip, rfl⟩
  · rintro ⟨ip, hip, rfl⟩
    rw [← hzone, ← ofNumeric_getD]
    simp only [parse, haddress, parse?_eq_some_iff.mpr hip]

lemma toList_address (ip : NumericAddress) (zone : Option Text) :
    (ofNumeric ip zone).address.toList = ip.toText := by
  simp [ofNumeric]

lemma zone_getD (ip : NumericAddress) (z : Text) :
    ((ofNumeric ip (some z)).zone.map String.toList).getD [] = z := by
  cases z <;> simp [ofNumeric]

lemma ofNumeric_eq_iff {x y : NumericAddress} {z w : Text} :
    ofNumeric x (some z) = ofNumeric y (some w) ↔ x = y ∧ z = w := by
  constructor
  · intro h
    have htext := congrArg (fun a => a.address.toList) h
    have hzone := congrArg (fun a => (a.zone.map String.toList).getD []) h
    simp only [toList_address, zone_getD] at htext hzone
    exact ⟨toText_injective htext, hzone⟩
  · rintro ⟨rfl, rfl⟩
    rfl

lemma toList_bindHost (ip : NumericAddress) (z : Text) :
    (ofNumeric ip (some z)).bindHost.toList = ip.toText ++ if z = [] then [] else '%' :: z := by
  cases z with
  | nil => simp [bindHost, ofNumeric]
  | cons c z => simp [bindHost, ofNumeric]

lemma parts_of_toText {s : String} {ip : NumericAddress} {z : Text}
    (h : s.toList = ip.toText ++ if z = [] then [] else '%' :: z) :
    addressPart s = ip.toText ∧ zonePart s = z := by
  have hne : ∀ c ∈ ip.toText, decide (c ≠ '%') = true := by
    intro c hc
    have hpercent : c ≠ '%' := fun h => (spells_toText ip).not_mem (by simp) (h ▸ hc)
    exact decide_eq_true hpercent
  unfold addressPart zonePart
  rw [h, List.takeWhile_append_of_pos hne, List.dropWhile_append_of_pos hne]
  cases z <;> simp

/-- A record is read back from the text to bind a socket to, and from its own text without zone. -/
theorem parse_bindHost {s : String} {a : NetworkAddress} (h : parse s = .ok a) :
    parse a.bindHost = .ok a ∧ parse a.address = .ok { a with zone := none } := by
  obtain ⟨ip, -, rfl⟩ := parse_eq_ok_iff.mp h
  constructor
  · obtain ⟨haddress, hzone⟩ := parts_of_toText (toList_bindHost ip (zonePart s))
    refine parse_eq_ok_iff.mpr ⟨ip, ?_, by rw [hzone]⟩
    rw [haddress]
    exact spells_toText ip
  · have htext : (ofNumeric ip (some (zonePart s))).address.toList = ip.toText ++ [] := by
      rw [toList_address, List.append_nil]
    obtain ⟨haddress, hzone⟩ := parts_of_toText (z := []) htext
    refine parse_eq_ok_iff.mpr ⟨ip, ?_, by rw [hzone]; rfl⟩
    rw [haddress]
    exact spells_toText ip

/-- Further percent signs belong to the zone. -/
theorem parse_bindHost_percent_in_zone :
    let a : NetworkAddress := { address := "fe80::1", version := .v6, zone := some "eth0%1" }
    parse "FE80:0:0::1%eth0%1" = .ok a ∧ parse "fe80::1%eth0%1" = .ok a ∧
      parse "fe80::1" = .ok { a with zone := none } := by
  intro a
  have h : parse "FE80:0:0::1%eth0%1" = .ok a := by decide +kernel
  exact ⟨h, parse_bindHost h⟩

/-- Two texts are read as equal records exactly if they spell the same number in the same version
with the same zone. -/
theorem parse_eq_parse_iff {s t : String} {a b : NetworkAddress} (ha : parse s = .ok a)
    (hb : parse t = .ok b) :
    ∃ x y : NumericAddress, (∀ ip, Spells (addressPart s) ip ↔ ip = x) ∧
      (∀ ip, Spells (addressPart t) ip ↔ ip = y) ∧
      (a = b ↔ x.version = y.version ∧ x.toNat = y.toNat ∧ zonePart s = zonePart t) := by
  obtain ⟨x, hx, rfl⟩ := parse_eq_ok_iff.mp ha
  obtain ⟨y, hy, rfl⟩ := parse_eq_ok_iff.mp hb
  refine ⟨x, y, fun ip => ⟨fun h => h.unique hx, ?_⟩, fun ip => ⟨fun h => h.unique hy, ?_⟩, ?_⟩
  · rintro rfl
    exact hx
  · rintro rfl
    exact hy
  · rw [ofNumeric_eq_iff, eq_iff_version_toNat, and_assoc]

/-- Letter case, zeros in front, the place of the double colon and a dotted quad at the end make no
difference, nor does a percent sign with nothing behind it. -/
theorem parse_eq_parse_mapped :
    let a : NetworkAddress := { address := "::ffff:a00:1", version := .v6 }
    parse "::FFFF:10.0.0.1%" = .ok a ∧ parse "0:0:0:0::ffff:0a00:1" = .ok a ∧
      ∃ ip, (∀ x, Spells (addressPart "::FFFF:10.0.0.1%") x ↔ x = ip) ∧
        (∀ x, Spells (addressPart "0:0:0:0::ffff:0a00:1") x ↔ x = ip) ∧
        zonePart "::FFFF:10.0.0.1%" = zonePart "0:0:0:0::ffff:0a00:1" := by
  intro a
  have h : parse "::FFFF:10.0.0.1%" = .ok a := by decide +kernel
  have h' : parse "0:0:0:0::ffff:0a00:1" = .ok a := by decide +kernel
  obtain ⟨x, y, hx, hy, heq⟩ := parse_eq_parse_iff h h'
  obtain ⟨hversion, hnumber, hzone⟩ := heq.mp rfl
  obtain rfl := eq_iff_version_toNat.mpr ⟨hversion, hnumber⟩
  exact ⟨h, h', x, hx, hy, hzone⟩

end NetworkAddress

end HostDiscovery
