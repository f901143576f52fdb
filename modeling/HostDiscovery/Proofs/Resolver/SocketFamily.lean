import HostDiscovery.Proofs.Address.RoundTrip
import HostDiscovery.Proofs.Resolver.PortOrder

/-! The family of the sockets that a port is searched with on an address. It is told from a colon in
the text to bind, of which the zone is a part: for IPv6 there always is one, for IPv4 there is one
where the zone has one. -/
namespace HostDiscovery

open NumericAddress

def IpVersion.family : IpVersion → SocketFamily
  | v4 => .inet
  | v6 => .inet6

namespace NumericAddress

lemma Spells.colon_mem_iff {s : Text} {ip : NumericAddress} (h : Spells s ip) :
    ':' ∈ s ↔ ip.version = .v6 := by
  cases h with
  | v4 quad => exact iff_of_false (quad.not_mem (by simp)) nofun
  | v6 eight => exact iff_of_true eight.colon_mem rfl

end NumericAddress

namespace NetworkAddress

variable {text : String} {a : NetworkAddress}

lemma mem_toList_iff {c : Char} (hc : c ≠ '%') :
    c ∈ text.toList ↔ c ∈ addressPart text ∨ c ∈ zonePart text := by
  unfold addressPart zonePart
  induction text.toList with
  | nil => simp
  | cons d rest ih =>
    by_cases hd : d = '%'
    · simp [hd, hc]
    · simpa [hd, or_assoc] using or_congr_right ih

lemma colon_mem_bindHost_iff (h : parse text = .ok a) :
    (':' ∈ a.bindHost.toList ↔ ':' ∈ text.toList) ∧ (a.version = .v6 → ':' ∈ text.toList) := by
  obtain ⟨ip, hip, rfl⟩ := parse_eq_ok_iff.mp h
  have hzone : ':' ∈ (if zonePart text = [] then [] else '%' :: zonePart text) ↔
      ':' ∈ zonePart text := by
    split_ifs with hnil <;> simp [hnil]
  rw [toList_bindHost, List.mem_append, hzone, mem_toList_iff (by decide),
    (spells_toText ip).colon_mem_iff, hip.colon_mem_iff]
  exact ⟨Iff.rfl, .inl⟩

end NetworkAddress

namespace Port

variable {sockets : SocketLayer} {host : String} {preferred port : Int} {h calls : List Event}
  {reply : Reply} {made : List (Int × Reply)}

lemma Attempt.openSocket_mem (ha : Attempt sockets host port h reply calls) :
    .openSocket (familyOf host) ∈ calls := by
  cases ha <;> simp [socketCalls]

lemma Attempts.openSocket_mem (ha : Attempts sockets host h (candidates preferred) made calls) :
    .openSocket (familyOf host) ∈ calls := by
  obtain ⟨first, rest, hports⟩ : ∃ first rest, candidates preferred = first :: rest := by
    unfold candidates
    split_ifs <;> exact ⟨_, _, rfl⟩
  rw [hports] at ha
  cases ha with
  | last attempt => exact attempt.openSocket_mem
  | survived attempt => exact List.mem_append_left _ attempt.openSocket_mem

lemma Attempts.forall_family_iff (ha : Attempts sockets host h (candidates preferred) made calls)
    {family : SocketFamily} :
    (∀ opened, Event.openSocket opened ∈ calls → opened = family) ↔ familyOf host = family := by
  constructor
  · exact fun hall => hall _ ha.openSocket_mem
  · rintro rfl opened hopened
    exact ha.inTurn.eq_familyOf hopened

lemma events_findFree (default : Int) {s : Session}
    (ha : Attempts sockets host h (candidates preferred) made calls) (hs : s.events = h) :
    (findFree sockets host preferred default s).2.events = h ++ calls := by
  rw [findFree_leaves default ha s hs]

lemma familyOf_eq_inet_iff : familyOf host = .inet ↔ ':' ∉ host.toList := by
  simp [familyOf]

/-- The sockets that a port is searched with on an address are of the family of its version, unless
it is an IPv4 address that was read from a text with a colon. -/
theorem findFree_family_iff (sockets : SocketLayer) {text : String} {a : NetworkAddress}
    (h : NetworkAddress.parse text = .ok a) (preferred default : Int) (s : Session) :
    ∃ calls, (findFree sockets (BindTarget.address a).hostText preferred default s).2.events =
        s.events ++ calls ∧
      ((∀ family, Event.openSocket family ∈ calls → family = a.version.family) ↔
        (a.version = .v4 → ':' ∉ text.toList)) := by
  obtain ⟨made, calls, hmade⟩ :=
    exists_attempts sockets (BindTarget.address a).hostText (candidates preferred) s.events
  refine ⟨calls, events_findFree default hmade rfl, ?_⟩
  obtain ⟨hbind, hcolon⟩ := NetworkAddress.colon_mem_bindHost_iff h
  rw [hmade.forall_family_iff]
  cases hversion : a.version with
  | v4 =>
    rw [IpVersion.family, familyOf_eq_inet_iff, BindTarget.hostText, hbind]
    exact ⟨fun hcolon _ => hcolon, fun hcolon => hcolon rfl⟩
  | v6 =>
    rw [IpVersion.family, familyOf_eq_inet6_iff, BindTarget.hostText, hbind]
    exact iff_of_true (hcolon hversion) nofun

/-- The colons of an IPv6 address are no obstacle, and neither is one in its zone. -/
theorem findFree_family_zoned :
    let a : NetworkAddress := { address := "fe80::1", version := .v6, zone := some "eth0:1" }
    NetworkAddress.parse "fe80::1%eth0:1" = .ok a ∧ ∀ family,
      .openSocket family ∈
        (findFree socketsDeafAtFirst (BindTarget.address a).hostText 8080 16000 {}).2.events →
      family = .inet6 := by
  intro a
  have h : NetworkAddress.parse "fe80::1%eth0:1" = .ok a := by decide +kernel
  obtain ⟨calls, hevents, hfamily⟩ := findFree_family_iff socketsDeafAtFirst h 8080 16000 {}
  rw [hevents]
  exact ⟨h, hfamily.mpr nofun⟩

/-- A colon in the zone of an IPv4 address gives the address IPv6 sockets. -/
theorem findFree_family_alias :
    ¬ ∀ (sockets : SocketLayer) (text : String) (a : NetworkAddress),
      NetworkAddress.parse text = .ok a → ∀ (preferred default : Int) (s : Session),
        ∃ calls, (findFree sockets (BindTarget.address a).hostText preferred default s).2.events =
            s.events ++ calls ∧
          ∀ family, Event.openSocket family ∈ calls → family = a.version.family := by
  intro hall
  have h : NetworkAddress.parse "192.168.0.5%eth0:1" =
      .ok { address := "192.168.0.5", version := .v4, zone := some "eth0:1" } := by decide +kernel
  obtain ⟨calls, hevents, hfamily⟩ := hall socketsDeafAtFirst _ _ h 0 16000 {}
  obtain ⟨made, calls', hmade⟩ :=
    exists_attempts socketsDeafAtFirst "192.168.0.5%eth0:1" (candidates 0) []
  obtain rfl : calls' = calls := (events_findFree 16000 hmade rfl).symm.trans hevents
  exact absurd (hmade.forall_family_iff.mp hfamily) (by decide)

end Port

end HostDiscovery
