import HostDiscovery.Network.System
import HostDiscovery.Proofs.Resolver.Search

/-! The walk over the interfaces when these come from the tables of the operating system. First the
tables are made into interfaces and then the interfaces are walked; the two together are one search
of all entries for the first that gives a usable address. -/
namespace HostDiscovery.Strategy

open Text OperatingSystem

def entriesOf (table : List (String × List (EntryFamily × String))) :
    List (String × EntryFamily × String) :=
  table.flatMap fun (name, entries) => entries.map fun entry => (name, entry)

section

variable (states : List (String × Bool)) (settings : Settings)

/-- An entry gives an address that other machines can use: its interface is known to be up and is
not only for virtual machines, and its text is that of an address which is not loopback and which
the preferences do not exclude. -/
structure Gives (entry : String × EntryFamily × String) (a : NetworkAddress) : Prop where
  up : states.lookup entry.1 = some true
  unmarked : ¬ lower settings.hostOnlyMarker.toList <:+: lower entry.1.toList
  family : entry.2.1 = .inet ∨ entry.2.1 = .inet6
  parsed : NetworkAddress.parse entry.2.2 = .ok a
  external : a.isLoopback = .ok false
  ipv4 : settings.preferIpv4 = true → a.version = .v4
  ipv6 : settings.preferIpv6 = true → a.version = .v6

def interfaceOf (name : String) (addresses : List NetworkAddress) : Interface where
  name
  displayName := name
  isUp := isUp states name
  addresses

def addressOf? (entry : EntryFamily × String) : Option NetworkAddress :=
  if entry.1 = .other then none else (NetworkAddress.parse entry.2).toOption

/-- The usable address that an entry gives, if any. -/
def given? (entry : String × EntryFamily × String) : Option NetworkAddress :=
  (addressOf? entry.2).filter fun a => Eligible settings (interfaceOf states entry.1 [], a)

end

variable {states : List (String × Bool)} {settings : Settings} {name : String}

lemma isUp_iff : isUp states name = true ↔ states.lookup name = some true := by
  induction states with
  | nil => simp [isUp]
  | cons state rest ih =>
    obtain ⟨key, up⟩ := state
    by_cases hkey : key = name
    · simp [isUp, hkey]
    · have hne : (name == key) = false := by simpa using Ne.symm hkey
      rw [List.lookup_cons, hne]
      simpa [isUp, hkey] using ih

lemma addressOf?_eq_some_iff {entry : EntryFamily × String} {a : NetworkAddress} :
    addressOf? entry = some a ↔
      (entry.1 = .inet ∨ entry.1 = .inet6) ∧ NetworkAddress.parse entry.2 = .ok a := by
  obtain ⟨family, text⟩ := entry
  cases hparse : NetworkAddress.parse text <;> cases family <;>
    simp [addressOf?, hparse, Except.toOption]

lemma isParsed_of_addressOf? {entry : EntryFamily × String} {a : NetworkAddress}
    (h : addressOf? entry = some a) : a.IsParsed :=
  ⟨entry.2, (addressOf?_eq_some_iff.mp h).2⟩

lemma given?_eq_some_iff {entry : String × EntryFamily × String} {a : NetworkAddress} :
    given? states settings entry = some a ↔ Gives states settings entry a := by
  rw [given?, Option.filter_eq_some_iff, addressOf?_eq_some_iff, decide_eq_true_eq]
  constructor
  · rintro ⟨⟨family, parsed⟩, eligible⟩
    exact ⟨isUp_iff.mp eligible.up, eligible.unmarked, family, parsed, eligible.external,
      eligible.ipv4, eligible.ipv6⟩
  · intro h
    exact ⟨⟨h.family, h.parsed⟩, isUp_iff.mpr h.up, h.unmarked, h.external, h.ipv4, h.ipv6⟩

lemma given?_eq_none_iff {entry : String × EntryFamily × String} :
    given? states settings entry = none ↔ ∀ a, ¬ Gives states settings entry a := by
  simp [Option.eq_none_iff_forall_ne_some, given?_eq_some_iff]

lemma given?_of_not_isUsable (h : ¬ isUsable settings (interfaceOf states name []) = true)
    (entry : EntryFamily × String) : given? states settings (name, entry) = none := by
  rw [given?, Option.filter_eq_none_iff]
  intro a _ he
  exact h (eligible_iff.mp (of_decide_eq_true he)).1

lemma given?_of_address {entry : EntryFamily × String} {a : NetworkAddress}
    (hu : isUsable settings (interfaceOf states name []) = true)
    (ha : addressOf? entry = some a) {loopback : Bool} (hl : a.isLoopback = .ok loopback) :
    given? states settings (name, entry) =
      if !loopback && accepts settings a then some a else none := by
  have hiff : Eligible settings (interfaceOf states name [], a) ↔
      (!loopback && accepts settings a) = true := by
    rw [eligible_iff, hl, Except.ok.injEq, Bool.and_eq_true, Bool.not_eq_true']
    exact and_iff_right hu
  rw [given?, ha, Option.filter_some]
  exact if_congr (decide_eq_true_iff.trans hiff) rfl rfl

lemma firstAccepted_addressesOf (hu : isUsable settings (interfaceOf states name []) = true)
    (entries : List (EntryFamily × String)) :
    firstAccepted settings (addressesOf entries) =
      .ok ((entries.map fun entry => (name, entry)).findSome? (given? states settings)) := by
  induction entries with
  | nil => rfl
  | cons entry rest ih =>
    have hcons : addressesOf (entry :: rest) =
        (addressOf? entry).toList ++ addressesOf rest := by
      cases ha : addressOf? entry <;> simp_all [addressesOf, addressOf?]
    rw [hcons, List.map_cons, List.findSome?_cons]
    cases ha : addressOf? entry with
    | none => simpa [given?, ha] using ih
    | some a =>
      obtain ⟨loopback, hl⟩ := (isParsed_of_addressOf? ha).exists_isLoopback
      rw [given?_of_address hu ha hl, Option.toList_some, List.singleton_append, firstAccepted, hl]
      by_cases hgood : (!loopback && accepts settings a) = true
      · simp [hgood]
      · simpa [hgood] using ih

lemma firstEligible_interfacesOf (states : List (String × Bool))
    (table : List (String × List (EntryFamily × String))) :
    firstEligible settings (interfacesOf states table) =
      .ok ((entriesOf table).findSome? (given? states settings)) := by
  induction table with
  | nil => rfl
  | cons row rest ih =>
    obtain ⟨name, entries⟩ := row
    have hcons : entriesOf ((name, entries) :: rest) =
        (entries.map fun entry => (name, entry)) ++ entriesOf rest := rfl
    have hinterface : interfacesOf states ((name, entries) :: rest) =
        interfaceOf states name (addressesOf entries) :: interfacesOf states rest := rfl
    have husable : isUsable settings (interfaceOf states name (addressesOf entries)) =
        isUsable settings (interfaceOf states name []) := rfl
    rw [hcons, hinterface, List.findSome?_append, firstEligible, husable]
    by_cases hu : isUsable settings (interfaceOf states name []) = true
    · have haddresses : (interfaceOf states name (addressesOf entries)).addresses =
          addressesOf entries := rfl
      rw [if_pos hu, haddresses, firstAccepted_addressesOf hu]
      cases (entries.map fun entry => (name, entry)).findSome? (given? states settings) with
      | none => simpa using ih
      | some a => rfl
    · have hnone : (entries.map fun entry => (name, entry)).findSome?
          (given? states settings) = none := by
        rw [List.findSome?_map, List.findSome?_eq_none_iff]
        exact fun entry _ => given?_of_not_isUsable hu entry
      rw [if_neg hu, ih, hnone]
      rfl

lemma interfaceAddress_runsTo_of_tables {os : OperatingSystem} {h : List Event}
    {table : List (String × List (EntryFamily × String))}
    (hstates : os.interfaceStates h = .ok states)
    (htable : os.interfaceAddresses (h ++ [.interfaceStates]) = .ok table) :
    (interfaceAddress os.backend settings).RunsTo h
      (.ok ((entriesOf table).findSome? (given? states settings)))
      (h ++ [.interfaceStates, .interfaceAddresses]) := by
  have hanswer : os.interfaces h =
      (.ok (interfacesOf states table), [.interfaceStates, .interfaceAddresses]) := by
    simp [OperatingSystem.interfaces, bind, Query.bind, Query.ask, hstates, htable, pure,
      Query.ofExcept]
  have hquery := Act.runsTo_query os.interfaces h
  rw [hanswer] at hquery
  refine hquery.bind ?_
  rw [firstEligible_interfacesOf]
  exact Act.runsTo_ofExcept _ _

/-- Over the tables of the operating system, the search of the interfaces ends without a failure
with the address of the first entry that gives a usable one, and with nothing exactly if no entry
does. -/
theorem interfaceAddress_first_entry (os : OperatingSystem) (settings : Settings) (s : Session)
    {states : List (String × Bool)} {table : List (String × List (EntryFamily × String))}
    (hstates : os.interfaceStates s.events = .ok states)
    (htable : os.interfaceAddresses (s.events ++ [.interfaceStates]) = .ok table) :
    ∃ found s', interfaceAddress os.backend settings s = (.ok found, s') ∧
      (∀ a, found = some a ↔ ∃ earlier entry later,
        entriesOf table = earlier ++ entry :: later ∧ Gives states settings entry a ∧
          ∀ e ∈ earlier, ∀ b, ¬ Gives states settings e b) ∧
      (found = none ↔ ∀ e ∈ entriesOf table, ∀ b, ¬ Gives states settings e b) := by
  obtain ⟨s', hs, -⟩ := interfaceAddress_runsTo_of_tables hstates htable s rfl
  refine ⟨_, s', hs, fun a => ?_, ?_⟩
  · simp only [List.findSome?_eq_some_iff, given?_eq_some_iff, given?_eq_none_iff]
  · simp only [List.findSome?_eq_none_iff, given?_eq_none_iff]

def tablesOnly (states : List (String × Bool))
    (table : List (String × List (EntryFamily × String))) : OperatingSystem where
  interfaceStates _ := .ok states
  interfaceAddresses _ := .ok table
  hostName _ := .error { kind := .os }
  hostByName _ _ := .error { kind := .nameUnresolved }
  connect _ _ _ _ := .error { kind := .os }
  localEnd _ := .error { kind := .os }
  hostByAddress _ _ := .error { kind := .hostUnknown }
  addressInfo _ _ := .error { kind := .nameUnresolved }

/-- In front of the entry that counts stand one of a loopback interface, one of a virtual machine,
one of an interface without a known state, and, on the same interface, a hardware address, a text
that is no address and an address of the other family. -/
theorem interfaceAddress_last_entry :
    let states := [("lo", true), ("VBox HOST-ONLY", true), ("eth0", true)]
    let table := [("lo", [(EntryFamily.inet, "127.0.0.1")]),
      ("VBox HOST-ONLY", [(.inet, "192.168.56.1")]), ("eth1", [(.inet, "10.9.9.9")]),
      ("eth0", [(.other, "02:42:ac:11:00:02"), (.inet, "10.0.0"), (.inet6, "fe80::1%eth0"),
        (.inet, "10.1.2.3")])]
    let os := tablesOnly states table
    os.interfaceStates [] = .ok states ∧
      os.interfaceAddresses [.interfaceStates] = .ok table ∧
      ∃ s', interfaceAddress os.backend {} {} =
        (.ok (some { address := "10.1.2.3", version := .v4 }), s') := by
  intro states table os
  have hstates : os.interfaceStates [] = .ok states := rfl
  have htable : os.interfaceAddresses [.interfaceStates] = .ok table := rfl
  obtain ⟨found, s', hs, hfirst, -⟩ := interfaceAddress_first_entry os {} {} hstates htable
  have hfound : found = some { address := "10.1.2.3", version := .v4 } := by
    refine (hfirst _).mpr ⟨(entriesOf table).take 6, ("eth0", .inet, "10.1.2.3"), [], rfl,
      given?_eq_some_iff.mp (by decide +kernel), ?_⟩
    have hearlier : ∀ e ∈ (entriesOf table).take 6, given? states {} e = none := by
      decide +kernel
    intro e he b hb
    exact absurd (given?_eq_some_iff.mpr hb) (by simp [hearlier e he])
  exact ⟨hstates, htable, s', hfound ▸ hs⟩

end HostDiscovery.Strategy
