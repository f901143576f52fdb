import HostDiscovery.Resolver.Basic
import HostDiscovery.Proofs.Resolver.Probing
import HostDiscovery.Proofs.Resolver.Search

/-! The search for a host name over any settings and any backend that keeps to its contract. The
name that the machine reports comes first, and then the name of the address that the probes show,
or the text of that address. -/
namespace HostDiscovery

/-- Every call gives an answer, or a failure of the system or about a value. -/
structure NetworkBackend.KeepsContract (b : NetworkBackend) : Prop where
  interfaces {h : List Event} {f : Failure} :
    (b.interfaces h).1 = .error f → f.isSystemOrValue = true
  localHostName {h : List Event} {f : Failure} :
    (b.localHostName h).1 = .error f → f.isSystemOrValue = true
  localHostAddress {h : List Event} {f : Failure} :
    (b.localHostAddress h).1 = .error f → f.isSystemOrValue = true
  probe {host : String} {port : Int} {timeout : Float} {h : List Event} {f : Failure} :
    (b.probe host port timeout h).1 = .error f → f.isSystemOrValue = true
  reverseLookup {a : NetworkAddress} {h : List Event} {f : Failure} :
    (b.reverseLookup a h).1 = .error f → f.isSystemOrValue = true
  addressesFor {host : String} {h : List Event} {f : Failure} :
    (b.addressesFor host h).1 = .error f → f.isSystemOrValue = true

namespace Strategy

/-- A name that tells the machine apart from others. -/
def Telling (name : String) : Prop := name ≠ "" ∧ name ≠ Defaults.localHostName

instance : DecidablePred Telling := fun _ => inferInstanceAs (Decidable (_ ∧ _))

def nameFor (a : NetworkAddress) : Except Failure String → Except Failure (Option String)
  | .ok name => .ok (some name)
  | .error f => if f.kind.isSystem || f.kind.isUnicode then .ok (some a.address) else .error f

variable {b : NetworkBackend} {settings : Settings} {h h' : List Event}

lemma reportedHostName_runsTo (b : NetworkBackend) (h : List Event) :
    (reportedHostName b).RunsTo h
      ((b.localHostName h).1.map fun reported => reported.filter fun name => Telling name)
      (b.historyAfter h [.localHostName]) := by
  have htelling : (fun name => decide (Telling name)) =
      fun name : String => !name.isEmpty && name ≠ Defaults.localHostName := by
    funext name
    rw [Bool.eq_iff_iff, decide_eq_true_eq]
    simp [Telling]
  have hq := Act.runsTo_query b.localHostName h
  rw [htelling]
  cases hname : (b.localHostName h).1 with
  | error f =>
    rw [hname] at hq
    exact hq.bind_error
  | ok reported =>
    rw [hname] at hq
    exact hq.bind (Act.runsTo_pure _ _)

lemma probedHostName_runsTo_of_reached {a : NetworkAddress}
    (hp : (probedAddress b settings).RunsTo h (.ok (some a)) h') :
    (probedHostName b settings).RunsTo h (nameFor a (b.reverseLookup a h').1)
      (b.historyAfter h' [.reverseLookup a]) := by
  have hq := Act.runsTo_query (b.reverseLookup a) h'
  refine hp.bind ?_
  cases hname : (b.reverseLookup a h').1 with
  | ok name =>
    rw [hname] at hq
    exact hq.attempt.bind (Act.runsTo_pure _ _)
  | error f =>
    rw [hname] at hq
    refine hq.attempt.bind ?_
    dsimp only [nameFor]
    split_ifs with hf
    · exact (Act.runsTo_log _ _ _ _).bind (Act.runsTo_pure _ _)
    · exact Act.runsTo_fail f _

lemma probedHostName_runsTo_of_none (hp : (probedAddress b settings).RunsTo h (.ok none) h') :
    (probedHostName b settings).RunsTo h (.ok none) h' :=
  hp.bind (Act.runsTo_pure _ _)

lemma Probing.cases_of_keepsContract (hb : b.KeepsContract)
    {r : Except Failure (Option NetworkAddress)} {calls : List Call}
    (hp : Probing b settings h r calls) :
    (∃ a, r = .ok (some a)) ∨
      (r = .ok none ∧ calls = probeCalls settings settings.probeHosts.length ∧
        Unreachable b settings h settings.probeHosts.length) := by
  cases hp with
  | reached => exact .inl ⟨_, rfl⟩
  | broken before answer other =>
    obtain ⟨host, -, hfails⟩ := Option.map_eq_some_iff.mp answer
    exact absurd (hb.probe hfails) (by simp [other])
  | exhausted all => exact .inr ⟨rfl, rfl, all⟩

end Strategy

namespace Resolver

open Strategy

section

variable (b : NetworkBackend) (settings : Settings) (h : List Event)

def NoReportedName : Prop :=
  ∀ name, (b.localHostName h).1 = .ok (some name) → ¬ Telling name

/-- Which name the search should end with, and the calls on the backend that it should take. -/
inductive Naming : String → List Call → Prop
  | reported {name : String} (answer : (b.localHostName h).1 = .ok (some name))
      (telling : Telling name) :
      Naming name [.localHostName]
  | mapped {a : NetworkAddress} {name : String} {calls : List Call}
      (unreported : NoReportedName b h)
      (probes : Probing b settings (b.historyAfter h [.localHostName]) (.ok (some a)) calls)
      (lookup : (b.reverseLookup a (b.historyAfter h (.localHostName :: calls))).1 = .ok name) :
      Naming name (.localHostName :: calls ++ [.reverseLookup a])
  | unmapped {a : NetworkAddress} {f : Failure} {calls : List Call}
      (unreported : NoReportedName b h)
      (probes : Probing b settings (b.historyAfter h [.localHostName]) (.ok (some a)) calls)
      (lookup : (b.reverseLookup a (b.historyAfter h (.localHostName :: calls))).1 = .error f) :
      Naming a.address (.localHostName :: calls ++ [.reverseLookup a])
  | lastResort (unreported : NoReportedName b h)
      (unreachable : Unreachable b settings (b.historyAfter h [.localHostName])
        settings.probeHosts.length) :
      Naming Defaults.localHostName
        (.localHostName :: probeCalls settings settings.probeHosts.length)

/-- The search comes to an address, and the reverse look-up of it fails with a failure that is
neither one of the system nor about a text that cannot be encoded. -/
structure Lost (a : NetworkAddress) (calls : List Call) (f : Failure) : Prop where
  unreported : NoReportedName b h
  probes : Probing b settings (b.historyAfter h [.localHostName]) (.ok (some a)) calls
  lookup : (b.reverseLookup a (b.historyAfter h (.localHostName :: calls))).1 = .error f
  other : (f.kind.isSystem || f.kind.isUnicode) = false

/-- An address is lost, and its text is not the name of last resort. -/
def LosesAddress : Prop :=
  ∃ a calls f, Lost b settings h a calls f ∧ a.address ≠ Defaults.localHostName

/-- What the search ends with, and the calls that it takes: it ends as it should where no address is
lost, and with the name of last resort where one is. -/
inductive Ending : String → List Call → Prop
  | kept {name : String} {calls : List Call} (naming : Naming b settings h name calls)
      (nothing : ∀ a more f, ¬ Lost b settings h a more f) :
      Ending name calls
  | lost {a : NetworkAddress} {calls : List Call} {f : Failure}
      (loss : Lost b settings h a calls f) :
      Ending Defaults.localHostName (.localHostName :: calls ++ [.reverseLookup a])

end

variable {b : NetworkBackend} {settings : Settings} {h : List Event} {a : NetworkAddress}
  {calls : List Call}

lemma reportedHostName_runsTo_of_telling {name : String}
    (hname : (b.localHostName h).1 = .ok (some name)) (htelling : Telling name) :
    (reportedHostName b).RunsTo h (.ok (some name)) (b.historyAfter h [.localHostName]) := by
  have hkept : (some name).filter (fun name => decide (Telling name)) = some name :=
    Option.filter_eq_some_iff.mpr ⟨rfl, decide_eq_true htelling⟩
  have hrun := reportedHostName_runsTo b h
  rwa [hname, Except.map, hkept] at hrun

lemma reportedHostName_runsTo_of_unreported (hn : NoReportedName b h) :
    ∃ r, (∀ name, r ≠ .ok (some name)) ∧
      (reportedHostName b).RunsTo h r (b.historyAfter h [.localHostName]) := by
  refine ⟨_, ?_, reportedHostName_runsTo b h⟩
  intro name hr
  cases hanswer : (b.localHostName h).1 with
  | error f => simp [hanswer, Except.map] at hr
  | ok reported =>
    simp only [hanswer, Except.map, Except.ok.injEq, Option.filter_eq_some_iff] at hr
    obtain ⟨rfl, htelling⟩ := hr
    exact hn name hanswer (of_decide_eq_true htelling)

lemma Lost.eq_of_probing {x : NetworkAddress} {more : List Call} {f : Failure}
    (hl : Lost b settings h x more f)
    (hp : Probing b settings (b.historyAfter h [.localHostName]) (.ok (some a)) calls) :
    x = a ∧ more = calls := by
  obtain ⟨heq, hcalls⟩ := hl.probes.unique hp
  exact ⟨Option.some.inj (Except.ok.inj heq), hcalls⟩

lemma Naming.not_of_lost {f : Failure} (hl : Lost b settings h a calls f)
    (hne : a.address ≠ Defaults.localHostName) {more : List Call} :
    ¬ Naming b settings h Defaults.localHostName more := by
  intro hnaming
  generalize hname : Defaults.localHostName = name at hnaming
  cases hnaming with
  | reported answer telling => exact hl.unreported _ answer telling
  | mapped unreported probes lookup =>
    obtain ⟨rfl, rfl⟩ := hl.eq_of_probing probes
    cases hl.lookup.symm.trans lookup
  | unmapped unreported probes lookup =>
    obtain ⟨rfl, rfl⟩ := hl.eq_of_probing probes
    exact hne hname.symm
  | lastResort unreported unreachable =>
    cases (hl.probes.unique (.exhausted unreachable)).1

lemma historyAfter_localHostName_cons (b : NetworkBackend) (h : List Event) (calls : List Call) :
    b.historyAfter (b.historyAfter h [.localHostName]) calls =
      b.historyAfter h (.localHostName :: calls) := rfl

section

variable {r : Resolver} {name : String} {reported probed : Except Failure (Option String)}
  {h₁ h₂ : List Event}

lemma localHostName_runsTo_of_reported
    (hrun : (reportedHostName r.network).RunsTo h (.ok (some name)) h₁) :
    r.localHostName.RunsTo h (.ok name) h₁ := by
  have hsearch : (firstResult id (forHostName r.network r.settings) :
      Act Failure (Option String)).RunsTo h (.ok (some name)) h₁ := firstResult_runsTo_of_some hrun
  exact hsearch.bind (Act.runsTo_pure _ _)

lemma localHostName_runsTo_of_probed (hreported : ∀ name, reported ≠ .ok (some name))
    (hrun₁ : (reportedHostName r.network).RunsTo h reported h₁)
    (hrun₂ : (probedHostName r.network r.settings).RunsTo h₁ (.ok (some name)) h₂) :
    r.localHostName.RunsTo h (.ok name) h₂ := by
  have hsearch : (firstResult id (forHostName r.network r.settings) :
      Act Failure (Option String)).RunsTo h (.ok (some name)) h₂ :=
    firstResult_runsTo_of_none hrun₁ hreported (firstResult_runsTo_of_some hrun₂)
  exact hsearch.bind (Act.runsTo_pure _ _)

lemma localHostName_runsTo_of_neither (hreported : ∀ name, reported ≠ .ok (some name))
    (hprobed : ∀ name, probed ≠ .ok (some name))
    (hrun₁ : (reportedHostName r.network).RunsTo h reported h₁)
    (hrun₂ : (probedHostName r.network r.settings).RunsTo h₁ probed h₂) :
    r.localHostName.RunsTo h (.ok Defaults.localHostName) h₂ := by
  have hsearch : (firstResult id (forHostName r.network r.settings) :
      Act Failure (Option String)).RunsTo h (.ok none) h₂ :=
    firstResult_runsTo_of_none hrun₁ hreported <|
      firstResult_runsTo_of_none hrun₂ hprobed <| Act.runsTo_pure none _
  exact hsearch.bind ((Act.runsTo_log _ _ _ _).bind (Act.runsTo_pure _ _))

end

lemma exists_runsTo_of_reached {r : Resolver} (hn : NoReportedName r.network h)
    (hp : Probing r.network r.settings (r.network.historyAfter h [.localHostName])
      (.ok (some a)) calls)
    (hrun : (probedAddress r.network r.settings).RunsTo
      (r.network.historyAfter h [.localHostName]) (.ok (some a))
      (r.network.historyAfter (r.network.historyAfter h [.localHostName]) calls)) :
    ∃ name calls, r.localHostName.RunsTo h (.ok name) (r.network.historyAfter h calls) ∧
      Ending r.network r.settings h name calls := by
  obtain ⟨reported, hreported, hrun₁⟩ := reportedHostName_runsTo_of_unreported hn
  have hrun₂ := probedHostName_runsTo_of_reached hrun
  rw [historyAfter_localHostName_cons, ← NetworkBackend.historyAfter_append] at hrun₂
  cases hlookup : (r.network.reverseLookup a
      (r.network.historyAfter h (.localHostName :: calls))).1 with
  | ok name =>
    rw [hlookup] at hrun₂
    have hrun := localHostName_runsTo_of_probed hreported hrun₁ hrun₂
    have hnothing : ∀ x more f, ¬ Lost r.network r.settings h x more f := by
      intro x more f hl
      obtain ⟨rfl, rfl⟩ := hl.eq_of_probing hp
      cases hl.lookup.symm.trans hlookup
    exact ⟨name, _, hrun, .kept (.mapped hn hp hlookup) hnothing⟩
  | error f =>
    rw [hlookup, nameFor] at hrun₂
    by_cases hf : (f.kind.isSystem || f.kind.isUnicode) = true
    · rw [if_pos hf] at hrun₂
      have hrun := localHostName_runsTo_of_probed hreported hrun₁ hrun₂
      have hnothing : ∀ x more g, ¬ Lost r.network r.settings h x more g := by
        intro x more g hl
        obtain ⟨rfl, rfl⟩ := hl.eq_of_probing hp
        obtain rfl : g = f := Except.error.inj (hl.lookup.symm.trans hlookup)
        simp [hl.other] at hf
      exact ⟨a.address, _, hrun, .kept (.unmapped hn hp hlookup) hnothing⟩
    · rw [if_neg hf] at hrun₂
      have hrun := localHostName_runsTo_of_neither hreported (by simp) hrun₁ hrun₂
      have hother : (f.kind.isSystem || f.kind.isUnicode) = false := by simpa using hf
      exact ⟨_, _, hrun, .lost ⟨hn, hp, hlookup, hother⟩⟩

lemma exists_runsTo_of_unreachable {r : Resolver} (hn : NoReportedName r.network h)
    (hall : Unreachable r.network r.settings (r.network.historyAfter h [.localHostName])
      r.settings.probeHosts.length)
    (hrun : (probedAddress r.network r.settings).RunsTo
      (r.network.historyAfter h [.localHostName]) (.ok none)
      (r.network.historyAfter (r.network.historyAfter h [.localHostName])
        (probeCalls r.settings r.settings.probeHosts.length))) :
    ∃ name calls, r.localHostName.RunsTo h (.ok name) (r.network.historyAfter h calls) ∧
      Ending r.network r.settings h name calls := by
  obtain ⟨reported, hreported, hrun₁⟩ := reportedHostName_runsTo_of_unreported hn
  have hrun₂ := probedHostName_runsTo_of_none hrun
  rw [historyAfter_localHostName_cons] at hrun₂
  have hrun := localHostName_runsTo_of_neither hreported (by simp) hrun₁ hrun₂
  have hnothing : ∀ x more f, ¬ Lost r.network r.settings h x more f := by
    intro x more f hl
    cases (hl.probes.unique (.exhausted hall)).1
  exact ⟨_, _, hrun, .kept (.lastResort hn hall) hnothing⟩

lemma exists_localHostName_runsTo {r : Resolver} (hb : r.network.KeepsContract) (h : List Event) :
    ∃ name calls, r.localHostName.RunsTo h (.ok name) (r.network.historyAfter h calls) ∧
      Ending r.network r.settings h name calls := by
  by_cases hn : NoReportedName r.network h
  · obtain ⟨found, calls, hp, hrun⟩ := probedAddress_runsTo r.network r.settings
      (r.network.historyAfter h [.localHostName])
    rcases hp.cases_of_keepsContract hb with ⟨a, rfl⟩ | ⟨rfl, rfl, hall⟩
    · exact exists_runsTo_of_reached hn hp hrun
    · exact exists_runsTo_of_unreachable hn hall hrun
  · obtain ⟨name, hname, htelling⟩ : ∃ name, (r.network.localHostName h).1 = .ok (some name) ∧
        Telling name := by
      simpa [NoReportedName] using hn
    have hrun := localHostName_runsTo_of_reported
      (reportedHostName_runsTo_of_telling hname htelling)
    have hnothing : ∀ a more f, ¬ Lost r.network r.settings h a more f :=
      fun a more f hl => hn hl.unreported
    exact ⟨name, _, hrun, .kept (.reported hname htelling) hnothing⟩

/-- With a backend that keeps to its contract, the search for a host name never fails. It ends with
the name that it should end with, after the calls that it should make, exactly if no address is
lost; where one is, it ends with the name of last resort. -/
theorem localHostName_naming_iff (r : Resolver) (hb : r.network.KeepsContract) (s : Session) :
    ∃ name calls s', r.localHostName s = (.ok name, s') ∧
      s'.events = r.network.historyAfter s.events calls ∧
      (Naming r.network r.settings s.events name calls ↔
        ¬ LosesAddress r.network r.settings s.events) ∧
      (LosesAddress r.network r.settings s.events → name = Defaults.localHostName) := by
  obtain ⟨name, calls, hrun, hending⟩ := exists_localHostName_runsTo hb s.events
  obtain ⟨s', hs, he⟩ := hrun s rfl
  refine ⟨name, calls, s', hs, he, ?_⟩
  cases hending with
  | kept naming nothing =>
    have hkept : ¬ LosesAddress r.network r.settings s.events :=
      fun ⟨a, more, f, hl, _⟩ => nothing a more f hl
    exact ⟨iff_of_true naming hkept, fun hloses => absurd hloses hkept⟩
  | @lost a more f loss =>
    refine ⟨?_, fun _ => rfl⟩
    by_cases hname : a.address = Defaults.localHostName
    · have hnaming := Naming.unmapped loss.unreported loss.probes loss.lookup
      rw [hname] at hnaming
      refine iff_of_true hnaming ?_
      rintro ⟨x, more', g, hl, hne⟩
      obtain ⟨rfl, -⟩ := hl.eq_of_probing loss.probes
      exact hne hname
    · have hloses : LosesAddress r.network r.settings s.events := ⟨a, more, f, loss, hname⟩
      exact iff_of_false (Naming.not_of_lost loss hname) fun hkept => hkept hloses

def namelessMachine (answer : Except Failure String) : NetworkBackend where
  interfaces := Query.ask .interfaces fun _ => .ok []
  localHostName := Query.ask .localHostName fun _ => .ok (some Defaults.localHostName)
  localHostAddress := Query.ask .localHostAddress fun _ => .error { kind := .nameUnresolved }
  probe host port timeout := Query.ask (.probe host port timeout) fun _ =>
    .ok { address := "10.0.0.5", version := .v4 }
  reverseLookup a := Query.ask (.reverseLookup a.address) fun _ => answer
  addressesFor host := Query.ask (.addressesFor host) fun _ => .ok []

lemma namelessMachine_keepsContract {answer : Except Failure String}
    (ha : ∀ f, answer = .error f → f.isSystemOrValue = true) :
    (namelessMachine answer).KeepsContract where
  interfaces h := by cases h
  localHostName h := by cases h
  localHostAddress h := by
    cases h
    rfl
  probe h := by cases h
  reverseLookup h := ha _ h
  addressesFor h := by cases h

lemma namelessMachine_noReportedName {answer : Except Failure String} {h : List Event} :
    NoReportedName (namelessMachine answer) h := by
  intro name hname
  obtain rfl := Option.some.inj (Except.ok.inj hname)
  exact fun htelling => htelling.2 rfl

/-- An address that is mapped to no name is shown by its text. -/
theorem localHostName_naming_unmapped :
    let r : Resolver := { network := namelessMachine (.error { kind := .hostUnknown }) }
    r.network.KeepsContract ∧
      ∃ calls s', r.localHostName {} = (.ok "10.0.0.5", s') ∧
        Naming r.network r.settings [] "10.0.0.5" calls := by
  intro r
  have hb : r.network.KeepsContract := namelessMachine_keepsContract fun f hf => by
    cases hf
    rfl
  obtain ⟨name, calls, s', hs, -, hnaming, -⟩ := localHostName_naming_iff r hb {}
  have hname : (r.localHostName {}).1 = .ok "10.0.0.5" := rfl
  rw [hs] at hname
  obtain rfl := Except.ok.inj hname
  refine ⟨hb, calls, s', hs, hnaming.mpr ?_⟩
  rintro ⟨a, more, f, hl, -⟩
  obtain rfl := Except.error.inj hl.lookup
  exact absurd hl.other (by decide)

/-- A failure about a value in a reverse look-up, which the contract allows, loses the address. -/
theorem localHostName_value_failure :
    ¬ ∀ (r : Resolver) (s : Session), r.network.KeepsContract →
      ∃ name calls s', r.localHostName s = (.ok name, s') ∧
        Naming r.network r.settings s.events name calls := by
  intro h
  let r : Resolver := { network := namelessMachine (.error { kind := .value, message := "bad" }) }
  have hb : r.network.KeepsContract := namelessMachine_keepsContract fun f hf => by
    cases hf
    rfl
  obtain ⟨name, calls, s', hs, hnaming⟩ := h r {} hb
  have hname : (r.localHostName {}).1 = .ok Defaults.localHostName := rfl
  rw [hs] at hname
  obtain rfl := Except.ok.inj hname
  have hl : Lost r.network r.settings [] { address := "10.0.0.5", version := .v4 }
      (probeCalls r.settings 1) { kind := .value, message := "bad" } :=
    ⟨namelessMachine_noReportedName,
      .reached (fun k hk => absurd hk (Nat.not_lt_zero k)) rfl, rfl, rfl⟩
  exact Naming.not_of_lost hl (by decide) hnaming

end Resolver

end HostDiscovery
