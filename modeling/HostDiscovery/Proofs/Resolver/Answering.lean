import HostDiscovery.Resolver.Basic
import HostDiscovery.Proofs.Network.Calls
import HostDiscovery.Proofs.Session
import Mathlib.Tactic.SplitIfs

/-! The searches of the resolver over any backend, whatever it answers and however it fails. They
always come to an answer, and its text is one that the backend gave or one of last resort. -/
namespace HostDiscovery

namespace NetworkBackend

structure AddressesSatisfy (b : NetworkBackend) (P : NetworkAddress → Prop) : Prop where
  interfaces {h : List Event} {found : List Interface} :
    (b.interfaces h).1 = .ok found → ∀ i ∈ found, ∀ a ∈ i.addresses, P a
  localHostAddress {h : List Event} {a : NetworkAddress} : (b.localHostAddress h).1 = .ok a → P a
  probe {host : String} {port : Int} {timeout : Float} {h : List Event} {a : NetworkAddress} :
    (b.probe host port timeout h).1 = .ok a → P a

structure NamesSatisfy (b : NetworkBackend) (P : String → Prop) : Prop where
  localHostName {h : List Event} {name : String} :
    (b.localHostName h).1 = .ok (some name) → P name
  reverseLookup {a : NetworkAddress} {h : List Event} {name : String} :
    (b.reverseLookup a h).1 = .ok name → P name

lemma AnswersParsed.addressesSatisfy {b : NetworkBackend} (hb : b.AnswersParsed) :
    b.AddressesSatisfy NetworkAddress.IsParsed :=
  ⟨hb.interfaces, hb.localHostAddress, hb.probe⟩

lemma AddressesSatisfy.imp {b : NetworkBackend} {P Q : NetworkAddress → Prop}
    (hb : b.AddressesSatisfy P) (himp : ∀ a, P a → Q a) : b.AddressesSatisfy Q where
  interfaces hfound i hi a ha := himp a (hb.interfaces hfound i hi a ha)
  localHostAddress ha := himp _ (hb.localHostAddress ha)
  probe ha := himp _ (hb.probe ha)

end NetworkBackend

namespace Strategy

variable {b : NetworkBackend} {settings : Settings} {P : NetworkAddress → Prop}
  {Q : String → Prop}

def Finds {α : Type} (P : α → Prop) (act : Act Failure (Option α)) : Prop :=
  act.Ensures fun found => ∀ a ∈ found, P a

lemma mem_of_firstAccepted {addresses : List NetworkAddress} {a : NetworkAddress}
    (h : firstAccepted settings addresses = .ok (some a)) : a ∈ addresses := by
  induction addresses with
  | nil => cases h
  | cons first rest ih =>
    rw [firstAccepted] at h
    split at h
    · cases h
    · split_ifs at h
      · obtain rfl := Option.some.inj (Except.ok.inj h)
        exact List.mem_cons_self
      · exact List.mem_cons_of_mem _ (ih h)

lemma exists_mem_of_firstEligible {found : List Interface} {a : NetworkAddress}
    (h : firstEligible settings found = .ok (some a)) : ∃ i ∈ found, a ∈ i.addresses := by
  induction found with
  | nil => cases h
  | cons first rest ih =>
    have hlater : firstEligible settings rest = .ok (some a) →
        ∃ i ∈ first :: rest, a ∈ i.addresses := fun h =>
      let ⟨i, hi, ha⟩ := ih h
      ⟨i, List.mem_cons_of_mem _ hi, ha⟩
    rw [firstEligible] at h
    split_ifs at h
    · split at h
      · cases h
      · obtain rfl := Option.some.inj (Except.ok.inj h)
        exact ⟨first, List.mem_cons_self, mem_of_firstAccepted ‹_›⟩
      · exact hlater h
    · exact hlater h

lemma finds_interfaceAddress (hb : b.AddressesSatisfy P) :
    Finds P (interfaceAddress b settings) := by
  have hquery : (Act.query b.interfaces).Ensures fun found =>
      ∀ i ∈ found, ∀ a ∈ i.addresses, P a :=
    Act.ensures_query fun _ _ hfound => hb.interfaces hfound
  refine hquery.bind fun found hfound => Act.ensures_ofExcept ?_
  rintro _ heligible a rfl
  obtain ⟨i, hi, ha⟩ := exists_mem_of_firstEligible heligible
  exact hfound i hi a ha

lemma finds_hostNameAddress (hb : b.AddressesSatisfy P) :
    Finds P (hostNameAddress b) := by
  have hquery : (Act.query b.localHostAddress).Ensures P :=
    Act.ensures_query fun _ _ ha => hb.localHostAddress ha
  refine hquery.bind fun a ha => ?_
  refine (Act.ensures_trivial _).bind fun loopback _ => Act.ensures_pure ?_
  split_ifs
  · exact fun _ h => nomatch h
  · rintro _ ⟨⟩
    exact ha

lemma finds_probeFrom (hb : b.AddressesSatisfy P) (hosts : List String) :
    Finds P (probeFrom b settings hosts) := by
  induction hosts with
  | nil => exact Act.ensures_pure fun _ h => nomatch h
  | cons host rest ih =>
    have hquery : (Act.query (b.probe host settings.probePort settings.probeTimeout)).Ensures P :=
      Act.ensures_query fun _ _ ha => hb.probe ha
    refine hquery.attempt_yields.ensures.bind fun answer hanswer => ?_
    cases answer with
    | ok a =>
      refine Act.ensures_pure ?_
      rintro _ ⟨⟩
      exact hanswer a rfl
    | error f =>
      dsimp only
      split_ifs
      · exact (Act.ensures_trivial _).bind fun _ _ => ih
      · exact Act.ensures_fail f

lemma finds_reportedHostName (hb : b.NamesSatisfy Q) : Finds Q (reportedHostName b) := by
  have hquery : (Act.query b.localHostName).Ensures fun reported => ∀ name ∈ reported, Q name := by
    refine Act.ensures_query ?_
    rintro h _ hname name rfl
    exact hb.localHostName hname
  refine hquery.bind fun reported hreported => Act.ensures_pure fun name hname => ?_
  obtain ⟨hname, -⟩ := Option.filter_eq_some_iff.mp hname
  exact hreported name hname

/-- A name that is found by a probe may be the text of the address that the probe came to. -/
lemma finds_probedHostName (ha : b.AddressesSatisfy fun a => Q a.address)
    (hb : b.NamesSatisfy Q) : Finds Q (probedHostName b settings) := by
  have hprobed : Finds (fun a => Q a.address) (probeFrom b settings settings.probeHosts) :=
    finds_probeFrom ha settings.probeHosts
  refine hprobed.bind fun found hfound => ?_
  cases found with
  | none => exact Act.ensures_pure fun _ h => nomatch h
  | some a =>
    have hquery : (Act.query (b.reverseLookup a)).Ensures Q :=
      Act.ensures_query fun _ _ hname => hb.reverseLookup hname
    refine hquery.attempt_yields.ensures.bind fun answer hanswer => ?_
    cases answer with
    | ok name =>
      refine Act.ensures_pure ?_
      rintro _ ⟨⟩
      exact hanswer name rfl
    | error f =>
      dsimp only
      split_ifs
      · refine (Act.ensures_trivial _).bind fun _ _ => Act.ensures_pure ?_
        rintro _ ⟨⟩
        exact hfound a rfl
      · exact Act.ensures_fail f

lemma firstResult_yields {ε α : Type} {describe : α → String} {R : α → Prop}
    {strategies : List (Strategy α)} (hs : ∀ strategy ∈ strategies, Finds R strategy.run) :
    (firstResult describe strategies : Act ε (Option α)).Yields fun found => ∀ a ∈ found, R a := by
  induction strategies with
  | nil => exact Act.yields_pure fun _ h => nomatch h
  | cons strategy rest ih =>
    obtain ⟨hrun, hrest⟩ := List.forall_mem_cons.mp hs
    refine hrun.attempt_yields.bind fun outcome houtcome => ?_
    cases outcome with
    | error f =>
      exact (Act.yields_log _ _ _).bind fun _ _ => (Act.yields_logDetails _ _ _).bind fun _ _ =>
        ih hrest
    | ok found =>
      cases found with
      | none => exact ih hrest
      | some a =>
        have ha : R a := houtcome _ rfl a rfl
        refine (Act.yields_log _ _ _).bind fun _ _ => Act.yields_pure ?_
        rintro _ ⟨⟩
        exact ha

end Strategy

lemma Settings.readOrDefault_yields {ε : Type} (env : Environment) :
    (readOrDefault env : Act ε Settings).Yields fun _ => True := by
  refine (Act.ensures_trivial (read env)).attempt_yields.bind fun answer _ => ?_
  cases answer with
  | ok settings => exact Act.yields_pure trivial
  | error fault => exact (Act.yields_log _ _ _).bind fun _ _ => Act.yields_pure trivial

namespace Resolver

open Strategy

lemma localAddress_yields {r : Resolver} {P : NetworkAddress → Prop}
    (hb : r.network.AddressesSatisfy P)
    (hlast : P { address := Defaults.loopbackAddress, version := .v4 }) :
    r.localAddress.Yields P := by
  have hsearch : (firstResult NetworkAddress.address (forAddress r.network r.settings) :
      Act Failure (Option NetworkAddress)).Yields fun found => ∀ a ∈ found, P a := by
    refine firstResult_yields ?_
    simp only [forAddress, List.forall_mem_cons]
    exact ⟨finds_interfaceAddress hb, finds_hostNameAddress hb, finds_probeFrom hb _,
      List.forall_mem_nil _⟩
  have hparse : NetworkAddress.parse Defaults.loopbackAddress =
      .ok { address := Defaults.loopbackAddress, version := .v4 } := rfl
  refine hsearch.bind fun found hfound => ?_
  cases found with
  | some a => exact Act.yields_pure (hfound a rfl)
  | none =>
    refine (Act.yields_log _ _ _).bind fun _ _ => ?_
    rw [hparse]
    exact Act.yields_pure hlast

lemma localHostName_yields {r : Resolver} {Q : String → Prop}
    (ha : r.network.AddressesSatisfy fun a => Q a.address) (hb : r.network.NamesSatisfy Q)
    (hlast : Q Defaults.localHostName) : r.localHostName.Yields Q := by
  have hsearch : (firstResult id (forHostName r.network r.settings) :
      Act Failure (Option String)).Yields fun found => ∀ name ∈ found, Q name := by
    refine firstResult_yields ?_
    simp only [forHostName, List.forall_mem_cons]
    exact ⟨finds_reportedHostName hb, finds_probedHostName ha hb, List.forall_mem_nil _⟩
  refine hsearch.bind fun found hfound => ?_
  cases found with
  | some name => exact Act.yields_pure (hfound name rfl)
  | none => exact (Act.yields_log _ _ _).bind fun _ _ => Act.yields_pure hlast

lemma ofEnvironment_yields {ε : Type} (env : Environment) (b : NetworkBackend) :
    (ofEnvironment env b : Act ε Resolver).Yields fun r => r.network = b :=
  (Settings.readOrDefault_yields env).bind fun _ _ => Act.yields_pure rfl

end Resolver

end HostDiscovery
