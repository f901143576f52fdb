import HostDiscovery.Resolver.Basic
import HostDiscovery.Proofs.Resolver.TableSearch
import Mathlib.Data.List.Basic
import Mathlib.Data.List.Induction

/-! The addresses of a host as the operating system answers them. One text that is no address makes
the whole answer a failure; otherwise every address is given once, where it first occurs. -/
namespace HostDiscovery

lemma eraseDups_append_singleton (addresses : List NetworkAddress) (a : NetworkAddress) :
    (addresses ++ [a]).eraseDups =
      if a ∈ addresses then addresses.eraseDups else addresses.eraseDups ++ [a] := by
  rw [List.eraseDups_append]
  split_ifs with ha
  · simp [List.removeAll, ha]
  · simp [List.removeAll, ha, List.eraseDups_cons]

structure FirstOccurrences (addresses kept : List NetworkAddress) : Prop where
  dropped : kept = addresses.eraseDups
  nodup : kept.Nodup
  mem_iff : ∀ a, a ∈ kept ↔ a ∈ addresses
  order : kept.Pairwise fun a b => addresses.idxOf a < addresses.idxOf b

lemma pairwise_idxOf_eraseDups (addresses : List NetworkAddress) :
    addresses.eraseDups.Pairwise fun a b => addresses.idxOf a < addresses.idxOf b := by
  induction addresses using List.reverseRecOn with
  | nil => simp
  | append_singleton addresses a ih =>
    have hindex : ∀ b ∈ addresses.eraseDups,
        (addresses ++ [a]).idxOf b = addresses.idxOf b := by
      intro b hb
      exact List.idxOf_append_of_mem (List.mem_eraseDups.mp hb)
    have hpairs : addresses.eraseDups.Pairwise fun b c =>
        (addresses ++ [a]).idxOf b < (addresses ++ [a]).idxOf c := by
      refine ih.imp_of_mem fun hb hc hlt => ?_
      rwa [hindex _ hb, hindex _ hc]
    rw [eraseDups_append_singleton]
    split_ifs with ha
    · exact hpairs
    · have hlast : (addresses ++ [a]).idxOf a = addresses.length := by
        rw [List.idxOf_append_of_notMem ha]
        simp
      refine List.pairwise_append.mpr ⟨hpairs, List.pairwise_singleton _ a, fun b hb c hc => ?_⟩
      obtain rfl := List.mem_singleton.mp hc
      have hmem := List.mem_eraseDups.mp hb
      rw [hindex b hb, hlast]
      exact List.idxOf_lt_length_iff.mpr hmem

lemma firstOccurrences_eraseDups (addresses : List NetworkAddress) :
    FirstOccurrences addresses addresses.eraseDups where
  dropped := rfl
  nodup := by
    refine (pairwise_idxOf_eraseDups addresses).imp fun hlt heq => ?_
    rw [heq] at hlt
    exact Nat.lt_irrefl _ hlt
  mem_iff _ := List.mem_eraseDups
  order := pairwise_idxOf_eraseDups addresses

namespace OperatingSystem

/-- While addresses are gone through, those kept so far are the earlier ones without repeats. -/
lemma distinctFrom_eraseDups (before rest : List NetworkAddress) :
    distinctFrom before.eraseDups rest = (before ++ rest).eraseDups := by
  induction rest generalizing before with
  | nil => simp [distinctFrom]
  | cons a rest ih =>
    have hstep : (if before.eraseDups.contains a then before.eraseDups
        else before.eraseDups ++ [a]) = (before ++ [a]).eraseDups := by
      simp [eraseDups_append_singleton]
    rw [distinctFrom, hstep, ih, List.append_assoc, List.singleton_append]

lemma distinct_eq_eraseDups (addresses : List NetworkAddress) :
    distinct addresses = addresses.eraseDups := distinctFrom_eraseDups [] addresses

lemma parseAll_cons (text : String) (texts : List String) :
    parseAll (text :: texts) = (NetworkAddress.parse text).bind fun a =>
      (parseAll texts).map fun rest => a :: rest := by
  rw [parseAll, List.mapM_cons]
  cases NetworkAddress.parse text with
  | error f => rfl
  | ok a =>
    cases hrest : parseAll texts <;> rw [parseAll] at hrest <;>
      simp [bind, Except.bind, pure, Except.pure, Except.map, hrest]

lemma parseAll_eq_ok_iff {texts : List String} {addresses : List NetworkAddress} :
    parseAll texts = .ok addresses ↔
      List.Forall₂ (fun text a => NetworkAddress.parse text = .ok a) texts addresses := by
  induction texts generalizing addresses with
  | nil => cases addresses <;> simp [parseAll, pure, Except.pure]
  | cons text texts ih =>
    rw [parseAll_cons]
    cases htext : NetworkAddress.parse text with
    | error f => cases addresses <;> simp [Except.bind, htext]
    | ok a =>
      cases hrest : parseAll texts with
      | error f => cases addresses <;> simp [Except.bind, Except.map, htext, ← ih, hrest]
      | ok rest => cases addresses <;> simp [Except.bind, Except.map, htext, ← ih, hrest]

lemma exists_of_parseAll_error {texts : List String} {f : Failure}
    (h : parseAll texts = .error f) : ∃ text ∈ texts, NetworkAddress.parse text = .error f := by
  induction texts with
  | nil => cases h
  | cons text texts ih =>
    rw [parseAll_cons] at h
    cases htext : NetworkAddress.parse text with
    | error g =>
      rw [htext] at h
      obtain rfl := Except.error.inj h
      exact ⟨text, by simp, htext⟩
    | ok a =>
      cases hrest : parseAll texts with
      | error g =>
        rw [htext, hrest] at h
        obtain rfl := Except.error.inj h
        obtain ⟨bad, hmem, hbad⟩ := ih hrest
        exact ⟨bad, List.mem_cons_of_mem text hmem, hbad⟩
      | ok rest =>
        rw [htext, hrest] at h
        cases h

lemma addressesFor_apply (os : OperatingSystem) (host : String) (h : List Event) :
    os.addressesFor host h =
      ((os.addressInfo host h).bind fun texts => (parseAll texts).map distinct,
        [.addressInfo host]) := by
  change Query.bind (Query.ask _ _) (fun texts => Query.bind (Query.ofExcept (parseAll texts))
    fun addresses => Query.ofExcept (.ok (distinct addresses))) h = _
  rw [Query.bind, Query.ask]
  cases os.addressInfo host h with
  | error f => rfl
  | ok texts =>
    cases hparse : parseAll texts <;>
      simp [Query.bind, Query.ofExcept, hparse, Except.bind, Except.map]

end OperatingSystem

lemma NetworkAddress.isSystemOrValue_of_parse {text : String} {f : Failure}
    (h : parse text = .error f) : f.isSystemOrValue = true := by
  unfold parse at h
  split at h
  split at h
  · cases h
  · rw [← Except.error.inj h]
    rfl

namespace Resolver

open OperatingSystem

def afterLookup (s : Session) (host : String) (records : List LogRecord) : Session :=
  { s with events := s.events ++ [.addressInfo host], records := s.records ++ records }

def lookupWarning (host : String) (f : Failure) : LogRecord where
  level := .warning
  logger := logger
  message := s!"Error while resolving addresses for {host}: {f.message}"

variable {os : OperatingSystem} {settings : Settings} {host : String} {s : Session}

lemma attempt_addressesFor (os : OperatingSystem) (host : String) (s : Session) :
    ((Act.query (os.addressesFor host)).attempt : Act Failure _) s =
      (.ok (os.addressesFor host s.events).1, afterLookup s host []) := by
  simp [Act.attempt, Act.query, addressesFor_apply, afterLookup]

lemma addressesFor_of_ok {found : List NetworkAddress}
    (h : (os.addressesFor host s.events).1 = .ok found) :
    addressesFor { settings, network := os.backend } host s =
      (.ok found, afterLookup s host []) := by
  refine (Act.bind_of_ok (attempt_addressesFor os host s)).trans ?_
  rw [h]
  rfl

lemma addressesFor_of_error {f : Failure} (h : (os.addressesFor host s.events).1 = .error f)
    (survivable : f.isSystemOrValue = true) :
    addressesFor { settings, network := os.backend } host s =
      (.ok [], afterLookup s host [lookupWarning host f]) := by
  refine (Act.bind_of_ok (attempt_addressesFor os host s)).trans ?_
  rw [h]
  dsimp only
  rw [if_pos survivable]
  simp [Act.log, bind, Act.bind, pure, Act.pure, afterLookup, lookupWarning]

/-- A host has the addresses of the answer, each at its first occurrence, if every text of it is
one. If some text is none, or the lookup fails in a way that is survived, it has no addresses and
there is one warning. -/
theorem addressesFor_first_occurrences (os : OperatingSystem) (settings : Settings) (host : String)
    (s : Session) :
    (∀ texts addresses, os.addressInfo host s.events = .ok texts →
        List.Forall₂ (fun text a => NetworkAddress.parse text = .ok a) texts addresses →
        ∃ kept, FirstOccurrences addresses kept ∧
          addressesFor { settings, network := os.backend } host s =
            (.ok kept, afterLookup s host [])) ∧
      (∀ texts, os.addressInfo host s.events = .ok texts →
        (∃ text ∈ texts, ∀ a, NetworkAddress.parse text ≠ .ok a) →
        ∃ f, (∃ text ∈ texts, NetworkAddress.parse text = .error f) ∧
          addressesFor { settings, network := os.backend } host s =
            (.ok [], afterLookup s host [lookupWarning host f])) ∧
      ∀ f, os.addressInfo host s.events = .error f → f.isSystemOrValue = true →
        addressesFor { settings, network := os.backend } host s =
          (.ok [], afterLookup s host [lookupWarning host f]) := by
  refine ⟨fun texts addresses answer all => ?_, fun texts answer bad => ?_,
    fun f answer survivable => ?_⟩
  · have hparse := parseAll_eq_ok_iff.mpr all
    have hfound : (os.addressesFor host s.events).1 = .ok addresses.eraseDups := by
      rw [addressesFor_apply, answer, ← distinct_eq_eraseDups]
      simp [Except.bind, Except.map, hparse]
    exact ⟨_, firstOccurrences_eraseDups addresses, addressesFor_of_ok hfound⟩
  · obtain ⟨text, hmem, hbad⟩ := bad
    cases hparse : parseAll texts with
    | ok addresses =>
      have hall := parseAll_eq_ok_iff.mp hparse
      obtain ⟨a, -, ha⟩ := NumericAddress.exists_of_mem_of_forall₂ hall hmem
      exact absurd ha (hbad a)
    | error f =>
      obtain ⟨first, hfirst, hf⟩ := exists_of_parseAll_error hparse
      have hsurvivable := NetworkAddress.isSystemOrValue_of_parse hf
      have hfails : (os.addressesFor host s.events).1 = .error f := by
        rw [addressesFor_apply, answer]
        simp [Except.bind, Except.map, hparse]
      exact ⟨f, ⟨first, hfirst, hf⟩, addressesFor_of_error hfails hsurvivable⟩
  · have hfails : (os.addressesFor host s.events).1 = .error f := by
      rw [addressesFor_apply, answer]
      rfl
    exact addressesFor_of_error hfails survivable

/-- Other spellings of an address are repeats of it, and the same address in a zone is none. -/
theorem addressesFor_other_spellings :
    let texts := ["10.0.0.1", "0:0::1", "10.0.0.1", "::1", "::1%lo"]
    let os := { Strategy.tablesOnly [] [] with addressInfo := fun _ _ => .ok texts }
    addressesFor { network := os.backend } "host" {} =
      (.ok [{ address := "10.0.0.1", version := .v4 }, { address := "::1", version := .v6 },
        { address := "::1", version := .v6, zone := some "lo" }], afterLookup {} "host" []) := by
  intro texts os
  have hall : parseAll texts = .ok [{ address := "10.0.0.1", version := .v4 },
      { address := "::1", version := .v6 }, { address := "10.0.0.1", version := .v4 },
      { address := "::1", version := .v6 },
      { address := "::1", version := .v6, zone := some "lo" }] := by
    decide +kernel
  obtain ⟨hfirst, -⟩ := addressesFor_first_occurrences os {} "host" {}
  obtain ⟨kept, hkept, hrun⟩ := hfirst texts _ rfl (parseAll_eq_ok_iff.mp hall)
  rw [hrun, hkept.dropped]
  refine congrArg (fun kept => (Except.ok kept, afterLookup {} "host" [])) ?_
  decide +kernel

end Resolver

end HostDiscovery
