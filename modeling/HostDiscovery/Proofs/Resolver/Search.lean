import HostDiscovery.Resolver.Strategy
import HostDiscovery.Proofs.Address.Written
import HostDiscovery.Proofs.Network.Calls
import HostDiscovery.Proofs.Session

/-! What each strategy for an address finds, and which calls it makes on the way. -/
namespace HostDiscovery

open Text

lemma NetworkAddress.IsParsed.exists_isLoopback {a : NetworkAddress} (h : a.IsParsed) :
    ∃ loopback, a.isLoopback = .ok loopback := by
  obtain ⟨s, hs⟩ := h
  obtain ⟨ip, -, rfl⟩ := NetworkAddress.exists_of_parse hs
  exact ⟨_, NetworkAddress.isLoopback_ofNumeric ip _⟩

lemma Text.includes_iff {part s : Text} : includes part s = true ↔ part <:+: s := by
  induction s with
  | nil => simp [includes, List.isEmpty_iff]
  | cons c s ih =>
    rw [includes, Bool.or_eq_true, ih, List.isPrefixOf_iff_prefix, List.infix_cons_iff]

namespace Strategy

def candidates (interfaces : List Interface) : List (Interface × NetworkAddress) :=
  interfaces.flatMap fun i => i.addresses.map fun a => (i, a)

/-- An address that other machines can use: on an interface that is up and not only for virtual
machines, not loopback, and of a family that the preferences do not exclude. -/
structure Eligible (settings : Settings) (c : Interface × NetworkAddress) : Prop where
  up : c.1.isUp = true
  unmarked : ¬ lower settings.hostOnlyMarker.toList <:+: lower c.1.displayName.toList
  external : c.2.isLoopback = .ok false
  ipv4 : settings.preferIpv4 = true → c.2.version = .v4
  ipv6 : settings.preferIpv6 = true → c.2.version = .v6

lemma accepts_iff {settings : Settings} {a : NetworkAddress} :
    accepts settings a = true ↔
      (settings.preferIpv4 = true → a.version = .v4) ∧
        (settings.preferIpv6 = true → a.version = .v6) := by
  cases hv : a.version <;> simp [accepts, hv]

lemma isUsable_iff {settings : Settings} {i : Interface} :
    isUsable settings i = true ↔
      i.isUp = true ∧ ¬ lower settings.hostOnlyMarker.toList <:+: lower i.displayName.toList := by
  rw [isUsable, Bool.and_eq_true, Bool.not_eq_true', ← Bool.not_eq_true, includes_iff]

lemma eligible_iff {settings : Settings} {c : Interface × NetworkAddress} :
    Eligible settings c ↔
      isUsable settings c.1 = true ∧ c.2.isLoopback = .ok false ∧ accepts settings c.2 = true := by
  rw [isUsable_iff, accepts_iff]
  exact ⟨fun h => ⟨⟨h.up, h.unmarked⟩, h.external, h.ipv4, h.ipv6⟩,
    fun ⟨⟨hu, hm⟩, he, h4, h6⟩ => ⟨hu, hm, he, h4, h6⟩⟩

instance (settings : Settings) : DecidablePred (Eligible settings) := fun c =>
  have : Decidable (c.2.isLoopback = .ok false) :=
    match h : c.2.isLoopback with
    | .ok false => .isTrue rfl
    | .ok true => .isFalse (by simp)
    | .error _ => .isFalse (by simp)
  decidable_of_iff _ eligible_iff.symm

lemma candidates_cons (i : Interface) (rest : List Interface) :
    candidates (i :: rest) = (i.addresses.map fun a => (i, a)) ++ candidates rest := rfl

lemma firstAccepted_eq {settings : Settings} {i : Interface} (hi : isUsable settings i = true)
    {addresses : List NetworkAddress} (hp : ∀ a ∈ addresses, a.IsParsed) :
    firstAccepted settings addresses = .ok
      (((addresses.map fun a => (i, a)).find? fun c => Eligible settings c).map Prod.snd) := by
  induction addresses with
  | nil => rfl
  | cons a rest ih =>
    obtain ⟨loopback, hl⟩ := (hp a (by simp)).exists_isLoopback
    have hrest := ih fun x hx => hp x (List.mem_cons_of_mem a hx)
    have hiff : Eligible settings (i, a) ↔ (!loopback && accepts settings a) = true := by
      rw [eligible_iff, hl, Except.ok.injEq, Bool.and_eq_true, Bool.not_eq_true']
      exact and_iff_right hi
    rw [firstAccepted, hl, List.map_cons, List.find?_cons]
    by_cases he : Eligible settings (i, a)
    · simp only [hiff.mp he, he, decide_true, if_true, Option.map_some]
    · simp only [mt hiff.mpr he, he, decide_false, hrest]
      rfl

lemma firstEligible_eq {settings : Settings} {found : List Interface}
    (hp : ∀ i ∈ found, ∀ a ∈ i.addresses, a.IsParsed) :
    firstEligible settings found = .ok
      (((candidates found).find? fun c => Eligible settings c).map Prod.snd) := by
  induction found with
  | nil => rfl
  | cons i rest ih =>
    have hrest := ih fun j hj => hp j (List.mem_cons_of_mem i hj)
    rw [firstEligible, candidates_cons, List.find?_append]
    by_cases hi : isUsable settings i = true
    · rw [if_pos hi, firstAccepted_eq hi (hp i (by simp))]
      cases (i.addresses.map fun a => (i, a)).find? fun c => Eligible settings c with
      | none => simpa using hrest
      | some c => rfl
    · have hnone :
          ((i.addresses.map fun a => (i, a)).find? fun c => Eligible settings c) = none := by
        rw [List.find?_eq_none]
        intro c hc
        obtain ⟨a, -, rfl⟩ := List.mem_map.mp hc
        have he : ¬ Eligible settings (i, a) := fun he => hi (eligible_iff.mp he).1
        simp [he]
      rw [if_neg hi, hrest, hnone]
      rfl

section

variable {b : NetworkBackend} {h h' h'' : List Event}

lemma interfaceAddress_runsTo (hb : b.AnswersParsed) (settings : Settings) (h : List Event) :
    (interfaceAddress b settings).RunsTo h
      ((b.interfaces h).1.map fun found =>
        ((candidates found).find? fun c => Eligible settings c).map Prod.snd)
      (b.historyAfter h [.interfaces]) := by
  have hq := Act.runsTo_query b.interfaces h
  cases hi : (b.interfaces h).1 with
  | error f =>
    rw [hi] at hq
    exact hq.bind_error
  | ok found =>
    rw [hi] at hq
    refine hq.bind ?_
    rw [firstEligible_eq (hb.interfaces hi)]
    exact Act.runsTo_ofExcept _ _

lemma hostNameAddress_runsTo_of_external {a : NetworkAddress}
    (ha : (b.localHostAddress h).1 = .ok a) (hl : a.isLoopback = .ok false) :
    (hostNameAddress b).RunsTo h (.ok (some a)) (b.historyAfter h [.localHostAddress]) := by
  have hq := Act.runsTo_query b.localHostAddress h
  rw [ha] at hq
  refine hq.bind ?_
  rw [hl]
  exact (Act.runsTo_ofExcept _ _).bind (Act.runsTo_pure _ _)

lemma hostNameAddress_runsTo_of_none (hb : b.AnswersParsed)
    (hn : ∀ a, (b.localHostAddress h).1 = .ok a → a.isLoopback ≠ .ok false) :
    ∃ r, (∀ a, r ≠ .ok (some a)) ∧
      (hostNameAddress b).RunsTo h r (b.historyAfter h [.localHostAddress]) := by
  have hq := Act.runsTo_query b.localHostAddress h
  cases ha : (b.localHostAddress h).1 with
  | error f =>
    rw [ha] at hq
    exact ⟨.error f, by simp, hq.bind_error⟩
  | ok a =>
    obtain ⟨loopback, hl⟩ := (hb.localHostAddress ha).exists_isLoopback
    cases loopback with
    | false => exact absurd hl (hn a ha)
    | true =>
      rw [ha] at hq
      refine ⟨.ok none, by simp, hq.bind ?_⟩
      rw [hl]
      exact (Act.runsTo_ofExcept _ _).bind (Act.runsTo_pure _ _)

lemma firstResult_runsTo_of_some {ε α : Type} {describe : α → String} {strategy : Strategy α}
    {rest : List (Strategy α)} {a : α} (hrun : strategy.run.RunsTo h (.ok (some a)) h') :
    (firstResult describe (strategy :: rest) : Act ε (Option α)).RunsTo h (.ok (some a)) h' :=
  hrun.attempt.bind ((Act.runsTo_log _ _ _ _).bind (Act.runsTo_pure _ _))

/-- A strategy that fails or finds nothing leaves the search to the others. -/
lemma firstResult_runsTo_of_none {ε α : Type} {describe : α → String} {strategy : Strategy α}
    {rest : List (Strategy α)} {r : Except Failure (Option α)} {r' : Except ε (Option α)}
    (hrun : strategy.run.RunsTo h r h') (hr : ∀ a, r ≠ .ok (some a))
    (hrest : (firstResult describe rest).RunsTo h' r' h'') :
    (firstResult describe (strategy :: rest)).RunsTo h r' h'' := by
  refine hrun.attempt.bind ?_
  cases r with
  | error f => exact (Act.runsTo_log _ _ _ _).bind ((Act.runsTo_logDetails _ _ _ _).bind hrest)
  | ok found =>
    cases found with
    | none => exact hrest
    | some a => exact absurd rfl (hr a)

end

end Strategy

end HostDiscovery
