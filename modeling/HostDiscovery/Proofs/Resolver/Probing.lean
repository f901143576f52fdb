import HostDiscovery.Resolver.Strategy
import HostDiscovery.Proofs.Network.Calls
import HostDiscovery.Proofs.Session

/-! The probes of the hosts in the settings, one after the other. A host is only asked when every
host before it could not be reached; the first other answer ends the probing. -/
namespace HostDiscovery.Strategy

def probeCalls (settings : Settings) (n : Nat) : List Call :=
  (settings.probeHosts.take n).map fun host => .probe host settings.probePort settings.probeTimeout

section

variable (b : NetworkBackend) (settings : Settings) (h : List Event)

/-- What host number `n` answers once all hosts before it were asked. -/
def probeAnswer (n : Nat) : Option (Except Failure NetworkAddress) :=
  settings.probeHosts[n]?.map fun host =>
    (b.probe host settings.probePort settings.probeTimeout
      (b.historyAfter h (probeCalls settings n))).1

/-- The first `n` hosts fail with failures of the system or about a value. -/
def Unreachable (n : Nat) : Prop :=
  ∀ k < n, ∃ f, probeAnswer b settings h k = some (.error f) ∧ f.isSystemOrValue = true

inductive Probing : Except Failure (Option NetworkAddress) → List Call → Prop
  | reached {n : Nat} {a : NetworkAddress} (before : Unreachable b settings h n)
      (answer : probeAnswer b settings h n = some (.ok a)) :
      Probing (.ok (some a)) (probeCalls settings (n + 1))
  | broken {n : Nat} {f : Failure} (before : Unreachable b settings h n)
      (answer : probeAnswer b settings h n = some (.error f))
      (other : f.isSystemOrValue = false) :
      Probing (.error f) (probeCalls settings (n + 1))
  | exhausted (all : Unreachable b settings h settings.probeHosts.length) :
      Probing (.ok none) (probeCalls settings settings.probeHosts.length)

end

variable {b : NetworkBackend} {settings : Settings} {h : List Event}

lemma probeCalls_succ {n : Nat} {host : String} (hn : settings.probeHosts[n]? = some host) :
    probeCalls settings (n + 1) =
      probeCalls settings n ++ [.probe host settings.probePort settings.probeTimeout] := by
  simp [probeCalls, List.take_add_one, hn]

lemma Unreachable.succ {n : Nat} {f : Failure} (hn : Unreachable b settings h n)
    (ha : probeAnswer b settings h n = some (.error f)) (hf : f.isSystemOrValue = true) :
    Unreachable b settings h (n + 1) := by
  intro k hk
  rcases Nat.lt_succ_iff_lt_or_eq.mp hk with hk | rfl
  · exact hn k hk
  · exact ⟨f, ha, hf⟩

lemma historyAfter_probeCalls_succ {n : Nat} {host : String}
    (hn : settings.probeHosts[n]? = some host) :
    b.historyAfter h (probeCalls settings (n + 1)) =
      b.historyAfter h (probeCalls settings n) ++
        (b.probe host settings.probePort settings.probeTimeout
          (b.historyAfter h (probeCalls settings n))).2 := by
  rw [probeCalls_succ hn, NetworkBackend.historyAfter_append]
  rfl

lemma probeFrom_runsTo {rest : List String} {n : Nat} (hrest : settings.probeHosts.drop n = rest)
    (hn : Unreachable b settings h n) :
    ∃ r calls, Probing b settings h r calls ∧
      (probeFrom b settings rest).RunsTo (b.historyAfter h (probeCalls settings n)) r
        (b.historyAfter h calls) := by
  induction rest generalizing n with
  | nil =>
    have hlen : settings.probeHosts.length ≤ n := List.drop_eq_nil_iff.mp hrest
    have hcalls : probeCalls settings n = probeCalls settings settings.probeHosts.length := by
      simp [probeCalls, List.take_of_length_le hlen]
    refine ⟨_, _, .exhausted fun k hk => hn k (Nat.lt_of_lt_of_le hk hlen), ?_⟩
    rw [hcalls]
    exact Act.runsTo_pure none _
  | cons host rest ih =>
    have hhost : settings.probeHosts[n]? = some host := by
      rw [← List.head?_drop, hrest]
      rfl
    have hnext : settings.probeHosts.drop (n + 1) = rest := by
      rw [← List.tail_drop, hrest]
      rfl
    have hq := Act.runsTo_query (b.probe host settings.probePort settings.probeTimeout)
      (b.historyAfter h (probeCalls settings n))
    rw [← historyAfter_probeCalls_succ hhost] at hq
    cases hp : (b.probe host settings.probePort settings.probeTimeout
        (b.historyAfter h (probeCalls settings n))).1 with
    | ok a =>
      have hanswer : probeAnswer b settings h n = some (.ok a) := by simp [probeAnswer, hhost, hp]
      rw [hp] at hq
      exact ⟨_, _, .reached hn hanswer, hq.attempt.bind (Act.runsTo_pure _ _)⟩
    | error f =>
      have hanswer : probeAnswer b settings h n = some (.error f) := by
        simp [probeAnswer, hhost, hp]
      rw [hp] at hq
      by_cases hf : f.isSystemOrValue = true
      · obtain ⟨r, calls, hend, hrun⟩ := ih hnext (hn.succ hanswer hf)
        refine ⟨r, calls, hend, hq.attempt.bind ?_⟩
        simp only [hf, if_true]
        exact (Act.runsTo_log _ _ _ _).bind hrun
      · refine ⟨_, _, .broken hn hanswer (by simpa using hf), hq.attempt.bind ?_⟩
        simp only [hf]
        exact Act.runsTo_fail f _

lemma probedAddress_runsTo (b : NetworkBackend) (settings : Settings) (h : List Event) :
    ∃ r calls, Probing b settings h r calls ∧
      (probedAddress b settings).RunsTo h r (b.historyAfter h calls) :=
  probeFrom_runsTo (List.drop_zero) fun _ hk => absurd hk (Nat.not_lt_zero _)

lemma Probing.isParsed (hb : b.AnswersParsed) {a : NetworkAddress} {calls : List Call}
    (hp : Probing b settings h (.ok (some a)) calls) : a.IsParsed := by
  cases hp with
  | reached before answer =>
    obtain ⟨host, -, ha⟩ := Option.map_eq_some_iff.mp answer
    exact hb.probe ha

lemma Unreachable.le_of_answer {n m : Nat} {x : Except Failure NetworkAddress}
    (hn : Unreachable b settings h n) (hm : probeAnswer b settings h m = some x)
    (hx : ∀ f, x = .error f → f.isSystemOrValue = false) : n ≤ m := by
  refine Nat.le_of_not_lt fun hlt => ?_
  obtain ⟨f, hf, hs⟩ := hn m hlt
  have he : x = .error f := Option.some.inj (hm.symm.trans hf)
  simp [hx f he] at hs

lemma lt_length_of_probeAnswer {n : Nat} {x : Except Failure NetworkAddress}
    (hn : probeAnswer b settings h n = some x) : n < settings.probeHosts.length := by
  refine Nat.lt_of_not_le fun hle => ?_
  simp [probeAnswer, List.getElem?_eq_none hle] at hn

lemma Probing.cases {r : Except Failure (Option NetworkAddress)} {calls : List Call}
    (hp : Probing b settings h r calls) :
    (∃ n x, Unreachable b settings h n ∧ probeAnswer b settings h n = some x ∧
        (∀ f, x = .error f → f.isSystemOrValue = false) ∧
        r = x.map some ∧ calls = probeCalls settings (n + 1)) ∨
      (Unreachable b settings h settings.probeHosts.length ∧
        r = .ok none ∧ calls = probeCalls settings settings.probeHosts.length) := by
  cases hp with
  | reached before answer => exact .inl ⟨_, _, before, answer, by simp, rfl, rfl⟩
  | broken before answer other =>
    refine .inl ⟨_, _, before, answer, ?_, rfl, rfl⟩
    intro f hf
    exact Except.error.inj hf ▸ other
  | exhausted all => exact .inr ⟨all, rfl, rfl⟩

theorem Probing.unique {r r' : Except Failure (Option NetworkAddress)} {calls calls' : List Call}
    (hp : Probing b settings h r calls) (hp' : Probing b settings h r' calls') :
    r = r' ∧ calls = calls' := by
  rcases hp.cases with ⟨n, x, hn, hx, hs, rfl, rfl⟩ | ⟨hall, rfl, rfl⟩ <;>
    rcases hp'.cases with ⟨m, y, hm, hy, ht, rfl, rfl⟩ | ⟨hall', rfl, rfl⟩
  · have hnm := hn.le_of_answer hy ht
    have hmn := hm.le_of_answer hx hs
    obtain rfl := Nat.le_antisymm hnm hmn
    obtain rfl : x = y := Option.some.inj (hx.symm.trans hy)
    exact ⟨rfl, rfl⟩
  · have hlt := lt_length_of_probeAnswer hx
    have hle := hall'.le_of_answer hx hs
    omega
  · have hlt := lt_length_of_probeAnswer hy
    have hle := hall.le_of_answer hy ht
    omega
  · exact ⟨rfl, rfl⟩

end HostDiscovery.Strategy
