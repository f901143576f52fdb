import HostDiscovery.Resolver.Basic
import HostDiscovery.Proofs.Resolver.Probing
import HostDiscovery.Proofs.Resolver.Search

/-! The search for a local address over any settings and any backend: it always ends with an
address, and the answers of the backend decide which one it is and which calls are made. -/
namespace HostDiscovery.Resolver

open Strategy

def lastResort : NetworkAddress where
  address := "127.0.0.1"
  version := .v4

section

variable (b : NetworkBackend) (settings : Settings) (h : List Event)

/-- The interfaces cannot be listed, or none of them has an eligible address. -/
def NothingEligible : Prop :=
  ∀ found, (b.interfaces h).1 = .ok found → ∀ c ∈ candidates found, ¬ Eligible settings c

/-- The name of the machine has no address, or a loopback address. -/
def NoHostAddress : Prop :=
  ∀ a, (b.localHostAddress h).1 = .ok a → a.isLoopback ≠ .ok false

def callsBeforeProbes : List Call := [.interfaces, .localHostAddress]

/-- Which address the search ends with, and the calls on the backend that it takes. -/
inductive Cascade : NetworkAddress → List Call → Prop
  | interface {found : List Interface} {c : Interface × NetworkAddress}
      (listed : (b.interfaces h).1 = .ok found)
      (first : ((candidates found).find? fun c => Eligible settings c) = some c) :
      Cascade c.2 [.interfaces]
  | hostName {a : NetworkAddress} (nothing : NothingEligible b settings h)
      (answer : (b.localHostAddress (b.historyAfter h [.interfaces])).1 = .ok a)
      (external : a.isLoopback = .ok false) :
      Cascade a callsBeforeProbes
  | probed {a : NetworkAddress} {calls : List Call} (nothing : NothingEligible b settings h)
      (noHost : NoHostAddress b (b.historyAfter h [.interfaces]))
      (probes : Probing b settings (b.historyAfter h callsBeforeProbes) (.ok (some a)) calls) :
      Cascade a (callsBeforeProbes ++ calls)
  | lastResort {r : Except Failure (Option NetworkAddress)} {calls : List Call}
      (nothing : NothingEligible b settings h)
      (noHost : NoHostAddress b (b.historyAfter h [.interfaces]))
      (probes : Probing b settings (b.historyAfter h callsBeforeProbes) r calls)
      (noAddress : ∀ a, r ≠ .ok (some a)) :
      Cascade lastResort (callsBeforeProbes ++ calls)

end

variable {b : NetworkBackend} {settings : Settings} {h h' : List Event}

lemma nothingEligible_iff {found : List Interface} (hi : (b.interfaces h).1 = .ok found) :
    NothingEligible b settings h ↔
      ((candidates found).find? fun c => Eligible settings c) = none := by
  rw [List.find?_eq_none]
  constructor
  · intro hn c hc
    have hineligible : ¬ Eligible settings c := hn found hi c hc
    simpa using hineligible
  · intro hn found' hi' c hc
    have hsame : found = found' := Except.ok.inj (hi.symm.trans hi')
    subst hsame
    have hineligible := hn c hc
    simpa using hineligible

theorem Cascade.unique {a a' : NetworkAddress} {calls calls' : List Call}
    (hc : Cascade b settings h a calls) (hc' : Cascade b settings h a' calls') :
    a = a' ∧ calls = calls' := by
  have found_unique : ∀ {found c}, (b.interfaces h).1 = .ok found →
      ((candidates found).find? fun c => Eligible settings c) = some c →
      ¬ NothingEligible b settings h := by
    intro found c hi hf hn
    rw [nothingEligible_iff hi, hf] at hn
    simp at hn
  cases hc with
  | interface listed first =>
    cases hc' with
    | interface listed' first' =>
      have hfound := Except.ok.inj (listed.symm.trans listed')
      subst hfound
      have hentry := Option.some.inj (first.symm.trans first')
      exact ⟨congrArg Prod.snd hentry, rfl⟩
    | hostName nothing => exact absurd nothing (found_unique listed first)
    | probed nothing => exact absurd nothing (found_unique listed first)
    | lastResort nothing => exact absurd nothing (found_unique listed first)
  | hostName nothing answer external =>
    cases hc' with
    | interface listed' first' => exact absurd nothing (found_unique listed' first')
    | hostName _ answer' =>
      have ha : a = a' := Except.ok.inj (answer.symm.trans answer')
      exact ⟨ha, rfl⟩
    | probed _ noHost => exact absurd external (noHost _ answer)
    | lastResort _ noHost => exact absurd external (noHost _ answer)
  | probed nothing noHost probes =>
    cases hc' with
    | interface listed' first' => exact absurd nothing (found_unique listed' first')
    | hostName _ answer' external' => exact absurd external' (noHost _ answer')
    | probed _ _ probes' =>
      obtain ⟨hr, rfl⟩ := probes.unique probes'
      have ha : a = a' := by simpa using hr
      exact ⟨ha, rfl⟩
    | lastResort _ _ probes' noAddress' =>
      obtain ⟨hr, -⟩ := probes.unique probes'
      exact absurd hr.symm (noAddress' _)
  | lastResort nothing noHost probes noAddress =>
    cases hc' with
    | interface listed' first' => exact absurd nothing (found_unique listed' first')
    | hostName _ answer' external' => exact absurd external' (noHost _ answer')
    | probed _ _ probes' =>
      obtain ⟨hr, -⟩ := probes.unique probes'
      exact absurd hr (noAddress _)
    | lastResort _ _ probes' =>
      obtain ⟨-, hcalls⟩ := probes.unique probes'
      exact ⟨rfl, congrArg _ hcalls⟩

lemma interfaceAddress_runsTo_of_nothing (hb : b.AnswersParsed)
    (hn : NothingEligible b settings h) :
    ∃ r, (∀ a, r ≠ .ok (some a)) ∧
      (interfaceAddress b settings).RunsTo h r (b.historyAfter h [.interfaces]) := by
  refine ⟨_, ?_, interfaceAddress_runsTo hb settings h⟩
  intro a hr
  cases hi : (b.interfaces h).1 with
  | error f => simp [hi, Except.map] at hr
  | ok found => simp [hi, Except.map, (nothingEligible_iff hi).mp hn] at hr

lemma exists_eligible (hn : ¬ NothingEligible b settings h) :
    ∃ found c, (b.interfaces h).1 = .ok found ∧
      ((candidates found).find? fun c => Eligible settings c) = some c := by
  cases hi : (b.interfaces h).1 with
  | error f =>
    have hnothing : NothingEligible b settings h := fun found hf => by simp [hi] at hf
    exact absurd hnothing hn
  | ok found =>
    have hfound : ((candidates found).find? fun c => Eligible settings c) ≠ none :=
      mt (nothingEligible_iff hi).mpr hn
    obtain ⟨c, hc⟩ := Option.ne_none_iff_exists'.mp hfound
    exact ⟨found, c, rfl, hc⟩

/-- Where neither the interfaces nor the name of the machine give an address, the rest of the search
decides. -/
lemma firstResult_runsTo_of_rest (hb : b.AnswersParsed) (hn : NothingEligible b settings h)
    (hhost : NoHostAddress b (b.historyAfter h [.interfaces]))
    {r : Except Failure (Option NetworkAddress)}
    (hrest : (firstResult NetworkAddress.address ((forAddress b settings).drop 2) :
      Act Failure (Option NetworkAddress)).RunsTo (b.historyAfter h callsBeforeProbes) r h') :
    (firstResult NetworkAddress.address (forAddress b settings) :
      Act Failure (Option NetworkAddress)).RunsTo h r h' := by
  obtain ⟨r₁, hr₁, hrun₁⟩ := interfaceAddress_runsTo_of_nothing hb hn
  obtain ⟨r₂, hr₂, hrun₂⟩ := hostNameAddress_runsTo_of_none hb hhost
  have hsecond : (firstResult NetworkAddress.address ((forAddress b settings).drop 1) :
      Act Failure (Option NetworkAddress)).RunsTo (b.historyAfter h [.interfaces]) r h' :=
    firstResult_runsTo_of_none hrun₂ hr₂ hrest
  exact firstResult_runsTo_of_none hrun₁ hr₁ hsecond

lemma exists_firstResult_runsTo (hb : b.AnswersParsed) (settings : Settings) (h : List Event) :
    ∃ found calls, Cascade b settings h (found.getD lastResort) calls ∧
      (firstResult NetworkAddress.address (forAddress b settings) :
        Act Failure (Option NetworkAddress)).RunsTo h (.ok found) (b.historyAfter h calls) := by
  by_cases hn : NothingEligible b settings h
  · by_cases hhost : NoHostAddress b (b.historyAfter h [.interfaces])
    · obtain ⟨r, calls, hp, hprobed⟩ := probedAddress_runsTo b settings
        (b.historyAfter h callsBeforeProbes)
      rw [← NetworkBackend.historyAfter_append] at hprobed
      by_cases hfound : ∃ a, r = .ok (some a)
      · obtain ⟨a, rfl⟩ := hfound
        have hcascade := Cascade.probed hn hhost hp
        refine ⟨some a, _, hcascade, firstResult_runsTo_of_rest hb hn hhost ?_⟩
        exact firstResult_runsTo_of_some hprobed
      · have hr : ∀ a, r ≠ .ok (some a) := fun a ha => hfound ⟨a, ha⟩
        have hcascade := Cascade.lastResort hn hhost hp hr
        refine ⟨none, _, hcascade, firstResult_runsTo_of_rest hb hn hhost ?_⟩
        exact firstResult_runsTo_of_none hprobed hr (Act.runsTo_pure none _)
    · obtain ⟨a, ha, hl⟩ : ∃ a, (b.localHostAddress (b.historyAfter h [.interfaces])).1 = .ok a ∧
          a.isLoopback = .ok false := by
        simpa [NoHostAddress] using hhost
      obtain ⟨r, hr, hinterfaces⟩ := interfaceAddress_runsTo_of_nothing hb hn
      have hnamed := hostNameAddress_runsTo_of_external ha hl
      refine ⟨some a, _, .hostName hn ha hl, ?_⟩
      exact firstResult_runsTo_of_none hinterfaces hr (firstResult_runsTo_of_some hnamed)
  · obtain ⟨found, c, hi, hc⟩ := exists_eligible hn
    have hrun := interfaceAddress_runsTo hb settings h
    rw [hi] at hrun
    have hfirst : (interfaceAddress b settings).RunsTo h (.ok (some c.2))
        (b.historyAfter h [.interfaces]) := by
      simpa [Except.map, hc] using hrun
    exact ⟨some c.2, _, .interface hi hc, firstResult_runsTo_of_some hfirst⟩

lemma exists_localAddress_runsTo {r : Resolver} (hb : r.network.AnswersParsed)
    (h : List Event) :
    ∃ a calls, Cascade r.network r.settings h a calls ∧
      r.localAddress.RunsTo h (.ok a) (r.network.historyAfter h calls) := by
  obtain ⟨found, calls, hc, hrun⟩ := exists_firstResult_runsTo hb r.settings h
  refine ⟨_, calls, hc, hrun.bind ?_⟩
  cases found with
  | none =>
    have hparse : NetworkAddress.parse Defaults.loopbackAddress = .ok lastResort := rfl
    refine (Act.runsTo_log _ _ _ _).bind ?_
    rw [hparse]
    exact Act.runsTo_ofExcept _ _
  | some a => exact Act.runsTo_pure _ _

def loopbackOnly (answer : (host : String) → Except Failure NetworkAddress) : NetworkBackend where
  interfaces := Query.ask .interfaces fun _ =>
    .ok [{ name := "lo", displayName := "lo", isUp := true, addresses := [lastResort] }]
  localHostName := Query.ask .localHostName fun _ => .ok none
  localHostAddress := Query.ask .localHostAddress fun _ => .error { kind := .nameUnresolved }
  probe host port timeout := Query.ask (.probe host port timeout) fun _ => answer host
  reverseLookup a := Query.ask (.reverseLookup a.address) fun _ => .error { kind := .hostUnknown }
  addressesFor host := Query.ask (.addressesFor host) fun _ => .ok []

lemma loopbackOnly_answersParsed {answer : (host : String) → Except Failure NetworkAddress}
    (ha : ∀ {host a}, answer host = .ok a → a.IsParsed) : (loopbackOnly answer).AnswersParsed where
  interfaces hi i hf a hm := by
    obtain rfl := Except.ok.inj hi
    obtain rfl := List.mem_singleton.mp hf
    obtain rfl := List.mem_singleton.mp hm
    exact ⟨"127.0.0.1", rfl⟩
  localHostAddress hh := by cases hh
  probe hp := ha hp

lemma loopbackOnly_nothingEligible {answer : (host : String) → Except Failure NetworkAddress}
    {settings : Settings} {h : List Event} : NothingEligible (loopbackOnly answer) settings h := by
  intro found hi c hc he
  obtain rfl := Except.ok.inj hi
  obtain rfl := List.mem_singleton.mp hc
  have hl : lastResort.isLoopback = .ok true := rfl
  exact absurd (hl.symm.trans he.external) (by simp)

/-- The search for a local address never fails. Its result and the calls that it makes are the
ones that the answers of the backend allow, and these allow no others. -/
theorem localAddress_cascade (r : Resolver) (hb : r.network.AnswersParsed) (s : Session) :
    ∃ a calls s', r.localAddress s = (.ok a, s') ∧
      s'.events = r.network.historyAfter s.events calls ∧
      (r.network.ShowsCalls → s'.events = s.events ++ calls.map Call.event) ∧
      Cascade r.network r.settings s.events a calls ∧
      ∀ a' calls', Cascade r.network r.settings s.events a' calls' → a' = a ∧ calls' = calls := by
  obtain ⟨a, calls, hc, hrun⟩ := exists_localAddress_runsTo hb s.events
  obtain ⟨s', hs, he⟩ := hrun s rfl
  have hunique : ∀ a' calls', Cascade r.network r.settings s.events a' calls' →
      a' = a ∧ calls' = calls := fun _ _ hc' => hc'.unique hc
  refine ⟨a, calls, s', hs, he, fun hshow => ?_, hc, hunique⟩
  rw [he, hshow.historyAfter_eq]

/-- The first host refuses, the second one is reached. -/
theorem localAddress_second_host :
    let answer := fun host : String =>
      if host = "www.google.com" then .error { kind := .connectionRefused }
      else NetworkAddress.parse "10.1.2.3"
    let r : Resolver := { network := loopbackOnly answer }
    r.network.AnswersParsed ∧
      ∃ s', r.localAddress {} = (.ok { address := "10.1.2.3", version := .v4 }, s') ∧
        s'.events = [.interfaces, .localHostAddress,
          .probe "www.google.com" 80 Defaults.probeTimeout,
          .probe "www.baidu.com" 80 Defaults.probeTimeout] := by
  intro answer r
  have hb : r.network.AnswersParsed := by
    refine loopbackOnly_answersParsed fun {host a} ha => ?_
    by_cases hh : host = "www.google.com"
    · simp [answer, hh] at ha
    · simp only [answer, hh, if_false] at ha
      exact ⟨"10.1.2.3", ha⟩
  have hcascade : Cascade r.network r.settings [] { address := "10.1.2.3", version := .v4 }
      (callsBeforeProbes ++ probeCalls r.settings 2) := by
    have hfirst : Unreachable r.network r.settings
        (r.network.historyAfter [] callsBeforeProbes) 1 := by
      intro k hk
      obtain rfl := Nat.lt_one_iff.mp hk
      exact ⟨_, rfl, rfl⟩
    have hnoHost : NoHostAddress r.network (r.network.historyAfter [] [.interfaces]) :=
      fun a ha => by cases ha
    exact .probed loopbackOnly_nothingEligible hnoHost (.reached hfirst rfl)
  obtain ⟨a, calls, s', hs, -, hshow, -, hunique⟩ := localAddress_cascade r hb {}
  obtain ⟨rfl, rfl⟩ := hunique _ _ hcascade
  have hcalls : r.network.ShowsCalls := fun h call => by cases call <;> rfl
  exact ⟨hb, s', hs, hshow hcalls⟩

/-- The search comes to the probes, and the first host that is reached is reached over a loopback
address other than the last resort. -/
def ProbesLoopback (b : NetworkBackend) (settings : Settings) (h : List Event) : Prop :=
  NothingEligible b settings h ∧ NoHostAddress b (b.historyAfter h [.interfaces]) ∧
    ∃ a calls, Probing b settings (b.historyAfter h callsBeforeProbes) (.ok (some a)) calls ∧
      a.isLoopback = .ok true ∧ a ≠ lastResort

lemma Cascade.external_or_lastResort_iff (hb : b.AnswersParsed) {a : NetworkAddress}
    {calls : List Call} (hc : Cascade b settings h a calls) :
    (a.isLoopback = .ok false ∨ a = Resolver.lastResort) ↔ ¬ ProbesLoopback b settings h := by
  cases hc with
  | interface listed first =>
    have he := List.find?_some first
    simp only [decide_eq_true_eq] at he
    have hmem := List.mem_of_find?_eq_some first
    refine iff_of_true (.inl he.external) ?_
    rintro ⟨hnothing, -⟩
    exact hnothing _ listed _ hmem he
  | hostName nothing answer external =>
    refine iff_of_true (.inl external) ?_
    rintro ⟨-, hnoHost, -⟩
    exact hnoHost _ answer external
  | probed nothing noHost probes =>
    obtain ⟨loopback, hl⟩ := (probes.isParsed hb).exists_isLoopback
    constructor
    · rintro hgood ⟨-, -, x, calls', hp, hx, hne⟩
      obtain ⟨hr, -⟩ := probes.unique hp
      obtain rfl : a = x := by simpa using hr
      rcases hgood with hgood | hgood
      · simp [hgood] at hx
      · exact hne hgood
    · intro hnot
      cases loopback with
      | false => exact .inl hl
      | true =>
        by_cases ha : a = Resolver.lastResort
        · exact .inr ha
        · have hloopback : ProbesLoopback b settings h :=
            ⟨nothing, noHost, a, _, probes, hl, ha⟩
          exact absurd hloopback hnot
  | lastResort nothing noHost probes noAddress =>
    refine iff_of_true (.inr rfl) ?_
    rintro ⟨-, -, x, calls', hp, -⟩
    obtain ⟨hr, -⟩ := probes.unique hp
    exact noAddress x hr

/-- The local address is loopback only as the last resort, unless a probe is answered over a
loopback address: that strategy does not look at what it found. -/
theorem localAddress_external_iff (r : Resolver) (hb : r.network.AnswersParsed) (s : Session) :
    ∃ a s', r.localAddress s = (.ok a, s') ∧
      ((a.isLoopback = .ok false ∨ a = lastResort) ↔
        ¬ ProbesLoopback r.network r.settings s.events) := by
  obtain ⟨a, calls, hc, hrun⟩ := exists_localAddress_runsTo hb s.events
  obtain ⟨s', hs, -⟩ := hrun s rfl
  exact ⟨a, s', hs, hc.external_or_lastResort_iff hb⟩

/-- A probe over the IPv6 loopback address is taken for a local address. -/
theorem localAddress_over_loopback :
    ¬ ∀ (r : Resolver) (s : Session), r.network.AnswersParsed →
      ∀ a s', r.localAddress s = (.ok a, s') → a.isLoopback = .ok false ∨ a = lastResort := by
  intro h
  have hb : (loopbackOnly fun _ => NetworkAddress.parse "::1").AnswersParsed :=
    loopbackOnly_answersParsed fun ha => ⟨"::1", ha⟩
  have hl : ({ address := "::1", version := .v6 } : NetworkAddress).isLoopback = .ok true := rfl
  rcases h { network := loopbackOnly fun _ => NetworkAddress.parse "::1" } {} hb
    { address := "::1", version := .v6 } _ rfl with hext | hlast
  · exact absurd (hl.symm.trans hext) (by simp)
  · exact absurd hlast (by decide)

/-- Every probe is answered over a loopback address, one that is not the last resort. -/
theorem localAddress_second_loopback :
    let r : Resolver := { network := loopbackOnly fun _ => NetworkAddress.parse "127.0.1.1" }
    r.network.AnswersParsed ∧
      ∃ a s', r.localAddress {} = (.ok a, s') ∧ ¬ (a.isLoopback = .ok false ∨ a = lastResort) := by
  intro r
  have hb : r.network.AnswersParsed := loopbackOnly_answersParsed fun ha => ⟨"127.0.1.1", ha⟩
  have hprobes : ProbesLoopback r.network r.settings [] := by
    have hnoHost : NoHostAddress r.network (r.network.historyAfter [] [.interfaces]) :=
      fun a ha => by cases ha
    have hfirst : Unreachable r.network r.settings
        (r.network.historyAfter [] callsBeforeProbes) 0 :=
      fun k hk => absurd hk (Nat.not_lt_zero k)
    refine ⟨loopbackOnly_nothingEligible, hnoHost,
      { address := "127.0.1.1", version := .v4 }, _, .reached hfirst rfl, rfl, ?_⟩
    decide
  obtain ⟨a, s', hs, hiff⟩ := localAddress_external_iff r hb {}
  exact ⟨hb, a, s', hs, fun hgood => hiff.mp hgood hprobes⟩

end HostDiscovery.Resolver
