import HostDiscovery.Network.System
import HostDiscovery.Resolver.Basic
import HostDiscovery.Proofs.Network.Calls
import HostDiscovery.Proofs.Resolver.PortSearch

/-! The sockets that the resolver opens on a live network, by the probes of its addresses and by its
search for a port. What any of them does to the calls made so far is followed with what is open at
the time, which is one socket or none. -/
namespace HostDiscovery

inductive SocketKind
  | connection
  | listener
  deriving DecidableEq

def SocketKind.closing : SocketKind → Event
  | connection => .disconnect
  | listener => .closeSocket

def Event.IsNeutral : Event → Prop
  | connect _ _ _ | disconnect | openSocket _ | closeSocket => False
  | _ => True

def Query.IsNeutral {α : Type} (q : Query α) : Prop := ∀ h, ∀ e ∈ (q h).2, e.IsNeutral

namespace Query.IsNeutral

variable {α β : Type}

lemma ask {e : Event} (he : e.IsNeutral) (answer : List Event → Except Failure α) :
    (Query.ask e answer).IsNeutral :=
  fun _ => List.forall_mem_singleton.mpr he

lemma ofExcept (r : Except Failure α) : (Query.ofExcept r).IsNeutral :=
  fun _ => List.forall_mem_nil _

lemma bind {first : Query α} {next : α → Query β} (hf : first.IsNeutral)
    (hn : ∀ a, (next a).IsNeutral) : (first >>= next).IsNeutral := by
  intro h
  have hcalls := hf h
  change ∀ e ∈ (Query.bind first next h).2, e.IsNeutral
  rw [Query.bind]
  cases hq : first h with
  | mk r calls =>
    rw [hq] at hcalls
    cases r with
    | error f => exact hcalls
    | ok a => exact List.forall_mem_append.mpr ⟨hcalls, hn a (h ++ calls)⟩

end Query.IsNeutral

/-- All that the resolver uses of the platform, as it answers after any calls made before. -/
structure LiveNetwork where
  os : OperatingSystem
  sockets : SocketLayer

namespace LiveNetwork

section

variable (net : LiveNetwork)

inductive Opens (h : List Event) : Event → SocketKind → Prop
  | connected {host : String} {port : Int} {timeout : Float}
      (answer : net.os.connect host port timeout h = .ok ()) :
      Opens h (.connect host port timeout) .connection
  | opened {family : SocketFamily} (answer : net.sockets.openSocket family h = .ok ()) :
      Opens h (.openSocket family) .listener

/-- Of the calls made after history `h`, each one that opens a socket is followed by the one that
closes it, and each one that closes a socket follows the one that opened it. No other call between
the two opens or closes any. -/
structure ClosesSockets (h calls : List Event) : Prop where
  closed {before after : List Event} {opening : Event} {kind : SocketKind} :
    calls = before ++ opening :: after → net.Opens (h ++ before) opening kind →
      ∃ inner rest, after = inner ++ kind.closing :: rest ∧ ∀ e ∈ inner, e.IsNeutral
  opened {before after : List Event} {kind : SocketKind} :
    calls = before ++ kind.closing :: after →
      ∃ earlier opening inner, before = earlier ++ opening :: inner ∧
        net.Opens (h ++ earlier) opening kind ∧ ∀ e ∈ inner, e.IsNeutral

/-- Calls made after history `h` while the given socket is open, up to a time when none is. -/
inductive Balanced : Option SocketKind → List Event → List Event → Prop
  | done {h : List Event} : Balanced none h []
  | passed {h more : List Event} {e : Event} (unopened : ∀ kind, ¬ net.Opens h e kind)
      (unclosing : ∀ kind, e ≠ SocketKind.closing kind) (next : Balanced none (h ++ [e]) more) :
      Balanced none h (e :: more)
  | opened {h more : List Event} {e : Event} {kind : SocketKind} (opens : net.Opens h e kind)
      (next : Balanced (some kind) (h ++ [e]) more) :
      Balanced none h (e :: more)
  | within {h more : List Event} {e : Event} {kind : SocketKind} (neutral : e.IsNeutral)
      (next : Balanced (some kind) (h ++ [e]) more) :
      Balanced (some kind) h (e :: more)
  | closed {h more : List Event} {kind : SocketKind}
      (next : Balanced none (h ++ [kind.closing]) more) :
      Balanced (some kind) h (kind.closing :: more)

/-- From any session the action makes calls that leave no socket open. -/
def Balances {ε α : Type} (act : Act ε α) : Prop :=
  ∀ s : Session, ∃ calls, (act s).2.events = s.events ++ calls ∧ net.Balanced none s.events calls

end

variable {net : LiveNetwork} {h calls more : List Event} {e : Event} {kind kind' : SocketKind}
  {current : Option SocketKind}

lemma Opens.unique (ho : net.Opens h e kind) (ho' : net.Opens h e kind') : kind = kind' := by
  cases ho <;> cases ho' <;> rfl

lemma Opens.not_isNeutral (ho : net.Opens h e kind) : ¬ e.IsNeutral := by
  cases ho <;> exact not_false

lemma Opens.ne_closing (ho : net.Opens h e kind) (kind' : SocketKind) : e ≠ kind'.closing := by
  cases ho <;> cases kind' <;> nofun

lemma closing_not_isNeutral (kind : SocketKind) : ¬ kind.closing.IsNeutral := by
  cases kind <;> exact not_false

lemma closing_injective (hk : kind.closing = kind'.closing) : kind = kind' := by
  cases kind <;> cases kind' <;> first | rfl | cases hk

lemma Balanced.exists_closing (hb : net.Balanced current h calls) (hc : current = some kind) :
    ∃ inner rest, calls = inner ++ kind.closing :: rest ∧ ∀ e ∈ inner, e.IsNeutral := by
  induction hb with
  | done => cases hc
  | passed => cases hc
  | opened => cases hc
  | within neutral next ih =>
    obtain ⟨inner, rest, rfl, hinner⟩ := ih hc
    exact ⟨_ :: inner, rest, rfl, List.forall_mem_cons.mpr ⟨neutral, hinner⟩⟩
  | closed =>
    obtain rfl := Option.some.inj hc
    exact ⟨[], _, rfl, by simp⟩

/-- At any time between the calls no socket is open, or the one is that was opened last. -/
lemma Balanced.exists_of_append {before after : List Event}
    (hb : net.Balanced current h (before ++ after)) :
    ∃ now, net.Balanced now (h ++ before) after ∧ ∀ kind, now = some kind →
      (current = some kind ∧ ∀ e ∈ before, e.IsNeutral) ∨
        ∃ earlier opening inner, before = earlier ++ opening :: inner ∧
          net.Opens (h ++ earlier) opening kind ∧ ∀ e ∈ inner, e.IsNeutral := by
  -- What is open changes from call to call, so it is generalized with the history.
  induction before generalizing current h with
  | nil => exact ⟨current, by simpa using hb, fun kind hnow => .inl ⟨hnow, by simp⟩⟩
  | cons first before ih =>
    have hlast {kind : SocketKind} :
        (∃ earlier opening inner, before = earlier ++ opening :: inner ∧
          net.Opens (h ++ [first] ++ earlier) opening kind ∧ ∀ e ∈ inner, e.IsNeutral) →
        ∃ earlier opening inner, first :: before = earlier ++ opening :: inner ∧
          net.Opens (h ++ earlier) opening kind ∧ ∀ e ∈ inner, e.IsNeutral := by
      rintro ⟨earlier, opening, inner, rfl, hopens, hinner⟩
      exact ⟨first :: earlier, opening, inner, rfl, by simpa using hopens, hinner⟩
    rw [List.append_cons h first before]
    cases hb with
    | passed unopened unclosing next =>
      obtain ⟨now, hafter, hnow⟩ := ih next
      refine ⟨now, hafter, fun kind hk => .inr ?_⟩
      have hopened := (hnow kind hk).resolve_left (by simp)
      exact hlast hopened
    | @opened _ _ _ kind opens next =>
      obtain ⟨now, hafter, hnow⟩ := ih next
      refine ⟨now, hafter, fun kind hk => .inr ?_⟩
      rcases hnow kind hk with ⟨hkind, hneutral⟩ | hopened
      · obtain rfl := Option.some.inj hkind
        have hfirst : net.Opens (h ++ []) first kind := by simpa using opens
        exact ⟨[], first, before, rfl, hfirst, hneutral⟩
      · exact hlast hopened
    | within neutral next =>
      obtain ⟨now, hafter, hnow⟩ := ih next
      refine ⟨now, hafter, fun kind hk => ?_⟩
      rcases hnow kind hk with ⟨hkind, hneutral⟩ | hopened
      · have hall : ∀ e ∈ first :: before, e.IsNeutral :=
          List.forall_mem_cons.mpr ⟨neutral, hneutral⟩
        exact .inl ⟨hkind, hall⟩
      · exact .inr (hlast hopened)
    | closed next =>
      obtain ⟨now, hafter, hnow⟩ := ih next
      refine ⟨now, hafter, fun kind hk => .inr ?_⟩
      have hopened := (hnow kind hk).resolve_left (by simp)
      exact hlast hopened

lemma Balanced.closesSockets (hb : net.Balanced none h calls) : net.ClosesSockets h calls where
  closed := by
    rintro before after opening kind rfl hopens
    obtain ⟨now, hafter, -⟩ := hb.exists_of_append
    cases hafter with
    | passed unopened => exact absurd hopens (unopened kind)
    | opened opens next =>
      have hkind := opens.unique hopens
      exact next.exists_closing (congrArg some hkind)
    | within neutral => exact absurd neutral hopens.not_isNeutral
    | closed => exact absurd rfl (hopens.ne_closing _)
  opened := by
    rintro before after kind rfl
    obtain ⟨now, hafter, hnow⟩ := hb.exists_of_append
    generalize hclosing : kind.closing = closing at hafter
    cases hafter with
    | passed unopened unclosing => exact absurd hclosing.symm (unclosing kind)
    | opened opens => exact absurd hclosing.symm (opens.ne_closing kind)
    | within neutral =>
      subst hclosing
      exact absurd neutral (closing_not_isNeutral kind)
    | closed =>
      obtain rfl := closing_injective hclosing
      exact (hnow kind rfl).resolve_left (by simp)

lemma Balanced.append (hb : net.Balanced current h calls)
    (hmore : net.Balanced none (h ++ calls) more) : net.Balanced current h (calls ++ more) := by
  induction hb with
  | done => simpa using hmore
  | passed unopened unclosing next ih =>
    exact .passed unopened unclosing (ih (by simpa using hmore))
  | opened opens next ih => exact .opened opens (ih (by simpa using hmore))
  | within neutral next ih => exact .within neutral (ih (by simpa using hmore))
  | closed next ih => exact .closed (ih (by simpa using hmore))

lemma balanced_used (h : List Event) (hcalls : ∀ e ∈ calls, e.IsNeutral) (kind : SocketKind) :
    net.Balanced (some kind) h (calls ++ [kind.closing]) := by
  induction calls generalizing h with
  | nil => exact .closed .done
  | cons e calls ih =>
    obtain ⟨he, hcalls⟩ := List.forall_mem_cons.mp hcalls
    exact .within he (ih _ hcalls)

lemma balanced_of_isNeutral (h : List Event) (hcalls : ∀ e ∈ calls, e.IsNeutral) :
    net.Balanced none h calls := by
  induction calls generalizing h with
  | nil => exact .done
  | cons e calls ih =>
    obtain ⟨he, hcalls⟩ := List.forall_mem_cons.mp hcalls
    have hunopened : ∀ kind, ¬ net.Opens h e kind := fun kind hopens => hopens.not_isNeutral he
    have hunclosing : ∀ kind, e ≠ SocketKind.closing kind := by
      rintro kind rfl
      exact closing_not_isNeutral kind he
    exact .passed hunopened hunclosing (ih _ hcalls)

section

variable {ε ε' α β : Type}

lemma balances_of_events_eq {act : Act ε α} (ha : ∀ s, (act s).2.events = s.events) :
    net.Balances act :=
  fun s => ⟨[], by rw [ha, List.append_nil], .done⟩

lemma balances_pure (a : α) : net.Balances (pure a : Act ε α) := balances_of_events_eq fun _ => rfl

lemma balances_fail (e : ε) : net.Balances (Act.fail e : Act ε α) :=
  balances_of_events_eq fun _ => rfl

lemma balances_ofExcept (r : Except ε α) : net.Balances (Act.ofExcept r) :=
  balances_of_events_eq fun _ => rfl

lemma balances_log (level : LogLevel) (logger message : String) :
    net.Balances (Act.log level logger message : Act ε Unit) :=
  balances_of_events_eq fun _ => rfl

lemma balances_logDetails (level : LogLevel) (logger message : String) :
    net.Balances (Act.logDetails level logger message : Act ε Unit) :=
  balances_of_events_eq fun _ => rfl

lemma balances_query {q : Query α} (hq : ∀ h, net.Balanced none h (q h).2) :
    net.Balances (Act.query q) :=
  fun s => ⟨_, rfl, hq s.events⟩

lemma Balances.attempt {act : Act ε α} (ha : net.Balances act) :
    net.Balances (act.attempt : Act ε' (Except ε α)) := ha

lemma Balances.bind {first : Act ε α} {next : α → Act ε β} (hf : net.Balances first)
    (hn : ∀ a, net.Balances (next a)) : net.Balances (first >>= next) := by
  intro s
  obtain ⟨calls, hs, hcalls⟩ := hf s
  cases hrun : first s with
  | mk r s' =>
    rw [hrun] at hs
    cases r with
    | error e =>
      rw [Act.bind_of_error hrun]
      exact ⟨calls, hs, hcalls⟩
    | ok a =>
      obtain ⟨more, hs', hmore⟩ := hn a s'
      rw [hs] at hs' hmore
      rw [Act.bind_of_ok hrun]
      refine ⟨calls ++ more, ?_, hcalls.append hmore⟩
      rw [hs', List.append_assoc]

end

lemma balanced_probe (net : LiveNetwork) (host : String) (port : Int) (timeout : Float)
    (h : List Event) : net.Balanced none h (net.os.probe host port timeout h).2 := by
  change net.Balanced none h
    (Query.bind (Query.ask _ _) (fun _ => net.os.localAddress.closing .disconnect) h).2
  rw [Query.bind, Query.ask]
  cases hconnect : net.os.connect host port timeout h with
  | error f =>
    refine .passed (fun kind hopens => ?_) (fun kind => by cases kind <;> nofun) .done
    cases hopens with
    | connected answer => cases hconnect.symm.trans answer
  | ok => exact .opened (.connected hconnect) (balanced_used _ (by simp) .connection)

lemma balanced_backend (net : LiveNetwork) (h : List Event) (call : Call) :
    net.Balanced none h (net.os.backend.eventsOf h call) := by
  cases call with
  | interfaces =>
    have hq : net.os.interfaces.IsNeutral :=
      .bind (.ask (by trivial) _) fun _ => .bind (.ask (by trivial) _) fun _ => .ofExcept _
    exact balanced_of_isNeutral h (hq h)
  | localHostName =>
    have hq : net.os.backend.localHostName.IsNeutral :=
      .bind (.ask (by trivial) _) fun _ => .ofExcept _
    exact balanced_of_isNeutral h (hq h)
  | localHostAddress =>
    have hq : net.os.localHostAddress.IsNeutral :=
      .bind (.ask (by trivial) _) fun _ => .bind (.ask (by trivial) _) fun _ => .ofExcept _
    exact balanced_of_isNeutral h (hq h)
  | probe host port timeout => exact balanced_probe net host port timeout h
  | reverseLookup a => exact balanced_of_isNeutral h (Query.IsNeutral.ask (by trivial) _ h)
  | addressesFor host =>
    have hq : (net.os.addressesFor host).IsNeutral :=
      .bind (.ask (by trivial) _) fun _ => .bind (.ofExcept _) fun _ => .ofExcept _
    exact balanced_of_isNeutral h (hq h)

lemma balanced_attempt {host : String} {port : Int} {reply : Port.Reply}
    (ha : Port.Attempt net.sockets host port h reply calls) : net.Balanced none h calls := by
  cases ha with
  | unopened opening =>
    refine .passed (fun kind hopens => ?_) (fun kind => by cases kind <;> nofun) .done
    cases hopens with
    | opened answer => cases opening.symm.trans answer
  | unbound opening => exact .opened (.opened opening) (.within trivial (.closed .done))
  | deaf opening =>
    exact .opened (.opened opening) (.within trivial (.within trivial (.closed .done)))
  | listening opening =>
    exact .opened (.opened opening) (.within trivial (.within trivial (.closed .done)))

lemma balanced_attempts {host : String} {ports : List Int} {made : List (Int × Port.Reply)}
    (ha : Port.Attempts net.sockets host h ports made calls) : net.Balanced none h calls := by
  induction ha with
  | none => exact .done
  | last attempt => exact balanced_attempt attempt
  | survived attempt survivable next ih => exact (balanced_attempt attempt).append ih

section

open Strategy

variable (net : LiveNetwork) (settings : Settings)

lemma balances_interfaceAddress : net.Balances (interfaceAddress net.os.backend settings) :=
  (balances_query fun h => balanced_backend net h .interfaces).bind fun _ => balances_ofExcept _

lemma balances_hostNameAddress : net.Balances (hostNameAddress net.os.backend) :=
  (balances_query fun h => balanced_backend net h .localHostAddress).bind fun _ =>
    (balances_ofExcept _).bind fun _ => balances_pure _

lemma balances_probeFrom (hosts : List String) :
    net.Balances (probeFrom net.os.backend settings hosts) := by
  induction hosts with
  | nil => exact balances_pure _
  | cons host rest ih =>
    have hquery := balances_query fun h =>
      balanced_backend net h (.probe host settings.probePort settings.probeTimeout)
    refine hquery.attempt.bind fun answer => ?_
    cases answer with
    | ok a => exact balances_pure _
    | error f =>
      dsimp only
      split_ifs
      · exact (balances_log _ _ _).bind fun _ => ih
      · exact balances_fail f

lemma balances_reportedHostName : net.Balances (reportedHostName net.os.backend) :=
  (balances_query fun h => balanced_backend net h .localHostName).bind fun _ => balances_pure _

lemma balances_probedHostName : net.Balances (probedHostName net.os.backend settings) := by
  refine (balances_probeFrom net settings settings.probeHosts).bind fun found => ?_
  cases found with
  | none => exact balances_pure _
  | some a =>
    have hquery := balances_query fun h => balanced_backend net h (.reverseLookup a)
    refine hquery.attempt.bind fun answer => ?_
    cases answer with
    | ok name => exact balances_pure _
    | error f =>
      dsimp only
      split_ifs
      · exact (balances_log _ _ _).bind fun _ => balances_pure _
      · exact balances_fail f

variable {net settings} in
lemma balances_firstResult {ε α : Type} {describe : α → String} {strategies : List (Strategy α)}
    (hs : ∀ strategy ∈ strategies, net.Balances strategy.run) :
    net.Balances (firstResult describe strategies : Act ε (Option α)) := by
  induction strategies with
  | nil => exact balances_pure _
  | cons strategy rest ih =>
    obtain ⟨hrun, hrest⟩ := List.forall_mem_cons.mp hs
    refine hrun.attempt.bind fun outcome => ?_
    cases outcome with
    | error f =>
      exact (balances_log _ _ _).bind fun _ => (balances_logDetails _ _ _).bind fun _ => ih hrest
    | ok found =>
      cases found with
      | none => exact ih hrest
      | some a => exact (balances_log _ _ _).bind fun _ => balances_pure _

def resolver : Resolver := { settings, network := net.os.backend }

lemma balances_localAddress : net.Balances (net.resolver settings).localAddress := by
  have hsearch : net.Balances (firstResult NetworkAddress.address
      (forAddress net.os.backend settings) : Act Failure (Option NetworkAddress)) := by
    refine balances_firstResult ?_
    simp only [forAddress, List.forall_mem_cons]
    exact ⟨balances_interfaceAddress net settings, balances_hostNameAddress net,
      balances_probeFrom net settings _, List.forall_mem_nil _⟩
  refine hsearch.bind fun found => ?_
  cases found with
  | none => exact (balances_log _ _ _).bind fun _ => balances_ofExcept _
  | some a => exact balances_pure _

lemma balances_localHostName : net.Balances (net.resolver settings).localHostName := by
  have hsearch : net.Balances (firstResult id
      (forHostName net.os.backend settings) : Act Failure (Option String)) := by
    refine balances_firstResult ?_
    simp only [forHostName, List.forall_mem_cons]
    exact ⟨balances_reportedHostName net, balances_probedHostName net settings,
      List.forall_mem_nil _⟩
  refine hsearch.bind fun found => ?_
  cases found with
  | none => exact (balances_log _ _ _).bind fun _ => balances_pure _
  | some name => exact balances_pure _

lemma balances_addressesFor (host : String) :
    net.Balances ((net.resolver settings).addressesFor host) := by
  have hquery := balances_query fun h => balanced_backend net h (.addressesFor host)
  refine hquery.attempt.bind fun answer => ?_
  cases answer with
  | ok found => exact balances_pure _
  | error f =>
    dsimp only
    split_ifs
    · exact (balances_log _ _ _).bind fun _ => balances_pure _
    · exact balances_fail f

lemma balances_freePort (target : BindTarget) (preferred : Int) :
    net.Balances ((net.resolver settings).freePort net.sockets target preferred) := by
  intro s
  obtain ⟨made, calls, hmade⟩ := Port.exists_attempts net.sockets target.hostText
    (Port.candidates preferred) s.events
  obtain ⟨s', hrun, hs'⟩ := Port.findFree_runsTo settings.defaultPort hmade s rfl
  have hevents : ((net.resolver settings).freePort net.sockets target preferred s).2.events =
      s'.events := congrArg (·.2.events) hrun
  exact ⟨calls, hevents.trans hs', balanced_attempts hmade⟩

end

end LiveNetwork

inductive Resolver.Operation
  | localAddress
  | localHostName
  | addressesFor (host : String)
  | freePort (target : BindTarget) (preferred : Int)

namespace LiveNetwork

open Resolver (Operation)

def after (net : LiveNetwork) (settings : Settings) (s : Session) : Operation → Session
  | .localAddress => ((net.resolver settings).localAddress s).2
  | .localHostName => ((net.resolver settings).localHostName s).2
  | .addressesFor host => ((net.resolver settings).addressesFor host s).2
  | .freePort target preferred =>
    ((net.resolver settings).freePort net.sockets target preferred s).2

/-- The session that operations leave one after the other, each with settings of its own. -/
def afterAll (net : LiveNetwork) (s : Session) (operations : List (Settings × Operation)) :
    Session :=
  operations.foldl (fun s (settings, one) => net.after settings s one) s

lemma exists_after (net : LiveNetwork) (settings : Settings) (s : Session) (one : Operation) :
    ∃ calls, (net.after settings s one).events = s.events ++ calls ∧
      net.Balanced none s.events calls := by
  cases one with
  | localAddress => exact balances_localAddress net settings s
  | localHostName => exact balances_localHostName net settings s
  | addressesFor host => exact balances_addressesFor net settings host s
  | freePort target preferred => exact balances_freePort net settings target preferred s

lemma exists_afterAll (net : LiveNetwork) (s : Session) (operations : List (Settings × Operation)) :
    ∃ calls, (net.afterAll s operations).events = s.events ++ calls ∧
      net.Balanced none s.events calls := by
  induction operations generalizing s with
  | nil => exact ⟨[], (List.append_nil _).symm, .done⟩
  | cons one rest ih =>
    obtain ⟨calls, hs, hcalls⟩ := net.exists_after one.1 s one.2
    obtain ⟨more, hs', hmore⟩ := ih (net.after one.1 s one.2)
    rw [hs] at hs' hmore
    refine ⟨calls ++ more, ?_, hcalls.append hmore⟩
    rw [← List.append_assoc, ← hs']
    rfl

/-- However the platform answers, the calls of any operations on a resolver close every socket that
they open, once, before the next one is opened; and so do the calls of each operation by itself,
whatever operations come before it. -/
theorem afterAll_closesSockets (net : LiveNetwork) (s : Session)
    (operations : List (Settings × Operation)) :
    (∃ calls, (net.afterAll s operations).events = s.events ++ calls ∧
        net.ClosesSockets s.events calls) ∧
      ∀ settings one, ∃ calls,
        (net.after settings (net.afterAll s operations) one).events =
          (net.afterAll s operations).events ++ calls ∧
        net.ClosesSockets (net.afterAll s operations).events calls := by
  obtain ⟨calls, hs, hcalls⟩ := net.exists_afterAll s operations
  refine ⟨⟨calls, hs, hcalls.closesSockets⟩, fun settings one => ?_⟩
  obtain ⟨more, hs', hmore⟩ := net.exists_after settings (net.afterAll s operations) one
  exact ⟨more, hs', hmore.closesSockets⟩

/-- A port in use costs one socket, and the next one is opened after it is closed. -/
example (os : OperatingSystem) :
    let sockets := Port.socketsBinding fun port =>
      if port = 0 then .ok () else .error { kind := .os }
    (LiveNetwork.after ⟨os, sockets⟩ {} {} (.freePort .anywhere 8080)).events =
      [.openSocket .inet, .bind "" 8080, .closeSocket,
        .openSocket .inet, .bind "" 0, .listen Defaults.listenBacklog, .closeSocket] := by
  rfl

end LiveNetwork

end HostDiscovery
