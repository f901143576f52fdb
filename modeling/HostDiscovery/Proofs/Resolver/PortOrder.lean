import HostDiscovery.Proofs.Resolver.PortSearch
import Mathlib.Data.List.Basic

/-! Which ports a search tries and what it makes of its attempts: the result, the calls on the
platform and the records in the log. The sockets may behave in any way in which they fail as sockets
do and report ports. -/
namespace HostDiscovery

/-- The system refuses a call, or a number is out of its range. -/
def Failure.IsOfSocket (f : Failure) : Prop := f.kind.isSystem = true ∨ f.kind = .overflow

structure SocketLayer.Regular (sockets : SocketLayer) : Prop where
  openSocket : ∀ family h f, sockets.openSocket family h = .error f → f.IsOfSocket
  bind : ∀ host port h f, sockets.bind host port h = .error f → f.IsOfSocket
  listen : ∀ backlog h f, sockets.listen backlog h = .error f → f.IsOfSocket
  boundName : ∀ h f, sockets.boundName h = .error f → f.IsOfSocket
  isPort : ∀ h address bound, sockets.boundName h = .ok (address, bound) → IsPort bound

namespace Port

section

variable (sockets : SocketLayer) (host : String)

/-- Attempts made one after the other, on whatever ports, and the calls that they make together. -/
inductive InTurn : List Event → List (Int × Reply) → List Event → Prop
  | nil {h : List Event} : InTurn h [] []
  | cons {h calls more : List Event} {port : Int} {reply : Reply} {later : List (Int × Reply)}
      (attempt : Attempt sockets host port h reply calls) (next : InTurn (h ++ calls) later more) :
      InTurn h ((port, reply) :: later) (calls ++ more)

def reported? : Int × Reply → Option Int
  | (_, .ok (_, bound)) => some bound
  | (_, .error _) => none

def openingError? : Int × Reply → Option LogRecord
  | (_, .ok _) => none
  | (port, .error f) => some (openingError host port f)

/-- What a search is, in its attempts with their calls, its records and its result. -/
structure Searched (preferred default : Int) (made : List (Int × Reply)) (calls : List Event)
    (records : List LogRecord) (result : Int) : Prop where
  ports : made.map Prod.fst =
    if preferred = 0 ∨ (made.head?.bind reported?).isSome then [preferred] else [preferred, 0]
  at_most_two : made.length ≤ 2
  distinct : (made.map Prod.fst).Nodup
  bound_host : ∀ text port, Event.bind text port ∈ calls → text = host
  family : ∀ family, Event.openSocket family ∈ calls → (family = .inet6 ↔ ':' ∈ host.toList)
  result_eq : result = (made.findSome? reported?).getD default
  errors : records.filter (·.level = .error) = made.filterMap (openingError? host)

end

variable {sockets : SocketLayer} {host : String} {port : Int} {h calls : List Event}
  {reply : Reply} {made : List (Int × Reply)}

lemma isSurvivable_of_isOfSocket {f : Failure} (hf : f.IsOfSocket) : isSurvivable f = true := by
  simpa [isSurvivable, Failure.IsOfSocket] using hf

lemma Attempt.harmless (hregular : sockets.Regular)
    (ha : Attempt sockets host port h reply calls) : Harmless reply := by
  cases ha with
  | unopened opening =>
    exact isSurvivable_of_isOfSocket (hregular.openSocket _ _ _ opening)
  | unbound _ binding =>
    exact isSurvivable_of_isOfSocket (hregular.bind _ _ _ _ binding)
  | deaf _ _ listening =>
    exact isSurvivable_of_isOfSocket (hregular.listen _ _ _ listening)
  | listening =>
    cases hname : sockets.boundName (h ++ socketCalls host port) with
    | error f => exact isSurvivable_of_isOfSocket (hregular.boundName _ _ hname)
    | ok name => exact hregular.isPort _ _ _ hname

lemma Attempts.inTurn {ports : List Int} (ha : Attempts sockets host h ports made calls) :
    InTurn sockets host h made calls := by
  induction ha with
  | none => exact .nil
  | last attempt _ => simpa using InTurn.cons attempt .nil
  | survived attempt _ _ ih => exact .cons attempt ih

lemma InTurn.harmless (hregular : sockets.Regular) (ha : InTurn sockets host h made calls) :
    ∀ attempt ∈ made, Harmless attempt.2 := by
  induction ha with
  | nil => simp
  | cons attempt _ ih => exact List.forall_mem_cons.mpr ⟨attempt.harmless hregular, ih⟩

lemma Attempt.mem_socketCalls (ha : Attempt sockets host port h reply calls) {e : Event}
    (he : e ∈ calls) : e ∈ socketCalls host port ++ [.closeSocket] := by
  have htake (count : Nat) (he : e ∈ (socketCalls host port).take count) :
      e ∈ socketCalls host port := List.mem_of_mem_take he
  cases ha with
  | unopened => exact List.mem_append_left _ (htake 1 he)
  | unbound => exact List.mem_append.mpr ((List.mem_append.mp he).imp_left (htake 2))
  | deaf => exact he
  | listening => exact he

lemma InTurn.exists_mem_socketCalls (ha : InTurn sockets host h made calls) {e : Event}
    (he : e ∈ calls) : ∃ port, e ∈ socketCalls host port ++ [.closeSocket] := by
  induction ha with
  | nil => simp at he
  | cons attempt _ ih =>
    rcases List.mem_append.mp he with he | he
    · exact ⟨_, attempt.mem_socketCalls he⟩
    · exact ih he

lemma InTurn.eq_host_of_bind (ha : InTurn sockets host h made calls) {text : String}
    (he : .bind text port ∈ calls) : text = host := by
  obtain ⟨port', hcall⟩ := ha.exists_mem_socketCalls he
  have hcall : text = host ∧ port = port' := by simpa [socketCalls] using hcall
  exact hcall.1

lemma familyOf_eq_inet6_iff : familyOf host = .inet6 ↔ ':' ∈ host.toList := by
  simp [familyOf]

lemma InTurn.eq_familyOf (ha : InTurn sockets host h made calls) {family : SocketFamily}
    (he : .openSocket family ∈ calls) : family = familyOf host := by
  obtain ⟨port', hcall⟩ := ha.exists_mem_socketCalls he
  simpa [socketCalls] using hcall

lemma Attempts.ports_of_singleton (ha : Attempts sockets host h [port] made calls) :
    made.map Prod.fst = [port] := by
  cases ha with
  | last => rfl
  | survived _ _ next =>
    cases next
    rfl

lemma Attempts.ports {preferred : Int}
    (ha : Attempts sockets host h (candidates preferred) made calls)
    (hharmless : ∀ attempt ∈ made, Harmless attempt.2) :
    made.map Prod.fst =
      if preferred = 0 ∨ (made.head?.bind reported?).isSome then [preferred]
      else [preferred, 0] := by
  by_cases hzero : preferred = 0
  · rw [if_pos (.inl hzero), hzero]
    rw [candidates, if_pos hzero] at ha
    exact ha.ports_of_singleton
  · rw [candidates, if_neg hzero] at ha
    cases ha with
    | last attempt decisive =>
      rename_i reply
      cases reply with
      | ok bound =>
        rw [if_pos (.inr rfl)]
        rfl
      | error f =>
        have hsurvivable := hharmless _ List.mem_cons_self
        exact absurd hsurvivable (by simp [Harmless, decisive f rfl])
    | survived attempt survivable next =>
      rw [if_neg (by simp [hzero, reported?]), List.map_cons, next.ports_of_singleton]

lemma Harmless.filter_error_attemptRecords {attempt : Int × Reply} (h : Harmless attempt.2) :
    (attemptRecords host attempt).filter (·.level = .error) =
      (openingError? host attempt).toList := by
  obtain ⟨port, f | ⟨address, bound⟩⟩ := attempt
  · have hsurvivable : isSurvivable f = true := h
    rw [attemptRecords, if_pos hsurvivable]
    rfl
  · have hbound : IsPort bound := h
    rw [attemptRecords, if_pos hbound]
    rfl

lemma conclusion_of_harmless (hharmless : ∀ attempt ∈ made, Harmless attempt.2) :
    conclusion made = .ok (made.findSome? reported?) := by
  induction made with
  | nil => rfl
  | cons attempt later ih =>
    obtain ⟨hattempt, hlater⟩ := List.forall_mem_cons.mp hharmless
    obtain ⟨port, f | ⟨address, bound⟩⟩ := attempt
    · have hsurvivable : isSurvivable f = true := hattempt
      rw [conclusion, if_pos hsurvivable, ih hlater]
      rfl
    · rw [conclusion, PortBinding.ofReported_of_isPort address hattempt]
      rfl

lemma filter_error_closingRecords (default : Int) (found : Option Int) :
    (closingRecords host default (.ok found)).filter (·.level = .error) = [] := by
  cases found <;> rfl

/-- Whatever sockets do, a search on a host gives a result. It tries the preferred port and then, if
that was not zero and was not to be had, port zero; what it comes to is the port that the first
socket has that got to listen, and the default exactly if there is no such socket. -/
theorem findFree_searched {sockets : SocketLayer} (hregular : sockets.Regular)
    (target : BindTarget) (preferred default : Int) (s : Session) :
    ∃ made calls records result,
      InTurn sockets target.hostText s.events made calls ∧
        Searched target.hostText preferred default made calls records result ∧
        findFree sockets target.hostText preferred default s =
          (.ok result, { s with events := s.events ++ calls, records := s.records ++ records }) := by
  obtain ⟨made, calls, hmade⟩ :=
    exists_attempts sockets target.hostText (candidates preferred) s.events
  have hturn := hmade.inTurn
  have hharmless := hturn.harmless hregular
  have hports := hmade.ports hharmless
  have hfind := findFree_leaves default hmade s rfl
  rw [conclusion_of_harmless hharmless] at hfind
  refine ⟨made, calls, _, _, hturn, ?_, hfind⟩
  refine ⟨hports, ?_, ?_, fun text port => hturn.eq_host_of_bind, ?_, rfl, ?_⟩
  · rw [← List.length_map Prod.fst, hports]
    split <;> simp
  · rw [hports]
    split_ifs with hone
    · simp
    · simp [mt Or.inl hone]
  · intro family hfamily
    rw [hturn.eq_familyOf hfamily, familyOf_eq_inet6_iff]
  · rw [List.filter_append, List.filter_flatMap, filter_error_closingRecords, List.append_nil,
      List.filterMap_eq_flatMap_toList]
    exact List.flatMap_congr fun attempt hattempt =>
      (hharmless attempt hattempt).filter_error_attemptRecords

def socketsDeafAtFirst : SocketLayer where
  openSocket _ _ := .ok ()
  bind _ _ _ := .ok ()
  listen _ h := if h.length ≤ 2 then .error { kind := .os } else .ok ()
  boundName _ := .ok ("::1", 40000)

lemma regular_socketsDeafAtFirst : socketsDeafAtFirst.Regular where
  openSocket _ _ _ h := by cases h
  bind _ _ _ _ h := by cases h
  listen backlog h f hlisten := by
    simp only [socketsDeafAtFirst] at hlisten
    split_ifs at hlisten
    obtain rfl := Except.error.inj hlisten
    exact .inl rfl
  boundName _ _ h := by cases h
  isPort h address bound hname := by
    obtain ⟨-, rfl⟩ := Prod.mk.inj (Except.ok.inj hname)
    decide

/-- A port that was only bound is not the result, although it was free. -/
theorem findFree_searched_deaf :
    socketsDeafAtFirst.Regular ∧ ∃ made calls records,
      InTurn socketsDeafAtFirst "::1" [] made calls ∧
        Searched "::1" 8080 16000 made calls records 40000 ∧
        calls = socketCalls "::1" 8080 ++ [.closeSocket] ++
          (socketCalls "::1" 0 ++ [.closeSocket]) := by
  have hregular := regular_socketsDeafAtFirst
  obtain ⟨made, calls, records, result, hturn, hsearched, hfind⟩ :=
    findFree_searched hregular (.host "::1") 8080 16000 {}
  obtain ⟨hresult, hsession⟩ := Prod.mk.inj hfind
  obtain rfl : 40000 = result := Except.ok.inj hresult
  have hcalls := congrArg Session.events hsession
  exact ⟨hregular, made, calls, records, hturn, hsearched, hcalls.symm⟩

end Port

end HostDiscovery
