import HostDiscovery.Resolver.Port
import HostDiscovery.Proofs.Session
import HostDiscovery.Proofs.Settings.Fields

/-! The search for a free port over any behaviour of the socket calls. It is followed attempt by
attempt: each tries one port with one socket, and every attempt but the last one fails in a way
that the search survives. -/
namespace HostDiscovery

/-- A port that a socket can be bound to. -/
def IsPort (port : Int) : Prop := 1 ≤ port ∧ port ≤ 65535

instance (port : Int) : Decidable (IsPort port) := inferInstanceAs (Decidable (_ ∧ _))

lemma PortBinding.ofReported_of_isPort (address : String) {port : Int} (hport : IsPort port) :
    ofReported address port = .ok { address, port } := by
  have hread : Field.portNumber (.int port) = .ok port :=
    Field.portNumber_eq_ok_iff.mpr ⟨rfl, hport⟩
  have hrequired : Field.required [("address", .text address), ("port", .int port)] "port"
      Field.portNumber = .ok port := Checked.under_eq_ok_iff.mpr hread
  rw [ofReported, ofFields, hrequired]
  rfl

lemma PortBinding.isPort_of_ofReported {address : String} {port : Int} {binding : PortBinding}
    (h : ofReported address port = .ok binding) : IsPort port := by
  cases hread : Field.portNumber (.int port) with
  | ok p =>
    obtain ⟨hp, hbounds⟩ := Field.portNumber_eq_ok_iff.mp hread
    obtain rfl : port = p := Except.ok.inj hp
    exact hbounds
  | error errors =>
    have hrequired : Field.required [("address", .text address), ("port", .int port)] "port"
        Field.portNumber = Checked.under (.name "port") (.error errors) := by
      rw [← hread]
      rfl
    rw [ofReported, ofFields, hrequired] at h
    cases h

namespace Port

abbrev Reply : Type := Except Failure (String × Int)

section

variable (sockets : SocketLayer) (host : String)

def socketCalls (port : Int) : List Event :=
  [.openSocket (familyOf host), .bind host port, .listen Defaults.listenBacklog]

inductive Attempt (port : Int) (h : List Event) : Reply → List Event → Prop
  | unopened {f : Failure} (opening : sockets.openSocket (familyOf host) h = .error f) :
      Attempt port h (.error f) ((socketCalls host port).take 1)
  | unbound {f : Failure} (opening : sockets.openSocket (familyOf host) h = .ok ())
      (binding : sockets.bind host port (h ++ (socketCalls host port).take 1) = .error f) :
      Attempt port h (.error f) ((socketCalls host port).take 2 ++ [.closeSocket])
  | deaf {f : Failure} (opening : sockets.openSocket (familyOf host) h = .ok ())
      (binding : sockets.bind host port (h ++ (socketCalls host port).take 1) = .ok ())
      (listening : sockets.listen Defaults.listenBacklog
        (h ++ (socketCalls host port).take 2) = .error f) :
      Attempt port h (.error f) (socketCalls host port ++ [.closeSocket])
  | listening (opening : sockets.openSocket (familyOf host) h = .ok ())
      (binding : sockets.bind host port (h ++ (socketCalls host port).take 1) = .ok ())
      (listening : sockets.listen Defaults.listenBacklog
        (h ++ (socketCalls host port).take 2) = .ok ()) :
      Attempt port h (sockets.boundName (h ++ socketCalls host port))
        (socketCalls host port ++ [.closeSocket])

/-- The attempts that a search makes on a list of ports, each with what it ends with, and the calls
that they make together. -/
inductive Attempts : List Event → List Int → List (Int × Reply) → List Event → Prop
  | none {h : List Event} : Attempts h [] [] []
  | last {h calls : List Event} {port : Int} {rest : List Int} {reply : Reply}
      (attempt : Attempt sockets host port h reply calls)
      (decisive : ∀ f, reply = .error f → isSurvivable f = false) :
      Attempts h (port :: rest) [(port, reply)] calls
  | survived {h calls more : List Event} {port : Int} {rest : List Int} {f : Failure}
      {later : List (Int × Reply)} (attempt : Attempt sockets host port h (.error f) calls)
      (survivable : isSurvivable f = true) (next : Attempts (h ++ calls) rest later more) :
      Attempts h (port :: rest) ((port, .error f) :: later) (calls ++ more)

end

def conclusion : List (Int × Reply) → Except Fault (Option Int)
  | [] => .ok none
  | (_, .ok (address, bound)) :: _ =>
    ((PortBinding.ofReported address bound).mapError Fault.invalid).map (some ·.port)
  | (_, .error f) :: later => if isSurvivable f then conclusion later else .error (.failed f)

def openingError (host : String) (port : Int) (f : Failure) : LogRecord where
  level := .error
  logger
  message := s!"Error while opening port {port} on '{host}': {f.message}"

def attemptRecords (host : String) : Int × Reply → List LogRecord
  | (_, .ok (address, bound)) =>
    if IsPort bound then
      [{ level := .debug, logger, message := s!"Port {bound} is available on {address}" }]
    else []
  | (port, .error f) =>
    if isSurvivable f then
      [openingError host port f,
        { level := .debug, logger, message := "Port probe details", details := true }]
    else []

def closingRecords (host : String) (default : Int) : Except Fault (Option Int) → List LogRecord
  | .ok none => [{
      level := .warning
      logger
      message := s!"No port could be opened on '{host}', using {default}" }]
  | _ => []

/-- An attempt ends with a port, or with a failure that the search survives. -/
def Harmless : Reply → Prop
  | .ok (_, bound) => IsPort bound
  | .error f => isSurvivable f = true

variable {sockets : SocketLayer} {host : String} {port : Int} {h calls : List Event}
  {reply : Reply}

lemma socketCall_runsTo {α : Type} (event : Event) (answer : List Event → Except Failure α)
    (h : List Event) : (socketCall event answer).RunsTo h (answer h) (h ++ [event]) :=
  Act.runsTo_query _ h

lemma boundName_runsTo (sockets : SocketLayer) (h : List Event) :
    (Act.query fun history => (sockets.boundName history, [])).RunsTo h
      (sockets.boundName h) h := by
  simpa using Act.runsTo_query (fun history => (sockets.boundName history, [])) h

lemma probe_runsTo_of_opened {h' : List Event}
    (opening : sockets.openSocket (familyOf host) h = .ok ())
    (listen : (listenOn sockets host port).RunsTo (h ++ (socketCalls host port).take 1) reply h') :
    (probe sockets host port).RunsTo h reply (h' ++ [.closeSocket]) := by
  have hopen := socketCall_runsTo (.openSocket (familyOf host))
    (sockets.openSocket (familyOf host)) h
  rw [opening] at hopen
  exact hopen.bind (listen.closing _)

lemma Attempt.runsTo (ha : Attempt sockets host port h reply calls) :
    (probe sockets host port).RunsTo h reply (h ++ calls) := by
  have hbind := socketCall_runsTo (.bind host port) (sockets.bind host port)
    (h ++ (socketCalls host port).take 1)
  have hlisten := socketCall_runsTo (.listen Defaults.listenBacklog)
    (sockets.listen Defaults.listenBacklog) (h ++ (socketCalls host port).take 2)
  rw [List.append_assoc] at hbind hlisten
  cases ha with
  | unopened opening =>
    have hopen := socketCall_runsTo (.openSocket (familyOf host))
      (sockets.openSocket (familyOf host)) h
    rw [opening] at hopen
    exact hopen.bind_error
  | unbound opening binding =>
    rw [binding] at hbind
    rw [← List.append_assoc]
    exact probe_runsTo_of_opened opening hbind.bind_error
  | deaf opening binding listening =>
    rw [binding] at hbind
    rw [listening] at hlisten
    rw [← List.append_assoc]
    exact probe_runsTo_of_opened opening (hbind.bind hlisten.bind_error)
  | listening opening binding listening =>
    rw [binding] at hbind
    rw [listening] at hlisten
    have hname := boundName_runsTo sockets (h ++ socketCalls host port)
    rw [← List.append_assoc]
    exact probe_runsTo_of_opened opening (hbind.bind (hlisten.bind hname))

lemma exists_attempt (sockets : SocketLayer) (host : String) (port : Int) (h : List Event) :
    ∃ reply calls, Attempt sockets host port h reply calls := by
  cases opening : sockets.openSocket (familyOf host) h with
  | error f => exact ⟨_, _, .unopened opening⟩
  | ok =>
    cases binding : sockets.bind host port (h ++ (socketCalls host port).take 1) with
    | error f => exact ⟨_, _, .unbound opening binding⟩
    | ok =>
      cases listening : sockets.listen Defaults.listenBacklog
          (h ++ (socketCalls host port).take 2) with
      | error f => exact ⟨_, _, .deaf opening binding listening⟩
      | ok => exact ⟨_, _, .listening opening binding listening⟩

lemma silent_probe (sockets : SocketLayer) (host : String) (port : Int) :
    (probe sockets host port).Silent := by
  have hlisten : (listenOn sockets host port).Silent :=
    (Act.silent_query _).bind fun _ => (Act.silent_query _).bind fun _ => Act.silent_query _
  exact (Act.silent_query _).bind fun _ => hlisten.closing _

lemma Attempt.leaves (ha : Attempt sockets host port h reply calls) :
    (probe sockets host port).Leaves h reply calls [] :=
  ha.runsTo.leaves (silent_probe sockets host port)

lemma firstOpen_leaves_of_ok {address : String} {bound : Int} {rest : List Int}
    (ha : Attempt sockets host port h (.ok (address, bound)) calls) :
    (firstOpen sockets host (port :: rest)).Leaves h (conclusion [(port, .ok (address, bound))])
      calls (attemptRecords host (port, .ok (address, bound))) := by
  by_cases hbound : IsPort bound
  · have hreport := PortBinding.ofReported_of_isPort address hbound
    rw [conclusion, hreport, attemptRecords, if_pos hbound]
    refine ha.leaves.attempt.bind_logs ?_
    dsimp only
    rw [hreport]
    change Act.Logs _ _ ([] ++ ([_] ++ []))
    exact (Act.logs_ofExcept _).bind ((Act.logs_log _ _ _).bind (Act.logs_pure _))
  · obtain ⟨errors, hreport⟩ : ∃ errors, PortBinding.ofReported address bound = .error errors := by
      cases hreport : PortBinding.ofReported address bound with
      | ok binding => exact absurd (PortBinding.isPort_of_ofReported hreport) hbound
      | error errors => exact ⟨errors, rfl⟩
    rw [conclusion, hreport, attemptRecords, if_neg hbound]
    refine ha.leaves.attempt.bind_logs ?_
    dsimp only
    rw [hreport]
    exact (Act.logs_ofExcept _).bind_error

lemma firstOpen_leaves_of_survivable {f : Failure} {rest : List Int} {r : Except Fault (Option Int)}
    {more : List Event} {records : List LogRecord}
    (ha : Attempt sockets host port h (.error f) calls) (hf : isSurvivable f = true)
    (hrest : (firstOpen sockets host rest).Leaves (h ++ calls) r more records) :
    (firstOpen sockets host (port :: rest)).Leaves h r (calls ++ more)
      (attemptRecords host (port, .error f) ++ records) := by
  rw [attemptRecords, if_pos hf]
  refine ha.leaves.attempt.bind ?_
  simp only [hf, if_true]
  change Act.Leaves _ _ _ _ ([_] ++ ([_] ++ records))
  exact (Act.logs_log _ _ _).bind_leaves ((Act.logs_logDetails _ _ _).bind_leaves hrest)

lemma firstOpen_leaves_of_fatal {f : Failure} {rest : List Int}
    (ha : Attempt sockets host port h (.error f) calls) (hf : isSurvivable f = false) :
    (firstOpen sockets host (port :: rest)).Leaves h (.error (.failed f)) calls
      (attemptRecords host (port, .error f)) := by
  rw [attemptRecords, if_neg (Bool.not_eq_true _ ▸ hf)]
  refine ha.leaves.attempt.bind_logs ?_
  simp only [hf, Bool.false_eq_true, if_false]
  exact Act.logs_fail _

/-- The search ends as its attempts say, and leaves behind what they make. -/
lemma Attempts.firstOpen_leaves {ports : List Int} {made : List (Int × Reply)}
    (ha : Attempts sockets host h ports made calls) :
    (firstOpen sockets host ports).Leaves h (conclusion made) calls
      (made.flatMap (attemptRecords host)) := by
  induction ha with
  | none => exact (Act.logs_pure _).leaves _
  | @last h calls port rest reply attempt decisive =>
    rw [List.flatMap_singleton]
    cases reply with
    | ok name => exact firstOpen_leaves_of_ok attempt
    | error f =>
      have hf := decisive f rfl
      rw [conclusion, hf]
      exact firstOpen_leaves_of_fatal attempt hf
  | survived attempt survivable next ih =>
    rw [conclusion, if_pos survivable, List.flatMap_cons]
    exact firstOpen_leaves_of_survivable attempt survivable ih

lemma exists_attempts (sockets : SocketLayer) (host : String) (ports : List Int)
    (h : List Event) : ∃ made calls, Attempts sockets host h ports made calls := by
  induction ports generalizing h with
  | nil => exact ⟨_, _, .none⟩
  | cons port rest ih =>
    obtain ⟨reply, calls, hattempt⟩ := exists_attempt sockets host port h
    by_cases hsurvived : ∃ f, reply = .error f ∧ isSurvivable f = true
    · obtain ⟨f, rfl, hf⟩ := hsurvived
      obtain ⟨later, more, hnext⟩ := ih (h ++ calls)
      exact ⟨_, _, .survived hattempt hf hnext⟩
    · have hdecisive : ∀ f, reply = .error f → isSurvivable f = false :=
        fun f hf => by simpa [hf] using hsurvived
      exact ⟨_, _, .last hattempt hdecisive⟩

lemma Attempts.conclusion_isPort_iff {ports : List Int} {made : List (Int × Reply)}
    (ha : Attempts sockets host h ports made calls) :
    (∃ found, conclusion made = .ok found ∧ ∀ p ∈ found, IsPort p) ↔
      ∀ attempt ∈ made, Harmless attempt.2 := by
  induction ha with
  | none => simp [conclusion]
  | @last h calls port rest reply attempt decisive =>
    cases reply with
    | error f => simp [conclusion, Harmless, decisive f rfl]
    | ok bound =>
      obtain ⟨address, bound⟩ := bound
      simp only [List.mem_singleton, forall_eq, Harmless, conclusion]
      constructor
      · rintro ⟨found, hfound, -⟩
        cases hreport : PortBinding.ofReported address bound with
        | ok binding => exact PortBinding.isPort_of_ofReported hreport
        | error errors =>
          rw [hreport] at hfound
          cases hfound
      · intro hbound
        have hreport := PortBinding.ofReported_of_isPort address hbound
        refine ⟨some bound, ?_, by simpa using hbound⟩
        rw [hreport]
        rfl
  | survived attempt survivable next ih =>
    rw [conclusion, if_pos survivable, ih]
    simp [Harmless, survivable]

lemma findFree_leaves {preferred : Int} (default : Int) {made : List (Int × Reply)}
    (ha : Attempts sockets host h (candidates preferred) made calls) :
    (findFree sockets host preferred default).Leaves h
      ((conclusion made).map fun found => found.getD default) calls
      (made.flatMap (attemptRecords host) ++ closingRecords host default (conclusion made)) := by
  have hrun := ha.firstOpen_leaves
  cases hmade : conclusion made with
  | error fault =>
    rw [hmade] at hrun
    simp only [closingRecords, List.append_nil]
    exact hrun.bind_error
  | ok found =>
    rw [hmade] at hrun
    refine hrun.bind_logs ?_
    cases found with
    | some port => exact Act.logs_pure _
    | none => exact (Act.logs_log _ _ _).bind (Act.logs_pure _)

lemma findFree_runsTo {preferred : Int} (default : Int) {made : List (Int × Reply)}
    (ha : Attempts sockets host h (candidates preferred) made calls) :
    (findFree sockets host preferred default).RunsTo h
      ((conclusion made).map fun found => found.getD default) (h ++ calls) :=
  (findFree_leaves default ha).runsTo

/-- The search for a port gives a port exactly if none of the attempts that it makes fails in a way
that it does not survive, or reports a port that is none. -/
theorem findFree_isPort_iff (sockets : SocketLayer) (target : BindTarget)
    (preferred default : Int) (hdefault : IsPort default) (s : Session) :
    (∃ port s', findFree sockets target.hostText preferred default s = (.ok port, s') ∧
        IsPort port) ↔
      ∃ made calls,
        Attempts sockets target.hostText s.events (candidates preferred) made calls ∧
          ∀ attempt ∈ made, Harmless attempt.2 := by
  constructor
  · rintro ⟨port, s', hfind, hport⟩
    obtain ⟨made, calls, hmade⟩ :=
      exists_attempts sockets target.hostText (candidates preferred) s.events
    obtain ⟨s'', hrun, -⟩ := findFree_runsTo default hmade s rfl
    have hconclusion := (Prod.mk.inj (hrun.symm.trans hfind)).1
    refine ⟨made, calls, hmade, hmade.conclusion_isPort_iff.mp ?_⟩
    cases hfound : conclusion made with
    | error fault => simp [hfound, Except.map] at hconclusion
    | ok found =>
      refine ⟨found, rfl, ?_⟩
      rintro p rfl
      obtain rfl : p = port := by simpa [hfound, Except.map] using hconclusion
      exact hport
  · rintro ⟨made, calls, hmade, hharmless⟩
    obtain ⟨found, hfound, hports⟩ := hmade.conclusion_isPort_iff.mpr hharmless
    obtain ⟨s', hrun, -⟩ := findFree_runsTo default hmade s rfl
    rw [hfound] at hrun
    refine ⟨_, s', hrun, ?_⟩
    cases found with
    | none => exact hdefault
    | some port => exact hports port rfl

def socketsBinding (binding : (port : Int) → Except Failure Unit) : SocketLayer where
  openSocket _ _ := .ok ()
  bind _ port _ := binding port
  listen _ _ := .ok ()
  boundName _ := .ok ("127.0.0.1", 40000)

/-- The preferred port is in use, and the system has another one. -/
theorem findFree_isPort_in_use :
    let sockets := socketsBinding fun port => if port = 0 then .ok () else .error { kind := .os }
    IsPort 16000 ∧
      ∃ port s', findFree sockets (BindTarget.host "127.0.0.1").hostText 8080 16000 {} =
        (.ok port, s') ∧ IsPort port := by
  intro sockets
  have hdefault : IsPort 16000 := by decide
  have hiff := findFree_isPort_iff sockets (.host "127.0.0.1") 8080 16000 hdefault {}
  refine ⟨hdefault, hiff.mpr
    ⟨_, _, .survived (.unbound rfl rfl) rfl (.last (.listening rfl rfl rfl) ?_), ?_⟩⟩
  · rintro f ⟨⟩
  · intro attempt hattempt
    rcases List.mem_cons.mp hattempt with rfl | hattempt
    · rfl
    · obtain rfl := List.mem_singleton.mp hattempt
      exact ⟨by decide, by decide⟩

def unencodableHost : Failure :=
  { kind := .wrongType, message := "encoding of hostname failed" }

/-- A host text that cannot be encoded ends the search without a port. -/
theorem findFree_unencodable_host :
    ¬ ∀ (sockets : SocketLayer) (target : BindTarget) (preferred default : Int) (s : Session),
      IsPort default → ∃ port s',
        findFree sockets target.hostText preferred default s = (.ok port, s') ∧ IsPort port := by
  intro h
  obtain ⟨port, s', hfind, -⟩ :=
    h (socketsBinding fun _ => .error unencodableHost) (.host "ü..local") 8080 16000 {} (by decide)
  have hfails : (findFree (socketsBinding fun _ => .error unencodableHost)
      (BindTarget.host "ü..local").hostText 8080 16000 {}).1 =
        .error (.failed unencodableHost) := rfl
  rw [hfind] at hfails
  cases hfails

end Port

end HostDiscovery
