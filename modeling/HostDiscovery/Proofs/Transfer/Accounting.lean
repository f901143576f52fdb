import HostDiscovery.Proofs.Files.Storage
import HostDiscovery.Transfer.Basic

/-! What a download leaves behind on each of its ways: the file, the number of bytes that it gives
or reports, and the response. The file and the count are kept apart and stay in step with every
piece, so that they agree wherever the body breaks off. -/
namespace HostDiscovery

namespace Response

lemma flatten_piecesWithin {size : Nat} (hsize : 0 < size) {fuel : Nat} {bytes : Bytes}
    (hfuel : bytes.length ≤ fuel) : (piecesWithin size fuel bytes).flatten = bytes := by
  induction fuel generalizing bytes with
  | zero =>
    have hnone : bytes = [] := List.length_eq_zero_iff.mp (Nat.le_zero.mp hfuel)
    rw [hnone]
    rfl
  | succ fuel ih =>
    rw [piecesWithin]
    split_ifs with hempty
    · exact (List.isEmpty_iff.mp hempty).symm
    · have hne : 0 < bytes.length := List.length_pos_iff.mpr (by simpa using hempty)
      have hrest : (bytes.drop size).length ≤ fuel := by
        rw [List.length_drop]
        omega
      rw [List.flatten_cons, ih hrest, List.take_append_drop]

lemma length_le_of_mem_piecesWithin {size fuel : Nat} {bytes piece : Bytes}
    (h : piece ∈ piecesWithin size fuel bytes) : piece.length ≤ size := by
  induction fuel generalizing bytes with
  | zero => cases h
  | succ fuel ih =>
    rw [piecesWithin] at h
    split_ifs at h
    · cases h
    · obtain rfl | hrest := List.mem_cons.mp h
      · exact List.length_take_le size bytes
      · exact ih hrest

/-- A body that is read in pieces arrives as a whole, and no piece is larger than what is read at a
time. -/
theorem body_pieces (bytes : Bytes) :
    ({ chunks := pieces bytes } : Response).body = bytes ∧
      ∀ piece ∈ pieces bytes, piece.length ≤ Defaults.transferChunkSize :=
  ⟨flatten_piecesWithin (by decide) (Nat.le_refl _), fun _ => length_le_of_mem_piecesWithin⟩

end Response

namespace Transfer

/-- The calls that take a number of pieces from a response, and one that finds no more. -/
def reads (pieces : Nat) : List Event :=
  List.replicate (pieces + 1) (.readBody Defaults.transferChunkSize)

def isClosing : Event → Bool
  | .closeResponse => true
  | _ => false

def closings (calls : List Event) : Nat := calls.countP isClosing

/-- How the bytes that were received are passed on, given what the body breaks off with. -/
def outcome (broken : Option Failure) (written : Nat) : Except (Nat × Failure) Nat :=
  match broken with
  | none => .ok written
  | some f => .error (written, f)

section

variable (location : Location) (broken : Option Failure) {fs : FileSystem} {s : Session}

lemma store_nil_apply (written : Nat) (s : Session) :
    store location broken written [] s =
      (outcome broken written, { s with events := s.events ++ reads 0 }) := by
  cases broken <;> rfl

lemma store_cons_apply (written : Nat) (piece : Bytes) (rest : List Bytes) (s : Session) :
    store location broken written (piece :: rest) s =
      store location broken (written + piece.length) rest
        { s with
          events := s.events ++ [.readBody Defaults.transferChunkSize]
          files := s.files.extend location piece } :=
  rfl

lemma store_apply (hne : location ≠ []) (pieces : List Bytes) (received : Bytes)
    (hs : s.files = fs.put location (.file received)) :
    store location broken received.length pieces s =
      (outcome broken (received ++ pieces.flatten).length,
        { s with
          events := s.events ++ reads pieces.length
          files := fs.put location (.file (received ++ pieces.flatten)) }) := by
  induction pieces generalizing received s with
  | nil => simp [store_nil_apply, ← hs]
  | cons piece rest ih =>
    have hstep : s.files.extend location piece = fs.put location (.file (received ++ piece)) := by
      rw [hs, FileSystem.extend_put hne]
    rw [store_cons_apply, ← List.length_append, ih (received ++ piece) hstep]
    simp [reads, List.replicate_succ]

end

def faultOf (url : String) (f : Failure) : Fault :=
  if f.kind.isSystem then .reported { url, reason := describe f, cause := f } else .failed f

/-- What is logged about a failure after a number of bytes; only a reported one is logged. -/
def failureRecords (url : String) (written : Nat) (f : Failure) : List LogRecord :=
  if f.kind.isSystem then
    [{ level := .error, logger,
       message := s!"Download from {url} failed after {written} bytes: {f.message}" }]
  else []

def completionRecord (url : String) (written : Nat) (destination : FilePath) : LogRecord where
  level := .debug
  logger := logger
  message := s!"Downloaded {written} bytes from {url} to {destination.toString}"

section

variable (http : HttpLayer) (url : String) (destination : FilePath) (timeout : Value) (s : Session)

inductive Ending : Except Fault Nat → List Event → List LogRecord → FileSystem → Prop
  | unanswered {f : Failure} (answer : http.get url timeout s.events = .error f) :
      Ending (.error (faultOf url f)) [.get url timeout] (failureRecords url 0 f) s.files
  | refused {response : Response} {f : Failure}
      (answer : http.get url timeout s.events = .ok response)
      (status : response.refusal url = some f) :
      Ending (.error (faultOf url f)) [.get url timeout, .closeResponse] (failureRecords url 0 f)
        s.files
  | unopened {response : Response} {f : Failure}
      (answer : http.get url timeout s.events = .ok response)
      (accepted : response.refusal url = none)
      (opening : s.files.writable destination = .error f) :
      Ending (.error (faultOf url f)) [.get url timeout, .closeResponse] (failureRecords url 0 f)
        s.files
  | cutOff {response : Response} {f : Failure} {after : FileSystem}
      (answer : http.get url timeout s.events = .ok response)
      (accepted : response.refusal url = none) (cut : response.broken = some f)
      (stored : s.files.Stored destination response.body after) :
      Ending (.error (faultOf url f))
        (.get url timeout :: reads response.chunks.length ++ [.closeResponse])
        (failureRecords url response.body.length f) after
  | complete {response : Response} {after : FileSystem}
      (answer : http.get url timeout s.events = .ok response)
      (accepted : response.refusal url = none) (whole : response.broken = none)
      (stored : s.files.Stored destination response.body after) :
      Ending (.ok response.body.length)
        (.get url timeout :: reads response.chunks.length ++ [.closeResponse])
        [completionRecord url response.body.length destination] after

end

variable {http : HttpLayer} {url : String} {destination : FilePath} {timeout : Value}
  {s s' : Session} {response : Response} {f : Failure}

lemma receive_refused (status : response.refusal url = some f) (s : Session) :
    receive response url destination s = (.error (0, f), s) := by
  rw [receive, status]
  rfl

lemma receive_unopened (accepted : response.refusal url = none)
    (opening : s.files.writable destination = .error f) :
    receive response url destination s = (.error (0, f), s) := by
  have hcreate : s.files.create destination = .error f := by
    rw [FileSystem.create, opening]
    rfl
  rw [receive, accepted]
  refine (Act.bind_of_ok rfl).trans ?_
  rw [hcreate]
  rfl

lemma receive_opened {location : Location} {old : Bytes}
    (accepted : response.refusal url = none)
    (opening : s.files.writable destination = .ok (location, old)) :
    receive response url destination s =
      (outcome response.broken response.body.length,
        { s with
          events := s.events ++ reads response.chunks.length
          files := s.files.put location (.file response.body) }) := by
  have hcreate : s.files.create destination = .ok (location, s.files.put location (.file [])) := by
    rw [FileSystem.create, opening]
    rfl
  have hne := FileSystem.ne_nil_of_writable opening
  rw [receive, accepted]
  refine (Act.bind_of_ok rfl).trans ?_
  rw [hcreate]
  exact store_apply location response.broken hne response.chunks [] rfl

lemma fetch_unanswered (answer : http.get url timeout s.events = .error f) :
    fetch http url destination timeout s =
      (.error (0, f), { s with events := s.events ++ [.get url timeout] }) := by
  refine Act.bind_of_error ?_
  simp only [Act.mapError, Act.query, Query.ask, answer]
  rfl

lemma fetch_answered (answer : http.get url timeout s.events = .ok response)
    {r : Except (Nat × Failure) Nat}
    (received : receive response url destination
      { s with events := s.events ++ [.get url timeout] } = (r, s')) :
    fetch http url destination timeout s =
      (r, { s' with events := s'.events ++ [.closeResponse] }) := by
  have asked : ((Act.query (Query.ask (.get url timeout) (http.get url timeout))).mapError
      fun f => (0, f)) s = (.ok response, { s with events := s.events ++ [.get url timeout] }) := by
    simp only [Act.mapError, Act.query, Query.ask, answer]
    rfl
  refine (Act.bind_of_ok asked).trans ?_
  rw [Act.closing, received]

lemma download_of_fetch_error {written : Nat}
    (fetched : fetch http url destination timeout s = (.error (written, f), s')) :
    download http url destination timeout s =
      (.error (faultOf url f),
        { s' with records := s'.records ++ failureRecords url written f }) := by
  have attempted : ((fetch http url destination timeout).attempt :
      Act Fault (Except (Nat × Failure) Nat)) s = (.ok (.error (written, f)), s') := by
    rw [Act.attempt, fetched]
  rw [download, Act.bind_of_ok attempted]
  dsimp only [faultOf, failureRecords]
  cases hsystem : f.kind.isSystem with
  | true => rfl
  | false => simp [Act.fail]

lemma download_of_fetch_ok {written : Nat}
    (fetched : fetch http url destination timeout s = (.ok written, s')) :
    download http url destination timeout s =
      (.ok written,
        { s' with records := s'.records ++ [completionRecord url written destination] }) := by
  have attempted : ((fetch http url destination timeout).attempt :
      Act Fault (Except (Nat × Failure) Nat)) s = (.ok (.ok written), s') := by
    rw [Act.attempt, fetched]
  rw [download, Act.bind_of_ok attempted]
  rfl

lemma exists_download_ending (http : HttpLayer) (url : String) (destination : FilePath)
    (timeout : Value) (s : Session) :
    ∃ r calls records after, Ending http url destination timeout s r calls records after ∧
      download http url destination timeout s =
        (r, { events := s.events ++ calls, records := s.records ++ records, files := after }) := by
  cases answer : http.get url timeout s.events with
  | error f =>
    exact ⟨_, _, _, _, .unanswered answer, download_of_fetch_error (fetch_unanswered answer)⟩
  | ok response =>
    cases status : response.refusal url with
    | some f =>
      refine ⟨_, _, _, _, .refused answer status, ?_⟩
      simpa using download_of_fetch_error (fetch_answered answer (receive_refused status _))
    | none =>
      cases opening : s.files.writable destination with
      | error f =>
        have fetched := fetch_answered answer (receive_unopened status opening)
        refine ⟨_, _, _, _, .unopened answer status opening, ?_⟩
        simpa using download_of_fetch_error fetched
      | ok opened =>
        obtain ⟨location, old⟩ := opened
        have stored := FileSystem.stored_put opening response.body
        have received := receive_opened
          (s := { s with events := s.events ++ [.get url timeout] }) status opening
        have fetched := fetch_answered answer received
        cases whole : response.broken with
        | some f =>
          rw [whole] at fetched
          refine ⟨_, _, _, _, .cutOff answer status whole stored, ?_⟩
          simpa using download_of_fetch_error fetched
        | none =>
          rw [whole] at fetched
          refine ⟨_, _, _, _, .complete answer status whole stored, ?_⟩
          simpa using download_of_fetch_ok fetched

lemma closings_append (calls more : List Event) :
    closings (calls ++ more) = closings calls + closings more :=
  List.countP_append

lemma closings_reads (pieces : Nat) : closings (reads pieces) = 0 := by
  simp [closings, reads, List.countP_replicate, isClosing]

lemma Ending.closings_eq {r : Except Fault Nat} {calls : List Event} {records : List LogRecord}
    {after : FileSystem} (h : Ending http url destination timeout s r calls records after) :
    closings calls = if (http.get url timeout s.events).isOk then 1 else 0 := by
  cases h with
  | unanswered answer =>
    rw [answer]
    rfl
  | refused answer | unopened answer =>
    rw [answer]
    rfl
  | cutOff answer | complete answer =>
    rw [answer, ← List.singleton_append, closings_append, closings_append, closings_reads]
    rfl

/-- A download ends whatever the request, the response, the body and the file system are. The file
system is as before unless the destination could be opened; then it holds the pieces that came,
their number of bytes is given back or reported, and no other file has changed. A response is
closed exactly once. -/
theorem download_accounts (http : HttpLayer) (url : String) (destination : FilePath)
    (timeout : Value) (s : Session) :
    ∃ r calls records after,
      download http url destination timeout s =
        (r, { events := s.events ++ calls, records := s.records ++ records, files := after }) ∧
      Ending http url destination timeout s r calls records after ∧
      closings calls = if (http.get url timeout s.events).isOk then 1 else 0 := by
  obtain ⟨r, calls, records, after, hending, hrun⟩ :=
    exists_download_ending http url destination timeout s
  exact ⟨r, calls, records, after, hrun, hending, hending.closings_eq⟩

end Transfer

end HostDiscovery
