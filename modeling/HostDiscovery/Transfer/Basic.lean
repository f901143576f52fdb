import HostDiscovery.Defaults
import HostDiscovery.Session
import HostDiscovery.Url.Refusal

/-!
# Downloads

A download asks for a URL and writes the body piece by piece into a file. The
response is closed on every path once there is one, and a file that was written
in part before a failure stays. A failure of the request or of the system is
reported with a short reason; other failures are passed on.
-/
namespace HostDiscovery

structure Response where
  status : Int := 200
  reason : Option String := some "OK"
  chunks : List Bytes := []
  /-- What the body breaks off with after its last piece. -/
  broken : Option Failure := none
  deriving DecidableEq, Repr

/-- Requests, answered given all calls made before. -/
structure HttpLayer where
  get : (url : String) → (timeout : Value) → List Event → Except Failure Response

/-- The layer with a check of the URL in front: a URL that is refused is not asked for. -/
def HttpLayer.checked (http : HttpLayer) : HttpLayer where
  get url timeout calls :=
    match Url.refusal? url with
    | some f => .error f
    | none => http.get url timeout calls

namespace Response

/-- Pieces of a given size, the last one possibly smaller; `fuel` bounds their number. -/
def piecesWithin (size : Nat) : (fuel : Nat) → Bytes → List Bytes
  | 0, _ => []
  | fuel + 1, bytes =>
    if bytes.isEmpty then [] else bytes.take size :: piecesWithin size fuel (bytes.drop size)

def pieces (bytes : Bytes) : List Bytes :=
  piecesWithin Defaults.transferChunkSize bytes.length bytes

def body (r : Response) : Bytes := r.chunks.flatten

/-- Statuses from 400 to 599 refuse the request. -/
def refusal (r : Response) (url : String) : Option Failure :=
  let phrase := r.reason.getD "None"
  let side : Option String :=
    if 400 ≤ r.status ∧ r.status < 500 then some "Client"
    else if 500 ≤ r.status ∧ r.status < 600 then some "Server"
    else none
  side.map fun side =>
    { kind := .httpStatus
      message := s!"{r.status} {side} Error: {phrase} for url: {url}"
      status := some (r.status, r.reason) }

end Response

structure TransferError where
  url : String
  reason : String
  cause : Failure
  deriving DecidableEq, Repr

def TransferError.message (e : TransferError) : String :=
  s!"Error while downloading {e.url}: {e.reason}"

namespace Transfer

/-- A reported download error, or a failure that is passed on as it is. -/
inductive Fault
  | reported (error : TransferError)
  | failed (failure : Failure)
  deriving DecidableEq, Repr

def logger : String := childLogger (some "transfer")

def describe (f : Failure) : String :=
  match f.status with
  | some (status, phrase) =>
    let text := s!"HTTP {status} " ++ phrase.getD ""
    String.ofList (Text.trim text.toList)
  | none =>
    if f.kind.isRequestTimeout then "Timeout"
    else if f.kind.isRequestConnection then "Connection failed"
    else if f.message.isEmpty then f.kind.label
    else f.message

/-- Adds the pieces of a body to an open file as they are read, and counts their bytes on top of
those that are there already. A failure comes with the count that it finds. -/
def store (location : Location) (broken : Option Failure) :
    (written : Nat) → List Bytes → Act (Nat × Failure) Nat
  | written, [] => do
    Act.event (.readBody Defaults.transferChunkSize)
    match broken with
    | some f => Act.fail (written, f)
    | none => return written
  | written, piece :: rest => do
    Act.event (.readBody Defaults.transferChunkSize)
    Act.setFiles ((← Act.files).extend location piece)
    store location broken (written + piece.length) rest

def receive (response : Response) (url : String) (destination : FilePath) :
    Act (Nat × Failure) Nat :=
  match response.refusal url with
  | some f => Act.fail (0, f)
  | none => do
    match (← Act.files).create destination with
    | .error f => Act.fail (0, f)
    | .ok (location, fs) =>
      Act.setFiles fs
      store location response.broken 0 response.chunks

/-- Requests a URL and receives the response, which is closed in any case. -/
def fetch (http : HttpLayer) (url : String) (destination : FilePath) (timeout : Value) :
    Act (Nat × Failure) Nat := do
  let request := Query.ask (.get url timeout) (http.get url timeout)
  let response ← (Act.query request).mapError fun f => (0, f)
  (receive response url destination).closing .closeResponse

/-- Downloads a URL into a file and gives the number of bytes. -/
def download (http : HttpLayer) (url : String) (destination : FilePath) (timeout : Value) :
    Act Fault Nat := do
  match ← (fetch http url destination timeout).attempt with
  | .ok written =>
    Act.log .debug logger s!"Downloaded {written} bytes from {url} to {destination.toString}"
    return written
  | .error (written, f) =>
    if f.kind.isSystem then
      Act.log .error logger
        s!"Download from {url} failed after {written} bytes: {f.message}"
      Act.fail (.reported { url, reason := describe f, cause := f })
    else Act.fail (.failed f)

end Transfer

end HostDiscovery
