import HostDiscovery.Files.System
import HostDiscovery.Log.Record
import HostDiscovery.Value

/-!
# Sessions and actions

A session is what a run has done so far and what it finds: the calls made on
the platform, the log records, and the file system. An action takes a session,
fails or gives a result, and leaves a session in either case.

The platform is a parameter of the actions that use it. A query is a question
to it: the answer may depend on all calls made before, and says which calls
were made to get it, so a platform that answers the same call differently the
second time is covered.
-/
namespace HostDiscovery

inductive SocketFamily
  | inet
  | inet6
  deriving DecidableEq, Repr

/-- A call on the platform, in the words of the layer that makes it. -/
inductive Event
  -- a network backend
  | interfaces
  | localHostName
  | localHostAddress
  | probe (host : String) (port : Int) (timeout : Float)
  | reverseLookup (address : String)
  | addressesFor (host : String)
  -- the operating system's tables and name service
  | interfaceStates
  | interfaceAddresses
  | hostName
  | hostByName (name : String)
  | connect (host : String) (port : Int) (timeout : Float)
  | disconnect
  | hostByAddress (address : String)
  | addressInfo (host : String)
  -- listening sockets
  | openSocket (family : SocketFamily)
  | bind (host : String) (port : Int)
  | listen (backlog : Nat)
  | closeSocket
  -- downloads
  | get (url : String) (timeout : Value)
  | readBody (size : Nat)
  | closeResponse
  deriving Repr

/-- A question to the platform: the answer and the calls it took, given all calls before. -/
def Query (α : Type) : Type := List Event → Except Failure α × List Event

namespace Query

def ask {α : Type} (event : Event) (answer : List Event → Except Failure α) : Query α :=
  fun history => (answer history, [event])

def ofExcept {α : Type} (answer : Except Failure α) : Query α := fun _ => (answer, [])

protected def bind {α β : Type} (first : Query α) (next : α → Query β) : Query β := fun history =>
  match first history with
  | (.error f, calls) => (.error f, calls)
  | (.ok a, calls) =>
    match next a (history ++ calls) with
    | (r, more) => (r, calls ++ more)

instance : Monad Query where
  pure a := ofExcept (.ok a)
  bind := Query.bind

def closing {α : Type} (event : Event) (query : Query α) : Query α := fun history =>
  match query history with
  | (r, calls) => (r, calls ++ [event])

end Query

structure Session where
  events : List Event := []
  records : List LogRecord := []
  files : FileSystem := {}
  deriving Repr

/-- A step that may fail with `ε` and otherwise gives an `α`. -/
def Act (ε α : Type) : Type := Session → Except ε α × Session

namespace Act

variable {ε ε' α β : Type}

protected def pure (a : α) : Act ε α := fun s => (.ok a, s)

protected def bind (first : Act ε α) (next : α → Act ε β) : Act ε β := fun s =>
  match first s with
  | (.error e, s) => (.error e, s)
  | (.ok a, s) => next a s

instance : Monad (Act ε) where
  pure := Act.pure
  bind := Act.bind

def fail (e : ε) : Act ε α := fun s => (.error e, s)

def ofExcept (r : Except ε α) : Act ε α := fun s => (r, s)

/-- The outcome of an action as a result, so that the caller decides about a failure. -/
def attempt (act : Act ε α) : Act ε' (Except ε α) := fun s =>
  match act s with
  | (r, s) => (.ok r, s)

def mapError (f : ε → ε') (act : Act ε α) : Act ε' α := fun s =>
  match act s with
  | (r, s) => (r.mapError f, s)

def log (level : LogLevel) (logger message : String) : Act ε Unit := fun s =>
  (.ok (), { s with records := s.records ++ [{ level, logger, message }] })

/-- A record that carries the details of the failure it is about. -/
def logDetails (level : LogLevel) (logger message : String) : Act ε Unit := fun s =>
  (.ok (), { s with records := s.records ++ [{ level, logger, message, details := true }] })

def event (e : Event) : Act ε Unit := fun s => (.ok (), { s with events := s.events ++ [e] })

/-- A last call whatever the outcome. -/
def closing (e : Event) (act : Act ε α) : Act ε α := fun s =>
  match act s with
  | (r, s) => (r, { s with events := s.events ++ [e] })

def query (q : Query α) : Act Failure α := fun s =>
  match q s.events with
  | (r, calls) => (r, { s with events := s.events ++ calls })

def files : Act ε FileSystem := fun s => (.ok s.files, s)

def setFiles (files : FileSystem) : Act ε Unit := fun s => (.ok (), { s with files })

theorem pure_apply (a : α) (s : Session) : (pure a : Act ε α) s = (.ok a, s) := rfl

theorem bind_of_ok {first : Act ε α} {next : α → Act ε β} {s s' : Session} {a : α}
    (h : first s = (.ok a, s')) : (first >>= next) s = next a s' := by
  simp [bind, Act.bind, h]

theorem bind_of_error {first : Act ε α} {next : α → Act ε β} {s s' : Session} {e : ε}
    (h : first s = (.error e, s')) : (first >>= next) s = (.error e, s') := by
  simp [bind, Act.bind, h]

end Act

end HostDiscovery
