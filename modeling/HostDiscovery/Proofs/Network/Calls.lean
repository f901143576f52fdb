import HostDiscovery.Network.Backend
import Mathlib.Tactic.Lemma

/-! Calls on a backend as data, and the history that a sequence of them leaves. -/
namespace HostDiscovery

def NetworkAddress.IsParsed (a : NetworkAddress) : Prop := ∃ s, parse s = .ok a

inductive Call
  | interfaces
  | localHostName
  | localHostAddress
  | probe (host : String) (port : Int) (timeout : Float)
  | reverseLookup (a : NetworkAddress)
  | addressesFor (host : String)

namespace Call

def event : Call → Event
  | interfaces => .interfaces
  | localHostName => .localHostName
  | localHostAddress => .localHostAddress
  | probe host port timeout => .probe host port timeout
  | reverseLookup a => .reverseLookup a.address
  | addressesFor host => .addressesFor host

end Call

namespace NetworkBackend

variable (b : NetworkBackend)

def eventsOf (h : List Event) : Call → List Event
  | .interfaces => (b.interfaces h).2
  | .localHostName => (b.localHostName h).2
  | .localHostAddress => (b.localHostAddress h).2
  | .probe host port timeout => (b.probe host port timeout h).2
  | .reverseLookup a => (b.reverseLookup a h).2
  | .addressesFor host => (b.addressesFor host h).2

def historyAfter (h : List Event) : List Call → List Event
  | [] => h
  | call :: more => historyAfter (h ++ b.eventsOf h call) more

/-- Every address that the backend answers was read from a text. -/
structure AnswersParsed : Prop where
  interfaces {h : List Event} {found : List Interface} :
    (b.interfaces h).1 = .ok found → ∀ i ∈ found, ∀ a ∈ i.addresses, a.IsParsed
  localHostAddress {h : List Event} {a : NetworkAddress} :
    (b.localHostAddress h).1 = .ok a → a.IsParsed
  probe {host : String} {port : Int} {timeout : Float} {h : List Event} {a : NetworkAddress} :
    (b.probe host port timeout h).1 = .ok a → a.IsParsed

/-- Every call is one event, so that a history shows which calls were made. -/
def ShowsCalls : Prop := ∀ h call, b.eventsOf h call = [call.event]

lemma historyAfter_append (h : List Event) (calls more : List Call) :
    b.historyAfter h (calls ++ more) = b.historyAfter (b.historyAfter h calls) more := by
  induction calls generalizing h with
  | nil => rfl
  | cons call calls ih => exact ih (h ++ b.eventsOf h call)

variable {b} in
lemma ShowsCalls.historyAfter_eq (hb : b.ShowsCalls) (h : List Event) (calls : List Call) :
    b.historyAfter h calls = h ++ calls.map Call.event := by
  induction calls generalizing h with
  | nil => simp [historyAfter]
  | cons call calls ih => simp [historyAfter, ih, hb h call]

end NetworkBackend

end HostDiscovery
