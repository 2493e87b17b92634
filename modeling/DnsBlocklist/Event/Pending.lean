import DnsBlocklist.Event.Basic

/-! The events that wait for the request loop. Producers post events and then notify; the loop
takes all pending events at once. -/

namespace DnsBlocklist
set_option autoImplicit false

/-- The pending events, and whether a notification is stored that no wait has consumed yet. -/
structure Pending where
  events : EventSet
  permit : Bool
deriving DecidableEq

namespace Pending

def start : Pending := ⟨.empty, false⟩

def post (p : Pending) (e : Event) : Pending := { p with events := p.events.insert e }

/-- Stores a notification; more than one at a time counts as one. -/
def notify (p : Pending) : Pending := { p with permit := true }

def raise (p : Pending) (e : Event) : Pending := (p.post e).notify

def raiseAll (p : Pending) (es : List Event) : Pending := es.foldl raise p

/-- All pending events; none are pending afterwards. -/
def drain (p : Pending) : EventSet × Pending := (p.events, { p with events := .empty })

/-- What a wait for a notification leaves, none where there is nothing to wake it. -/
def wake? (p : Pending) : Option Pending := if p.permit then some { p with permit := false } else none

theorem contains_post (p : Pending) (e f : Event) :
    (p.post e).events.contains f = (p.events.contains f || e == f) :=
  EventSet.contains_insert p.events e f

theorem wake?_eq_some_iff (p q : Pending) :
    p.wake? = some q ↔ p.permit = true ∧ q = { p with permit := false } := by
  rw [wake?, Option.ite_none_right_eq_some, Option.some.injEq, eq_comm (a := q)]

end Pending

/-- A signal of the operating system. -/
inductive Signal where
  | hup
  | usr1
  | usr2
  | term
  | int
deriving DecidableEq

namespace Signal

def name : Signal → Text
  | hup => "SIGHUP".toList
  | usr1 => "SIGUSR1".toList
  | usr2 => "SIGUSR2".toList
  | term => "SIGTERM".toList
  | int => "SIGINT".toList

def all : List Signal := [hup, usr1, usr2, term, int]

def ofName? (t : Text) : Option Signal := all.find? (·.name == t)

/-- The events that a signal raises, in this order. -/
def events : Signal → List Event
  | hup => [.reloadRequest, .logRotate]
  | usr1 => [.statsReport]
  | usr2 => [.statsReportReset]
  | term => [.shutdown]
  | int => [.shutdown]

end Signal

end DnsBlocklist
