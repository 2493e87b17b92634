import DnsBlocklist.Text.Basic

/-! Administrative events and sets of them. -/

namespace DnsBlocklist
set_option autoImplicit false

inductive Event where
  | reloadTimer
  | reloadRequest
  | logRotate
  | statsReport
  | statsReportReset
  | shutdown
deriving DecidableEq

namespace Event

/-- All events, the most urgent one first. -/
def all : List Event :=
  [shutdown, statsReportReset, statsReport, logRotate, reloadRequest, reloadTimer]

theorem mem_all (e : Event) : e ∈ all := by cases e <;> simp [all]

theorem nodup_all : all.Nodup := by decide

def index : Event → Nat
  | reloadTimer => 0
  | reloadRequest => 1
  | logRotate => 2
  | statsReport => 3
  | statsReportReset => 4
  | shutdown => 5

def label : Event → Text
  | reloadTimer => "reload-timer".toList
  | reloadRequest => "reload-request".toList
  | logRotate => "log-rotate".toList
  | statsReport => "stats-report".toList
  | statsReportReset => "stats-report-reset".toList
  | shutdown => "shutdown".toList

def ofLabel? (t : Text) : Option Event := all.find? (·.label == t)

end Event

/-- A set of events, one bit for each. -/
structure EventSet where
  bits : BitVec 6
deriving DecidableEq

namespace EventSet

def empty : EventSet := ⟨0⟩

def isEmpty (s : EventSet) : Bool := s.bits == 0

def contains (s : EventSet) (e : Event) : Bool := s.bits.getLsbD e.index

def insert (s : EventSet) (e : Event) : EventSet := ⟨s.bits ||| 1#6 <<< e.index⟩

def ofList (es : List Event) : EventSet := es.foldl insert empty

/-- The members, the most urgent one first. -/
def toList (s : EventSet) : List Event := Event.all.filter s.contains

def wantsReload (s : EventSet) : Bool := s.contains .reloadTimer || s.contains .reloadRequest

def wantsReport (s : EventSet) : Bool := s.contains .statsReport || s.contains .statsReportReset

def text (s : EventSet) : Text :=
  if s.isEmpty then "none".toList else Text.join ['|'] (s.toList.map Event.label)

theorem contains_empty (e : Event) : empty.contains e = false := by
  cases e <;> rfl

theorem contains_insert (s : EventSet) (e f : Event) :
    (s.insert e).contains f = (s.contains f || e == f) := by
  simp only [contains, insert, BitVec.getLsbD_or]
  congr 1
  cases e <;> cases f <;> rfl

theorem ext_contains {s t : EventSet} (h : ∀ e, s.contains e = t.contains e) : s = t := by
  obtain ⟨a⟩ := s
  obtain ⟨b⟩ := t
  have h0 := h .reloadTimer
  have h1 := h .reloadRequest
  have h2 := h .logRotate
  have h3 := h .statsReport
  have h4 := h .statsReportReset
  have h5 := h .shutdown
  simp only [contains, Event.index] at h0 h1 h2 h3 h4 h5
  congr 1
  apply BitVec.eq_of_getLsbD_eq
  intro i hi
  match i, hi with
  | 0, _ => exact h0
  | 1, _ => exact h1
  | 2, _ => exact h2
  | 3, _ => exact h3
  | 4, _ => exact h4
  | 5, _ => exact h5

theorem mem_toList (s : EventSet) (e : Event) : e ∈ s.toList ↔ s.contains e = true := by
  simp [toList, Event.mem_all]

theorem nodup_toList (s : EventSet) : s.toList.Nodup := Event.nodup_all.filter s.contains

theorem isEmpty_iff (s : EventSet) : s.isEmpty = true ↔ ∀ e, s.contains e = false := by
  constructor
  · intro h e
    have hs : s = empty := by
      cases s
      simpa [isEmpty, empty] using h
    rw [hs, contains_empty]
  · intro h
    have hs : s = empty := ext_contains fun e => by rw [h e, contains_empty]
    rw [hs]
    rfl

theorem isEmpty_eq_false_iff (s : EventSet) : s.isEmpty = false ↔ ∃ e, s.contains e = true := by
  rw [← Bool.not_eq_true, isEmpty_iff]
  simp

end EventSet

end DnsBlocklist
