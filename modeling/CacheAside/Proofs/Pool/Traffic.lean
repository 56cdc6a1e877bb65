import Mathlib.Data.Multiset.Count
import CacheAside.Proofs.Pool.Balance

namespace CacheAside.Pool

inductive Turn where
  | first
  | woken
  | expired
  deriving DecidableEq

/-- One call for a connection, from its start until the connection is given up and a waiter told.
    Patience bounds a wait where there is a bound. -/
inductive Caller (C : Type) where
  | ready (patience : Option Span) (turn : Turn)
  | blocked (patience : Option Span)
  | opening
  | unopened
  | holding (connection : C)
  | notifying

namespace Caller

variable {C : Type}

def holds : Caller C → Bool
  | holding _ => true
  | _ => false

def reserves : Caller C → Bool
  | opening | unopened => true
  | _ => false

def waits : Caller C → Bool
  | blocked _ => true
  | _ => false

end Caller

inductive Event (C : Type) where
  | came
  | lent (connection : C)
  | reserved
  | blocked
  | gaveUp
  | woke
  | expired
  | opened (connection : C)
  | failed (error : ConnectionError)
  | faulted (fault : Fault)
  | forgotten
  | released (connection : C)
  | detached (connection : C)
  | notified

structure Traffic (C : Type) where
  pool : Pool C
  callers : Multiset (Caller C)

variable {C : Type}

/-- One critical section, one outcome of opening a connection, or one turn of a waiter. Callers take
    their steps in any order; while one of them opens a connection the others go on. A connection is
    released at the end of its use, whether that was a return or a fault. -/
inductive Step : Traffic C → Event C → Traffic C → Prop
  | came {p : Pool C} {rest : Multiset (Caller C)} (patience : Option Span) :
    Step ⟨p, rest⟩ .came ⟨p, .ready patience .first ::ₘ rest⟩
  | lent {p p' : Pool C} {rest : Multiset (Caller C)} {patience : Option Span} {turn : Turn}
    {connection : C} (taken : p.checkout = some (.idle connection, p')) :
    Step ⟨p, .ready patience turn ::ₘ rest⟩ (.lent connection) ⟨p', .holding connection ::ₘ rest⟩
  | reserved {p p' : Pool C} {rest : Multiset (Caller C)} {patience : Option Span} {turn : Turn}
    (taken : p.checkout = some (.opening, p')) :
    Step ⟨p, .ready patience turn ::ₘ rest⟩ .reserved ⟨p', .opening ::ₘ rest⟩
  | blocked {p : Pool C} {rest : Multiset (Caller C)} {patience : Option Span} {turn : Turn}
    (refused : p.checkout = none) (patient : turn ≠ .expired) :
    Step ⟨p, .ready patience turn ::ₘ rest⟩ .blocked ⟨p, .blocked patience ::ₘ rest⟩
  | gaveUp {p : Pool C} {rest : Multiset (Caller C)} {patience : Option Span}
    (refused : p.checkout = none) : Step ⟨p, .ready patience .expired ::ₘ rest⟩ .gaveUp ⟨p, rest⟩
  | woke {p : Pool C} {rest : Multiset (Caller C)} {patience : Option Span} :
    Step ⟨p, .blocked patience ::ₘ rest⟩ .woke ⟨p, .ready patience .woken ::ₘ rest⟩
  | expired {p : Pool C} {rest : Multiset (Caller C)} {timeout : Span} :
    Step ⟨p, .blocked (some timeout) ::ₘ rest⟩ .expired
      ⟨p, .ready (some timeout) .expired ::ₘ rest⟩
  | opened {p : Pool C} {rest : Multiset (Caller C)} (connection : C) :
    Step ⟨p, .opening ::ₘ rest⟩ (.opened connection) ⟨p, .holding connection ::ₘ rest⟩
  | failed {p : Pool C} {rest : Multiset (Caller C)} (error : ConnectionError) :
    Step ⟨p, .opening ::ₘ rest⟩ (.failed error) ⟨p, .unopened ::ₘ rest⟩
  | faulted {p : Pool C} {rest : Multiset (Caller C)} (fault : Fault) :
    Step ⟨p, .opening ::ₘ rest⟩ (.faulted fault) ⟨p, .unopened ::ₘ rest⟩
  | forgotten {p p' : Pool C} {rest : Multiset (Caller C)} (forgot : p.forget = .ok p') :
    Step ⟨p, .unopened ::ₘ rest⟩ .forgotten ⟨p', .notifying ::ₘ rest⟩
  | released {p : Pool C} {rest : Multiset (Caller C)} {connection : C} :
    Step ⟨p, .holding connection ::ₘ rest⟩ (.released connection)
      ⟨p.release connection, .notifying ::ₘ rest⟩
  | detached {p p' : Pool C} {rest : Multiset (Caller C)} {connection : C}
    (forgot : p.forget = .ok p') :
    Step ⟨p, .holding connection ::ₘ rest⟩ (.detached connection) ⟨p', .notifying ::ₘ rest⟩
  | notified {p : Pool C} {rest : Multiset (Caller C)} {patience : Option Span} :
    Step ⟨p, .notifying ::ₘ .blocked patience ::ₘ rest⟩ .notified
      ⟨p, .ready patience .woken ::ₘ rest⟩
  | unheard {p : Pool C} {rest : Multiset (Caller C)}
    (nobody : ∀ caller ∈ rest, caller.waits = false) :
    Step ⟨p, .notifying ::ₘ rest⟩ .notified ⟨p, rest⟩

inductive Runs (start : Traffic C) : List (Event C) → Traffic C → Prop
  | start : Runs start [] start
  | step {s s' : Traffic C} {history : List (Event C)} {e : Event C} (runs : Runs start history s)
    (step : Step s e s') : Runs start (e :: history) s'

namespace Traffic

def held (s : Traffic C) : Nat := s.callers.countP (·.holds)

def reserved (s : Traffic C) : Nat := s.callers.countP (·.reserves)

end Traffic

end CacheAside.Pool
