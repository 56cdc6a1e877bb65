import CacheAside.Proofs.Key.Grammar
import CacheAside.Proofs.Pool.Deadline
import CacheAside.Proofs.Service.Connection
import CacheAside.Service.Request

namespace CacheAside

namespace Service

variable {C W α : Type}

def bounded (timeout : Span) (s : Service C) : Service C :=
  { s with acquireTimeout := some timeout }

def TimedOut (outcome : Outcome ServiceError α) : Prop := ∃ span, outcome = .error (.timeout span)

structure Patient (s : Service C) : Prop where
  rests : s.Lends 0
  unbounded : s.acquireTimeout = none

variable {b : Backend C W} {now : Instant} {timeout : Span} {service : Service C} {w : W}

theorem Lends.spare {s : Service C} (rests : s.Lends 0) : s.pool.Spare := rests.1.spare rests.2

theorem Connects.patient {note : Option ServiceEvent} {query : C → W → Outcome StoreError α × W}
    {s s' : State C W} {outcome : Outcome ServiceError α} (patient : s.1.Patient)
    (course : Connects b now note query s outcome s') (ended : outcome ≠ .blocked) :
    s'.1.Patient := by
  have back : ∀ {c : C} {p : Pool C} {w : W}, Lent b s.1.pool s.2 c p w →
      ((noting note { s.1 with pool := p }).release c).Patient := by
    intro c p w lent
    obtain ⟨balanced, size⟩ := lent.balanced patient.rests.1
    have lends : ({ s.1 with pool := p } : Service C).Lends 1 :=
      ⟨balanced, by simp only [size]; exact patient.rests.2⟩
    cases note with
    | none => exact ⟨lends.release rfl c, patient.unbounded⟩
    | some event => exact ⟨lends.release rfl c, patient.unbounded⟩
  cases course with
  | answered lent _ | broken lent _ => exact back lent
  | failed lent _ => exact ⟨(back lent).rests, (back lent).unbounded⟩
  | refused _ => exact ⟨patient.rests, patient.unbounded⟩
  | unwound _ => exact patient
  | waiting _ | calling _ _ => exact absurd rfl ended

theorem Patient.lookup (patient : service.Patient) (key : Int64) :
    (service.lookup key).2.Patient ∧ ¬ TimedOut (service.lookup key).1 := by
  simp only [Service.lookup, record]
  rcases service.cache.get key with fault | ⟨_ | value, cache⟩ <;>
    exact ⟨⟨patient.rests, patient.unbounded⟩, by simp [TimedOut]⟩

inductive Call where
  | read (key : Int64)
  | write (key : Int64) (value : String)
  | delete (key : Int64)
  | handle (request : Request)

inductive Result where
  | found (outcome : Outcome ServiceError (Option String))
  | stored (outcome : Outcome ServiceError Upserted)
  | deleted (outcome : Outcome ServiceError Unit)
  | answered (outcome : Outcome Empty Response)

namespace Result

end Result

def perform (backend : Backend C (State C W)) (now : Instant) (call : Call) (s : State C W) :
    Result × State C W :=
  match call with
  | .read key =>
    let (outcome, s) := read backend now key s
    (.found outcome, s)
  | .write key value =>
    let (outcome, s) := write backend now key value s
    (.stored outcome, s)
  | .delete key =>
    let (outcome, s) := delete backend now key s
    (.deleted outcome, s)
  | .handle request =>
    let (outcome, s) := handle backend now request s
    (.answered outcome, s)

end Service

end CacheAside
