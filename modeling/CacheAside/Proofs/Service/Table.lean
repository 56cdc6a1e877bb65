import Mathlib.Logic.Function.Basic
import CacheAside.Backend
import CacheAside.Proofs.Ends

namespace CacheAside

abbrev Table := Int64 → Option String

namespace Table

def get (t : Table) (key : Int64) : Option String × Table := (t key, t)

def upsert (t : Table) (key : Int64) (value : String) : Upserted × Table :=
  (if (t key).isSome then .replaced else .inserted, Function.update t key (some value))

def delete (t : Table) (key : Int64) : Bool × Table :=
  ((t key).isSome, Function.update t key none)

end Table

namespace Backend

variable {C W : Type}

/-- Calls that return act on the store's table; calls that fail leave it as it was. -/
structure Keeps (b : Backend C W) (table : W → Table) : Prop where
  connect : ∀ w, Ends (fun _ w' => table w' = table w) (fun w' => table w' = table w) (b.connect w)
  get : ∀ c key w, Ends (fun answer w' => (answer, table w') = (table w).get key)
    (fun w' => table w' = table w) (b.get c key w)
  upsert : ∀ c key value w, Ends (fun answer w' => (answer, table w') = (table w).upsert key value)
    (fun w' => table w' = table w) (b.upsert c key value w)
  delete : ∀ c key w, Ends (fun answer w' => (answer, table w') = (table w).delete key)
    (fun w' => table w' = table w) (b.delete c key w)

structure Serves (b : Backend C W) (calm : W → Prop) : Prop where
  connect : ∀ w, calm w → Ends (fun _ w' => calm w') (fun _ => False) (b.connect w)
  get : ∀ c key w, calm w → Ends (fun _ w' => calm w') (fun _ => False) (b.get c key w)
  upsert : ∀ c key value w, calm w →
    Ends (fun _ w' => calm w') (fun _ => False) (b.upsert c key value w)
  delete : ∀ c key w, calm w → Ends (fun _ w' => calm w') (fun _ => False) (b.delete c key w)

def Reliable (b : Backend C W) (w : W) : Prop := ∃ calm, b.Serves calm ∧ calm w

variable {b : Backend C W} {w : W}

theorem Reliable.connect (reliable : b.Reliable w) :
    Ends (fun _ w' => b.Reliable w') (fun _ => False) (b.connect w) := by
  obtain ⟨calm, serves, here⟩ := reliable
  exact (serves.connect w here).mono (fun _ _ there => ⟨calm, serves, there⟩) fun _ no => no

theorem Reliable.get (reliable : b.Reliable w) (c : C) (key : Int64) :
    Ends (fun _ w' => b.Reliable w') (fun _ => False) (b.get c key w) := by
  obtain ⟨calm, serves, here⟩ := reliable
  exact (serves.get c key w here).mono (fun _ _ there => ⟨calm, serves, there⟩) fun _ no => no

theorem Reliable.upsert (reliable : b.Reliable w) (c : C) (key : Int64) (value : String) :
    Ends (fun _ w' => b.Reliable w') (fun _ => False) (b.upsert c key value w) := by
  obtain ⟨calm, serves, here⟩ := reliable
  exact (serves.upsert c key value w here).mono (fun _ _ there => ⟨calm, serves, there⟩)
    fun _ no => no

theorem Reliable.delete (reliable : b.Reliable w) (c : C) (key : Int64) :
    Ends (fun _ w' => b.Reliable w') (fun _ => False) (b.delete c key w) := by
  obtain ⟨calm, serves, here⟩ := reliable
  exact (serves.delete c key w here).mono (fun _ _ there => ⟨calm, serves, there⟩) fun _ no => no

end Backend

namespace Store

variable {α : Type} {s : Store} {c : Connection} {operation : Store → α × Store}

theorem serve_ends (call : Store → Except StoreError α × Store)
    (serves : call s = s.serve c operation) :
    Ends (fun answer s' => (answer, s') = operation s)
      (fun s' => s'.peek = s.peek ∧ s.failing = true) (Outcome.lift call s) := by
  rw [Outcome.lift, serves, serve]
  cases failing : s.failing with
  | true => exact ⟨rfl, rfl⟩
  | false => exact rfl

theorem peek_insert (s : Store) (key : Int64) (value : String) (metrics : StoreMetrics) :
    peek { s with table := s.table.insert key value, metrics } =
      Function.update s.peek key (some value) := by
  funext key'
  rw [Function.update_apply, peek, Std.HashMap.getElem?_insert]
  by_cases same : key = key'
  · simp [same]
  · simp [same, Ne.symm same, peek]

theorem peek_erase (s : Store) (key : Int64) (metrics : StoreMetrics) :
    peek { s with table := s.table.erase key, metrics } = Function.update s.peek key none := by
  funext key'
  rw [Function.update_apply, peek, Std.HashMap.getElem?_erase]
  by_cases same : key = key'
  · simp [same]
  · simp [same, Ne.symm same, peek]

theorem backend_keeps : Store.backend.Keeps peek where
  connect := by
    intro s
    simp only [backend, Outcome.lift, connect]
    cases s.refusing <;> exact rfl
  get := by
    intro c key s
    refine (serve_ends (fun s => s.get c key) rfl).mono ?_ fun _ failed => failed.1
    intro answer s' same
    cases found : s.table[key]? with
    | none | some _ =>
      simp only [found] at same
      cases same
      exact Prod.ext found.symm rfl
  upsert := by
    intro c key value s
    refine (serve_ends (fun s => s.upsert c key value) rfl).mono ?_ fun _ failed => failed.1
    intro answer s' same
    rw [Std.HashMap.contains_eq_isSome_getElem?] at same
    split at same
    · rename_i present
      cases same
      exact Prod.ext (if_pos present).symm (peek_insert s key value _)
    · rename_i absent
      cases same
      exact Prod.ext (if_neg absent).symm (peek_insert s key value _)
  delete := by
    intro c key s
    refine (serve_ends (fun s => s.delete c key) rfl).mono ?_ fun _ failed => failed.1
    intro answer s' same
    cases same
    exact Prod.ext Std.HashMap.contains_eq_isSome_getElem? (peek_erase s key _)

def Working (s : Store) : Prop := s.refusing = false ∧ s.failing = false

theorem Working.serve (working : s.Working) (call : Store → Except StoreError α × Store)
    (serves : call s = s.serve c operation)
    (switches : (operation s).2.Working) :
    Ends (fun _ s' => Working s') (fun _ => False) (Outcome.lift call s) := by
  apply (serve_ends call serves).mono
  · intro answer s' same
    rwa [← same] at switches
  · rintro _ ⟨_, failing⟩
    rw [working.2] at failing
    cases failing

theorem Working.reliable (working : s.Working) : Store.backend.Reliable s := by
  refine ⟨Working, ⟨?_, ?_, ?_, ?_⟩, working⟩
  · rintro s ⟨accepting, working⟩
    simp only [backend, Outcome.lift, connect, accepting]
    exact ⟨rfl, working⟩
  · intro c key s working
    apply working.serve (fun s => s.get c key) rfl
    split <;> exact working
  · intro c key value s working
    apply working.serve (fun s => s.upsert c key value) rfl
    split <;> exact working
  · intro c key s working
    exact working.serve (fun s => s.delete c key) rfl working

end Store

end CacheAside
