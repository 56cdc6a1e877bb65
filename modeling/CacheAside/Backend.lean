import CacheAside.Outcome
import CacheAside.Store.Basic

namespace CacheAside

/-- What a service needs from outside: opening connections, and calling the store on them. The calls
    act on a state of type `σ`. -/
structure Backend (C σ : Type) where
  connect : σ → Outcome ConnectionError C × σ
  get : C → Int64 → σ → Outcome StoreError (Option String) × σ
  upsert : C → Int64 → String → σ → Outcome StoreError Upserted × σ
  delete : C → Int64 → σ → Outcome StoreError Bool × σ

def beside {S σ α : Type} (action : σ → α × σ) (s : S × σ) : α × (S × σ) :=
  let (answer, state) := action s.2
  (answer, (s.1, state))

/-- The same calls with something beside their state, which they leave alone: nobody else gets a
    turn while they are on their way. -/
def Backend.undisturbed {C S σ : Type} (b : Backend C σ) : Backend C (S × σ) where
  connect := beside b.connect
  get connection key := beside (b.get connection key)
  upsert connection key value := beside (b.upsert connection key value)
  delete connection key := beside (b.delete connection key)

def Outcome.lift {ε σ α : Type} (action : σ → Except ε α × σ) (s : σ) : Outcome ε α × σ :=
  let (answer, s) := action s
  (.ofExcept answer, s)

def Store.backend : Backend Store.Connection Store where
  connect := Outcome.lift connect
  get connection key := Outcome.lift fun s => s.get connection key
  upsert connection key value := Outcome.lift fun s => s.upsert connection key value
  delete connection key := Outcome.lift fun s => s.delete connection key

end CacheAside
