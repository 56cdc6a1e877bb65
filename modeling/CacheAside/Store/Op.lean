import CacheAside.Store.Basic

namespace CacheAside.Store

inductive Op where
  | connect
  | get (c : Connection) (key : Int64)
  | upsert (c : Connection) (key : Int64) (value : String)
  | delete (c : Connection) (key : Int64)
  | peek (key : Int64)
  | metrics
  | refuse (refusing : Bool)
  | fail (failing : Bool)
  deriving DecidableEq, Repr

inductive Answer where
  | connected (result : Except ConnectionError Connection)
  | fetched (result : Except StoreError (Option String))
  | upserted (result : Except StoreError Upserted)
  | deleted (result : Except StoreError Bool)
  | value (value : Option String)
  | metrics (metrics : StoreMetrics)
  | done

def step (s : Store) : Op → Answer × Store
  | .connect => let (result, s) := s.connect; (.connected result, s)
  | .get c key => let (result, s) := s.get c key; (.fetched result, s)
  | .upsert c key value => let (result, s) := s.upsert c key value; (.upserted result, s)
  | .delete c key => let (result, s) := s.delete c key; (.deleted result, s)
  | .peek key => (.value (s.peek key), s)
  | .metrics => (.metrics s.metrics, s)
  | .refuse refusing => (.done, s.refuse refusing)
  | .fail failing => (.done, s.fail failing)

end CacheAside.Store
