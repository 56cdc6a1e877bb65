import CacheAside.Span

namespace CacheAside

structure ConfigError where
  message : String
  deriving DecidableEq, Repr

mutual

inductive Cause where
  | text (message : String)
  | config (error : ConfigError)
  | connection (error : ConnectionError)
  | store (error : StoreError)
  | acquire (error : AcquireError)
  | service (error : ServiceError)

inductive ConnectionError where
  | mk (message : String) (source : Option Cause)

inductive StoreError where
  | mk (message : String) (source : Option Cause)

inductive AcquireError where
  | timeout (waited : Span)
  | connection (error : ConnectionError)

inductive ServiceError where
  | invalidKey (raw : String)
  | connection (error : ConnectionError)
  | store (error : StoreError)
  | timeout (waited : Span)

end

namespace ConfigError

def zeroCapacity : ConfigError := ⟨"cache capacity must be greater than 0"⟩

def zeroShards : ConfigError := ⟨"shard count must be greater than 0"⟩

def zeroPoolSize : ConfigError := ⟨"pool max size must be greater than 0"⟩

def zeroTimeout : ConfigError := ⟨"acquire timeout must be greater than 0 ms"⟩

end ConfigError

namespace ConnectionError

def ofMessage (message : String) : ConnectionError := .mk message none

def message : ConnectionError → String
  | .mk message _ => message

def source : ConnectionError → Option Cause
  | .mk _ source => source

end ConnectionError

namespace StoreError

def ofMessage (message : String) : StoreError := .mk message none

def message : StoreError → String
  | .mk message _ => message

def source : StoreError → Option Cause
  | .mk _ source => source

end StoreError

namespace ServiceError

def ofAcquire : AcquireError → ServiceError
  | .timeout waited => .timeout waited
  | .connection error => .connection error

def isClientError : ServiceError → Bool
  | .invalidKey _ => true
  | _ => false

end ServiceError

end CacheAside
