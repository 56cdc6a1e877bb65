import CacheAside.Error.Basic
import CacheAside.Text.Quoted
import CacheAside.Text.Summary

namespace CacheAside

def ConfigError.display (e : ConfigError) : String := e.message

def ConnectionError.display (e : ConnectionError) : String :=
  "failed to open store connection: " ++ e.message

def StoreError.display (e : StoreError) : String := "store operation failed: " ++ e.message

def Span.timedOut (waited : Span) : String :=
  "timed out after " ++ waited.text ++ " waiting for a pooled connection"

/-- An error that only passes another one on reads like that one. -/
def AcquireError.display : AcquireError → String
  | .timeout waited => waited.timedOut
  | .connection error => error.display

def ServiceError.display : ServiceError → String
  | .invalidKey raw => "invalid key " ++ Text.quoted raw ++ ": key must be an integer"
  | .connection error => error.display
  | .store error => error.display
  | .timeout waited => waited.timedOut

def Cause.display : Cause → String
  | .text message => message
  | .config error => error.display
  | .connection error => error.display
  | .store error => error.display
  | .acquire error => error.display
  | .service error => error.display

def ServiceError.variant : ServiceError → String
  | .invalidKey _ => "InvalidKey"
  | .connection _ => "Connection"
  | .store _ => "Store"
  | .timeout _ => "Timeout"

def ConfigError.debug (e : ConfigError) : String :=
  Text.tagged "ConfigError" (Text.quoted e.message)

mutual

def Cause.debug : Cause → String
  | .text message => Text.quoted message
  | .config error => error.debug
  | .connection error => error.debug
  | .store error => error.debug
  | .acquire error => error.debug
  | .service error => error.debug

def ConnectionError.debug : ConnectionError → String
  | .mk message none =>
    Text.record "ConnectionError" [("message", Text.quoted message), ("source", Text.optional none)]
  | .mk message (some cause) =>
    Text.record "ConnectionError"
      [("message", Text.quoted message), ("source", Text.optional (some cause.debug))]

def StoreError.debug : StoreError → String
  | .mk message none =>
    Text.record "StoreError" [("message", Text.quoted message), ("source", Text.optional none)]
  | .mk message (some cause) =>
    Text.record "StoreError"
      [("message", Text.quoted message), ("source", Text.optional (some cause.debug))]

def AcquireError.debug : AcquireError → String
  | .timeout waited => Text.tagged "Timeout" waited.text
  | .connection error => Text.tagged "Connection" error.debug

def ServiceError.debug : ServiceError → String
  | .invalidKey raw => Text.tagged "InvalidKey" (Text.quoted raw)
  | .connection error => Text.tagged "Connection" error.debug
  | .store error => Text.tagged "Store" error.debug
  | .timeout waited => Text.tagged "Timeout" waited.text

end

mutual

/-- The causes behind a cause, the nearest first. An error that only passes another one on does not
    count as that one's cause. -/
def Cause.sources : Cause → List Cause
  | .text _ => []
  | .config _ => []
  | .connection error => error.sources
  | .store error => error.sources
  | .acquire error => error.sources
  | .service error => error.sources

def ConnectionError.sources : ConnectionError → List Cause
  | .mk _ none => []
  | .mk _ (some cause) => cause :: cause.sources

def StoreError.sources : StoreError → List Cause
  | .mk _ none => []
  | .mk _ (some cause) => cause :: cause.sources

def AcquireError.sources : AcquireError → List Cause
  | .timeout _ => []
  | .connection error => error.sources

def ServiceError.sources : ServiceError → List Cause
  | .invalidKey _ => []
  | .connection error => error.sources
  | .store error => error.sources
  | .timeout _ => []

end

end CacheAside
