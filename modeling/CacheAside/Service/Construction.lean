import CacheAside.Config.Basic
import CacheAside.Service.Basic

namespace CacheAside.Service

def build {C : Type} (config : Config) : Except ConfigError (Service C) := do
  let cache ← Cache.build config.cacheCapacity config.policy
  let pool ← Pool.create config.poolMaxSize
  return .create cache pool config.acquireTimeout

def ofConfig {C : Type} (config : Config) : Except ConfigError (Service C) := do
  config.validate
  build config

end CacheAside.Service
