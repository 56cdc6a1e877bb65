import CacheAside.Proofs.Cache.Conservation
import CacheAside.Proofs.Cache.Evenness
import CacheAside.Service.Construction

namespace CacheAside

theorem bind_eq_error_iff {ε α β : Type} {x : Except ε α} {f : α → Except ε β} {e : ε} :
    (x >>= f) = .error e ↔ x = .error e ∨ ∃ value, x = .ok value ∧ f value = .error e := by
  cases x <;> simp [bind, Except.bind]

def Span.inNanos (s : Span) : Nat := s.secs * nanosPerSecond + s.nanos

theorem Span.inNanos_ofMillis (millis : Nat) : (ofMillis millis).inNanos = millis * 1000000 := by
  simp only [inNanos, ofMillis, nanosPerSecond]
  omega

theorem Config.inNanos_acquireTimeout (c : Config) :
    c.acquireTimeout.map Span.inNanos = c.acquireTimeoutMs.map (· * 1000000) := by
  simp only [acquireTimeout, Option.map_map, Function.comp_def, Span.inNanos_ofMillis]

theorem Cache.build_eq_error {K V : Type} [BEq K] [Hashable K] {capacity : Nat}
    {policy : CachePolicy} {e : ConfigError} :
    (build capacity policy : Except ConfigError (Cache K V)) = .error e ↔
      capacity = 0 ∧ .zeroCapacity = e ∨
      capacity ≠ 0 ∧ policy = .sharded 0 ∧ .zeroShards = e := by
  cases policy with
  | coarse =>
    simp only [build, Coarse.create, bind_eq_error_iff]
    split_ifs <;> simp_all [pure, Except.pure]
  | sharded shards =>
    simp only [build, Sharded.create, bind_eq_error_iff]
    split_ifs <;> simp_all [pure, Except.pure]

theorem Pool.create_eq_error {C : Type} {maxSize : Nat} {e : ConfigError} :
    (create maxSize : Except ConfigError (Pool C)) = .error e ↔
      maxSize = 0 ∧ .zeroPoolSize = e := by
  rw [create]
  split_ifs <;> simp_all

theorem Config.validate_eq_error {c : Config} {e : ConfigError} :
    c.validate = .error e ↔
      (c.cacheCapacity = 0 ∧ .zeroCapacity = e ∨
        c.cacheCapacity ≠ 0 ∧ c.policy = .sharded 0 ∧ .zeroShards = e) ∨
      (c.cacheCapacity ≠ 0 ∧ c.policy ≠ .sharded 0) ∧
        (c.poolMaxSize = 0 ∧ .zeroPoolSize = e ∨
          c.poolMaxSize ≠ 0 ∧ c.acquireTimeoutMs = some 0 ∧ .zeroTimeout = e) := by
  have unsplit : c.policy = .sharded 0 ↔ c.lockStrategy = .sharded ∧ c.shardCount = 0 := by
    unfold policy
    cases c.lockStrategy <;> simp
  rw [validate]
  simp only [ne_eq, unsplit]
  split_ifs <;> simp_all

namespace Service

variable {C : Type} {config : Config} {s : Service C} {e : ConfigError}

theorem build_eq_error :
    (build config : Except ConfigError (Service C)) = .error e ↔
      (config.cacheCapacity = 0 ∧ .zeroCapacity = e ∨
        config.cacheCapacity ≠ 0 ∧ config.policy = .sharded 0 ∧ .zeroShards = e) ∨
      (config.cacheCapacity ≠ 0 ∧ config.policy ≠ .sharded 0) ∧
        config.poolMaxSize = 0 ∧ .zeroPoolSize = e := by
  have cached : (∃ cache : Cache Int64 String,
      Cache.build config.cacheCapacity config.policy = .ok cache) ↔
      config.cacheCapacity ≠ 0 ∧ config.policy ≠ .sharded 0 := by
    constructor
    · rintro ⟨cache, built⟩
      obtain ⟨positive, split⟩ := Cache.build_requested built
      exact ⟨Nat.ne_of_gt positive, split⟩
    · rintro ⟨positive, split⟩
      exact Cache.build_ok (Nat.pos_of_ne_zero positive) split
  simp only [build, bind_eq_error_iff, Cache.build_eq_error, Pool.create_eq_error, ← cached]
  simp [pure, Except.pure]

theorem ofConfig_eq_error :
    (ofConfig config : Except ConfigError (Service C)) = .error e ↔ config.validate = .error e := by
  rw [ofConfig, bind_eq_error_iff]
  constructor
  · rintro (refused | ⟨⟨⟩, accepted, failed⟩)
    · exact refused
    · have faults := Config.validate_eq_error.mpr <|
        (build_eq_error.mp failed).imp_right fun ⟨cached, pool⟩ => ⟨cached, .inl pool⟩
      rw [accepted] at faults
      cases faults
  · exact .inl

/-- A service as its configuration asks for it, before any request. That it can be built where there
    are no connections at all says that none was opened for it. -/
structure Describes (config : Config) (s : Service C) : Prop where
  capacity : s.cache.capacity = config.cacheCapacity
  coarse : config.lockStrategy = .coarse → s.cache.policy = .coarse
  sharded : config.lockStrategy = .sharded →
    s.cache.policy = .sharded (min config.shardCount config.cacheCapacity)
  pool : s.pool = ⟨[], 0, config.poolMaxSize⟩
  unopened : ofConfig config =
    .ok (⟨s.cache, ⟨[], 0, config.poolMaxSize⟩, s.acquireTimeout, s.counters⟩ : Service Empty)
  timeout : s.acquireTimeout.map Span.inNanos = config.acquireTimeoutMs.map (· * 1000000)

theorem ofConfig_eq_ok (made : ofConfig config = .ok s) :
    config.validate = .ok () ∧ config.poolMaxSize ≠ 0 ∧ ∃ cache,
      Cache.build config.cacheCapacity config.policy = .ok cache ∧
      s = create cache ⟨[], 0, config.poolMaxSize⟩ config.acquireTimeout := by
  obtain ⟨⟨⟩, valid, built⟩ := eq_ok_of_bind made
  obtain ⟨cache, cached, rest⟩ := eq_ok_of_bind built
  obtain ⟨pool, pooled, same⟩ := eq_ok_of_bind rest
  rw [Pool.create] at pooled
  split_ifs at pooled with positive
  cases pooled
  cases same
  exact ⟨valid, positive, cache, cached, rfl⟩

theorem policy_of_build {cache : Cache Int64 String}
    (built : Cache.build config.cacheCapacity config.policy = .ok cache) :
    (config.lockStrategy = .coarse → cache.policy = .coarse) ∧
    (config.lockStrategy = .sharded →
      cache.policy = .sharded (min config.shardCount config.cacheCapacity)) := by
  refine ⟨fun strategy => ?_, fun strategy => ?_⟩
  · rw [Config.policy, strategy] at built
    obtain ⟨c, _, same⟩ := eq_ok_of_bind built
    cases same
    rfl
  · rw [Config.policy, strategy] at built
    obtain ⟨c, created, same⟩ := eq_ok_of_bind built
    cases same
    exact congrArg CachePolicy.sharded (Sharded.shardCount_of_create created)

theorem describes_of_ofConfig (made : ofConfig config = .ok s) : Describes config s := by
  obtain ⟨valid, positive, cache, cached, rfl⟩ := ofConfig_eq_ok made
  obtain ⟨coarse, sharded⟩ := policy_of_build cached
  refine ⟨Cache.build_capacity cached, coarse, sharded, rfl, ?_, config.inNanos_acquireTimeout⟩
  rw [ofConfig, valid]
  change build config = _
  rw [build, cached, Pool.create, if_neg positive]
  rfl

/-- A service is refused for what its configuration's check finds first and for nothing else. What
    builds the cache and the pool would find the same without that check, save for a wait of no
    time, which neither of them sees. A service that is built is the one asked for. -/
theorem validation_agrees (config : Config) :
    (∀ e, (ofConfig config : Except ConfigError (Service C)) = .error e ↔
      config.validate = .error e) ∧
    (config.acquireTimeoutMs ≠ some 0 → ∀ e,
      (build config : Except ConfigError (Service C)) = .error e ↔ config.validate = .error e) ∧
    (config.validate = .ok () →
      ∃ s : Service C, ofConfig config = .ok s ∧ Describes config s) := by
  refine ⟨fun e => ofConfig_eq_error, fun waits e => ?_, fun valid => ?_⟩
  · rw [build_eq_error, Config.validate_eq_error]
    simp only [waits, false_and, and_false, or_false]
  · cases made : (ofConfig config : Except ConfigError (Service C)) with
    | error e =>
      rw [ofConfig_eq_error.mp made] at valid
      cases valid
    | ok s => exact ⟨s, rfl, describes_of_ofConfig made⟩

/-- Of two zeros the number of shards is found first, by either way, and three entries are not
    spread over eight shards. -/
theorem zeros_and_spare_shards_agree :
    let zeros : Config := { shardCount := 0, poolMaxSize := 0 };
    let spare : Config := { cacheCapacity := 3, shardCount := 8, acquireTimeoutMs := some 1500 };
    zeros.acquireTimeoutMs ≠ some 0 ∧
    (ofConfig zeros : Except ConfigError (Service Store.Connection)) = .error .zeroShards ∧
    (build zeros : Except ConfigError (Service Store.Connection)) = .error .zeroShards ∧
    spare.validate = .ok () ∧
    ∃ s : Service Store.Connection, ofConfig spare = .ok s ∧ s.cache.policy = .sharded 3 ∧
      s.acquireTimeout.map Span.inNanos = some 1500000000 := by
  intro zeros spare
  have invalid : zeros.validate = .error .zeroShards := by decide
  obtain ⟨checked, built, _⟩ := validation_agrees (C := Store.Connection) zeros
  obtain ⟨_, _, made⟩ := validation_agrees (C := Store.Connection) spare
  obtain ⟨s, done, describes⟩ := made (by decide)
  exact ⟨by decide, (checked _).mpr invalid, (built (by decide) _).mpr invalid, by decide, s, done,
    describes.sharded rfl, describes.timeout⟩

end Service

end CacheAside
