import CacheAside.Arena.Op
import CacheAside.Config.Loader
import CacheAside.Config.Writer
import CacheAside.Pool.Scenario
import CacheAside.Recency.Op
import CacheAside.Service.Construction
import CacheAside.Service.Scenario
import CacheAside.Shard.Op
import CacheAside.Store.Op
import CacheAside.Proofs.Pool.Places
import CacheAside.Proofs.Service.Freshness
import CacheAside.Proofs.Service.Transparency
import CacheAside.Proofs.Shard.Refinement
import CacheAside.Proofs.Pool.Wakeups
import CacheAside.Proofs.Pool.Scenarios
import CacheAside.Proofs.Pool.Custody
import CacheAside.Proofs.Cache.Interface
import CacheAside.Proofs.Shard.Serving
import CacheAside.Proofs.Cache.Product
import CacheAside.Proofs.Shard.LastPut
import CacheAside.Proofs.Cache.Distribution
import CacheAside.Proofs.Cache.Single
import CacheAside.Proofs.Cache.Composition
import CacheAside.Proofs.Shard.Window
import CacheAside.Proofs.Cache.Retention
import CacheAside.Proofs.Cache.Inclusion
import CacheAside.Proofs.Service.Failure
import CacheAside.Proofs.Service.Provenance
import CacheAside.Proofs.Cache.Counters
import CacheAside.Proofs.Service.Reconciliation
import CacheAside.Proofs.Recency.Handles
import CacheAside.Proofs.Shard.Consistency
import CacheAside.Proofs.Service.Deadline
import CacheAside.Proofs.Cache.Scan
import CacheAside.Proofs.Arena.Occupancy
import CacheAside.Proofs.Metrics.Ledger
import CacheAside.Proofs.Shard.Conservation
import CacheAside.Proofs.Cache.Conservation
import CacheAside.Proofs.Finmap
import CacheAside.Proofs.Store.Database
import CacheAside.Proofs.Cache.Evenness
import CacheAside.Proofs.Service.Construction
import CacheAside.Proofs.Config.Loading
import CacheAside.Proofs.Metrics.Bracketing
