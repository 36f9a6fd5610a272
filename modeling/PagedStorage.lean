import PagedStorage.Config.Json
import PagedStorage.Config.Toml
import PagedStorage.Proofs.Balance
import PagedStorage.Proofs.BlankPages
import PagedStorage.Proofs.Closing
import PagedStorage.Proofs.Coherence
import PagedStorage.Proofs.EngineLayers
import PagedStorage.Proofs.EvictionOrder
import PagedStorage.Proofs.FailedRequests
import PagedStorage.Proofs.FlushOrder
import PagedStorage.Proofs.Footprints
import PagedStorage.Proofs.Gaps
import PagedStorage.Proofs.GrowthLimits
import PagedStorage.Proofs.LastBlock
import PagedStorage.Proofs.Retries
import PagedStorage.Proofs.Rollbacks
import PagedStorage.Proofs.UntouchedPages
import PagedStorage.Proofs.UseOrder
import PagedStorage.Session.Engines
import PagedStorage.Session.Handles
import PagedStorage.Session.Pools
