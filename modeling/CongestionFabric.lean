import CongestionFabric.Engine.Conservation
import CongestionFabric.Engine.Freshness
import CongestionFabric.Engine.Generations
import CongestionFabric.Engine.Fence
import CongestionFabric.Engine.Totals
import CongestionFabric.Engine.Commute
import CongestionFabric.Persistence.RoundTrip
import CongestionFabric.Persistence.Recovery
import CongestionFabric.Persistence.FencedEvidence
import CongestionFabric.Persistence.Noninterference
import CongestionFabric.Persistence.Atomicity
import CongestionFabric.Persistence.Restorable
import CongestionFabric.Persistence.Abandoned
import CongestionFabric.Persistence.Occupancy
import CongestionFabric.Coordinator.Isolation
import CongestionFabric.Coordinator.Registration
import CongestionFabric.Coordinator.Death
import CongestionFabric.Coordinator.Dispatch
import CongestionFabric.Coordinator.Enumerators
import CongestionFabric.Protocol.Transport
import CongestionFabric.Protocol.Tamper
import CongestionFabric.Persistence.Permanence
import CongestionFabric.Persistence.FreshIds
import CongestionFabric.Persistence.Possible
import CongestionFabric.Persistence.Installed
import CongestionFabric.Engine.Registered
import CongestionFabric.Engine.StaleTraffic
import CongestionFabric.Persistence.Guarded
import CongestionFabric.Persistence.Limits
import CongestionFabric.Persistence.EpisodeEnd
import CongestionFabric.Persistence.Peaks
import CongestionFabric.Persistence.Bound
import CongestionFabric.Persistence.Pressure
import CongestionFabric.Persistence.Shaping
import CongestionFabric.Engine.Severity
import CongestionFabric.Engine.Applicable
import CongestionFabric.Engine.QueueBounds
import CongestionFabric.Persistence.ExactSums
import CongestionFabric.Persistence.Provenance
import CongestionFabric.Coordinator.OneMoment
import CongestionFabric.Persistence.Interrupted
import CongestionFabric.Model.TokenBucket
import CongestionFabric.Model.Capacity
import CongestionFabric.Persistence.FairShares
import CongestionFabric.Engine.Control
import CongestionFabric.Persistence.Transparent
import CongestionFabric.Persistence.Ledger
import CongestionFabric.Coordinator.Shutdown
import CongestionFabric.Persistence.ConcurrentSaves
import CongestionFabric.Coordinator.Deployment
import CongestionFabric.Worker.Launch
import CongestionFabric.Worker.Replay
import CongestionFabric.Worker.Alone
import CongestionFabric.Engine.Neighbours
import CongestionFabric.Persistence.Neighbours
