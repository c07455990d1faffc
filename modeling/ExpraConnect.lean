import ExpraConnect.Base
import ExpraConnect.Cluster.Failover
import ExpraConnect.Cluster.FailoverFacts
import ExpraConnect.Cluster.FailoverRuns
import ExpraConnect.Cluster.FreshInvite
import ExpraConnect.Cluster.InviteBlob
import ExpraConnect.Cluster.InviteOnce
import ExpraConnect.Cluster.InvitePreimage
import ExpraConnect.Cluster.InviteRoundTrip
import ExpraConnect.Cluster.InviteText
import ExpraConnect.Cluster.Models
import ExpraConnect.Cluster.OperationFacts
import ExpraConnect.Cluster.Operations
import ExpraConnect.Cluster.RestartFacts
import ExpraConnect.Cluster.RoleAuthority
import ExpraConnect.Cluster.RoleFacts
import ExpraConnect.Cluster.RoleTransitions
import ExpraConnect.Cluster.RoleWrites
import ExpraConnect.Cluster.Roles
import ExpraConnect.Cluster.UnboundAssignments
import ExpraConnect.Connections.Attempts
import ExpraConnect.Connections.AuthMark
import ExpraConnect.Connections.Candidates
import ExpraConnect.Connections.Manager
import ExpraConnect.Connections.Status
import ExpraConnect.Discovery.Advertisements
import ExpraConnect.Discovery.Endpoints
import ExpraConnect.Discovery.Expiry
import ExpraConnect.Discovery.HostileAdvertisements
import ExpraConnect.Discovery.Models
import ExpraConnect.Discovery.Network
import ExpraConnect.Identity.GenerationRuns
import ExpraConnect.Identity.ProfileCrash
import ExpraConnect.Identity.ProfileFacts
import ExpraConnect.Identity.ProfileState
import ExpraConnect.Identity.TransportGeneration
import ExpraConnect.Identity.TransportStore
import ExpraConnect.Lib.Base64
import ExpraConnect.Lib.BigEndian
import ExpraConnect.Lib.CodePoint
import ExpraConnect.Lib.Dict
import ExpraConnect.Lib.Digits
import ExpraConnect.Lib.Disk
import ExpraConnect.Lib.Doubles
import ExpraConnect.Lib.ExpiryHeap
import ExpraConnect.Lib.Generations
import ExpraConnect.Lib.Interpolate
import ExpraConnect.Lib.Json
import ExpraConnect.Lib.JsonText
import ExpraConnect.Lib.Meets
import ExpraConnect.Lib.Mirror
import ExpraConnect.Lib.Notify
import ExpraConnect.Lib.ObjectGraph
import ExpraConnect.Lib.Ownership
import ExpraConnect.Lib.Prog
import ExpraConnect.Lib.Provenance
import ExpraConnect.Lib.Text
import ExpraConnect.Lib.WriteBack
import ExpraConnect.Lib.Yields
import ExpraConnect.Objects
import ExpraConnect.Observability.Samples
import ExpraConnect.Observability.Watcher
import ExpraConnect.Observability.WatcherRuns
import ExpraConnect.Pairing.Flow
import ExpraConnect.Pairing.FlowRollback
import ExpraConnect.Pairing.Manager
import ExpraConnect.Pairing.ManagerFacts
import ExpraConnect.Pairing.ManagerRuns
import ExpraConnect.Pairing.PortRollback
import ExpraConnect.Pairing.Server
import ExpraConnect.Pairing.Target
import ExpraConnect.Pairing.TargetFacts
import ExpraConnect.Pairing.TargetRuns
import ExpraConnect.Pairing.TwoParty
import ExpraConnect.Persistence.AtomicWrite
import ExpraConnect.Persistence.AtomicWriteRuns
import ExpraConnect.Persistence.CloneFacts
import ExpraConnect.Persistence.Migration
import ExpraConnect.Persistence.MigrationFacts
import ExpraConnect.Persistence.MigrationRefinement
import ExpraConnect.Remote.Answering
import ExpraConnect.Remote.AtMostOnce
import ExpraConnect.Remote.CanonicalJson
import ExpraConnect.Remote.EnvelopeBinding
import ExpraConnect.Remote.Fence
import ExpraConnect.Remote.IdempotencyFacts
import ExpraConnect.Remote.InFlight
import ExpraConnect.Remote.Mediation
import ExpraConnect.Remote.ProviderRecovery
import ExpraConnect.Remote.ReplayTables
import ExpraConnect.Remote.ResultReuse
import ExpraConnect.Remote.RoleOperationFacts
import ExpraConnect.Remote.RoleOperations
import ExpraConnect.Remote.RoleRequestFacts
import ExpraConnect.Remote.Service
import ExpraConnect.Remote.ServiceFacts
import ExpraConnect.Remote.Session
import ExpraConnect.Remote.SessionIndex
import ExpraConnect.Remote.SessionSafety
import ExpraConnect.Remote.Signing
import ExpraConnect.Remote.WireProtocol
import ExpraConnect.Runtime.DiscoveryFence
import ExpraConnect.Runtime.GrantRuns
import ExpraConnect.Runtime.JoinAgreement
import ExpraConnect.Runtime.LeaseSafety
import ExpraConnect.Runtime.Lifecycle
import ExpraConnect.Runtime.Persistence
import ExpraConnect.Runtime.Projection
import ExpraConnect.Runtime.Registry
import ExpraConnect.Runtime.RegistryOperations
import ExpraConnect.Runtime.RegistryRuns
import ExpraConnect.Runtime.Replicas
import ExpraConnect.Runtime.RequestAtomicity
import ExpraConnect.Runtime.RoleRequests
import ExpraConnect.Runtime.Rotation
import ExpraConnect.Runtime.State
import ExpraConnect.Runtime.UntrustedInputs
import ExpraConnect.Sharing.Capabilities
import ExpraConnect.Surfaces.JsonSafe
import ExpraConnect.Surfaces.Mediation
import ExpraConnect.Surfaces.Registry
import ExpraConnect.Transport.Admission
import ExpraConnect.Transport.ClientRequest
import ExpraConnect.Transport.Framing
import ExpraConnect.Transport.PinnedRequest
import ExpraConnect.Transport.RetriedRequest
