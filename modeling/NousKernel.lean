import NousKernel.Resumption
import NousKernel.Separators
import NousKernel.Journal
import NousKernel.Storage
import NousKernel.Lease
import NousKernel.Placement
import NousKernel.Ranking
import NousKernel.Policies
import NousKernel.Feasibility
import NousKernel.Tracing
import NousKernel.Program
import NousKernel.Compatibility
import NousKernel.World
import NousKernel.Executor
import NousKernel.Coordinator
import NousKernel.Continuity
import NousKernel.Recovery
import NousKernel.Ledger
import NousKernel.History
import NousKernel.Footprint
import NousKernel.Sequential
import NousKernel.Execution
import NousKernel.Attempt
import NousKernel.Session
import NousKernel.Commitment
import NousKernel.Pending
import NousKernel.WriteAhead
import NousKernel.Restoration
import NousKernel.Interleaving
import NousKernel.Agreement
import NousKernel.Fencing
import NousKernel.Orphans
import NousKernel.Appending
import NousKernel.Racing
import NousKernel.Tampering
import NousKernel.Keys
import NousKernel.Typestate
import NousKernel.Transcript
import NousKernel.Invocation
import NousKernel.Conduct
import NousKernel.Tenancy
import NousKernel.Capacity
import NousKernel.Shutdown
import NousKernel.Delivery
import NousKernel.Screening
import NousKernel.Provenance
import NousKernel.Stepwise
import NousKernel.StateMachine
import NousKernel.Replay
import NousKernel.Semantic
import NousKernel.Effects
import NousKernel.Transactions
import NousKernel.Planning
import NousKernel.Micro
import NousKernel.Domains
import NousKernel.Leasing
import NousKernel.Overtaking
import NousKernel.Json
import NousKernel.OpenRuntime
import NousKernel.Extension
import NousKernel.Dispatching
import NousKernel.Permits
import NousKernel.OnRecord
import NousKernel.Revoking
import NousKernel.Withdrawal
import NousKernel.Binding
import NousKernel.Stages
import NousKernel.Retracing
import NousKernel.Aftermath
import NousKernel.Certificate
import NousKernel.ByteStream
import NousKernel.Transport
import NousKernel.Reconciling
import NousKernel.Kahn
import NousKernel.Contracts
import NousKernel.ControlPlane
import NousKernel.Catalog
import NousKernel.Generations
import NousKernel.Workflow
import NousKernel.Compilation
import NousKernel.Graphs
import NousKernel.Paths
import NousKernel.CriticalPath
import NousKernel.Layers
import NousKernel.ExecutionOrder
import NousKernel.Estimates
import NousKernel.Sizing
import NousKernel.Accounting
import NousKernel.ValidLeases
import NousKernel.Containment
import NousKernel.Security
import NousKernel.Confinement
import NousKernel.DefaultDeny
import NousKernel.Identity
import NousKernel.Registration
import NousKernel.Responses
import NousKernel.Clients
import NousKernel.GraphLoops
import NousKernel.GraphChecks
import NousKernel.Differences
import NousKernel.GraphDiff
import NousKernel.Patterns
import NousKernel.Schemas
import NousKernel.AdmissionSchema
import NousKernel.Manifests
import NousKernel.Merging
import NousKernel.Mixing
import NousKernel.Corruption
import NousKernel.Heartbeats
import NousKernel.Cancellation
import NousKernel.Identifiers
import NousKernel.Gate
import NousKernel.FrameStream
import NousKernel.Dialogue
import NousKernel.Replies
import NousKernel.Rounds
import NousKernel.Submission
import NousKernel.Emission
import NousKernel.ProviderProcess
import NousKernel.Worker
import NousKernel.Custody
import NousKernel.Attribution
import NousKernel.StackWalk
import NousKernel.ProjectScan
import NousKernel.ScanCoverage
