import Tasklite.Library.Fresh
import Tasklite.Library.Dict
import Tasklite.Library.Graph
import Tasklite.Library.Cycles
import Tasklite.Library.Closure
import Tasklite.Models.Json
import Tasklite.Utils.Encoding
import Tasklite.Utils.Clock
import Tasklite.Models.Job
import Tasklite.Models.Task
import Tasklite.Models.State
import Tasklite.Models.Cycles
import Tasklite.Models.Cascade
import Tasklite.Models.Identity
import Tasklite.Models.Coherence
import Tasklite.Models.Attempt
import Tasklite.Backend.Memory
import Tasklite.Engine.Resource
import Tasklite.Engine.Availability
import Tasklite.Engine.Leases
import Tasklite.Engine.Reservation
import Tasklite.Library.Machine
import Tasklite.Utils.Ipc
import Tasklite.Utils.Delivery
import Tasklite.Engine.Types
import Tasklite.Engine.Channel
import Tasklite.Engine.Slots
import Tasklite.Engine.Reaping
import Tasklite.Engine.Aborting
import Tasklite.Engine.Handover
import Tasklite.Engine.Signals
import Tasklite.Engine.Ownership
import Tasklite.Engine.Conservation
import Tasklite.Engine.ErrorClass
import Tasklite.Engine.Selection
import Tasklite.Engine.Store
import Tasklite.Engine.Attempts
import Tasklite.Engine.Completion
import Tasklite.Engine.Recovery
import Tasklite.Engine.Scheduler
import Tasklite.Engine.Standstill
import Tasklite.Engine.Governor
import Tasklite.Engine.Lifecycle
import Tasklite.Engine.Loop
import Tasklite.Engine.Session
import Tasklite.Engine.Ledger
import Tasklite.Engine.Custody
import Tasklite.Engine.Mirror
import Tasklite.Engine.Strikes
import Tasklite.Engine.Scanning
import Tasklite.Engine.Deferral
import Tasklite.Engine.Classification
import Tasklite.Engine.Progress
import Tasklite.Engine.Settlement
import Tasklite.Engine.Batches
import Tasklite.Engine.Durability
import Tasklite.Engine.Runs
import Tasklite.Engine.Postponing
import Tasklite.Engine.Exclusion
import Tasklite.Engine.Grace
import Tasklite.Engine.Ops
import Tasklite.Engine.Cascade
import Tasklite.Engine.Partition
import Tasklite.Engine.Skipping
import Tasklite.Engine.Caching
import Tasklite.Engine.Choice
import Tasklite.Library.WriteOnce
import Tasklite.Engine.Dispatch
import Tasklite.Engine.Tracing
import Tasklite.Engine.Hooks
import Tasklite.Wrappers.Discovery
import Tasklite.Wrappers.Rediscovery
import Tasklite.Library.PrefixCode
import Tasklite.Utils.FileNames
import Tasklite.Utils.Escapes
import Tasklite.Utils.Identifiers
import Tasklite.Models.Admission
import Tasklite.Engine.Uids
import Tasklite.Wrappers.Groups
import Tasklite.Wrappers.Pages
import Tasklite.Wrappers.Missing
import Tasklite.Engine.Redelivery
import Tasklite.Engine.Transport
import Tasklite.Engine.Decoding
import Tasklite.Engine.Filling
import Tasklite.Engine.Baseline
import Tasklite.Engine.Trusted
import Tasklite.Models.Artifact
import Tasklite.Utils.Journal
import Tasklite.Library.Sorting
import Tasklite.Library.Segments
import Tasklite.Utils.Fingerprint
import Tasklite.Engine.Payload
import Tasklite.Engine.Suspension
import Tasklite.Engine.Counting
import Tasklite.Wrappers.SnapshotKeys
import Tasklite.Library.Ways
import Tasklite.Engine.Mutation
import Tasklite.Engine.Marking
import Tasklite.Engine.Clearance
import Tasklite.Library.Table
import Tasklite.Backend.Sqlite
import Tasklite.Backend.Mirroring
import Tasklite.Backend.Simulation
import Tasklite.Backend.Parity
import Tasklite.Backend.Capacity
import Tasklite.Models.Snapshots
import Tasklite.Engine.Provenance
import Tasklite.Engine.Lineage
import Tasklite.Library.Programs
import Tasklite.Engine.Execute
import Tasklite.Engine.Verdict
import Tasklite.Engine.Stopping
import Tasklite.Engine.Brackets
import Tasklite.Engine.Lifetimes
import Tasklite.Wrappers.Http
import Tasklite.Wrappers.Guards
import Tasklite.Engine.Attribution
