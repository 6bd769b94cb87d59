import Snaplace.Worker.Exit
import Snaplace.Admission.Controller
import Snaplace.Admission.Conservation
import Snaplace.Admission.Loop
import Snaplace.Pool.Types
import Snaplace.Pool.Workers
import Snaplace.Pool.Control
import Snaplace.Pool.MainLoop
import Snaplace.Pool.Moves
import Snaplace.Pool.Partition
import Snaplace.Pool.Steps
import Snaplace.Pool.ControlSteps
import Snaplace.Foundation.Leases
import Snaplace.Network.SubnetPool
import Snaplace.Network.Containment
import Snaplace.Network.Taps
import Snaplace.Network.Availability
import Snaplace.Network.RoundTrip
import Snaplace.Snapshots.Writer
import Snaplace.Snapshots.Sync
import Snaplace.Snapshots.SyncTables
import Snaplace.Snapshots.Restart
import Snaplace.Admission.Room
import Snaplace.Admission.Refinement
import Snaplace.Admission.Order
import Snaplace.Admission.Bounds
import Snaplace.Admission.Liveness
import Snaplace.Admission.Deadlines
import Snaplace.Joint.Slots
import Snaplace.Metadata.Registrar
import Snaplace.Metadata.Registration
import Snaplace.Foundation.Resumption
import Snaplace.Pool.Stepwise
import Snaplace.Pool.Sequential
import Snaplace.Pool.Lookups
import Snaplace.Pool.Interference
import Snaplace.Joint.Deregistration
import Snaplace.Network.FailedRequest
import Snaplace.Network.TapPool
import Snaplace.Network.Manager
import Snaplace.Foundation.Frame
import Snaplace.Pool.Frames
import Snaplace.Pool.Cap
import Snaplace.Foundation.Codec
import Snaplace.Metadata.Persistence
import Snaplace.Foundation.Refinement
import Snaplace.Foundation.RwLock
import Snaplace.Metadata.Agreement
import Snaplace.Metadata.Stores
import Snaplace.Metadata.StoreRefinement
import Snaplace.Worker.Resource
import Snaplace.Network.Recycling
import Snaplace.Foundation.Text
import Snaplace.Pool.CpuList
import Snaplace.Pool.CpuSet
import Snaplace.Snapshots.Placement
import Snaplace.Worker.Reports
import Snaplace.Admission.Horizon
import Snaplace.Pool.Horizon
import Snaplace.Joint.Durations
import Snaplace.Pool.RequestSteps
import Snaplace.Foundation.Greedy
import Snaplace.Pool.Eviction
import Snaplace.Pool.Timers
import Snaplace.Pool.Pauses
import Snaplace.Worker.Identity
import Snaplace.Pool.Told
import Snaplace.Runtime.Process
import Snaplace.Foundation.Scan
import Snaplace.Tools.CpuStat
import Snaplace.Foundation.Json
import Snaplace.Foundation.JsonPrint
import Snaplace.Runtime.UvmConfig
import Snaplace.Runtime.Spec
import Snaplace.Runtime.ProcessArgs
import Snaplace.Network.TapCreation
import Snaplace.Network.TapRollback
import Snaplace.Runtime.Creation
import Snaplace.Runtime.FcCreation
import Snaplace.Pool.Memory
import Snaplace.Pool.Sandboxes
import Snaplace.Pool.Shutdown
import Snaplace.Pool.Pending
