import Snaplace.Admission.Types

/-!
# Data of the sandbox pool

The pool's tables, its control requests with their errors and replies, the memory counters, and the
events it handles. Reply channels are named by numbers; a reply sent is an entry of the pool's log.
-/
namespace Snaplace
open Foundation
open Worker (SandboxExit WorkerExit ControlMessage OutboundMessage)
open Admission (FunctionAdmissionOverrides DispatchMode DispatchResponse PoolEvent)

namespace Pool

abbrev ReplyId := Nat

/-- A number of bytes; sums and differences saturate as in 64 bits. -/
abbrev ByteUnit := Nat

namespace ByteUnit

@[irreducible] def max : ByteUnit := 2 ^ 64 - 1

def add (a b : ByteUnit) : ByteUnit := min (a + b) max

def sub (a b : ByteUnit) : ByteUnit := a - b

end ByteUnit

/-- What the pool reads of a registered function. -/
structure RegisteredFunction where
  memory : ByteUnit
  admission : Option FunctionAdmissionOverrides
  deriving DecidableEq, Repr

inductive Stage where
  | active
  | idle
  | dying
  deriving DecidableEq, Repr

/-- A set of workers, each under its function. -/
abbrev WorkerSet := Table (FunctionId × WorkerId) Unit

/-- The metadata store: the registered functions, and the three sets of workers by stage. -/
structure FunctionMetadataStore where
  functions : Table FunctionId RegisteredFunction
  workers : Stage → WorkerSet

inductive StoreError where
  | workerIdCollision (worker : WorkerId)
  | workerNotFound (worker : WorkerId) (msg : Option String)
  | functionNotFound (function : FunctionId)
  deriving DecidableEq, Repr

structure CpuSetManager where
  /-- How many workers each CPU is allocated to. -/
  occupants : Table Cpu Nat
  allocations : Table WorkerId Cpu

inductive CpuSetError where
  | allocationNotFound (worker : WorkerId)
  deriving DecidableEq, Repr

inductive WorkerMemAccounting where
  | inUse
  | reclaimed
  | uncharged
  deriving DecidableEq, Repr

structure MemoryStats where
  total : ByteUnit
  inuse : ByteUnit
  reclaimed : ByteUnit
  evictionThresHi : ByteUnit
  evictionThresLo : ByteUnit
  deriving DecidableEq, Repr

structure WorkerHandle where
  functionId : FunctionId
  sandboxId : Option SandboxId
  memAccounting : WorkerMemAccounting
  /-- What the worker's task was started with. -/
  sandbox : Option Sandbox
  deriving DecidableEq, Repr

inductive Error where
  | cpuSet (err : CpuSetError)
  | admissionUnresponsive (dscr : String)
  | workerCreation (err : Worker.Error)
  | metadata (err : StoreError)
  | worker (err : Worker.Error)
  | workerJoin (worker : WorkerId)
  | runtime (msg : String)
  | network (msg : String)
  deriving DecidableEq, Repr

def Error.display : Error → String
  | cpuSet _ => "cpuset error"
  | admissionUnresponsive dscr => s!"failed to contact AdmissionController: {dscr}"
  | workerCreation _ => "failed to spawn new Worker"
  | metadata _ => "error while manipulating metadata"
  | worker err => err.display
  | workerJoin id => s!"failed to join Worker `{id}`"
  | runtime msg => s!"runtime error: {msg}"
  | network msg => s!"networking error: {msg}"

inductive SandboxProvisioningMode where
  | preferSnapshot
  | requireSnapshot
  | forceFresh
  deriving DecidableEq, Repr

structure PrepareSandboxOptions where
  mode : SandboxProvisioningMode
  initialKeepaliveHint : Option Duration
  deriving DecidableEq, Repr

structure DestroySandboxOptions where
  allowIfActive : Bool
  removePersistedSnapshot : Bool
  deriving DecidableEq, Repr

inductive SandboxControlState where
  | active
  | idle
  | dying
  | snapshotOnly
  deriving DecidableEq, Repr

structure SandboxInfo where
  sandboxId : SandboxId
  functionId : FunctionId
  state : SandboxControlState
  hasSnapshot : Bool
  stats : Option SandboxStats
  deriving DecidableEq, Repr

inductive PrepareSandboxError where
  | unknownFunction (function : FunctionId)
  | outOfSnapshots
  | outOfMemory
  | internal (msg : String) (err : Option Error)
  | worker (dscr : String)
  deriving DecidableEq, Repr

inductive DestroySandboxError where
  | notFound (sandbox : SandboxId)
  | busy (dscr : String)
  | internal (msg : String) (err : Option Error)
  | worker (dscr : String)
  deriving DecidableEq, Repr

inductive CreateSnapshotError where
  | disabled
  | unassignedSandboxId (sandbox : SandboxId)
  | busy (dscr : String)
  | workerDying (worker : WorkerId) (sandbox : SandboxId)
  | internal (msg : String) (err : Option Error)
  | snapshotWorker (dscr : String)
  deriving DecidableEq, Repr

abbrev PrepareSandboxReply := Except PrepareSandboxError SandboxInfo
/-- On success: whether a persistent snapshot still exists. -/
abbrev DestroySandboxReply := Except DestroySandboxError Bool
abbrev CreateSnapshotReply := Except CreateSnapshotError Unit

inductive Reply where
  | prepareSandbox (reply : PrepareSandboxReply)
  | destroySandbox (reply : DestroySandboxReply)
  | createSnapshot (reply : CreateSnapshotReply)
  deriving DecidableEq

inductive PoolControlMessage where
  | prepareSandbox (functionId : FunctionId) (options : PrepareSandboxOptions) (respondTo : ReplyId)
  | destroySandbox (target : SandboxId) (options : DestroySandboxOptions) (respondTo : ReplyId)
  | listSandboxes (respondTo : ReplyId)
  | createSnapshot (sandboxId : SandboxId) (respondTo : ReplyId)
  deriving DecidableEq, Repr

inductive PendingControlOp where
  | prepareSandbox
  | destroySandbox
  | snapshot
  deriving DecidableEq, Repr

def PendingControlOp.display : PendingControlOp → String
  | prepareSandbox => "PrepareSandbox"
  | destroySandbox => "DestroySandbox"
  | snapshot => "Snapshot"

structure PendingSandboxPrep where
  initialKeepaliveHint : Option Duration
  respondTo : Option ReplyId
  deriving DecidableEq, Repr

structure PendingSandboxDestr where
  removePersistedSnapshot : Bool
  respondTo : List ReplyId
  deriving DecidableEq, Repr

structure PausedTimerInfo where
  tsPause : Instant
  deadline : Instant
  deriving DecidableEq, Repr

structure PendingSnapshot where
  timerInfo : Option PausedTimerInfo
  respondTo : List ReplyId
  deriving DecidableEq, Repr

structure PendingControlRequests where
  opByWorker : Table WorkerId PendingControlOp
  sandboxPreps : Table WorkerId PendingSandboxPrep
  sandboxDestrs : Table WorkerId PendingSandboxDestr
  snapshots : Table SandboxId PendingSnapshot

/-- What the pool does outside its own tables, in order. -/
inductive Effect where
  | spawned (worker : WorkerId) (handle : WorkerHandle)
  | sent (worker : WorkerId) (msg : ControlMessage)
  | dispatchReply (resp : DispatchResponse)
  | requested (respondTo : ReplyId)
  | reply (respondTo : ReplyId) (reply : Reply)
  | event (ev : PoolEvent)
  /-- A worker's task is joined, with the memory of its function; `none` when the join fails. -/
  | joined (worker : WorkerId) (handle : WorkerHandle) (memory : ByteUnit)
    (exit : Option WorkerExit)
  | orphanDestroyed (sandbox : SandboxId)
  /-- An orphan whose runtime could not be set up to destroy it. -/
  | orphanDropped (sandbox : SandboxId)
  | wipeDbSnapshots
  | syncDbSnapshots
  deriving DecidableEq

inductive EvictionPolicy where
  | noOp
  | random
  | lruWorker
  deriving DecidableEq, Repr

structure SandboxPoolConfig where
  retainSnapshots : Bool
  snapshotCreationTime : SnapshotCreationTime
  defaultWorkerCapPerFunc : Nat
  eviction : EvictionPolicy
  deriving DecidableEq, Repr

inductive Phase where
  | serving
  | shuttingDown
  deriving DecidableEq, Repr

/-- How the runtime deals with an orphan that is to be destroyed at the end. -/
inductive OrphanOutcome where
  | runtimeFailed
  | notDestroyed
  | destroyed (deallocated : Bool)
  deriving DecidableEq, Repr

inductive Event where
  | quit
  | keepaliveTimeout (worker : WorkerId)
  | workerMessage (msg : OutboundMessage)
  | snapmanMessage
  | dispatch (functionId : FunctionId) (mode : DispatchMode)
  | control (msg : PoolControlMessage)
  | admissionClosed
  | shutdownTick
  /-- The registrar uses the shared store. -/
  | registerFunction (functionId : FunctionId) (function : RegisteredFunction)
  | deregisterFunction (functionId : FunctionId)
  deriving DecidableEq, Repr

/-- One event of the pool's loop and what its handler finds outside. -/
structure Input where
  event : Event
  now : Instant
  /-- The identifier drawn for a worker spawned now. -/
  newWorkerId : WorkerId
  /-- The reason a spawn fails, if it does. -/
  spawnError : Option Worker.Error
  /-- The order in which the sets of workers are traversed. -/
  workerRank : FunctionId × WorkerId → Nat
  /-- The order in which the random eviction policy draws workers. -/
  randomRank : FunctionId × WorkerId → Nat
  /-- The order in which the snapshot lists are traversed. -/
  functionRank : FunctionId → Nat
  /-- How the CPU queue orders CPUs with as many occupants. -/
  cpuRank : Cpu → Nat
  /-- The keep-alive policy's answer for a function. -/
  assign : FunctionId → Option Duration
  /-- Whether a worker's control channel takes a message. -/
  controlOpen : WorkerId → Bool
  isFinished : WorkerId → Bool
  /-- What joining a worker gives; `none` if the join fails. -/
  exit : WorkerId → Option WorkerExit
  /-- Whether admission still waits for the reply to this dispatch request. -/
  admissionWaits : Bool
  destroyOrphan : SandboxId → OrphanOutcome

end Pool

structure Pool where
  config : Pool.SandboxPoolConfig
  phase : Pool.Phase
  cpuset : Pool.CpuSetManager
  memory : Pool.MemoryStats
  store : Pool.FunctionMetadataStore
  /-- The keep-alive timers, with the instants they go off. -/
  timers : Table WorkerId Instant
  workerHandles : Table WorkerId Pool.WorkerHandle
  workerDeadlines : Table WorkerId Instant
  workerBySandbox : Table SandboxId WorkerId
  snapshots : Table FunctionId (List Sandbox)
  trashedSandboxes : List Sandbox
  pending : Pool.PendingControlRequests
  log : List Pool.Effect

end Snaplace
