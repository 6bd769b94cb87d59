import Snaplace.Foundation.Run
import Snaplace.Pool.Types

/-!
# The pool's workers

The metadata store, the CPU sets, and the pool's functions that move a worker between the Active,
Idle and Dying sets: spawning, dispatch, keep-alive, eviction and reaping. A handler that fails
leaves what it has done so far.

Assertions are those of a release build: `debug_assert!` is not checked.
-/
namespace Snaplace
open Foundation Foundation.Handler
open Worker (SandboxExit WorkerExit ControlMessage)
open Admission (DispatchMode DispatchResponse PoolEvent)

namespace Pool
variable {ε : Type}

abbrev PoolM := Handler Pool Error

def record (effect : Effect) : Handler Pool ε Unit :=
  modify fun p => { p with log := p.log ++ [effect] }

def emitAdmissionEvent (ev : PoolEvent) : Handler Pool ε Unit := record (.event ev)

def overflowPanic : String := "overflow when adding duration to instant"

/-- The last instant: a signed 64-bit number of seconds and just under one more second. -/
@[irreducible] def maxInstant : Instant := 2 ^ 63 * 1000000000 - 1

def addInstant (at_ : Instant) (delay : Duration) : Handler Pool ε Instant := do
  require (at_ + delay ≤ maxInstant) overflowPanic
  pure (at_ + delay)

section Store

def functionPanic : String := "function should already exist"

def functionExists (p : Pool) (functionId : FunctionId) : Bool :=
  (p.store.functions.lookup functionId).isSome

def registeredFunction (functionId : FunctionId) : Handler Pool ε RegisteredFunction := do
  expect functionPanic ((← get).store.functions.lookup functionId)

def functionMemory (functionId : FunctionId) : Handler Pool ε ByteUnit := do
  return (← registeredFunction functionId).memory

def FunctionMetadataStore.insert (store : FunctionMetadataStore) (stage : Stage)
    (key : FunctionId × WorkerId) : FunctionMetadataStore :=
  { store with
    workers := Function.update store.workers stage ((store.workers stage).insert key ()) }

def FunctionMetadataStore.erase (store : FunctionMetadataStore) (stage : Stage)
    (key : FunctionId × WorkerId) : FunctionMetadataStore :=
  { store with workers := Function.update store.workers stage ((store.workers stage).erase key) }

def findWorker (stage : Stage) (p : Pool) (worker : WorkerId) : Option FunctionId :=
  ((p.store.workers stage).entries.find? fun e => e.1.2 = worker).map fun e => e.1.1

def removeWorker (stage : Stage) (worker : WorkerId) (functionId : FunctionId) :
    Handler Pool ε Bool := do
  let _ ← registeredFunction functionId
  let found := decide ((functionId, worker) ∈ (← get).store.workers stage)
  modify fun p => { p with store := p.store.erase stage (functionId, worker) }
  pure found

def insertWorker (stage : Stage) (worker : WorkerId) (functionId : FunctionId) :
    Handler Pool StoreError Unit := do
  let _ ← registeredFunction functionId
  let found := decide ((functionId, worker) ∈ (← get).store.workers stage)
  modify fun p => { p with store := p.store.insert stage (functionId, worker) }
  if found then throw (.workerIdCollision worker)

/-- Move a worker from one set of its function to another. -/
def transition (source target : Stage) (msg : String) (worker : WorkerId)
    (functionId : FunctionId) : Handler Pool StoreError Unit := do
  match (← get).store.functions.lookup functionId with
  | none => throw (.functionNotFound functionId)
  | some _ =>
    if (functionId, worker) ∈ (← get).store.workers source then
      modify fun p => { p with store := p.store.erase source (functionId, worker) }
      insertWorker target worker functionId
    else throw (.workerNotFound worker (some msg))

def findIdleWorker := findWorker .idle
def removeIdleWorker (worker : WorkerId) (functionId : FunctionId) : Handler Pool ε Bool :=
  removeWorker .idle worker functionId
def findActiveWorker := findWorker .active
def removeActiveWorker (worker : WorkerId) (functionId : FunctionId) : Handler Pool ε Bool :=
  removeWorker .active worker functionId
def insertActiveWorker := insertWorker .active
def findDyingWorker := findWorker .dying
def removeDyingWorker (worker : WorkerId) (functionId : FunctionId) : Handler Pool ε Bool :=
  removeWorker .dying worker functionId
def insertDyingWorker := insertWorker .dying

def workerActiveToIdle := transition .active .idle "no such Active Worker"
def workerIdleToDying := transition .idle .dying "no such Idle Worker"
def workerActiveToDying := transition .active .dying "no such Active Worker"

def numWorkers (stage : Stage) (p : Pool) (functionId : FunctionId) : Nat :=
  (p.store.workers stage).entries.countP fun e => e.1.1 = functionId

def iterWorkers (i : Input) (stage : Stage) (p : Pool) : List (FunctionId × WorkerId) :=
  ((p.store.workers stage).ordered i.workerRank).map Prod.fst

inductive RegistrationError where
  | alreadyExists (function : FunctionId)
  | notFound (function : FunctionId)
  | inUse (function : FunctionId) (workers : Nat)

def registerFunction (functionId : FunctionId) (function : RegisteredFunction) :
    Handler Pool RegistrationError Unit := do
  match (← get).store.functions.lookup functionId with
  | some _ => throw (.alreadyExists functionId)
  | none =>
    modify fun p =>
      { p with store.functions := p.store.functions.insert functionId function }

/-- Refused while the function has workers. -/
def deregisterFunction (functionId : FunctionId) : Handler Pool RegistrationError Unit := do
  let p ← get
  let workersCount := numWorkers .active p functionId + numWorkers .idle p functionId +
    numWorkers .dying p functionId
  match p.store.functions.lookup functionId with
  | none => throw (.notFound functionId)
  | some _ =>
    if 0 < workersCount then throw (.inUse functionId workersCount)
    else modify fun p => { p with store.functions := p.store.functions.erase functionId }

end Store

section CpuSet

/-- A CPU with the fewest occupants. -/
def CpuSetManager.peek (rank : Cpu → Nat) (cpus : CpuSetManager) : Option (Cpu × Nat) :=
  (cpus.occupants.ordered rank).argmin Prod.snd

def allocPanic : String := "WorkerId conflict in cpuset priority queue"

def cpuAlloc (i : Input) (worker : WorkerId) : Handler Pool ε Cpu := do
  let cpus := (← get).cpuset
  let (cpu, occupants) ← expect "cpuset priority queue never empties" (cpus.peek i.cpuRank)
  modify fun p =>
    { p with
      cpuset.occupants := p.cpuset.occupants.insert cpu (occupants + 1)
      cpuset.allocations := p.cpuset.allocations.insert worker cpu }
  require (cpus.allocations.lookup worker = none) allocPanic
  pure cpu

def cpuRelease (worker : WorkerId) : Handler Pool CpuSetError Unit := do
  let cpus := (← get).cpuset
  match cpus.allocations.lookup worker with
  | none => throw (.allocationNotFound worker)
  | some cpu =>
    modify fun p => { p with cpuset.allocations := p.cpuset.allocations.erase worker }
    let occupants ← expect "no CPU can ever be missing from the priority queue"
      (cpus.occupants.lookup cpu)
    modify fun p =>
      { p with cpuset.occupants := p.cpuset.occupants.insert cpu (occupants - 1) }

end CpuSet

section Memory

def MemoryStats.reclaim (memory : MemoryStats) (amount : ByteUnit) : MemoryStats :=
  { memory with
    inuse := memory.inuse.sub amount
    reclaimed := ByteUnit.add memory.reclaimed amount }

/-- Whether one more sandbox of `requested` bytes fits, in saturating arithmetic. -/
def MemoryStats.fits (memory : MemoryStats) (requested : ByteUnit) : Bool :=
  ByteUnit.add (ByteUnit.add memory.inuse memory.reclaimed) requested ≤ memory.total

def MemoryStats.reachedHighWatermark (memory : MemoryStats) : Bool :=
  memory.evictionThresHi ≤ memory.inuse

def expectHandle (msg : String) (worker : WorkerId) : Handler Pool ε WorkerHandle := do
  expect msg ((← get).workerHandles.lookup worker)

def transitionPanic : String := "Worker exists, since state transition just succeeded"

def setMemoryAccounting (worker : WorkerId) (accounting : WorkerMemAccounting) :
    Handler Pool ε Unit := do
  let handle ← expectHandle transitionPanic worker
  modify fun p =>
    { p with workerHandles :=
        p.workerHandles.insert worker { handle with memAccounting := accounting } }

end Memory

section Keepalive

/-- The runtime rounds the deadline up when it arms the timer; that sum is not made here. -/
def spawnTimer (worker : WorkerId) (deadline : Instant) : Handler Pool ε Unit :=
  modify fun p => { p with timers := p.timers.insert worker deadline }

def stopTimer (worker : WorkerId) : Handler Pool ε Unit :=
  modify fun p => { p with timers := p.timers.erase worker }

def setDeadline (worker : WorkerId) (deadline : Instant) : Handler Pool ε Unit :=
  modify fun p => { p with workerDeadlines := p.workerDeadlines.insert worker deadline }

def clearDeadline (worker : WorkerId) : Handler Pool ε Unit :=
  modify fun p => { p with workerDeadlines := p.workerDeadlines.erase worker }

def closed : SourceError := "channel closed"

/-- Send a control message to a worker; the error is that of the handle's method. -/
def sendControl (i : Input) (worker : WorkerId) (msg : ControlMessage) :
    Handler Pool Worker.Error Unit :=
  if i.controlOpen worker then record (.sent worker msg)
  else
    match msg with
    | .shutDown | .destroySandbox => throw (.shutDown worker closed)
    | .prepareSandbox _ =>
      throw (.channel "sending ControlMessage::PrepareSandbox to Worker" closed)
    | .createSnapshot _ =>
      throw (.channel "sending ControlMessage::CreateSnapshot to Worker" closed)

def idleWorkerToDying (worker : WorkerId) (functionId : FunctionId) : PoolM Unit := do
  mapErr Error.metadata (workerIdleToDying worker functionId)
  emitAdmissionEvent (.workerCapAvailable functionId)
  stopTimer worker
  clearDeadline worker
  let handle ← expectHandle transitionPanic worker
  let workerMem ← functionMemory handle.functionId
  modify fun p => { p with memory := p.memory.reclaim workerMem }
  setMemoryAccounting worker .reclaimed

def activeWorkerToDying (worker : WorkerId) (functionId : FunctionId) : PoolM Unit := do
  mapErr Error.metadata (workerActiveToDying worker functionId)
  emitAdmissionEvent (.workerCapAvailable functionId)
  clearDeadline worker
  let workerMem ← functionMemory functionId
  modify fun p => { p with memory := p.memory.reclaim workerMem }
  setMemoryAccounting worker .reclaimed

/-- Tell a worker to shut down and keep its snapshot, or to destroy its sandbox. -/
def sendLast (i : Input) (worker : WorkerId) (msg : ControlMessage) : PoolM Unit := do
  let _ ← expectHandle transitionPanic worker
  mapErr Error.worker (sendControl i worker msg)

def invalidWorkerPanic : String := "invalid Worker ID"

/-- Ignored unless the worker's keep-alive timer is still tracked. -/
def decommissionIdleWorker (i : Input) (worker : WorkerId) (functionId : Option FunctionId) :
    PoolM Unit := do
  if worker ∈ (← get).timers then
    let functionId ← match functionId with
      | some functionId => pure functionId
      | none => do
        let handle ← expectHandle invalidWorkerPanic worker
        pure handle.functionId
    idleWorkerToDying worker functionId
    sendLast i worker .shutDown
  else clearDeadline worker

def deadlinePanic : String := "all Idle Workers should have an associated deadline"

def deadlineOf (worker : WorkerId) : Handler Pool ε Instant := do
  expect deadlinePanic ((← get).workerDeadlines.lookup worker)

/-- Candidates in order, until their memory reaches the amount; the last one is included. -/
def takeWhileInclusive (memory : FunctionId → ByteUnit) (memToReclaim : ByteUnit) :
    List (FunctionId × WorkerId) → List (FunctionId × WorkerId)
  | [] => []
  | candidate :: rest =>
    let left := memToReclaim.sub (memory candidate.1)
    if 0 < left then candidate :: takeWhileInclusive memory left rest else [candidate]

/-- The victims an eviction policy suggests. The policies read every idle worker's deadline as soon
as there are two to compare, and their functions' memory. -/
def evict (i : Input) (memToReclaim : ByteUnit) :
    Handler Pool ε (List (FunctionId × WorkerId)) := do
  let p ← get
  let idle := iterWorkers i .idle p
  let memory functionId := ((p.store.functions.lookup functionId).map (·.memory)).getD 0
  match p.config.eviction with
  | .noOp => pure []
  | .random =>
    idle.forM fun candidate => do let _ ← functionMemory candidate.1
    if 0 < memToReclaim then
      pure (takeWhileInclusive memory memToReclaim
        (idle.insertionSort fun a b => i.randomRank a ≤ i.randomRank b))
    else pure []
  | .lruWorker =>
    idle.forM fun candidate => do
      let _ ← functionMemory candidate.1
      if 2 ≤ idle.length then let _ ← deadlineOf candidate.2
    let deadline candidate := (p.workerDeadlines.lookup candidate.2).getD 0
    pure (takeWhileInclusive memory memToReclaim
      (idle.insertionSort fun a b => deadline a ≤ deadline b))

/-- Shut down idle workers until the low watermark would be met; failures are only logged. -/
def triggerEvictionPolicy (i : Input) : Handler Pool ε Unit := do
  let memory := (← get).memory
  let victims ← evict i (memory.inuse.sub memory.evictionThresLo)
  victims.forM fun victim => do
    let _ ← attempt (decommissionIdleWorker i victim.2 (some victim.1))

def evictIfNeeded (i : Input) : Handler Pool ε Unit := do
  if (← get).memory.reachedHighWatermark then triggerEvictionPolicy i

/-- To Idle with a new deadline, or to Dying without one. -/
def deactivateWorker (i : Input) (worker : WorkerId) (functionId : FunctionId) :
    Option Instant → PoolM Unit
  | some newDeadline => do
    mapErr Error.metadata (workerActiveToIdle worker functionId)
    setDeadline worker newDeadline
    spawnTimer worker newDeadline
    emitAdmissionEvent (.workerIdle functionId)
  | none => do
    activeWorkerToDying worker functionId
    sendLast i worker .shutDown

def deactivateWorkerPerKeepalive (i : Input) (worker : WorkerId) (functionId : FunctionId) :
    PoolM Unit := do
  match i.assign functionId with
  | some idleDuration => do
    let newDeadline ← addInstant i.now idleDuration
    deactivateWorker i worker functionId (some newDeadline)
  | none => deactivateWorker i worker functionId none

end Keepalive

section Spawn

def spawnCollision : String := "BUG: map collision"

def announceCollision : String := "BUG: sb map collision"

/-- The last of the elements with the greatest value. -/
def lastMax {α : Type} (f : α → Nat) (xs : List α) : Option α := xs.reverse.argmax f

/-- Take out the snapshot of the function that was restored most often. -/
def pickOrphanSnapshot (functionId : FunctionId) : Handler Pool ε (Option Sandbox) := do
  let sandboxes := ((← get).snapshots.lookup functionId).getD []
  match lastMax (fun e => e.1.stats.restorations) sandboxes.zipIdx with
  | none => pure none
  | some (sandbox, idx) => do
    modify fun p =>
      { p with snapshots := p.snapshots.insert functionId (sandboxes.eraseIdx idx) }
    pure (some sandbox)

def stashSnapshot (functionId : FunctionId) (sandbox : Sandbox) : Handler Pool ε Unit :=
  modify fun p =>
    let sandboxes := (p.snapshots.lookup functionId).getD []
    { p with snapshots := p.snapshots.insert functionId (sandboxes ++ [sandbox]) }

/-- Track the sandbox a worker owns. -/
def insertWorkerBySandbox (collision : String) (sandbox : SandboxId) (worker : WorkerId) :
    Handler Pool ε Unit := do
  let existing := (← get).workerBySandbox.lookup sandbox
  modify fun p => { p with workerBySandbox := p.workerBySandbox.insert sandbox worker }
  require (existing = none) collision

def insertWorkerHandle (worker : WorkerId) (handle : WorkerHandle) : Handler Pool ε Unit := do
  let existing := (← get).workerHandles.lookup worker
  modify fun p => { p with workerHandles := p.workerHandles.insert worker handle }
  require (existing = none) "not yet implemented: TODO: collision"

def spawnUntrackedWorker (i : Input) (functionId : FunctionId) (sandbox : Option Sandbox)
    (memAccounting : WorkerMemAccounting) : PoolM WorkerId := do
  let _ ← registeredFunction functionId
  match i.spawnError with
  | some err => do
    match sandbox with
    | some sandbox => stashSnapshot functionId sandbox
    | none => pure ()
    throw (.workerCreation err)
  | none => do
    let handle := { functionId, sandboxId := sandbox.map Sandbox.id, memAccounting, sandbox }
    insertWorkerHandle i.newWorkerId handle
    record (.spawned i.newWorkerId handle)
    match sandbox with
    | some sandbox => insertWorkerBySandbox spawnCollision sandbox.id i.newWorkerId
    | none => pure ()
    pure i.newWorkerId

def spawnNewWorker (i : Input) (functionId : FunctionId) (sandbox : Option Sandbox) :
    PoolM WorkerId := do
  let worker ← spawnUntrackedWorker i functionId sandbox .inUse
  let workerMem ← functionMemory functionId
  modify fun p => { p with memory.inuse := ByteUnit.add p.memory.inuse workerMem }
  pure worker

end Spawn

section Dispatch

/-- The idle worker with the latest deadline. -/
def pickIdleWorker (i : Input) (functionId : FunctionId) :
    Handler Pool ε (Option WorkerId) := do
  let idle := (iterWorkers i .idle (← get)).filter fun e => e.1 = functionId
  idle.forM fun e => do let _ ← deadlineOf e.2
  let deadlines := (← get).workerDeadlines
  pure ((lastMax (fun e => (deadlines.lookup e.2).getD 0) idle).map Prod.snd)

/-- Reply to the dispatch request; a reply nobody waits for is an error. -/
def replyDispatch (i : Input) (resp : DispatchResponse) : Handler Pool DispatchResponse Unit :=
  if i.admissionWaits then record (.dispatchReply resp) else throw resp

def deny (i : Input) (resp : DispatchResponse) : PoolM Unit :=
  mapErr (fun _ => .admissionUnresponsive "failed denying request") (replyDispatch i resp)

def rollbackPanic : String :=
  "must have just been inserted to SandboxPool.worker_handles & the Active list"

/-- Back to Idle after all; the dispatch has failed nevertheless. -/
def restoreIdle (worker : WorkerId) (functionId : FunctionId) (newDeadline : Instant) :
    PoolM Unit := do
  mapErr Error.metadata (workerActiveToIdle worker functionId)
  setDeadline worker newDeadline
  spawnTimer worker newDeadline
  throw (.admissionUnresponsive s!"failed to send WorkerRef (WorkerId: `{worker}`)")

/-- Undo a dispatch nobody waits for; it always ends with an error. -/
def cleanupFailedDispatch (i : Input) (worker : WorkerId) (oldDeadline : Option Instant) :
    PoolM Unit := do
  let handle ← expectHandle rollbackPanic worker
  let functionId := handle.functionId
  let memoryFreed ← functionMemory functionId
  modify fun p => { p with memory.inuse := p.memory.inuse.sub memoryFreed }
  mapErr Error.cpuSet (cpuRelease worker)
  let newDeadline ← match oldDeadline with
    | some deadline => pure deadline
    | none => addInstant i.now ((i.assign functionId).getD 0)
  restoreIdle worker functionId newDeadline

def assignPanic : String := "WorkerHandle must be present by now"

/-- Hand a worker that is in none of the sets to admission. -/
def assignWorker (i : Input) (worker : WorkerId) (functionId : FunctionId) : PoolM Unit := do
  stopTimer worker
  mapErr Error.metadata (insertActiveWorker worker functionId)
  let cpuset ← cpuAlloc i worker
  let _ ← expectHandle assignPanic worker
  let oldDeadline := (← get).workerDeadlines.lookup worker
  clearDeadline worker
  match ← attempt (replyDispatch i (.dispatch worker cpuset)) with
  | .ok _ => pure ()
  | .error _ => cleanupFailedDispatch i worker oldDeadline

def workerCap (p : Pool) (function : RegisteredFunction) : Nat :=
  (function.admission.bind (·.maxLiveInstances)).getD p.config.defaultWorkerCapPerFunc

/-- Dispatch to a new worker, if the function's cap and the memory allow for one. -/
def dispatchToNewWorker (i : Input) (functionId : FunctionId) (mode : DispatchMode) :
    PoolM Unit := do
  if mode = .reuseIdleOnly then deny i (.wouldBlock .noIdleWorker)
  else
    let function ← registeredFunction functionId
    let p ← get
    let liveWorkers := numWorkers .idle p functionId + numWorkers .active p functionId
    if workerCap p function ≤ liveWorkers then deny i (.wouldBlock .functionWorkerCap)
    else if p.memory.fits function.memory then
      let sandbox ← pickOrphanSnapshot functionId
      let worker ← spawnNewWorker i functionId sandbox
      evictIfNeeded i
      assignWorker i worker functionId
    else
      evictIfNeeded i
      deny i (.wouldBlock .memoryPressure)

def idlePanic : String := "Worker just found to be tracked as Idle"

def handleDispatch (i : Input) (functionId : FunctionId) (mode : DispatchMode) : PoolM Unit := do
  if functionExists (← get) functionId then
    match ← pickIdleWorker i functionId with
    | some worker => do
      let found ← removeIdleWorker worker functionId
      require (found = true) idlePanic
      assignWorker i worker functionId
    | none => dispatchToNewWorker i functionId mode
  else deny i (.reject .unknownFunction)

end Dispatch

end Pool
end Snaplace
