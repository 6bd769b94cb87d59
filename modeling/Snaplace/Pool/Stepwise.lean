import Snaplace.Foundation.Resumption
import Snaplace.Pool.MainLoop

/-!
# The pool's handlers, one access to the shared store at a time

The metadata store is shared with the registrar and with admission, and is locked for one access
only. Here the handlers of the pool are cut at their accesses to it and where they wait. At each
step a handler holds the functions that it has found registered, or whose sandbox it has in hand,
and that it is still to look up.
-/
namespace Snaplace
open Foundation
open Worker (OutboundMessage PrepareSandboxResult CreateSnapshotResult)
open Admission (DispatchMode DispatchResponse)

namespace Pool.Stepwise
open Handler (mapErr expect require fromExcept)
open Resumption (atomic)
variable {ε : Type}

abbrev PoolS (ε : Type) : Type → Type := Resumption (List FunctionId) Pool ε

/-- The statistics of a function, which are found in its entry of the store. -/
def functionStats (held : List FunctionId) (functionId : FunctionId) : PoolS ε Unit :=
  atomic held do
    let _ ← registeredFunction functionId

section Keepalive

def idleWorkerToDying (held : List FunctionId) (worker : WorkerId) (functionId : FunctionId) :
    PoolS Error Unit := do
  let handle ← atomic held do
    mapErr Error.metadata (workerIdleToDying worker functionId)
    emitAdmissionEvent (.workerCapAvailable functionId)
    stopTimer worker
    clearDeadline worker
    expectHandle transitionPanic worker
  atomic held do
    let workerMem ← functionMemory handle.functionId
    modify fun p => { p with memory := p.memory.reclaim workerMem }
    setMemoryAccounting worker .reclaimed

def activeWorkerToDying (held : List FunctionId) (worker : WorkerId) (functionId : FunctionId) :
    PoolS Error Unit := do
  atomic held do
    mapErr Error.metadata (workerActiveToDying worker functionId)
    emitAdmissionEvent (.workerCapAvailable functionId)
    clearDeadline worker
  atomic held do
    let workerMem ← functionMemory functionId
    modify fun p => { p with memory := p.memory.reclaim workerMem }
    setMemoryAccounting worker .reclaimed

def decommissionIdleWorker (held : List FunctionId) (i : Input) (worker : WorkerId)
    (functionId : Option FunctionId) : PoolS Error Unit := do
  let p ← atomic held get
  if worker ∈ p.timers then
    let functionId ← match functionId with
      | some functionId => pure functionId
      | none => atomic held do
        let handle ← expectHandle invalidWorkerPanic worker
        pure handle.functionId
    idleWorkerToDying held worker functionId
    atomic held (sendLast i worker .shutDown)
  else atomic held (clearDeadline worker)

def evict (held : List FunctionId) (i : Input) (memToReclaim : ByteUnit) :
    PoolS ε (List (FunctionId × WorkerId)) := do
  let p ← atomic held get
  let idle := iterWorkers i .idle p
  let memory functionId := ((p.store.functions.lookup functionId).map (·.memory)).getD 0
  match p.config.eviction with
  | .noOp => pure []
  | .random =>
    idle.forM fun candidate => atomic held do let _ ← functionMemory candidate.1
    if 0 < memToReclaim then
      pure (takeWhileInclusive memory memToReclaim
        (idle.insertionSort fun a b => i.randomRank a ≤ i.randomRank b))
    else pure []
  | .lruWorker =>
    idle.forM fun candidate => atomic held do
      let _ ← functionMemory candidate.1
      if 2 ≤ idle.length then let _ ← deadlineOf candidate.2
    let deadline candidate := (p.workerDeadlines.lookup candidate.2).getD 0
    pure (takeWhileInclusive memory memToReclaim
      (idle.insertionSort fun a b => deadline a ≤ deadline b))

def triggerEvictionPolicy (held : List FunctionId) (i : Input) : PoolS ε Unit := do
  let p ← atomic held get
  let victims ← evict held i (p.memory.inuse.sub p.memory.evictionThresLo)
  victims.forM fun victim => do
    let _ ← (decommissionIdleWorker held i victim.2 (some victim.1)).attempt

def evictIfNeeded (held : List FunctionId) (i : Input) : PoolS ε Unit := do
  let p ← atomic held get
  if p.memory.reachedHighWatermark then triggerEvictionPolicy held i

def deactivateWorker (held : List FunctionId) (i : Input) (worker : WorkerId)
    (functionId : FunctionId) : Option Instant → PoolS Error Unit
  | some newDeadline => atomic held (Pool.deactivateWorker i worker functionId (some newDeadline))
  | none => do
    activeWorkerToDying held worker functionId
    atomic held (sendLast i worker .shutDown)

def deactivateWorkerPerKeepalive (held : List FunctionId) (i : Input) (worker : WorkerId)
    (functionId : FunctionId) : PoolS Error Unit := do
  match i.assign functionId with
  | some idleDuration => do
    let newDeadline ← atomic held (addInstant i.now idleDuration)
    deactivateWorker held i worker functionId (some newDeadline)
  | none => deactivateWorker held i worker functionId none

end Keepalive

section Dispatch

def spawnNewWorker (i : Input) (functionId : FunctionId) (sandbox : Option Sandbox) :
    PoolS Error WorkerId := do
  let worker ← atomic [functionId] (spawnUntrackedWorker i functionId sandbox .inUse)
  atomic [functionId] do
    let workerMem ← functionMemory functionId
    modify fun p => { p with memory.inuse := ByteUnit.add p.memory.inuse workerMem }
  functionStats [functionId] functionId
  pure worker

def cleanupFailedDispatch (i : Input) (worker : WorkerId) (oldDeadline : Option Instant) :
    PoolS Error Unit := do
  let handle ← atomic [] (expectHandle rollbackPanic worker)
  let functionId := handle.functionId
  let newDeadline ← atomic [] do
    let memoryFreed ← functionMemory functionId
    modify fun p => { p with memory.inuse := p.memory.inuse.sub memoryFreed }
    mapErr Error.cpuSet (cpuRelease worker)
    match oldDeadline with
    | some deadline => pure deadline
    | none => addInstant i.now ((i.assign functionId).getD 0)
  atomic [] (restoreIdle worker functionId newDeadline)

/-- Make a worker Active, with a CPU and without a deadline. -/
def activate (i : Input) (worker : WorkerId) (functionId : FunctionId) :
    PoolM (Cpu × Option Instant) := do
  stopTimer worker
  mapErr Error.metadata (insertActiveWorker worker functionId)
  let cpuset ← cpuAlloc i worker
  let _ ← expectHandle assignPanic worker
  let oldDeadline := (← get).workerDeadlines.lookup worker
  clearDeadline worker
  pure (cpuset, oldDeadline)

def assignWorker (i : Input) (worker : WorkerId) (functionId : FunctionId) :
    PoolS Error Unit := do
  let (cpuset, oldDeadline) ← atomic [functionId] (activate i worker functionId)
  -- The worker is Active now, which keeps its function registered.
  functionStats [] functionId
  match ← (atomic [] (replyDispatch i (.dispatch worker cpuset))).attempt with
  | .ok _ => pure ()
  | .error _ => cleanupFailedDispatch i worker oldDeadline

def dispatchToNewWorker (i : Input) (functionId : FunctionId) (mode : DispatchMode) :
    PoolS Error Unit := do
  if mode = .reuseIdleOnly then atomic [] (deny i (.wouldBlock .noIdleWorker))
  else
    let (function, p) ← atomic [functionId] do
      let function ← registeredFunction functionId
      pure (function, ← get)
    let liveWorkers := numWorkers .idle p functionId + numWorkers .active p functionId
    if workerCap p function ≤ liveWorkers then
      atomic [] (deny i (.wouldBlock .functionWorkerCap))
    else if p.memory.fits function.memory then
      let sandbox ← atomic [functionId] (pickOrphanSnapshot functionId)
      let worker ← spawnNewWorker i functionId sandbox
      evictIfNeeded [functionId] i
      assignWorker i worker functionId
    else
      evictIfNeeded [] i
      atomic [] (deny i (.wouldBlock .memoryPressure))

def handleDispatch (i : Input) (functionId : FunctionId) (mode : DispatchMode) :
    PoolS Error Unit := do
  if functionExists (← atomic [] get) functionId then
    functionStats [functionId] functionId
    let held := if mode = .reuseIdleOnly then [] else [functionId]
    match ← atomic held (pickIdleWorker i functionId) with
    | some worker => do
      atomic [functionId] do
        let found ← removeIdleWorker worker functionId
        require (found = true) idlePanic
      assignWorker i worker functionId
    | none => dispatchToNewWorker i functionId mode
  else atomic [] (deny i (.reject .unknownFunction))

end Dispatch

section Reap

/-- The reaped worker's own sandbox, when it is one that can be used again. -/
def leavesSandbox (i : Input) (worker : WorkerId) : Bool :=
  match i.exit worker with
  | some { sandbox := .reusable _, .. } => true
  | _ => false

def reapHandle (i : Input) (worker : WorkerId) (functionId : FunctionId) (handle : WorkerHandle) :
    PoolS Error Unit := do
  let (op, workerMem) ← atomic [functionId] do
    clearDeadline worker
    untrackSandbox handle.sandboxId
    let _ ← Handler.attempt (cpuRelease worker)
    let op ← finalizeControlOps worker handle.sandboxId
    let workerMem ← functionMemory functionId
    pure (op, workerMem)
  atomic (if leavesSandbox i worker then [functionId] else []) do
    record (.joined worker handle workerMem (i.exit worker))
    match i.exit worker with
    | some exit => settleExit functionId handle.memAccounting workerMem op exit
    | none => do
      forWaiters op fun op =>
        op.replyDestroyInternalFailure s!"failed to join Worker {worker}: join error"
      throw (.workerJoin worker)

def reapWorker (i : Input) (worker : WorkerId) (functionId : FunctionId) : PoolS Error Unit := do
  let dying ← atomic [functionId] do
    if ← removeDyingWorker worker functionId then some <$> takeHandle dyingPanic worker
    else pure none
  match dying with
  | some handle => reapHandle i worker functionId handle
  | none =>
    let active ← atomic [functionId] do
      if ← removeActiveWorker worker functionId then
        emitAdmissionEvent (.workerCapAvailable functionId)
        some <$> takeHandle activePanic worker
      else pure none
    match active with
    | some handle => reapHandle i worker functionId handle
    | none =>
      let p ← atomic [functionId] get
      if (findIdleWorker p worker).isSome then pure ()
      else
        match p.workerHandles.lookup worker with
        | some _ => do
          let handle ← atomic [functionId] (takeHandle "untracked" worker)
          reapHandle i worker functionId handle
        | none => pure ()

end Reap

section Control

abbrev RequestS (E : Type) := PoolS (E × Option ReplyId)

def answerFailure {E : Type} (reply : E → Reply) (request : RequestS E Unit) : PoolS ε Unit := do
  match ← request.attempt with
  | .ok _ => pure ()
  | .error (err, some respondTo) => atomic [] (send respondTo (reply err))
  | .error (_, none) => pure ()

def abandonPrep (i : Input) (worker : WorkerId) (functionId : FunctionId) (err : Worker.Error) :
    RequestS PrepareSandboxError Unit := do
  let op ← atomic [] do
    let _ ← Handler.attempt (cpuRelease worker)
    takePrepOp worker
  if i.isFinished worker then
    let _ ← (reapWorker i worker functionId).attempt
  Resumption.throw (.internal s!"failed to communicate with new Worker: {err.display}" none,
    op.bind (·.respondTo))

def startPrep (i : Input) (worker : WorkerId) (functionId : FunctionId)
    (options : PrepareSandboxOptions) (respondTo : Option ReplyId) :
    RequestS PrepareSandboxError Unit := do
  let cpuset ← atomic [functionId] do
    mapErr (fun err => (.internal "metadata store: failed to insert _Active_ Worker"
      (some (.metadata err)), respondTo)) (insertActiveWorker worker functionId)
    let cpuset ← cpuAlloc i worker
    insertOp worker .prepareSandbox
    insertPrepOp worker { initialKeepaliveHint := options.initialKeepaliveHint, respondTo }
    let _ ← expectHandle prepPanic worker
    pure cpuset
  match ← (atomic [] (sendControl i worker (.prepareSandbox cpuset))).attempt with
  | .ok _ => pure ()
  | .error err => abandonPrep i worker functionId err

def requestSandboxPrep (i : Input) (functionId : FunctionId) (options : PrepareSandboxOptions)
    (respondTo : Option ReplyId) : RequestS PrepareSandboxError Unit := do
  if functionExists (← atomic [] get) functionId then
    let (sandbox, fits) ← atomic [functionId] do
      let memRequested ← functionMemory functionId
      let sandbox ← startingSandbox functionId options.mode respondTo
      pure (sandbox, (← get).memory.fits memRequested)
    if fits then
      let worker ← (spawnNewWorker i functionId sandbox).mapErr fun err =>
        (.internal "failed while creating new Worker" (some err), respondTo)
      evictIfNeeded [functionId] i
      startPrep i worker functionId options respondTo
    else
      evictIfNeeded [] i
      Resumption.throw (.outOfMemory, respondTo)
  else Resumption.throw (.unknownFunction functionId, respondTo)

def destroyIdleWorker (i : Input) (worker : WorkerId) (functionId : FunctionId)
    (removeSnapshot : Bool) : PoolS Error Unit := do
  if removeSnapshot then
    idleWorkerToDying [] worker functionId
    atomic [] (sendLast i worker .destroySandbox)
  else decommissionIdleWorker [] i worker (some functionId)

def destroyActiveWorker (i : Input) (worker : WorkerId) (functionId : FunctionId)
    (removeSnapshot : Bool) : PoolS Error Unit := do
  if removeSnapshot then
    activeWorkerToDying [] worker functionId
    atomic [] (sendLast i worker .destroySandbox)
  else deactivateWorker [] i worker functionId none

def startDestr (i : Input) (worker : WorkerId) (options : DestroySandboxOptions)
    (respondTo : Option ReplyId) : RequestS DestroySandboxError Unit := do
  let p ← atomic [] get
  match findIdleWorker p worker, findActiveWorker p worker, findDyingWorker p worker with
  | some functionId, _, _ =>
    (destroyIdleWorker i worker functionId options.removePersistedSnapshot).mapErr fun err =>
      (.internal s!"failed to destroy Idle Worker: {err.display}" (some err), respondTo)
  | none, some functionId, _ =>
    if options.allowIfActive then
      (destroyActiveWorker i worker functionId options.removePersistedSnapshot).mapErr fun err =>
        (.internal s!"failed to destroy Active Worker: {err.display}" (some err), respondTo)
    else Resumption.throw (.busy "Worker is Active", respondTo)
  | none, none, some _ => pure ()
  | none, none, none => Resumption.throw (.internal "unknown Worker state" none, respondTo)

/-- What a request to destroy a sandbox finds. -/
inductive Target where
  /-- A destruction that is already under way. -/
  | joined
  | owner (worker : WorkerId)
  /-- A new worker around an orphan of the function. -/
  | spawned (worker : WorkerId) (functionId : FunctionId)

/-- The first part of `destr_target`, up to the spawn for an orphan. -/
def findTarget (i : Input) (sandboxId : SandboxId) (options : DestroySandboxOptions)
    (respondTo : Option ReplyId) : RequestM DestroySandboxError Target := do
  let p ← get
  match p.workerBySandbox.lookup sandboxId with
  | some worker =>
    match p.pending.opByWorker.lookup worker with
    | none => pure (.owner worker)
    | some .destroySandbox => do
      let op ← expect "pending op context should exist while PendingControlOp::DestroySandbox"
        (p.pending.sandboxDestrs.lookup worker)
      insertDestrOp worker { op with respondTo := op.respondTo ++ respondTo.toList }
      pure .joined
    | some op => throw (.busy s!"PendingControlOp::{op.display}", respondTo)
  | none =>
    if options.removePersistedSnapshot then
      match findSnapshot i p sandboxId with
      | none => throw (.notFound sandboxId, respondTo)
      | some (functionId, idx, sandbox) => do
        let sandboxes ← expect "FunctionId just found by scanning `self.snapshots`"
          (p.snapshots.lookup functionId)
        modify fun p =>
          { p with snapshots := p.snapshots.insert functionId (sandboxes.eraseIdx idx) }
        let worker ← mapErr (fun err => (.internal "failed to spawn new Worker" (some err),
          respondTo)) (spawnUntrackedWorker i functionId (some sandbox) .uncharged)
        pure (.spawned worker functionId)
    else throw (.notFound sandboxId, respondTo)

def destrTarget (i : Input) (sandboxId : SandboxId) (options : DestroySandboxOptions)
    (respondTo : Option ReplyId) : RequestS DestroySandboxError (Option WorkerId) := do
  match ← atomic [] (findTarget i sandboxId options respondTo) with
  | .joined => pure none
  | .owner worker => pure (some worker)
  | .spawned worker functionId => do
    atomic [functionId] do
      mapErr (fun err => (.internal "metadata store error" (some (.metadata err)), respondTo))
        (insertDyingWorker worker functionId)
      let _ ← expectHandle destroyerPanic worker
      mapErr (fun err => (.internal s!"failed to contact dedicated Worker: {err.display}"
        (some (.worker err)), respondTo)) (sendControl i worker .destroySandbox)
    pure (some worker)

def requestSandboxDestr (i : Input) (sandboxId : SandboxId) (options : DestroySandboxOptions)
    (respondTo : Option ReplyId) : RequestS DestroySandboxError Unit := do
  match ← destrTarget i sandboxId options respondTo with
  | none => pure ()
  | some worker =>
    startDestr i worker options respondTo
    atomic [] (trackDestr worker options.removePersistedSnapshot respondTo)

/-- An Idle worker becomes Active in two accesses, and is in none of the sets in between. -/
def activateForSnapshot (worker : WorkerId) (functionId : FunctionId) (sandboxId : SandboxId)
    (respondTo : Option ReplyId) : RequestS CreateSnapshotError Unit := do
  if ← atomic [] (removeIdleWorker worker functionId) then
    atomic [] (mapErr (fun err => (.internal "metadata store error" (some (.metadata err)),
      respondTo)) (insertActiveWorker worker functionId))
  else
    let p ← atomic [] get
    match findActiveWorker p worker, findDyingWorker p worker with
    | some _, _ => pure ()
    | none, some _ => Resumption.throw (.workerDying worker sandboxId, respondTo)
    | none, none => Resumption.throw (.internal "unknown Worker state" none, respondTo)

def startSnapshot (i : Input) (worker : WorkerId) (functionId : FunctionId) (sandboxId : SandboxId)
    (respondTo : Option ReplyId) : RequestS CreateSnapshotError Unit := do
  atomic [] (stopTimer worker)
  activateForSnapshot worker functionId sandboxId respondTo
  atomic [] do
    let timerInfo := ((← get).workerDeadlines.lookup worker).map fun deadline =>
      { tsPause := i.now, deadline }
    clearDeadline worker
    let _ ← expectHandle snapshotHandlePanic worker
    mapErr (fun err => (.internal err.display (some (.worker err)), respondTo))
      (sendControl i worker (.createSnapshot sandboxId))
    insertOp worker .snapshot
    insertSnapshotOp sandboxId { timerInfo, respondTo := respondTo.toList }

def requestSnapshotting (i : Input) (sandboxId : SandboxId) (respondTo : Option ReplyId) :
    RequestS CreateSnapshotError Unit := do
  let p ← atomic [] get
  if p.config.snapshotCreationTime = .never then Resumption.throw (.disabled, respondTo)
  else
    match p.workerBySandbox.lookup sandboxId with
    | none => Resumption.throw (.unassignedSandboxId sandboxId, respondTo)
    | some worker => do
      let handle ← atomic [] (expectHandle "exists in `sandboxes_by_worker`; should be here too"
        worker)
      match p.pending.opByWorker.lookup worker with
      | none => startSnapshot i worker handle.functionId sandboxId respondTo
      | some .snapshot => atomic [] (joinSnapshot sandboxId respondTo)
      | some .prepareSandbox => Resumption.throw (.busy "being created/warmed-up", respondTo)
      | some .destroySandbox => Resumption.throw (.busy "being destroyed", respondTo)

def handleControl (i : Input) : PoolControlMessage → PoolS ε Unit
  | .prepareSandbox functionId options respondTo => do
    atomic [] (record (.requested respondTo))
    answerFailure (fun err => .prepareSandbox (.error err))
      (requestSandboxPrep i functionId options (some respondTo))
  | .destroySandbox target options respondTo => do
    atomic [] (record (.requested respondTo))
    answerFailure (fun err => .destroySandbox (.error err))
      (requestSandboxDestr i target options (some respondTo))
  | .listSandboxes _ => .panic "not yet implemented"
  | .createSnapshot sandboxId respondTo => do
    atomic [] (record (.requested respondTo))
    answerFailure (fun err => .createSnapshot (.error err))
      (requestSnapshotting i sandboxId (some respondTo))

end Control

section WorkerStatus

def parkPrepared (i : Input) (worker : WorkerId) (functionId : FunctionId) :
    PoolS Error Unit := do
  let p ← atomic [] get
  match (p.pending.sandboxPreps.lookup worker).bind (·.initialKeepaliveHint) with
  | some initialKeepalive => do
    let deadline ← atomic [] (addInstant i.now initialKeepalive)
    deactivateWorker [] i worker functionId (some deadline)
  | none => deactivateWorkerPerKeepalive [] i worker functionId

def finalizeSandboxPreparation (i : Input) (resp : PrepareSandboxResult) : PoolS Error Unit := do
  let released ← (atomic [] (releaseForPrep resp.workerId)).attempt
  let (ret, result) ← match resp.result with
    | .ok prepared => do
      let parked ← (parkPrepared i resp.workerId resp.functionId).attempt
      let ret := orElseLater released parked
      pure (ret, (ret.mapError prepFailure).map fun _ =>
        sandboxInfo resp.functionId .idle prepared)
    | .error dscr => pure (released, Except.error (PrepareSandboxError.worker dscr))
  atomic [] do
    let op ← takePrepOp resp.workerId
    answerPrep op result
    removeOp resp.workerId
    fromExcept ret

def parkSnapshotted (i : Input) (worker : WorkerId) (functionId : FunctionId) :
    Option PausedTimerInfo → PoolS Error Unit
  | some paused => do
    let deadline ← atomic [] (addInstant paused.deadline (i.now - paused.tsPause))
    deactivateWorker [] i worker functionId (some deadline)
  | none => deactivateWorkerPerKeepalive [] i worker functionId

def finalizeSnapshotting (i : Input) (resp : CreateSnapshotResult) : PoolS Error Unit := do
  let op ← atomic [] (takeSnapshotOp resp.sandboxId)
  let ret ← (parkSnapshotted i resp.workerId resp.functionId (op.bind (·.timerInfo))).attempt
  atomic [] do
    answerSnapshot op (resp.result.mapError .snapshotWorker)
    removeOp resp.workerId
    fromExcept ret

def onNeedWork (i : Input) (worker : WorkerId) (functionId : FunctionId) : PoolS Error Unit := do
  let p ← atomic [] do
    mapErr Error.cpuSet (cpuRelease worker)
    get
  match p.pending.opByWorker.lookup worker with
  | some _ => pure ()
  | none => deactivateWorkerPerKeepalive [] i worker functionId

def handleWorkerStatus (i : Input) : OutboundMessage → PoolS Error Unit
  | .sandboxId worker sandboxId => atomic [] (updateSandboxId worker sandboxId)
  | .needWork worker functionId => onNeedWork i worker functionId
  | .reapMe worker functionId => reapWorker i worker functionId
  | .sandboxPreparation resp => finalizeSandboxPreparation i resp
  | .snapshotCreation resp => finalizeSnapshotting i resp

end WorkerStatus

section Shutdown

def retireAllIdle (i : Input) : PoolS ε Unit := do
  let p ← atomic [] get
  (iterWorkers i .idle p).forM fun (functionId, worker) => do
    let _ ← (decommissionIdleWorker [] i worker (some functionId)).attempt

def retireActive (i : Input) (worker : WorkerId) (functionId : FunctionId) :
    PoolS Error Unit := do
  activeWorkerToDying [] worker functionId
  atomic [] (sendLast i worker .shutDown)

def retireAllActive (i : Input) : PoolS ε Unit := do
  let p ← atomic [] get
  (iterWorkers i .active p).forM fun (functionId, worker) => do
    let _ ← (retireActive i worker functionId).attempt

def beginShutdown (i : Input) : PoolS ε Unit := do
  retireAllIdle i
  retireAllActive i
  atomic [] (modify fun p => { p with phase := .shuttingDown })

def drainWorkerMessage (i : Input) : OutboundMessage → PoolS ε Unit
  | .reapMe worker functionId => do
    let _ ← (reapWorker i worker functionId).attempt
  | msg => atomic [] (Pool.drainWorkerMessage i msg)

/-- Each orphan is destroyed on its own; those that are left are in hand meanwhile. -/
def destroyOrphans (i : Input) : List (FunctionId × Sandbox) → PoolS ε Unit
  | [] => pure ()
  | (functionId, sandbox) :: rest => do
    atomic (functionId :: rest.map Prod.fst) (destroyOrphanSandbox i functionId sandbox)
    destroyOrphans i rest

/-- All snapshots, with their functions. -/
def orphans (i : Input) (p : Pool) : List (FunctionId × Sandbox) :=
  (p.snapshots.ordered i.functionRank).flatMap fun e => e.2.map fun sandbox => (e.1, sandbox)

def cleanupOrphans (i : Input) : PoolS ε Unit := do
  let p ← atomic [] get
  if p.config.retainSnapshots then atomic [] (record .syncDbSnapshots)
  else
    let taken ← atomic [] do
      let taken := orphans i (← get)
      modify fun p => { p with snapshots := ∅ }
      pure taken
    destroyOrphans i taken
    atomic [] (record .wipeDbSnapshots)

end Shutdown

/-- The registrar's events are not the pool's. -/
def serve (i : Input) : Event → PoolS Error Unit
  | .keepaliveTimeout worker => decommissionIdleWorker [] i worker none
  | .workerMessage msg => handleWorkerStatus i msg
  | .dispatch functionId mode => handleDispatch i functionId mode
  | .control msg => handleControl i msg
  | .registerFunction .. | .deregisterFunction _ | .quit | .admissionClosed | .snapmanMessage
  | .shutdownTick => pure ()

def handleServing (i : Input) : PoolS ε Unit := do
  match i.event with
  | .quit | .admissionClosed => beginShutdown i
  | event => do
    match ← (serve i event).attempt with
    | .ok _ => pure ()
    | .error _ => beginShutdown i

def handleShuttingDown (i : Input) : PoolS ε Bool := do
  match i.event with
  | .dispatch .. => do
    atomic [] (rejectDispatch i)
    pure false
  | .workerMessage msg => do
    drainWorkerMessage i msg
    pure false
  | .shutdownTick => do
    let p ← atomic [] get
    if p.noWorkers then
      cleanupOrphans i
      pure true
    else pure false
  | .registerFunction .. | .deregisterFunction _ | .quit | .keepaliveTimeout _ | .snapmanMessage
  | .control _ | .admissionClosed => pure false

/-- The function of a worker that announces its end: the store is still to be asked about it. -/
def announced : Event → List FunctionId
  | .workerMessage (.reapMe _ functionId) => [functionId]
  | _ => []

/-- One turn of the pool's loop. -/
def turn (i : Input) : PoolS Empty (Option Unit) := do
  let p ← atomic (announced i.event) get
  match p.phase with
  | .serving => do
    handleServing i
    pure none
  | .shuttingDown => do
    if ← handleShuttingDown i then pure (some ()) else pure none

end Pool.Stepwise
end Snaplace
