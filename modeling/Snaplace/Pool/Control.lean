import Snaplace.Pool.Workers

/-!
# The pool's control requests

Preparing, destroying and snapshotting a sandbox on request: how a request starts, how it is
completed by the worker's report or by the worker's reaping, and how its waiters are answered.
-/
namespace Snaplace
open Foundation Foundation.Handler
open Worker (SandboxExit WorkerExit ControlMessage PrepareSandboxResult CreateSnapshotResult)
open Admission (PoolEvent)

namespace Pool
variable {ε : Type}

section Replies

def send (respondTo : ReplyId) (reply : Reply) : Handler Pool ε Unit :=
  record (.reply respondTo reply)

def sendAll (respondTo : List ReplyId) (reply : Reply) : Handler Pool ε Unit :=
  respondTo.forM fun waiter => send waiter reply

/-- A control request that fails hands its waiter back, to be told by the caller. -/
abbrev RequestM (E : Type) := Handler Pool (E × Option ReplyId)

def answerFailure {E : Type} (reply : E → Reply) (request : RequestM E Unit) :
    Handler Pool ε Unit := do
  match ← attempt request with
  | .ok _ => pure ()
  | .error (err, some respondTo) => send respondTo (reply err)
  | .error (_, none) => pure ()

namespace PendingSandboxDestr

def replyDestroyInternalFailure (op : PendingSandboxDestr) (msg : String) : Handler Pool ε Unit :=
  sendAll op.respondTo (.destroySandbox (.error (.internal msg none)))

/-- A snapshot that was to be removed and still exists makes the request a failure. -/
def replyDestroySuccess (op : PendingSandboxDestr) (persistentSnapshotExists : Bool) :
    Handler Pool ε Unit :=
  if persistentSnapshotExists && op.removePersistedSnapshot then
    op.replyDestroyInternalFailure "failed to remove persisted snapshot"
  else sendAll op.respondTo (.destroySandbox (.ok persistentSnapshotExists))

def replyDestroyWorkerFailure (op : PendingSandboxDestr) (err : Worker.Error) :
    Handler Pool ε Unit :=
  sendAll op.respondTo (.destroySandbox (.error (.worker err.display)))

end PendingSandboxDestr

def forWaiters (op : Option PendingSandboxDestr)
    (reply : PendingSandboxDestr → Handler Pool ε Unit) : Handler Pool ε Unit :=
  match op with
  | some op => reply op
  | none => pure ()

end Replies

section Entries

def insertOp (worker : WorkerId) (op : PendingControlOp) : Handler Pool ε Unit :=
  modify fun p => { p with pending.opByWorker := p.pending.opByWorker.insert worker op }

def removeOp (worker : WorkerId) : Handler Pool ε Unit :=
  modify fun p => { p with pending.opByWorker := p.pending.opByWorker.erase worker }

def insertSnapshotOp (sandbox : SandboxId) (op : PendingSnapshot) : Handler Pool ε Unit :=
  modify fun p => { p with pending.snapshots := p.pending.snapshots.insert sandbox op }

def takeSnapshotOp (sandbox : SandboxId) : Handler Pool ε (Option PendingSnapshot) :=
  modifyGet fun p => (p.pending.snapshots.lookup sandbox,
    { p with pending.snapshots := p.pending.snapshots.erase sandbox })

def insertPrepOp (worker : WorkerId) (op : PendingSandboxPrep) : Handler Pool ε Unit :=
  modify fun p => { p with pending.sandboxPreps := p.pending.sandboxPreps.insert worker op }

def takePrepOp (worker : WorkerId) : Handler Pool ε (Option PendingSandboxPrep) :=
  modifyGet fun p => (p.pending.sandboxPreps.lookup worker,
    { p with pending.sandboxPreps := p.pending.sandboxPreps.erase worker })

def insertDestrOp (worker : WorkerId) (op : PendingSandboxDestr) : Handler Pool ε Unit :=
  modify fun p => { p with pending.sandboxDestrs := p.pending.sandboxDestrs.insert worker op }

def takeDestrOp (worker : WorkerId) : Handler Pool ε (Option PendingSandboxDestr) :=
  modifyGet fun p => (p.pending.sandboxDestrs.lookup worker,
    { p with pending.sandboxDestrs := p.pending.sandboxDestrs.erase worker })

end Entries

section Reap

def reapingMsg : String := "reaping Worker; probably abnormal termination"

/-- Answer the waiter of a preparation, if there is one. -/
def answerPrep (op : Option PendingSandboxPrep) (reply : PrepareSandboxReply) :
    Handler Pool ε Unit :=
  match op.bind (·.respondTo) with
  | some respondTo => send respondTo (.prepareSandbox reply)
  | none => pure ()

def answerSnapshot (op : Option PendingSnapshot) (reply : CreateSnapshotReply) :
    Handler Pool ε Unit :=
  match op with
  | some op => sendAll op.respondTo (.createSnapshot reply)
  | none => pure ()

/-- Fail the preparation or snapshot of a worker that is reaped; a destruction is handed back. -/
def finalizeControlOps (worker : WorkerId) (sandbox : Option SandboxId) :
    Handler Pool ε (Option PendingSandboxDestr) := do
  removeOp worker
  match sandbox with
  | some sandbox => do
    let op ← takeSnapshotOp sandbox
    answerSnapshot op (.error (.internal reapingMsg none))
  | none => pure ()
  let op ← takePrepOp worker
  answerPrep op (.error (.internal reapingMsg none))
  takeDestrOp worker

def reapMemAccount (accounting : WorkerMemAccounting) (workerMem : ByteUnit) :
    Handler Pool ε Unit := do
  match accounting with
  | .inUse => do
    modify fun p => { p with memory.inuse := p.memory.inuse.sub workerMem }
    emitAdmissionEvent .memoryCapAvailable
  | .reclaimed => do
    modify fun p => { p with memory.reclaimed := p.memory.reclaimed.sub workerMem }
    emitAdmissionEvent .memoryCapAvailable
  | .uncharged => pure ()

def trashSandbox (sandbox : Sandbox) : Handler Pool ε Unit :=
  modify fun p => { p with trashedSandboxes := p.trashedSandboxes ++ [sandbox] }

def trashedPanic : String := "Workers can never return successfully with a trashed sandbox"

/-- What becomes of a reaped worker's sandbox and memory, and what its waiters are told. -/
def settleExit (functionId : FunctionId) (accounting : WorkerMemAccounting) (workerMem : ByteUnit)
    (op : Option PendingSandboxDestr) : WorkerExit → PoolM Unit
  | { result := .ok _, sandbox := .reusable sandbox } => do
    stashSnapshot functionId sandbox
    reapMemAccount accounting workerMem
    forWaiters op fun op => op.replyDestroySuccess true
  | { result := .ok _, sandbox := .none } => do
    reapMemAccount accounting workerMem
    forWaiters op fun op => op.replyDestroySuccess false
  | { result := .ok _, sandbox := .trashed _ } => panicWith trashedPanic
  | { result := .error err, sandbox := .reusable sandbox } => do
    stashSnapshot functionId sandbox
    reapMemAccount accounting workerMem
    forWaiters op fun op => op.replyDestroyWorkerFailure err
  | { result := .error err, sandbox := .trashed sandbox } => do
    trashSandbox sandbox
    -- The memory stays charged: the sandbox may still occupy it.
    forWaiters op fun op => op.replyDestroyWorkerFailure err
  | { result := .error err, sandbox := .none } => do
    match err with
    | .init .. => reapMemAccount accounting workerMem
    | _ => pure () -- Stays charged: the clean-up was not proved.
    forWaiters op fun op => op.replyDestroyWorkerFailure err

def untrackSandbox : Option SandboxId → Handler Pool ε Unit
  | some sandbox => modify fun p => { p with workerBySandbox := p.workerBySandbox.erase sandbox }
  | none => pure ()

/-- The rest of a reaping, once the worker is in none of the tables of workers. -/
def reapHandle (i : Input) (worker : WorkerId) (functionId : FunctionId) (handle : WorkerHandle) :
    PoolM Unit := do
  clearDeadline worker
  untrackSandbox handle.sandboxId
  let _ ← attempt (cpuRelease worker)
  let op ← finalizeControlOps worker handle.sandboxId
  let workerMem ← functionMemory functionId
  record (.joined worker handle workerMem (i.exit worker))
  match i.exit worker with
  | some exit => settleExit functionId handle.memAccounting workerMem op exit
  | none => do
    forWaiters op fun op =>
      op.replyDestroyInternalFailure s!"failed to join Worker {worker}: join error"
    throw (.workerJoin worker)

def takeHandle (msg : String) (worker : WorkerId) : Handler Pool ε WorkerHandle := do
  let handle ← expectHandle msg worker
  modify fun p => { p with workerHandles := p.workerHandles.erase worker }
  pure handle

def dyingPanic : String := "just checked that _Dying_ Worker exists"

def activePanic : String := "just checked that _Active_ Worker exists"

def reapWorker (i : Input) (worker : WorkerId) (functionId : FunctionId) : PoolM Unit := do
  if ← removeDyingWorker worker functionId then
    let handle ← takeHandle dyingPanic worker
    reapHandle i worker functionId handle
  else if ← removeActiveWorker worker functionId then
    emitAdmissionEvent (.workerCapAvailable functionId)
    let handle ← takeHandle activePanic worker
    reapHandle i worker functionId handle
  else if (findIdleWorker (← get) worker).isSome then
    pure ()
  else
    match (← get).workerHandles.lookup worker with
    | some _ => do
      let handle ← takeHandle "untracked" worker
      reapHandle i worker functionId handle
    | none => pure ()

end Reap

section Prepare

/-- The snapshot to start from, if any; an error when one is required and there is none. -/
def startingSandbox (functionId : FunctionId) (mode : SandboxProvisioningMode)
    (respondTo : Option ReplyId) : RequestM PrepareSandboxError (Option Sandbox) :=
  match mode with
  | .preferSnapshot => pickOrphanSnapshot functionId
  | .requireSnapshot => do
    match ← pickOrphanSnapshot functionId with
    | some sandbox => pure (some sandbox)
    | none => throw (.outOfSnapshots, respondTo)
  | .forceFresh => pure none

/-- The worker could not be told: its preparation is taken back, but it stays marked. -/
def abandonPrep (i : Input) (worker : WorkerId) (functionId : FunctionId) (err : Worker.Error) :
    RequestM PrepareSandboxError Unit := do
  let _ ← attempt (cpuRelease worker)
  let op ← takePrepOp worker
  if i.isFinished worker then
    let _ ← attempt (reapWorker i worker functionId)
  throw (.internal s!"failed to communicate with new Worker: {err.display}" none,
    op.bind (·.respondTo))

def prepPanic : String := "new Worker must be tracked by now"

/-- Make a new worker Active and send it the preparation. -/
def startPrep (i : Input) (worker : WorkerId) (functionId : FunctionId)
    (options : PrepareSandboxOptions) (respondTo : Option ReplyId) :
    RequestM PrepareSandboxError Unit := do
  mapErr (fun err => (.internal "metadata store: failed to insert _Active_ Worker"
    (some (.metadata err)), respondTo)) (insertActiveWorker worker functionId)
  let cpuset ← cpuAlloc i worker
  insertOp worker .prepareSandbox
  insertPrepOp worker { initialKeepaliveHint := options.initialKeepaliveHint, respondTo }
  let _ ← expectHandle prepPanic worker
  match ← attempt (sendControl i worker (.prepareSandbox cpuset)) with
  | .ok _ => pure ()
  | .error err => abandonPrep i worker functionId err

def requestSandboxPrep (i : Input) (functionId : FunctionId) (options : PrepareSandboxOptions)
    (respondTo : Option ReplyId) : RequestM PrepareSandboxError Unit := do
  if functionExists (← get) functionId then
    let memRequested ← functionMemory functionId
    let sandbox ← startingSandbox functionId options.mode respondTo
    if (← get).memory.fits memRequested then
      let worker ← mapErr (fun err =>
        (.internal "failed while creating new Worker" (some err), respondTo))
        (spawnNewWorker i functionId sandbox)
      evictIfNeeded i
      startPrep i worker functionId options respondTo
    else
      -- The snapshot picked above is a local variable that goes out of scope here.
      evictIfNeeded i
      throw (.outOfMemory, respondTo)
  else throw (.unknownFunction functionId, respondTo)

end Prepare

section Destroy

def destroyIdleWorker (i : Input) (worker : WorkerId) (functionId : FunctionId)
    (removeSnapshot : Bool) : PoolM Unit := do
  if removeSnapshot then
    idleWorkerToDying worker functionId
    sendLast i worker .destroySandbox
  else decommissionIdleWorker i worker (some functionId)

def destroyActiveWorker (i : Input) (worker : WorkerId) (functionId : FunctionId)
    (removeSnapshot : Bool) : PoolM Unit := do
  if removeSnapshot then
    activeWorkerToDying worker functionId
    sendLast i worker .destroySandbox
  else deactivateWorker i worker functionId none

/-- Subscribe to the destruction of a worker that is now on its way to be reaped. -/
def trackDestr (worker : WorkerId) (removePersistedSnapshot : Bool) (respondTo : Option ReplyId) :
    Handler Pool ε Unit := do
  insertOp worker .destroySandbox
  insertDestrOp worker { removePersistedSnapshot, respondTo := respondTo.toList }

/-- Start the destruction according to the set the worker is in, unless it is already Dying. -/
def startDestr (i : Input) (worker : WorkerId) (options : DestroySandboxOptions)
    (respondTo : Option ReplyId) : RequestM DestroySandboxError Unit := do
  let p ← get
  match findIdleWorker p worker, findActiveWorker p worker, findDyingWorker p worker with
  | some functionId, _, _ =>
    mapErr (fun err => (.internal s!"failed to destroy Idle Worker: {err.display}" (some err),
      respondTo)) (destroyIdleWorker i worker functionId options.removePersistedSnapshot)
  | none, some functionId, _ =>
    if options.allowIfActive then
      mapErr (fun err => (.internal s!"failed to destroy Active Worker: {err.display}" (some err),
        respondTo)) (destroyActiveWorker i worker functionId options.removePersistedSnapshot)
    else throw (.busy "Worker is Active", respondTo)
  | none, none, some _ => pure ()
  | none, none, none => throw (.internal "unknown Worker state" none, respondTo)

def destroyerPanic : String := "Worker just spawned"

/-- Give an orphan to a new worker, Dying from the start, that is told to destroy it. -/
def spawnDestroyer (i : Input) (functionId : FunctionId) (sandbox : Sandbox)
    (respondTo : Option ReplyId) : RequestM DestroySandboxError WorkerId := do
  let worker ← mapErr (fun err => (.internal "failed to spawn new Worker" (some err), respondTo))
    (spawnUntrackedWorker i functionId (some sandbox) .uncharged)
  mapErr (fun err => (.internal "metadata store error" (some (.metadata err)), respondTo))
    (insertDyingWorker worker functionId)
  let _ ← expectHandle destroyerPanic worker
  mapErr (fun err => (.internal s!"failed to contact dedicated Worker: {err.display}"
    (some (.worker err)), respondTo)) (sendControl i worker .destroySandbox)
  pure worker

/-- Where a sandbox is among the snapshots. -/
def findSnapshot (i : Input) (p : Pool) (sandboxId : SandboxId) :
    Option (FunctionId × Nat × Sandbox) :=
  (p.snapshots.ordered i.functionRank).findSome? fun e =>
    (e.2.zipIdx.find? fun s => s.1.id = sandboxId).map fun s => (e.1, s.2, s.1)

/-- The worker to be destroyed: the sandbox's owner, or a new one for an orphan. `none` when the
request has joined one that is already under way. -/
def destrTarget (i : Input) (sandboxId : SandboxId) (options : DestroySandboxOptions)
    (respondTo : Option ReplyId) : RequestM DestroySandboxError (Option WorkerId) := do
  let p ← get
  match p.workerBySandbox.lookup sandboxId with
  | some worker =>
    match p.pending.opByWorker.lookup worker with
    | none => pure (some worker)
    | some .destroySandbox => do
      let op ← expect "pending op context should exist while PendingControlOp::DestroySandbox"
        (p.pending.sandboxDestrs.lookup worker)
      insertDestrOp worker { op with respondTo := op.respondTo ++ respondTo.toList }
      pure none
    | some op => throw (.busy s!"PendingControlOp::{op.display}", respondTo)
  | none =>
    if options.removePersistedSnapshot then
      match findSnapshot i p sandboxId with
      | none => throw (.notFound sandboxId, respondTo)
      | some (functionId, idx, sandbox) => do
        let sandboxes ← expect "FunctionId just found by scanning `self.snapshots`"
          (p.snapshots.lookup functionId)
        modify fun p =>
          { p with snapshots := p.snapshots.insert functionId (sandboxes.eraseIdx idx) }
        some <$> spawnDestroyer i functionId sandbox respondTo
    else throw (.notFound sandboxId, respondTo)

def requestSandboxDestr (i : Input) (sandboxId : SandboxId) (options : DestroySandboxOptions)
    (respondTo : Option ReplyId) : RequestM DestroySandboxError Unit := do
  match ← destrTarget i sandboxId options respondTo with
  | none => pure ()
  | some worker =>
    startDestr i worker options respondTo
    trackDestr worker options.removePersistedSnapshot respondTo

end Destroy

section Snapshot

def snapshotContextPanic : String :=
  "snapshotting context must exist while PendingControlOp::Snapshot"

/-- Subscribe to the snapshot of this sandbox that is already under way. -/
def joinSnapshot (sandboxId : SandboxId) (respondTo : Option ReplyId) :
    RequestM CreateSnapshotError Unit := do
  match respondTo with
  | none => pure ()
  | some respondTo => do
    let op ← expect snapshotContextPanic ((← get).pending.snapshots.lookup sandboxId)
    insertSnapshotOp sandboxId { op with respondTo := op.respondTo ++ [respondTo] }

/-- An Idle worker becomes Active for its snapshot; an Active one stays so. -/
def activateForSnapshot (worker : WorkerId) (functionId : FunctionId) (sandboxId : SandboxId)
    (respondTo : Option ReplyId) : RequestM CreateSnapshotError Unit := do
  if ← removeIdleWorker worker functionId then
    mapErr (fun err => (.internal "metadata store error" (some (.metadata err)), respondTo))
      (insertActiveWorker worker functionId)
  else
    match findActiveWorker (← get) worker, findDyingWorker (← get) worker with
    | some _, _ => pure ()
    | none, some _ => throw (.workerDying worker sandboxId, respondTo)
    | none, none => throw (.internal "unknown Worker state" none, respondTo)

def snapshotHandlePanic : String := "already retrieved earlier"

/-- Send the request to the worker, and remember its waiter and how long its keep-alive had left. -/
def startSnapshot (i : Input) (worker : WorkerId) (functionId : FunctionId) (sandboxId : SandboxId)
    (respondTo : Option ReplyId) : RequestM CreateSnapshotError Unit := do
  stopTimer worker
  activateForSnapshot worker functionId sandboxId respondTo
  let timerInfo := ((← get).workerDeadlines.lookup worker).map fun deadline =>
    { tsPause := i.now, deadline }
  clearDeadline worker
  let _ ← expectHandle snapshotHandlePanic worker
  mapErr (fun err => (.internal err.display (some (.worker err)), respondTo))
    (sendControl i worker (.createSnapshot sandboxId))
  insertOp worker .snapshot
  insertSnapshotOp sandboxId { timerInfo, respondTo := respondTo.toList }

def requestSnapshotting (i : Input) (sandboxId : SandboxId) (respondTo : Option ReplyId) :
    RequestM CreateSnapshotError Unit := do
  let p ← get
  if p.config.snapshotCreationTime = .never then throw (.disabled, respondTo)
  else
    match p.workerBySandbox.lookup sandboxId with
    | none => throw (.unassignedSandboxId sandboxId, respondTo)
    | some worker => do
      let handle ← expectHandle "exists in `sandboxes_by_worker`; should be here too" worker
      match p.pending.opByWorker.lookup worker with
      | none => startSnapshot i worker handle.functionId sandboxId respondTo
      | some .snapshot => joinSnapshot sandboxId respondTo
      | some .prepareSandbox => throw (.busy "being created/warmed-up", respondTo)
      | some .destroySandbox => throw (.busy "being destroyed", respondTo)

end Snapshot

section Finalize

def releaseForPrep (worker : WorkerId) : PoolM Unit := mapErr Error.cpuSet (cpuRelease worker)

/-- Park a worker that has prepared its sandbox, for the hinted time the first time. -/
def parkPrepared (i : Input) (worker : WorkerId) (functionId : FunctionId) : PoolM Unit := do
  match ((← get).pending.sandboxPreps.lookup worker).bind (·.initialKeepaliveHint) with
  | some initialKeepalive => do
    let deadline ← addInstant i.now initialKeepalive
    deactivateWorker i worker functionId (some deadline)
  | none => deactivateWorkerPerKeepalive i worker functionId

def sandboxInfo (functionId : FunctionId) (state : SandboxControlState)
    (prepared : SandboxId × Bool × SandboxStats) : SandboxInfo where
  sandboxId := prepared.1
  functionId := functionId
  state := state
  hasSnapshot := prepared.2.1
  stats := some prepared.2.2

/-- A later failure takes the place of an earlier one. -/
def orElseLater (earlier : Except Error Unit) : Except Error Unit → Except Error Unit
  | .error err => .error err
  | .ok _ => earlier

def prepFailure (err : Error) : PrepareSandboxError :=
  .internal s!"Pool-side post-PrepareSandbox processing failed: {err.display}" none

def finalizeSandboxPreparation (i : Input) (resp : PrepareSandboxResult) : PoolM Unit := do
  let released ← attempt (releaseForPrep resp.workerId)
  let (ret, result) ← match resp.result with
    | .ok prepared => do
      let parked ← attempt (parkPrepared i resp.workerId resp.functionId)
      let ret := orElseLater released parked
      pure (ret, (ret.mapError prepFailure).map fun _ =>
        sandboxInfo resp.functionId .idle prepared)
    | .error dscr => pure (released, Except.error (PrepareSandboxError.worker dscr))
  let op ← takePrepOp resp.workerId
  answerPrep op result
  removeOp resp.workerId
  fromExcept ret

/-- Back to Idle with the old deadline moved by the time of the snapshot, or as after an
invocation. -/
def parkSnapshotted (i : Input) (worker : WorkerId) (functionId : FunctionId) :
    Option PausedTimerInfo → PoolM Unit
  | some paused => do
    let deadline ← addInstant paused.deadline (i.now - paused.tsPause)
    deactivateWorker i worker functionId (some deadline)
  | none => deactivateWorkerPerKeepalive i worker functionId

def finalizeSnapshotting (i : Input) (resp : CreateSnapshotResult) : PoolM Unit := do
  let op ← takeSnapshotOp resp.sandboxId
  let ret ← attempt (parkSnapshotted i resp.workerId resp.functionId (op.bind (·.timerInfo)))
  answerSnapshot op (resp.result.mapError .snapshotWorker)
  removeOp resp.workerId
  fromExcept ret

def finalizeSandboxPreparationDuringShutdown (resp : PrepareSandboxResult) :
    Handler Pool ε Unit := do
  let result := (resp.result.mapError PrepareSandboxError.worker).map
    (sandboxInfo resp.functionId .dying)
  let _ ← attempt (releaseForPrep resp.workerId)
  let op ← takePrepOp resp.workerId
  answerPrep op result
  removeOp resp.workerId

def finalizeSnapshottingDuringShutdown (resp : CreateSnapshotResult) : Handler Pool ε Unit := do
  removeOp resp.workerId
  let op ← takeSnapshotOp resp.sandboxId
  answerSnapshot op (resp.result.mapError .snapshotWorker)

end Finalize

end Pool
end Snaplace
