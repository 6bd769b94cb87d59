import Snaplace.Foundation.Run
import Snaplace.Worker.Types

/-!
# The worker

A worker owns one sandbox and serves its two queues in a main loop. Each function below is the
source function of that name. Everything outside the worker (runtime, network and snapshot
managers, request issuer, response sink) is an `Answers` record with one field for each call site,
so a turn of the loop is a function of the message taken and the answers given during the turn.
What a turn does to the outside is appended to the worker's log.

Assertions are those of a release build: `debug_assert!` is not checked.
-/
namespace Snaplace
open Foundation Foundation.Handler

namespace Worker

inductive AllocateReply where
  | granted (net : NetResource)
  | refused (err : SourceError)
  /-- The manager dropped the reply channel. -/
  | noReply (err : SourceError)
  /-- The manager's own channel is closed. -/
  | notSent (err : SourceError)

inductive IssueResult where
  | ok (resp : Response)
  | failed (err : SourceError)
  | timedOut

inductive SendResult where
  | sent
  | timeout
  | closed
  deriving DecidableEq

structure SnapshotPaths where
  state : String
  memory : String

/-- A runtime call on a borrowed sandbox: its result, and what it makes of the sandbox's ability to
be restored from a snapshot. -/
structure SandboxCall where
  result : Except SourceError Unit
  hasSnapshot : Bool → Bool

/-- What the outside answers during one turn of the main loop. -/
structure Answers where
  allocate : AllocateReply
  createSandbox : FunctionId → NetResource → Except SourceError Sandbox
  setupCpuset : Cpu → SandboxCall
  loadSandbox : SandboxCall
  /-- Resume of an idle sandbox for an invocation or a preparation. -/
  resumeToPrepare : SandboxCall
  pauseBeforeSnapshot : SandboxCall
  resumeAfterSnapshot : SandboxCall
  pauseAfterInvocation : SandboxCall
  pauseAfterPreparation : SandboxCall
  /-- The second attempt, a while after a failed pause. -/
  pauseAgain : SandboxCall
  pauseForCleanup : SandboxCall
  queryPaths : Except SourceError (Option SnapshotPaths)
  createSnapshot : SnapshotPaths → SandboxCall
  /-- `none` when the sandbox type has no restorable state. -/
  snapshotState : Sandbox → Option (Except SourceError SandboxId)
  notifyNewSnapshot : Except SourceError Unit
  spawnMonitor : Except SourceError Unit
  issueRequest : IssueResult
  errorResponse : Response → Except SourceError Response
  /-- The sink's answer to each attempt at handing it the response. -/
  sink : Nat → SendResult
  shutdownSandbox : SandboxCall
  /-- On failure the sandbox comes back, with or without its snapshot. -/
  destroySandbox : Except (SourceError × Bool) NetResource
  notifySnapshotRemoval : Except SourceError Unit
  deallocate : NetResource → Except SourceError Unit
  uncacheSandbox : Except SourceError Unit

/-- What a turn does to the outside, in order. -/
inductive Action where
  | toPool (msg : OutboundMessage)
  | allocated (net : NetResource)
  | created (sandbox : SandboxId)
  | destroyed (sandbox : SandboxId)
  | deallocate (net : NetResource) (accepted : Bool)
  | newSnapshot (function : FunctionId) (state : SandboxId)
  | snapshotRemoved (function : FunctionId) (sandbox : SandboxId)
  /-- A response the sink took, with the request it answers. -/
  | respond (req : Request) (resp : Response)
  | releaseSlot
  deriving DecidableEq

end Worker

structure Worker where
  id : WorkerId
  functionId : FunctionId
  snapCreationTime : SnapshotCreationTime
  issuerTimeout : Duration
  sandboxState : Worker.SandboxState
  log : List Worker.Action
  deriving DecidableEq

namespace Worker
variable {ε : Type}

abbrev WorkerM := Handler Worker Error

def spawn (id : WorkerId) (functionId : FunctionId) (snapCreationTime : SnapshotCreationTime)
    (issuerTimeout : Duration) (sandbox : Option Sandbox) : Worker where
  id := id
  functionId := functionId
  snapCreationTime := snapCreationTime
  issuerTimeout := issuerTimeout
  sandboxState := .ofOption sandbox
  log := []

def setState (w : Worker) (state : SandboxState) : Worker := { w with sandboxState := state }

def emit (w : Worker) (action : Action) : Worker := { w with log := w.log ++ [action] }

section Fields
variable (w : Worker) (state : SandboxState) (action : Action)

@[simp] theorem setState_sandboxState : (w.setState state).sandboxState = state := rfl
@[simp] theorem setState_log : (w.setState state).log = w.log := rfl
@[simp] theorem setState_id : (w.setState state).id = w.id := rfl
@[simp] theorem setState_functionId : (w.setState state).functionId = w.functionId := rfl
@[simp] theorem setState_snapCreationTime :
    (w.setState state).snapCreationTime = w.snapCreationTime := rfl
@[simp] theorem emit_sandboxState : (w.emit action).sandboxState = w.sandboxState := rfl
@[simp] theorem emit_log : (w.emit action).log = w.log ++ [action] := rfl
@[simp] theorem emit_id : (w.emit action).id = w.id := rfl
@[simp] theorem emit_functionId : (w.emit action).functionId = w.functionId := rfl
@[simp] theorem emit_snapCreationTime :
    (w.emit action).snapCreationTime = w.snapCreationTime := rfl

end Fields

def record (action : Action) : Handler Worker ε Unit := modify fun w => w.emit action

def become (state : SandboxState) : Handler Worker ε Unit := modify fun w => w.setState state

def retrySendToPool (msg : OutboundMessage) : Handler Worker ε Unit := record (.toPool msg)

def sendSandboxId (sandbox : SandboxId) : Handler Worker ε Unit := do
  retrySendToPool (.sandboxId (← get).id sandbox)

def sendNeedWork : Handler Worker ε Unit := do
  let w ← get
  retrySendToPool (.needWork w.id w.functionId)

def sendReapMe : Handler Worker ε Unit := do
  let w ← get
  retrySendToPool (.reapMe w.id w.functionId)

def sendSnapshotResult (result : Except Error Unit) (sandboxId : SandboxId) :
    Handler Worker ε Unit := do
  let w ← get
  retrySendToPool (.snapshotCreation
    { workerId := w.id, functionId := w.functionId, sandboxId,
      result := result.mapError Error.display })

def sendSandboxPrepResult (result : Except String (SandboxId × Bool × SandboxStats)) :
    Handler Worker ε Unit := do
  let w ← get
  retrySendToPool (.sandboxPreparation { workerId := w.id, functionId := w.functionId, result })

/-- What a runtime call leaves of a sandbox; only the worker itself touches the statistics. -/
def SandboxCall.on (call : SandboxCall) (sandbox : Sandbox) : Sandbox :=
  { sandbox with hasSnapshot := call.hasSnapshot sandbox.hasSnapshot }

@[simp] theorem SandboxCall.on_id (call : SandboxCall) (sandbox : Sandbox) :
    (call.on sandbox).id = sandbox.id := rfl

/-- Obtain a network resource from the network manager. -/
def allocateNet : AllocateReply → Except Error NetResource
  | .granted net => .ok net
  | .refused err => .error (.network err)
  | .noReply err => .error (.channel "receiving from NetworkManager over oneshot" err)
  | .notSent err => .error (.channel "sending to NetworkManager over mpsc" err)

/-- Create a sandbox and hand it to the caller; the worker's own state stays `Nonexistent`. -/
def createSandbox (a : Answers) (cpuset : Cpu) : WorkerM Sandbox := do
  let w ← get
  match w.sandboxState with
  | .nonexistent =>
    let net ← fromExcept (allocateNet a.allocate)
    record (.allocated net)
    let sandbox ← fromExcept ((a.createSandbox w.functionId net).mapError .createSandbox)
    record (.created sandbox.id)
    -- On failure the sandbox is a local variable that goes out of scope here.
    fromExcept ((a.setupCpuset cpuset).result.mapError .setupCpuset)
    let sandbox := (a.setupCpuset cpuset).on sandbox
    sendSandboxId sandbox.id
    pure sandbox
  | _ => panicWith "Creating new sandbox while not in SandboxState::Nonexistent"

def loadSandbox (a : Answers) (cpuset : Cpu) : WorkerM Unit := do
  match (← get).sandboxState with
  | .snapshot sandbox =>
    let sandbox := a.loadSandbox.on sandbox
    become (.snapshot sandbox)
    fromExcept (a.loadSandbox.result.mapError .loadSandbox)
    let stats := { sandbox.stats with restorations := sandbox.stats.restorations + 1 }
    become (.running ((a.setupCpuset cpuset).on { sandbox with stats }))
    fromExcept ((a.setupCpuset cpuset).result.mapError .setupCpuset)
  | _ => panicWith "Loading sandbox while not in SandboxState::Snapshot"

def pauseSandbox (call : SandboxCall) : WorkerM Unit := do
  match (← get).sandboxState with
  | .running sandbox =>
    become (.running (call.on sandbox))
    fromExcept (call.result.mapError .pauseSandbox)
  | _ => panicWith "Pausing sandbox while not in SandboxState::Running"

def resumeSandbox (a : Answers) (call : SandboxCall) (cpuset : Option Cpu) : WorkerM Unit := do
  match (← get).sandboxState with
  | .paused sandbox =>
    let sandbox := call.on sandbox
    become (.paused sandbox)
    fromExcept (call.result.mapError .resumeSandbox)
    match cpuset with
    | some cpuset =>
      become (.paused ((a.setupCpuset cpuset).on sandbox))
      fromExcept ((a.setupCpuset cpuset).result.mapError .setupCpuset)
    | none => pure ()
  | _ => panicWith "Resuming sandbox while not in SandboxState::Paused"

/-- `Running -> Paused`, once the runtime has paused the sandbox. -/
def runningToPaused : WorkerM Sandbox := do
  match (← get).sandboxState with
  | .running sandbox =>
    become (.paused sandbox)
    pure sandbox
  | _ => panicWith "just paused while not in SandboxState::Running"

/-- Prepare a sandbox by creating, loading or resuming it. -/
def prepareSandbox (a : Answers) (cpuset : Cpu) : WorkerM Unit := do
  let sandbox ← match (← get).sandboxState with
    | .nonexistent => createSandbox a cpuset
    | .snapshot _ => do
      loadSandbox a cpuset
      match (← get).sandboxState with
      | .running sandbox => pure sandbox
      | _ => panicWith "unreachable_unchecked after load_sandbox"
    | .paused _ => do
      resumeSandbox a a.resumeToPrepare (some cpuset)
      match (← get).sandboxState with
      | .paused sandbox => pure sandbox
      | _ => panicWith "unreachable_unchecked after resume_sandbox"
    | .running _ | .trashed _ =>
      panicWith "BUG: should not prepare sandbox while in SandboxState::Running or Trashed"
  become (.running sandbox)

def SnapshotPaths.forSandbox (paths : SnapshotPaths) (sandbox : SandboxId) : SnapshotPaths where
  state := s!"{paths.state}/{sandbox}.state"
  memory := s!"{paths.memory}/{sandbox}.memory"

def snapmanNotifyCreation (a : Answers) : WorkerM Unit := do
  let w ← get
  match w.sandboxState with
  | .paused sandbox =>
    match a.snapshotState sandbox with
    | none => pure ()
    | some (.ok state) =>
      fromExcept (a.notifyNewSnapshot.mapError
        (.snapshotManager "failed to notify SnapshotManager of new snapshot"))
      record (.newSnapshot w.functionId state)
    | some (.error err) => throw (.createState err)
  | _ => panicWith "Notifying SnapshotManager while not in SandboxState::Paused"

def rtCreateSnapshot (a : Answers) (paths : SnapshotPaths) : WorkerM Unit := do
  match (← get).sandboxState with
  | .paused sandbox =>
    become (.paused ((a.createSnapshot paths).on sandbox))
    fromExcept ((a.createSnapshot paths).result.mapError .createSnapshot)
  | _ => panicWith "Creating sandbox snapshot while not in SandboxState::Paused"

/-- Snapshot a paused sandbox, unless the snapshot manager says to skip it. -/
def createSnapshot (a : Answers) : WorkerM Unit := do
  let w ← get
  match w.sandboxState with
  | .paused sandbox =>
    match a.queryPaths with
    | .ok (some paths) =>
      rtCreateSnapshot a (paths.forSandbox sandbox.id)
      let _ ← attempt (snapmanNotifyCreation a)
    | .ok none => pure ()
    | .error err => throw (.snapshotManager "failed to query paths" err)
  | _ => panicWith "Creating sandbox snapshot while not in SandboxState::Paused"

def spawnPerformanceMonitor (a : Answers) : WorkerM Unit := do
  match (← get).sandboxState with
  | .running _ =>
    fromExcept (a.spawnMonitor.mapError
      (.snapshotManager "failed to initialize PerformanceMonitor"))
  | _ => panicWith "Spawning PerformanceMonitor while not in SandboxState::Running"

def uncachePanic : String := "Uncaching sandbox while in SandboxState::Paused, Running or Trashed"

def uncacheSandbox (a : Answers) : Handler Worker ε Unit := do
  match (← get).sandboxState with
  | .snapshot sandbox =>
    if sandbox.hasSnapshot then
      -- A failure is only logged.
      let _ := a.uncacheSandbox
    else
      panicWith uncachePanic
  | .nonexistent => pure ()
  | .paused _ | .running _ | .trashed _ =>
    panicWith uncachePanic

/-- Tell the snapshot manager that the destroyed sandbox's snapshot is gone; best effort. -/
def snapmanNotifyRemoval (a : Answers) (sandbox : SandboxId) : WorkerM Unit := do
  fromExcept (a.notifySnapshotRemoval.mapError
    (.snapshotManager "failed to notify SnapshotManager of snapshot destruction"))
  record (.snapshotRemoved (← get).functionId sandbox)

def deallocateNet (a : Answers) (net : NetResource) : WorkerM Unit :=
  match a.deallocate net with
  | .ok _ => record (.deallocate net true)
  | .error err => do
    record (.deallocate net false)
    throw (.network err)

/-- The rest of a destruction once the runtime has destroyed the sandbox. -/
def releaseDestroyed (a : Answers) (sandbox : Sandbox) (net : NetResource) : WorkerM Unit := do
  if sandbox.hasSnapshot then
    let _ ← attempt (snapmanNotifyRemoval a sandbox.id)
  deallocateNet a net

/-- Destroy the sandbox taken out of the worker's state. -/
def destroyTaken (a : Answers) (sandbox : Sandbox) : WorkerM Unit := do
  become .nonexistent
  match a.destroySandbox with
  | .ok net =>
    record (.destroyed sandbox.id)
    releaseDestroyed a sandbox net
  | .error (err, hasSnapshot) =>
    become (.trashed { sandbox with hasSnapshot })
    throw (.destroySandbox err)

def destroySandbox (a : Answers) : WorkerM Unit := do
  match (← get).sandboxState with
  | .nonexistent => pure ()
  | .paused sandbox | .snapshot sandbox | .running sandbox => destroyTaken a sandbox
  | .trashed _ => panicWith "BUG: Destroying SandboxState::Trashed"

/-- Unload a sandbox owned by the caller, `Paused -> Snapshot`, or trash it. -/
def shutdownOrTrash (a : Answers) (sandbox : Sandbox) : Handler Worker SourceError Unit := do
  match a.shutdownSandbox.result with
  | .ok _ => become (.snapshot (a.shutdownSandbox.on sandbox))
  | .error err => do
    become (.trashed (a.shutdownSandbox.on sandbox))
    throw err

def shutdown (a : Answers) : WorkerM Unit := do
  match (← get).sandboxState with
  | .paused sandbox =>
    if sandbox.hasSnapshot then
      mapErr Error.shutdownSandbox (shutdownOrTrash a sandbox)
    else
      destroySandbox a
  | _ => pure ()

end Worker
end Snaplace
