import Snaplace.Pool.Control

/-!
# The pool's main loop

One `turn` handles one event. The loop runs in two phases: while serving, a fatal failure or the end
of its sources makes the pool tell its workers to shut down; from then on it only waits for them to
be reaped, and deals with the remaining orphans last.
-/
namespace Snaplace
open Foundation Foundation.Handler
open Worker (OutboundMessage)
open Admission (DispatchMode DispatchResponse)

namespace Pool
variable {ε : Type}

section Control

def handleControl (i : Input) : PoolControlMessage → Handler Pool ε Unit
  | .prepareSandbox functionId options respondTo => do
    record (.requested respondTo)
    answerFailure (fun err => .prepareSandbox (.error err))
      (requestSandboxPrep i functionId options (some respondTo))
  | .destroySandbox target options respondTo => do
    record (.requested respondTo)
    answerFailure (fun err => .destroySandbox (.error err))
      (requestSandboxDestr i target options (some respondTo))
  | .listSandboxes _ => panicWith "not yet implemented"
  | .createSnapshot sandboxId respondTo => do
    record (.requested respondTo)
    answerFailure (fun err => .createSnapshot (.error err))
      (requestSnapshotting i sandboxId (some respondTo))

end Control

section WorkerStatus

def updateSandboxId (worker : WorkerId) (sandboxId : SandboxId) : Handler Pool ε Unit := do
  let handle ← expectHandle "Worker exists; just sent message" worker
  modify fun p =>
    { p with workerHandles :=
        p.workerHandles.insert worker { handle with sandboxId := some sandboxId } }
  insertWorkerBySandbox announceCollision sandboxId worker

/-- A worker that has served its invocation is parked, unless a control operation holds it. -/
def onNeedWork (i : Input) (worker : WorkerId) (functionId : FunctionId) : PoolM Unit := do
  mapErr Error.cpuSet (cpuRelease worker)
  match (← get).pending.opByWorker.lookup worker with
  | some _ => pure ()
  | none => deactivateWorkerPerKeepalive i worker functionId

def handleWorkerStatus (i : Input) : OutboundMessage → PoolM Unit
  | .sandboxId worker sandboxId => updateSandboxId worker sandboxId
  | .needWork worker functionId => onNeedWork i worker functionId
  | .reapMe worker functionId => reapWorker i worker functionId
  | .sandboxPreparation resp => finalizeSandboxPreparation i resp
  | .snapshotCreation resp => finalizeSnapshotting i resp

end WorkerStatus

section Shutdown

/-- Failures are only logged. -/
def retireAllIdle (i : Input) : Handler Pool ε Unit := do
  (iterWorkers i .idle (← get)).forM fun (functionId, worker) => do
    let _ ← attempt (decommissionIdleWorker i worker (some functionId))

def retireActive (i : Input) (worker : WorkerId) (functionId : FunctionId) : PoolM Unit := do
  activeWorkerToDying worker functionId
  sendLast i worker .shutDown

def retireAllActive (i : Input) : Handler Pool ε Unit := do
  (iterWorkers i .active (← get)).forM fun (functionId, worker) => do
    let _ ← attempt (retireActive i worker functionId)

/-- The first part of `shutdown`: all workers become Dying. -/
def beginShutdown (i : Input) : Handler Pool ε Unit := do
  retireAllIdle i
  retireAllActive i
  modify fun p => { p with phase := .shuttingDown }

/-- Worker messages while waiting for the workers to be reaped. -/
def drainWorkerMessage (i : Input) : OutboundMessage → Handler Pool ε Unit
  | .sandboxId worker sandboxId => updateSandboxId worker sandboxId
  | .needWork worker _ => do
    let _ ← attempt (cpuRelease worker)
  | .reapMe worker functionId => do
    let _ ← attempt (reapWorker i worker functionId)
  | .sandboxPreparation resp => finalizeSandboxPreparationDuringShutdown resp
  | .snapshotCreation resp => finalizeSnapshottingDuringShutdown resp

def shuttingDownResponse : DispatchResponse := .reject .shuttingDown

def rejectDispatch (i : Input) : Handler Pool ε Unit := do
  let _ ← attempt (replyDispatch i shuttingDownResponse)

def destroyOrphanSandbox (i : Input) (functionId : FunctionId) (sandbox : Sandbox) :
    Handler Pool ε Unit := do
  let _ ← registeredFunction functionId
  match i.destroyOrphan sandbox.id with
  | .runtimeFailed => record (.orphanDropped sandbox.id)
  | .notDestroyed => trashSandbox sandbox
  | .destroyed _ => record (.orphanDestroyed sandbox.id)

/-- The last part of `shutdown`, with no worker left. -/
def cleanupOrphans (i : Input) : Handler Pool ε Unit := do
  if (← get).config.retainSnapshots then record .syncDbSnapshots
  else
    let snapshots := (← get).snapshots
    modify fun p => { p with snapshots := ∅ }
    (snapshots.ordered i.functionRank).forM fun (functionId, sandboxes) =>
      sandboxes.forM (destroyOrphanSandbox i functionId)
    record .wipeDbSnapshots

def noWorkers (p : Pool) : Prop := ∀ stage, p.store.workers stage = ∅

instance (p : Pool) : Decidable p.noWorkers :=
  decidable_of_iff
    ((p.store.workers .active).entries = [] ∧ (p.store.workers .idle).entries = [] ∧
      (p.store.workers .dying).entries = [])
    ⟨fun ⟨active, idle, dying⟩ stage => by cases stage <;> exact AList.ext (by assumption),
      fun h => ⟨by rw [h .active]; rfl, by rw [h .idle]; rfl, by rw [h .dying]; rfl⟩⟩

end Shutdown

/-- The pool's events while it serves; an error is fatal. -/
def serve (i : Input) : Event → PoolM Unit
  | .keepaliveTimeout worker => decommissionIdleWorker i worker none
  | .workerMessage msg => handleWorkerStatus i msg
  | .dispatch functionId mode => handleDispatch i functionId mode
  | .control msg => handleControl i msg
  | .registerFunction functionId function => do
    let _ ← attempt (registerFunction functionId function)
  | .deregisterFunction functionId => do
    let _ ← attempt (deregisterFunction functionId)
  | .quit | .admissionClosed | .snapmanMessage | .shutdownTick => pure ()

def handleServing (i : Input) : Handler Pool ε Unit := do
  match i.event with
  | .quit | .admissionClosed => beginShutdown i
  | event => do
    match ← attempt (serve i event) with
    | .ok _ => pure ()
    | .error _ => beginShutdown i

/-- The pool's events while its workers shut down; `true` when it is done. -/
def handleShuttingDown (i : Input) : Handler Pool ε Bool := do
  match i.event with
  | .dispatch .. => do
    rejectDispatch i
    pure false
  | .workerMessage msg => do
    drainWorkerMessage i msg
    pure false
  | .shutdownTick => do
    if (← get).noWorkers then
      cleanupOrphans i
      pure true
    else pure false
  | .registerFunction functionId function => do
    let _ ← attempt (registerFunction functionId function)
    pure false
  | .deregisterFunction functionId => do
    let _ ← attempt (deregisterFunction functionId)
    pure false
  | .quit | .keepaliveTimeout _ | .snapmanMessage | .control _ | .admissionClosed => pure false

/-- One turn of the loop. -/
def turn (i : Input) : Handler Pool Empty (Option Unit) := do
  match (← get).phase with
  | .serving => do
    handleServing i
    pure none
  | .shuttingDown => do
    if ← handleShuttingDown i then pure (some ()) else pure none

/-- A pool before its first event, with the functions and snapshots it starts from. -/
def spawn (config : SandboxPoolConfig) (cpus : List Cpu) (memory : MemoryStats)
    (functions : Table FunctionId RegisteredFunction)
    (snapshots : Table FunctionId (List Sandbox)) : Pool where
  config := config
  phase := .serving
  cpuset :=
    { occupants := cpus.foldl (fun occupants cpu => occupants.insert cpu 0) ∅, allocations := ∅ }
  memory := memory
  store := { functions, workers := fun _ => ∅ }
  timers := ∅
  workerHandles := ∅
  workerDeadlines := ∅
  workerBySandbox := ∅
  snapshots := snapshots
  trashedSandboxes := []
  pending := { opByWorker := ∅, sandboxPreps := ∅, sandboxDestrs := ∅, snapshots := ∅ }
  log := []

def run (inputs : List Input) (p : Pool) : Progress Pool Unit := iterate turn inputs p

end Pool
end Snaplace
