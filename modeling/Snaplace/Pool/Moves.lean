import Mathlib.Logic.Relation
import Snaplace.Pool.MainLoop

/-!
# The moves of the pool

What the handlers of the pool can do to its tables, said once: every handler is a sequence of the
moves below, and an invariant of the pool is checked against the moves instead of the handlers. A
move names the defect it is an instance of where it is one.

Between two moves of one event a worker may be in none of the sets, a mark may be stale and waiters
may be in hand; a `Moment` keeps track of them.
-/
namespace Snaplace
open Foundation Foundation.Handler
open Worker (SandboxExit WorkerExit ControlMessage OutboundMessage)
open Admission (DispatchMode DispatchResponse PoolEvent)

namespace Pool

/-- The pool in the middle of an event. -/
structure Moment where
  pool : Pool
  /-- Just spawned, and in none of the three sets yet. -/
  starting : Option (FunctionId × WorkerId)
  /-- Its mark is about to be removed. -/
  closing : Option WorkerId
  /-- Waiters in none of the tables, still to be answered. -/
  waiters : List ReplyId
  /-- The cpuset has been released for the message being handled. -/
  released : Bool
  /-- A dispatch has been rolled back: the pool is about to shut down. -/
  failing : Bool

/-- Between two events. -/
def Moment.top (p : Pool) : Moment :=
  { pool := p, starting := none, closing := none, waiters := [], released := false,
    failing := false }

/-- A worker is in a set of a function. -/
def At (p : Pool) (stage : Stage) (f : FunctionId) (w : WorkerId) : Prop :=
  (f, w) ∈ p.store.workers stage

instance (p : Pool) (stage : Stage) (f : FunctionId) (w : WorkerId) : Decidable (At p stage f w) :=
  inferInstanceAs (Decidable (_ ∈ _))

namespace FunctionMetadataStore
variable {store : FunctionMetadataStore} {stage stage' : Stage} {k k' : FunctionId × WorkerId}

@[simp] theorem mem_insert :
    (k' ∈ (store.insert stage k).workers stage') =
      (stage' = stage ∧ k' = k ∨ k' ∈ store.workers stage') := by
  unfold insert Function.update
  by_cases h : stage' = stage
  · subst h
    simp
  · simp [h]

@[simp] theorem mem_erase :
    (k' ∈ (store.erase stage k).workers stage') =
      (¬(stage' = stage ∧ k' = k) ∧ k' ∈ store.workers stage') := by
  unfold erase Function.update
  by_cases h : stage' = stage
  · subst h
    simp
  · simp [h]

@[simp] theorem insert_functions : (store.insert stage k).functions = store.functions := rfl
@[simp] theorem erase_functions : (store.erase stage k).functions = store.functions := rfl

theorem erase_of_notMem (h : k ∉ store.workers stage) : store.erase stage k = store := by
  have same : (store.workers stage).erase k = store.workers stage := Table.erase_of_notMem h
  simp [erase, same]

end FunctionMetadataStore

/-- The ways in which the code misses what its invariants need. -/
inductive Defect where
  /-- The reply to a dispatch that assigns a worker has no receiver any more. -/
  | lostHandover
  /-- A worker is charged although the sum, taken exactly, exceeds the total. -/
  | overcharge
  /-- A snapshot is picked for a preparation that then finds no memory. -/
  | droppedSnapshot
  /-- A worker that was given a snapshot cannot be joined. -/
  | joinFailed

def OutboundMessage.worker : OutboundMessage → WorkerId
  | .sandboxId worker _ | .needWork worker _ | .reapMe worker _ => worker
  | .sandboxPreparation resp => resp.workerId
  | .snapshotCreation resp => resp.workerId

/-- The worker whose message is being handled. -/
def Event.worker : Event → Option WorkerId
  | .workerMessage msg => some (OutboundMessage.worker msg)
  | _ => none

def PoolControlMessage.respondTo : PoolControlMessage → ReplyId
  | .prepareSandbox _ _ respondTo | .destroySandbox _ _ respondTo
  | .listSandboxes respondTo | .createSnapshot _ respondTo => respondTo

/-- A request to prepare a sandbox. -/
def Event.Prepares (event : Event) : Prop :=
  ∃ f options respondTo, event = .control (.prepareSandbox f options respondTo)

/-- A request to destroy a sandbox. -/
def Event.Destroys (event : Event) : Prop :=
  ∃ target options respondTo, event = .control (.destroySandbox target options respondTo)

theorem Event.Destroys.worker {event : Event} (on : event.Destroys) : event.worker = none := by
  obtain ⟨target, options, respondTo, rfl⟩ := on
  rfl

/-- A request to snapshot a sandbox. -/
def Event.Snapshots (event : Event) : Prop :=
  ∃ sandbox respondTo, event = .control (.createSnapshot sandbox respondTo)

def Moment.note (m : Moment) (effect : Effect) : Moment :=
  { m with pool := { m.pool with log := m.pool.log ++ [effect] } }

/-- A sandbox taken out of the lists, or none. -/
inductive Takes (snapshots : Table FunctionId (List Sandbox)) (f : FunctionId) :
    Option Sandbox → Table FunctionId (List Sandbox) → Prop
  | none : Takes snapshots f none snapshots
  | some {sandboxes : List Sandbox} {idx : Nat} {sandbox : Sandbox}
      (look : snapshots.lookup f = some sandboxes) (at_ : sandboxes[idx]? = some sandbox) :
      Takes snapshots f (some sandbox) (snapshots.insert f (sandboxes.eraseIdx idx))

def stashed (snapshots : Table FunctionId (List Sandbox)) (f : FunctionId) :
    Option Sandbox → Table FunctionId (List Sandbox)
  | some sandbox => snapshots.insert f ((snapshots.lookup f).getD [] ++ [sandbox])
  | none => snapshots

def own (owners : Table SandboxId WorkerId) (w : WorkerId) :
    Option SandboxId → Table SandboxId WorkerId
  | some sandbox => owners.insert sandbox w
  | none => owners

def disown (owners : Table SandboxId WorkerId) : Option SandboxId → Table SandboxId WorkerId
  | some sandbox => owners.erase sandbox
  | none => owners

/-- A worker that is free to be handed out: just spawned, or Idle. -/
def Available (m : Moment) (f : FunctionId) (w : WorkerId) : Prop :=
  m.starting = some (f, w) ∨ m.starting = none ∧ At m.pool .idle f w

/-- Why an Active worker is made Idle. -/
inductive ParkReason (i : Input) (m : Moment) (w : WorkerId) : Prop
  | served {f : FunctionId} (message : i.event = .workerMessage (.needWork w f))
      (released : m.released = true) (unmarked : m.pool.pending.opByWorker.lookup w = none)
  | prepared {resp : Worker.PrepareSandboxResult} {prepared : SandboxId × Bool × SandboxStats}
      (message : i.event = .workerMessage (.sandboxPreparation resp)) (who : resp.workerId = w)
      (ok : resp.result = .ok prepared) (closing : m.closing = some w)
  | snapshotted {resp : Worker.CreateSnapshotResult}
      (message : i.event = .workerMessage (.snapshotCreation resp)) (who : resp.workerId = w)
      (closing : m.closing = some w)

/-- Why a mark is about to be removed. -/
inductive CloseReason (i : Input) (w : WorkerId) : Prop
  | prepared {resp : Worker.PrepareSandboxResult}
      (message : i.event = .workerMessage (.sandboxPreparation resp)) (who : resp.workerId = w)
  | snapshotted {resp : Worker.CreateSnapshotResult}
      (message : i.event = .workerMessage (.snapshotCreation resp)) (who : resp.workerId = w)
  | reaped (f : FunctionId) (message : i.event = .workerMessage (.reapMe w f))
  | finished (h : i.isFinished w = true) (new : w = i.newWorkerId) (on : i.event.Prepares)

/-- Whose snapshot entry is taken: the one reported on, or that of the reaped worker's sandbox. -/
inductive SnapshotOf (i : Input) (m : Moment) (w : WorkerId) (sandbox : SandboxId) : Prop
  | reported {resp : Worker.CreateSnapshotResult}
      (message : i.event = .workerMessage (.snapshotCreation resp)) (who : resp.workerId = w)
      (which : resp.sandboxId = sandbox)
  | owned {handle : WorkerHandle} (look : m.pool.workerHandles.lookup w = some handle)
      (owns : handle.sandboxId = some sandbox)

def WorkerExit.stashed : Option WorkerExit → Option Sandbox
  | some { sandbox := .reusable sandbox, .. } => some sandbox
  | _ => none

def WorkerExit.trashed : Option WorkerExit → Option Sandbox
  | some { sandbox := .trashed sandbox, .. } => some sandbox
  | _ => none

/-- Whether the reaping gives the worker's memory back. -/
def WorkerExit.frees : Option WorkerExit → Bool
  | some { sandbox := .reusable _, .. } => true
  | some { result := .ok _, sandbox := .none } => true
  | some { result := .error (.init ..), sandbox := .none } => true
  | _ => false

def MemoryStats.charge (memory : MemoryStats) : WorkerMemAccounting → ByteUnit → MemoryStats
  | .inUse, amount => { memory with inuse := ByteUnit.add memory.inuse amount }
  | .reclaimed, _ | .uncharged, _ => memory

def MemoryStats.free (memory : MemoryStats) : WorkerMemAccounting → ByteUnit → MemoryStats
  | .inUse, amount => { memory with inuse := memory.inuse.sub amount }
  | .reclaimed, amount => { memory with reclaimed := memory.reclaimed.sub amount }
  | .uncharged, _ => memory

/-- One of the things the pool does to its tables. -/
inductive Move (d : Defect → Prop) (i : Input) (m : Moment) : Moment → Prop
  | event (ev : PoolEvent) : Move d i m (m.note (.event ev))
  | deny (f : FunctionId) (mode : DispatchMode) (resp : DispatchResponse)
      (on : i.event = .dispatch f mode) (waits : i.admissionWaits = true)
      (denies : ∀ w cpu, resp ≠ .dispatch w cpu) :
      Move d i m (m.note (.dispatchReply resp))
  | requested (msg : PoolControlMessage) (on : i.event = .control msg) :
      Move d i m
        { m.note (.requested msg.respondTo) with waiters := msg.respondTo :: m.waiters }
  | answer (r : ReplyId) (rest : List ReplyId) (reply : Reply) (waits : m.waiters = r :: rest) :
      Move d i m { m.note (.reply r reply) with waiters := rest }
  | spawn (f : FunctionId) (function : RegisteredFunction) (sandbox : Option Sandbox)
      (accounting : WorkerMemAccounting) (snapshots : Table FunctionId (List Sandbox))
      (settled : m.starting = none)
      (registered : m.pool.store.functions.lookup f = some function)
      (succeeds : i.spawnError = none)
      (fresh : m.pool.workerHandles.lookup i.newWorkerId = none)
      (takes : Takes m.pool.snapshots f sandbox snapshots)
      (unowned : ∀ sb, sandbox = some sb → m.pool.workerBySandbox.lookup sb.id = none)
      (room : accounting = .inUse →
        m.pool.memory.inuse + m.pool.memory.reclaimed + function.memory ≤ m.pool.memory.total ∨
          d .overcharge)
      (charge : accounting = .inUse ∧ ¬i.event.Destroys ∨
        accounting = .uncharged ∧ i.event.Destroys)
      (quiet : i.event.worker = none) :
      Move d i m
        { m with
          starting := some (f, i.newWorkerId)
          pool :=
            { m.pool with
              snapshots := snapshots
              workerHandles := m.pool.workerHandles.insert i.newWorkerId
                { functionId := f, sandboxId := sandbox.map Sandbox.id,
                  memAccounting := accounting, sandbox := sandbox }
              workerBySandbox :=
                own m.pool.workerBySandbox i.newWorkerId (sandbox.map Sandbox.id)
              memory := m.pool.memory.charge accounting function.memory
              log := m.pool.log ++ [.spawned i.newWorkerId
                { functionId := f, sandboxId := sandbox.map Sandbox.id,
                  memAccounting := accounting, sandbox := sandbox }] } }
  | requeue (f : FunctionId) (sandbox : Sandbox) (snapshots : Table FunctionId (List Sandbox))
      (takes : Takes m.pool.snapshots f (some sandbox) snapshots) :
      Move d i m
        { m with pool := { m.pool with snapshots := stashed snapshots f (some sandbox) } }
  | drop (f : FunctionId) (sandbox : Sandbox) (snapshots : Table FunctionId (List Sandbox))
      (takes : Takes m.pool.snapshots f (some sandbox) snapshots) (defect : d .droppedSnapshot) :
      Move d i m { m with pool := { m.pool with snapshots := snapshots } }
  | handOut (f : FunctionId) (w : WorkerId) (mode : DispatchMode) (cpu : Cpu)
      (cpuset : CpuSetManager) (on : i.event = .dispatch f mode)
      (waits : i.admissionWaits = true) (available : Available m f w)
      (free : m.pool.cpuset.allocations.lookup w = none)
      (alloc : cpuset.allocations = m.pool.cpuset.allocations.insert w cpu) :
      Move d i m
        { m with
          starting := none
          pool :=
            { m.pool with
              store := (m.pool.store.erase .idle (f, w)).insert .active (f, w)
              timers := m.pool.timers.erase w
              workerDeadlines := m.pool.workerDeadlines.erase w
              cpuset := cpuset
              log := m.pool.log ++ [.dispatchReply (.dispatch w cpu)] } }
  | rollback (f : FunctionId) (w : WorkerId) (mode : DispatchMode) (deadline : Instant)
      (function : RegisteredFunction) (cpuset : CpuSetManager) (on : i.event = .dispatch f mode)
      (registered : m.pool.store.functions.lookup f = some function)
      (lost : i.admissionWaits = false) (available : Available m f w)
      (free : ∀ w', cpuset.allocations.lookup w' =
        if w' = w then none else m.pool.cpuset.allocations.lookup w')
      (defect : d .lostHandover) :
      Move d i m
        { m with
          starting := none
          failing := true
          pool :=
            { m.pool with
              store := (m.pool.store.erase .idle (f, w)).insert .idle (f, w)
              timers := m.pool.timers.insert w deadline
              workerDeadlines := m.pool.workerDeadlines.insert w deadline
              cpuset := cpuset
              memory := { m.pool.memory with inuse := m.pool.memory.inuse.sub function.memory } } }
  | condemn (f : FunctionId) (w : WorkerId) (starting : m.starting = some (f, w))
      (on : i.event.Destroys) :
      Move d i m
        { m with
          starting := none
          pool := { m.pool with store := m.pool.store.insert .dying (f, w) } }
  | prepare (f : FunctionId) (w : WorkerId) (cpu : Cpu) (cpuset : CpuSetManager)
      (op : PendingSandboxPrep) (rest : List ReplyId) (starting : m.starting = some (f, w))
      (free : m.pool.cpuset.allocations.lookup w = none)
      (alloc : cpuset.allocations = m.pool.cpuset.allocations.insert w cpu)
      (delivered : i.controlOpen w = true) (waits : m.waiters = op.respondTo.toList ++ rest)
      (on : i.event.Prepares) :
      Move d i m
        { m with
          starting := none
          waiters := rest
          pool :=
            { m.pool with
              store := m.pool.store.insert .active (f, w)
              cpuset := cpuset
              pending :=
                { m.pool.pending with
                  opByWorker := m.pool.pending.opByWorker.insert w .prepareSandbox
                  sandboxPreps := m.pool.pending.sandboxPreps.insert w op }
              log := m.pool.log ++ [.sent w (.prepareSandbox cpu)] } }
  | prepareFailed (f : FunctionId) (w : WorkerId) (cpuset : CpuSetManager)
      (starting : m.starting = some (f, w)) (undelivered : i.controlOpen w = false)
      (free : ∀ w', cpuset.allocations.lookup w' =
        if w' = w then none else m.pool.cpuset.allocations.lookup w')
      (on : i.event.Prepares) :
      Move d i m
        { m with
          starting := none
          pool :=
            { m.pool with
              store := m.pool.store.insert .active (f, w)
              cpuset := cpuset
              pending :=
                { m.pool.pending with
                  opByWorker := m.pool.pending.opByWorker.insert w .prepareSandbox
                  sandboxPreps := m.pool.pending.sandboxPreps.erase w } } }
  | wake (f : FunctionId) (w : WorkerId) (idle : At m.pool .idle f w) (on : i.event.Snapshots) :
      Move d i m
        { m with
          pool :=
            { m.pool with
              store := (m.pool.store.erase .idle (f, w)).insert .active (f, w)
              timers := m.pool.timers.erase w
              workerDeadlines := m.pool.workerDeadlines.erase w } }
  | park (f : FunctionId) (w : WorkerId) (deadline : Instant) (active : At m.pool .active f w)
      (reason : ParkReason i m w) :
      Move d i m
        { m with
          pool :=
            { m.pool with
              store := (m.pool.store.erase .active (f, w)).insert .idle (f, w)
              timers := m.pool.timers.insert w deadline
              workerDeadlines := m.pool.workerDeadlines.insert w deadline } }
  | retire (source : Stage) (f : FunctionId) (w : WorkerId) (handle : WorkerHandle)
      (function : RegisteredFunction) (live : source ≠ .dying) (member : At m.pool source f w)
      (look : m.pool.workerHandles.lookup w = some handle)
      (registered : m.pool.store.functions.lookup f = some function) :
      Move d i m
        { m with
          pool :=
            { m.pool with
              store := (m.pool.store.erase source (f, w)).insert .dying (f, w)
              timers := m.pool.timers.erase w
              workerDeadlines := m.pool.workerDeadlines.erase w
              memory := m.pool.memory.reclaim function.memory
              workerHandles := m.pool.workerHandles.insert w
                { handle with memAccounting := .reclaimed } } }
  | tell (f : FunctionId) (w : WorkerId) (msg : ControlMessage) (dying : At m.pool .dying f w)
      (last : msg = .shutDown ∨ msg = .destroySandbox) (delivered : i.controlOpen w = true) :
      Move d i m (m.note (.sent w msg))
  | release (w : WorkerId) (cpu : Cpu) (cpuset : CpuSetManager) (about : i.event.worker = some w)
      (held : m.pool.cpuset.allocations.lookup w = some cpu)
      (free : cpuset.allocations = m.pool.cpuset.allocations.erase w) :
      Move d i m { m with released := true, pool := { m.pool with cpuset := cpuset } }
  | track (f : FunctionId) (w : WorkerId) (op : PendingSandboxDestr) (rest : List ReplyId)
      (dying : At m.pool .dying f w) (unmarked : m.pool.pending.opByWorker.lookup w = none)
      (waits : m.waiters = op.respondTo ++ rest) (on : i.event.Destroys) :
      Move d i m
        { m with
          waiters := rest
          pool :=
            { m.pool with
              pending :=
                { m.pool.pending with
                  opByWorker := m.pool.pending.opByWorker.insert w .destroySandbox
                  sandboxDestrs := m.pool.pending.sandboxDestrs.insert w op } } }
  | joinDestr (w : WorkerId) (op : PendingSandboxDestr) (more rest : List ReplyId)
      (marked : m.pool.pending.opByWorker.lookup w = some .destroySandbox)
      (look : m.pool.pending.sandboxDestrs.lookup w = some op)
      (waits : m.waiters = more ++ rest) (on : i.event.Destroys) :
      Move d i m
        { m with
          waiters := rest
          pool :=
            { m.pool with
              pending :=
                { m.pool.pending with
                  sandboxDestrs := m.pool.pending.sandboxDestrs.insert w
                    { op with respondTo := op.respondTo ++ more } } } }
  | snapshot (f : FunctionId) (w : WorkerId) (sandbox : SandboxId) (op : PendingSnapshot)
      (rest : List ReplyId) (active : At m.pool .active f w)
      (owner : m.pool.workerBySandbox.lookup sandbox = some w)
      (unmarked : m.pool.pending.opByWorker.lookup w = none)
      (delivered : i.controlOpen w = true) (waits : m.waiters = op.respondTo ++ rest)
      (on : i.event.Snapshots) :
      Move d i m
        { m with
          waiters := rest
          pool :=
            { m.pool with
              pending :=
                { m.pool.pending with
                  opByWorker := m.pool.pending.opByWorker.insert w .snapshot
                  snapshots := m.pool.pending.snapshots.insert sandbox op }
              log := m.pool.log ++ [.sent w (.createSnapshot sandbox)] } }
  | joinSnapshot (w : WorkerId) (sandbox : SandboxId) (op : PendingSnapshot)
      (more rest : List ReplyId) (owner : m.pool.workerBySandbox.lookup sandbox = some w)
      (marked : m.pool.pending.opByWorker.lookup w = some .snapshot)
      (look : m.pool.pending.snapshots.lookup sandbox = some op)
      (waits : m.waiters = more ++ rest) (on : i.event.Snapshots) :
      Move d i m
        { m with
          waiters := rest
          pool :=
            { m.pool with
              pending :=
                { m.pool.pending with
                  snapshots := m.pool.pending.snapshots.insert sandbox
                    { op with respondTo := op.respondTo ++ more } } } }
  | close (w : WorkerId) (reason : CloseReason i w) (settled : m.closing = none) :
      Move d i m { m with closing := some w }
  | takePrep (w : WorkerId) (op : PendingSandboxPrep) (closing : m.closing = some w)
      (look : m.pool.pending.sandboxPreps.lookup w = some op) :
      Move d i m
        { m with
          waiters := op.respondTo.toList ++ m.waiters
          pool :=
            { m.pool with
              pending :=
                { m.pool.pending with
                  sandboxPreps := m.pool.pending.sandboxPreps.erase w } } }
  | takeSnapshot (w : WorkerId) (sandbox : SandboxId) (op : PendingSnapshot)
      (closing : m.closing = some w) (whose : SnapshotOf i m w sandbox)
      (look : m.pool.pending.snapshots.lookup sandbox = some op) :
      Move d i m
        { m with
          waiters := op.respondTo ++ m.waiters
          pool :=
            { m.pool with
              pending :=
                { m.pool.pending with
                  snapshots := m.pool.pending.snapshots.erase sandbox } } }
  | unmark (w : WorkerId) (closing : m.closing = some w) (about : i.event.worker = some w)
      (alive : ∀ f, i.event ≠ .workerMessage (.reapMe w f))
      (noPrep : ∀ resp, i.event = .workerMessage (.sandboxPreparation resp) →
        m.pool.pending.sandboxPreps.lookup w = none)
      (noSnapshot : ∀ resp, i.event = .workerMessage (.snapshotCreation resp) →
        m.pool.pending.snapshots.lookup resp.sandboxId = none) :
      Move d i m
        { m with
          closing := none
          pool :=
            { m.pool with
              pending :=
                { m.pool.pending with opByWorker := m.pool.pending.opByWorker.erase w } } }
  | announce (w : WorkerId) (sandbox : SandboxId) (handle : WorkerHandle)
      (message : i.event = .workerMessage (.sandboxId w sandbox))
      (look : m.pool.workerHandles.lookup w = some handle)
      (unowned : m.pool.workerBySandbox.lookup sandbox = none) :
      Move d i m
        { m with
          pool :=
            { m.pool with
              workerHandles := m.pool.workerHandles.insert w
                { handle with sandboxId := some sandbox }
              workerBySandbox := m.pool.workerBySandbox.insert sandbox w } }
  | reap (stage : Stage) (w : WorkerId) (handle : WorkerHandle) (function : RegisteredFunction)
      (cpuset : CpuSetManager) (busy : stage ≠ .idle) (closing : m.closing = some w)
      (member : At m.pool stage handle.functionId w)
      (look : m.pool.workerHandles.lookup w = some handle)
      (registered : m.pool.store.functions.lookup handle.functionId = some function)
      (free : ∀ w', cpuset.allocations.lookup w' =
        if w' = w then none else m.pool.cpuset.allocations.lookup w')
      (noPrep : m.pool.pending.sandboxPreps.lookup w = none)
      (noSnapshot : ∀ sb, handle.sandboxId = some sb → m.pool.pending.snapshots.lookup sb = none)
      (exits : ∀ exit, i.exit w = some exit → exit.result = .ok () →
        ∀ sb, exit.sandbox ≠ .trashed sb)
      (joins : i.exit w = none → handle.sandbox = none ∨ d .joinFailed) :
      Move d i m
        { m with
          closing := none
          waiters := ((m.pool.pending.sandboxDestrs.lookup w).elim [] (·.respondTo)) ++ m.waiters
          pool :=
            { m.pool with
              store := m.pool.store.erase stage (handle.functionId, w)
              workerHandles := m.pool.workerHandles.erase w
              workerDeadlines := m.pool.workerDeadlines.erase w
              workerBySandbox := disown m.pool.workerBySandbox handle.sandboxId
              cpuset := cpuset
              pending :=
                { m.pool.pending with
                  opByWorker := m.pool.pending.opByWorker.erase w
                  sandboxDestrs := m.pool.pending.sandboxDestrs.erase w }
              snapshots :=
                stashed m.pool.snapshots handle.functionId (WorkerExit.stashed (i.exit w))
              trashedSandboxes :=
                m.pool.trashedSandboxes ++ (WorkerExit.trashed (i.exit w)).toList
              memory :=
                if WorkerExit.frees (i.exit w) then
                  m.pool.memory.free handle.memAccounting function.memory
                else m.pool.memory
              log := m.pool.log ++ [.joined w handle function.memory (i.exit w)] } }
  | shutDown (serving : m.pool.phase = .serving)
      (retired : ∀ f w, ¬At m.pool .idle f w ∧ ¬At m.pool .active f w) :
      Move d i m { m with pool := { m.pool with phase := .shuttingDown }, failing := false }
  | register (f : FunctionId) (function : RegisteredFunction)
      (unknown : m.pool.store.functions.lookup f = none) :
      Move d i m
        { m with
          pool :=
            { m.pool with
              store :=
                { m.pool.store with
                  functions := m.pool.store.functions.insert f function } } }
  | deregister (f : FunctionId) (settled : m.starting = none) (unused : ∀ stage w, ¬At m.pool stage f w) :
      Move d i m
        { m with
          pool :=
            { m.pool with
              store :=
                { m.pool.store with functions := m.pool.store.functions.erase f } } }

/-- What one event does, as a sequence of moves. -/
def Moves (d : Defect → Prop) (i : Input) : Moment → Moment → Prop :=
  Relation.ReflTransGen (Move d i)

end Pool
end Snaplace
