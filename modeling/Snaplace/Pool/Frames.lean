import Snaplace.Foundation.Frame
import Snaplace.Pool.MainLoop

/-!
# Frames of the pool's handlers

Most of what a handler does leaves the pool's workers and sandboxes where they are, or moves workers
from one set to the next. A relation on pools that allows for that is kept by all handlers that only
park, retire and report; the others spawn a worker, activate one, reap one, or take a snapshot.
-/
namespace Snaplace
open Foundation
open Worker (WorkerExit OutboundMessage PrepareSandboxResult CreateSnapshotResult)
open Admission (DispatchResponse PoolEvent)

namespace Pool
open Handler (Keeps Post wp mapErr attempt expect require fromExcept)
variable {ε : Type} {w : WorkerId} {f : FunctionId} {i : Input}

/-- The tables that say which workers and sandboxes there are, and of which functions. -/
def core (p : Pool) :
    SandboxPoolConfig × FunctionMetadataStore × Table WorkerId WorkerHandle ×
      Table SandboxId WorkerId × Table FunctionId (List Sandbox) × List Sandbox × Phase :=
  (p.config, p.store, p.workerHandles, p.workerBySandbox, p.snapshots, p.trashedSandboxes, p.phase)

/-- What parking and retiring workers keeps. -/
class Frame (R : Pool → Pool → Prop) : Prop extends IsPreorder Pool R where
  aside : ∀ p q, q.core = p.core → R p q
  toIdle : ∀ w f, Keeps R (workerActiveToIdle w f)
  idleToDying : ∀ w f, Keeps R (workerIdleToDying w f)
  activeToDying : ∀ w f, Keeps R (workerActiveToDying w f)
  account : ∀ w accounting, Keeps R (setMemoryAccounting w accounting : Handler Pool Error Unit)

/-- The joining of a worker, or a success told to one who asked for a destruction. -/
def Effect.isNoted : Effect → Bool
  | .joined .. | .reply _ (.destroySandbox (.ok _)) => true
  | _ => false

/-- The workers joined and the destructions told of, in order. -/
def noted (log : List Effect) : List Effect := log.filter Effect.isNoted

@[simp] theorem noted_append (l m : List Effect) : noted (l ++ m) = noted l ++ noted m :=
  List.filter_append ..

/-- What is kept by parking and retiring workers while nothing is noted. -/
class QuietFrame (R : Pool → Pool → Prop) : Prop extends IsPreorder Pool R where
  aside : ∀ p q, (q.core, q.pending.sandboxDestrs, noted q.log) =
    (p.core, p.pending.sandboxDestrs, noted p.log) → R p q
  toIdle : ∀ w f, Keeps R (workerActiveToIdle w f)
  idleToDying : ∀ w f, Keeps R (workerIdleToDying w f)
  activeToDying : ∀ w f, Keeps R (workerActiveToDying w f)
  account : ∀ w accounting, Keeps R (setMemoryAccounting w accounting : Handler Pool Error Unit)

instance {R : Pool → Pool → Prop} [Frame R] : QuietFrame R where
  aside p q same := Frame.aside p q (congrArg Prod.fst same)
  toIdle := Frame.toIdle
  idleToDying := Frame.idleToDying
  activeToDying := Frame.activeToDying
  account := Frame.account

/-- What is kept by spawning workers and moving sandboxes, too. -/
class SandboxFrame (R : Pool → Pool → Prop) : Prop extends QuietFrame R where
  place : ∀ p q, (q.config, q.store, q.phase, q.pending.sandboxDestrs, noted q.log) =
    (p.config, p.store, p.phase, p.pending.sandboxDestrs, noted p.log) → R p q
  condemn : ∀ w f, Keeps R (insertDyingWorker w f)

/-- What is kept by reaping workers, too. -/
class ReapFrame (R : Pool → Pool → Prop) [Frame R] [SandboxFrame R] : Prop where
  remove : ∀ stage w f, Keeps R (removeWorker stage w f : Handler Pool Error Bool)

theorem wp_registeredFunction_iff {p : Pool} {Q : Post Pool ε RegisteredFunction} :
    wp (registeredFunction f) Q p ↔
      (∀ function, p.store.functions.lookup f = some function → Q.ok function p) ∧
        (p.store.functions.lookup f = none → Q.panic functionPanic p) := by
  simp only [registeredFunction, Handler.wp_bind, Handler.wp_get, Handler.wp_expect]

/-- A worker is put into the set, if its function is found. -/
theorem all_insertWorker {P : Pool → Prop} {p : Pool} {stage : Stage} (before : P p)
    (after : P { p with store := p.store.insert stage (f, w) }) :
    wp (insertWorker stage w f) (Post.all P) p := by
  simp only [insertWorker, registeredFunction, Handler.wp_bind, Handler.wp_get, Handler.wp_expect,
    Handler.wp_modify, Handler.wp_ite, Handler.wp_throw, Handler.wp_pure]
  exact ⟨fun _ _ => ⟨fun _ => after, fun _ => after⟩, fun _ => before⟩

/-- A worker is taken out of the set, if its function is found. -/
theorem all_removeWorker {P : Pool → Prop} {p : Pool} {stage : Stage} (before : P p)
    (after : P { p with store := p.store.erase stage (f, w) }) :
    wp (removeWorker stage w f : Handler Pool ε Bool) (Post.all P) p := by
  simp only [removeWorker, registeredFunction, Handler.wp_bind, Handler.wp_get, Handler.wp_expect,
    Handler.wp_modify, Handler.wp_pure]
  exact ⟨fun _ _ => after, fun _ => before⟩

/-- A worker is moved from one set to the other, if it is in the first. -/
theorem all_transition {P : Pool → Prop} {p : Pool} {source target : Stage} {msg : String}
    (before : P p)
    (between : (f, w) ∈ p.store.workers source →
      P { p with store := p.store.erase source (f, w) })
    (after : (f, w) ∈ p.store.workers source →
      P { p with store := (p.store.erase source (f, w)).insert target (f, w) }) :
    wp (transition source target msg w f) (Post.all P) p := by
  simp only [transition, Handler.wp_bind, Handler.wp_get]
  cases p.store.functions.lookup f with
  | none => exact before
  | some function =>
    simp only [Handler.wp_bind, Handler.wp_get, Handler.wp_ite, Handler.wp_throw, Handler.wp_modify]
    exact ⟨fun member => all_insertWorker (between member) (after member), fun _ => before⟩

namespace Keeping
variable {R : Pool → Pool → Prop}

theorem place [SandboxFrame R] {g : Pool → Pool}
    (same : ∀ p, ((g p).config, (g p).store, (g p).phase, (g p).pending.sandboxDestrs,
      noted (g p).log) = (p.config, p.store, p.phase, p.pending.sandboxDestrs, noted p.log)) :
    Keeps R (modify g : Handler Pool ε PUnit) :=
  .modify fun p => SandboxFrame.place p _ (same p)

section Quiet
variable [QuietFrame R]

theorem modify {g : Pool → Pool}
    (same : ∀ p, ((g p).core, (g p).pending.sandboxDestrs, noted (g p).log) =
      (p.core, p.pending.sandboxDestrs, noted p.log)) :
    Keeps R (modify g : Handler Pool ε PUnit) :=
  .modify fun p => QuietFrame.aside p _ (same p)

theorem record {effect : Effect} (quiet : noted [effect] = []) :
    Keeps R (Pool.record effect : Handler Pool ε Unit) :=
  modify fun p => by simp [core, quiet]

theorem emitAdmissionEvent (ev : PoolEvent) :
    Keeps R (Pool.emitAdmissionEvent ev : Handler Pool ε Unit) := record rfl

theorem registeredFunction : Keeps R (registeredFunction f : Handler Pool ε RegisteredFunction) :=
  .bind .get fun _ => .expect _ _

theorem functionMemory : Keeps R (functionMemory f : Handler Pool ε ByteUnit) :=
  .bind registeredFunction fun _ => .pure _

theorem addInstant {t : Instant} {d : Duration} :
    Keeps R (addInstant t d : Handler Pool ε Instant) :=
  .bind (.require _ _) fun _ => .pure _

theorem expectHandle {msg : String} :
    Keeps R (expectHandle msg w : Handler Pool ε WorkerHandle) :=
  .bind .get fun _ => .expect _ _

section Keepalive

theorem stopTimer : Keeps R (stopTimer w : Handler Pool ε Unit) := modify fun _ => rfl

theorem clearDeadline : Keeps R (clearDeadline w : Handler Pool ε Unit) := modify fun _ => rfl

theorem setDeadline {t : Instant} : Keeps R (setDeadline w t : Handler Pool ε Unit) :=
  modify fun _ => rfl

theorem spawnTimer {t : Instant} : Keeps R (spawnTimer w t : Handler Pool ε Unit) :=
  modify fun _ => rfl

theorem deadlineOf : Keeps R (deadlineOf w : Handler Pool ε Instant) :=
  .bind .get fun _ => .expect _ _

theorem sendControl {msg : Worker.ControlMessage} : Keeps R (sendControl i w msg) := by
  unfold Pool.sendControl
  apply Keeps.ite
  · exact fun _ => record rfl
  · intro _
    cases msg <;> exact .throw _

theorem sendLast {msg : Worker.ControlMessage} : Keeps R (sendLast i w msg) :=
  .bind expectHandle fun _ => .mapErr sendControl

theorem idleWorkerToDying : Keeps R (idleWorkerToDying w f) :=
  .bind (.mapErr (QuietFrame.idleToDying w f)) fun _ => .bind (emitAdmissionEvent _) fun _ =>
    .bind stopTimer fun _ => .bind clearDeadline fun _ => .bind expectHandle fun _ =>
      .bind functionMemory fun _ => .bind (modify fun _ => rfl) fun _ => QuietFrame.account w _

theorem activeWorkerToDying : Keeps R (activeWorkerToDying w f) :=
  .bind (.mapErr (QuietFrame.activeToDying w f)) fun _ => .bind (emitAdmissionEvent _) fun _ =>
    .bind clearDeadline fun _ => .bind functionMemory fun _ =>
      .bind (modify fun _ => rfl) fun _ => QuietFrame.account w _

theorem decommissionIdleWorker {functionId : Option FunctionId} :
    Keeps R (decommissionIdleWorker i w functionId) := by
  unfold Pool.decommissionIdleWorker
  have rest (f : FunctionId) : Keeps R (do
      Pool.idleWorkerToDying w f
      Pool.sendLast i w .shutDown : PoolM Unit) :=
    .bind idleWorkerToDying fun _ => sendLast
  refine .bind .get fun p => .ite (fun _ => ?_) fun _ => clearDeadline
  cases functionId with
  | some f => exact rest f
  | none => exact .bind expectHandle fun _ => .bind (.pure _) rest

theorem evict {memToReclaim : ByteUnit} :
    Keeps R (evict i memToReclaim : Handler Pool ε (List (FunctionId × WorkerId))) := by
  unfold Pool.evict
  refine .bind .get fun p => ?_
  dsimp only
  split
  · exact .pure _
  · refine .bind (.forM fun _ _ => .bind functionMemory fun _ => .pure _) fun _ => ?_
    exact .ite (fun _ => .pure _) fun _ => .pure _
  · refine .bind (.forM fun _ _ => .bind functionMemory fun _ => ?_) fun _ => .pure _
    exact .ite (fun _ => .bind deadlineOf fun _ => .pure _) fun _ => .pure _

theorem triggerEvictionPolicy : Keeps R (triggerEvictionPolicy i : Handler Pool ε Unit) :=
  .bind .get fun _ => .bind evict fun _ =>
    .forM fun _ _ => .bind (.attempt decommissionIdleWorker) fun _ => .pure _

theorem evictIfNeeded : Keeps R (evictIfNeeded i : Handler Pool ε Unit) :=
  .bind .get fun _ => .ite (fun _ => triggerEvictionPolicy) fun _ => .pure _

theorem deactivateWorker {deadline : Option Instant} :
    Keeps R (deactivateWorker i w f deadline) := by
  cases deadline with
  | some deadline =>
    exact .bind (.mapErr (QuietFrame.toIdle w f)) fun _ => .bind setDeadline fun _ =>
      .bind spawnTimer fun _ => emitAdmissionEvent _
  | none => exact .bind activeWorkerToDying fun _ => sendLast

theorem deactivateWorkerPerKeepalive : Keeps R (deactivateWorkerPerKeepalive i w f) := by
  unfold Pool.deactivateWorkerPerKeepalive
  split
  · exact .bind addInstant fun _ => deactivateWorker
  · exact deactivateWorker

end Keepalive

section CpuSet

theorem cpuAlloc : Keeps R (cpuAlloc i w : Handler Pool ε Cpu) :=
  .bind .get fun _ => .bind (.expect _ _) fun _ => .bind (modify fun _ => rfl) fun _ =>
    .bind (.require _ _) fun _ => .pure _

theorem cpuRelease : Keeps R (cpuRelease w) := by
  unfold Pool.cpuRelease
  refine .bind .get fun p => ?_
  dsimp only
  split
  · exact .throw _
  · exact .bind (modify fun _ => rfl) fun _ => .bind (.expect _ _) fun _ => modify fun _ => rfl

theorem releaseForPrep : Keeps R (releaseForPrep w) := .mapErr cpuRelease

end CpuSet

section Dispatch

theorem pickIdleWorker : Keeps R (pickIdleWorker i f : Handler Pool ε (Option WorkerId)) :=
  .bind .get fun _ => .bind (.forM fun _ _ => .bind deadlineOf fun _ => .pure _) fun _ =>
    .bind .get fun _ => .pure _

theorem replyDispatch {resp : DispatchResponse} : Keeps R (replyDispatch i resp) :=
  .ite (fun _ => record rfl) fun _ => .throw _

theorem deny {resp : DispatchResponse} : Keeps R (deny i resp) := .mapErr replyDispatch

theorem rejectDispatch : Keeps R (rejectDispatch i : Handler Pool ε Unit) :=
  .bind (.attempt replyDispatch) fun _ => .pure _

theorem restoreIdle {deadline : Instant} : Keeps R (restoreIdle w f deadline) :=
  .bind (.mapErr (QuietFrame.toIdle w f)) fun _ => .bind setDeadline fun _ => .bind spawnTimer fun _ =>
    .throw _

theorem cleanupFailedDispatch {oldDeadline : Option Instant} :
    Keeps R (cleanupFailedDispatch i w oldDeadline) := by
  unfold Pool.cleanupFailedDispatch
  refine .bind expectHandle fun handle => .bind functionMemory fun _ =>
    .bind (modify fun _ => rfl) fun _ => .bind (.mapErr cpuRelease) fun _ => ?_
  cases oldDeadline with
  | some _ => exact restoreIdle
  | none => exact .bind addInstant fun _ => restoreIdle

end Dispatch

section Replies

theorem send {r : ReplyId} {reply : Reply} (quiet : noted [.reply r reply] = []) :
    Keeps R (send r reply : Handler Pool ε Unit) := record quiet

theorem sendAll {rs : List ReplyId} {reply : Reply} (quiet : ∀ r, noted [.reply r reply] = []) :
    Keeps R (sendAll rs reply : Handler Pool ε Unit) := .forM fun r _ => send (quiet r)

theorem answerFailure {E : Type} {reply : E → Reply} {request : RequestM E Unit}
    (h : Keeps R request) (quiet : ∀ e r, noted [.reply r (reply e)] = []) :
    Keeps R (answerFailure reply request : Handler Pool ε Unit) := by
  unfold Pool.answerFailure
  refine .bind (.attempt h) fun r => ?_
  split
  · exact .pure _
  · exact send (quiet _ _)
  · exact .pure _

theorem forWaiters {op : Option PendingSandboxDestr}
    {reply : PendingSandboxDestr → Handler Pool ε Unit} (h : ∀ op, Keeps R (reply op)) :
    Keeps R (forWaiters op reply) := by
  cases op
  · exact .pure _
  · exact h _

theorem replyDestroyInternalFailure {op : PendingSandboxDestr} {msg : String} :
    Keeps R (op.replyDestroyInternalFailure msg : Handler Pool ε Unit) := sendAll fun _ => rfl

theorem replyDestroyWorkerFailure {op : PendingSandboxDestr} {err : Worker.Error} :
    Keeps R (op.replyDestroyWorkerFailure err : Handler Pool ε Unit) := sendAll fun _ => rfl

theorem answerPrep {op : Option PendingSandboxPrep} {reply : PrepareSandboxReply} :
    Keeps R (answerPrep op reply : Handler Pool ε Unit) := by
  unfold Pool.answerPrep
  split
  · exact send rfl
  · exact .pure _

theorem answerSnapshot {op : Option PendingSnapshot} {reply : CreateSnapshotReply} :
    Keeps R (answerSnapshot op reply : Handler Pool ε Unit) := by
  cases op
  · exact .pure _
  · exact sendAll fun _ => rfl

end Replies

section Entries

theorem insertOp {op : PendingControlOp} : Keeps R (insertOp w op : Handler Pool ε Unit) :=
  modify fun _ => rfl

theorem removeOp : Keeps R (removeOp w : Handler Pool ε Unit) := modify fun _ => rfl

theorem insertSnapshotOp {sandbox : SandboxId} {op : PendingSnapshot} :
    Keeps R (insertSnapshotOp sandbox op : Handler Pool ε Unit) := modify fun _ => rfl

theorem insertPrepOp {op : PendingSandboxPrep} :
    Keeps R (insertPrepOp w op : Handler Pool ε Unit) := modify fun _ => rfl

theorem takeSnapshotOp {sandbox : SandboxId} :
    Keeps R (takeSnapshotOp sandbox : Handler Pool ε (Option PendingSnapshot)) :=
  .modifyGet fun p => QuietFrame.aside p _ rfl

theorem takePrepOp : Keeps R (takePrepOp w : Handler Pool ε (Option PendingSandboxPrep)) :=
  .modifyGet fun p => QuietFrame.aside p _ rfl

theorem reapMemAccount {accounting : WorkerMemAccounting} {workerMem : ByteUnit} :
    Keeps R (reapMemAccount accounting workerMem : Handler Pool ε Unit) := by
  cases accounting with
  | inUse => exact .bind (modify fun _ => rfl) fun _ => emitAdmissionEvent _
  | reclaimed => exact .bind (modify fun _ => rfl) fun _ => emitAdmissionEvent _
  | uncharged => exact .pure _

end Entries

section Control

theorem destroyIdleWorker {remove : Bool} : Keeps R (destroyIdleWorker i w f remove) :=
  .ite (fun _ => .bind idleWorkerToDying fun _ => sendLast) fun _ => decommissionIdleWorker

theorem destroyActiveWorker {remove : Bool} : Keeps R (destroyActiveWorker i w f remove) :=
  .ite (fun _ => .bind activeWorkerToDying fun _ => sendLast) fun _ => deactivateWorker

theorem startDestr {options : DestroySandboxOptions} {respondTo : Option ReplyId} :
    Keeps R (startDestr i w options respondTo) := by
  unfold Pool.startDestr
  refine .bind .get fun p => ?_
  split
  · exact .mapErr destroyIdleWorker
  · exact .ite (fun _ => .mapErr destroyActiveWorker) fun _ => .throw _
  · exact .pure _
  · exact .throw _

theorem joinSnapshot {sandboxId : SandboxId} {respondTo : Option ReplyId} :
    Keeps R (joinSnapshot sandboxId respondTo) := by
  cases respondTo
  · exact .pure _
  · exact .bind .get fun _ => .bind (.expect _ _) fun _ => insertSnapshotOp

theorem requestSnapshotting {sandboxId : SandboxId} {respondTo : Option ReplyId}
    (wake : ∀ w f, Keeps R (activateForSnapshot w f sandboxId respondTo)) :
    Keeps R (requestSnapshotting i sandboxId respondTo) := by
  have start (w : WorkerId) (f : FunctionId) : Keeps R (startSnapshot i w f sandboxId respondTo) :=
    .bind stopTimer fun _ => .bind (wake w f) fun _ => .bind .get fun _ =>
      .bind clearDeadline fun _ => .bind expectHandle fun _ =>
        .bind (.mapErr sendControl) fun _ => .bind insertOp fun _ => insertSnapshotOp
  unfold Pool.requestSnapshotting
  refine .bind .get fun p => .ite (fun _ => .throw _) fun _ => ?_
  split
  · exact .throw _
  · refine .bind expectHandle fun handle => ?_
    split
    · exact start _ _
    · exact joinSnapshot
    · exact .throw _
    · exact .throw _

theorem parkPrepared : Keeps R (parkPrepared i w f) := by
  unfold Pool.parkPrepared
  refine .bind .get fun p => ?_
  split
  · exact .bind addInstant fun _ => deactivateWorker
  · exact deactivateWorkerPerKeepalive

theorem finalizeSandboxPreparation {resp : PrepareSandboxResult} :
    Keeps R (finalizeSandboxPreparation i resp) := by
  unfold Pool.finalizeSandboxPreparation
  have rest (ret : Except Error Unit) (result : PrepareSandboxReply) : Keeps R (do
      let op ← Pool.takePrepOp resp.workerId
      Pool.answerPrep op result
      Pool.removeOp resp.workerId
      fromExcept ret : PoolM Unit) :=
    .bind takePrepOp fun _ => .bind answerPrep fun _ => .bind removeOp fun _ => .fromExcept _
  refine .bind (.attempt releaseForPrep) fun released => ?_
  split
  · exact .bind (.attempt parkPrepared) fun _ => rest _ _
  · exact rest _ _

theorem parkSnapshotted {paused : Option PausedTimerInfo} :
    Keeps R (parkSnapshotted i w f paused) := by
  cases paused with
  | some paused => exact .bind addInstant fun _ => deactivateWorker
  | none => exact deactivateWorkerPerKeepalive

theorem finalizeSnapshotting {resp : CreateSnapshotResult} :
    Keeps R (finalizeSnapshotting i resp) :=
  .bind takeSnapshotOp fun _ => .bind (.attempt parkSnapshotted) fun _ =>
    .bind answerSnapshot fun _ => .bind removeOp fun _ => .fromExcept _

theorem finalizeSandboxPreparationDuringShutdown {resp : PrepareSandboxResult} :
    Keeps R (finalizeSandboxPreparationDuringShutdown resp : Handler Pool ε Unit) :=
  .bind (.attempt releaseForPrep) fun _ => .bind takePrepOp fun _ => .bind answerPrep fun _ =>
    removeOp

theorem finalizeSnapshottingDuringShutdown {resp : CreateSnapshotResult} :
    Keeps R (finalizeSnapshottingDuringShutdown resp : Handler Pool ε Unit) :=
  .bind removeOp fun _ => .bind takeSnapshotOp fun _ => answerSnapshot

end Control

section MainLoop

theorem onNeedWork : Keeps R (onNeedWork i w f) := by
  unfold Pool.onNeedWork
  refine .bind (.mapErr cpuRelease) fun _ => .bind .get fun p => ?_
  split
  · exact .pure _
  · exact deactivateWorkerPerKeepalive

theorem retireAllIdle : Keeps R (retireAllIdle i : Handler Pool ε Unit) :=
  .bind .get fun _ => .forM fun _ _ => .bind (.attempt decommissionIdleWorker) fun _ => .pure _

theorem retireActive : Keeps R (retireActive i w f) :=
  .bind activeWorkerToDying fun _ => sendLast

theorem retireAllActive : Keeps R (retireAllActive i : Handler Pool ε Unit) :=
  .bind .get fun _ => .forM fun _ _ => .bind (.attempt retireActive) fun _ => .pure _

theorem beginShutdown (stops : ∀ p : Pool, R p { p with phase := .shuttingDown }) :
    Keeps R (beginShutdown i : Handler Pool ε Unit) :=
  .bind retireAllIdle fun _ => .bind retireAllActive fun _ => .modify stops

end MainLoop

end Quiet

section Sandboxes
variable [SandboxFrame R]

theorem pickOrphanSnapshot :
    Keeps R (pickOrphanSnapshot f : Handler Pool ε (Option Sandbox)) := by
  unfold Pool.pickOrphanSnapshot
  refine .bind .get fun p => ?_
  dsimp only
  split
  · exact .pure _
  · exact .bind (place fun _ => rfl) fun _ => .pure _

theorem stashSnapshot {sandbox : Sandbox} :
    Keeps R (stashSnapshot f sandbox : Handler Pool ε Unit) := place fun _ => rfl

theorem insertWorkerBySandbox {collision : String} {sandbox : SandboxId} :
    Keeps R (insertWorkerBySandbox collision sandbox w : Handler Pool ε Unit) :=
  .bind .get fun _ => .bind (place fun _ => rfl) fun _ => .require _ _

theorem spawnUntrackedWorker {sandbox : Option Sandbox} {accounting : WorkerMemAccounting} :
    Keeps R (spawnUntrackedWorker i f sandbox accounting) := by
  unfold Pool.spawnUntrackedWorker
  refine .bind registeredFunction fun _ => ?_
  cases i.spawnError with
  | some err =>
    cases sandbox with
    | some sandbox => exact .bind stashSnapshot fun _ => .throw _
    | none => exact .throw _
  | none =>
    refine .bind (.bind .get fun _ => .bind (place fun _ => rfl) fun _ => .require _ _) fun _ =>
      .bind (record rfl) fun _ => ?_
    cases sandbox with
    | some sandbox => exact .bind insertWorkerBySandbox fun _ => .pure _
    | none => exact .pure _

theorem spawnNewWorker {sandbox : Option Sandbox} : Keeps R (spawnNewWorker i f sandbox) :=
  .bind spawnUntrackedWorker fun _ => .bind functionMemory fun _ =>
    .bind (place fun _ => rfl) fun _ => .pure _

theorem takeHandle {msg : String} : Keeps R (takeHandle msg w : Handler Pool ε WorkerHandle) :=
  .bind expectHandle fun _ => .bind (place fun _ => rfl) fun _ => .pure _

theorem spawnDestroyer {sandbox : Sandbox} {respondTo : Option ReplyId} :
    Keeps R (spawnDestroyer i f sandbox respondTo) :=
  .bind (.mapErr spawnUntrackedWorker) fun _ => .bind (.mapErr (SandboxFrame.condemn _ _))
    fun _ => .bind expectHandle fun _ => .bind (.mapErr sendControl) fun _ => .pure _

theorem startingSandbox {mode : SandboxProvisioningMode} {respondTo : Option ReplyId} :
    Keeps R (startingSandbox f mode respondTo) := by
  cases mode with
  | preferSnapshot => exact pickOrphanSnapshot
  | requireSnapshot =>
    refine .bind pickOrphanSnapshot fun sandbox => ?_
    cases sandbox with
    | some _ => exact .pure _
    | none => exact .throw _
  | forceFresh => exact .pure _

theorem updateSandboxId {sandboxId : SandboxId} :
    Keeps R (updateSandboxId w sandboxId : Handler Pool ε Unit) :=
  .bind expectHandle fun _ => .bind (place fun _ => rfl) fun _ => insertWorkerBySandbox

theorem cleanupOrphans : Keeps R (cleanupOrphans i : Handler Pool ε Unit) := by
  have destroy (f : FunctionId) (sandbox : Sandbox) :
      Keeps R (destroyOrphanSandbox i f sandbox : Handler Pool ε Unit) := by
    refine .bind registeredFunction fun _ => ?_
    split
    · exact record rfl
    · exact place fun _ => rfl
    · exact record rfl
  unfold Pool.cleanupOrphans
  refine .bind .get fun p => .ite (fun _ => record rfl) fun _ => .bind .get fun p => ?_
  refine .bind (place fun _ => rfl) fun _ => .bind ?_ fun _ => record rfl
  exact .forM fun e _ => .forM fun sandbox _ => destroy e.1 sandbox

end Sandboxes

section Loud
variable [Frame R]

theorem insertDestrOp {op : PendingSandboxDestr} :
    Keeps R (insertDestrOp w op : Handler Pool ε Unit) := .modify fun p => Frame.aside p _ rfl

theorem takeDestrOp : Keeps R (takeDestrOp w : Handler Pool ε (Option PendingSandboxDestr)) :=
  .modifyGet fun p => Frame.aside p _ rfl

theorem finalizeControlOps {sandbox : Option SandboxId} :
    Keeps R (finalizeControlOps w sandbox : Handler Pool ε (Option PendingSandboxDestr)) := by
  unfold Pool.finalizeControlOps
  have rest : Keeps R (do
      let op ← Pool.takePrepOp w
      Pool.answerPrep op (.error (.internal reapingMsg none))
      Pool.takeDestrOp w : Handler Pool ε (Option PendingSandboxDestr)) :=
    .bind takePrepOp fun _ => .bind answerPrep fun _ => takeDestrOp
  refine .bind removeOp fun _ => ?_
  cases sandbox with
  | none => exact rest
  | some sandbox => exact .bind takeSnapshotOp fun _ => .bind answerSnapshot fun _ => rest

theorem trackDestr {remove : Bool} {respondTo : Option ReplyId} :
    Keeps R (trackDestr w remove respondTo : Handler Pool ε Unit) :=
  .bind insertOp fun _ => insertDestrOp

theorem replyDestroySuccess {op : PendingSandboxDestr} {persists : Bool} :
    Keeps R (op.replyDestroySuccess persists : Handler Pool ε Unit) :=
  .ite (fun _ => replyDestroyInternalFailure) fun _ =>
    .forM fun _ _ => .modify fun p => Frame.aside p _ rfl

end Loud

section Reaping
variable [Frame R] [SandboxFrame R]

theorem settleExit {accounting : WorkerMemAccounting} {mem : ByteUnit}
    {op : Option PendingSandboxDestr} {exit : WorkerExit} :
    Keeps R (settleExit f accounting mem op exit) := by
  have succeeds (persists : Bool) :
      Keeps R (Pool.forWaiters op fun op => op.replyDestroySuccess persists : PoolM Unit) :=
    forWaiters fun _ => replyDestroySuccess
  have fails (err : Worker.Error) :
      Keeps R (Pool.forWaiters op fun op => op.replyDestroyWorkerFailure err : PoolM Unit) :=
    forWaiters fun _ => replyDestroyWorkerFailure
  obtain ⟨result, sandbox⟩ := exit
  cases result with
  | ok =>
    cases sandbox with
    | reusable sandbox =>
      exact .bind stashSnapshot fun _ => .bind reapMemAccount fun _ => succeeds _
    | none => exact .bind reapMemAccount fun _ => succeeds _
    | trashed sandbox => exact .panicWith _
  | error err =>
    cases sandbox with
    | reusable sandbox =>
      exact .bind stashSnapshot fun _ => .bind reapMemAccount fun _ => fails _
    | none =>
      cases err <;> first
        | exact .bind reapMemAccount fun _ => fails _
        | exact fails _
    | trashed sandbox => exact .bind (place fun _ => rfl) fun _ => fails _

theorem reapHandle {handle : WorkerHandle} : Keeps R (reapHandle i w f handle) := by
  unfold Pool.reapHandle
  refine .bind clearDeadline fun _ => .bind ?_ fun _ => .bind (.attempt cpuRelease) fun _ =>
    .bind finalizeControlOps fun _ => .bind functionMemory fun _ =>
      .bind (.modify fun p => Frame.aside p _ rfl) fun _ => ?_
  · cases handle.sandboxId with
    | some sandbox => exact place fun _ => rfl
    | none => exact .pure _
  · cases i.exit w with
    | some exit => exact settleExit
    | none => exact .bind (forWaiters fun _ => replyDestroyInternalFailure) fun _ => .throw _

theorem destrTarget {sandboxId : SandboxId} {options : DestroySandboxOptions}
    {respondTo : Option ReplyId} :
    Keeps R (destrTarget i sandboxId options respondTo) := by
  unfold Pool.destrTarget
  refine .bind .get fun p => ?_
  cases p.workerBySandbox.lookup sandboxId with
  | some worker =>
    dsimp only
    split
    · exact .pure _
    · exact .bind (.expect _ _) fun _ => .bind insertDestrOp fun _ => .pure _
    · exact .throw _
  | none =>
    refine .ite (fun _ => ?_) fun _ => .throw _
    split
    · exact .throw _
    · exact .bind (.expect _ _) fun _ => .bind (place fun _ => rfl) fun _ =>
        .map spawnDestroyer

theorem requestSandboxDestr {sandboxId : SandboxId} {options : DestroySandboxOptions}
    {respondTo : Option ReplyId} :
    Keeps R (requestSandboxDestr i sandboxId options respondTo) := by
  refine .bind destrTarget fun target => ?_
  cases target with
  | none => exact .pure _
  | some worker => exact .bind startDestr fun _ => trackDestr

variable [ReapFrame R]

theorem reapWorker : Keeps R (reapWorker i w f) := by
  unfold Pool.reapWorker
  refine .bind (ReapFrame.remove _ _ _) fun dying => .ite (fun _ => ?_) fun _ => ?_
  · exact .bind takeHandle fun _ => reapHandle
  refine .bind (ReapFrame.remove _ _ _) fun active => .ite (fun _ => ?_) fun _ => ?_
  · exact .bind (emitAdmissionEvent _) fun _ => .bind takeHandle fun _ => reapHandle
  refine .bind .get fun p => .ite (fun _ => .pure _) fun _ => .bind .get fun p => ?_
  split
  · exact .bind takeHandle fun _ => reapHandle
  · exact .pure _

theorem handleWorkerStatus {msg : OutboundMessage} :
    Keeps R (handleWorkerStatus i msg) := by
  cases msg with
  | sandboxId worker sandboxId => exact updateSandboxId
  | needWork worker functionId => exact onNeedWork
  | reapMe worker functionId => exact reapWorker
  | sandboxPreparation resp => exact finalizeSandboxPreparation
  | snapshotCreation resp => exact finalizeSnapshotting

theorem drainWorkerMessage {msg : OutboundMessage} :
    Keeps R (drainWorkerMessage i msg : Handler Pool ε Unit) := by
  cases msg with
  | sandboxId worker sandboxId => exact updateSandboxId
  | needWork worker functionId =>
    exact .bind (.attempt cpuRelease) fun _ => .pure _
  | reapMe worker functionId => exact .bind (.attempt reapWorker) fun _ => .pure _
  | sandboxPreparation resp => exact finalizeSandboxPreparationDuringShutdown
  | snapshotCreation resp => exact finalizeSnapshottingDuringShutdown

end Reaping

end Keeping

end Pool
end Snaplace
