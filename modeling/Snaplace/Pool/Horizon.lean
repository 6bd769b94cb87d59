import Snaplace.Foundation.Frame
import Snaplace.Pool.MainLoop

/-!
# How far ahead the pool looks

A keep-alive deadline is the current time and the length that the policy, or the first time a hint,
gives. A snapshot takes the deadline away and gives it back, later by the time it took: however often
that happens, the deadline is no further ahead of the clock than it was. If the clock and the greatest
length make an instant that exists, the pool never adds up one that does not.
-/
namespace Snaplace
open Foundation Foundation.Handler
open Worker (WorkerExit OutboundMessage PrepareSandboxResult CreateSnapshotResult)
open Admission (DispatchMode DispatchResponse PoolEvent)

namespace Pool

/-- The tables in which there are deadlines, and lengths of time they are made of. -/
def clocks (p : Pool) : Table WorkerId Instant × Table WorkerId Instant ×
    Table WorkerId PendingSandboxPrep × Table SandboxId PendingSnapshot :=
  (p.workerDeadlines, p.timers, p.pending.sandboxPreps, p.pending.snapshots)

/-- A deadline that was taken away for a snapshot was no more than `keep` ahead then. -/
structure PausedTimerInfo.Bounded (keep : Duration) (now : Instant) (info : PausedTimerInfo) :
    Prop where
  past : info.tsPause ≤ now
  deadline : info.deadline ≤ info.tsPause + keep

/-- No worker is kept for more than `keep` from now. -/
structure Bounded (keep : Duration) (now : Instant) (p : Pool) : Prop where
  deadline : ∀ w deadline, p.workerDeadlines.lookup w = some deadline → deadline ≤ now + keep
  timer : ∀ w deadline, p.timers.lookup w = some deadline → deadline ≤ now + keep
  hint : ∀ w op, p.pending.sandboxPreps.lookup w = some op →
    ∀ hint, op.initialKeepaliveHint = some hint → hint ≤ keep
  paused : ∀ sandbox op, p.pending.snapshots.lookup sandbox = some op →
    ∀ info, op.timerInfo = some info → info.Bounded keep now

/-- A worker that is parked at this turn is kept for `keep` at most, until an instant that exists. -/
structure Reaches (keep : Duration) (i : Input) : Prop where
  assign : ∀ f idle, i.assign f = some idle → idle ≤ keep
  hint : ∀ f options respondTo, i.event = .control (.prepareSandbox f options respondTo) →
    ∀ hint, options.initialKeepaliveHint = some hint → hint ≤ keep
  inRange : i.now + keep ≤ maxInstant

variable {ε : Type} {keep : Duration} {now : Instant} {p : Pool} {w : WorkerId} {f : FunctionId}
  {i : Input}

namespace Bounded

theorem frame {q : Pool} (h : Bounded keep now p) (same : clocks q = clocks p) :
    Bounded keep now q := by
  obtain ⟨deadlines, timers, preps, snapshots⟩ : q.workerDeadlines = p.workerDeadlines ∧
      q.timers = p.timers ∧ q.pending.sandboxPreps = p.pending.sandboxPreps ∧
        q.pending.snapshots = p.pending.snapshots := by
    simpa [clocks] using same
  constructor
  · rw [deadlines]
    exact h.deadline
  · rw [timers]
    exact h.timer
  · rw [preps]
    exact h.hint
  · rw [snapshots]
    exact h.paused

/-- The clock goes on. -/
theorem later {later : Instant} (h : Bounded keep now p) (le : now ≤ later) :
    Bounded keep later p where
  deadline w deadline look := (h.deadline w deadline look).trans (Nat.add_le_add_right le keep)
  timer w deadline look := (h.timer w deadline look).trans (Nat.add_le_add_right le keep)
  hint := h.hint
  paused sandbox op look info paused :=
    { h.paused sandbox op look info paused with
      past := (h.paused sandbox op look info paused).past.trans le }

end Bounded

/-- No worker comes to be kept for more than `keep`, and no sum leaves the range of instants. -/
abbrev Within (keep : Duration) (now : Instant) {α : Type} (m : Handler Pool ε α) : Prop :=
  Sustains (Bounded keep now) overflowPanic m

/-- A handler that changes none of the tables. -/
theorem within_aside {g : Pool → Pool} (same : ∀ p, clocks (g p) = clocks p) :
    Within keep now (modify g : Handler Pool ε PUnit) := .modify fun p h => h.frame (same p)

section Tables

theorem within_record {effect : Effect} :
    Within keep now (record effect : Handler Pool ε Unit) := within_aside fun _ => rfl

theorem within_stopTimer : Within keep now (stopTimer w : Handler Pool ε Unit) :=
  .modify fun _ h => { h with timer := Table.forall_erase h.timer }

theorem within_clearDeadline : Within keep now (clearDeadline w : Handler Pool ε Unit) :=
  .modify fun _ h => { h with deadline := Table.forall_erase h.deadline }

theorem within_setDeadline {deadline : Instant} (near : deadline ≤ now + keep) :
    Within keep now (setDeadline w deadline : Handler Pool ε Unit) :=
  .modify fun _ h =>
    { h with deadline := Table.forall_insert.mpr ⟨near, fun w t _ => h.deadline w t⟩ }

theorem within_spawnTimer {deadline : Instant} (near : deadline ≤ now + keep) :
    Within keep now (spawnTimer w deadline : Handler Pool ε Unit) :=
  .modify fun _ h => { h with timer := Table.forall_insert.mpr ⟨near, fun w t _ => h.timer w t⟩ }

theorem within_insertPrepOp {op : PendingSandboxPrep}
    (short : ∀ hint, op.initialKeepaliveHint = some hint → hint ≤ keep) :
    Within keep now (insertPrepOp w op : Handler Pool ε Unit) :=
  .modify fun _ h => { h with hint := Table.forall_insert.mpr ⟨short, fun w op _ => h.hint w op⟩ }

theorem within_insertSnapshotOp {sandbox : SandboxId} {op : PendingSnapshot}
    (near : ∀ info, op.timerInfo = some info → info.Bounded keep now) :
    Within keep now (insertSnapshotOp sandbox op : Handler Pool ε Unit) :=
  .modify fun _ h =>
    { h with paused := Table.forall_insert.mpr ⟨near, fun sb op _ => h.paused sb op⟩ }

theorem within_takePrepOp :
    Within keep now (takePrepOp w : Handler Pool ε (Option PendingSandboxPrep)) :=
  .modifyGet fun _ h => { h with hint := Table.forall_erase h.hint }

theorem within_takeDestrOp :
    Within keep now (takeDestrOp w : Handler Pool ε (Option PendingSandboxDestr)) :=
  .modifyGet fun _ h => h.frame rfl

/-- What the entry taken out tells of the pause can be relied on. -/
theorem within_takeSnapshotOp {α : Type} {sandbox : SandboxId}
    {rest : Option PendingSnapshot → Handler Pool ε α}
    (each : ∀ op, (∀ info, op.bind (·.timerInfo) = some info → info.Bounded keep now) →
      Within keep now (rest op)) :
    Within keep now (takeSnapshotOp sandbox >>= rest) := by
  refine .take (fun _ h => { h with paused := Table.forall_erase h.paused }) fun p h => each _ ?_
  intro info paused
  obtain ⟨op, look, paused⟩ := Option.bind_eq_some_iff.mp paused
  exact h.paused sandbox op look info paused

theorem within_insertOp {op : PendingControlOp} :
    Within keep now (insertOp w op : Handler Pool ε Unit) := within_aside fun _ => rfl

theorem within_removeOp : Within keep now (removeOp w : Handler Pool ε Unit) :=
  within_aside fun _ => rfl

theorem within_insertDestrOp {op : PendingSandboxDestr} :
    Within keep now (insertDestrOp w op : Handler Pool ε Unit) := within_aside fun _ => rfl

theorem within_registeredFunction :
    Within keep now (registeredFunction f : Handler Pool ε RegisteredFunction) :=
  .inspect fun _ _ => .expect (by decide) _

theorem within_functionMemory : Within keep now (functionMemory f : Handler Pool ε ByteUnit) :=
  .bind within_registeredFunction fun _ => .pure _

theorem within_expectHandle {msg : String} (other : msg ≠ overflowPanic) :
    Within keep now (expectHandle msg w : Handler Pool ε WorkerHandle) :=
  .inspect fun _ _ => .expect other _

theorem within_deadlineOf : Within keep now (deadlineOf w : Handler Pool ε Instant) :=
  .inspect fun _ _ => .expect (by decide) _

theorem within_insertWorker {stage : Stage} : Within keep now (insertWorker stage w f) :=
  .bind within_registeredFunction fun _ => .inspect fun _ _ => .bind (within_aside fun _ => rfl)
    fun _ => .ite (fun _ => .throw _) fun _ => .pure _

theorem within_removeWorker {stage : Stage} :
    Within keep now (removeWorker stage w f : Handler Pool ε Bool) :=
  .bind within_registeredFunction fun _ => .inspect fun _ _ => .bind (within_aside fun _ => rfl)
    fun _ => .pure _

theorem within_transition {source target : Stage} {msg : String} :
    Within keep now (transition source target msg w f) := by
  refine .inspect fun p _ => ?_
  cases p.store.functions.lookup f with
  | none => exact .throw _
  | some _ =>
    refine .inspect fun p _ => .ite (fun _ => ?_) fun _ => .throw _
    exact .bind (within_aside fun _ => rfl) fun _ => within_insertWorker

theorem within_setMemoryAccounting {accounting : WorkerMemAccounting} :
    Within keep now (setMemoryAccounting w accounting : Handler Pool ε Unit) :=
  .bind (within_expectHandle (by decide)) fun _ => within_aside fun _ => rfl

theorem within_cpuAlloc : Within keep now (cpuAlloc i w : Handler Pool ε Cpu) :=
  .inspect fun _ _ => .bind (.expect (by decide) _) fun _ => .bind (within_aside fun _ => rfl) fun _ =>
    .bind (.require _ (.inr (by decide))) fun _ => .pure _

theorem within_cpuRelease : Within keep now (cpuRelease w) := by
  refine .inspect fun p _ => ?_
  dsimp only
  split
  · exact .throw _
  · exact .bind (within_aside fun _ => rfl) fun _ => .bind (.expect (by decide) _) fun _ =>
      within_aside fun _ => rfl

end Tables

section Keepalive

theorem within_sendControl {msg : Worker.ControlMessage} : Within keep now (sendControl i w msg) := by
  unfold sendControl
  apply Sustains.ite
  · exact fun _ => within_record
  · intro _
    cases msg <;> exact .throw _

theorem within_sendLast {msg : Worker.ControlMessage} : Within keep now (sendLast i w msg) :=
  .bind (within_expectHandle (by decide)) fun _ => .mapErr within_sendControl

theorem within_reclaim {amount : ByteUnit} :
    Within keep now
      (modify fun p => { p with memory := p.memory.reclaim amount } : Handler Pool ε PUnit) :=
  within_aside fun _ => rfl

theorem within_idleWorkerToDying : Within keep now (idleWorkerToDying w f) :=
  .bind (.mapErr within_transition) fun _ => .bind within_record fun _ =>
    .bind within_stopTimer fun _ => .bind within_clearDeadline fun _ =>
      .bind (within_expectHandle (by decide)) fun _ => .bind within_functionMemory fun _ =>
        .bind within_reclaim fun _ => within_setMemoryAccounting

theorem within_activeWorkerToDying : Within keep now (activeWorkerToDying w f) :=
  .bind (.mapErr within_transition) fun _ => .bind within_record fun _ =>
    .bind within_clearDeadline fun _ => .bind within_functionMemory fun _ =>
      .bind within_reclaim fun _ => within_setMemoryAccounting

theorem within_decommissionIdleWorker {functionId : Option FunctionId} :
    Within keep now (decommissionIdleWorker i w functionId) := by
  have rest (f : FunctionId) : Within keep now (do
      idleWorkerToDying w f
      sendLast i w .shutDown : PoolM Unit) :=
    .bind within_idleWorkerToDying fun _ => within_sendLast
  refine .inspect fun p _ => .ite (fun _ => ?_) fun _ => within_clearDeadline
  cases functionId with
  | some f => exact rest f
  | none => exact .bind (within_expectHandle (by decide)) fun _ => .bind (.pure _) rest

theorem within_evict {memToReclaim : ByteUnit} :
    Within keep now (evict i memToReclaim : Handler Pool ε (List (FunctionId × WorkerId))) := by
  refine .inspect fun p _ => ?_
  dsimp only
  split
  · exact .pure _
  · refine .bind (.forM fun _ _ => .bind within_functionMemory fun _ => .pure _) fun _ => ?_
    exact .ite (fun _ => .pure _) fun _ => .pure _
  · refine .bind (.forM fun _ _ => .bind within_functionMemory fun _ => ?_) fun _ => .pure _
    exact .ite (fun _ => .bind within_deadlineOf fun _ => .pure _) fun _ => .pure _

theorem within_triggerEvictionPolicy :
    Within keep now (triggerEvictionPolicy i : Handler Pool ε Unit) :=
  .inspect fun _ _ => .bind within_evict fun _ =>
    .forM fun _ _ => .bind (.attempt within_decommissionIdleWorker) fun _ => .pure _

theorem within_evictIfNeeded : Within keep now (evictIfNeeded i : Handler Pool ε Unit) :=
  .inspect fun _ _ => .ite (fun _ => within_triggerEvictionPolicy) fun _ => .pure _

theorem within_deactivateWorker {deadline : Option Instant}
    (near : ∀ t, deadline = some t → t ≤ now + keep) :
    Within keep now (deactivateWorker i w f deadline) := by
  cases deadline with
  | some deadline =>
    exact .bind (.mapErr within_transition) fun _ => .bind (within_setDeadline (near _ rfl)) fun _ =>
      .bind (within_spawnTimer (near _ rfl)) fun _ => within_record
  | none => exact .bind within_activeWorkerToDying fun _ => within_sendLast

theorem wp_addInstant_eq {at_ : Instant} {delay : Duration} {Q : Post Pool ε Instant} :
    wp (addInstant at_ delay) Q p =
      ((at_ + delay ≤ maxInstant → Q.ok (at_ + delay) p) ∧
        (¬at_ + delay ≤ maxInstant → Q.panic overflowPanic p)) := by
  simp only [addInstant, wp_bind, wp_require, wp_pure]

/-- A worker is parked until an instant that is near and exists. -/
theorem within_park {at_ : Instant} {idle : Duration} (near : at_ + idle ≤ now + keep)
    (inRange : now + keep ≤ maxInstant) : Within keep now (do
      let deadline ← addInstant at_ idle
      deactivateWorker i w f (some deadline) : PoolM Unit) := by
  unfold addInstant
  rw [bind_assoc]
  refine .bind (.require _ (.inl (near.trans inRange))) fun _ => ?_
  rw [pure_bind]
  apply within_deactivateWorker
  rintro _ ⟨⟩
  exact near

theorem within_deactivateWorkerPerKeepalive (reaches : Reaches keep i) :
    Within keep i.now (deactivateWorkerPerKeepalive i w f) := by
  unfold deactivateWorkerPerKeepalive
  cases assigned : i.assign f with
  | some idle =>
    have short := reaches.assign f idle assigned
    exact within_park (Nat.add_le_add_left short _) reaches.inRange
  | none => exact within_deactivateWorker nofun

end Keepalive

section Dispatch

theorem within_pickOrphanSnapshot :
    Within keep now (pickOrphanSnapshot f : Handler Pool ε (Option Sandbox)) := by
  refine .inspect fun p _ => ?_
  dsimp only
  split
  · exact .pure _
  · exact .bind (within_aside fun _ => rfl) fun _ => .pure _

theorem within_stashSnapshot {sandbox : Sandbox} :
    Within keep now (stashSnapshot f sandbox : Handler Pool ε Unit) := within_aside fun _ => rfl

theorem within_insertWorkerBySandbox {collision : String} {sandbox : SandboxId}
    (other : collision ≠ overflowPanic) :
    Within keep now (insertWorkerBySandbox collision sandbox w : Handler Pool ε Unit) :=
  .inspect fun _ _ => .bind (within_aside fun _ => rfl) fun _ => .require _ (.inr other)

theorem within_spawnUntrackedWorker {sandbox : Option Sandbox} {accounting : WorkerMemAccounting} :
    Within keep now (spawnUntrackedWorker i f sandbox accounting) := by
  refine .bind within_registeredFunction fun _ => ?_
  cases i.spawnError with
  | some err =>
    cases sandbox with
    | some sandbox => exact .bind within_stashSnapshot fun _ => .throw _
    | none => exact .throw _
  | none =>
    refine .bind (.inspect fun _ _ => .bind (within_aside fun _ => rfl) fun _ =>
      .require _ (.inr (by decide))) fun _ => .bind within_record fun _ => ?_
    cases sandbox with
    | some sandbox => exact .bind (within_insertWorkerBySandbox (by decide)) fun _ => .pure _
    | none => exact .pure _

theorem within_spawnNewWorker {sandbox : Option Sandbox} :
    Within keep now (spawnNewWorker i f sandbox) :=
  .bind within_spawnUntrackedWorker fun _ => .bind within_functionMemory fun _ =>
    .bind (within_aside fun _ => rfl) fun _ => .pure _

theorem within_pickIdleWorker :
    Within keep now (pickIdleWorker i f : Handler Pool ε (Option WorkerId)) :=
  .inspect fun _ _ => .bind (.forM fun _ _ => .bind within_deadlineOf fun _ => .pure _) fun _ =>
    .inspect fun _ _ => .pure _

theorem within_replyDispatch {resp : DispatchResponse} :
    Within keep now (replyDispatch i resp) :=
  .ite (fun _ => within_record) fun _ => .throw _

theorem within_deny {resp : DispatchResponse} : Within keep now (deny i resp) :=
  .mapErr within_replyDispatch

theorem within_restoreIdle {deadline : Instant} (near : deadline ≤ now + keep) :
    Within keep now (restoreIdle w f deadline) :=
  .bind (.mapErr within_transition) fun _ => .bind (within_setDeadline near) fun _ =>
    .bind (within_spawnTimer near) fun _ => .throw _

theorem within_cleanupFailedDispatch {oldDeadline : Option Instant} (reaches : Reaches keep i)
    (near : ∀ t, oldDeadline = some t → t ≤ i.now + keep) :
    Within keep i.now (cleanupFailedDispatch i w oldDeadline) := by
  refine .bind (within_expectHandle (by decide)) fun handle => .bind within_functionMemory fun _ =>
    .bind (within_aside fun _ => rfl) fun _ => .bind (.mapErr within_cpuRelease) fun _ => ?_
  cases oldDeadline with
  | some t => exact within_restoreIdle (near t rfl)
  | none =>
    have short : (i.assign handle.functionId).getD 0 ≤ keep := by
      cases assigned : i.assign handle.functionId with
      | some idle => exact reaches.assign _ idle assigned
      | none => exact Nat.zero_le keep
    have near := Nat.add_le_add_left short i.now
    unfold addInstant
    simp only [bind_assoc]
    refine .bind (.require _ (.inl (near.trans reaches.inRange))) fun _ => ?_
    rw [pure_bind]
    exact within_restoreIdle near

theorem within_assignWorker (reaches : Reaches keep i) : Within keep i.now (assignWorker i w f) := by
  refine .bind within_stopTimer fun _ => .bind (.mapErr within_insertWorker) fun _ =>
    .bind within_cpuAlloc fun _ => .bind (within_expectHandle (by decide)) fun _ =>
      .inspect fun p h => .bind within_clearDeadline fun _ => .bind (.attempt within_replyDispatch)
        fun replied => ?_
  cases replied with
  | ok _ => exact .pure _
  | error _ => exact within_cleanupFailedDispatch reaches (h.deadline w)

theorem within_dispatchToNewWorker {mode : DispatchMode} (reaches : Reaches keep i) :
    Within keep i.now (dispatchToNewWorker i f mode) := by
  refine .ite (fun _ => within_deny) fun _ => .bind within_registeredFunction fun function =>
    .inspect fun p _ => .ite (fun _ => within_deny) fun _ => .ite (fun _ => ?_) fun _ => ?_
  · exact .bind within_pickOrphanSnapshot fun _ => .bind within_spawnNewWorker fun _ =>
      .bind within_evictIfNeeded fun _ => within_assignWorker reaches
  · exact .bind within_evictIfNeeded fun _ => within_deny

theorem within_handleDispatch {mode : DispatchMode} (reaches : Reaches keep i) :
    Within keep i.now (handleDispatch i f mode) := by
  refine .inspect fun p _ => .ite (fun _ => .bind within_pickIdleWorker fun picked => ?_) fun _ =>
    within_deny
  cases picked with
  | some w =>
    exact .bind within_removeWorker fun _ => .bind (.require _ (.inr (by decide))) fun _ =>
      within_assignWorker reaches
  | none => exact within_dispatchToNewWorker reaches

end Dispatch

section Reap

theorem within_sendAll {rs : List ReplyId} {reply : Reply} :
    Within keep now (sendAll rs reply : Handler Pool ε Unit) := .forM fun _ _ => within_record

theorem within_answerFailure {E : Type} {reply : E → Reply} {request : RequestM E Unit}
    (h : Within keep now request) :
    Within keep now (answerFailure reply request : Handler Pool ε Unit) := by
  refine .bind (.attempt h) fun r => ?_
  split
  · exact .pure _
  · exact within_record
  · exact .pure _

theorem within_forWaiters {op : Option PendingSandboxDestr}
    {reply : PendingSandboxDestr → Handler Pool ε Unit} (h : ∀ op, Within keep now (reply op)) :
    Within keep now (forWaiters op reply) := by
  cases op with
  | some op => exact h op
  | none => exact .pure _

theorem within_replyDestroySuccess {op : PendingSandboxDestr} {persists : Bool} :
    Within keep now (op.replyDestroySuccess persists : Handler Pool ε Unit) :=
  .ite (fun _ => within_sendAll) fun _ => within_sendAll

theorem within_answerPrep {op : Option PendingSandboxPrep} {reply : PrepareSandboxReply} :
    Within keep now (answerPrep op reply : Handler Pool ε Unit) := by
  unfold answerPrep
  split
  · exact within_record
  · exact .pure _

theorem within_answerSnapshot {op : Option PendingSnapshot} {reply : CreateSnapshotReply} :
    Within keep now (answerSnapshot op reply : Handler Pool ε Unit) := by
  cases op with
  | some op => exact within_sendAll
  | none => exact .pure _

theorem within_finalizeControlOps {sandbox : Option SandboxId} :
    Within keep now (finalizeControlOps w sandbox : Handler Pool ε (Option PendingSandboxDestr)) := by
  have rest : Within keep now (do
      let op ← takePrepOp w
      answerPrep op (.error (.internal reapingMsg none))
      takeDestrOp w : Handler Pool ε (Option PendingSandboxDestr)) :=
    .bind within_takePrepOp fun _ => .bind within_answerPrep fun _ => within_takeDestrOp
  refine .bind within_removeOp fun _ => ?_
  cases sandbox with
  | none => exact rest
  | some sandbox =>
    exact within_takeSnapshotOp fun _ _ => .bind within_answerSnapshot fun _ => rest

theorem within_reapMemAccount {accounting : WorkerMemAccounting} {workerMem : ByteUnit} :
    Within keep now (reapMemAccount accounting workerMem : Handler Pool ε Unit) := by
  cases accounting with
  | inUse => exact .bind (within_aside fun _ => rfl) fun _ => within_record
  | reclaimed => exact .bind (within_aside fun _ => rfl) fun _ => within_record
  | uncharged => exact .pure _

theorem within_settleExit {accounting : WorkerMemAccounting} {mem : ByteUnit}
    {op : Option PendingSandboxDestr} {exit : WorkerExit} :
    Within keep now (settleExit f accounting mem op exit) := by
  have succeeds (persists : Bool) :
      Within keep now (forWaiters op fun op => op.replyDestroySuccess persists : PoolM Unit) :=
    within_forWaiters fun _ => within_replyDestroySuccess
  have fails (err : Worker.Error) :
      Within keep now (forWaiters op fun op => op.replyDestroyWorkerFailure err : PoolM Unit) :=
    within_forWaiters fun _ => within_sendAll
  obtain ⟨result, sandbox⟩ := exit
  cases result with
  | ok =>
    cases sandbox with
    | reusable sandbox =>
      exact .bind within_stashSnapshot fun _ => .bind within_reapMemAccount fun _ => succeeds _
    | none => exact .bind within_reapMemAccount fun _ => succeeds _
    | trashed sandbox => exact .panicWith (by decide)
  | error err =>
    cases sandbox with
    | reusable sandbox =>
      exact .bind within_stashSnapshot fun _ => .bind within_reapMemAccount fun _ => fails _
    | none =>
      cases err <;> first
        | exact .bind within_reapMemAccount fun _ => fails _
        | exact fails _
    | trashed sandbox => exact .bind (within_aside fun _ => rfl) fun _ => fails _

theorem within_reapHandle {handle : WorkerHandle} : Within keep now (reapHandle i w f handle) := by
  refine .bind within_clearDeadline fun _ => .bind ?_ fun _ => .bind (.attempt within_cpuRelease)
    fun _ => .bind within_finalizeControlOps fun _ => .bind within_functionMemory fun _ =>
      .bind within_record fun _ => ?_
  · cases handle.sandboxId with
    | some sandbox => exact within_aside fun _ => rfl
    | none => exact .pure _
  · cases i.exit w with
    | some exit => exact within_settleExit
    | none => exact .bind (within_forWaiters fun _ => within_sendAll) fun _ => .throw _

theorem within_takeHandle {msg : String} (other : msg ≠ overflowPanic) :
    Within keep now (takeHandle msg w : Handler Pool ε WorkerHandle) :=
  .bind (within_expectHandle other) fun _ => .bind (within_aside fun _ => rfl) fun _ => .pure _

theorem within_reapWorker : Within keep now (reapWorker i w f) := by
  refine .bind within_removeWorker fun dying => .ite (fun _ => ?_) fun _ => ?_
  · exact .bind (within_takeHandle (by decide)) fun _ => within_reapHandle
  refine .bind within_removeWorker fun active => .ite (fun _ => ?_) fun _ => ?_
  · exact .bind within_record fun _ => .bind (within_takeHandle (by decide)) fun _ =>
      within_reapHandle
  refine .inspect fun p _ => .ite (fun _ => .pure _) fun _ => .inspect fun p _ => ?_
  split
  · exact .bind (within_takeHandle (by decide)) fun _ => within_reapHandle
  · exact .pure _

end Reap

section Requests

theorem within_startingSandbox {mode : SandboxProvisioningMode} {respondTo : Option ReplyId} :
    Within keep now (startingSandbox f mode respondTo) := by
  cases mode with
  | preferSnapshot => exact within_pickOrphanSnapshot
  | requireSnapshot =>
    refine .bind within_pickOrphanSnapshot fun sandbox => ?_
    cases sandbox with
    | some _ => exact .pure _
    | none => exact .throw _
  | forceFresh => exact .pure _

theorem within_abandonPrep {err : Worker.Error} : Within keep now (abandonPrep i w f err) :=
  .bind (.attempt within_cpuRelease) fun _ => .bind within_takePrepOp fun _ =>
    .ite (fun _ => .bind (.attempt within_reapWorker) fun _ => .throw _) fun _ => .throw _

theorem within_startPrep {options : PrepareSandboxOptions} {respondTo : Option ReplyId}
    (short : ∀ hint, options.initialKeepaliveHint = some hint → hint ≤ keep) :
    Within keep now (startPrep i w f options respondTo) := by
  refine .bind (.mapErr within_insertWorker) fun _ => .bind within_cpuAlloc fun _ =>
    .bind within_insertOp fun _ => .bind (within_insertPrepOp short) fun _ =>
      .bind (within_expectHandle (by decide)) fun _ => .bind (.attempt within_sendControl)
        fun sent => ?_
  cases sent with
  | ok _ => exact .pure _
  | error err => exact within_abandonPrep

theorem within_requestSandboxPrep {options : PrepareSandboxOptions} {respondTo : Option ReplyId}
    (short : ∀ hint, options.initialKeepaliveHint = some hint → hint ≤ keep) :
    Within keep now (requestSandboxPrep i f options respondTo) := by
  refine .inspect fun p _ => .ite (fun _ => .bind within_functionMemory fun _ =>
    .bind within_startingSandbox fun sandbox => .inspect fun p _ => .ite (fun _ => ?_) fun _ => ?_)
    fun _ => .throw _
  · exact .bind (.mapErr within_spawnNewWorker) fun _ => .bind within_evictIfNeeded fun _ =>
      within_startPrep short
  · exact .bind within_evictIfNeeded fun _ => .throw _

theorem within_startDestr {options : DestroySandboxOptions} {respondTo : Option ReplyId} :
    Within keep now (startDestr i w options respondTo) := by
  have idle (f : FunctionId) (remove : Bool) : Within keep now (destroyIdleWorker i w f remove) :=
    .ite (fun _ => .bind within_idleWorkerToDying fun _ => within_sendLast) fun _ =>
      within_decommissionIdleWorker
  have active (f : FunctionId) (remove : Bool) :
      Within keep now (destroyActiveWorker i w f remove) :=
    .ite (fun _ => .bind within_activeWorkerToDying fun _ => within_sendLast) fun _ =>
      within_deactivateWorker nofun
  refine .inspect fun p _ => ?_
  split
  · exact .mapErr (idle _ _)
  · exact .ite (fun _ => .mapErr (active _ _)) fun _ => .throw _
  · exact .pure _
  · exact .throw _

theorem within_spawnDestroyer {sandbox : Sandbox} {respondTo : Option ReplyId} :
    Within keep now (spawnDestroyer i f sandbox respondTo) :=
  .bind (.mapErr within_spawnUntrackedWorker) fun _ => .bind (.mapErr within_insertWorker) fun _ =>
    .bind (within_expectHandle (by decide)) fun _ => .bind (.mapErr within_sendControl) fun _ =>
      .pure _

theorem within_destrTarget {sandboxId : SandboxId} {options : DestroySandboxOptions}
    {respondTo : Option ReplyId} : Within keep now (destrTarget i sandboxId options respondTo) := by
  refine .inspect fun p _ => ?_
  split
  · split
    · exact .pure _
    · exact .bind (.expect (by decide) _) fun _ => .bind within_insertDestrOp fun _ => .pure _
    · exact .throw _
  · refine .ite (fun _ => ?_) fun _ => .throw _
    split
    · exact .throw _
    · exact .bind (.expect (by decide) _) fun _ => .bind (within_aside fun _ => rfl) fun _ =>
        .map within_spawnDestroyer

theorem within_requestSandboxDestr {sandboxId : SandboxId} {options : DestroySandboxOptions}
    {respondTo : Option ReplyId} :
    Within keep now (requestSandboxDestr i sandboxId options respondTo) := by
  refine .bind within_destrTarget fun target => ?_
  cases target with
  | none => exact .pure _
  | some w =>
    exact .bind within_startDestr fun _ => .bind within_insertOp fun _ => within_insertDestrOp

theorem within_joinSnapshot {sandboxId : SandboxId} {respondTo : Option ReplyId} :
    Within keep now (joinSnapshot sandboxId respondTo) := by
  cases respondTo with
  | none => exact .pure _
  | some respondTo =>
    refine .inspect fun p h => .expecting (by decide) fun op look => within_insertSnapshotOp ?_
    exact h.paused sandboxId op look

theorem within_activateForSnapshot {sandboxId : SandboxId} {respondTo : Option ReplyId} :
    Within keep now (activateForSnapshot w f sandboxId respondTo) := by
  refine .bind within_removeWorker fun found => .ite (fun _ => .mapErr within_insertWorker) fun _ =>
    .inspect fun p _ => .inspect fun q _ => ?_
  split
  · exact .pure _
  · exact .throw _
  · exact .throw _

/-- The deadline is no more than `keep` ahead when it is taken away. -/
theorem within_startSnapshot {sandboxId : SandboxId} {respondTo : Option ReplyId} :
    Within keep i.now (startSnapshot i w f sandboxId respondTo) := by
  refine .bind within_stopTimer fun _ => .bind within_activateForSnapshot fun _ =>
    .inspect fun p h => .bind within_clearDeadline fun _ => .bind (within_expectHandle (by decide))
      fun _ => .bind (.mapErr within_sendControl) fun _ => .bind within_insertOp fun _ =>
        within_insertSnapshotOp ?_
  intro info paused
  obtain ⟨deadline, look, rfl⟩ := Option.map_eq_some_iff.mp paused
  exact { past := le_rfl, deadline := h.deadline w deadline look }

theorem within_requestSnapshotting {sandboxId : SandboxId} {respondTo : Option ReplyId} :
    Within keep i.now (requestSnapshotting i sandboxId respondTo) := by
  refine .inspect fun p _ => .ite (fun _ => .throw _) fun _ => ?_
  split
  · exact .throw _
  · refine .bind (within_expectHandle (by decide)) fun handle => ?_
    split
    · exact within_startSnapshot
    · exact within_joinSnapshot
    · exact .throw _
    · exact .throw _

end Requests

section Finalize

theorem within_parkPrepared (reaches : Reaches keep i) :
    Within keep i.now (parkPrepared i w f) := by
  refine .inspect fun p h => ?_
  split
  next hint hinted =>
    obtain ⟨op, look, hinted⟩ := Option.bind_eq_some_iff.mp hinted
    have short := h.hint w op look hint hinted
    exact within_park (Nat.add_le_add_left short _) reaches.inRange
  next => exact within_deactivateWorkerPerKeepalive reaches

theorem within_finalizeSandboxPreparation {resp : PrepareSandboxResult} (reaches : Reaches keep i) :
    Within keep i.now (finalizeSandboxPreparation i resp) := by
  have rest (ret : Except Error Unit) (result : PrepareSandboxReply) : Within keep i.now (do
      let op ← takePrepOp resp.workerId
      answerPrep op result
      removeOp resp.workerId
      fromExcept ret : PoolM Unit) :=
    .bind within_takePrepOp fun _ => .bind within_answerPrep fun _ => .bind within_removeOp fun _ =>
      .fromExcept _
  refine .bind (.attempt (.mapErr within_cpuRelease)) fun released => ?_
  split
  · exact .bind (.attempt (within_parkPrepared reaches)) fun _ => rest _ _
  · exact rest _ _

/-- The time of the snapshot moves the deadline no further ahead of the clock. -/
theorem PausedTimerInfo.Bounded.resumes {info : PausedTimerInfo} (h : info.Bounded keep now) :
    info.deadline + (now - info.tsPause) ≤ now + keep := by
  calc
    info.deadline + (now - info.tsPause) ≤ info.tsPause + keep + (now - info.tsPause) :=
      Nat.add_le_add_right h.deadline _
    _ = info.tsPause + (now - info.tsPause) + keep := Nat.add_right_comm ..
    _ = now + keep := by rw [Nat.add_sub_cancel' h.past]

theorem within_parkSnapshotted {paused : Option PausedTimerInfo} (reaches : Reaches keep i)
    (near : ∀ info, paused = some info → info.Bounded keep i.now) :
    Within keep i.now (parkSnapshotted i w f paused) := by
  cases paused with
  | some info => exact within_park (near info rfl).resumes reaches.inRange
  | none => exact within_deactivateWorkerPerKeepalive reaches

theorem within_finalizeSnapshotting {resp : CreateSnapshotResult} (reaches : Reaches keep i) :
    Within keep i.now (finalizeSnapshotting i resp) :=
  within_takeSnapshotOp fun _ near => .bind (.attempt (within_parkSnapshotted reaches near)) fun _ =>
    .bind within_answerSnapshot fun _ => .bind within_removeOp fun _ => .fromExcept _

theorem within_updateSandboxId {sandboxId : SandboxId} :
    Within keep now (updateSandboxId w sandboxId : Handler Pool ε Unit) :=
  .bind (within_expectHandle (by decide)) fun _ => .bind (within_aside fun _ => rfl) fun _ =>
    within_insertWorkerBySandbox (by decide)

theorem within_handleWorkerStatus {msg : OutboundMessage} (reaches : Reaches keep i) :
    Within keep i.now (handleWorkerStatus i msg) := by
  cases msg with
  | sandboxId worker sandboxId => exact within_updateSandboxId
  | needWork worker functionId =>
    refine .bind (.mapErr within_cpuRelease) fun _ => .inspect fun p _ => ?_
    split
    · exact .pure _
    · exact within_deactivateWorkerPerKeepalive reaches
  | reapMe worker functionId => exact within_reapWorker
  | sandboxPreparation resp => exact within_finalizeSandboxPreparation reaches
  | snapshotCreation resp => exact within_finalizeSnapshotting reaches

end Finalize

section Shutdown

theorem within_beginShutdown : Within keep now (beginShutdown i : Handler Pool ε Unit) := by
  have idle : Within keep now (retireAllIdle i : Handler Pool ε Unit) :=
    .inspect fun _ _ => .forM fun _ _ => .bind (.attempt within_decommissionIdleWorker) fun _ =>
      .pure _
  have active : Within keep now (retireAllActive i : Handler Pool ε Unit) :=
    .inspect fun _ _ => .forM fun _ _ => .bind
      (.attempt (.bind within_activeWorkerToDying fun _ => within_sendLast)) fun _ => .pure _
  exact .bind idle fun _ => .bind active fun _ => within_aside fun _ => rfl

theorem within_drainWorkerMessage {msg : OutboundMessage} :
    Within keep now (drainWorkerMessage i msg : Handler Pool ε Unit) := by
  cases msg with
  | sandboxId worker sandboxId => exact within_updateSandboxId
  | needWork worker functionId => exact .bind (.attempt within_cpuRelease) fun _ => .pure _
  | reapMe worker functionId => exact .bind (.attempt within_reapWorker) fun _ => .pure _
  | sandboxPreparation resp =>
    exact .bind (.attempt (.mapErr within_cpuRelease)) fun _ => .bind within_takePrepOp fun _ =>
      .bind within_answerPrep fun _ => within_removeOp
  | snapshotCreation resp =>
    exact .bind within_removeOp fun _ => within_takeSnapshotOp fun _ _ => within_answerSnapshot

theorem within_cleanupOrphans : Within keep now (cleanupOrphans i : Handler Pool ε Unit) := by
  have destroy (f : FunctionId) (sandbox : Sandbox) :
      Within keep now (destroyOrphanSandbox i f sandbox : Handler Pool ε Unit) := by
    refine .bind within_registeredFunction fun _ => ?_
    split
    · exact within_record
    · exact within_aside fun _ => rfl
    · exact within_record
  refine .inspect fun p _ => .ite (fun _ => within_record) fun _ => .inspect fun p _ => ?_
  refine .bind (within_aside fun _ => rfl) fun _ => .bind ?_ fun _ => within_record
  exact .forM fun e _ => .forM fun sandbox _ => destroy e.1 sandbox

end Shutdown

section MainLoop

theorem within_registerFunction {function : RegisteredFunction} :
    Within keep now (registerFunction f function) := by
  refine .inspect fun p _ => ?_
  split
  · exact .throw _
  · exact within_aside fun _ => rfl

theorem within_deregisterFunction : Within keep now (deregisterFunction f) := by
  refine .inspect fun p _ => ?_
  dsimp only
  split
  · exact .throw _
  · exact .ite (fun _ => .throw _) fun _ => within_aside fun _ => rfl

theorem within_serve {event : Event} (reaches : Reaches keep i) (taken : i.event = event) :
    Within keep i.now (serve i event) := by
  cases event with
  | keepaliveTimeout worker =>
    have decommission : Within keep i.now (decommissionIdleWorker i worker none) :=
      within_decommissionIdleWorker
    exact decommission
  | workerMessage msg => exact within_handleWorkerStatus reaches
  | dispatch f mode => exact within_handleDispatch reaches
  | control msg =>
    cases msg with
    | prepareSandbox f options respondTo =>
      have short := reaches.hint f options respondTo taken
      exact .bind within_record fun _ => within_answerFailure (within_requestSandboxPrep short)
    | destroySandbox target options respondTo =>
      exact .bind within_record fun _ => within_answerFailure within_requestSandboxDestr
    | listSandboxes respondTo => exact .panicWith (by decide)
    | createSnapshot sandboxId respondTo =>
      exact .bind within_record fun _ => within_answerFailure within_requestSnapshotting
  | registerFunction f function => exact .bind (.attempt within_registerFunction) fun _ => .pure _
  | deregisterFunction f => exact .bind (.attempt within_deregisterFunction) fun _ => .pure _
  | quit => exact .pure _
  | admissionClosed => exact .pure _
  | snapmanMessage => exact .pure _
  | shutdownTick => exact .pure _

theorem within_handleServing (reaches : Reaches keep i) :
    Within keep i.now (handleServing i : Handler Pool ε Unit) := by
  unfold handleServing
  split
  · exact within_beginShutdown
  · exact within_beginShutdown
  · refine .bind (.attempt (within_serve reaches rfl)) fun served => ?_
    cases served with
    | ok _ => exact .pure _
    | error _ => exact within_beginShutdown

theorem within_handleShuttingDown :
    Within keep now (handleShuttingDown i : Handler Pool ε Bool) := by
  unfold handleShuttingDown
  split
  · exact .bind (.bind (.attempt within_replyDispatch) fun _ => .pure _) fun _ => .pure _
  · exact .bind within_drainWorkerMessage fun _ => .pure _
  · refine .inspect fun p _ => .ite (fun _ => ?_) fun _ => .pure _
    exact .bind within_cleanupOrphans fun _ => .pure _
  · exact .bind (.attempt within_registerFunction) fun _ => .pure _
  · exact .bind (.attempt within_deregisterFunction) fun _ => .pure _
  all_goals exact .pure _

/-- One turn of the loop. -/
theorem within_turn (reaches : Reaches keep i) : Within keep i.now (turn i) := by
  refine .inspect fun p _ => ?_
  cases p.phase with
  | serving => exact .bind (within_handleServing reaches) fun _ => .pure _
  | shuttingDown =>
    exact .bind within_handleShuttingDown fun done => .ite (fun _ => .pure _) fun _ => .pure _

variable {config : SandboxPoolConfig} {cpus : List Cpu} {memory : MemoryStats}
  {functions : Table FunctionId RegisteredFunction} {snapshots : Table FunctionId (List Sandbox)}

theorem bounded_spawn : Bounded keep now (spawn config cpus memory functions snapshots) where
  deadline := nofun
  timer := nofun
  hint := nofun
  paused := nofun

variable (config cpus memory functions snapshots) in
/-- In a run with a clock that never goes back no worker is ever kept for more than `keep`. -/
theorem bounded_run {inputs : List Input} {horizon : Instant}
    (monotone : inputs.Pairwise fun i j => i.now ≤ j.now) (past : ∀ i ∈ inputs, i.now ≤ horizon)
    (reaches : ∀ i ∈ inputs, Reaches keep i) :
    (∀ p, run inputs (spawn config cpus memory functions snapshots) = .running p →
        Bounded keep horizon p) ∧
      ∀ p, run inputs (spawn config cpus memory functions snapshots) ≠
        .panicked overflowPanic p := by
  -- The clock stands somewhere before the inputs that are left.
  let Left (rest : List Input) (p : Pool) : Prop := ∃ now, Bounded keep now p ∧
    (∀ i ∈ rest, now ≤ i.now) ∧ now ≤ horizon ∧ rest.Pairwise (fun i j => i.now ≤ j.now) ∧
      ∀ i ∈ rest, i.now ≤ horizon ∧ Reaches keep i
  have start : Left inputs (spawn config cpus memory functions snapshots) :=
    ⟨0, bounded_spawn, fun i _ => Nat.zero_le i.now, Nat.zero_le horizon, monotone,
      fun i mem => ⟨past i mem, reaches i mem⟩⟩
  have turns (i : Input) (rest : List Input) (p : Pool) (left : Left (i :: rest) p) :
      wp (turn i) (Post.sustain (Left rest) overflowPanic) p := by
    obtain ⟨now, bounded, before, -, monotone, each⟩ := left
    obtain ⟨here, later⟩ := List.forall_mem_cons.mp each
    obtain ⟨after, monotone⟩ := List.pairwise_cons.mp monotone
    have there : Bounded keep i.now p := bounded.later (before i (by simp))
    apply wp_mono (within_turn here.2 p there)
    · exact fun _ t bounded => ⟨i.now, bounded, after, here.1, monotone, later⟩
    · exact fun e _ _ => e.elim
    · exact fun _ _ other => other
  obtain ⟨ends, never⟩ := iterate_sustains turns start
  refine ⟨fun p ran => ?_, never⟩
  obtain ⟨now, bounded, -, le, -⟩ := ends p ran
  exact bounded.later le

end MainLoop

end Pool
end Snaplace
