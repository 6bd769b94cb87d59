import Snaplace.Pool.Stepwise

/-!
# The stepwise handlers without interference

Run without interruption, each stepwise handler is the pool's handler of the same name, and a turn of
the stepwise loop is a turn of the loop. The look-ups of a function's statistics make no difference:
they follow look-ups of the same function.
-/
namespace Snaplace
open Foundation
open Worker (OutboundMessage PrepareSandboxResult CreateSnapshotResult)
open Admission (DispatchMode DispatchResponse)

namespace Pool.Stepwise
open Handler (mapErr require)
open Resumption (atomic)

variable {ε : Type} {held : List FunctionId} {i : Input} {w : WorkerId} {f : FunctionId}

theorem run_idleWorkerToDying :
    (idleWorkerToDying held w f).run = Pool.idleWorkerToDying w f := by
  simp [idleWorkerToDying, Pool.idleWorkerToDying]

theorem run_activeWorkerToDying :
    (activeWorkerToDying held w f).run = Pool.activeWorkerToDying w f := by
  simp [activeWorkerToDying, Pool.activeWorkerToDying]

theorem run_decommissionIdleWorker {functionId : Option FunctionId} :
    (decommissionIdleWorker held i w functionId).run =
      Pool.decommissionIdleWorker i w functionId := by
  cases functionId <;>
    simp [decommissionIdleWorker, Pool.decommissionIdleWorker, run_idleWorkerToDying]

theorem run_evict {memToReclaim : ByteUnit} :
    (evict held i memToReclaim : PoolS ε _).run = Pool.evict i memToReclaim := by
  unfold evict Pool.evict
  simp only [Resumption.run_bind, Resumption.run_atomic]
  congr
  funext p
  split <;> simp [*]

theorem run_evictIfNeeded : (evictIfNeeded held i : PoolS ε _).run = Pool.evictIfNeeded i := by
  simp [evictIfNeeded, Pool.evictIfNeeded, triggerEvictionPolicy, Pool.triggerEvictionPolicy,
    run_evict, run_decommissionIdleWorker]

theorem run_deactivateWorker {deadline : Option Instant} :
    (deactivateWorker held i w f deadline).run = Pool.deactivateWorker i w f deadline := by
  cases deadline <;> simp [deactivateWorker, Pool.deactivateWorker, run_activeWorkerToDying]

theorem run_deactivateWorkerPerKeepalive :
    (deactivateWorkerPerKeepalive held i w f).run = Pool.deactivateWorkerPerKeepalive i w f := by
  cases assigned : i.assign f <;>
    simp [deactivateWorkerPerKeepalive, Pool.deactivateWorkerPerKeepalive, assigned,
      run_deactivateWorker]

/-- A look-up that succeeds changes nothing. -/
theorem functionStats_bind {α : Type} {m : Handler Pool ε α} {p : Pool}
    (known : p.store.functions.lookup f ≠ none) :
    ((functionStats held f : PoolS ε Unit).run >>= fun _ => m) p = m p := by
  obtain ⟨function, known⟩ := Option.ne_none_iff_exists'.mp known
  refine Handler.bind_of_ok (a := ()) ?_
  rw [functionStats, Resumption.run_atomic, registeredFunction]
  simp only [bind_assoc]
  refine (Handler.bind_of_ok (t := p) rfl).trans ?_
  rw [known]
  rfl

theorem run_spawnNewWorker {sandbox : Option Sandbox} :
    (spawnNewWorker i f sandbox).run = Pool.spawnNewWorker i f sandbox := by
  simp only [spawnNewWorker, Pool.spawnNewWorker, Resumption.run_bind, Resumption.run_atomic,
    Resumption.run_pure, bind_assoc]
  congr
  funext worker p
  refine Handler.bind_congr_of_wp ?_
  simp only [functionMemory, registeredFunction, Handler.wp_bind, Handler.wp_get,
    Handler.wp_expect, Handler.wp_pure]
  refine ⟨fun function known => ?_, fun _ => trivial⟩
  refine (Handler.bind_of_ok rfl).trans (functionStats_bind ?_)
  simp [known]

theorem run_cleanupFailedDispatch {oldDeadline : Option Instant} :
    (cleanupFailedDispatch i w oldDeadline).run = Pool.cleanupFailedDispatch i w oldDeadline := by
  cases oldDeadline <;> simp [cleanupFailedDispatch, Pool.cleanupFailedDispatch]

theorem activate_known (p : Pool) :
    Handler.wp (activate i w f)
      { ok := fun _ t => t.store.functions.lookup f ≠ none, err := fun _ _ => True,
        panic := fun _ _ => True } p := by
  simp only [activate, stopTimer, insertActiveWorker, insertWorker, registeredFunction, cpuAlloc,
    expectHandle, clearDeadline, Handler.wp_bind, Handler.wp_mapErr, Handler.wp_modify,
    Handler.wp_get, Handler.wp_expect, Handler.wp_require, Handler.wp_ite, Handler.wp_throw,
    Handler.wp_pure]
  simp +contextual [FunctionMetadataStore.insert]

/-- The pool assigns a worker by activating it and telling admission. -/
theorem assignWorker_eq : Pool.assignWorker i w f = activate i w f >>= fun x =>
    Handler.attempt (replyDispatch i (.dispatch w x.1)) >>=
      Except.rec (fun _ => Pool.cleanupFailedDispatch i w x.2) fun _ => pure () := by
  simp only [Pool.assignWorker, activate, bind_assoc, pure_bind]
  iterate 6 refine bind_congr fun _ => ?_
  refine bind_congr fun reply => ?_
  cases reply <;> rfl

theorem run_assignWorker : (assignWorker i w f).run = Pool.assignWorker i w f := by
  rw [assignWorker_eq]
  simp only [assignWorker, Resumption.run_bind, Resumption.run_atomic, Resumption.run_attempt]
  funext p
  refine Handler.bind_congr_of_wp (Handler.wp_mono (activate_known p) ?_ (fun _ _ h => h)
    fun _ _ h => h)
  rintro ⟨cpuset, oldDeadline⟩ t known
  refine (functionStats_bind known).trans (congrFun (bind_congr fun reply => ?_) t)
  cases reply <;> simp [run_cleanupFailedDispatch]

theorem run_dispatchToNewWorker {mode : DispatchMode} :
    (dispatchToNewWorker i f mode).run = Pool.dispatchToNewWorker i f mode := by
  simp [dispatchToNewWorker, Pool.dispatchToNewWorker, run_spawnNewWorker, run_evictIfNeeded,
    run_assignWorker]

theorem run_handleDispatch {mode : DispatchMode} :
    (handleDispatch i f mode).run = Pool.handleDispatch i f mode := by
  simp only [handleDispatch, Pool.handleDispatch, Resumption.run_bind, Resumption.run_atomic,
    Resumption.run_ite]
  funext p
  refine Handler.bind_congr_of_wp ?_
  rw [Handler.wp_get]
  dsimp only
  split
  next known =>
    refine (functionStats_bind ?_).trans (congrFun (bind_congr fun picked => ?_) p)
    · simpa [functionExists, Option.isSome_iff_ne_none] using known
    cases picked <;> simp [run_dispatchToNewWorker, run_assignWorker]
  next => rfl

theorem run_reapHandle {handle : WorkerHandle} :
    (reapHandle i w f handle).run = Pool.reapHandle i w f handle := by
  cases exits : i.exit w <;> simp [reapHandle, Pool.reapHandle, exits]

theorem run_reapWorker : (reapWorker i w f).run = Pool.reapWorker i w f := by
  simp only [reapWorker, Pool.reapWorker, Resumption.run_bind, Resumption.run_atomic, bind_assoc]
  congr
  funext dying
  cases dying with
  | true => simp [run_reapHandle]
  | false =>
    simp only [Bool.false_eq_true, if_false, pure_bind, Resumption.run_bind, Resumption.run_atomic,
      bind_assoc]
    congr
    funext active
    cases active with
    | true => simp [run_reapHandle]
    | false =>
      simp only [Bool.false_eq_true, if_false, pure_bind, Resumption.run_bind,
        Resumption.run_atomic, Resumption.run_ite, Resumption.run_pure]
      funext p
      refine Handler.bind_congr_of_wp ?_
      rw [Handler.wp_get]
      dsimp only
      split
      · rfl
      · refine Eq.trans ?_ (Handler.bind_of_ok (t := p) rfl).symm
        cases handle : p.workerHandles.lookup w <;> simp [run_reapHandle]

theorem run_answerFailure {E : Type} {reply : E → Reply} {request : RequestS E Unit} :
    (answerFailure reply request : PoolS ε Unit).run = Pool.answerFailure reply request.run := by
  simp only [answerFailure, Pool.answerFailure, Resumption.run_bind, Resumption.run_attempt]
  refine bind_congr fun outcome => ?_
  cases outcome with
  | ok _ => rfl
  | error failure =>
    obtain ⟨err, _ | respondTo⟩ := failure
    · rfl
    · exact Resumption.run_atomic _ _

theorem run_abandonPrep {err : Worker.Error} :
    (abandonPrep i w f err).run = Pool.abandonPrep i w f err := by
  simp [abandonPrep, Pool.abandonPrep, run_reapWorker]

theorem run_startPrep {options : PrepareSandboxOptions} {respondTo : Option ReplyId} :
    (startPrep i w f options respondTo).run = Pool.startPrep i w f options respondTo := by
  simp only [startPrep, Pool.startPrep, Resumption.run_bind, Resumption.run_atomic,
    Resumption.run_attempt, bind_assoc, pure_bind]
  refine bind_congr fun _ => bind_congr fun cpuset => bind_congr fun _ => bind_congr fun _ =>
    bind_congr fun _ => bind_congr fun sent => ?_
  cases sent <;> simp [run_abandonPrep]

theorem run_requestSandboxPrep {options : PrepareSandboxOptions} {respondTo : Option ReplyId} :
    (requestSandboxPrep i f options respondTo).run =
      Pool.requestSandboxPrep i f options respondTo := by
  simp [requestSandboxPrep, Pool.requestSandboxPrep, run_spawnNewWorker, run_evictIfNeeded,
    run_startPrep]

theorem run_destroyIdleWorker {removeSnapshot : Bool} :
    (destroyIdleWorker i w f removeSnapshot).run =
      Pool.destroyIdleWorker i w f removeSnapshot := by
  simp [destroyIdleWorker, Pool.destroyIdleWorker, run_idleWorkerToDying,
    run_decommissionIdleWorker]

theorem run_destroyActiveWorker {removeSnapshot : Bool} :
    (destroyActiveWorker i w f removeSnapshot).run =
      Pool.destroyActiveWorker i w f removeSnapshot := by
  simp [destroyActiveWorker, Pool.destroyActiveWorker, run_activeWorkerToDying,
    run_deactivateWorker]

theorem run_startDestr {options : DestroySandboxOptions} {respondTo : Option ReplyId} :
    (startDestr i w options respondTo).run = Pool.startDestr i w options respondTo := by
  simp only [startDestr, Pool.startDestr, Resumption.run_bind, Resumption.run_atomic]
  refine bind_congr fun p => ?_
  cases findIdleWorker p w with
  | some f => simp [run_destroyIdleWorker]
  | none =>
    cases findActiveWorker p w with
    | some f => simp [run_destroyActiveWorker]
    | none => cases findDyingWorker p w <;> rfl

theorem run_destrTarget {sandboxId : SandboxId} {options : DestroySandboxOptions}
    {respondTo : Option ReplyId} :
    (destrTarget i sandboxId options respondTo).run =
      Pool.destrTarget i sandboxId options respondTo := by
  simp only [destrTarget, Pool.destrTarget, findTarget, Resumption.run_bind,
    Resumption.run_atomic, bind_assoc]
  refine bind_congr fun p => ?_
  cases p.workerBySandbox.lookup sandboxId with
  | some worker =>
    dsimp only
    cases p.pending.opByWorker.lookup worker with
    | none => rfl
    | some op =>
      cases op with
      | prepareSandbox | snapshot => rfl
      | destroySandbox => simp
  | none =>
    dsimp only
    split
    · cases findSnapshot i p sandboxId with
      | none => rfl
      | some found => simp [spawnDestroyer]
    · rfl

theorem run_requestSandboxDestr {sandboxId : SandboxId} {options : DestroySandboxOptions}
    {respondTo : Option ReplyId} :
    (requestSandboxDestr i sandboxId options respondTo).run =
      Pool.requestSandboxDestr i sandboxId options respondTo := by
  simp only [requestSandboxDestr, Pool.requestSandboxDestr, Resumption.run_bind, run_destrTarget]
  refine bind_congr fun target => ?_
  cases target <;> simp [run_startDestr]

theorem run_activateForSnapshot {sandboxId : SandboxId} {respondTo : Option ReplyId} :
    (activateForSnapshot w f sandboxId respondTo).run =
      Pool.activateForSnapshot w f sandboxId respondTo := by
  simp only [activateForSnapshot, Pool.activateForSnapshot, Resumption.run_bind,
    Resumption.run_atomic]
  refine bind_congr fun idle => ?_
  cases idle with
  | true => simp
  | false =>
    simp only [Bool.false_eq_true, if_false, Resumption.run_bind, Resumption.run_atomic]
    funext p
    refine Handler.bind_congr_of_wp ?_
    rw [Handler.wp_get]
    dsimp only
    refine Eq.trans ?_ (Handler.bind_of_ok (t := p) rfl).symm
    cases findActiveWorker p w with
    | some _ => rfl
    | none => cases findDyingWorker p w <;> rfl

theorem run_startSnapshot {sandboxId : SandboxId} {respondTo : Option ReplyId} :
    (startSnapshot i w f sandboxId respondTo).run =
      Pool.startSnapshot i w f sandboxId respondTo := by
  simp [startSnapshot, Pool.startSnapshot, run_activateForSnapshot]

theorem run_requestSnapshotting {sandboxId : SandboxId} {respondTo : Option ReplyId} :
    (requestSnapshotting i sandboxId respondTo).run =
      Pool.requestSnapshotting i sandboxId respondTo := by
  simp only [requestSnapshotting, Pool.requestSnapshotting, Resumption.run_bind,
    Resumption.run_atomic]
  refine bind_congr fun p => ?_
  split
  · rfl
  cases p.workerBySandbox.lookup sandboxId with
  | none => rfl
  | some worker =>
    simp only [Resumption.run_bind, Resumption.run_atomic]
    refine bind_congr fun handle => ?_
    cases p.pending.opByWorker.lookup worker with
    | none => simp [run_startSnapshot]
    | some op => cases op <;> simp

theorem run_handleControl {msg : PoolControlMessage} :
    (handleControl i msg : PoolS ε Unit).run = Pool.handleControl i msg := by
  cases msg <;>
    simp [handleControl, Pool.handleControl, run_answerFailure, run_requestSandboxPrep,
      run_requestSandboxDestr, run_requestSnapshotting]
  rfl

theorem run_parkPrepared : (parkPrepared i w f).run = Pool.parkPrepared i w f := by
  simp only [parkPrepared, Pool.parkPrepared, Resumption.run_bind, Resumption.run_atomic]
  refine bind_congr fun p => ?_
  split <;> simp [*, run_deactivateWorker, run_deactivateWorkerPerKeepalive]

theorem run_finalizeSandboxPreparation {resp : PrepareSandboxResult} :
    (finalizeSandboxPreparation i resp).run = Pool.finalizeSandboxPreparation i resp := by
  simp only [finalizeSandboxPreparation, Pool.finalizeSandboxPreparation, Resumption.run_bind,
    Resumption.run_atomic, Resumption.run_attempt]
  refine bind_congr fun released => ?_
  cases resp.result <;> simp [run_parkPrepared]

theorem run_parkSnapshotted {paused : Option PausedTimerInfo} :
    (parkSnapshotted i w f paused).run = Pool.parkSnapshotted i w f paused := by
  cases paused <;>
    simp [parkSnapshotted, Pool.parkSnapshotted, run_deactivateWorker,
      run_deactivateWorkerPerKeepalive]

theorem run_finalizeSnapshotting {resp : CreateSnapshotResult} :
    (finalizeSnapshotting i resp).run = Pool.finalizeSnapshotting i resp := by
  simp [finalizeSnapshotting, Pool.finalizeSnapshotting, run_parkSnapshotted]

theorem run_onNeedWork : (onNeedWork i w f).run = Pool.onNeedWork i w f := by
  simp only [onNeedWork, Pool.onNeedWork, Resumption.run_bind, Resumption.run_atomic, bind_assoc]
  refine bind_congr fun _ => bind_congr fun p => ?_
  cases p.pending.opByWorker.lookup w <;> simp [run_deactivateWorkerPerKeepalive]

theorem run_handleWorkerStatus {msg : OutboundMessage} :
    (handleWorkerStatus i msg).run = Pool.handleWorkerStatus i msg := by
  cases msg <;>
    simp [handleWorkerStatus, Pool.handleWorkerStatus, run_onNeedWork, run_reapWorker,
      run_finalizeSandboxPreparation, run_finalizeSnapshotting]

theorem run_beginShutdown : (beginShutdown i : PoolS ε Unit).run = Pool.beginShutdown i := by
  simp [beginShutdown, Pool.beginShutdown, retireAllIdle, Pool.retireAllIdle, retireAllActive,
    Pool.retireAllActive, retireActive, Pool.retireActive, run_decommissionIdleWorker,
    run_activeWorkerToDying]

theorem run_drainWorkerMessage {msg : OutboundMessage} :
    (drainWorkerMessage i msg : PoolS ε Unit).run = Pool.drainWorkerMessage i msg := by
  cases msg <;> simp [drainWorkerMessage, Pool.drainWorkerMessage, run_reapWorker]

theorem run_destroyOrphans (taken : List (FunctionId × Sandbox)) :
    (destroyOrphans i taken : PoolS ε Unit).run =
      taken.forM fun e => destroyOrphanSandbox i e.1 e.2 := by
  induction taken with
  | nil => rfl
  | cons e rest ih => simp [destroyOrphans, ih]

theorem forM_orphans (entries : List (FunctionId × List Sandbox))
    (destroy : FunctionId × Sandbox → Handler Pool ε PUnit) :
    forM (entries.flatMap fun e => e.2.map fun sandbox => (e.1, sandbox)) destroy =
      forM entries fun e => forM e.2 fun sandbox => destroy (e.1, sandbox) := by
  induction entries with
  | nil => rfl
  | cons e rest ih => simp [ih]

theorem run_cleanupOrphans : (cleanupOrphans i : PoolS ε Unit).run = Pool.cleanupOrphans i := by
  simp only [cleanupOrphans, Pool.cleanupOrphans, Resumption.run_bind, Resumption.run_atomic,
    Resumption.run_ite, bind_assoc, run_destroyOrphans]
  refine bind_congr fun p => ?_
  split
  · rfl
  refine bind_congr fun q => bind_congr fun _ => ?_
  simp only [pure_bind, orphans, List.forM_eq_forM, forM_orphans]

/-- The registrar's events are not the pool's. -/
def Event.OfPool : Event → Prop
  | .registerFunction .. | .deregisterFunction _ => False
  | _ => True

theorem run_serve {event : Event} (own : Event.OfPool event) :
    (serve i event).run = Pool.serve i event := by
  cases event with
  | registerFunction functionId function => exact own.elim
  | deregisterFunction functionId => exact own.elim
  | _ => simp [serve, Pool.serve, run_decommissionIdleWorker, run_handleWorkerStatus,
      run_handleDispatch, run_handleControl]

theorem run_handleServing (own : Event.OfPool i.event) :
    (handleServing i : PoolS ε Unit).run = Pool.handleServing i := by
  unfold handleServing Pool.handleServing
  cases event : i.event with
  | quit | admissionClosed => exact run_beginShutdown
  | _ =>
    simp only [Resumption.run_bind, Resumption.run_attempt, run_serve (event ▸ own)]
    refine bind_congr fun served => ?_
    cases served <;> simp [run_beginShutdown]

theorem run_handleShuttingDown (own : Event.OfPool i.event) :
    (handleShuttingDown i : PoolS ε Bool).run = Pool.handleShuttingDown i := by
  unfold handleShuttingDown Pool.handleShuttingDown
  match event : i.event with
  | .dispatch .. => simp
  | .workerMessage msg => simp [run_drainWorkerMessage]
  | .shutdownTick => simp [run_cleanupOrphans]
  | .registerFunction .. | .deregisterFunction _ => simp [event, Event.OfPool] at own
  | .quit | .keepaliveTimeout _ | .snapmanMessage | .control _ | .admissionClosed => rfl

/-- A turn without interference is a turn of the loop. -/
theorem run_turn (own : Event.OfPool i.event) : (turn i).run = Pool.turn i := by
  simp only [turn, Pool.turn, Resumption.run_bind, Resumption.run_atomic]
  refine bind_congr fun p => ?_
  cases p.phase <;> simp [run_handleServing own, run_handleShuttingDown own]

end Pool.Stepwise
end Snaplace
