import Snaplace.Pool.Cap
import Snaplace.Pool.RequestSteps

/-!
# A turn of the pool is a sequence of moves

The messages of the workers, the shutdown, and with them every turn of the loop: from a pool whose
workers are partitioned into the three sets, a turn makes only moves and leaves nothing in hand. So
the partition holds between any two events of a run, and after every move in between, which is why
none of the assertions on the sets can fail.
-/
namespace Snaplace
open Foundation Foundation.Handler
open Worker (OutboundMessage PrepareSandboxResult CreateSnapshotResult)
open Admission (DispatchMode DispatchResponse)

namespace Pool
variable {ε α : Type} {d : Defect → Prop} {i : Input} {m : Moment} {f : FunctionId} {w : WorkerId}

/-- Only moves, of which one may have released the cpuset of the worker whose message this is. -/
def completes (d : Defect → Prop) (i : Input) (m : Moment) : Post Pool ε α where
  ok _ t := ∃ released, Moves d i m { m with pool := t, released }
  err _ t := ∃ released, Moves d i m { m with pool := t, released }
  panic msg _ := msg ∉ setPanics

theorem completes_of_evolves {x : Handler Pool ε α} {s : Pool} (h : wp x (evolves d i m) s) :
    wp x (completes d i m) s :=
  wp_mono h (fun _ _ moved => ⟨m.released, moved⟩) (fun _ _ moved => ⟨m.released, moved⟩)
    fun _ _ other => other

section Complete

theorem attemptRelease_spec {Q : Post Pool ε (Except Error Unit)}
    (about : i.event.worker = some w)
    (ok : ∀ r released cpuset, Moves d i m { m with pool := { m.pool with cpuset }, released } →
      Q.ok r { m.pool with cpuset }) (panic : ∀ msg t, msg ∉ setPanics → Q.panic msg t) :
    wp (attempt (releaseForPrep w)) Q m.pool := by
  simp only [releaseForPrep, wp_attempt, wp_mapErr]
  refine wp_cpuRelease (fun cpu cpuset held free => ?_) (fun _ e => ?_) panic
  · exact ok _ true cpuset (.one (.release w cpu cpuset about held free))
  · exact ok _ m.released m.pool.cpuset .refl

/-- The preparation of the worker is over: its waiter is told, and the worker is unmarked. -/
theorem Moves.closePrep (closing : m.closing = some w) (about : i.event.worker = some w)
    (alive : ∀ f, i.event ≠ .workerMessage (.reapMe w f))
    (other : ∀ resp, i.event ≠ .workerMessage (.snapshotCreation resp))
    (reply : PrepareSandboxReply) :
    Moves d i m
      { m with
        closing := none
        pool :=
          { m.pool with
            pending :=
              { m.pool.pending with
                opByWorker := m.pool.pending.opByWorker.erase w
                sandboxPreps := m.pool.pending.sandboxPreps.erase w }
            log := m.pool.log ++ Pool.answers (prepWaiters m.pool w) (.prepareSandbox reply) } } :=
  ((Moves.endPrep closing).trans (Moves.answers (.prepareSandbox reply) rfl)).tail
    (.unmark w closing about alive (by simp) fun resp on => absurd on (other resp))

theorem parkPrepared_spec (h : Partition m) (reason : ParkReason i m w) :
    wp (parkPrepared i w f) (leads d i m) m.pool := by
  simp only [parkPrepared, wp_bind, wp_get]
  split
  · rw [wp_bind]
    exact wp_addInstant (fun _ => park_spec h reason) overflow_other
  · exact deactivateWorkerPerKeepalive_spec h reason

theorem parkSnapshotted_spec (h : Partition m) (reason : ParkReason i m w)
    {timerInfo : Option PausedTimerInfo} :
    wp (parkSnapshotted i w f timerInfo) (leads d i m) m.pool := by
  cases timerInfo with
  | some paused =>
    simp only [parkSnapshotted, wp_bind]
    exact wp_addInstant (fun _ => park_spec h reason) overflow_other
  | none => exact deactivateWorkerPerKeepalive_spec h reason

/-- The end of a completed preparation. -/
theorem wp_closePrep {t : Pool} {released : Bool} {ret : Except Error Unit}
    {reply : PrepareSandboxReply} (settled : m.closing = none) (about : i.event.worker = some w)
    (alive : ∀ f, i.event ≠ .workerMessage (.reapMe w f))
    (other : ∀ resp, i.event ≠ .workerMessage (.snapshotCreation resp))
    (moved : Moves d i m { m with pool := t, closing := some w, released }) :
    wp (do
        let op ← takePrepOp w
        answerPrep op reply
        removeOp w
        fromExcept ret)
      (completes d i m) t := by
  simp only [wp_bind, takePrepOp, removeOp, wp_modifyGet, wp_answerPrep, wp_modify, wp_fromExcept]
  have all := moved.trans (Moves.closePrep rfl about alive other reply)
  simp only [← settled] at all
  exact ⟨fun _ _ => ⟨released, all⟩, fun _ _ => ⟨released, all⟩⟩

theorem finalizeSandboxPreparation_spec {resp : PrepareSandboxResult} (h : Partition m)
    (settled : m.closing = none) (on : i.event = .workerMessage (.sandboxPreparation resp)) :
    wp (finalizeSandboxPreparation i resp) (completes d i m) m.pool := by
  have about : i.event.worker = some resp.workerId := by
    simp [on, Event.worker, OutboundMessage.worker]
  have alive (f : FunctionId) : i.event ≠ .workerMessage (.reapMe resp.workerId f) := by simp [on]
  have quiet (r : CreateSnapshotResult) : i.event ≠ .workerMessage (.snapshotCreation r) := by
    simp [on]
  have closing := Move.close (d := d) (m := m) resp.workerId (.prepared on rfl) settled
  unfold finalizeSandboxPreparation
  rw [wp_bind]
  refine attemptRelease_spec (d := d) (m := { m with closing := some resp.workerId }) about
    (fun released' released cpuset moved => ?_) fun _ _ other => other
  have moved := (Moves.one closing).trans moved
  cases result : resp.result with
  | ok prepared =>
    change wp (attempt (parkPrepared i resp.workerId resp.functionId) >>= _) _ _
    rw [wp_bind, wp_attempt]
    refine wp_mono (parkPrepared_spec (d := d) (h.moves moved) (.prepared on rfl result rfl)) ?_ ?_
      fun _ _ other => other
    · intro _ t parked
      exact wp_closePrep settled about alive quiet (moved.trans parked.1)
    · intro e t parked
      exact wp_closePrep settled about alive quiet (moved.trans parked.1)
  | error dscr => exact wp_closePrep settled about alive quiet moved

theorem finalizeSandboxPreparationDuringShutdown_spec {resp : PrepareSandboxResult}
    (settled : m.closing = none) (on : i.event = .workerMessage (.sandboxPreparation resp)) :
    wp (ε := ε) (finalizeSandboxPreparationDuringShutdown resp) (completes d i m) m.pool := by
  have about : i.event.worker = some resp.workerId := by
    simp [on, Event.worker, OutboundMessage.worker]
  have alive (f : FunctionId) : i.event ≠ .workerMessage (.reapMe resp.workerId f) := by simp [on]
  have quiet (r : CreateSnapshotResult) : i.event ≠ .workerMessage (.snapshotCreation r) := by
    simp [on]
  have closing := Move.close (d := d) (m := m) resp.workerId (.prepared on rfl) settled
  simp only [finalizeSandboxPreparationDuringShutdown]
  rw [wp_bind]
  refine attemptRelease_spec (d := d) (m := { m with closing := some resp.workerId }) about
    (fun _ released cpuset moved => ?_) fun _ _ other => other
  have moved := (Moves.one closing).trans moved
  have all (reply : PrepareSandboxReply) := moved.trans
    (Moves.closePrep rfl about alive quiet reply)
  simp only [← settled] at all
  simp only [wp_bind, takePrepOp, removeOp, wp_modifyGet, wp_answerPrep, wp_modify]
  exact ⟨released, all _⟩

/-- The snapshot of the worker is over, after the waiters have been taken out. -/
theorem Moves.closeSnapshot {waiters : List ReplyId} {rest : List ReplyId}
    (closing : m.closing = some w) (about : i.event.worker = some w)
    (alive : ∀ f, i.event ≠ .workerMessage (.reapMe w f))
    (other : ∀ resp, i.event ≠ .workerMessage (.sandboxPreparation resp))
    (taken : ∀ resp, i.event = .workerMessage (.snapshotCreation resp) →
      m.pool.pending.snapshots.lookup resp.sandboxId = none) (reply : CreateSnapshotReply)
    (waits : m.waiters = waiters ++ rest) :
    Moves d i m
      { m with
        closing := none
        waiters := rest
        pool :=
          { m.pool with
            pending :=
              { m.pool.pending with opByWorker := m.pool.pending.opByWorker.erase w }
            log := m.pool.log ++ Pool.answers waiters (.createSnapshot reply) } } :=
  (Moves.answers (.createSnapshot reply) waits).tail
    (.unmark w closing about alive (fun resp on => absurd on (other resp)) taken)

theorem finalizeSnapshotting_spec {resp : CreateSnapshotResult} (h : Partition m)
    (settled : m.closing = none) (on : i.event = .workerMessage (.snapshotCreation resp)) :
    wp (finalizeSnapshotting i resp) (completes d i m) m.pool := by
  have about : i.event.worker = some resp.workerId := by
    simp [on, Event.worker, OutboundMessage.worker]
  have alive (f : FunctionId) : i.event ≠ .workerMessage (.reapMe resp.workerId f) := by simp [on]
  have closing := Move.close (d := d) (m := m) resp.workerId (.snapshotted on rfl) settled
  have quiet (r : PrepareSandboxResult) : i.event ≠ .workerMessage (.sandboxPreparation r) := by
    simp [on]
  have taken := (Moves.one closing).trans (Moves.endSnapshot rfl (.reported on rfl rfl))
  have finish {n : Pool} {ret : Except Error Unit} {reply : CreateSnapshotReply}
      (erased : n.pending.snapshots = m.pool.pending.snapshots.erase resp.sandboxId)
      (parked : Moves d i m
        { m with
          pool := n
          closing := some resp.workerId
          waiters := snapshotWaiters m.pool (some resp.sandboxId) ++ m.waiters }) :
      wp (do
          answerSnapshot (m.pool.pending.snapshots.lookup resp.sandboxId) reply
          removeOp resp.workerId
          fromExcept ret)
        (completes d i m) n := by
    simp only [wp_bind, removeOp, wp_answerSnapshot, wp_modify, wp_fromExcept]
    have all := parked.trans (Moves.closeSnapshot rfl about alive quiet (by simp [on, erased])
      reply rfl)
    simp only [← settled] at all
    exact ⟨fun _ _ => ⟨m.released, all⟩, fun _ _ => ⟨m.released, all⟩⟩
  simp only [finalizeSnapshotting, takeSnapshotOp]
  rw [wp_bind, wp_modifyGet]
  dsimp only
  rw [wp_bind, wp_attempt]
  refine wp_mono (parkSnapshotted_spec (d := d) (h.moves taken) (.snapshotted on rfl rfl)) ?_ ?_
    fun _ _ other => other
  · intro _ t parked
    exact finish (by rw [parked.2]) (taken.trans parked.1)
  · intro e t parked
    exact finish (by rw [parked.2]) (taken.trans parked.1)

theorem finalizeSnapshottingDuringShutdown_spec {resp : CreateSnapshotResult}
    (settled : m.closing = none) (on : i.event = .workerMessage (.snapshotCreation resp)) :
    wp (ε := ε) (finalizeSnapshottingDuringShutdown resp) (completes d i m) m.pool := by
  have about : i.event.worker = some resp.workerId := by
    simp [on, Event.worker, OutboundMessage.worker]
  have alive (f : FunctionId) : i.event ≠ .workerMessage (.reapMe resp.workerId f) := by simp [on]
  have closing := Move.close (d := d) (m := m) resp.workerId (.snapshotted on rfl) settled
  have quiet (r : PrepareSandboxResult) : i.event ≠ .workerMessage (.sandboxPreparation r) := by
    simp [on]
  have taken := (Moves.one closing).trans (Moves.endSnapshot rfl (.reported on rfl rfl))
  simp only [finalizeSnapshottingDuringShutdown, wp_bind, removeOp, takeSnapshotOp, wp_modifyGet,
    wp_answerSnapshot, wp_modify]
  have all (reply : CreateSnapshotReply) :=
    taken.trans (Moves.closeSnapshot rfl about alive quiet (by simp [on]) reply rfl)
  simp only [← settled] at all
  exact ⟨m.released, all _⟩

end Complete

section Status

/-- A worker that asks to be reaped names its own function. -/
def NamesOwn (i : Input) (p : Pool) : Prop :=
  ∀ w f, i.event = .workerMessage (.reapMe w f) → ∀ f', functionOf p w = some f' → f' = f

theorem updateSandboxId_spec {sandbox : SandboxId}
    (on : i.event = .workerMessage (.sandboxId w sandbox)) :
    wp (ε := ε) (updateSandboxId w sandbox) (evolves d i m) m.pool := by
  have missing : "Worker exists; just sent message" ∉ setPanics := by decide
  have collision : announceCollision ∉ setPanics := by decide
  simp only [updateSandboxId, expectHandle, insertWorkerBySandbox, wp_bind, wp_get, wp_expect,
    wp_modify, wp_require]
  refine ⟨fun handle look => ⟨fun unowned => ?_, fun _ => collision⟩, fun _ => missing⟩
  exact .one (.announce w sandbox handle on look unowned)

theorem onNeedWork_spec (h : Partition m) (on : i.event = .workerMessage (.needWork w f)) :
    wp (onNeedWork i w f) (completes d i m) m.pool := by
  have about : i.event.worker = some w := by simp [on, Event.worker, OutboundMessage.worker]
  simp only [onNeedWork, wp_bind, wp_mapErr]
  refine wp_cpuRelease (fun cpu cpuset held free => ?_) (fun _ _ => ⟨m.released, .refl⟩)
    fun _ _ other => other
  have moved := Moves.one (.release (d := d) w cpu cpuset about held free)
  simp only [wp_get]
  cases look : m.pool.pending.opByWorker.lookup w with
  | some op =>
    simp only [wp_pure]
    exact ⟨true, moved⟩
  | none =>
    refine wp_mono (deactivateWorkerPerKeepalive_spec (d := d) (h.moves moved)
      (.served on rfl look)) ?_ ?_ fun _ _ other => other
    · exact fun _ t parked => ⟨true, moved.trans parked.1⟩
    · exact fun _ t parked => ⟨true, moved.trans parked.1⟩

variable (allows : Allows d i m.pool) (settled : m.starting = none) (closed : m.closing = none)
  (own : NamesOwn i m.pool)
include allows settled closed own

theorem handleWorkerStatus_spec (h : Partition m) {msg : OutboundMessage}
    (on : i.event = .workerMessage msg) :
    wp (handleWorkerStatus i msg) (completes d i m) m.pool := by
  cases msg with
  | sandboxId w sandbox => exact completes_of_evolves (updateSandboxId_spec on)
  | needWork w f => exact onNeedWork_spec h on
  | reapMe w f =>
    have about : i.event.worker = some w := by simp [on, Event.worker, OutboundMessage.worker]
    exact completes_of_evolves (reapWorker_spec h settled closed (.reaped f on) (own w f on)
      fun _ _ failed => .inr (allows.joinFailed w failed (.inl about)))
  | sandboxPreparation resp => exact finalizeSandboxPreparation_spec h closed on
  | snapshotCreation resp => exact finalizeSnapshotting_spec h closed on

theorem drainWorkerMessage_spec (h : Partition m) {msg : OutboundMessage}
    (on : i.event = .workerMessage msg) :
    wp (ε := ε) (drainWorkerMessage i msg) (completes d i m) m.pool := by
  cases msg with
  | sandboxId w sandbox => exact completes_of_evolves (updateSandboxId_spec on)
  | needWork w f =>
    have about : i.event.worker = some w := by simp [on, Event.worker, OutboundMessage.worker]
    simp only [drainWorkerMessage, wp_bind, wp_attempt, wp_pure]
    refine wp_cpuRelease (fun cpu cpuset held free => ?_) (fun _ _ => ⟨m.released, .refl⟩)
      fun _ _ other => other
    exact ⟨true, .one (.release w cpu cpuset about held free)⟩
  | reapMe w f =>
    have about : i.event.worker = some w := by simp [on, Event.worker, OutboundMessage.worker]
    simp only [drainWorkerMessage, wp_bind, wp_attempt, wp_pure]
    refine wp_mono (reapWorker_spec (d := d) h settled closed (.reaped f on) (own w f on)
      fun _ _ failed => .inr (allows.joinFailed w failed (.inl about))) ?_ ?_ fun _ _ other => other
    · exact fun _ t moved => ⟨m.released, moved⟩
    · exact fun _ t moved => ⟨m.released, moved⟩
  | sandboxPreparation resp => exact finalizeSandboxPreparationDuringShutdown_spec closed on
  | snapshotCreation resp => exact finalizeSnapshottingDuringShutdown_spec closed on

end Status

section Shutdown

theorem decommissionIdleWorker_missing (h : Partition m) (missing : ¬At m.pool .idle f w) :
    wp (decommissionIdleWorker i w (some f))
      { ok := fun _ t => t = m.pool, err := fun _ t => t = m.pool } m.pool := by
  simp only [decommissionIdleWorker, wp_bind, wp_get, wp_ite, wp_pure]
  refine ⟨fun _ => ?_, fun awake => ?_⟩
  · exact wp_mono (idleWorkerToDying_missing h missing) (fun _ _ absurd => absurd.elim)
      (fun _ _ same => same) fun _ _ absurd => absurd.elim
  · simp only [Pool.clearDeadline, wp_modify, h.clearDeadline awake]

/-- A loop that makes all workers of a set Dying. -/
theorem retireAll_spec (h : Partition m) (stage : Stage) (live : stage ≠ .dying)
    {body : FunctionId → WorkerId → PoolM Unit}
    (member : ∀ f w t, Partition { m with pool := t } → At t stage f w →
      wp (body f w) (retires d i { m with pool := t } f w) t)
    (missing : ∀ f w t, Partition { m with pool := t } → ¬At t stage f w →
      wp (body f w) { ok := fun _ u => u = t, err := fun _ u => u = t } t) :
    wp (ε := ε) ((iterWorkers i stage m.pool).forM fun k => do let _ ← attempt (body k.1 k.2))
      { ok := fun _ t => Moves d i m { m with pool := t } ∧ (∀ f w, ¬At t stage f w) ∧
          ∀ other f w, other ≠ .dying → At t other f w → At m.pool other f w
        err := fun _ _ => False
        panic := fun msg _ => msg ∉ setPanics } m.pool := by
  refine wp_forM_rest (I := fun rest t => Moves d i m { m with pool := t } ∧
      (∀ f w, At t stage f w → (f, w) ∈ rest) ∧
      ∀ other f w, other ≠ .dying → At t other f w → At m.pool other f w) ?_ ?_ ?_
  · exact ⟨.refl, fun f w here => mem_iterWorkers.mpr here, fun _ _ _ _ here => here⟩
  · rintro t ⟨moved, left, before⟩
    exact ⟨moved, fun f w here => by simpa using left f w here, before⟩
  · rintro ⟨f, w⟩ rest t - ⟨moved, left, before⟩
    have parts := h.moves moved
    have gone {u : Pool} (more : Moves d i { m with pool := t } { m with pool := u })
        (retired : Retired t u f w) : Moves d i m { m with pool := u } ∧
        (∀ f' w', At u stage f' w' → (f', w') ∈ rest) ∧
        ∀ other f' w', other ≠ .dying → At u other f' w' → At m.pool other f' w' := by
      refine ⟨moved.trans more, fun f' w' here => ?_, fun other f' w' alive here => ?_⟩
      · have := left f' w'
        have := retired stage f' w'
        grind
      · have := before other f' w' alive
        have := retired other f' w'
        grind
    simp only [wp_bind, wp_attempt, wp_pure]
    by_cases here : At t stage f w
    · exact wp_mono (member f w t parts here) (fun _ u post => gone post.1 post.2.2)
        (fun _ u post => gone post.1 post.2.2) fun _ _ other => other
    · have still : ∀ f' w', At t stage f' w' → (f', w') ∈ rest := by
        intro f' w' there
        have := left f' w' there
        grind
      refine wp_mono (missing f w t parts here) ?_ ?_ fun _ _ absurd => absurd.elim
      · rintro - u rfl
        exact ⟨moved, still, before⟩
      · rintro e u rfl
        exact ⟨moved, still, before⟩

theorem beginShutdown_spec (h : Partition m) :
    wp (ε := ε) (beginShutdown i)
      { ok := fun _ t => (∃ failing, Moves d i m { m with pool := t, failing }) ∧
          ∀ f w, ¬At t .idle f w ∧ ¬At t .active f w
        err := fun _ _ => False
        panic := fun msg _ => msg ∉ setPanics } m.pool := by
  simp only [beginShutdown, retireAllIdle, retireAllActive, wp_bind, wp_get]
  refine wp_mono (retireAll_spec (d := d) h .idle (by decide)
    (fun f w t parts here => decommissionIdleWorker_idle parts here)
    fun f w t parts absent => decommissionIdleWorker_missing parts absent) ?_
    (fun _ _ absurd => absurd.elim) fun _ _ other => other
  rintro - t ⟨moved, noIdle, -⟩
  refine wp_mono (retireAll_spec (d := d) (m := { m with pool := t }) (h.moves moved)
    .active (by decide)
    (fun f w u parts here => retire_spec parts (.inl rfl) (activeWorkerToDying_spec parts here))
    fun f w u parts absent => ?_) ?_ (fun _ _ absurd => absurd.elim) fun _ _ other => other
  · refine wp_seq (activeWorkerToDying_missing parts absent) (fun _ _ absurd => absurd.elim)
      (fun _ _ same => same) fun _ _ absurd => absurd.elim
  · rintro - u ⟨more, noActive, before⟩
    have all := moved.trans more
    have retired (f : FunctionId) (w : WorkerId) : ¬At u .idle f w ∧ ¬At u .active f w :=
      ⟨fun idle => noIdle f w (before .idle f w (by decide) idle), noActive f w⟩
    match phase : u.phase with
    | .serving => exact ⟨⟨false, all.tail (.shutDown phase retired)⟩, retired⟩
    | .shuttingDown =>
      have same : { u with phase := .shuttingDown } = u := by rw [← phase]
      simp only [wp_modify, same]
      exact ⟨⟨m.failing, all⟩, retired⟩

theorem rejectDispatch_spec {mode : DispatchMode} (on : i.event = .dispatch f mode) :
    wp (ε := ε) (rejectDispatch i) (evolves d i m) m.pool := by
  simp only [rejectDispatch, replyDispatch, wp_bind, wp_attempt, wp_ite, record, wp_modify, wp_throw,
    wp_pure]
  exact ⟨fun waits => .one (.deny f mode _ on waits fun _ _ => DispatchResponse.noConfusion), fun _ => .refl⟩

end Shutdown

section Turn

theorem registerFunction_spec {function : RegisteredFunction} :
    wp (registerFunction f function) (evolves d i m) m.pool := by
  simp only [registerFunction, wp_bind, wp_get]
  cases known : m.pool.store.functions.lookup f with
  | some _ =>
    simp only [wp_throw]
    exact .refl
  | none =>
    simp only [wp_modify]
    exact .one (.register f function known)

theorem numWorkers_eq_zero {stage : Stage} {p : Pool} :
    numWorkers stage p f = 0 ↔ ∀ w, ¬At p stage f w := by
  simp only [numWorkers, List.countP_eq_zero, decide_eq_true_eq]
  constructor
  · intro empty w member
    obtain ⟨e, mem, key⟩ : ∃ e ∈ (p.store.workers stage).entries, e.1 = (f, w) :=
      List.mem_map.mp member
    exact empty e mem (by rw [key])
  · rintro empty ⟨⟨f', w⟩, u⟩ mem rfl
    exact empty w (List.mem_map.mpr ⟨_, mem, rfl⟩)

theorem deregisterFunction_spec (settled : m.starting = none) :
    wp (deregisterFunction f) (evolves d i m) m.pool := by
  simp only [deregisterFunction, wp_bind, wp_get]
  cases m.pool.store.functions.lookup f with
  | none =>
    simp only [wp_throw]
    exact .refl
  | some _ =>
    simp only [wp_ite, wp_throw, wp_modify]
    refine ⟨fun _ => .refl, fun unused => .one (.deregister f settled fun stage w => ?_)⟩
    have none : numWorkers stage m.pool f = 0 := by cases stage <;> omega
    exact numWorkers_eq_zero.mp none w

/-- What one event does to the pool between two events. -/
def Turned (d : Defect → Prop) (i : Input) (p t : Pool) : Prop :=
  ∃ released failing, Moves d i (.top p) { Moment.top t with released, failing }

theorem Partition.turned {p t : Pool} (h : Partition (.top p)) (turned : Turned d i p t) :
    Partition (.top t) := by
  obtain ⟨released, failing, moved⟩ := turned
  have parts := h.moves moved
  exact ⟨parts.registered, parts.staged, parts.single, parts.tracked, parts.started, parts.timers,
    parts.deadlines, parts.marked⟩

/-- Only a turn's moves, and none of the assertions on the sets has failed. -/
def turns (d : Defect → Prop) (i : Input) (p : Pool) : Post Pool ε α where
  ok _ t := Turned d i p t
  err _ t := Turned d i p t
  panic msg _ := msg ∉ setPanics

theorem turns_of_completes {p : Pool} {x : Handler Pool ε α}
    (h : wp x (completes d i (.top p)) p) : wp x (turns d i p) p :=
  wp_mono h (fun _ _ ⟨released, moved⟩ => ⟨released, false, moved⟩)
    (fun _ _ ⟨released, moved⟩ => ⟨released, false, moved⟩) fun _ _ other => other

theorem turns_of_evolves {p : Pool} {x : Handler Pool ε α}
    (h : wp x (evolves d i (.top p)) p) : wp x (turns d i p) p :=
  turns_of_completes (completes_of_evolves h)

variable {p : Pool} (allows : Allows d i p) (own : NamesOwn i p)
include allows own

theorem serve_spec (h : Partition (.top p)) {event : Event} (on : i.event = event) :
    wp (serve i event) (turns d i p) p := by
  cases event with
  | keepaliveTimeout w =>
    have spec : wp (decommissionIdleWorker i w none) (leads d i (.top p)) p :=
      decommissionIdleWorker_spec h
    exact turns_of_evolves (wp_mono spec (fun _ _ post => post.1) (fun _ _ post => post.1)
      fun _ _ other => other)
  | workerMessage msg => exact turns_of_completes (handleWorkerStatus_spec (m := .top p) allows rfl rfl own h on)
  | dispatch f mode =>
    refine wp_mono (handleDispatch_spec (d := d) h rfl on (allows.overcharge f)
      (allows.lostHandover f mode on)) ?_ ?_ fun _ _ other => other
    · exact fun _ t moved => ⟨false, false, moved⟩
    · exact fun _ t ⟨failing, moved⟩ => ⟨false, failing, moved⟩
  | control msg => exact turns_of_evolves (handleControl_spec (m := .top p) h allows rfl rfl on)
  | registerFunction f function =>
    simp only [serve, wp_bind, wp_attempt, wp_pure]
    exact wp_mono (registerFunction_spec (m := .top p)) (fun _ t moved => ⟨false, false, moved⟩)
      (fun _ t moved => ⟨false, false, moved⟩) fun _ _ other => other
  | deregisterFunction f =>
    simp only [serve, wp_bind, wp_attempt, wp_pure]
    exact wp_mono (deregisterFunction_spec (m := .top p) rfl)
      (fun _ t moved => ⟨false, false, moved⟩) (fun _ t moved => ⟨false, false, moved⟩)
      fun _ _ other => other
  | quit | admissionClosed | snapmanMessage | shutdownTick => exact ⟨false, false, .refl⟩

omit allows own in
/-- After a turn's moves, the beginning of the shutdown. -/
theorem beginShutdown_turned {t : Pool} (h : Partition (.top p)) (turned : Turned d i p t) :
    wp (ε := ε) (beginShutdown i) (turns d i p) t := by
  obtain ⟨released, failing, moved⟩ := turned
  refine wp_mono (beginShutdown_spec (d := d) (i := i) (h.moves moved)) ?_
    (fun _ _ absurd => absurd.elim) fun _ _ other => other
  rintro - u ⟨⟨failing', more⟩, -⟩
  exact ⟨released, failing', moved.trans more⟩

theorem handleServing_spec (h : Partition (.top p)) :
    wp (ε := ε) (handleServing i) (turns d i p) p := by
  have shutdown := beginShutdown_turned (ε := ε) (d := d) (i := i) h ⟨false, false, .refl⟩
  unfold handleServing
  cases on : i.event with
  | quit | admissionClosed => exact shutdown
  | _ =>
    rw [wp_bind, wp_attempt]
    refine wp_mono (serve_spec allows own h on) (fun _ _ turned => turned) ?_ fun _ _ other => other
    exact fun _ t turned => beginShutdown_turned h turned

/-- Only a turn's moves, unless the pool is done. -/
def lasts (d : Defect → Prop) (i : Input) (p : Pool) : Post Pool ε Bool where
  ok over_ t := over_ = false → Turned d i p t
  err _ _ := True
  panic msg _ := msg ∉ setPanics

omit allows own in
theorem wp_cleanupOrphans {t : Pool} {Q : Post Pool ε Unit} (ok : ∀ u, Q.ok () u)
    (panic : ∀ msg u, msg ∉ setPanics → Q.panic msg u) : wp (cleanupOrphans i) Q t := by
  have missing : functionPanic ∉ setPanics := by decide
  simp only [cleanupOrphans, wp_bind, wp_get, wp_ite, record, wp_modify]
  refine ⟨fun _ => ok _, fun _ => ?_⟩
  refine wp_forM (I := fun _ => True) trivial (fun _ _ => ok _) fun e _ u _ => ?_
  refine wp_forM (I := fun _ => True) trivial (fun _ _ => trivial) fun sandbox _ u _ => ?_
  simp only [destroyOrphanSandbox, registeredFunction, wp_bind, wp_get, wp_expect]
  refine ⟨fun _ _ => ?_, fun _ => panic _ _ missing⟩
  cases i.destroyOrphan sandbox.id <;> trivial

theorem handleShuttingDown_spec (h : Partition (.top p)) :
    wp (ε := ε) (handleShuttingDown i) (lasts d i p) p := by
  have stays {x : Handler Pool ε Unit} (x_spec : wp x (completes d i (.top p)) p) :
      wp (do x; pure false) (lasts d i p) p := by
    refine wp_seq (turns_of_completes x_spec) (fun _ _ turned _ => turned) (fun _ _ _ => trivial)
      fun _ _ other => other
  have logged {E : Type} {x : Handler Pool E Unit} (x_spec : wp x (evolves d i (.top p)) p) :
      wp (ε := ε) (do let _ ← attempt x; pure false) (lasts d i p) p := by
    simp only [wp_bind, wp_attempt, wp_pure]
    exact wp_mono x_spec (fun _ t moved _ => ⟨false, false, moved⟩)
      (fun _ t moved _ => ⟨false, false, moved⟩) fun _ _ other => other
  have idle : wp (ε := ε) (pure false) (lasts d i p) p := fun _ => ⟨false, false, .refl⟩
  unfold handleShuttingDown
  match on : i.event with
  | .dispatch f mode => exact stays (completes_of_evolves (rejectDispatch_spec on))
  | .workerMessage msg => exact stays (drainWorkerMessage_spec (m := .top p) allows rfl rfl own h on)
  | .shutdownTick =>
    simp only [wp_bind, wp_get, wp_ite, wp_pure]
    refine ⟨fun _ => wp_cleanupOrphans (fun _ => nofun) fun _ _ other => other, fun _ _ => ?_⟩
    exact ⟨false, false, .refl⟩
  | .registerFunction f function => exact logged (registerFunction_spec (m := .top p))
  | .deregisterFunction f => exact logged (deregisterFunction_spec (m := .top p) rfl)
  | .quit | .keepaliveTimeout _ | .snapmanMessage | .control _ | .admissionClosed => exact idle

theorem wp_turn (h : Partition (.top p)) :
    wp (turn i)
      { ok := fun r t => r = none → Turned d i p t
        err := fun _ _ => True
        panic := fun msg _ => msg ∉ setPanics } p := by
  simp only [turn, wp_bind, wp_get]
  cases p.phase with
  | serving =>
    simp only [wp_bind, wp_pure]
    exact wp_mono (handleServing_spec allows own h) (fun _ _ turned _ => turned) (fun _ _ _ => trivial)
      fun _ _ other => other
  | shuttingDown =>
    simp only [wp_bind, wp_ite, wp_pure]
    refine wp_mono (handleShuttingDown_spec allows own h) ?_ (fun _ _ _ => trivial)
      fun _ _ other => other
    intro over_ t turned
    refine ⟨by simp, ?_⟩
    intro more _
    exact turned (by simpa using more)

omit allows own in
/-- A turn in which any defect may show. -/
theorem turn_spec (any : ∀ defect, d defect) (own : NamesOwn i p) (h : Partition (.top p)) :
    wp (turn i)
      { ok := fun r t => r = none → Turned d i p t
        err := fun _ _ => True
        panic := fun msg _ => msg ∉ setPanics } p :=
  wp_turn (.of_all any) own h

end Turn

section Run

/-- The messages of the workers, at every turn that a run takes. -/
abbrev Honest : List Input → Pool → Prop := AllTurns turn fun p i => NamesOwn i p

theorem partition_spawn {config : SandboxPoolConfig} {cpus : List Cpu} {memory : MemoryStats}
    {functions : Table FunctionId RegisteredFunction}
    {snapshots : Table FunctionId (List Sandbox)} :
    Partition (.top (spawn config cpus memory functions snapshots)) := by
  constructor <;> simp [Moment.top, spawn, functionOf, At]

/-- The step lemma: an event leaves the workers partitioned. -/
theorem partition_turn {p t : Pool} (parts : Partition (.top p)) (own : NamesOwn i p)
    (stays : turn i p = .ok none t) : Partition (.top t) := by
  have spec := turn_spec (d := fun _ => True) (fun _ => trivial) own parts
  exact parts.turned (ok_of_wp spec stays rfl)

/-- The run lemma: the workers are partitioned between any two events. -/
theorem run_partition {inputs : List Input} {p : Pool} (init : Partition (.top p))
    (honest : Honest inputs p) :
    AllTurns turn (fun p i => Partition (.top p) ∧ NamesOwn i p) inputs p :=
  honest.strengthen (I := fun p => Partition (.top p)) (fun _ _ _ => partition_turn) init

end Run

section Sorted

/-- The workers with a keep-alive timer, those with a deadline and the Idle ones are the same. -/
structure KeepAliveAgrees (p : Pool) : Prop where
  timers : ∀ w, w ∈ p.timers ↔ ∃ f, At p .idle f w
  deadlines : ∀ w, w ∈ p.workerDeadlines ↔ ∃ f, At p .idle f w

/-- Every live worker is in exactly one set of its function, and in none of another function. -/
structure Sorted (p : Pool) : Prop where
  one : ∀ w handle, p.workerHandles.lookup w = some handle →
    ∃! stage, At p stage handle.functionId w
  own : ∀ stage f w, At p stage f w →
    ∃ handle, p.workerHandles.lookup w = some handle ∧ handle.functionId = f
  keepAlive : KeepAliveAgrees p

theorem Partition.keepAliveAgrees (h : Partition m) : KeepAliveAgrees m.pool :=
  ⟨h.timers, h.deadlines⟩

theorem Partition.sorted {p : Pool} (h : Partition (.top p)) : Sorted p := by
  refine ⟨fun w handle look => ?_, fun stage f w member => ?_, h.keepAliveAgrees⟩
  · obtain ⟨stage, member⟩ := h.staged w _ (functionOf_of_lookup look) nofun
    exact ⟨stage, member, fun other there => h.single _ _ _ _ there member⟩
  · exact functionOf_eq_some.mp (h.tracked stage f w member)

instance NamesOwn.decidable (i : Input) (p : Pool) : Decidable (NamesOwn i p) :=
  match on : i.event with
  | .workerMessage (.reapMe w f) =>
    decidable_of_iff (∀ f' ∈ functionOf p w, f' = f) (by simp [NamesOwn, on])
  | .workerMessage (.sandboxId ..) | .workerMessage (.needWork ..)
  | .workerMessage (.sandboxPreparation _) | .workerMessage (.snapshotCreation _) =>
    isTrue (by simp [NamesOwn, on])
  | .quit | .admissionClosed | .keepaliveTimeout _ | .snapmanMessage | .dispatch .. | .control _
  | .shutdownTick | .registerFunction .. | .deregisterFunction _ => isTrue (by simp [NamesOwn, on])

/-- In a run whose workers ask to be reaped in their own function's name, the workers are sorted
between any two events. At every move of an event, whether the operation it belongs to fails or not,
no worker is in two sets and the keep-alive agrees; no assertion on the sets fails. -/
theorem workers_sorted (config : SandboxPoolConfig) (cpus : List Cpu) (memory : MemoryStats)
    (functions : Table FunctionId RegisteredFunction)
    (snapshots : Table FunctionId (List Sandbox)) (inputs : List Input)
    (honest : Honest inputs (spawn config cpus memory functions snapshots)) :
    AllTurns turn (fun p i => Sorted p ∧
        (∀ m, Moves (fun _ => True) i (.top p) m → Partition m ∧ KeepAliveAgrees m.pool) ∧
        wp (turn i)
          { ok := fun r t => r = none → Turned (fun _ => True) i p t ∧ Sorted t
            err := fun _ _ => False
            panic := fun msg _ => msg ∉ setPanics } p)
      inputs (spawn config cpus memory functions snapshots) := by
  refine (run_partition partition_spawn honest).mono fun p i ⟨parts, own⟩ => ?_
  refine ⟨parts.sorted, fun m moves => ⟨parts.moves moves, (parts.moves moves).keepAliveAgrees⟩, ?_⟩
  refine wp_mono (turn_spec (d := fun _ => True) (fun _ => trivial) own parts) ?_
    (fun e => e.elim) fun _ _ other => other
  intro r t turned stays
  exact ⟨turned stays, (parts.turned (turned stays)).sorted⟩

/-- A worker is prepared and reaped. -/
theorem workers_sorted_reaped :
    AllTurns turn (fun p i => Sorted p ∧
        (∀ m, Moves (fun _ => True) i (.top p) m → Partition m ∧ KeepAliveAgrees m.pool) ∧
        wp (turn i)
          { ok := fun r t => r = none → Turned (fun _ => True) i p t ∧ Sorted t
            err := fun _ _ => False
            panic := fun msg _ => msg ∉ setPanics } p)
      [(preparation 1).smooth 10, (Event.workerMessage (.reapMe 10 7)).smooth 11] single :=
  workers_sorted _ _ _ _ _ _ (by decide +kernel)

end Sorted

end Pool
end Snaplace
