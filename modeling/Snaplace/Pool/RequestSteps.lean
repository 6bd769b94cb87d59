import Snaplace.Pool.ControlSteps

/-!
# Requests and completions are sequences of moves

The control requests from their arrival to their completion. A request that is accepted leaves its
waiter in a table, one that fails hands it back, and a completion answers all the waiters it takes
out.
-/
namespace Snaplace
open Foundation Foundation.Handler
open Worker (SandboxExit WorkerExit ControlMessage PrepareSandboxResult CreateSnapshotResult)
open Admission (PoolEvent)

namespace Pool
variable {ε E : Type} {d : Defect → Prop} {i : Input} {m : Moment} {f : FunctionId}
  {w : WorkerId} {respondTo : Option ReplyId} {rest : List ReplyId}

/-- Only moves; the waiter is in a table now, or handed back with the error. -/
def requests (d : Defect → Prop) (i : Input) (m : Moment) (rest : List ReplyId) :
    Post Pool (E × Option ReplyId) Unit where
  ok _ t := Moves d i m { m with pool := t, starting := none, waiters := rest }
  err e t := Moves d i m { m with pool := t, starting := none, waiters := e.2.toList ++ rest }
  panic msg _ := msg ∉ setPanics

theorem requests.from {x : RequestM E Unit} {t : Pool}
    {starting : Option (FunctionId × WorkerId)} (moved : Moves d i m { m with pool := t, starting })
    (h : wp x (requests d i { m with pool := t, starting } rest) t) :
    wp x (requests d i m rest) t :=
  wp_mono h (fun _ _ more => moved.trans more) (fun _ _ more => moved.trans more) fun _ _ h => h

/-- A request is handed back after some moves. -/
theorem requests.refuse {t : Pool} {e : E} (settled : m.starting = none)
    (waits : m.waiters = respondTo.toList ++ rest) (moved : Moves d i m { m with pool := t }) :
    (requests d i m rest).err (e, respondTo) t := by
  change Moves d i m { m with pool := t, starting := none, waiters := respondTo.toList ++ rest }
  rw [← settled, ← waits]
  exact moved

section Prepare

theorem wp_startingSandbox {mode : SandboxProvisioningMode} {s : Pool}
    {Q : Post Pool (PrepareSandboxError × Option ReplyId) (Option Sandbox)}
    (ok : ∀ sandbox snapshots, Takes s.snapshots f sandbox snapshots →
      (sandbox ≠ none → mode ≠ .forceFresh) → Q.ok sandbox { s with snapshots })
    (err : ∀ e, Q.err (e, respondTo) s) : wp (startingSandbox f mode respondTo) Q s := by
  cases mode with
  | preferSnapshot =>
    exact wp_pickOrphanSnapshot fun sandbox snapshots takes => ok sandbox snapshots takes (by simp)
  | forceFresh => exact ok none s.snapshots .none (by simp)
  | requireSnapshot =>
    simp only [startingSandbox, wp_bind]
    refine wp_pickOrphanSnapshot fun sandbox snapshots takes => ?_
    cases sandbox with
    | some sandbox => exact ok _ _ takes (by simp)
    | none =>
      cases takes
      exact err _

theorem listed_of_takes {snapshots snapshots' : Table FunctionId (List Sandbox)} {sandbox : Sandbox}
    (takes : Takes snapshots f (Option.some sandbox) snapshots') : (snapshots.lookup f).getD [] ≠ [] := by
  cases takes with
  | some look at_ =>
    rw [look]
    rintro rfl
    simp at at_

/-- The preparation that could not be sent, from the pool in which it is recorded. -/
theorem abandonPrep_spec (h : Partition m) (on : i.event.Prepares)
    (joins : i.exit w = none → d .joinFailed)
    (starting : m.starting = some (f, w)) (new : w = i.newWorkerId) (closed : m.closing = none)
    (waits : m.waiters = respondTo.toList ++ rest) (undelivered : i.controlOpen w = false)
    {cpu : Cpu} {cpuset : CpuSetManager}
    (alloc : cpuset.allocations = m.pool.cpuset.allocations.insert w cpu) {hint : Option Duration}
    {err : Worker.Error} :
    wp (abandonPrep i w f err) (requests d i m rest)
      { m.pool with
        store := m.pool.store.insert .active (f, w)
        cpuset := cpuset
        pending :=
          { m.pool.pending with
            opByWorker := m.pool.pending.opByWorker.insert w .prepareSandbox
            sandboxPreps := m.pool.pending.sandboxPreps.insert w
              { initialKeepaliveHint := hint, respondTo } } } := by
  simp only [abandonPrep, wp_bind]
  refine wp_attemptRelease (fun _ cpuset' free => ?_) fun _ _ other => other
  have free (w' : WorkerId) : cpuset'.allocations.lookup w' =
      if w' = w then none else m.pool.cpuset.allocations.lookup w' := by
    rw [free, alloc, Table.lookup_insert_ite]
    grind
  have failed := Move.prepareFailed (d := d) f w cpuset' starting undelivered free on
  simp only [takePrepOp, wp_modifyGet, AList.lookup_insert, Table.erase_insert_self,
    Option.bind_some, wp_ite, wp_bind, wp_throw, wp_attempt]
  refine ⟨fun finished => ?_, fun _ => ?_⟩
  · have parts := h.move failed
    have own (f' : FunctionId) (live : functionOf m.pool w = some f') : f' = f := by
      simpa [live] using (h.started f w starting).1
    refine wp_mono (reapWorker_spec (f := f) parts rfl closed (.finished finished new on) own
      fun _ _ failed => .inr (joins failed)) ?_ ?_ fun _ _ other => other
    · intro _ t reaped
      have moved := (Moves.one failed).trans reaped
      rw [waits] at moved
      exact moved
    · intro _ t reaped
      have moved := (Moves.one failed).trans reaped
      rw [waits] at moved
      exact moved
  · rw [waits] at failed
    exact .one failed

theorem startPrep_spec (h : Partition m) (on : i.event.Prepares)
    (joins : i.exit w = none → d .joinFailed)
    (starting : m.starting = some (f, w)) (new : w = i.newWorkerId) (closed : m.closing = none)
    (waits : m.waiters = respondTo.toList ++ rest) {options : PrepareSandboxOptions} :
    wp (startPrep i w f options respondTo) (requests d i m rest) m.pool := by
  obtain ⟨live, nowhere⟩ := h.started f w starting
  obtain ⟨function, known⟩ := Option.ne_none_iff_exists'.mp (h.registered w f live)
  obtain ⟨handle, look, -⟩ := functionOf_eq_some.mp live
  simp only [startPrep, wp_bind, wp_mapErr, insertActiveWorker]
  refine wp_insertWorker known (nowhere .active) ?_
  refine wp_cpuAlloc (fun cpu cpuset unallocated alloc => ?_) fun _ _ other => other
  simp only [insertOp, insertPrepOp, wp_modify]
  refine wp_expectHandle look ?_
  simp only [wp_attempt, sendControl, wp_ite, record, wp_modify, wp_throw, wp_pure]
  refine ⟨fun delivered => ?_, fun closedControl => ?_⟩
  · exact .one (.prepare f w cpu cpuset _ rest starting unallocated alloc delivered waits on)
  · exact abandonPrep_spec h on joins starting new closed waits (by simpa using closedControl) alloc

theorem requestSandboxPrep_spec (h : Partition m) (allows : Allows d i m.pool)
    (settled : m.starting = none) (closed : m.closing = none)
    (waits : m.waiters = respondTo.toList ++ rest) {options : PrepareSandboxOptions}
    {asker : ReplyId} (on : i.event = .control (.prepareSandbox f options asker)) :
    wp (requestSandboxPrep i f options respondTo) (requests d i m rest) m.pool := by
  simp only [requestSandboxPrep, wp_bind, wp_get, wp_ite, wp_throw]
  refine ⟨fun exists_ => ?_, fun _ => requests.refuse settled waits .refl⟩
  obtain ⟨function, known⟩ := Option.isSome_iff_exists.mp exists_
  refine wp_functionMemory known ?_
  refine wp_startingSandbox (fun sandbox snapshots takes reuses => ?_)
    fun _ => requests.refuse settled waits .refl
  refine ⟨fun fits => ?_, fun noRoom => ?_⟩
  · simp only [wp_mapErr]
    refine wp_mono (spawnNewWorker_spec settled known takes
      (allows.overcharge f function known fits) (by simp [Event.Destroys, on])
      (by simp [Event.worker, on])) ?_ ?_
      fun _ _ other => other
    · rintro _ t ⟨rfl, -, moved, -⟩
      have parts := h.moves moved
      refine wp_mono (evictIfNeeded_spec (d := d) parts) ?_ (fun _ _ absurd => absurd.elim)
        fun _ _ other => other
      rintro - u ⟨evicted, -⟩
      exact requests.from (moved.trans evicted)
        (startPrep_spec (parts.moves evicted) ⟨f, options, asker, on⟩
          (fun failed => allows.joinFailed _ failed (.inr ⟨⟨f, options, asker, on⟩, rfl⟩)) rfl rfl closed
          waits)
    · rintro _ t ⟨moved, -⟩
      exact requests.refuse settled waits moved
  · have dropped : Moves d i m { m with pool := { m.pool with snapshots } } := by
      cases takes with
      | none => exact .refl
      | some look at_ =>
        refine .one (.drop f _ _ (.some look at_) ?_)
        exact allows.droppedSnapshot f options asker function on known (by simpa using noRoom)
          (reuses (by simp)) (listed_of_takes (.some look at_))
    refine wp_mono (evictIfNeeded_spec (d := d) (h.moves dropped)) ?_
      (fun _ _ absurd => absurd.elim) fun _ _ other => other
    rintro - t ⟨evicted, -⟩
    exact requests.refuse settled waits (dropped.trans evicted)

end Prepare

section Destroy

/-- An Idle or Active worker that is told to go. -/
theorem destroyIdleWorker_spec (h : Partition m) (idle : At m.pool .idle f w) {remove : Bool} :
    wp (destroyIdleWorker i w f remove) (retires d i m f w) m.pool := by
  cases remove with
  | true => exact retire_spec h (.inr rfl) (idleWorkerToDying_spec h idle)
  | false => exact decommissionIdleWorker_idle h idle

theorem destroyActiveWorker_spec (h : Partition m) (active : At m.pool .active f w)
    {remove : Bool} : wp (destroyActiveWorker i w f remove) (retires d i m f w) m.pool := by
  cases remove with
  | true => exact retire_spec h (.inr rfl) (activeWorkerToDying_spec h active)
  | false => exact retire_spec h (.inl rfl) (activeWorkerToDying_spec h active)

/-- The worker is Dying at the end, or the request is refused. -/
theorem startDestr_spec (h : Partition m) (settled : m.starting = none)
    (waits : m.waiters = respondTo.toList ++ rest) {options : DestroySandboxOptions} :
    wp (startDestr i w options respondTo)
      { ok := fun _ t => Moves d i m { m with pool := t } ∧ t.pending = m.pool.pending ∧
          ∃ f, At t .dying f w
        err := (requests d i m rest).err
        panic := fun msg _ => msg ∉ setPanics } m.pool := by
  simp only [startDestr, wp_bind, wp_get]
  match idle : findIdleWorker m.pool w, active : findActiveWorker m.pool w,
    dying : findDyingWorker m.pool w with
  | some f, _, _ =>
    simp only [wp_mapErr]
    refine wp_mono (destroyIdleWorker_spec (d := d) h (at_of_findWorker idle)) ?_ ?_
      fun _ _ other => other
    · rintro - t ⟨moved, pending, retired⟩
      exact ⟨moved, pending, f, retired.dying⟩
    · rintro _ t ⟨moved, -⟩
      exact requests.refuse settled waits moved
  | none, some f, _ =>
    simp only [wp_ite, wp_mapErr, wp_throw]
    refine ⟨fun _ => ?_, fun _ => requests.refuse settled waits .refl⟩
    refine wp_mono (destroyActiveWorker_spec (d := d) h (at_of_findWorker active)) ?_ ?_
      fun _ _ other => other
    · rintro - t ⟨moved, pending, retired⟩
      exact ⟨moved, pending, f, retired.dying⟩
    · rintro _ t ⟨moved, -⟩
      exact requests.refuse settled waits moved
  | none, none, some f =>
    exact ⟨.refl, rfl, f, at_of_findWorker dying⟩
  | none, none, none =>
    simp only [wp_throw]
    exact requests.refuse settled waits .refl

theorem takes_of_findSnapshot {p : Pool} {sandboxId : SandboxId} {idx : Nat} {sandbox : Sandbox}
    {sandboxes : List Sandbox} (found : findSnapshot i p sandboxId = some (f, idx, sandbox))
    (look : p.snapshots.lookup f = some sandboxes) :
    Takes p.snapshots f (some sandbox) (p.snapshots.insert f (sandboxes.eraseIdx idx)) := by
  obtain ⟨⟨f', list⟩, mem, here⟩ := List.exists_of_findSome?_eq_some found
  obtain ⟨⟨sandbox', idx'⟩, first, same⟩ := Option.map_eq_some_iff.mp here
  obtain ⟨rfl, rfl, rfl⟩ : f' = f ∧ idx' = idx ∧ sandbox' = sandbox := by simpa using same
  obtain rfl : list = sandboxes := by
    rw [Table.mem_ordered, look] at mem
    exact (Option.some.inj mem).symm
  exact .some look (List.mem_zipIdx_iff_getElem?.mp (List.mem_of_find?_eq_some first))

/-- A worker for an orphan: Dying, unmarked, and told to destroy it. -/
theorem spawnDestroyer_spec (h : Partition m) (settled : m.starting = none) {sandbox : Sandbox}
    {snapshots : Table FunctionId (List Sandbox)}
    (takes : Takes m.pool.snapshots f (some sandbox) snapshots)
    (waits : m.waiters = respondTo.toList ++ rest) (on : i.event.Destroys) :
    wp (spawnDestroyer i f sandbox respondTo)
      { ok := fun w t => Moves d i m { m with pool := t, starting := none } ∧
          t.pending.opByWorker.lookup w = none ∧ ∃ f, At t .dying f w
        err := (requests d i m rest).err
        panic := fun msg _ => msg ∉ setPanics } { m.pool with snapshots } := by
  cases known : m.pool.store.functions.lookup f with
  | none =>
    simp only [spawnDestroyer, spawnUntrackedWorker, registeredFunction, wp_bind, wp_mapErr, wp_get,
      wp_expect, known]
    exact ⟨(fun _ found => absurd found (by simp)), fun _ => show functionPanic ∉ setPanics by decide⟩
  | some function =>
    simp only [spawnDestroyer, wp_bind, wp_mapErr]
    refine wp_spawnUntrackedWorker known (fun succeeds fresh unowned => ?_)
      (fun _ => requests.refuse settled waits (requeued takes)) fun _ _ other => other
    have spawned := Move.spawn (d := d) f function (some sandbox) .uncharged snapshots settled known
      succeeds fresh takes unowned (by simp) (.inr ⟨rfl, on⟩) on.worker
    have parts := h.move spawned
    have unmarked : m.pool.pending.opByWorker.lookup i.newWorkerId = none := by
      by_contra marked
      exact h.marked _ marked (by simp [functionOf, fresh])
    have condemned := (Moves.one spawned).then_ (.condemn f i.newWorkerId rfl on)
    obtain ⟨handle, look, -⟩ := functionOf_eq_some.mp (parts.started _ _ rfl).1
    simp only [insertDyingWorker]
    refine wp_insertWorker known ((parts.started _ _ rfl).2 .dying) ?_
    refine wp_expectHandle look ?_
    simp only [sendControl, wp_ite, record, wp_modify, wp_throw, wp_pure]
    refine ⟨fun delivered => ?_, fun _ => ?_⟩
    · exact ⟨condemned.then_ (.tell f _ .destroySandbox (by simp [At]) (.inr rfl) delivered),
        unmarked, f, by simp [At]⟩
    · rw [waits] at condemned
      exact condemned

/-- The worker to be destroyed carries no mark. -/
theorem destrTarget_spec (h : Partition m) (settled : m.starting = none)
    (waits : m.waiters = respondTo.toList ++ rest) {sandboxId : SandboxId}
    {options : DestroySandboxOptions} (on : i.event.Destroys) :
    wp (destrTarget i sandboxId options respondTo)
      { ok := fun target t => match target with
          | some w => Moves d i m { m with pool := t } ∧ t.pending.opByWorker.lookup w = none
          | none => Moves d i m { m with pool := t, starting := none, waiters := rest }
        err := (requests d i m rest).err
        panic := fun msg _ => msg ∉ setPanics } m.pool := by
  simp only [destrTarget, wp_bind, wp_get]
  cases m.pool.workerBySandbox.lookup sandboxId with
  | some w =>
    dsimp only
    cases marked : m.pool.pending.opByWorker.lookup w with
    | none => exact ⟨.refl, marked⟩
    | some op =>
      cases op with
      | destroySandbox =>
        simp only [insertDestrOp, wp_bind, wp_expect, wp_modify, wp_pure]
        refine ⟨fun op look => ?_, fun _ => by decide⟩
        have joined := Move.joinDestr (d := d) (i := i) w op respondTo.toList rest marked look waits
          on
        rw [settled] at joined
        exact .one joined
      | prepareSandbox => exact requests.refuse settled waits .refl
      | snapshot => exact requests.refuse settled waits .refl
  | none =>
    simp only [wp_ite, wp_throw]
    refine ⟨fun _ => ?_, fun _ => requests.refuse settled waits .refl⟩
    cases found : findSnapshot i m.pool sandboxId with
    | none => exact requests.refuse settled waits .refl
    | some snapshot =>
      obtain ⟨f, idx, sandbox⟩ := snapshot
      simp only [wp_bind, wp_expect, wp_modify, wp_map]
      refine ⟨fun sandboxes look => ?_, fun _ => by decide⟩
      refine wp_mono (spawnDestroyer_spec (d := d) h settled (takes_of_findSnapshot found look)
        waits on) ?_ (fun _ _ refused => refused) fun _ _ other => other
      rintro w t ⟨moved, unmarked, -⟩
      rw [← settled] at moved
      exact ⟨moved, unmarked⟩

theorem requestSandboxDestr_spec (h : Partition m) (settled : m.starting = none)
    (waits : m.waiters = respondTo.toList ++ rest) {sandboxId : SandboxId}
    {options : DestroySandboxOptions} (on : i.event.Destroys) :
    wp (requestSandboxDestr i sandboxId options respondTo) (requests d i m rest) m.pool := by
  simp only [requestSandboxDestr, wp_bind]
  refine wp_mono (destrTarget_spec (d := d) h settled waits on) ?_ (fun _ _ refused => refused)
    fun _ _ other => other
  intro target t aimed
  match target with
  | none => exact aimed
  | some w =>
    obtain ⟨moved, unmarked⟩ := aimed
    have parts := h.moves moved
    simp only [wp_bind]
    refine wp_mono (startDestr_spec (d := d) parts settled waits) ?_
      (fun _ _ refused => moved.trans refused) fun _ _ other => other
    rintro - u ⟨more, pending, f, dying⟩
    simp only [trackDestr, insertOp, insertDestrOp, wp_bind, wp_modify]
    have unmarked : u.pending.opByWorker.lookup w = none := by rw [pending, unmarked]
    have tracked := Move.track (d := d) (i := i) (m := { m with pool := u }) f w
      { removePersistedSnapshot := options.removePersistedSnapshot, respondTo := respondTo.toList }
      rest dying unmarked waits on
    have all := (moved.trans more).tail tracked
    simp only [settled] at all
    exact all

end Destroy

section Snapshot

/-- The end of a request, with the worker Active and its deadline taken. -/
theorem wp_sendSnapshot (settled : m.starting = none)
    (waits : m.waiters = respondTo.toList ++ rest) (active : At m.pool .active f w)
    {handle : WorkerHandle} (look : m.pool.workerHandles.lookup w = some handle)
    {sandboxId : SandboxId} (owner : m.pool.workerBySandbox.lookup sandboxId = some w)
    (unmarked : m.pool.pending.opByWorker.lookup w = none) (timerInfo : Option PausedTimerInfo)
    {msg : String} {wrap : Worker.Error → CreateSnapshotError × Option ReplyId}
    (back : ∀ e, (wrap e).2 = respondTo) (on : i.event.Snapshots) :
    wp (do
        let _ ← expectHandle msg w
        mapErr wrap (sendControl i w (.createSnapshot sandboxId))
        insertOp w .snapshot
        insertSnapshotOp sandboxId { timerInfo, respondTo := respondTo.toList })
      (requests d i m rest) m.pool := by
  simp only [wp_bind]
  refine wp_expectHandle look ?_
  simp only [wp_mapErr, sendControl, wp_ite, record, wp_modify, wp_throw, insertOp, insertSnapshotOp]
  refine ⟨fun delivered => ?_, fun _ => ?_⟩
  · have move := Move.snapshot (d := d) (i := i) f w sandboxId
      { timerInfo, respondTo := respondTo.toList } rest active owner unmarked delivered waits on
    simp only [settled] at move
    exact .one move
  · change Moves d i m { m with starting := none, waiters := (wrap _).2.toList ++ rest }
    rw [back, ← waits, ← settled]
    exact .refl

/-- The Idle worker is woken; an Active one has neither timer nor deadline to lose. -/
theorem activateForSnapshot_spec (h : Partition m) {handle : WorkerHandle}
    (look : m.pool.workerHandles.lookup w = some handle) {sandboxId : SandboxId}
    (on : i.event.Snapshots) :
    wp (activateForSnapshot w handle.functionId sandboxId respondTo)
      { ok := fun _ t => ∃ store, (handle.functionId, w) ∈ store.workers .active ∧
          t = { m.pool with store, timers := m.pool.timers.erase w } ∧
          Moves d i m
            { m with
              pool :=
                { m.pool with
                  store := store
                  timers := m.pool.timers.erase w
                  workerDeadlines := m.pool.workerDeadlines.erase w } }
        err := fun e t => e.2 = respondTo ∧ t = m.pool
        panic := fun msg _ => msg ∉ setPanics }
      { m.pool with timers := m.pool.timers.erase w } := by
  obtain ⟨function, known⟩ :=
    Option.ne_none_iff_exists'.mp (h.registered w _ (functionOf_of_lookup look))
  simp only [activateForSnapshot, removeIdleWorker, wp_bind]
  refine wp_removeWorker known (fun idle => ?_) fun awake => ?_
  · have idle : At m.pool .idle handle.functionId w := idle
    simp only [wp_ite, wp_mapErr, insertActiveWorker]
    refine ⟨fun _ => wp_insertWorker known (fun active => ?_) ?_, fun absurd => absurd.elim trivial⟩
    · rw [At, FunctionMetadataStore.mem_erase] at active
      exact h.not_idle_of_at active.2 (by decide) _ idle
    · exact ⟨_, by simp, rfl, .one (.wake handle.functionId w idle on)⟩
  · have none (f : FunctionId) : ¬At m.pool .idle f w := by
      intro idle
      obtain rfl := h.function_of_at idle look
      exact awake idle
    obtain ⟨timer, deadline⟩ := h.notMem_of_not_idle none
    simp only [wp_ite, wp_bind, wp_get, Table.erase_of_notMem timer, Table.erase_of_notMem deadline]
    refine ⟨fun idle => Bool.noConfusion idle, fun _ => ?_⟩
    cases active : findActiveWorker m.pool w with
    | some f =>
      have member := at_of_findWorker active
      obtain rfl := h.function_of_at member look
      exact ⟨_, member, rfl, .refl⟩
    | none =>
      cases dying : findDyingWorker m.pool w with
      | some _ => exact ⟨rfl, rfl⟩
      | none => exact ⟨rfl, rfl⟩

theorem startSnapshot_spec (h : Partition m) (settled : m.starting = none)
    (waits : m.waiters = respondTo.toList ++ rest) {handle : WorkerHandle}
    (look : m.pool.workerHandles.lookup w = some handle) {sandboxId : SandboxId}
    (owner : m.pool.workerBySandbox.lookup sandboxId = some w)
    (unmarked : m.pool.pending.opByWorker.lookup w = none) (on : i.event.Snapshots) :
    wp (startSnapshot i w handle.functionId sandboxId respondTo) (requests d i m rest) m.pool := by
  change wp (activateForSnapshot w handle.functionId sandboxId respondTo >>= _) _
    { m.pool with timers := m.pool.timers.erase w }
  refine wp_seq (activateForSnapshot_spec (d := d) (i := i) h look on) ?_ ?_ fun _ _ other => other
  · rintro - t ⟨store, active, rfl, woken⟩
    change wp (expectHandle snapshotHandlePanic w >>= _) _
      { m.pool with
        store := store
        timers := m.pool.timers.erase w
        workerDeadlines := m.pool.workerDeadlines.erase w }
    refine requests.from woken ?_
    apply wp_sendSnapshot
    · exact settled
    · exact waits
    · exact active
    · exact look
    · exact owner
    · exact unmarked
    · exact fun _ => rfl
    · exact on
  · rintro ⟨e, back⟩ t ⟨rfl, rfl⟩
    exact requests.refuse settled waits .refl

theorem joinSnapshot_spec (settled : m.starting = none)
    (waits : m.waiters = respondTo.toList ++ rest) {sandboxId : SandboxId}
    (owner : m.pool.workerBySandbox.lookup sandboxId = some w)
    (marked : m.pool.pending.opByWorker.lookup w = some .snapshot) (on : i.event.Snapshots) :
    wp (joinSnapshot sandboxId respondTo) (requests d i m rest) m.pool := by
  match respondTo with
  | none =>
    change Moves d i m { m with starting := none, waiters := rest }
    rw [← settled, ← show m.waiters = rest from waits]
    exact .refl
  | some waiter =>
    simp only [joinSnapshot, wp_bind, wp_get, wp_expect, insertSnapshotOp, wp_modify]
    refine ⟨fun op look => ?_, fun _ => show snapshotContextPanic ∉ setPanics by decide⟩
    have joined := Move.joinSnapshot (d := d) (i := i) w sandboxId op [waiter] rest owner marked
      look waits on
    simp only [settled] at joined
    exact .one joined

theorem requestSnapshotting_spec (h : Partition m) (settled : m.starting = none)
    (waits : m.waiters = respondTo.toList ++ rest) {sandboxId : SandboxId}
    (on : i.event.Snapshots) :
    wp (requestSnapshotting i sandboxId respondTo) (requests d i m rest) m.pool := by
  simp only [requestSnapshotting, wp_bind, wp_get, wp_ite, wp_throw]
  refine ⟨fun _ => requests.refuse settled waits .refl, fun _ => ?_⟩
  cases owner : m.pool.workerBySandbox.lookup sandboxId with
  | none => exact requests.refuse settled waits .refl
  | some w =>
    simp only [expectHandle, wp_bind, wp_get, wp_expect]
    have other : "exists in `sandboxes_by_worker`; should be here too" ∉ setPanics := by decide
    refine ⟨fun handle look => ?_, fun _ => other⟩
    cases marked : m.pool.pending.opByWorker.lookup w with
    | none => exact startSnapshot_spec h settled waits look owner marked on
    | some op =>
      cases op with
      | snapshot => exact joinSnapshot_spec settled waits owner marked on
      | prepareSandbox => exact requests.refuse settled waits .refl
      | destroySandbox => exact requests.refuse settled waits .refl

end Snapshot

section Answer

theorem answerFailure_spec {x : RequestM E Unit} {reply : E → Reply} {s : Pool}
    (h : wp x (requests d i m rest) s) :
    wp (ε := ε) (answerFailure reply x)
      { ok := fun _ t => Moves d i m { m with pool := t, starting := none, waiters := rest }
        err := fun _ _ => False
        panic := fun msg _ => msg ∉ setPanics } s := by
  simp only [answerFailure, wp_bind, wp_attempt]
  refine wp_mono h (fun _ _ moved => moved) ?_ fun _ _ other => other
  rintro ⟨err, back⟩ t moved
  match back with
  | none => exact moved
  | some waiter => exact moved.tail (.answer waiter rest _ rfl)

theorem handleControl_spec (h : Partition m) (allows : Allows d i m.pool)
    (settled : m.starting = none) (closed : m.closing = none) {msg : PoolControlMessage}
    (on : i.event = .control msg) :
    wp (ε := ε) (handleControl i msg) (evolves d i m) m.pool := by
  have requested := Move.requested (d := d) (m := m) msg on
  have parts := h.move requested
  have allows' : Allows d i (m.note (.requested msg.respondTo)).pool :=
    ⟨allows.lostHandover, allows.overcharge, allows.droppedSnapshot, allows.joinFailed⟩
  have settle {x : Handler Pool ε Unit} {t : Pool} (answered : wp x
      { ok := fun _ t => Moves d i
          { m.note (.requested msg.respondTo) with waiters := msg.respondTo :: m.waiters }
          { m with pool := t, starting := none }
        err := fun _ _ => False
        panic := fun msg _ => msg ∉ setPanics } t) : wp x (evolves d i m) t := by
    refine wp_mono answered (fun _ t moved => ?_) (fun _ _ absurd => absurd.elim)
      fun _ _ other => other
    have all := (Moves.one requested).trans moved
    rw [← settled] at all
    exact all
  cases msg with
  | prepareSandbox functionId options respondTo =>
    simp only [handleControl, wp_bind, record, wp_modify]
    exact settle (answerFailure_spec (requestSandboxPrep_spec parts allows' settled closed rfl on))
  | destroySandbox target options respondTo =>
    simp only [handleControl, wp_bind, record, wp_modify]
    exact settle (answerFailure_spec (requestSandboxDestr_spec parts settled rfl ⟨_, _, _, on⟩))
  | listSandboxes respondTo =>
    simp only [handleControl, wp_panicWith]
    exact show "not yet implemented" ∉ setPanics by decide
  | createSnapshot sandboxId respondTo =>
    simp only [handleControl, wp_bind, record, wp_modify]
    exact settle (answerFailure_spec (requestSnapshotting_spec parts settled rfl ⟨_, _, on⟩))

end Answer

end Pool
end Snaplace
