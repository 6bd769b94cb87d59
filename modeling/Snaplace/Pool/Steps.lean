import Snaplace.Pool.Partition

/-!
# The handlers are sequences of moves

The pool's functions on workers, from `transition` to `handleDispatch`: from a moment whose workers
are partitioned, whatever comes out, the pool has made only moves, and none of the assertions on the
sets and deadlines has failed.
-/
namespace Snaplace
open Foundation Foundation.Handler
open Worker (SandboxExit WorkerExit ControlMessage)
open Admission (DispatchMode DispatchResponse PoolEvent)

namespace Pool

/-- The assertions on the sets of workers, their handles and their deadlines. -/
def setPanics : List String :=
  [deadlinePanic, transitionPanic, invalidWorkerPanic, idlePanic, assignPanic, rollbackPanic,
    dyingPanic, activePanic, prepPanic, destroyerPanic]

variable {ε α : Type} {d : Defect → Prop} {i : Input} {m m' : Moment} {f : FunctionId}
  {w : WorkerId} {Q : Post Pool ε α}

/-- Only moves, with nothing left over and the pending requests as they were. -/
def leads (d : Defect → Prop) (i : Input) (m : Moment) : Post Pool ε α where
  ok _ t := Moves d i m { m with pool := t } ∧ t.pending = m.pool.pending
  err _ t := Moves d i m { m with pool := t } ∧ t.pending = m.pool.pending
  panic msg _ := msg ∉ setPanics

namespace Moves

theorem one (move : Move d i m m') : Moves d i m m' := .single move

theorem then_ {m'' : Moment} (first : Moves d i m m') (move : Move d i m' m'') : Moves d i m m'' :=
  first.tail move

end Moves

section Store

theorem wp_registeredFunction {function : RegisteredFunction} {s : Pool}
    {Q : Post Pool ε RegisteredFunction} (known : s.store.functions.lookup f = some function)
    (h : Q.ok function s) : wp (registeredFunction f) Q s := by
  simpa [registeredFunction, known] using h

theorem wp_functionMemory {function : RegisteredFunction} {s : Pool} {Q : Post Pool ε ByteUnit}
    (known : s.store.functions.lookup f = some function) (h : Q.ok function.memory s) :
    wp (functionMemory f) Q s := by
  simpa [functionMemory, registeredFunction, known] using h

theorem wp_expectHandle {msg : String} {handle : WorkerHandle} {s : Pool}
    {Q : Post Pool ε WorkerHandle} (look : s.workerHandles.lookup w = some handle)
    (h : Q.ok handle s) : wp (expectHandle msg w) Q s := by
  simpa [expectHandle, look] using h

theorem Partition.known (h : Partition m) {stage : Stage} (member : At m.pool stage f w) :
    ∃ function, m.pool.store.functions.lookup f = some function :=
  Option.ne_none_iff_exists'.mp (h.registered w f (h.tracked _ _ _ member))

theorem Partition.handle (h : Partition m) {stage : Stage} (member : At m.pool stage f w) :
    ∃ handle, m.pool.workerHandles.lookup w = some handle ∧ handle.functionId = f :=
  functionOf_eq_some.mp (h.tracked _ _ _ member)

theorem wp_insertWorker {stage : Stage} {s : Pool} {function : RegisteredFunction}
    {Q : Post Pool StoreError Unit} (known : s.store.functions.lookup f = some function)
    (absent : ¬At s stage f w)
    (h : Q.ok () { s with store := s.store.insert stage (f, w) }) :
    wp (insertWorker stage w f) Q s := by
  simp only [insertWorker, wp_bind]
  refine wp_registeredFunction known ?_
  simp only [wp_get, wp_modify, wp_ite, wp_pure, decide_eq_true_eq]
  exact ⟨fun found => absurd found absent, fun _ => h⟩

theorem wp_transition {source target : Stage} {msg : String} {s : Pool}
    {Q : Post Pool StoreError Unit} (registered : At s source f w →
      ∃ function, s.store.functions.lookup f = some function)
    (absent : At s source f w → ¬At s target f w)
    (ok : At s source f w →
      Q.ok () { s with store := (s.store.erase source (f, w)).insert target (f, w) })
    (err : ¬At s source f w → ∀ e, Q.err e s) :
    wp (transition source target msg w f) Q s := by
  simp only [transition, wp_bind, wp_get]
  match known : s.store.functions.lookup f with
  | none =>
    refine err (fun member => ?_) _
    obtain ⟨_, some⟩ := registered member
    simp [known] at some
  | some function =>
    simp only [wp_ite, wp_bind, wp_get, wp_modify, wp_throw]
    refine ⟨fun member => wp_insertWorker known ?_ (ok member), fun missing => err missing _⟩
    rw [At, FunctionMetadataStore.mem_erase]
    exact fun found => absent member found.2

end Store

section Retire

/-- The worker is Dying now, and all others are where they were. -/
def Retired (p t : Pool) (f : FunctionId) (w : WorkerId) : Prop :=
  ∀ stage f' w', At t stage f' w' ↔ if f' = f ∧ w' = w then stage = .dying else At p stage f' w'

/-- Whether or not the worker can be told, it is Dying. -/
def retires (d : Defect → Prop) (i : Input) (m : Moment) (f : FunctionId) (w : WorkerId) :
    Post Pool ε Unit where
  ok _ t := Moves d i m { m with pool := t } ∧ t.pending = m.pool.pending ∧ Retired m.pool t f w
  err _ t := Moves d i m { m with pool := t } ∧ t.pending = m.pool.pending ∧ Retired m.pool t f w
  panic msg _ := msg ∉ setPanics

theorem leads_of_retires {x : Handler Pool ε Unit} {s : Pool} (h : wp x (retires d i m f w) s) :
    wp x (leads d i m) s :=
  wp_mono h (fun _ _ h => ⟨h.1, h.2.1⟩) (fun _ _ h => ⟨h.1, h.2.1⟩) fun _ _ h => h

theorem Partition.absent (h : Partition m) {source target : Stage} (other : source ≠ target)
    (member : At m.pool source f w) : ¬At m.pool target f w :=
  fun here => other (h.single _ _ _ _ member here)

theorem Partition.retired (h : Partition m) {source : Stage} {t : Pool}
    (member : At m.pool source f w)
    (store : t.store = (m.pool.store.erase source (f, w)).insert .dying (f, w)) :
    Retired m.pool t f w := by
  intro stage f' w'
  have single := h.single stage source f w
  simp only [At, store, FunctionMetadataStore.mem_insert, FunctionMetadataStore.mem_erase,
    Prod.mk.injEq] at *
  grind

theorem idleWorkerToDying_spec (h : Partition m) (member : At m.pool .idle f w) :
    wp (idleWorkerToDying w f) (retires d i m f w) m.pool := by
  obtain ⟨function, known⟩ := h.known member
  obtain ⟨handle, look, rfl⟩ := h.handle member
  simp only [idleWorkerToDying, wp_bind, wp_mapErr, workerIdleToDying]
  refine wp_transition h.known (h.absent (by decide)) (fun _ => ?_)
    fun missing => absurd member missing
  simp only [emitAdmissionEvent, record, stopTimer, clearDeadline, setMemoryAccounting, wp_modify,
    wp_bind]
  refine wp_expectHandle look (wp_functionMemory known ?_)
  refine wp_expectHandle look ⟨?_, rfl, h.retired member rfl⟩
  exact (Moves.one (.event (.workerCapAvailable handle.functionId))).then_
    (.retire .idle handle.functionId w handle function (by decide) member look known)

theorem activeWorkerToDying_spec (h : Partition m) (member : At m.pool .active f w) :
    wp (activeWorkerToDying w f) (retires d i m f w) m.pool := by
  obtain ⟨function, known⟩ := h.known member
  obtain ⟨handle, look, -⟩ := h.handle member
  have awake := h.notMem_of_not_idle (h.not_idle_of_at member (by decide))
  simp only [activeWorkerToDying, wp_bind, wp_mapErr, workerActiveToDying]
  refine wp_transition h.known (h.absent (by decide)) (fun _ => ?_)
    fun missing => absurd member missing
  simp only [emitAdmissionEvent, record, clearDeadline, setMemoryAccounting, wp_modify, wp_bind]
  refine wp_functionMemory known ?_
  refine wp_expectHandle look ⟨?_, rfl, h.retired member rfl⟩
  have move := Move.retire (d := d) (i := i) (m := m.note (.event (.workerCapAvailable f)))
    .active f w handle function (by decide) member look known
  simp only [Moment.note, Table.erase_of_notMem awake.1] at move
  exact (Moves.one (.event (.workerCapAvailable f))).then_ move

/-- A worker that is not in the set it is to leave: an error, and nothing is done. -/
theorem idleWorkerToDying_missing (h : Partition m) (missing : ¬At m.pool .idle f w) :
    wp (idleWorkerToDying w f) { ok := fun _ _ => False, err := fun _ t => t = m.pool } m.pool := by
  simp only [idleWorkerToDying, wp_bind, wp_mapErr, workerIdleToDying]
  exact wp_transition h.known (fun member => absurd member missing)
    (fun member => absurd member missing) fun _ _ => rfl

theorem activeWorkerToDying_missing (h : Partition m) (missing : ¬At m.pool .active f w) :
    wp (activeWorkerToDying w f) { ok := fun _ _ => False, err := fun _ t => t = m.pool }
      m.pool := by
  simp only [activeWorkerToDying, wp_bind, wp_mapErr, workerActiveToDying]
  exact wp_transition h.known (fun member => absurd member missing)
    (fun member => absurd member missing) fun _ _ => rfl

theorem leads.from {x : Handler Pool ε α} {t : Pool} (moved : Moves d i m { m with pool := t })
    (pending : t.pending = m.pool.pending) (h : wp x (leads d i { m with pool := t }) t) :
    wp x (leads d i m) t :=
  wp_mono h (fun _ _ ⟨more, same⟩ => ⟨moved.trans more, same.trans pending⟩)
    (fun _ _ ⟨more, same⟩ => ⟨moved.trans more, same.trans pending⟩) fun _ _ h => h

theorem Retired.dying {p t : Pool} (h : Retired p t f w) : At t .dying f w := by
  rw [h]
  simp

theorem retire_spec {x : PoolM Unit} (h : Partition m) {msg : ControlMessage}
    (last : msg = .shutDown ∨ msg = .destroySandbox) (retire : wp x (retires d i m f w) m.pool) :
    wp (x >>= fun _ => sendLast i w msg) (retires d i m f w) m.pool := by
  refine wp_seq retire ?_ (fun _ _ h => h) fun _ _ h => h
  rintro - t ⟨moved, pending, retired⟩
  obtain ⟨handle, look, -⟩ := (h.moves moved).handle retired.dying
  simp only [sendLast, wp_bind, wp_mapErr]
  refine wp_expectHandle look ?_
  simp only [sendControl, wp_ite, record, wp_modify]
  refine ⟨fun delivered => ?_, fun _ => ?_⟩
  · exact ⟨moved.then_ (.tell f w msg retired.dying last delivered), pending, retired⟩
  · obtain rfl | rfl := last <;> exact ⟨moved, pending, retired⟩

/-- A failed first step that has done nothing ends the sequence. -/
theorem leads_of_missing {x : PoolM Unit} {g : Unit → PoolM α}
    (missing : wp x { ok := fun _ _ => False, err := fun _ t => t = m.pool } m.pool) :
    wp (x >>= g) (leads d i m) m.pool := by
  refine wp_seq missing (fun _ _ absurd => absurd.elim) ?_ fun _ _ absurd => absurd.elim
  rintro _ _ rfl
  exact ⟨.refl, rfl⟩

theorem Partition.clearDeadline (h : Partition m) (awake : w ∉ m.pool.timers) :
    { m.pool with workerDeadlines := m.pool.workerDeadlines.erase w } = m.pool := by
  have absent : w ∉ m.pool.workerDeadlines := by
    rw [h.timers] at awake
    rwa [h.deadlines]
  rw [Table.erase_of_notMem absent]

theorem decommissionIdleWorker_idle (h : Partition m) (idle : At m.pool .idle f w) :
    wp (decommissionIdleWorker i w (some f)) (retires d i m f w) m.pool := by
  have timed : w ∈ m.pool.timers := (h.timers w).mpr ⟨f, idle⟩
  simp only [decommissionIdleWorker, wp_bind, wp_get, wp_ite, timed]
  have shut := retire_spec h (.inl rfl) (idleWorkerToDying_spec (d := d) (i := i) h idle)
  rw [wp_bind] at shut
  exact ⟨fun _ => shut, fun awake => absurd trivial awake⟩

theorem decommissionIdleWorker_spec (h : Partition m) {functionId : Option FunctionId} :
    wp (decommissionIdleWorker i w functionId) (leads d i m) m.pool := by
  have shut (f : FunctionId) :
      wp (idleWorkerToDying w f >>= fun _ => sendLast i w .shutDown) (leads d i m) m.pool := by
    by_cases idle : At m.pool .idle f w
    · exact leads_of_retires (retire_spec h (.inl rfl) (idleWorkerToDying_spec h idle))
    · exact leads_of_missing (idleWorkerToDying_missing h idle)
  simp only [decommissionIdleWorker, wp_bind, wp_get, wp_ite]
  refine ⟨fun timed => ?_, fun awake => ?_⟩
  · match functionId with
    | some f => exact shut f
    | none =>
      obtain ⟨f, idle⟩ := (h.timers w).mp timed
      obtain ⟨handle, look, -⟩ := h.handle idle
      rw [wp_bind]
      exact wp_expectHandle look (shut handle.functionId)
  · simp only [Pool.clearDeadline, wp_modify, h.clearDeadline awake]
    exact ⟨.refl, rfl⟩

/-- However it ends, the Idle worker is Dying and its memory is no longer in use. -/
theorem decommissionIdleWorker_ends (h : Partition m) (idle : At m.pool .idle f w)
    {function : RegisteredFunction} (known : m.pool.store.functions.lookup f = some function)
    {functionId : Option FunctionId} (names : functionId = some f ∨ functionId = none) :
    wp (decommissionIdleWorker i w functionId)
      { ok := fun _ t => t.store = (m.pool.store.erase .idle (f, w)).insert .dying (f, w) ∧
          t.memory = m.pool.memory.reclaim function.memory
        err := fun _ t => t.store = (m.pool.store.erase .idle (f, w)).insert .dying (f, w) ∧
          t.memory = m.pool.memory.reclaim function.memory
        panic := fun _ _ => False } m.pool := by
  obtain ⟨handle, look, rfl⟩ := h.handle idle
  have timed : w ∈ m.pool.timers := (h.timers w).mpr ⟨_, idle⟩
  have retire : wp (idleWorkerToDying w handle.functionId >>= fun _ => sendLast i w .shutDown)
      { ok := fun _ t =>
          t.store = (m.pool.store.erase .idle (handle.functionId, w)).insert .dying
            (handle.functionId, w) ∧ t.memory = m.pool.memory.reclaim function.memory
        err := fun _ t =>
          t.store = (m.pool.store.erase .idle (handle.functionId, w)).insert .dying
            (handle.functionId, w) ∧ t.memory = m.pool.memory.reclaim function.memory
        panic := fun _ _ => False } m.pool := by
    simp only [idleWorkerToDying, wp_bind, wp_mapErr, workerIdleToDying]
    refine wp_transition h.known (h.absent (by decide)) (fun _ => ?_)
      fun missing => absurd idle missing
    simp only [emitAdmissionEvent, record, stopTimer, clearDeadline, setMemoryAccounting, wp_modify,
      wp_bind]
    refine wp_expectHandle look (wp_functionMemory known (wp_expectHandle look ?_))
    simp only [sendLast, sendControl, expectHandle, wp_bind, wp_get, wp_expect, wp_mapErr, wp_ite,
      record, wp_modify, wp_throw, AList.lookup_insert]
    exact ⟨fun _ _ => ⟨fun _ => ⟨trivial, trivial⟩, fun _ => ⟨trivial, trivial⟩⟩, nofun⟩
  simp only [decommissionIdleWorker, wp_bind, wp_get, wp_ite]
  refine ⟨fun _ => ?_, fun awake => absurd timed awake⟩
  rcases names with rfl | rfl
  · exact retire
  · rw [wp_bind]
    exact wp_expectHandle look retire

end Retire

section Evict

theorem mem_iterWorkers {stage : Stage} {p : Pool} {k : FunctionId × WorkerId} :
    k ∈ iterWorkers i stage p ↔ k ∈ p.store.workers stage := by
  rw [iterWorkers, List.mem_map]
  constructor
  · rintro ⟨⟨k, u⟩, mem, rfl⟩
    rw [Table.mem_ordered] at mem
    exact AList.lookup_isSome.mp (by simp [mem])
  · intro mem
    obtain ⟨u, look⟩ := Option.isSome_iff_exists.mp (AList.lookup_isSome.mpr mem)
    exact ⟨(k, u), Table.mem_ordered.mpr look, rfl⟩

theorem Partition.deadline (h : Partition m) (idle : At m.pool .idle f w) :
    ∃ deadline, m.pool.workerDeadlines.lookup w = some deadline :=
  Option.isSome_iff_exists.mp (AList.lookup_isSome.mpr ((h.deadlines w).mpr ⟨f, idle⟩))

/-- The handler only reads. -/
def reads (s : Pool) : Post Pool ε α where
  ok _ t := t = s
  err _ _ := False

theorem wp_of_reads {x : Handler Pool ε α} {s : Pool} (h : wp x (reads s) s)
    (ok : ∀ a, Q.ok a s) : wp x Q s :=
  wp_mono h (fun a _ same => same ▸ ok a) (fun _ _ absurd => absurd.elim)
    fun _ _ absurd => absurd.elim

theorem deadlineOf_spec (h : Partition m) (idle : At m.pool .idle f w) :
    wp (ε := ε) (deadlineOf w) (reads m.pool) m.pool := by
  obtain ⟨deadline, look⟩ := h.deadline idle
  simp [deadlineOf, look, reads]

theorem functionMemory_spec (h : Partition m) {stage : Stage} (member : At m.pool stage f w) :
    wp (ε := ε) (functionMemory f) (reads m.pool) m.pool := by
  obtain ⟨function, known⟩ := h.known member
  exact wp_functionMemory known rfl

theorem reads_forM {s : Pool} {β : Type} {body : β → Handler Pool ε PUnit} {xs : List β}
    {Q : Post Pool ε PUnit} (done : Q.ok ⟨⟩ s)
    (each : ∀ x ∈ xs, wp (body x) (reads s) s) : wp (forM xs body) Q s := by
  refine wp_forM (I := (· = s)) rfl (fun _ same => same ▸ done) ?_
  rintro x mem _ rfl
  exact wp_of_reads (each x mem) fun _ => rfl

theorem evict_spec (h : Partition m) {memToReclaim : ByteUnit} :
    wp (ε := ε) (evict i memToReclaim) (reads m.pool) m.pool := by
  simp only [evict, wp_bind, wp_get]
  match m.pool.config.eviction with
  | .noOp => rfl
  | .random =>
    simp only [wp_bind]
    refine reads_forM ?_ fun candidate mem => ?_
    · simp only [wp_ite, wp_pure]
      exact ⟨fun _ => rfl, fun _ => rfl⟩
    · rw [wp_bind]
      exact wp_of_reads (functionMemory_spec h (mem_iterWorkers.mp mem)) fun _ => rfl
  | .lruWorker =>
    simp only [wp_bind]
    refine reads_forM rfl fun candidate mem => ?_
    have idle : At m.pool .idle candidate.1 candidate.2 := mem_iterWorkers.mp mem
    rw [wp_bind]
    refine wp_of_reads (functionMemory_spec h idle) fun _ => ?_
    simp only [wp_ite, wp_bind, wp_pure]
    exact ⟨fun _ => wp_of_reads (deadlineOf_spec h idle) fun _ => rfl, fun _ => rfl⟩

/-- Only moves, and no failure. -/
def succeeds (d : Defect → Prop) (i : Input) (m : Moment) : Post Pool ε α where
  ok _ t := Moves d i m { m with pool := t } ∧ t.pending = m.pool.pending
  err _ _ := False
  panic msg _ := msg ∉ setPanics

/-- A loop whose turns only make moves; their failures are logged. -/
theorem succeeds_forM {β : Type} {body : β → PoolM α} {xs : List β} (h : Partition m)
    (each : ∀ x t, Partition { m with pool := t } →
      wp (body x) (leads d i { m with pool := t }) t) :
    wp (ε := ε) (xs.forM fun x => do let _ ← attempt (body x)) (succeeds d i m) m.pool := by
  refine wp_forM (I := fun t => Moves d i m { m with pool := t } ∧ t.pending = m.pool.pending)
    ⟨.refl, rfl⟩ (fun _ h => h) ?_
  rintro x - t ⟨moved, pending⟩
  simp only [wp_bind, wp_attempt, wp_pure]
  have once := leads.from moved pending (each x t (h.moves moved))
  exact wp_mono once (fun _ _ h => h) (fun _ _ h => h) fun _ _ h => h

theorem evictIfNeeded_spec (h : Partition m) :
    wp (ε := ε) (evictIfNeeded i) (succeeds d i m) m.pool := by
  simp only [evictIfNeeded, wp_bind, wp_get, wp_ite, wp_pure]
  refine ⟨fun _ => ?_, fun _ => ⟨.refl, rfl⟩⟩
  simp only [triggerEvictionPolicy, wp_bind, wp_get]
  refine wp_of_reads (evict_spec h) fun victims => ?_
  exact succeeds_forM h fun _ _ parts => decommissionIdleWorker_spec parts

end Evict

section Park

theorem overflow_other : overflowPanic ∉ setPanics := by decide

theorem wp_addInstant {at_ : Instant} {delay : Duration} {s : Pool} {Q : Post Pool ε Instant}
    (ok : ∀ instant, Q.ok instant s) (panic : Q.panic overflowPanic s) :
    wp (addInstant at_ delay) Q s := by
  simp only [addInstant, wp_bind, wp_require, wp_pure]
  exact ⟨fun _ => ok _, fun _ => panic⟩

theorem park_spec (h : Partition m) (reason : ParkReason i m w) {deadline : Instant} :
    wp (deactivateWorker i w f (some deadline)) (leads d i m) m.pool := by
  simp only [deactivateWorker, wp_bind, wp_mapErr, workerActiveToIdle]
  refine wp_transition h.known (h.absent (by decide)) (fun member => ?_) fun _ _ => ⟨.refl, rfl⟩
  simp only [setDeadline, spawnTimer, emitAdmissionEvent, record, wp_modify]
  refine ⟨(Moves.one (.park f w deadline member reason)).then_ (.event (.workerIdle f)), rfl⟩

theorem deactivate_spec (h : Partition m) :
    wp (deactivateWorker i w f none) (leads d i m) m.pool := by
  by_cases active : At m.pool .active f w
  · exact leads_of_retires (retire_spec h (.inl rfl) (activeWorkerToDying_spec h active))
  · exact leads_of_missing (activeWorkerToDying_missing h active)

theorem deactivateWorkerPerKeepalive_spec (h : Partition m) (reason : ParkReason i m w) :
    wp (deactivateWorkerPerKeepalive i w f) (leads d i m) m.pool := by
  unfold deactivateWorkerPerKeepalive
  split
  · rw [wp_bind]
    exact wp_addInstant (fun _ => park_spec h reason) overflow_other
  · exact deactivate_spec h

end Park

section Spawn

theorem mem_of_lastMax {α : Type} {measure : α → Nat} {xs : List α} {x : α}
    (h : lastMax measure xs = some x) : x ∈ xs :=
  List.mem_reverse.mp (List.argmax_mem h)

theorem wp_pickOrphanSnapshot {s : Pool} {Q : Post Pool ε (Option Sandbox)}
    (ok : ∀ sandbox snapshots, Takes s.snapshots f sandbox snapshots →
      Q.ok sandbox { s with snapshots }) : wp (pickOrphanSnapshot f) Q s := by
  simp only [pickOrphanSnapshot, wp_bind, wp_get]
  split
  next => exact ok none _ .none
  next sandbox idx picked =>
    simp only [wp_bind, wp_modify, wp_pure]
    have at_ := List.mem_zipIdx_iff_getElem?.mp (mem_of_lastMax picked)
    match look : s.snapshots.lookup f with
    | none => simp [look] at at_
    | some sandboxes =>
      rw [look] at at_
      exact ok (some sandbox) _ (.some look at_)

/-- The pool with a new worker, before its memory is charged. -/
def spawned (i : Input) (f : FunctionId) (sandbox : Option Sandbox)
    (accounting : WorkerMemAccounting) (snapshots : Table FunctionId (List Sandbox)) (p : Pool) :
    Pool :=
  let handle :=
    { functionId := f, sandboxId := sandbox.map Sandbox.id, memAccounting := accounting,
      sandbox := sandbox }
  { p with
    snapshots := snapshots
    workerHandles := p.workerHandles.insert i.newWorkerId handle
    workerBySandbox := own p.workerBySandbox i.newWorkerId (sandbox.map Sandbox.id)
    log := p.log ++ [.spawned i.newWorkerId handle] }

theorem wp_spawnUntrackedWorker {sandbox : Option Sandbox} {accounting : WorkerMemAccounting}
    {snapshots : Table FunctionId (List Sandbox)} {function : RegisteredFunction} {p : Pool}
    {Q : Post Pool Error WorkerId} (known : p.store.functions.lookup f = some function)
    (ok : i.spawnError = none → p.workerHandles.lookup i.newWorkerId = none →
      (∀ sb, sandbox = some sb → p.workerBySandbox.lookup sb.id = none) →
      Q.ok i.newWorkerId (spawned i f sandbox accounting snapshots p))
    (err : ∀ e, Q.err e { p with snapshots := stashed snapshots f sandbox })
    (panic : ∀ msg t, msg ∉ setPanics → Q.panic msg t) :
    wp (spawnUntrackedWorker i f sandbox accounting) Q { p with snapshots } := by
  simp only [spawnUntrackedWorker, wp_bind]
  refine wp_registeredFunction known ?_
  match fails : i.spawnError with
  | some e =>
    match sandbox with
    | some sandbox => exact err _
    | none => exact err _
  | none =>
    simp only [wp_bind, insertWorkerHandle, record, wp_get, wp_modify, wp_require]
    refine ⟨fun fresh => ?_, fun _ => panic _ _ (by decide)⟩
    match sandbox with
    | none => exact ok fails fresh nofun
    | some sandbox =>
      simp only [insertWorkerBySandbox, wp_bind, wp_get, wp_modify, wp_require, wp_pure]
      refine ⟨fun unowned => ok fails fresh ?_, fun _ => panic _ _ (by decide)⟩
      rintro _ ⟨⟩
      exact unowned

/-- A new worker, in none of the sets yet. -/
def starts (d : Defect → Prop) (i : Input) (m : Moment) (f : FunctionId) :
    Post Pool ε WorkerId where
  ok w t := w = i.newWorkerId ∧ i.spawnError = none ∧
    Moves d i m { m with pool := t, starting := some (f, w) } ∧ t.pending = m.pool.pending
  err _ t := Moves d i m { m with pool := t } ∧ t.pending = m.pool.pending
  panic msg _ := msg ∉ setPanics

theorem requeued {sandbox : Option Sandbox} {snapshots : Table FunctionId (List Sandbox)}
    (takes : Takes m.pool.snapshots f sandbox snapshots) :
    Moves d i m
      { m with pool := { m.pool with snapshots := stashed snapshots f sandbox } } := by
  cases takes with
  | none => exact .refl
  | some look at_ => exact .one (.requeue f _ _ (.some look at_))

theorem spawnNewWorker_spec {sandbox : Option Sandbox}
    {snapshots : Table FunctionId (List Sandbox)} {function : RegisteredFunction}
    (settled : m.starting = none) (known : m.pool.store.functions.lookup f = some function)
    (takes : Takes m.pool.snapshots f sandbox snapshots)
    (room : m.pool.memory.inuse + m.pool.memory.reclaimed + function.memory ≤ m.pool.memory.total ∨
      d .overcharge)
    (serves : ¬i.event.Destroys) (quiet : i.event.worker = none) :
    wp (spawnNewWorker i f sandbox) (starts d i m f) { m.pool with snapshots } := by
  simp only [spawnNewWorker, wp_bind]
  refine wp_spawnUntrackedWorker known (fun succeeds fresh unowned => ?_)
    (fun _ => ⟨requeued takes, rfl⟩) fun _ _ other => other
  refine wp_functionMemory known ?_
  simp only [wp_modify, wp_pure]
  exact ⟨rfl, succeeds, .one (.spawn f function sandbox .inUse snapshots settled known succeeds fresh takes
    unowned (fun _ => room) (.inl ⟨rfl, serves⟩) quiet), rfl⟩

end Spawn

section Dispatch

/-- Only moves; a rolled back dispatch leaves the pool about to shut down. -/
def dispatches (d : Defect → Prop) (i : Input) (m : Moment) : Post Pool ε α where
  ok _ t := Moves d i m { m with pool := t, starting := none }
  err _ t := ∃ failing, Moves d i m { m with pool := t, starting := none, failing }
  panic msg _ := msg ∉ setPanics

/-- The dispatch would assign a worker: there is an Idle one, or room for a new one. -/
def Assigns (i : Input) (p : Pool) (f : FunctionId) (mode : DispatchMode) : Prop :=
  (∃ function, p.store.functions.lookup f = some function ∧
    ((∃ w, At p .idle f w) ∨
      mode = .reuseIdleOrProvision ∧
        numWorkers .idle p f + numWorkers .active p f < workerCap p function ∧
        p.memory.fits function.memory = true ∧ i.spawnError = none))

/-- The defects that an event can show in the pool it finds are among those of `d`. -/
structure Allows (d : Defect → Prop) (i : Input) (p : Pool) : Prop where
  lostHandover : ∀ f mode, i.event = .dispatch f mode → i.admissionWaits = false →
    Assigns i p f mode → d .lostHandover
  overcharge : ∀ f function, p.store.functions.lookup f = some function →
    p.memory.fits function.memory = true →
    p.memory.inuse + p.memory.reclaimed + function.memory ≤ p.memory.total ∨ d .overcharge
  droppedSnapshot : ∀ f options respondTo function,
    i.event = .control (.prepareSandbox f options respondTo) →
    p.store.functions.lookup f = some function → p.memory.fits function.memory = false →
    options.mode ≠ .forceFresh → (p.snapshots.lookup f).getD [] ≠ [] → d .droppedSnapshot
  joinFailed : ∀ w, i.exit w = none →
    i.event.worker = some w ∨ i.event.Prepares ∧ w = i.newWorkerId → d .joinFailed

theorem Allows.of_all {p : Pool} (any : ∀ defect, d defect) : Allows d i p :=
  ⟨fun _ _ _ _ _ => any _, fun _ _ _ _ => .inr (any _), fun _ _ _ _ _ _ _ _ _ => any _,
    fun _ _ _ => any _⟩

theorem wp_cpuAlloc {s : Pool} {Q : Post Pool ε Cpu}
    (ok : ∀ cpu cpuset, s.cpuset.allocations.lookup w = none →
      cpuset.allocations = s.cpuset.allocations.insert w cpu → Q.ok cpu { s with cpuset })
    (panic : ∀ msg t, msg ∉ setPanics → Q.panic msg t) : wp (cpuAlloc i w) Q s := by
  simp only [cpuAlloc, wp_bind, wp_get, wp_expect]
  refine ⟨?_, fun _ => panic _ _ (by decide)⟩
  rintro ⟨cpu, occupants⟩ -
  simp only [wp_modify, wp_require, wp_pure]
  exact ⟨fun free => ok cpu _ free rfl, fun _ => panic _ _ (by decide)⟩

theorem wp_cpuRelease {s : Pool} {Q : Post Pool CpuSetError Unit}
    (ok : ∀ cpu cpuset, s.cpuset.allocations.lookup w = some cpu →
      cpuset.allocations = s.cpuset.allocations.erase w → Q.ok () { s with cpuset })
    (err : s.cpuset.allocations.lookup w = none → ∀ e, Q.err e s)
    (panic : ∀ msg t, msg ∉ setPanics → Q.panic msg t) : wp (cpuRelease w) Q s := by
  simp only [cpuRelease, wp_bind, wp_get]
  match held : s.cpuset.allocations.lookup w with
  | none => exact err held _
  | some cpu =>
    simp only [wp_bind, wp_modify, wp_expect]
    exact ⟨fun _ _ => ok cpu _ held rfl, fun _ => panic _ _ (by decide)⟩

theorem pickIdleWorker_spec (h : Partition m) {Q : Post Pool ε (Option WorkerId)}
    (found : ∀ w, At m.pool .idle f w → Q.ok (some w) m.pool)
    (none : (∀ w, ¬At m.pool .idle f w) → Q.ok none m.pool) :
    wp (pickIdleWorker i f) Q m.pool := by
  have mem_idle (e : FunctionId × WorkerId) :
      e ∈ (iterWorkers i .idle m.pool).filter (fun e => e.1 = f) ↔
        At m.pool .idle e.1 e.2 ∧ e.1 = f := by
    simp [List.mem_filter, mem_iterWorkers, At]
  simp only [pickIdleWorker, wp_bind, wp_get]
  refine reads_forM ?_ fun e mem => ?_
  · simp only [wp_pure]
    cases picked : lastMax (fun e => (m.pool.workerDeadlines.lookup e.2).getD 0)
        ((iterWorkers i .idle m.pool).filter fun e => e.1 = f) with
    | some e =>
      obtain ⟨idle, same⟩ := (mem_idle e).mp (mem_of_lastMax picked)
      exact found e.2 (same ▸ idle)
    | none =>
      have empty : (iterWorkers i .idle m.pool).filter (fun e => e.1 = f) = [] := by
        simpa [lastMax, List.argmax_eq_none] using picked
      exact none fun w idle => by simpa [empty] using (mem_idle (f, w)).mpr ⟨idle, rfl⟩
  · rw [wp_bind]
    exact wp_of_reads (deadlineOf_spec h ((mem_idle e).mp mem).1) fun _ => rfl

theorem FunctionMetadataStore.erase_insert_self {store : FunctionMetadataStore} {stage : Stage}
    {k : FunctionId × WorkerId} : (store.insert stage k).erase stage k = store.erase stage k := by
  simp [insert, erase, Table.erase_insert_self]

theorem deny_spec {mode : DispatchMode} {resp : DispatchResponse} (settled : m.starting = none)
    (on : i.event = .dispatch f mode) (denies : ∀ w cpu, resp ≠ .dispatch w cpu) :
    wp (deny i resp) (dispatches d i m) m.pool := by
  simp only [deny, wp_mapErr, replyDispatch, wp_ite, record, wp_modify, wp_throw]
  refine ⟨fun waits => ?_, fun _ => ⟨m.failing, ?_⟩⟩
  · have move := Move.deny (d := d) (m := m) f mode resp on waits denies
    rw [Moment.note, settled] at move
    exact .one move
  · rw [← settled]
    exact .refl

/-- The end of a rollback, from the pool in which the worker is Active. -/
theorem restoreIdle_spec (h : Partition m) {mode : DispatchMode} (free : Available m f w)
    (on : i.event = .dispatch f mode) {function : RegisteredFunction}
    (known : m.pool.store.functions.lookup f = some function) (gone : i.admissionWaits = false)
    (lost : d .lostHandover) {cpuset : CpuSetManager} (released : ∀ w',
      cpuset.allocations.lookup w' =
        if w' = w then none else m.pool.cpuset.allocations.lookup w') (deadline : Instant) :
    wp (restoreIdle w f deadline) (dispatches d i m)
      { m.pool with
        store := (m.pool.store.erase .idle (f, w)).insert .active (f, w)
        timers := m.pool.timers.erase w
        workerDeadlines := m.pool.workerDeadlines.erase w
        memory := { m.pool.memory with inuse := m.pool.memory.inuse.sub function.memory }
        cpuset := cpuset } := by
  have notActive : (f, w) ∉ (m.pool.store.erase .idle (f, w)).workers .active := by
    rw [FunctionMetadataStore.mem_erase]
    exact fun active => by simpa using (h.available free).2.1 _ active.2
  simp only [restoreIdle, wp_bind, wp_mapErr, workerActiveToIdle]
  refine wp_transition (fun _ => ⟨function, known⟩) (fun _ => by simp [At]) (fun _ => ?_)
    fun missing => absurd (by simp [At]) missing
  simp only [setDeadline, spawnTimer, wp_modify, wp_throw]
  refine ⟨true, ?_⟩
  have move := Move.rollback (d := d) f w mode deadline function cpuset on known gone free released
    lost
  simp only [FunctionMetadataStore.erase_insert_self,
    FunctionMetadataStore.erase_of_notMem notActive, Table.insert_erase_self]
  exact .one move

/-- A worker that is free, seen just after it has left the Idle set. -/
theorem assignWorker_spec (h : Partition m) {mode : DispatchMode} (free : Available m f w)
    (on : i.event = .dispatch f mode) (lost : i.admissionWaits = false → d .lostHandover) :
    wp (assignWorker i w f) (dispatches d i m)
      { m.pool with store := m.pool.store.erase .idle (f, w) } := by
  obtain ⟨live, member, starting⟩ := h.available free
  obtain ⟨function, known⟩ := Option.ne_none_iff_exists'.mp (h.registered w f live)
  obtain ⟨handle, look, rfl⟩ := functionOf_eq_some.mp live
  have notActive : (handle.functionId, w) ∉ m.pool.store.workers .active := fun active =>
    by simpa using member _ active
  simp only [assignWorker, stopTimer, wp_bind, wp_modify, wp_mapErr, insertActiveWorker]
  refine wp_insertWorker known (fun active => ?_) ?_
  · rw [At, FunctionMetadataStore.mem_erase] at active
    exact notActive active.2
  refine wp_cpuAlloc (fun cpu cpuset unallocated alloc => ?_) fun _ _ other => other
  refine wp_expectHandle look ?_
  simp only [wp_get, clearDeadline, wp_modify, wp_attempt, replyDispatch, wp_ite, record, wp_throw,
    wp_pure]
  refine ⟨fun waits => .one (.handOut _ w mode cpu cpuset on waits free unallocated alloc),
    fun gone => ?_⟩
  have gone : i.admissionWaits = false := by simpa using gone
  simp only [cleanupFailedDispatch, wp_bind]
  refine wp_expectHandle look (wp_functionMemory known ?_)
  simp only [wp_modify, wp_mapErr]
  refine wp_cpuRelease (fun cpu' cpuset' _ released => ?_) (fun none => ?_) fun _ _ other => other
  swap
  · simp [alloc] at none
  have released (w' : WorkerId) : cpuset'.allocations.lookup w' =
      if w' = w then none else m.pool.cpuset.allocations.lookup w' := by
    rw [released, Table.lookup_erase_ite, alloc, Table.lookup_insert_ite]
    grind
  have settle := restoreIdle_spec h free on known gone (lost gone) released
  dsimp only
  split
  · exact settle _
  · rw [wp_bind]
    exact wp_addInstant settle overflow_other

theorem dispatches.from {x : Handler Pool ε α} {t : Pool}
    {starting : Option (FunctionId × WorkerId)} (moved : Moves d i m { m with pool := t, starting })
    (h : wp x (dispatches d i { m with pool := t, starting }) t) :
    wp x (dispatches d i m) t :=
  wp_mono h (fun _ _ more => moved.trans more) (fun _ _ ⟨failing, more⟩ => ⟨failing, moved.trans more⟩)
    fun _ _ h => h

theorem dispatchToNewWorker_spec (h : Partition m) (settled : m.starting = none)
    {mode : DispatchMode} {function : RegisteredFunction} (on : i.event = .dispatch f mode)
    (known : m.pool.store.functions.lookup f = some function)
    (room : m.pool.memory.fits function.memory = true →
      m.pool.memory.inuse + m.pool.memory.reclaimed + function.memory ≤ m.pool.memory.total ∨
        d .overcharge)
    (lost : i.admissionWaits = false → Assigns i m.pool f mode → d .lostHandover) :
    wp (dispatchToNewWorker i f mode) (dispatches d i m) m.pool := by
  simp only [dispatchToNewWorker, wp_ite]
  refine ⟨fun _ => deny_spec settled on nofun, fun provision => ?_⟩
  have provision : mode = .reuseIdleOrProvision := by cases mode <;> simp_all
  rw [wp_bind]
  refine wp_registeredFunction known ?_
  simp only [wp_bind, wp_get, wp_ite]
  refine ⟨fun _ => deny_spec settled on nofun, fun cap => ⟨fun fits => ?_, fun _ => ?_⟩⟩
  · refine wp_pickOrphanSnapshot fun sandbox snapshots takes => ?_
    refine wp_mono (spawnNewWorker_spec settled known takes (room fits)
      (by simp [Event.Destroys, on]) (by simp [Event.worker, on])) ?_ ?_ fun _ _ h => h
    · rintro _ t ⟨rfl, succeeds, moved, -⟩
      have parts := h.moves moved
      refine wp_mono (evictIfNeeded_spec (d := d) parts) ?_ (fun _ _ absurd => absurd.elim) fun _ _ h => h
      rintro - u ⟨evicted, -⟩
      have parts := parts.moves evicted
      have assign := assignWorker_spec parts (.inl rfl) on fun gone => lost gone
        ⟨function, known, .inr ⟨provision, not_le.mp cap, fits, succeeds⟩⟩
      rw [parts.store_of_starting rfl] at assign
      exact dispatches.from (moved.trans evicted) assign
    · rintro _ t ⟨moved, -⟩
      refine ⟨m.failing, ?_⟩
      rw [← settled]
      exact moved
  · refine wp_mono (evictIfNeeded_spec (d := d) h) ?_ (fun _ _ absurd => absurd.elim) fun _ _ h => h
    rintro - t ⟨moved, -⟩
    exact dispatches.from moved (deny_spec settled on nofun)

theorem handleDispatch_spec (h : Partition m) (settled : m.starting = none) {mode : DispatchMode}
    (on : i.event = .dispatch f mode)
    (room : ∀ function, m.pool.store.functions.lookup f = some function →
      m.pool.memory.fits function.memory = true →
      m.pool.memory.inuse + m.pool.memory.reclaimed + function.memory ≤ m.pool.memory.total ∨
        d .overcharge)
    (lost : i.admissionWaits = false → Assigns i m.pool f mode → d .lostHandover) :
    wp (handleDispatch i f mode) (dispatches d i m) m.pool := by
  simp only [handleDispatch, wp_bind, wp_get, wp_ite]
  refine ⟨fun exists_ => ?_, fun _ => deny_spec settled on nofun⟩
  obtain ⟨function, known⟩ := Option.isSome_iff_exists.mp exists_
  refine pickIdleWorker_spec h (fun w idle => ?_) fun _ => ?_
  · simp only [removeIdleWorker, removeWorker, wp_bind]
    refine wp_registeredFunction known ?_
    simp only [wp_get, wp_modify, wp_pure, wp_require]
    refine ⟨fun _ => ?_, fun absent => absurd (decide_eq_true idle) absent⟩
    exact assignWorker_spec h (.inr ⟨settled, idle⟩) on fun gone =>
      lost gone ⟨function, known, .inl ⟨w, idle⟩⟩
  · exact dispatchToNewWorker_spec h settled on known (room function known) lost

end Dispatch

end Pool
end Snaplace
