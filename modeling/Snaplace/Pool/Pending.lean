import Snaplace.Pool.Shutdown

/-!
# Every control request is answered once

A request that the pool takes waits in one place until it is answered: at hand while its event is
handled, or in the table of what its worker was asked for. The workers' marks say in which table, so
that no entry overwrites another one; a worker that is reaped is marked no more, and its waiters are
answered. The workers are trusted to report only what they were asked for.
-/
namespace Snaplace
open Foundation

namespace Pool
variable {d : Defect → Prop} {i : Input} {m m' : Moment} {p t : Pool} {r : ReplyId}

section Counts

def Effect.answers (r : ReplyId) : Effect → Bool
  | .reply r' _ => r' = r
  | _ => false

def requested (log : List Effect) (r : ReplyId) : Nat := log.count (.requested r)

def replied (log : List Effect) (r : ReplyId) : Nat := log.countP (Effect.answers r)

/-- The waiters in the three tables. -/
def waiting (pending : PendingControlRequests) (r : ReplyId) : Nat :=
  pending.sandboxPreps.total (fun _ op => op.respondTo.toList.count r) +
    pending.sandboxDestrs.total (fun _ op => op.respondTo.count r) +
    pending.snapshots.total (fun _ op => op.respondTo.count r)

/-- Each request is answered, or it waits. -/
def Owed (m : Moment) (r : ReplyId) : Prop :=
  requested m.pool.log r = replied m.pool.log r + waiting m.pool.pending r + m.waiters.count r

@[simp] theorem requested_append {log effects : List Effect} :
    requested (log ++ effects) r = requested log r + requested effects r := by
  simp [requested]

@[simp] theorem replied_append {log effects : List Effect} :
    replied (log ++ effects) r = replied log r + replied effects r := by
  simp [replied]

theorem requested_of_tidies {effects : List Effect} (tidies : ∀ effect ∈ effects, effect.Tidies) :
    requested effects r = 0 :=
  List.count_eq_zero.mpr fun mem => tidies _ mem

theorem replied_of_tidies {effects : List Effect} (tidies : ∀ effect ∈ effects, effect.Tidies) :
    replied effects r = 0 := by
  refine List.countP_eq_zero.mpr fun effect mem => ?_
  have tidy := tidies effect mem
  cases effect <;> simp [Effect.Tidies, Effect.answers] at tidy ⊢

end Counts

/-- What a worker was asked for. -/
def markOf (p : Pool) (w : WorkerId) : Option PendingControlOp := p.pending.opByWorker.lookup w

/-- A worker only reports what it was asked for, and on the sandbox it owns. -/
def Asked (i : Input) (p : Pool) : Prop :=
  (∀ resp, i.event = .workerMessage (.sandboxPreparation resp) →
    markOf p resp.workerId = some .prepareSandbox) ∧
  ∀ resp, i.event = .workerMessage (.snapshotCreation resp) →
    markOf p resp.workerId = some .snapshot ∧ sandboxOf p resp.workerId = some resp.sandboxId

instance Asked.decidable (i : Input) (p : Pool) : Decidable (Asked i p) :=
  match on : i.event with
  | .workerMessage (.sandboxPreparation resp) =>
    decidable_of_iff (markOf p resp.workerId = some .prepareSandbox) (by simp [Asked, on])
  | .workerMessage (.snapshotCreation resp) =>
    decidable_of_iff (markOf p resp.workerId = some .snapshot ∧
      sandboxOf p resp.workerId = some resp.sandboxId) (by simp [Asked, on])
  | .workerMessage (.sandboxId ..) | .workerMessage (.reapMe ..) | .workerMessage (.needWork ..) =>
    isTrue (by simp [Asked, on])
  | .quit | .admissionClosed | .keepaliveTimeout _ | .snapmanMessage | .dispatch .. | .control _
  | .shutdownTick | .registerFunction .. | .deregisterFunction _ => isTrue (by simp [Asked, on])

/-- The tables of what is pending agree with the marks. -/
structure Tracked (p : Pool) : Prop where
  preps : ∀ w, p.pending.sandboxPreps.lookup w ≠ none → markOf p w = some .prepareSandbox
  destrs : ∀ w, p.pending.sandboxDestrs.lookup w ≠ none ↔ markOf p w = some .destroySandbox
  snapshots : ∀ sb, p.pending.snapshots.lookup sb ≠ none →
    ∃ w, p.workerBySandbox.lookup sb = some w ∧ markOf p w = some .snapshot

/-- In the middle of an event. -/
structure Tracking (i : Input) (m : Moment) : Prop where
  tracked : Tracked m.pool
  started : ∀ f w, m.starting = some (f, w) → markOf m.pool w = none
  closes : ∀ w, m.closing = some w → CloseReason i w
  prepared : ∀ resp, i.event = .workerMessage (.sandboxPreparation resp) →
    ∀ op, markOf m.pool resp.workerId = some op → op = .prepareSandbox
  snapshotted : ∀ resp, i.event = .workerMessage (.snapshotCreation resp) →
    (∀ op, markOf m.pool resp.workerId = some op → op = .snapshot) ∧
      ∀ sb, sandboxOf m.pool resp.workerId = some sb → sb = resp.sandboxId

theorem Tracked.tracking (h : Tracked p) (asked : Asked i p) : Tracking i (.top p) where
  tracked := h
  started _ _ starting := by simp [Moment.top] at starting
  closes _ closing := by simp [Moment.top] at closing
  prepared resp on op mark := by
    have := asked.1 resp on
    simp only [Moment.top] at mark
    simpa [this] using mark.symm
  snapshotted resp on := by
    obtain ⟨mark', own⟩ := asked.2 resp on
    refine ⟨fun op mark => ?_, fun sb owns => ?_⟩
    · simp only [Moment.top] at mark
      simpa [mark'] using mark.symm
    · simp only [Moment.top] at owns
      simpa [own] using owns.symm

namespace Tracking

/-- What a worker that is unmarked was asked for is no longer in a table. -/
theorem unmarked (h : Tracking i m) (indexed : Indexed m.pool) {w : WorkerId}
    (closing : m.closing = some w) (about : i.event.worker = some w)
    (alive : ∀ f, i.event ≠ .workerMessage (.reapMe w f))
    (noPrep : ∀ resp, i.event = .workerMessage (.sandboxPreparation resp) →
      m.pool.pending.sandboxPreps.lookup w = none)
    (noSnapshot : ∀ resp, i.event = .workerMessage (.snapshotCreation resp) →
      m.pool.pending.snapshots.lookup resp.sandboxId = none) :
    m.pool.pending.sandboxPreps.lookup w = none ∧ m.pool.pending.sandboxDestrs.lookup w = none ∧
      ∀ sb, m.pool.workerBySandbox.lookup sb = some w →
        m.pool.pending.snapshots.lookup sb = none := by
  have preps := h.tracked.preps w
  have destrs := h.tracked.destrs w
  cases h.closes w closing with
  | prepared message who =>
    have asked := h.prepared _ message
    rw [who] at asked
    refine ⟨noPrep _ message, ?_, fun sb owner => ?_⟩
    · by_contra entry
      simpa using asked _ (destrs.mp entry)
    · by_contra entry
      obtain ⟨w', owner', mark⟩ := h.tracked.snapshots sb entry
      obtain rfl : w = w' := by simpa [owner] using owner'
      simpa using asked _ mark
  | @snapshotted resp message who =>
    obtain ⟨asked, owns⟩ := h.snapshotted _ message
    rw [who] at asked owns
    refine ⟨?_, ?_, fun sb owner => ?_⟩
    · by_contra entry
      simpa using asked _ (preps entry)
    · by_contra entry
      simpa using asked _ (destrs.mp entry)
    · obtain rfl := owns sb ((indexed sb w).mp owner)
      exact noSnapshot _ message
  | reaped f message => exact absurd message (alive f)
  | finished _ _ on =>
    obtain ⟨f, options, respondTo, on⟩ := on
    simp [on, Event.worker] at about

theorem tracked_move (h : Tracking i m) (indexed : Indexed m.pool) (move : Move d i m m') :
    Tracked m'.pool := by
  obtain ⟨preps, destrs, snapshots⟩ := h.tracked
  cases move with
  | spawn f function sandbox accounting snapshots' settled registered succeeds fresh takes unowned =>
    refine ⟨preps, destrs, fun sb entry => ?_⟩
    obtain ⟨w, owner, mark⟩ := snapshots sb entry
    refine ⟨w, ?_, mark⟩
    cases sandbox with
    | none => exact owner
    | some sandbox =>
      have unowned := unowned sandbox rfl
      simp only [own, Option.map_some, Table.lookup_insert_ite]
      grind
  | prepare f w cpu cpuset op rest starting =>
    have free := h.started f w starting
    simp only [markOf] at free preps destrs snapshots
    constructor <;> simp only [markOf, Table.lookup_insert_ite] <;> grind
  | prepareFailed f w cpuset starting =>
    have free := h.started f w starting
    simp only [markOf] at free preps destrs snapshots
    constructor <;> simp only [markOf, Table.lookup_insert_ite, Table.lookup_erase_ite] <;> grind
  | track f w op rest dying unmarked =>
    simp only [markOf] at preps destrs snapshots
    constructor <;> simp only [markOf, Table.lookup_insert_ite] <;> grind
  | joinDestr w op more rest marked look =>
    simp only [markOf] at preps destrs snapshots
    constructor <;> simp only [markOf, Table.lookup_insert_ite] <;> grind
  | snapshot f w sandbox op rest active owner unmarked =>
    simp only [markOf] at preps destrs snapshots
    constructor <;> simp only [markOf, Table.lookup_insert_ite] <;> grind
  | joinSnapshot w sandbox op more rest owner marked look =>
    simp only [markOf] at preps destrs snapshots
    constructor <;> simp only [markOf, Table.lookup_insert_ite] <;> grind
  | takePrep w op closing look =>
    simp only [markOf] at preps destrs snapshots
    constructor <;> simp only [markOf, Table.lookup_erase_ite] <;> grind
  | takeSnapshot w sandbox op closing whose look =>
    simp only [markOf] at preps destrs snapshots
    constructor <;> simp only [markOf, Table.lookup_erase_ite] <;> grind
  | unmark w closing about alive noPrep noSnapshot =>
    obtain ⟨noPrep, noDestr, noSnapshots⟩ :=
      h.unmarked indexed closing about alive noPrep noSnapshot
    simp only [markOf] at preps destrs snapshots
    constructor <;> simp only [markOf, Table.lookup_erase_ite] <;> grind
  | announce w sandbox handle message look unowned =>
    refine ⟨preps, destrs, fun sb entry => ?_⟩
    obtain ⟨w', owner, mark⟩ := snapshots sb entry
    refine ⟨w', ?_, mark⟩
    simp only [Table.lookup_insert_ite]
    grind
  | reap stage w handle function cpuset busy closing member look registered free noPrep noSnapshot =>
    have own := sandboxOf_of_lookup look
    have mine (sb : SandboxId) := indexed sb w
    simp only [markOf] at preps destrs snapshots
    refine ⟨?_, ?_, fun sb entry => ?_⟩
    · simp only [markOf, Table.lookup_erase_ite]
      grind
    · simp only [markOf, Table.lookup_erase_ite]
      grind
    · obtain ⟨w', owner, mark⟩ := snapshots sb entry
      refine ⟨w', ?_, ?_⟩
      · cases gone : handle.sandboxId <;> simp only [disown, Table.lookup_erase_ite] <;> grind
      · simp only [markOf, Table.lookup_erase_ite]
        grind
  | _ => exact ⟨preps, destrs, snapshots⟩

/-- The worker that is just started is in no table. -/
theorem nowhere (parts : Partition m) {stage : Stage} {f f' : FunctionId} {w w' : WorkerId}
    (starting : m.starting = some (f, w)) (member : At m.pool stage f' w') : w ≠ w' := by
  rintro rfl
  obtain ⟨function, out⟩ := parts.started f w starting
  obtain rfl : f = f' := by simpa [function] using parts.tracked stage f' w member
  exact out stage member

/-- The step lemma of the marks. -/
theorem move (h : Tracking i m) (parts : Partition m) (indexed : Indexed m.pool)
    (move : Move d i m m') : Tracking i m' where
  tracked := h.tracked_move indexed move
  started f w starting := by
    cases move with
    | spawn f function sandbox accounting snapshots settled registered succeeds fresh =>
      obtain ⟨rfl, rfl⟩ : _ ∧ _ := by simpa using starting
      by_contra mark
      exact parts.marked _ mark (by simp [functionOf, fresh])
    | track f' w' op rest dying unmarked =>
      have other := nowhere parts starting dying
      have free := h.started f w starting
      simpa only [markOf, Table.lookup_insert_ite, if_neg other] using free
    | snapshot f' w' sandbox op rest active owner unmarked =>
      have other := nowhere parts starting active
      have free := h.started f w starting
      simpa only [markOf, Table.lookup_insert_ite, if_neg other] using free
    | unmark w' | reap stage w' =>
      have free := h.started f w starting
      simp only [markOf, Table.lookup_erase_ite] at free ⊢
      grind
    | handOut | rollback | condemn | prepare | prepareFailed => simp at starting
    | _ => exact h.started f w starting
  closes w closing := by
    cases move with
    | close w' reason =>
      obtain rfl : w' = w := by simpa using closing
      exact reason
    | unmark | reap => simp at closing
    | _ => exact h.closes w closing
  prepared resp on op mark := by
    have before := h.prepared resp on op
    cases move with
    | prepare f w cpu cpuset op' rest starting free alloc delivered waits on'
      | prepareFailed f w cpuset starting undelivered free on' =>
      obtain ⟨f, options, respondTo, on'⟩ := on'
      simp [on] at on'
    | track f w op' rest dying unmarked waits on' =>
      obtain ⟨target, options, respondTo, on'⟩ := on'
      simp [on] at on'
    | snapshot f w sandbox op' rest active owner unmarked delivered waits on' =>
      obtain ⟨sandbox, respondTo, on'⟩ := on'
      simp [on] at on'
    | unmark | reap =>
      simp only [markOf, Table.lookup_erase_ite] at before mark
      grind
    | _ => exact before mark
  snapshotted resp on := by
    obtain ⟨marked, owns⟩ := h.snapshotted resp on
    cases move with
    | prepare f w cpu cpuset op' rest starting free alloc delivered waits on'
      | prepareFailed f w cpuset starting undelivered free on' =>
      obtain ⟨f, options, respondTo, on'⟩ := on'
      simp [on] at on'
    | track f w op' rest dying unmarked waits on' =>
      obtain ⟨target, options, respondTo, on'⟩ := on'
      simp [on] at on'
    | snapshot f w sandbox op' rest active owner unmarked delivered waits on' =>
      obtain ⟨sandbox, respondTo, on'⟩ := on'
      simp [on] at on'
    | spawn f function sandbox accounting snapshots settled registered succeeds fresh takes unowned
        room charge quiet =>
      simp [on, Event.worker] at quiet
    | announce w sandbox handle message => simp [on] at message
    | retire source f w handle function live member look =>
      have same := sandboxOf_of_lookup look
      refine ⟨marked, fun sb owned => owns sb ?_⟩
      rw [sandboxOf_insert (p := m.pool) rfl] at owned
      grind
    | unmark =>
      refine ⟨fun op mark => marked op ?_, owns⟩
      simp only [markOf, Table.lookup_erase_ite] at mark ⊢
      grind
    | reap =>
      refine ⟨fun op mark => marked op ?_, fun sb owned => owns sb ?_⟩
      · simp only [markOf, Table.lookup_erase_ite] at mark ⊢
        grind
      · rw [sandboxOf_erase (p := m.pool) rfl] at owned
        grind
    | _ => exact ⟨marked, owns⟩

/-- The step lemma of the waiters: none of them is forgotten, and none is answered twice. -/
theorem owed_move (h : Tracking i m) (owed : Owed m r) (move : Move d i m m') : Owed m' r := by
  have preps (w : WorkerId) (op : PendingSandboxPrep) := Table.total_insert_add
    (f := fun _ op => op.respondTo.toList.count r) (k := w) (v := op)
    (m := m.pool.pending.sandboxPreps)
  have destrs (w : WorkerId) (op : PendingSandboxDestr) := Table.total_insert_add
    (f := fun _ op => op.respondTo.count r) (k := w) (v := op) (m := m.pool.pending.sandboxDestrs)
  have snapshots (sb : SandboxId) (op : PendingSnapshot) := Table.total_insert_add
    (f := fun _ op => op.respondTo.count r) (k := sb) (v := op) (m := m.pool.pending.snapshots)
  unfold Owed at *
  cases move with
  | event | deny | spawn | handOut | tell =>
    simpa [Moment.note, requested, replied, Effect.answers] using owed
  | requested msg =>
    simp [Moment.note, requested, replied, Effect.answers, List.count_cons] at owed ⊢
    omega
  | answer r' rest reply waits =>
    simp [Moment.note, requested, replied, Effect.answers, List.count_cons, waits] at owed ⊢
    omega
  | prepare f w cpu cpuset op rest starting free alloc delivered waits =>
    have idle : m.pool.pending.sandboxPreps.lookup w = none := by
      by_contra entry
      simpa [h.started f w starting] using h.tracked.preps w entry
    have added := preps w op
    simp [requested, replied, Effect.answers, waiting, waits, idle] at owed added ⊢
    omega
  | prepareFailed f w cpuset starting =>
    have idle : m.pool.pending.sandboxPreps.lookup w = none := by
      by_contra entry
      simpa [h.started f w starting] using h.tracked.preps w entry
    simpa [waiting, Table.total_erase_of_none idle] using owed
  | track f w op rest dying unmarked waits =>
    have idle : m.pool.pending.sandboxDestrs.lookup w = none := by
      by_contra entry
      simpa [markOf, unmarked] using (h.tracked.destrs w).mp entry
    have added := destrs w op
    simp [waiting, waits, idle] at owed added ⊢
    omega
  | joinDestr w op more rest marked look waits =>
    have added := destrs w { op with respondTo := op.respondTo ++ more }
    simp [waiting, waits, look] at owed added ⊢
    omega
  | snapshot f w sandbox op rest active owner unmarked delivered waits =>
    have idle : m.pool.pending.snapshots.lookup sandbox = none := by
      by_contra entry
      obtain ⟨w', owner', mark⟩ := h.tracked.snapshots sandbox entry
      obtain rfl : w = w' := by simpa [owner] using owner'
      simp [markOf, unmarked] at mark
    have added := snapshots sandbox op
    simp [requested, replied, Effect.answers, waiting, waits, idle] at owed added ⊢
    omega
  | joinSnapshot w sandbox op more rest owner marked look waits =>
    have added := snapshots sandbox { op with respondTo := op.respondTo ++ more }
    simp [waiting, waits, look] at owed added ⊢
    omega
  | takePrep w op closing look =>
    simp [waiting, Table.total_of_lookup look] at owed ⊢
    omega
  | takeSnapshot w sandbox op closing whose look =>
    simp [waiting, Table.total_of_lookup look] at owed ⊢
    omega
  | reap stage w =>
    cases look : m.pool.pending.sandboxDestrs.lookup w with
    | none =>
      simpa [requested, replied, Effect.answers, waiting, Table.total_erase_of_none look] using owed
    | some op =>
      simp [requested, replied, Effect.answers, waiting, Table.total_of_lookup look] at owed ⊢
      omega
  | _ => exact owed

/-- A whole event. -/
theorem moves (h : Tracking i m) (parts : Partition m) (housed : Housed i m)
    (returns : Returns m'.pool.log) (owed : ∀ r, Owed m r) (moves : Moves d i m m') :
    Tracking i m' ∧ ∀ r, Owed m' r := by
  induction moves with
  | refl => exact ⟨h, owed⟩
  | tail before move ih =>
    have returns := returns.of_moves (.single move)
    obtain ⟨tracking, owed⟩ := ih returns
    have housed := (housed.moves returns before).1
    exact ⟨tracking.move (parts.moves before) housed.indexed move,
      fun r => tracking.owed_move (owed r) move⟩

end Tracking

/-- Between two events: the tables of what is pending agree with the marks, only live workers are
marked, and each request that was taken is answered or it waits. -/
structure Answering (p : Pool) : Prop where
  tracked : Tracked p
  live : ∀ w, markOf p w ≠ none → functionOf p w ≠ none
  owed : ∀ r, requested p.log r = replied p.log r + waiting p.pending r

/-- The step lemma. -/
theorem Answering.turned (h : Answering p) (parts : Partition (.top p)) (placed : Placed p)
    (announces : Announces i p) (asked : Asked i p) (returns : Returns t.log)
    (turned : Turned d i p t) : Answering t := by
  have parts' := parts.turned turned
  obtain ⟨released, failing, moved⟩ := turned
  obtain ⟨tracking, owed⟩ := (h.tracked.tracking asked).moves parts (placed.housed announces)
    returns (fun r => by simpa [Owed, Moment.top] using h.owed r) moved
  exact ⟨tracking.tracked, parts'.marked, fun r => by simpa [Owed, Moment.top] using owed r⟩

/-- Without a live worker, nothing waits. -/
theorem Answering.answered (h : Answering p) (gone : ∀ w, p.workerHandles.lookup w = none) :
    requested p.log r = replied p.log r := by
  have unmarked (w : WorkerId) : markOf p w = none := by
    by_contra mark
    exact h.live w mark (by simp [functionOf, gone])
  have settled : waiting p.pending r = 0 := by
    have none_prep (w : WorkerId) : p.pending.sandboxPreps.lookup w = none := by
      by_contra entry
      simpa [unmarked] using h.tracked.preps w entry
    have none_destr (w : WorkerId) : p.pending.sandboxDestrs.lookup w = none := by
      by_contra entry
      simpa [unmarked] using (h.tracked.destrs w).mp entry
    have none_snapshot (sb : SandboxId) : p.pending.snapshots.lookup sb = none := by
      by_contra entry
      obtain ⟨w, -, mark⟩ := h.tracked.snapshots sb entry
      simp [unmarked] at mark
    simp only [waiting, Table.total_of_lookup_none none_prep, Table.total_of_lookup_none none_destr,
      Table.total_of_lookup_none none_snapshot]
  rw [h.owed r, settled, Nat.add_zero]

section Run
variable (config : SandboxPoolConfig) (cpus : List Cpu) (memory : MemoryStats)
  (functions : Table FunctionId RegisteredFunction) {snapshots : Table FunctionId (List Sandbox)}

theorem answering_spawn : Answering (spawn config cpus memory functions snapshots) where
  tracked := by constructor <;> simp [spawn, markOf]
  live w mark := by simp [spawn, markOf] at mark
  owed r := by simp [spawn, requested, replied, waiting]

/-- The run lemma, from any pool that agrees with its marks. -/
theorem Answering.reached {inputs : List Input} {p t : Pool} (init : Answering p)
    (placed : Placed p) (parts : Partition (.top p))
    (promised : AllTurns turn (fun p i => NamesOwn i p ∧ Announces i p ∧ Asked i p) inputs p)
    (ran : iterate turn inputs p = .running t) (returns : Returns t.log) : Answering t := by
  have all := promised.strengthen (I := fun p => Partition (.top p))
    (fun _ _ _ parts meets => partition_turn parts meets.1) parts
  suffices Placed t ∧ Answering t from this.2
  refine all.reaches_while (B := fun p => Returns p.log) (I := fun p => Placed p ∧ Answering p)
    ?_ ?_ ⟨placed, init⟩ ran returns
  · rintro s i t ⟨parts, own, -⟩ stays
    exact returns_back own parts stays
  · rintro s i t ⟨placed, answering⟩ ⟨parts, own, announces, asked⟩ returns stays
    have spec := turn_spec (d := fun _ => True) (fun _ => trivial) own parts
    have turned := Handler.ok_of_wp spec stays rfl
    exact ⟨(placed.turned announces returns turned).1,
      answering.turned parts placed announces asked returns turned⟩

/-- Wherever a run comes to, each control request that the pool took has been answered as often as
it was made, but for those that wait, and what waits is in the table that the mark says. -/
theorem requests_answered (distinct : ∀ sb, listed snapshots sb ≤ 1) (inputs : List Input)
    (promised : AllTurns turn (fun p i => NamesOwn i p ∧ Announces i p ∧ Asked i p) inputs
      (spawn config cpus memory functions snapshots)) {p : Pool}
    (ran : run inputs (spawn config cpus memory functions snapshots) = .running p)
    (returns : Returns p.log) : Answering p :=
  (answering_spawn config cpus memory functions).reached
    (placed_spawn config cpus memory functions distinct) partition_spawn promised ran returns

/-- When the loop ends, no request waits any more: each was answered as often as it was made. -/
theorem requests_answered_at_exit (distinct : ∀ sb, listed snapshots sb ≤ 1) (inputs : List Input)
    (promised : AllTurns turn (fun p i => NamesOwn i p ∧ Announces i p ∧ Asked i p) inputs
      (spawn config cpus memory functions snapshots)) {t : Pool}
    (exits : run inputs (spawn config cpus memory functions snapshots) = .exited () t)
    (returns : Returns t.log) (r : ReplyId) : requested t.log r = replied t.log r := by
  obtain ⟨taken, i, p, before, came, left⟩ := iterate_exited exits
  have promised := promised.of_front ((List.prefix_append taken [i]).trans before)
  obtain ⟨-, idle, cleaned⟩ := turn_exits left
  obtain ⟨effects, log, tidies, -⟩ := cleaned.log
  have returns : Returns p.log := fun effect mem => returns effect (by simp [log, mem])
  have answering := (answering_spawn config cpus memory functions).reached
    (placed_spawn config cpus memory functions distinct) partition_spawn promised came returns
  have parts := reached_partition partition_spawn (promised.mono fun _ _ meets => meets.1) came
  have answered := answering.answered (r := r) (handles_of_noWorkers parts idle)
  rw [log, requested_append, replied_append, answered, requested_of_tidies tidies,
    replied_of_tidies tidies]

end Run

/-- The second worker reports that it could not prepare, and is reaped; the first one has not
reported. -/
def unprepared : List Input :=
  [(preparation 1).smooth 10, (preparation 2).smooth 11,
    (Event.workerMessage (.sandboxPreparation
      { workerId := 11, functionId := 7, result := .error closed })).smooth 12,
    (Event.workerMessage (.reapMe 11 7)).smooth 12]

theorem requests_answered_unprepared : Answering (run unprepared stocked).state := by
  refine requests_answered single.config [0] single.memory single.store.functions
    distinct_snapshotted unprepared (by decide +kernel) ?_ (by decide +kernel)
  with_unfolding_all rfl

theorem requests_answered_at_exit_quitted :
    let t := (run (quitted ++ [trashing, Event.shutdownTick.smooth 12]) stocked).state
    requested t.log 1 = replied t.log 1 := by
  refine requests_answered_at_exit single.config [0] single.memory single.store.functions
    distinct_snapshotted (quitted ++ [trashing, Event.shutdownTick.smooth 12])
    (by decide +kernel) ?_ (by decide +kernel) 1
  with_unfolding_all rfl

/-- One request is answered, the other one waits for the worker that prepares. -/
example :
    let p := (run unprepared stocked).state
    (replied p.log 1, waiting p.pending 1, replied p.log 2) = (0, 1, 1) := by
  decide +kernel

end Pool
end Snaplace
