import Snaplace.Pool.Timers

/-!
# Keep-alive paused by a snapshot

An Idle worker that is asked for a snapshot becomes Active, its timer is stopped and its deadline is
set aside in an entry under the sandbox. The entry is the worker's own until the worker reports on
the snapshot, whatever happens to other workers: a sandbox has one owner, and a worker reports on
what it was asked for.

The request is refused too late when the worker's control channel is closed: the worker has been
made Active by then, and stays so.
-/
namespace Snaplace
open Foundation Foundation.Handler
open Worker (ControlMessage OutboundMessage PrepareSandboxResult CreateSnapshotResult)

namespace Pool

section Asked

/-- What a worker is left with to report on, after one more effect. -/
def asks (w : WorkerId) (last : Option ControlMessage) : Effect → Option ControlMessage
  | .spawned w' _ => if w' = w then none else last
  | .sent w' (.prepareSandbox cpu) => if w' = w then some (.prepareSandbox cpu) else last
  | .sent w' (.createSnapshot sandbox) => if w' = w then some (.createSnapshot sandbox) else last
  | _ => last

/-- The request to prepare or to snapshot its sandbox that a worker has received last. -/
def lastAsked (log : List Effect) (w : WorkerId) : Option ControlMessage :=
  log.foldl (asks w) none

@[simp] theorem lastAsked_append {log : List Effect} {w : WorkerId} {effect : Effect} :
    lastAsked (log ++ [effect]) w = asks w (lastAsked log w) effect := by
  simp [lastAsked]

/-- What workers send and how identifiers are drawn. -/
structure Promised (i : Input) (p : Pool) : Prop where
  own : NamesOwn i p
  fresh : functionOf p i.newWorkerId = none
  /-- A worker reports on the preparation it was asked for. -/
  prepared : ∀ resp, i.event = .workerMessage (.sandboxPreparation resp) →
    ∃ cpu, lastAsked p.log resp.workerId = some (.prepareSandbox cpu)
  /-- A live worker reports, under its function, on the snapshot it was asked for. -/
  snapshotted : ∀ resp, i.event = .workerMessage (.snapshotCreation resp) →
    functionOf p resp.workerId = some resp.functionId ∧
      lastAsked p.log resp.workerId = some (.createSnapshot resp.sandboxId)

end Asked

section Owners
variable {d : Defect → Prop} {i : Input} {m m' : Moment} {p t : Pool} {f : FunctionId}
  {w : WorkerId}

/-- The pool finds the owner of a sandbox. -/
def Owned (p : Pool) : Prop :=
  ∀ w handle sb, p.workerHandles.lookup w = some handle → handle.sandboxId = some sb →
    p.workerBySandbox.lookup sb = some w

theorem Owned.move (h : Owned m.pool) (move : Move d i m m') : Owned m'.pool := by
  intro w handle sb look owns
  cases move with
  | spawn f function sandbox accounting snapshots settled registered succeeds fresh takes unowned =>
    have := h w handle sb
    cases sandbox <;> grind [Table.lookup_insert_ite, own]
  | retire source f w' handle' =>
    have := h w
    grind [Table.lookup_insert_ite]
  | announce w' sandbox handle' =>
    have := h w
    grind [Table.lookup_insert_ite]
  | reap stage w' handle' =>
    have := h w handle sb
    have := h w' handle'
    cases gone : handle'.sandboxId <;> grind [Table.lookup_erase_ite, disown]
  | _ => exact h w handle sb look owns

/-- What the pool's marks and requests say of its workers, in the middle of an event. -/
structure Accounted (m : Moment) : Prop where
  owned : Owned m.pool
  /-- A worker that is asked for a snapshot owns the sandbox. -/
  asked : ∀ w sb, functionOf m.pool w ≠ none →
    lastAsked m.pool.log w = some (.createSnapshot sb) → m.pool.workerBySandbox.lookup sb = some w
  unmarked : ∀ f w, At m.pool .idle f w → m.pool.pending.opByWorker.lookup w ≠ none →
    m.closing = some w
  started : ∀ f w, m.starting = some (f, w) → m.pool.pending.opByWorker.lookup w = none

namespace Accounted

theorem asked_move (h : Accounted m) (move : Move d i m m') (w : WorkerId) (sb : SandboxId)
    (live : functionOf m'.pool w ≠ none)
    (last : lastAsked m'.pool.log w = some (.createSnapshot sb)) :
    m'.pool.workerBySandbox.lookup sb = some w := by
  have before := h.asked w sb
  cases move with
  | event | deny | requested | answer | handOut =>
    exact before live (by simpa [asks, Moment.note] using last)
  | tell f w' msg dying last_ =>
    rcases last_ with rfl | rfl
    · exact before live (by simpa [asks, Moment.note] using last)
    · exact before live (by simpa [asks, Moment.note] using last)
  | spawn f function sandbox accounting snapshots settled registered succeeds fresh takes unowned =>
    rw [functionOf_insert (p := m.pool) rfl] at live
    simp only [lastAsked_append, asks] at last
    cases sandbox <;> grind [Table.lookup_insert_ite, own]
  | prepare f w' cpu =>
    have before := before live
    simp only [lastAsked_append, asks] at last
    grind
  | snapshot f w' sandbox =>
    have before := before live
    simp only [lastAsked_append, asks] at last
    grind
  | retire source f w' handle function alive member look =>
    rw [functionOf_insert (p := m.pool) rfl] at live
    exact before (by grind [functionOf]) last
  | announce w' sandbox handle message look =>
    rw [functionOf_insert (p := m.pool) rfl] at live
    have before := before (by grind [functionOf]) last
    grind [Table.lookup_insert_ite]
  | reap stage w' handle =>
    rw [functionOf_erase (p := m.pool) rfl] at live
    simp only [lastAsked_append, asks] at last
    have := h.owned w' handle
    cases gone : handle.sandboxId <;> grind [Table.lookup_erase_ite, disown]
  | _ => exact before live last

theorem unmarked_move (h : Accounted m) (parts : Partition m) (move : Move d i m m')
    (f : FunctionId) (w : WorkerId) (idle : At m'.pool .idle f w)
    (marked : m'.pool.pending.opByWorker.lookup w ≠ none) : m'.closing = some w := by
  have before := h.unmarked f w
  cases move with
  | handOut f' w' mode cpu cpuset on waits free =>
    simp only [At, FunctionMetadataStore.mem_insert, FunctionMetadataStore.mem_erase] at idle
    exact before (by grind [At]) marked
  | rollback f' w' mode deadline function cpuset on known lost free =>
    simp only [At, FunctionMetadataStore.mem_insert, FunctionMetadataStore.mem_erase] at idle
    rcases free with starting | ⟨-, idle'⟩
    · have := h.started f' w' starting
      exact before (by grind [At]) marked
    · exact before (by grind [At]) marked
  | condemn f' w' | wake f' w' | retire source f' w' =>
    simp only [At, FunctionMetadataStore.mem_insert, FunctionMetadataStore.mem_erase] at idle
    exact before (by grind [At]) marked
  | prepare f' w' cpu cpuset op rest starting | prepareFailed f' w' cpuset starting =>
    have nowhere := parts.not_idle_of_starting starting f
    simp only [At, FunctionMetadataStore.mem_insert] at idle
    grind [At, Table.lookup_insert_ite]
  | park f' w' deadline active reason =>
    simp only [At, FunctionMetadataStore.mem_insert, FunctionMetadataStore.mem_erase] at idle
    by_cases here : w = w'
    · subst here
      cases reason with
      | served message released unmarked => exact absurd unmarked marked
      | prepared message who ok closing => exact closing
      | snapshotted message who closing => exact closing
    · exact before (by grind [At]) marked
  | track f' w' op rest dying =>
    have := parts.not_idle_of_at dying (by decide) f
    grind [At, Table.lookup_insert_ite]
  | snapshot f' w' sandbox op rest active =>
    have := parts.not_idle_of_at active (by decide) f
    grind [At, Table.lookup_insert_ite]
  | close w' reason settled => grind [At]
  | unmark w' closing => grind [At, Table.lookup_erase_ite]
  | reap stage w' handle function cpuset busy closing =>
    simp only [At, FunctionMetadataStore.mem_erase] at idle
    grind [At, Table.lookup_erase_ite]
  | _ => exact before idle marked

theorem started_move (h : Accounted m) (parts : Partition m) (move : Move d i m m')
    (f : FunctionId) (w : WorkerId) (starting : m'.starting = some (f, w)) :
    m'.pool.pending.opByWorker.lookup w = none := by
  have before := h.started f w
  cases move with
  | spawn f' function sandbox accounting snapshots settled registered succeeds fresh =>
    have := parts.marked w
    grind [functionOf]
  | handOut | rollback | condemn | prepare | prepareFailed => cases starting
  | track f' w' op rest dying =>
    have other : w ≠ w' := fun here => parts.nowhere_of_starting starting .dying f' (here ▸ dying)
    grind [Table.lookup_insert_ite]
  | snapshot f' w' sandbox op rest active =>
    have other : w ≠ w' := fun here => parts.nowhere_of_starting starting .active f' (here ▸ active)
    grind [Table.lookup_insert_ite]
  | unmark w' | reap stage w' => grind [Table.lookup_erase_ite]
  | _ => exact before starting

/-- The step lemma. -/
theorem move (h : Accounted m) (parts : Partition m) (move : Move d i m m') : Accounted m' where
  owned := h.owned.move move
  asked := h.asked_move move
  unmarked := h.unmarked_move parts move
  started := h.started_move parts move

theorem moves (h : Accounted m) (parts : Partition m) (moves : Moves d i m m') : Accounted m' := by
  induction moves with
  | refl => exact h
  | tail before one ih => exact ih.move (parts.moves before) one

theorem turned (h : Accounted (.top p)) (parts : Partition (.top p)) (turned : Turned d i p t) :
    Accounted (.top t) := by
  obtain ⟨released, failing, moved⟩ := turned
  have all := h.moves parts moved
  exact ⟨all.owned, all.asked, all.unmarked, all.started⟩

end Accounted

end Owners

section Kept
variable {d : Defect → Prop} {i : Input} {m m' : Moment} {p t : Pool} {f : FunctionId}
  {w : WorkerId} {sb : SandboxId} {info : PausedTimerInfo}

/-- Dying or gone: the worker will not be Idle again. -/
def Leaving (p : Pool) (f : FunctionId) (w : WorkerId) : Prop :=
  At p .dying f w ∨ functionOf p w = none

/-- The workers that were there before keep their function or are reaped. -/
theorem functionOf_of_move (old : w ≠ i.newWorkerId) (move : Move d i m m') :
    functionOf m'.pool w = functionOf m.pool w ∨ functionOf m'.pool w = none := by
  cases move with
  | spawn => exact .inl ((functionOf_insert (p := m.pool) rfl w).trans (if_neg old))
  | retire source f w' handle function live member look =>
    exact .inl ((functionOf_insert (p := m.pool) rfl w).trans (by grind [functionOf]))
  | announce w' sandbox handle message look =>
    exact .inl ((functionOf_insert (p := m.pool) rfl w).trans (by grind [functionOf]))
  | reap stage w' handle =>
    rw [functionOf_erase (p := m.pool) rfl]
    by_cases here : w = w'
    · exact .inr (if_pos here)
    · exact .inl (if_neg here)
  | _ => exact .inl rfl

theorem Leaving.move (h : Leaving m.pool f w) (old : w ≠ i.newWorkerId) (move : Move d i m m') :
    Leaving m'.pool f w := by
  rcases h with dying | gone
  · cases move with
    | handOut | rollback | wake | park | prepare | prepareFailed | condemn | retire =>
      left
      simp only [At, FunctionMetadataStore.mem_insert, FunctionMetadataStore.mem_erase]
      grind [At]
    | reap stage w' handle =>
      rw [Leaving, functionOf_erase (p := m.pool) rfl]
      simp only [At, FunctionMetadataStore.mem_erase]
      grind [At]
    | _ => exact .inl dying
  · right
    rcases functionOf_of_move old move with same | none
    · exact same.trans gone
    · exact none

/-- The keep-alive of an Active worker is set aside while its sandbox `sb` is snapshotted; what was
set aside is taken only from a worker that is being reaped. -/
structure Holding (i : Input) (m : Moment) (f : FunctionId) (w : WorkerId) (sb : SandboxId)
    (info : PausedTimerInfo) : Prop where
  active : At m.pool .active f w
  marked : m.pool.pending.opByWorker.lookup w = some .snapshot
  asked : lastAsked m.pool.log w = some (.createSnapshot sb)
  entry : m.closing ≠ some w →
    ∃ op, m.pool.pending.snapshots.lookup sb = some op ∧ op.timerInfo = some info
  reaped : m.closing = some w → ∃ f', i.event = .workerMessage (.reapMe w f')

/-- The event is no report of the worker, nor one on its sandbox. -/
structure Elsewhere (i : Input) (w : WorkerId) (sb : SandboxId) : Prop where
  prepared : ∀ resp, i.event = .workerMessage (.sandboxPreparation resp) → resp.workerId ≠ w
  snapshotted : ∀ resp, i.event = .workerMessage (.snapshotCreation resp) →
    resp.workerId ≠ w ∧ resp.sandboxId ≠ sb

theorem Holding.move (h : Holding i m f w sb info) (parts : Partition m) (acc : Accounted m)
    (old : w ≠ i.newWorkerId) (elsewhere : Elsewhere i w sb) (move : Move d i m m') :
    Holding i m' f w sb info ∨ Leaving m'.pool f w := by
  obtain ⟨active, marked, asked, entry, reaped⟩ := h
  have live : functionOf m.pool w ≠ none := by simp [parts.tracked _ _ _ active]
  have owner := acc.asked w sb live asked
  cases move with
  | event | deny | requested | answer =>
    exact .inl ⟨active, marked, by simpa [asks, Moment.note] using asked, entry, reaped⟩
  | tell f' w' msg dying last =>
    rcases last with rfl | rfl
    · exact .inl ⟨active, marked, by simpa [asks, Moment.note] using asked, entry, reaped⟩
    · exact .inl ⟨active, marked, by simpa [asks, Moment.note] using asked, entry, reaped⟩
  | spawn =>
    refine .inl ⟨active, marked, ?_, entry, reaped⟩
    simpa [asks, old.symm] using asked
  | handOut | rollback | condemn | wake =>
    refine .inl ⟨?_, marked, ?_, entry, reaped⟩
    · simp only [At, FunctionMetadataStore.mem_insert, FunctionMetadataStore.mem_erase]
      grind [At]
    · simpa [asks] using asked
  | prepare f' w' cpu cpuset op rest starting | prepareFailed f' w' cpuset starting =>
    have other : w ≠ w' := fun here => parts.nowhere_of_starting starting .active f (here ▸ active)
    refine .inl ⟨?_, ?_, ?_, entry, reaped⟩
    · simp only [At, FunctionMetadataStore.mem_insert]
      exact .inr active
    · simpa [Table.lookup_insert_ite, other] using marked
    · simpa [asks, other.symm] using asked
  | park f' w' deadline active' reason =>
    have other : w ≠ w' := by
      rintro rfl
      cases reason with
      | served message released unmarked => simp [marked] at unmarked
      | prepared message who => exact elsewhere.prepared _ message who
      | snapshotted message who => exact (elsewhere.snapshotted _ message).1 who
    refine .inl ⟨?_, marked, asked, entry, reaped⟩
    simp only [At, FunctionMetadataStore.mem_insert, FunctionMetadataStore.mem_erase]
    grind [At]
  | retire source f' w' =>
    by_cases here : (f, w) = (f', w')
    · right
      left
      simp only [At, FunctionMetadataStore.mem_insert]
      exact .inl ⟨trivial, here⟩
    · refine .inl ⟨?_, marked, asked, entry, reaped⟩
      simp only [At, FunctionMetadataStore.mem_insert, FunctionMetadataStore.mem_erase]
      exact .inr ⟨fun same => here same.2, active⟩
  | track f' w' op rest dying unmarked =>
    have other : w ≠ w' := by
      rintro rfl
      simp [marked] at unmarked
    exact .inl ⟨active, by simpa [Table.lookup_insert_ite, other] using marked, asked, entry, reaped⟩
  | snapshot f' w' sandbox op rest active' owner' unmarked =>
    have other : w ≠ w' := by
      rintro rfl
      simp [marked] at unmarked
    have apart : sb ≠ sandbox := by
      rintro rfl
      exact other (by simpa [owner] using owner')
    refine .inl ⟨active, ?_, ?_, ?_, reaped⟩
    · simpa [Table.lookup_insert_ite, other] using marked
    · simpa [asks, other.symm] using asked
    · simpa [Table.lookup_insert_ite, apart] using entry
  | joinSnapshot w' sandbox op more rest owner' marked' look =>
    refine .inl ⟨active, marked, asked, fun open_ => ?_, reaped⟩
    obtain ⟨op', look', paused⟩ := entry open_
    by_cases same : sb = sandbox
    · subst same
      obtain rfl : op' = op := Option.some.inj (look'.symm.trans look)
      exact ⟨_, AList.lookup_insert _, paused⟩
    · exact ⟨op', by simpa [Table.lookup_insert_ite, same] using look', paused⟩
  | close w' reason settled =>
    by_cases here : w' = w
    · subst here
      cases reason with
      | prepared message who => exact absurd who (elsewhere.prepared _ message)
      | snapshotted message who => exact absurd who (elsewhere.snapshotted _ message).1
      | reaped f' message =>
        exact .inl ⟨active, marked, asked, fun open_ => absurd rfl open_, fun _ => ⟨f', message⟩⟩
      | finished _ new => exact absurd new old
    · refine .inl ⟨active, marked, asked, fun _ => entry (by simp [settled]), fun closing => ?_⟩
      exact absurd (Option.some.inj closing) here
  | takeSnapshot w' sandbox op closing whose look =>
    refine .inl ⟨active, marked, asked, fun open_ => ?_, reaped⟩
    have apart : sb ≠ sandbox := by
      rintro rfl
      cases whose with
      | reported message who which => exact (elsewhere.snapshotted _ message).2 which
      | owned look owns =>
        have := acc.owned _ _ _ look owns
        exact open_ (by simpa [owner, closing] using this.symm)
    simpa [Table.lookup_erase_ite, apart] using entry open_
  | unmark w' closing about alive =>
    have other : w ≠ w' := by
      rintro rfl
      obtain ⟨f', message⟩ := reaped closing
      exact alive f' message
    refine .inl ⟨active, ?_, asked, fun _ => entry ?_, by simp⟩
    · simpa [Table.lookup_erase_ite, other] using marked
    · simpa [closing] using other.symm
  | reap stage w' handle function cpuset busy closing =>
    by_cases here : w = w'
    · exact .inr (.inr ((functionOf_erase (p := m.pool) rfl w).trans (if_pos here)))
    · refine .inl ⟨?_, ?_, ?_, fun _ => entry ?_, by simp⟩
      · simp only [At, FunctionMetadataStore.mem_erase]
        exact ⟨by simp [here], active⟩
      · simpa [Table.lookup_erase_ite, here] using marked
      · simpa [asks] using asked
      · simpa [closing] using Ne.symm here
  | _ => exact .inl ⟨active, marked, asked, entry, reaped⟩

/-- What holds of it between two events. -/
structure Paused (p : Pool) (f : FunctionId) (w : WorkerId) (sb : SandboxId)
    (info : PausedTimerInfo) : Prop where
  active : At p .active f w
  marked : p.pending.opByWorker.lookup w = some .snapshot
  asked : lastAsked p.log w = some (.createSnapshot sb)
  entry : ∃ op, p.pending.snapshots.lookup sb = some op ∧ op.timerInfo = some info

theorem holding_moves (h : Holding i m f w sb info ∨ Leaving m.pool f w) (parts : Partition m)
    (acc : Accounted m) (old : w ≠ i.newWorkerId) (elsewhere : Elsewhere i w sb)
    (moves : Moves d i m m') : Holding i m' f w sb info ∨ Leaving m'.pool f w := by
  induction moves with
  | refl => exact h
  | tail before one ih =>
    rcases ih with holding | leaving
    · exact holding.move (parts.moves before) (acc.moves parts before) old elsewhere one
    · exact .inr (leaving.move old one)

/-- An event that is no report of the worker leaves its keep-alive set aside, or ends the worker. -/
theorem Paused.turned (h : Paused p f w sb info) (parts : Partition (.top p))
    (acc : Accounted (.top p)) (old : w ≠ i.newWorkerId) (elsewhere : Elsewhere i w sb)
    (turned : Turned d i p t) : Paused t f w sb info ∨ Leaving t f w := by
  obtain ⟨released, failing, moves⟩ := turned
  have holding : Holding i (.top p) f w sb info :=
    ⟨h.active, h.marked, h.asked, fun _ => h.entry, nofun⟩
  rcases holding_moves (.inl holding) parts acc old elsewhere moves with holding | leaving
  · exact .inl ⟨holding.active, holding.marked, holding.asked, holding.entry nofun⟩
  · exact .inr leaving

theorem Leaving.turned (h : Leaving p f w) (old : w ≠ i.newWorkerId) (turned : Turned d i p t) :
    Leaving t f w := by
  obtain ⟨released, failing, moves⟩ := turned
  refine Relation.ReflTransGen.head_induction_on
    (motive := fun m _ => Leaving m.pool f w → Leaving t f w) moves id ?_ h
  exact fun one _ ih leaving => ih (leaving.move old one)

theorem Leaving.not_idle (h : Leaving p f w) (parts : Partition (.top p)) (f' : FunctionId) :
    ¬At p .idle f' w := by
  intro idle
  rcases h with dying | gone
  · exact parts.not_idle_of_at dying (by decide) f' idle
  · have live : functionOf p w = some f' := parts.tracked _ _ _ idle
    simp [gone] at live

/-- A worker's first report after it was asked for a snapshot is on that snapshot. -/
theorem Promised.elsewhere (h : Promised i p) (paused : Paused p f w sb info)
    (parts : Partition (.top p)) (acc : Accounted (.top p))
    (other : ∀ resp, i.event = .workerMessage (.snapshotCreation resp) → resp.workerId ≠ w) :
    Elsewhere i w sb := by
  refine ⟨fun resp message who => ?_, fun resp message => ⟨other resp message, fun same => ?_⟩⟩
  · obtain ⟨cpu, last⟩ := h.prepared resp message
    simp [who, paused.asked] at last
  · obtain ⟨live, last⟩ := h.snapshotted resp message
    have owner := acc.asked w sb (by simp [parts.tracked _ _ _ paused.active]) paused.asked
    have reported : functionOf p resp.workerId ≠ none := by simp [live]
    have owner' := acc.asked resp.workerId sb reported (same ▸ last)
    refine other resp message ?_
    simpa [owner] using owner'.symm

end Kept

section Report
variable {i : Input} {p t : Pool} {f : FunctionId} {w : WorkerId} {sb : SandboxId}
  {info : PausedTimerInfo} {resp : CreateSnapshotResult}

/-- The worker is due to be shut down at this instant. -/
def DueAt (p : Pool) (w : WorkerId) (deadline : Instant) : Prop :=
  p.workerDeadlines.lookup w = some deadline ∧ p.timers.lookup w = some deadline

/-- The deadline that was set aside, moved by the time since. -/
def PausedTimerInfo.resumedAt (info : PausedTimerInfo) (now : Instant) : Instant :=
  info.deadline + (now - info.tsPause)

theorem finalizeSnapshotting_resumes (parts : Partition (.top p))
    (paused : Paused p resp.functionId resp.workerId resp.sandboxId info) :
    wp (finalizeSnapshotting i resp)
      { ok := fun _ t => At t .idle resp.functionId resp.workerId ∧
          DueAt t resp.workerId (info.resumedAt i.now)
        err := fun _ _ => False
        panic := fun _ _ => True } p := by
  obtain ⟨op, look, timer⟩ := paused.entry
  simp only [finalizeSnapshotting, takeSnapshotOp]
  rw [wp_bind, wp_modifyGet]
  simp only [look, Option.bind_some, timer, parkSnapshotted, addInstant, wp_bind, wp_attempt,
    wp_require, wp_pure]
  refine ⟨fun _ => ?_, fun _ => trivial⟩
  simp only [deactivateWorker, wp_bind, wp_mapErr, workerActiveToIdle]
  refine wp_transition (fun _ => parts.known paused.active) (fun _ => ?_) (fun _ => ?_) fun missing => ?_
  · exact parts.not_idle_of_at paused.active (by decide) resp.functionId
  · simp only [setDeadline, spawnTimer, emitAdmissionEvent, record, removeOp, wp_modify,
      wp_answerSnapshot, wp_fromExcept]
    refine ⟨fun _ _ => ⟨?_, ?_, ?_⟩, by simp⟩
    · simp [At]
    · exact AList.lookup_insert _
    · exact AList.lookup_insert _
  · exact absurd paused.active missing

/-- The worker's own report, to the serving pool: it is parked with the time that was left. -/
theorem report_resumes (parts : Partition (.top p))
    (paused : Paused p resp.functionId resp.workerId resp.sandboxId info)
    (on : i.event = .workerMessage (.snapshotCreation resp)) (serving : p.phase = .serving)
    (stays : turn i p = .ok none t) :
    At t .idle resp.functionId resp.workerId ∧ DueAt t resp.workerId (info.resumedAt i.now) := by
  have spec : wp (turn i)
      { ok := fun _ t => At t .idle resp.functionId resp.workerId ∧
          DueAt t resp.workerId (info.resumedAt i.now)
        err := fun _ _ => True
        panic := fun _ _ => True } p := by
    simp only [turn, wp_bind, wp_get, serving, handleServing, on, wp_attempt, serve,
      handleWorkerStatus, wp_pure]
    exact wp_mono (finalizeSnapshotting_resumes parts paused) (fun _ _ due => due)
      (fun _ _ absurd => absurd.elim) fun _ _ _ => trivial
  exact ok_of_wp spec stays

end Report

section ShuttingDown
variable {d : Defect → Prop} {i : Input} {m m' : Moment} {p t : Pool} {f : FunctionId}
  {w : WorkerId}

/-- The events at which a serving pool may make a worker Idle. -/
def Event.Parks : Event → Prop
  | .dispatch .. | .workerMessage (.needWork ..) | .workerMessage (.sandboxPreparation _)
  | .workerMessage (.snapshotCreation _) => True
  | _ => False

theorem idle_of_moves (noPark : ¬i.event.Parks) (moves : Moves d i m m')
    (idle : At m'.pool .idle f w) : At m.pool .idle f w := by
  induction moves with
  | refl => exact idle
  | tail _ move ih =>
    refine ih ?_
    cases move with
    | handOut f' w' mode cpu cpuset on | rollback f' w' mode deadline function cpuset on =>
      exact absurd (by rw [on]; trivial) noPark
    | park f' w' deadline active reason =>
      refine absurd ?_ noPark
      cases reason with
      | served message | prepared message | snapshotted message =>
        rw [message]
        trivial
    | condemn | prepare | prepareFailed | wake | retire =>
      simp only [At, FunctionMetadataStore.mem_insert, FunctionMetadataStore.mem_erase] at idle
      grind [At]
    | reap =>
      simp only [At, FunctionMetadataStore.mem_erase] at idle
      exact idle.2
    | _ => exact idle

/-- While its workers shut down, the pool leaves the sets alone at these. -/
theorem store_of_shuttingDown (shut : p.phase = .shuttingDown) (parks : i.event.Parks) :
    wp (turn i)
      { ok := fun _ t => t.store = p.store, err := fun _ _ => True, panic := fun _ _ => True } p := by
  simp only [turn, wp_bind, wp_get, shut, handleShuttingDown]
  cases on : i.event with
  | dispatch f mode =>
    simp only [wp_bind, wp_pure, wp_ite, rejectDispatch, wp_attempt, replyDispatch, record,
      wp_modify, wp_throw]
    exact ⟨fun _ => ⟨by simp, fun _ => trivial⟩, fun _ => ⟨by simp, fun _ => trivial⟩⟩
  | workerMessage msg =>
    cases msg with
    | needWork w f =>
      simp only [drainWorkerMessage, wp_bind, wp_attempt, wp_pure, wp_ite]
      exact wp_cpuRelease (fun _ _ _ _ => ⟨by simp, fun _ => rfl⟩) (fun _ _ => ⟨by simp, fun _ => rfl⟩)
        fun _ _ _ => trivial
    | sandboxPreparation resp =>
      simp only [drainWorkerMessage, finalizeSandboxPreparationDuringShutdown, releaseForPrep,
        wp_bind, wp_attempt, wp_mapErr]
      refine wp_cpuRelease (fun _ _ _ _ => ?_) (fun _ _ => ?_) fun _ _ _ => trivial
      · simp only [takePrepOp, removeOp, wp_modifyGet, wp_answerPrep, wp_modify, wp_pure, wp_ite]
        exact ⟨by simp, fun _ => trivial⟩
      · simp only [takePrepOp, removeOp, wp_modifyGet, wp_answerPrep, wp_modify, wp_pure, wp_ite]
        exact ⟨by simp, fun _ => trivial⟩
    | snapshotCreation resp =>
      simp only [drainWorkerMessage, finalizeSnapshottingDuringShutdown, removeOp, takeSnapshotOp,
        wp_bind, wp_modify, wp_modifyGet, wp_answerSnapshot, wp_pure, wp_ite]
      exact ⟨by simp, fun _ => trivial⟩
    | sandboxId | reapMe => simp [on, Event.Parks] at parks
  | _ => simp [on, Event.Parks] at parks

/-- While its workers shut down, the pool makes none Idle. -/
theorem idle_of_shuttingDown (parts : Partition (.top p)) (own : NamesOwn i p)
    (shut : p.phase = .shuttingDown) (stays : turn i p = .ok none t) (idle : At t .idle f w) :
    At p .idle f w := by
  by_cases parks : i.event.Parks
  · have same : t.store = p.store := ok_of_wp (store_of_shuttingDown shut parks) stays
    rwa [At, same] at idle
  · have spec := turn_spec (d := fun _ => True) (fun _ => trivial) own parts
    obtain ⟨released, failing, moves⟩ := ok_of_wp spec stays rfl
    exact idle_of_moves parks moves idle

end ShuttingDown

section Request
variable {i : Input} {p t : Pool} {f : FunctionId} {w : WorkerId} {sb : SandboxId} {r : ReplyId}
  {deadline : Instant}

/-- The pool when the handler of a control request is called. -/
def received (p : Pool) (r : ReplyId) : Pool := { p with log := p.log ++ [.requested r] }

/-- The serving pool takes a request for a snapshot, and `requestSnapshotting` ends so. -/
def Requests (i : Input) (p : Pool) (sb : SandboxId) (r : ReplyId)
    (ended : Outcome Pool (CreateSnapshotError × Option ReplyId) Unit) : Prop :=
  p.phase = .serving ∧ i.event = .control (.createSnapshot sb r) ∧
    requestSnapshotting i sb (some r) (p.received r) = ended

theorem Requests.turn (h : Requests i p sb r (.ok () t)) : turn i p = .ok none t := by
  obtain ⟨serving, on, ran⟩ := h
  refine eq_ok_of_wp ?_
  simp only [Pool.turn, wp_bind, wp_get, serving]
  simp only [handleServing, on, wp_bind, wp_attempt, serve, handleControl, record, wp_modify,
    answerFailure]
  change wp (requestSnapshotting i sb (some r)) _ (p.received r)
  unfold wp
  rw [ran]
  exact ⟨rfl, rfl⟩

theorem Accounted.idle_unmarked (h : Accounted (.top p)) (idle : At p .idle f w) :
    p.pending.opByWorker.lookup w = none := by
  by_contra marked
  cases h.unmarked f w idle marked

theorem Partition.received (parts : Partition (.top p)) : Partition (.top (p.received r)) :=
  ⟨parts.registered, parts.staged, parts.single, parts.tracked, parts.started, parts.timers,
    parts.deadlines, parts.marked⟩

/-- The Idle worker is made Active, and only then asked. -/
theorem startSnapshot_idle (parts : Partition (.top p)) (idle : At p .idle f w) :
    wp (startSnapshot i w f sb (some r))
      { ok := fun _ t => i.controlOpen w = true ∧ At t .active f w ∧
          t.pending =
            { p.pending with
              opByWorker := p.pending.opByWorker.insert w .snapshot
              snapshots := p.pending.snapshots.insert sb
                { timerInfo := (p.workerDeadlines.lookup w).map fun deadline =>
                    { tsPause := i.now, deadline }
                  respondTo := [r] } } ∧
          t.log = p.log ++ [.sent w (.createSnapshot sb)]
        err := fun _ t => i.controlOpen w = false ∧ At t .active f w
        panic := fun _ _ => False } p := by
  obtain ⟨handle, look, rfl⟩ := parts.handle idle
  obtain ⟨function, known⟩ := parts.known idle
  simp only [startSnapshot, stopTimer, wp_bind, wp_modify, activateForSnapshot, removeIdleWorker]
  refine wp_removeWorker known (fun _ => ?_) fun awake => absurd idle awake
  simp only [wp_ite, wp_mapErr, insertActiveWorker]
  refine ⟨fun _ => wp_insertWorker known (fun active => ?_) ?_, by simp⟩
  · rw [At, FunctionMetadataStore.mem_erase] at active
    exact parts.not_idle_of_at active.2 (by decide) handle.functionId idle
  · simp only [wp_get, Pool.clearDeadline, wp_modify]
    refine wp_expectHandle look ?_
    simp only [sendControl, wp_ite, record, wp_modify, wp_throw, insertOp, insertSnapshotOp]
    refine ⟨fun open_ => ⟨open_, ?_, rfl, trivial⟩, fun closed => ⟨by simpa using closed, ?_⟩⟩
    · simp [At]
    · simp [At]

/-- A request for the sandbox of an Idle worker starts a snapshot, unless there are to be none. -/
theorem wp_requestSnapshotting_idle {Q : Post Pool (CreateSnapshotError × Option ReplyId) Unit}
    (parts : Partition (.top p)) (acc : Accounted (.top p)) (idle : At p .idle f w)
    (owner : p.workerBySandbox.lookup sb = some w)
    (disabled : p.config.snapshotCreationTime = .never → Q.err (.disabled, some r) (p.received r))
    (starts : p.config.snapshotCreationTime ≠ .never →
      wp (startSnapshot i w f sb (some r)) Q (p.received r)) :
    wp (requestSnapshotting i sb (some r)) Q (p.received r) := by
  obtain ⟨handle, look, rfl⟩ := parts.handle idle
  have look' : (p.received r).workerHandles.lookup w = some handle := look
  have owner' : (p.received r).workerBySandbox.lookup sb = some w := owner
  have unmarked : (p.received r).pending.opByWorker.lookup w = none := acc.idle_unmarked idle
  simp only [requestSnapshotting, wp_bind, wp_get, wp_ite, wp_throw]
  refine ⟨disabled, fun enabled => ?_⟩
  simp only [owner', unmarked, wp_bind]
  exact wp_expectHandle look' (starts enabled)

/-- The request is accepted: the worker's keep-alive is set aside. -/
theorem Requests.paused (h : Requests i p sb r (.ok () t)) (parts : Partition (.top p))
    (acc : Accounted (.top p)) (idle : At p .idle f w)
    (owner : p.workerBySandbox.lookup sb = some w)
    (due : p.workerDeadlines.lookup w = some deadline) :
    Paused t f w sb { tsPause := i.now, deadline } := by
  have spec : wp (requestSnapshotting i sb (some r))
      { ok := fun _ t => Paused t f w sb { tsPause := i.now, deadline }
        err := fun _ _ => True
        panic := fun _ _ => True } (p.received r) := by
    refine wp_requestSnapshotting_idle parts acc idle owner (fun _ => trivial) fun _ => ?_
    refine wp_mono (startSnapshot_idle parts.received idle) ?_ (fun _ _ _ => trivial)
      fun _ _ _ => trivial
    rintro - t ⟨-, active, pending, log⟩
    have due' : (p.received r).workerDeadlines.lookup w = some deadline := due
    rw [due'] at pending
    refine ⟨active, ?_, ?_, ?_⟩
    · simp [pending]
    · simp [log, asks]
    · exact ⟨_, by rw [pending, AList.lookup_insert], rfl⟩
  exact ok_of_wp spec h.2.2

/-- A worker that is not Idle has no keep-alive to be paused: whatever fails, nothing has changed. -/
theorem startSnapshot_awake (parts : Partition (.top p)) {handle : WorkerHandle}
    (look : p.workerHandles.lookup w = some handle) (awake : ¬At p .idle handle.functionId w) :
    wp (startSnapshot i w handle.functionId sb (some r))
      { ok := fun _ _ => True, err := fun _ t => t = p, panic := fun _ _ => True } p := by
  obtain ⟨function, known⟩ :=
    Option.ne_none_iff_exists'.mp (parts.registered w _ (functionOf_of_lookup look))
  have nowhere (f : FunctionId) : ¬At p .idle f w := by
    intro idle
    obtain rfl := parts.function_of_at idle look
    exact awake idle
  obtain ⟨timer, deadline⟩ : w ∉ p.timers ∧ w ∉ p.workerDeadlines :=
    parts.notMem_of_not_idle nowhere
  have untimed : { p with timers := p.timers.erase w } = p := by rw [Table.erase_of_notMem timer]
  simp only [startSnapshot, stopTimer, wp_bind, wp_modify, untimed, activateForSnapshot,
    removeIdleWorker]
  refine wp_removeWorker known (fun idle => absurd idle awake) fun _ => ?_
  simp only [wp_ite, Bool.false_eq_true, false_imp_iff, not_false_eq_true, true_imp_iff, true_and,
    wp_bind, wp_get]
  cases findActiveWorker p w with
  | some _ =>
    simp only [wp_pure, Pool.clearDeadline, wp_modify, Table.erase_of_notMem deadline]
    refine wp_expectHandle look ?_
    simp only [wp_mapErr, sendControl, wp_ite, record, wp_modify, wp_throw, insertOp,
      insertSnapshotOp]
    exact ⟨fun _ => trivial, fun _ => trivial⟩
  | none => cases findDyingWorker p w <;> exact rfl

/-- A worker's set, deadline and timer are what they were. -/
structure AsBefore (p t : Pool) (w : WorkerId) : Prop where
  sets : ∀ stage f, At t stage f w ↔ At p stage f w
  deadline : t.workerDeadlines.lookup w = p.workerDeadlines.lookup w
  timer : t.timers.lookup w = p.timers.lookup w

/-- A request for a snapshot that fails leaves all keep-alives alone. -/
def RollsBack (p : Pool) (i : Input) : Prop :=
  ∀ sb r e t, Requests i p sb r (.err e t) → ∀ w, AsBefore p t w

/-- The control channel of an Idle worker whose sandbox is to be snapshotted takes the message. -/
def ChannelOpen (p : Pool) (i : Input) : Prop :=
  ∀ sb r f w, p.phase = .serving → i.event = .control (.createSnapshot sb r) →
    p.config.snapshotCreationTime ≠ .never → p.workerBySandbox.lookup sb = some w →
    At p .idle f w → i.controlOpen w = true

theorem requestSnapshotting_open (parts : Partition (.top p)) (acc : Accounted (.top p))
    (open_ : ∀ f w, p.config.snapshotCreationTime ≠ .never →
      p.workerBySandbox.lookup sb = some w → At p .idle f w → i.controlOpen w = true) :
    wp (requestSnapshotting i sb (some r))
      { ok := fun _ _ => True
        err := fun _ t => t = p.received r
        panic := fun _ _ => True } (p.received r) := by
  by_cases idle : ∃ f w, p.workerBySandbox.lookup sb = some w ∧ At p .idle f w
  · obtain ⟨f, w, owner, idle⟩ := idle
    refine wp_requestSnapshotting_idle parts acc idle owner (fun _ => rfl) fun enabled => ?_
    refine wp_mono (startSnapshot_idle parts.received idle) (fun _ _ _ => trivial) ?_
      fun _ _ _ => trivial
    rintro e t ⟨closed, -⟩
    simp [open_ f w enabled owner idle] at closed
  · simp only [requestSnapshotting, wp_bind, wp_get, wp_ite, wp_throw]
    refine ⟨fun _ => trivial, fun _ => ?_⟩
    cases owner : (p.received r).workerBySandbox.lookup sb with
    | none => exact rfl
    | some w =>
      simp only [expectHandle, wp_bind, wp_get, wp_expect]
      refine ⟨fun handle look => ?_, fun _ => trivial⟩
      cases (p.received r).pending.opByWorker.lookup w with
      | none => exact startSnapshot_awake parts.received look fun member => idle ⟨_, w, owner, member⟩
      | some op =>
        cases op with
        | snapshot =>
          simp only [joinSnapshot, wp_bind, wp_get, wp_expect, insertSnapshotOp, wp_modify]
          exact ⟨fun _ _ => trivial, fun _ => trivial⟩
        | prepareSandbox => exact rfl
        | destroySandbox => exact rfl

/-- The step lemma of the roll-back: it fails only for a worker whose channel is closed. -/
theorem rollsBack_iff (parts : Partition (.top p)) (acc : Accounted (.top p)) :
    RollsBack p i ↔ ChannelOpen p i := by
  constructor
  · intro rollsBack sb r f w serving on enabled owner idle
    by_contra closed
    have spec : wp (requestSnapshotting i sb (some r))
        { ok := fun _ _ => False
          err := fun _ t => At t .active f w
          panic := fun _ _ => False } (p.received r) := by
      refine wp_requestSnapshotting_idle parts acc idle owner (fun never => absurd never enabled)
        fun _ => ?_
      exact wp_mono (startSnapshot_idle parts.received idle) (fun _ _ done => closed done.1)
        (fun _ _ failed => failed.2) fun _ _ absurd => absurd
    unfold wp at spec
    match ran : requestSnapshotting i sb (some r) (p.received r) with
    | .ok _ t => rw [ran] at spec; exact spec
    | .panic msg t => rw [ran] at spec; exact spec
    | .err e t =>
      rw [ran] at spec
      have before := (rollsBack sb r e t ⟨serving, on, ran⟩ w).sets .active f
      exact parts.not_idle_of_at (before.mp spec) (by decide) f idle
  · rintro open_ sb r e t ⟨serving, on, ran⟩ w
    have spec := requestSnapshotting_open (i := i) (r := r) parts acc fun f w enabled owner =>
      open_ sb r f w serving on enabled owner
    obtain rfl : t = p.received r := err_of_wp spec ran
    exact ⟨fun _ _ => Iff.rfl, rfl, rfl⟩

end Request

section Run
variable {i : Input} {p t : Pool} {f : FunctionId} {w : WorkerId} {sb : SandboxId}
  {info : PausedTimerInfo} {inputs : List Input}

/-- What the pool's workers are like between two events. -/
def Sound (p : Pool) : Prop := Partition (.top p) ∧ Accounted (.top p)

theorem sound_spawn {config : SandboxPoolConfig} {cpus : List Cpu} {memory : MemoryStats}
    {functions : Table FunctionId RegisteredFunction}
    {snapshots : Table FunctionId (List Sandbox)} :
    Sound (spawn config cpus memory functions snapshots) := by
  refine ⟨partition_spawn, ?_⟩
  constructor
  · intro w handle sb look
    simp [Moment.top, spawn] at look
  · simp [Moment.top, spawn, functionOf]
  · simp [Moment.top, spawn, At]
  · simp [Moment.top]

theorem Sound.turn (h : Sound p) (promised : Promised i p) (stays : turn i p = .ok none t) :
    Sound t := by
  have turned := ok_of_wp (turn_spec (d := fun _ => True) (fun _ => trivial) promised.own h.1) stays rfl
  exact ⟨h.1.turned turned, h.2.turned h.1 turned⟩

/-- The worker is there, and not Idle. -/
def Away (w : WorkerId) (p : Pool) : Prop := functionOf p w ≠ none ∧ ∀ f, ¬At p .idle f w

/-- How a worker is while its keep-alive is set aside: it waits for its snapshot, or will not be Idle
again, because it is on its way out or because the pool is. -/
def Waiting (p : Pool) (f : FunctionId) (w : WorkerId) (sb : SandboxId) (info : PausedTimerInfo) :
    Prop :=
  Paused p f w sb info ∨ Leaving p f w ∨ p.phase = .shuttingDown ∧ ∀ f', ¬At p .idle f' w

theorem Waiting.not_idle (h : Waiting p f w sb info) (parts : Partition (.top p))
    (f' : FunctionId) : ¬At p .idle f' w := by
  rcases h with paused | leaving | ⟨-, none⟩
  · exact parts.not_idle_of_at paused.active (by decide) f'
  · exact leaving.not_idle parts f'
  · exact none f'

/-- One event: the worker goes on waiting, or is parked with the time that was left. -/
theorem waiting_turn (h : Waiting p f w sb info) (sound : Sound p) (promised : Promised i p)
    (live : functionOf p w ≠ none) (stays : turn i p = .ok none t) :
    Waiting t f w sb info ∨
      (∃ f', At t .idle f' w) ∧ DueAt t w (info.resumedAt i.now) := by
  obtain ⟨parts, acc⟩ := sound
  have old : w ≠ i.newWorkerId := by
    rintro rfl
    exact live promised.fresh
  have spec := turn_spec (d := fun _ => True) (fun _ => trivial) promised.own parts
  have turned := ok_of_wp spec stays rfl
  have shuttingDown (shut : p.phase = .shuttingDown) (none : ∀ f', ¬At p .idle f' w) :
      Waiting t f w sb info := by
    obtain ⟨released, failing, moves⟩ := turned
    refine .inr (.inr ⟨shuttingDown_of_moves (m := .top p) shut moves, fun f' idle => ?_⟩)
    exact none f' (idle_of_shuttingDown parts promised.own shut stays idle)
  rcases h with paused | leaving | ⟨shut, none⟩
  · by_cases own : ∃ resp, i.event = .workerMessage (.snapshotCreation resp) ∧ resp.workerId = w
    · obtain ⟨resp, message, rfl⟩ := own
      obtain ⟨function, last⟩ := promised.snapshotted resp message
      obtain rfl : f = resp.functionId := by
        have tracked : functionOf p resp.workerId = some f := parts.tracked _ _ _ paused.active
        simpa [tracked] using function
      obtain rfl : sb = resp.sandboxId := by simpa [paused.asked] using last
      match phase : p.phase with
      | .serving =>
        obtain ⟨idle, due⟩ := report_resumes parts paused message phase stays
        exact .inr ⟨⟨_, idle⟩, due⟩
      | .shuttingDown =>
        exact .inl (shuttingDown phase (parts.not_idle_of_at paused.active (by decide)))
    · have elsewhere := promised.elsewhere paused parts acc fun resp message who =>
        own ⟨resp, message, who⟩
      rcases paused.turned parts acc old elsewhere turned with still | leaving
      · exact .inl (.inl still)
      · exact .inl (.inr (.inl leaving))
  · exact .inl (.inr (.inl (leaving.turned old turned)))
  · exact .inl (shuttingDown shut none)

/-- The run lemma: when the worker is Idle for the first time, it is due as much later. -/
theorem waiting_run {between : List Input} {j : Input} {f' : FunctionId}
    (h : Waiting p f w sb info)
    (tops : AllTurns turn (fun p i => Sound p ∧ Promised i p) (between ++ [j]) p)
    (away : AllTurns turn (fun p _ => Away w p) (between ++ [j]) p)
    (ran : run (between ++ [j]) p = .running t) (idle : At t .idle f' w) :
    DueAt t w (info.resumedAt j.now) := by
  induction between generalizing p with
  | nil =>
    obtain ⟨sound, promised⟩ := tops.1
    have stays := turn_of_run ran
    rcases waiting_turn h sound promised away.1.1 stays with waiting | ⟨-, due⟩
    · exact absurd idle (waiting.not_idle (sound.turn promised stays).1 f')
    · exact due
  | cons k between ih =>
    obtain ⟨⟨sound, promised⟩, tops⟩ := tops
    obtain ⟨⟨live, -⟩, away⟩ := away
    simp only [List.cons_append, Pool.run, iterate] at ran
    cases one : turn k p with
    | ok r u =>
      rw [one] at ran
      cases r with
      | none =>
        rcases waiting_turn h sound promised live one with waiting | ⟨⟨f'', parked⟩, -⟩
        · exact ih waiting (tops u one) (away u one) ran
        · have here : Away w u := by
            have later := away u one
            cases between with
            | nil => exact later.1
            | cons => exact later.1
          exact absurd parked (here.2 f'')
      | some r => cases ran
    | err e _ => exact e.elim
    | panic msg u =>
      rw [one] at ran
      cases ran

/-- When an Idle worker whose snapshot was requested, and accepted, is Idle for the first time again,
its deadline and its timer are those it had, moved by the time since. -/
def Resumes (inputs : List Input) (start : Pool) : Prop :=
  ∀ before i between j p q t sb r f f' w deadline,
    before ++ i :: (between ++ [j]) <+: inputs → run before start = .running p →
    Requests i p sb r (.ok () q) → p.workerBySandbox.lookup sb = some w → At p .idle f w →
    p.workerDeadlines.lookup w = some deadline →
    AllTurns turn (fun p _ => Away w p) (between ++ [j]) q →
    run (between ++ [j]) q = .running t → At t .idle f' w →
    DueAt t w (deadline + (j.now - i.now))

theorem sound_tops {start : Pool} (init : Sound start)
    (promised : AllTurns turn (fun p i => Promised i p) inputs start) :
    AllTurns turn (fun p i => Sound p ∧ Promised i p) inputs start :=
  promised.strengthen (fun _ _ _ => Sound.turn) init

theorem resumes {start : Pool}
    (tops : AllTurns turn (fun p i => Sound p ∧ Promised i p) inputs start) :
    Resumes inputs start := by
  intro before i between j p q t sb r f f' w deadline taken ran accepted owner idle due away later
  have rest := (tops.of_front taken).rest ran
  obtain ⟨⟨⟨parts, acc⟩, -⟩, rest⟩ := rest
  have paused := accepted.paused parts acc idle owner due
  exact waiting_run (.inl paused) (rest q accepted.turn) away later

theorem allRollsBack_iff {start : Pool}
    (tops : AllTurns turn (fun p i => Sound p ∧ Promised i p) inputs start) :
    AllTurns turn RollsBack inputs start ↔ AllTurns turn ChannelOpen inputs start :=
  tops.congr fun _ _ ⟨⟨parts, acc⟩, _⟩ => rollsBack_iff parts acc

/-- A snapshot only shifts the keep-alive of an Idle worker, and a request for one that fails leaves
it alone, exactly if the control channel of each Idle worker that is to be asked takes the message. -/
theorem keepalive_shifted_iff (config : SandboxPoolConfig) (cpus : List Cpu) (memory : MemoryStats)
    (functions : Table FunctionId RegisteredFunction)
    (snapshots : Table FunctionId (List Sandbox)) (inputs : List Input)
    (promised : AllTurns turn (fun p i => Promised i p) inputs
      (spawn config cpus memory functions snapshots)) :
    (Resumes inputs (spawn config cpus memory functions snapshots) ∧
        AllTurns turn RollsBack inputs (spawn config cpus memory functions snapshots)) ↔
      AllTurns turn ChannelOpen inputs (spawn config cpus memory functions snapshots) := by
  have tops := sound_tops sound_spawn promised
  rw [allRollsBack_iff tops]
  exact and_iff_right (resumes tops)

/-- Worker 1 has served an invocation and is Idle until 60. At 10 a snapshot of its sandbox 9 is
requested; the worker reports on it at 30. -/
def snapshotWhileIdle (open_ : Bool) : List Input :=
  let at_ (now : Instant) (worker : WorkerId) (event : Event) : Input :=
    { event.smooth worker with now, assign := fun _ => some 60, controlOpen := fun _ => open_ }
  [at_ 0 1 (.dispatch 7 .reuseIdleOrProvision),
    at_ 0 2 (.workerMessage (.sandboxId 1 9)),
    at_ 0 2 (.workerMessage (.needWork 1 7)),
    at_ 10 2 (.control (.createSnapshot 9 5)),
    at_ 30 2 (.workerMessage (.snapshotCreation
      { workerId := 1, functionId := 7, sandboxId := 9, result := .ok () }))]

/-- A pool with one function, whose sandboxes are snapshotted on demand. -/
def onDemand : Pool :=
  spawn { single.config with snapshotCreationTime := .onlyOnDemand } [0] single.memory
    (AList.insert 7 { memory := 2, admission := none } ∅) ∅

/-- What is promised of the events of `snapshotWhileIdle`. -/
def PromisedThere (p : Pool) (i : Input) : Prop :=
  functionOf p i.newWorkerId = none ∧
    match i.event with
    | .workerMessage (.snapshotCreation resp) => functionOf p resp.workerId = some resp.functionId ∧
        lastAsked p.log resp.workerId = some (.createSnapshot resp.sandboxId)
    | .workerMessage (.sandboxPreparation _) | .workerMessage (.reapMe ..) => False
    | _ => True

instance (p : Pool) (i : Input) : Decidable (PromisedThere p i) := by
  delta PromisedThere
  refine @instDecidableAnd _ _ _ ?_
  exact match i.event with
    | .workerMessage (.snapshotCreation _) | .workerMessage (.sandboxPreparation _)
    | .workerMessage (.reapMe ..) | .workerMessage (.sandboxId ..)
    | .workerMessage (.needWork ..) => inferInstance
    | .quit | .admissionClosed | .keepaliveTimeout _ | .snapmanMessage | .dispatch .. | .control _
    | .shutdownTick | .registerFunction .. | .deregisterFunction _ => inferInstance

theorem PromisedThere.promised (h : PromisedThere p i) : Promised i p := by
  obtain ⟨fresh, reports⟩ := h
  constructor
  · intro w f message
    simp [message] at reports
  · exact fresh
  · intro resp message
    simp [message] at reports
  · intro resp message
    simpa [message] using reports

theorem keepalive_shifted_onDemand :
    (Resumes (snapshotWhileIdle true) onDemand ∧
        AllTurns turn RollsBack (snapshotWhileIdle true) onDemand) ∧
      (run (snapshotWhileIdle true) onDemand).state.workerDeadlines.lookup 1 = some 80 := by
  have promised : AllTurns turn PromisedThere (snapshotWhileIdle true) onDemand := by
    decide +kernel
  refine ⟨(keepalive_shifted_iff _ _ _ _ _ _ (promised.mono fun _ _ => (·.promised))).mpr ?_, ?_⟩
  · refine AllTurns.of_forall_mem (fun i mem p sb r f w _ _ _ _ _ => ?_) _
    simp only [snapshotWhileIdle, List.mem_cons, List.not_mem_nil, or_false] at mem
    rcases mem with rfl | rfl | rfl | rfl | rfl <;> rfl
  · decide +kernel

/-- The request fails, and worker 1 stays Active. -/
theorem refused_snapshot_keeps_active :
    ¬AllTurns turn RollsBack ((snapshotWhileIdle false).take 4) onDemand := by
  have promised : AllTurns turn PromisedThere ((snapshotWhileIdle false).take 4) onDemand := by
    decide +kernel
  have init : Sound onDemand := sound_spawn
  rw [allRollsBack_iff (sound_tops init (promised.mono fun _ _ => (·.promised)))]
  intro open_
  have asked : AllTurns turn (fun p i => p.phase = .serving ∧
      i.event = .control (.createSnapshot 9 5) ∧ p.config.snapshotCreationTime ≠ .never ∧
      p.workerBySandbox.lookup 9 = some 1 ∧ At p .idle 7 1 → i.controlOpen 1 = true)
      ((snapshotWhileIdle false).take 4) onDemand :=
    open_.mono fun p i open_ ⟨serving, on, enabled, owner, idle⟩ =>
      open_ 9 5 7 1 serving on enabled owner idle
  revert asked
  decide +kernel

end Run

end Pool
end Snaplace
