import Snaplace.Pool.Moves

/-!
# The three sets of workers

Every live worker is in exactly one of the sets of its own function, except one that has just been
spawned; the workers with a keep-alive timer and those with a deadline are the Idle ones. Every move
keeps this.
-/
namespace Snaplace
open Foundation

namespace Pool

/-- The function of a live worker. -/
def functionOf (p : Pool) (w : WorkerId) : Option FunctionId :=
  (p.workerHandles.lookup w).map WorkerHandle.functionId

theorem functionOf_of_lookup {p : Pool} {w : WorkerId} {handle : WorkerHandle}
    (look : p.workerHandles.lookup w = some handle) : functionOf p w = some handle.functionId := by
  simp [functionOf, look]

theorem functionOf_eq_some {p : Pool} {w : WorkerId} {f : FunctionId} :
    functionOf p w = some f ↔
      ∃ handle, p.workerHandles.lookup w = some handle ∧ handle.functionId = f := by
  simp [functionOf]

theorem functionOf_insert {p q : Pool} {w : WorkerId} {handle : WorkerHandle}
    (handles : q.workerHandles = p.workerHandles.insert w handle) (w' : WorkerId) :
    functionOf q w' = if w' = w then some handle.functionId else functionOf p w' := by
  simp only [functionOf, handles, Table.lookup_insert_ite]
  split <;> rfl

theorem functionOf_erase {p q : Pool} {w : WorkerId}
    (handles : q.workerHandles = p.workerHandles.erase w) (w' : WorkerId) :
    functionOf q w' = if w' = w then none else functionOf p w' := by
  simp only [functionOf, handles, Table.lookup_erase_ite]
  split <;> rfl

/-- An update of a handle that keeps its function. -/
theorem functionOf_update {p q : Pool} {w : WorkerId} {handle handle' : WorkerHandle}
    (look : p.workerHandles.lookup w = some handle)
    (handles : q.workerHandles = p.workerHandles.insert w handle')
    (same : handle'.functionId = handle.functionId) (w' : WorkerId) :
    functionOf q w' = functionOf p w' := by
  rw [functionOf_insert handles]
  split
  next here => rw [here, functionOf_of_lookup look, same]
  next => rfl

structure Partition (m : Moment) : Prop where
  /-- A worker's function stays registered. -/
  registered : ∀ w f, functionOf m.pool w = some f → m.pool.store.functions.lookup f ≠ none
  staged : ∀ w f, functionOf m.pool w = some f → m.starting ≠ some (f, w) →
    ∃ stage, At m.pool stage f w
  single : ∀ stage stage' f w, At m.pool stage f w → At m.pool stage' f w → stage = stage'
  tracked : ∀ stage f w, At m.pool stage f w → functionOf m.pool w = some f
  started : ∀ f w, m.starting = some (f, w) →
    functionOf m.pool w = some f ∧ ∀ stage, ¬At m.pool stage f w
  timers : ∀ w, w ∈ m.pool.timers ↔ ∃ f, At m.pool .idle f w
  deadlines : ∀ w, w ∈ m.pool.workerDeadlines ↔ ∃ f, At m.pool .idle f w
  /-- Only live workers are marked. -/
  marked : ∀ w, m.pool.pending.opByWorker.lookup w ≠ none → functionOf m.pool w ≠ none

variable {d : Defect → Prop} {i : Input} {m m' : Moment}

namespace Partition

theorem function_of_at (h : Partition m) {stage : Stage} {f : FunctionId} {w : WorkerId}
    (member : At m.pool stage f w) {handle : WorkerHandle}
    (look : m.pool.workerHandles.lookup w = some handle) : handle.functionId = f := by
  have := h.tracked stage f w member
  simpa [functionOf_of_lookup look] using this

/-- The set and the function of a worker are unique. -/
theorem unique (h : Partition m) {stage stage' : Stage} {f f' : FunctionId} {w : WorkerId}
    (member : At m.pool stage f w) (member' : At m.pool stage' f' w) :
    stage = stage' ∧ f = f' := by
  obtain rfl : f = f' := by
    have := h.tracked stage f w member
    simpa [h.tracked stage' f' w member'] using this.symm
  exact ⟨h.single _ _ _ _ member member', rfl⟩

theorem notMem_of_not_idle (h : Partition m) {w : WorkerId} (awake : ∀ f, ¬At m.pool .idle f w) :
    w ∉ m.pool.timers ∧ w ∉ m.pool.workerDeadlines := by
  rw [h.timers, h.deadlines]
  simpa using awake

/-- A live worker is put into one set, out of the one it was in, if any. -/
theorem relocate (h : Partition m) (source target : Stage) {f : FunctionId}
    {w : WorkerId} (live : functionOf m.pool w = some f)
    (member : ∀ stage, At m.pool stage f w → stage = source)
    (starting : m.starting = some (f, w) ∧ m'.starting = none ∨
      m.starting = none ∧ m'.starting = none ∨
      m'.starting = m.starting ∧ At m.pool source f w)
    (functions : ∀ w', functionOf m'.pool w' = functionOf m.pool w')
    (store : m'.pool.store = (m.pool.store.erase source (f, w)).insert target (f, w))
    (timers : ∀ w', w' ∈ m'.pool.timers ↔ if w' = w then target = .idle else w' ∈ m.pool.timers)
    (deadlines : ∀ w', w' ∈ m'.pool.workerDeadlines ↔
      if w' = w then target = .idle else w' ∈ m.pool.workerDeadlines)
    (marks : ∀ w', w' ≠ w → m'.pool.pending.opByWorker.lookup w' ≠ none →
      m.pool.pending.opByWorker.lookup w' ≠ none) : Partition m' := by
  have at_ : ∀ stage f' w', At m'.pool stage f' w' ↔
      if f' = f ∧ w' = w then stage = target else At m.pool stage f' w' := by
    intro stage f' w'
    simp only [At, store, FunctionMetadataStore.mem_insert, FunctionMetadataStore.mem_erase,
      Prod.mk.injEq]
    split
    next here =>
      obtain ⟨rfl, rfl⟩ := here
      have := member stage
      grind [At]
    next other => grind
  have other : ∀ {stage f' }, At m.pool stage f' w → f' = f := fun at_ => by
    simpa [live] using (h.tracked _ _ _ at_).symm
  have idle : ∀ w', (∃ f', At m'.pool .idle f' w') ↔
      if w' = w then target = .idle else ∃ f', At m.pool .idle f' w' := by
    intro w'
    by_cases here : w' = w
    · refine ⟨?_, fun idle => ⟨f, by grind⟩⟩
      rintro ⟨f', one⟩
      grind
    · simp [at_, here]
  constructor
  · simpa [functions, store] using h.registered
  · intro w' f' fn settled
    rw [functions] at fn
    by_cases here : w' = w
    · obtain rfl : f = f' := by simpa [here, live] using fn
      exact ⟨target, by simp [at_, here]⟩
    · obtain ⟨stage, before⟩ := h.staged w' f' fn (by grind)
      exact ⟨stage, by simp [at_, here, before]⟩
  · intro stage stage' f' w' one two
    have := h.single stage stage' f' w'
    grind
  · intro stage f' w' one
    have := h.tracked stage f' w'
    grind
  · intro f' w' start
    have := h.started f' w'
    grind
  · intro w'
    rw [timers, idle, h.timers]
  · intro w'
    rw [deadlines, idle, h.deadlines]
  · intro w' marked
    have := h.marked w'
    grind

theorem not_idle_of_at (h : Partition m) {stage : Stage} {f : FunctionId} {w : WorkerId}
    (member : At m.pool stage f w) (busy : stage ≠ .idle) (f' : FunctionId) :
    ¬At m.pool .idle f' w :=
  fun idle => busy (h.unique member idle).1

/-- A worker that has just been spawned is in no set. -/
theorem nowhere_of_starting (h : Partition m) {f : FunctionId} {w : WorkerId}
    (starting : m.starting = some (f, w)) (stage : Stage) (f' : FunctionId) :
    ¬At m.pool stage f' w := by
  intro member
  obtain ⟨live, nowhere⟩ := h.started f w starting
  obtain rfl : f = f' := by simpa [live] using h.tracked _ _ _ member
  exact nowhere _ member

theorem not_idle_of_starting (h : Partition m) {f : FunctionId} {w : WorkerId}
    (starting : m.starting = some (f, w)) (f' : FunctionId) : ¬At m.pool .idle f' w :=
  h.nowhere_of_starting starting .idle f'

theorem store_of_starting (h : Partition m) {f : FunctionId} {w : WorkerId}
    (starting : m.starting = some (f, w)) (stage : Stage) :
    m.pool.store.erase stage (f, w) = m.pool.store :=
  FunctionMetadataStore.erase_of_notMem ((h.started f w starting).2 stage)

theorem available (h : Partition m) {f : FunctionId} {w : WorkerId} (free : Available m f w) :
    functionOf m.pool w = some f ∧ (∀ stage, At m.pool stage f w → stage = .idle) ∧
      (m.starting = some (f, w) ∨ m.starting = none) := by
  obtain starting | ⟨settled, idle⟩ := free
  · obtain ⟨live, nowhere⟩ := h.started f w starting
    exact ⟨live, fun stage member => absurd member (nowhere stage), .inl starting⟩
  · exact ⟨h.tracked _ _ _ idle, fun stage member => h.single _ _ _ _ member idle, .inr settled⟩

/-- A new worker, in none of the sets. -/
theorem start (h : Partition m) {f : FunctionId} {w : WorkerId} (settled : m.starting = none)
    (fresh : functionOf m.pool w = none) (known : m.pool.store.functions.lookup f ≠ none)
    (starting : m'.starting = some (f, w)) (store : m'.pool.store = m.pool.store)
    (functions : ∀ w', functionOf m'.pool w' = if w' = w then some f else functionOf m.pool w')
    (timers : m'.pool.timers = m.pool.timers)
    (deadlines : m'.pool.workerDeadlines = m.pool.workerDeadlines)
    (marks : m'.pool.pending.opByWorker = m.pool.pending.opByWorker) : Partition m' := by
  have at_ : ∀ stage f' w', At m'.pool stage f' w' ↔ At m.pool stage f' w' := by simp [At, store]
  have nowhere : ∀ stage f', ¬At m.pool stage f' w := fun stage f' member => by
    simpa [fresh] using h.tracked _ _ _ member
  constructor
  · intro w' f' fn
    have := h.registered w' f'
    grind
  · intro w' f' fn
    have := h.staged w' f'
    grind
  · simpa only [at_] using h.single
  · intro stage f' w'
    have := h.tracked stage f' w'
    grind
  · intro f' w' start
    grind
  · simpa only [timers, at_] using h.timers
  · simpa only [deadlines, at_] using h.deadlines
  · intro w'
    have := h.marked w'
    grind

/-- A worker that is not Idle is taken out of its set and forgotten. -/
theorem remove (h : Partition m) {stage : Stage} {f : FunctionId} {w : WorkerId}
    (busy : stage ≠ .idle) (member : At m.pool stage f w) (starting : m'.starting = m.starting)
    (store : m'.pool.store = m.pool.store.erase stage (f, w))
    (functions : ∀ w', functionOf m'.pool w' = if w' = w then none else functionOf m.pool w')
    (timers : m'.pool.timers = m.pool.timers)
    (deadlines : m'.pool.workerDeadlines = m.pool.workerDeadlines.erase w)
    (marks : m'.pool.pending.opByWorker = m.pool.pending.opByWorker.erase w) : Partition m' := by
  have at_ : ∀ stage' f' w', At m'.pool stage' f' w' ↔ w' ≠ w ∧ At m.pool stage' f' w' := by
    intro stage' f' w'
    have same (member' : At m.pool stage' f' w) := h.unique member member'
    simp only [At, store, FunctionMetadataStore.mem_erase, Prod.mk.injEq] at *
    grind
  have awake := h.not_idle_of_at member busy
  have live := h.tracked _ _ _ member
  constructor
  · intro w' f' fn
    have := h.registered w' f'
    grind [FunctionMetadataStore.erase_functions]
  · intro w' f' fn
    have := h.staged w' f'
    grind
  · intro stage' stage'' f' w'
    have := h.single stage' stage'' f' w'
    grind
  · intro stage' f' w'
    have := h.tracked stage' f' w'
    grind
  · intro f' w' start
    have := h.started f' w'
    grind
  · intro w'
    have := h.timers w'
    grind
  · intro w'
    have := h.deadlines w'
    grind [AList.mem_erase]
  · intro w'
    have := h.marked w'
    grind [Table.lookup_erase_ite]

theorem marks (h : Partition m) (starting : m'.starting = m.starting)
    (store : m'.pool.store = m.pool.store) (timers : m'.pool.timers = m.pool.timers)
    (deadlines : m'.pool.workerDeadlines = m.pool.workerDeadlines)
    (functions : ∀ w, functionOf m'.pool w = functionOf m.pool w)
    (marks : ∀ w, m'.pool.pending.opByWorker.lookup w ≠ none → functionOf m.pool w ≠ none) :
    Partition m' := by
  have at_ : ∀ stage f w, At m'.pool stage f w ↔ At m.pool stage f w := by simp [At, store]
  constructor
  · simpa only [functions, store] using h.registered
  · simpa only [functions, starting, at_] using h.staged
  · simpa only [at_] using h.single
  · simpa only [functions, at_] using h.tracked
  · simpa only [functions, starting, at_] using h.started
  · simpa only [timers, at_] using h.timers
  · simpa only [deadlines, at_] using h.deadlines
  · simpa only [functions] using marks

/-- The step lemma: one move keeps the partition. -/
theorem move (h : Partition m) (move : Move d i m m') : Partition m' := by
  cases move with
  | event | deny | requested | answer | requeue | drop | tell | release | joinDestr | joinSnapshot
  | close | takePrep | takeSnapshot | shutDown =>
    exact ⟨h.registered, h.staged, h.single, h.tracked, h.started, h.timers, h.deadlines, h.marked⟩
  | spawn f function sandbox accounting snapshots settled known succeeds fresh =>
    exact h.start settled (by simp [functionOf, fresh]) (by simp [known]) rfl rfl
      (fun w' => (functionOf_insert (p := m.pool) rfl w').trans rfl) rfl rfl rfl
  | handOut f w mode cpu cpuset on waits free =>
    obtain ⟨live, member, starting⟩ := h.available free
    refine h.relocate .idle .active live member ?_ (fun _ => rfl) rfl ?_ ?_ fun _ _ marked => marked
    · simpa using starting.imp_right .inl
    · grind [AList.mem_erase, AList.mem_insert]
    · grind [AList.mem_erase, AList.mem_insert]
  | rollback f w mode deadline function cpuset on known lost free =>
    obtain ⟨live, member, starting⟩ := h.available free
    refine h.relocate .idle .idle live member ?_ (fun _ => rfl) rfl ?_ ?_ fun _ _ marked => marked
    · simpa using starting.imp_right .inl
    · grind [AList.mem_erase, AList.mem_insert]
    · grind [AList.mem_erase, AList.mem_insert]
  | condemn f w starting =>
    have start := h.started f w starting
    have ⟨timer, deadline⟩ := h.notMem_of_not_idle (h.not_idle_of_starting starting)
    refine h.relocate .idle .dying start.1 (fun stage member => absurd member (start.2 stage)) ?_
      (fun _ => rfl) ?_ ?_ ?_ fun _ _ marked => marked
    · simp [starting]
    · simp [h.store_of_starting starting]
    · grind
    · grind
  | prepare f w cpu cpuset op rest starting =>
    have start := h.started f w starting
    have ⟨timer, deadline⟩ := h.notMem_of_not_idle (h.not_idle_of_starting starting)
    refine h.relocate .idle .active start.1 (fun stage member => absurd member (start.2 stage)) ?_
      (fun _ => rfl) ?_ ?_ ?_ ?_
    · simp [starting]
    · simp [h.store_of_starting starting]
    · grind
    · grind
    · grind [Table.lookup_insert_ite]
  | prepareFailed f w cpuset starting =>
    have start := h.started f w starting
    have ⟨timer, deadline⟩ := h.notMem_of_not_idle (h.not_idle_of_starting starting)
    refine h.relocate .idle .active start.1 (fun stage member => absurd member (start.2 stage)) ?_
      (fun _ => rfl) ?_ ?_ ?_ ?_
    · simp [starting]
    · simp [h.store_of_starting starting]
    · grind
    · grind
    · grind [Table.lookup_insert_ite]
  | wake f w idle =>
    refine h.relocate .idle .active (h.tracked _ _ _ idle)
      (fun stage member => h.single _ _ _ _ member idle) (.inr (.inr ⟨rfl, idle⟩))
      (fun _ => rfl) rfl ?_ ?_ fun _ _ marked => marked
    · grind [AList.mem_erase, AList.mem_insert]
    · grind [AList.mem_erase, AList.mem_insert]
  | park f w deadline active =>
    refine h.relocate .active .idle (h.tracked _ _ _ active)
      (fun stage member => h.single _ _ _ _ member active) (.inr (.inr ⟨rfl, active⟩))
      (fun _ => rfl) rfl ?_ ?_ fun _ _ marked => marked
    · grind [AList.mem_erase, AList.mem_insert]
    · grind [AList.mem_erase, AList.mem_insert]
  | retire source f w handle function live member look known =>
    refine h.relocate source .dying (h.tracked _ _ _ member)
      (fun stage member' => h.single _ _ _ _ member' member) (.inr (.inr ⟨rfl, member⟩))
      (functionOf_update look rfl rfl) rfl ?_ ?_ fun _ _ marked => marked
    · grind [AList.mem_erase]
    · grind [AList.mem_erase]
  | track f w op rest dying =>
    refine h.marks rfl rfl rfl rfl (fun _ => rfl) fun w' marked => ?_
    have live := h.tracked _ _ _ dying
    have := h.marked w'
    grind [Table.lookup_insert_ite]
  | snapshot f w sandbox op rest active =>
    refine h.marks rfl rfl rfl rfl (fun _ => rfl) fun w' marked => ?_
    have live := h.tracked _ _ _ active
    have := h.marked w'
    grind [Table.lookup_insert_ite]
  | unmark w =>
    refine h.marks rfl rfl rfl rfl (fun _ => rfl) fun w' marked => h.marked w' ?_
    grind [Table.lookup_erase_ite]
  | announce w sandbox handle message look =>
    exact h.marks rfl rfl rfl rfl (functionOf_update look rfl rfl) h.marked
  | reap stage w handle function cpuset busy closing member look known =>
    exact h.remove busy member rfl rfl (functionOf_erase rfl) rfl rfl rfl
  | register f function unknown =>
    refine ⟨fun w f' fn => ?_, h.staged, h.single, h.tracked, h.started, h.timers, h.deadlines,
      h.marked⟩
    have := h.registered w f' fn
    grind [Table.lookup_insert_ite]
  | deregister f settled unused =>
    refine ⟨fun w f' fn => ?_, h.staged, h.single, h.tracked, h.started, h.timers, h.deadlines,
      h.marked⟩
    have known := h.registered w f' fn
    obtain ⟨stage, member⟩ := h.staged w f' fn (by simp [settled])
    have other : f' ≠ f := fun same => unused stage w (same ▸ member)
    simpa [Table.lookup_erase_ite, other] using known

theorem moves (h : Partition m) (moves : Moves d i m m') : Partition m' := by
  induction moves with
  | refl => exact h
  | tail _ one ih => exact ih.move one

end Partition

end Pool
end Snaplace
