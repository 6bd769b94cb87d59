import Snaplace.Pool.TurnSteps

/-!
# What the memory counters count

The memory of a worker's function is charged when the worker is spawned, moves to the reclaimed figure
when the worker is told to go, and is given back when the worker has been reaped and its exit shows
that nothing of it is left. The two counters are the sums of what is charged, over the live workers and
over the joined ones that have left their memory charged; neither addition saturates, and together they
never exceed the total. That a function may be deregistered does not touch the sums, as it has no
workers then.
-/
namespace Snaplace
open Foundation Foundation.Handler
open Worker (WorkerExit)

namespace Pool
variable {d : Defect → Prop} {i : Input} {m m' : Moment} {p : Pool} {capacity : ByteUnit}

section Sums

def memoryOf (p : Pool) (f : FunctionId) : ByteUnit :=
  ((p.store.functions.lookup f).map (·.memory)).getD 0

/-- What one worker is charged for under a kind of accounting. -/
def WorkerHandle.charged (handle : WorkerHandle) (accounting : WorkerMemAccounting)
    (memory : ByteUnit) : ByteUnit :=
  if handle.memAccounting = accounting then memory else 0

def chargeOf (p : Pool) (accounting : WorkerMemAccounting) (_ : WorkerId) (handle : WorkerHandle) :
    ByteUnit :=
  handle.charged accounting (memoryOf p handle.functionId)

def liveCharge (p : Pool) (accounting : WorkerMemAccounting) : ByteUnit :=
  p.workerHandles.total (chargeOf p accounting)

theorem chargeOf_congr {q : Pool} (functions : q.store.functions = p.store.functions)
    (accounting : WorkerMemAccounting) : chargeOf q accounting = chargeOf p accounting := by
  funext w handle
  simp only [chargeOf, memoryOf, functions]

theorem liveCharge_congr {q : Pool} (handles : q.workerHandles = p.workerHandles)
    (functions : q.store.functions = p.store.functions) (accounting : WorkerMemAccounting) :
    liveCharge q accounting = liveCharge p accounting := by
  rw [liveCharge, handles, chargeOf_congr functions, liveCharge]

/-- The memory of a joined worker that the pool has not given back. -/
def Effect.left (accounting : WorkerMemAccounting) : Effect → ByteUnit
  | .joined _ handle memory exit =>
    if WorkerExit.frees exit then 0 else handle.charged accounting memory
  | _ => 0

def leftCharge (p : Pool) (accounting : WorkerMemAccounting) : ByteUnit :=
  (p.log.map (Effect.left accounting)).sum

theorem memoryOf_of_lookup {f : FunctionId} {function : RegisteredFunction}
    (known : p.store.functions.lookup f = some function) : memoryOf p f = function.memory := by
  simp [memoryOf, known]

theorem leftCharge_append {q : Pool} {effects : List Effect} {accounting : WorkerMemAccounting}
    (log : q.log = p.log ++ effects) :
    leftCharge q accounting = leftCharge p accounting + (effects.map (Effect.left accounting)).sum := by
  simp [leftCharge, log]

end Sums

/-- The counters are the sums, and the kind of accounting tells who is on the way out. -/
structure Charged (capacity : ByteUnit) (i : Input) (m : Moment) : Prop where
  inuse : m.pool.memory.inuse = liveCharge m.pool .inUse + leftCharge m.pool .inUse
  reclaimed : m.pool.memory.reclaimed = liveCharge m.pool .reclaimed + leftCharge m.pool .reclaimed
  within : m.pool.memory.inuse + m.pool.memory.reclaimed ≤ capacity
  total : m.pool.memory.total = capacity
  staged : ∀ w handle, m.pool.workerHandles.lookup w = some handle →
    m.starting ≠ some (handle.functionId, w) →
    (handle.memAccounting = .inUse ↔ ¬At m.pool .dying handle.functionId w)
  started : ∀ f w handle, m.starting = some (f, w) → m.pool.workerHandles.lookup w = some handle →
    (handle.memAccounting = .inUse ↔ ¬i.event.Destroys)

namespace Charged

/-- What changes neither the sums nor the counters only has to keep the accounting. -/
theorem keep (h : Charged capacity i m)
    (live : ∀ accounting, liveCharge m'.pool accounting = liveCharge m.pool accounting)
    (left : ∀ accounting, leftCharge m'.pool accounting = leftCharge m.pool accounting)
    (memory : m'.pool.memory = m.pool.memory)
    (staged : ∀ w handle, m'.pool.workerHandles.lookup w = some handle →
      m'.starting ≠ some (handle.functionId, w) →
      (handle.memAccounting = .inUse ↔ ¬At m'.pool .dying handle.functionId w))
    (started : ∀ f w handle, m'.starting = some (f, w) →
      m'.pool.workerHandles.lookup w = some handle →
      (handle.memAccounting = .inUse ↔ ¬i.event.Destroys)) : Charged capacity i m' := by
  constructor
  · rw [memory, live, left, h.inuse]
  · rw [memory, live, left, h.reclaimed]
  · rw [memory]
    exact h.within
  · rw [memory]
    exact h.total
  · exact staged
  · exact started

/-- The same for what moves no worker to another set. -/
theorem frame (h : Charged capacity i m) (starting : m'.starting = m.starting)
    (handles : m'.pool.workerHandles = m.pool.workerHandles) (store : m'.pool.store = m.pool.store)
    (memory : m'.pool.memory = m.pool.memory)
    (left : ∀ accounting, leftCharge m'.pool accounting = leftCharge m.pool accounting) :
    Charged capacity i m' := by
  refine h.keep (liveCharge_congr handles (by rw [store])) left memory ?_ ?_
  · simpa only [starting, handles, At, store] using h.staged
  · simpa only [starting, handles] using h.started

/-- The same for one worker that is put into a set. -/
theorem restage (h : Charged capacity i m) (parts' : Partition m') (f : FunctionId) (w : WorkerId)
    (target : Stage) (member : At m'.pool target f w)
    (starting : m'.starting = m.starting ∨
      m'.starting = none ∧ ∀ f' w', m.starting = some (f', w') → w' = w)
    (handles : m'.pool.workerHandles = m.pool.workerHandles)
    (functions : m'.pool.store.functions = m.pool.store.functions)
    (memory : m'.pool.memory = m.pool.memory)
    (left : ∀ accounting, leftCharge m'.pool accounting = leftCharge m.pool accounting)
    (others : ∀ f' w', w' ≠ w → (At m'.pool .dying f' w' ↔ At m.pool .dying f' w'))
    (same : ∀ handle, m.pool.workerHandles.lookup w = some handle →
      (handle.memAccounting = .inUse ↔ target ≠ .dying)) : Charged capacity i m' := by
  refine h.keep (liveCharge_congr handles functions) left memory ?_ ?_
  · intro w' handle look settled
    by_cases here : w' = w
    · subst here
      have fn := parts'.function_of_at member look
      rw [handles] at look
      rw [same handle look, fn]
      refine not_congr ⟨?_, fun dying => parts'.single _ _ _ _ member dying⟩
      rintro rfl
      exact member
    · rw [handles] at look
      rw [others _ w' here]
      refine h.staged w' handle look fun start => ?_
      rcases starting with same | ⟨-, only⟩
      · exact settled (same.trans start)
      · exact here (only _ _ start)
  · intro f' w' handle start look
    rw [handles] at look
    rcases starting with same | ⟨none, -⟩
    · exact h.started f' w' handle (same.symm.trans start) look
    · rw [none] at start
      cases start

theorem inUse_of_at (h : Charged capacity i m) (parts : Partition m) {stage : Stage}
    {f : FunctionId} {w : WorkerId} {handle : WorkerHandle} (member : At m.pool stage f w)
    (alive : stage ≠ .dying) (look : m.pool.workerHandles.lookup w = some handle) :
    handle.memAccounting = .inUse := by
  have fn := parts.function_of_at member look
  refine (h.staged w handle look fun start => ?_).mpr fun dying => ?_
  · exact parts.nowhere_of_starting start stage f member
  · exact alive (parts.unique member dying).1

theorem inUse_of_available (h : Charged capacity i m) (parts : Partition m) {f : FunctionId}
    {w : WorkerId} {handle : WorkerHandle} (available : Available m f w)
    (serves : ¬i.event.Destroys) (look : m.pool.workerHandles.lookup w = some handle) :
    handle.memAccounting = .inUse := by
  rcases available with starting | ⟨-, idle⟩
  · exact (h.started f w handle starting look).mpr serves
  · exact h.inUse_of_at parts idle (by decide) look

/-- What a worker is charged for is part of the counter. -/
theorem charged_le (h : Charged capacity i m) {w : WorkerId} {handle : WorkerHandle}
    (look : m.pool.workerHandles.lookup w = some handle) :
    chargeOf m.pool .inUse w handle ≤ m.pool.memory.inuse ∧
      chargeOf m.pool .reclaimed w handle ≤ m.pool.memory.reclaimed := by
  rw [h.inuse, h.reclaimed, liveCharge, liveCharge]
  have first := Table.le_total (f := chargeOf m.pool .inUse) look
  have second := Table.le_total (f := chargeOf m.pool .reclaimed) look
  grind

theorem spawn (h : Charged capacity i m) (small : capacity < ByteUnit.max) {f : FunctionId}
    {w : WorkerId} {function : RegisteredFunction} {handle : WorkerHandle}
    {accounting : WorkerMemAccounting} (settled : m.starting = none)
    (known : m.pool.store.functions.lookup f = some function)
    (fresh : m.pool.workerHandles.lookup w = none) (names : handle.functionId = f)
    (accounts : handle.memAccounting = accounting)
    (room : accounting = .inUse →
      m.pool.memory.inuse + m.pool.memory.reclaimed + function.memory ≤ m.pool.memory.total)
    (charge : accounting = .inUse ∧ ¬i.event.Destroys ∨
      accounting = .uncharged ∧ i.event.Destroys)
    (starting : m'.starting = some (f, w))
    (handles : m'.pool.workerHandles = m.pool.workerHandles.insert w handle)
    (store : m'.pool.store = m.pool.store)
    (memory : m'.pool.memory = m.pool.memory.charge accounting function.memory)
    (left : ∀ accounting, leftCharge m'.pool accounting = leftCharge m.pool accounting) :
    Charged capacity i m' := by
  have live (kind : WorkerMemAccounting) : liveCharge m'.pool kind =
      liveCharge m.pool kind + handle.charged kind function.memory := by
    have added := Table.total_insert_add (f := chargeOf m.pool kind) (k := w) (v := handle)
      (m := m.pool.workerHandles)
    rw [fresh, Option.elim_none, Nat.add_zero] at added
    rw [liveCharge, handles, chargeOf_congr (p := m.pool) (by rw [store]), added, chargeOf, names,
      memoryOf_of_lookup known, liveCharge]
  have within := h.within
  have total := h.total
  have inuse := h.inuse
  have reclaimed := h.reclaimed
  have staged (w' : WorkerId) (handle' : WorkerHandle)
      (look : m'.pool.workerHandles.lookup w' = some handle')
      (other : m'.starting ≠ some (handle'.functionId, w')) :
      handle'.memAccounting = .inUse ↔ ¬At m'.pool .dying handle'.functionId w' := by
    have before := h.staged w' handle'
    simp only [At, store, handles, Table.lookup_insert_ite] at *
    grind
  have started (f' : FunctionId) (w' : WorkerId) (handle' : WorkerHandle)
      (start : m'.starting = some (f', w'))
      (look : m'.pool.workerHandles.lookup w' = some handle') :
      handle'.memAccounting = .inUse ↔ ¬i.event.Destroys := by
    simp only [handles, Table.lookup_insert_ite] at look
    grind
  rcases charge with ⟨rfl, serves⟩ | ⟨rfl, destroys⟩
  · have room := room rfl
    have exact_ : ByteUnit.add m.pool.memory.inuse function.memory =
        m.pool.memory.inuse + function.memory := by
      unfold ByteUnit.add
      grind
    refine ⟨?_, ?_, ?_, ?_, staged, started⟩ <;>
      simp only [memory, live, left, MemoryStats.charge, exact_, WorkerHandle.charged, accounts,
        if_true, reduceCtorEq, if_false] <;>
      grind
  · refine ⟨?_, ?_, ?_, ?_, staged, started⟩ <;>
      simp only [memory, live, left, MemoryStats.charge, WorkerHandle.charged, accounts,
        reduceCtorEq, if_false] <;>
      grind

/-- The memory of a worker that is told to go moves to the other counter. -/
theorem retire (h : Charged capacity i m) (small : capacity < ByteUnit.max) (parts : Partition m)
    {source : Stage} {f : FunctionId} {w : WorkerId} {handle : WorkerHandle}
    {function : RegisteredFunction} (alive : source ≠ .dying) (member : At m.pool source f w)
    (look : m.pool.workerHandles.lookup w = some handle)
    (known : m.pool.store.functions.lookup f = some function)
    (starting : m'.starting = m.starting)
    (handles : m'.pool.workerHandles =
      m.pool.workerHandles.insert w { handle with memAccounting := .reclaimed })
    (store : m'.pool.store = (m.pool.store.erase source (f, w)).insert .dying (f, w))
    (memory : m'.pool.memory = m.pool.memory.reclaim function.memory)
    (left : ∀ accounting, leftCharge m'.pool accounting = leftCharge m.pool accounting) :
    Charged capacity i m' := by
  have fn := parts.function_of_at member look
  have accounts := h.inUse_of_at parts member alive look
  have amount : memoryOf m.pool handle.functionId = function.memory := by
    rw [fn, memoryOf_of_lookup known]
  have live (kind : WorkerMemAccounting) :
      liveCharge m'.pool kind + handle.charged kind function.memory = liveCharge m.pool kind +
        WorkerHandle.charged { handle with memAccounting := .reclaimed } kind function.memory := by
    have changed := Table.total_insert_add (f := chargeOf m.pool kind) (k := w)
      (v := { handle with memAccounting := .reclaimed }) (m := m.pool.workerHandles)
    rw [look, Option.elim_some] at changed
    rw [liveCharge, handles, chargeOf_congr (p := m.pool) (by rw [store]; rfl)]
    simpa only [chargeOf, amount, liveCharge] using changed
  have inuse := h.inuse
  have reclaimed := h.reclaimed
  have within := h.within
  have total := h.total
  have part := (h.charged_le look).1
  have liveUse := live .inUse
  have liveReclaimed := live .reclaimed
  simp only [chargeOf, WorkerHandle.charged, accounts, amount, if_true, reduceCtorEq, if_false,
    Nat.add_zero] at part liveUse liveReclaimed
  have exact_ : ByteUnit.add m.pool.memory.reclaimed function.memory =
      m.pool.memory.reclaimed + function.memory := by
    unfold ByteUnit.add
    grind
  refine ⟨?_, ?_, ?_, ?_, ?_, ?_⟩
  · simp only [memory, left, MemoryStats.reclaim, ByteUnit.sub]
    grind
  · simp only [memory, left, MemoryStats.reclaim, exact_]
    grind
  · simp only [memory, MemoryStats.reclaim, exact_, ByteUnit.sub]
    grind
  · simp only [memory, MemoryStats.reclaim, total]
  · intro w' handle' look' settled
    rw [handles, Table.lookup_insert_ite] at look'
    by_cases here : w' = w
    · subst here
      obtain rfl : { handle with memAccounting := .reclaimed } = handle' := by simpa using look'
      simp [At, store, fn]
    · have before := h.staged w' handle' (by simpa [here] using look') (by rwa [starting] at settled)
      simpa [At, store, here] using before
  · intro f' w' handle' start look'
    rw [starting] at start
    have other : w' ≠ w := by
      rintro rfl
      exact parts.nowhere_of_starting start _ _ member
    rw [handles, Table.lookup_insert_ite, if_neg other] at look'
    exact h.started f' w' handle' start look'

/-- What a reaping does not give back is left charged. -/
theorem reap (h : Charged capacity i m) (parts : Partition m) {stage : Stage} {w : WorkerId}
    {handle : WorkerHandle} {function : RegisteredFunction} {exit : Option WorkerExit}
    (member : At m.pool stage handle.functionId w)
    (look : m.pool.workerHandles.lookup w = some handle)
    (known : m.pool.store.functions.lookup handle.functionId = some function)
    (starting : m'.starting = m.starting)
    (handles : m'.pool.workerHandles = m.pool.workerHandles.erase w)
    (store : m'.pool.store = m.pool.store.erase stage (handle.functionId, w))
    (memory : m'.pool.memory = if WorkerExit.frees exit then
      m.pool.memory.free handle.memAccounting function.memory else m.pool.memory)
    (log : m'.pool.log = m.pool.log ++ [.joined w handle function.memory exit]) :
    Charged capacity i m' := by
  have amount := memoryOf_of_lookup known
  have live (kind : WorkerMemAccounting) :
      liveCharge m.pool kind = handle.charged kind function.memory + liveCharge m'.pool kind := by
    have taken := Table.total_of_lookup (f := chargeOf m.pool kind) look
    have same : chargeOf m'.pool kind = chargeOf m.pool kind :=
      chargeOf_congr (by rw [store]; rfl) kind
    rw [liveCharge, taken, liveCharge, handles, same, chargeOf, amount]
  have left (kind : WorkerMemAccounting) : leftCharge m'.pool kind = leftCharge m.pool kind +
      if WorkerExit.frees exit then 0 else handle.charged kind function.memory := by
    simp [leftCharge_append log, Effect.left]
  have inuse := h.inuse
  have reclaimed := h.reclaimed
  have within := h.within
  have total := h.total
  have liveUse := live .inUse
  have liveReclaimed := live .reclaimed
  have leftUse := left .inUse
  have leftReclaimed := left .reclaimed
  have counters : m'.pool.memory.inuse = liveCharge m'.pool .inUse + leftCharge m'.pool .inUse ∧
      m'.pool.memory.reclaimed = liveCharge m'.pool .reclaimed + leftCharge m'.pool .reclaimed ∧
      m'.pool.memory.inuse + m'.pool.memory.reclaimed ≤ capacity ∧
      m'.pool.memory.total = capacity := by
    rw [memory]
    cases freed : WorkerExit.frees exit <;> cases kind : handle.memAccounting <;>
      simp only [freed, kind, WorkerHandle.charged, MemoryStats.free, ByteUnit.sub, if_true, if_false,
        reduceCtorEq, Bool.false_eq_true] at * <;>
      grind
  obtain ⟨inuse', reclaimed', within', total'⟩ := counters
  have other {f' : FunctionId} {w' : WorkerId} (start : m.starting = some (f', w')) : w' ≠ w := by
    rintro rfl
    exact parts.nowhere_of_starting start _ _ member
  refine ⟨inuse', reclaimed', within', total', ?_, ?_⟩
  · intro w' handle' look' settled
    rw [handles, Table.lookup_erase_ite] at look'
    by_cases here : w' = w
    · simp [here] at look'
    · have before := h.staged w' handle' (by simpa [here] using look') (by rwa [starting] at settled)
      simpa [At, store, here] using before
  · intro f' w' handle' start look'
    rw [starting] at start
    rw [handles, Table.lookup_erase_ite, if_neg (other start)] at look'
    exact h.started f' w' handle' start look'

/-- A change to the registered functions that no worker has. -/
theorem functions (h : Charged capacity i m)
    (starting : m'.starting = m.starting) (handles : m'.pool.workerHandles = m.pool.workerHandles)
    (workers : m'.pool.store.workers = m.pool.store.workers)
    (known : ∀ w f, functionOf m.pool w = some f →
      m'.pool.store.functions.lookup f = m.pool.store.functions.lookup f)
    (memory : m'.pool.memory = m.pool.memory) (log : m'.pool.log = m.pool.log) :
    Charged capacity i m' := by
  refine h.keep (fun kind => ?_) (fun kind => ?_) memory ?_ ?_
  · rw [liveCharge, handles]
    refine Table.total_congr fun w handle look => ?_
    simp only [chargeOf, memoryOf, known w _ (functionOf_of_lookup look)]
  · rw [leftCharge, log, leftCharge]
  · simpa only [starting, handles, At, workers] using h.staged
  · simpa only [starting, handles] using h.started

/-- A worker's sandbox does not matter. -/
theorem announce (h : Charged capacity i m) {w : WorkerId} {handle : WorkerHandle}
    {sandbox : Option SandboxId} (look : m.pool.workerHandles.lookup w = some handle)
    (starting : m'.starting = m.starting)
    (handles : m'.pool.workerHandles =
      m.pool.workerHandles.insert w { handle with sandboxId := sandbox })
    (store : m'.pool.store = m.pool.store) (memory : m'.pool.memory = m.pool.memory)
    (log : m'.pool.log = m.pool.log) : Charged capacity i m' := by
  have before {w' : WorkerId} {handle' : WorkerHandle}
      (look' : m'.pool.workerHandles.lookup w' = some handle') : ∃ old,
        m.pool.workerHandles.lookup w' = some old ∧ old.functionId = handle'.functionId ∧
          old.memAccounting = handle'.memAccounting := by
    rw [handles, Table.lookup_insert_ite] at look'
    split at look'
    next here =>
      obtain rfl : { handle with sandboxId := sandbox } = handle' := by simpa using look'
      exact ⟨handle, by rw [here, look], rfl, rfl⟩
    next => exact ⟨handle', look', rfl, rfl⟩
  refine h.keep (fun kind => ?_) (fun kind => ?_) memory ?_ ?_
  · have changed := Table.total_insert_add (f := chargeOf m.pool kind) (k := w)
      (v := { handle with sandboxId := sandbox }) (m := m.pool.workerHandles)
    rw [look, Option.elim_some] at changed
    rw [liveCharge, handles, chargeOf_congr (p := m.pool) (by rw [store])]
    exact Nat.add_right_cancel changed
  · rw [leftCharge, log, leftCharge]
  · intro w' handle' look' settled
    obtain ⟨old, oldLook, fn, accounts⟩ := before look'
    rw [← accounts, ← fn]
    rw [starting, ← fn] at settled
    simpa only [At, store] using h.staged w' old oldLook settled
  · intro f' w' handle' start look'
    obtain ⟨old, oldLook, fn, accounts⟩ := before look'
    rw [← accounts]
    exact h.started f' w' old (starting ▸ start) oldLook

/-- The step lemma: no move but a lost hand-over or an overcharge makes the counters wrong. -/
theorem move (h : Charged capacity i m) (parts : Partition m) (small : capacity < ByteUnit.max)
    (handedOver : ¬d .lostHandover) (noOvercharge : ¬d .overcharge) (move : Move d i m m') :
    Charged capacity i m' := by
  have parts' := parts.move move
  have served {f : FunctionId} {mode : Admission.DispatchMode}
      (on : i.event = .dispatch f mode) : ¬i.event.Destroys := by simp [Event.Destroys, on]
  have prepares (on : i.event.Prepares) : ¬i.event.Destroys := by
    obtain ⟨f, options, respondTo, on⟩ := on
    simp [Event.Destroys, on]
  cases move with
  | event | deny | requested | answer | tell =>
    exact h.frame rfl rfl rfl rfl fun _ => by simp [Moment.note, leftCharge, Effect.left]
  | requeue | drop | release | track | joinDestr | joinSnapshot | close | takePrep | takeSnapshot
  | unmark | shutDown =>
    exact h.frame rfl rfl rfl rfl fun _ => rfl
  | snapshot =>
    exact h.frame rfl rfl rfl rfl fun _ => by simp [leftCharge, Effect.left]
  | spawn f function sandbox accounting snapshots settled known succeeds fresh takes unowned room
      charge =>
    refine h.spawn small settled known fresh rfl rfl ?_ charge rfl rfl rfl rfl fun _ => ?_
    · exact fun inUse => (room inUse).resolve_right noOvercharge
    · simp [leftCharge, Effect.left]
  | handOut f w mode cpu cpuset on waits available =>
    refine h.restage parts' f w .active (by simp [At]) (.inr ⟨rfl, ?_⟩) rfl rfl rfl ?_ ?_ ?_
    · intro f' w' start
      rcases available with starting | ⟨settled, -⟩ <;> simp_all
    · simp [leftCharge, Effect.left]
    · simp [At]
    · intro handle look
      simp [h.inUse_of_available parts available (served on) look]
  | rollback f w mode deadline function cpuset on known lost available free defect =>
    exact absurd defect handedOver
  | condemn f w starting on =>
    refine h.restage parts' f w .dying (by simp [At]) (.inr ⟨rfl, ?_⟩) rfl rfl rfl ?_ ?_ ?_
    · simp [starting]
    · exact fun _ => rfl
    · intro f' w' other
      simp [At, other]
    · intro handle look
      simpa [on] using h.started f w handle starting look
  | prepare f w cpu cpuset op rest starting free alloc delivered waits on =>
    refine h.restage parts' f w .active (by simp [At]) (.inr ⟨rfl, ?_⟩) rfl rfl rfl ?_ ?_ ?_
    · simp [starting]
    · simp [leftCharge, Effect.left]
    · simp [At]
    · intro handle look
      simpa [prepares on] using h.started f w handle starting look
  | prepareFailed f w cpuset starting undelivered free on =>
    refine h.restage parts' f w .active (by simp [At]) (.inr ⟨rfl, ?_⟩) rfl rfl rfl ?_ ?_ ?_
    · simp [starting]
    · exact fun _ => rfl
    · simp [At]
    · intro handle look
      simpa [prepares on] using h.started f w handle starting look
  | wake f w idle =>
    refine h.restage parts' f w .active (by simp [At]) (.inl rfl) rfl rfl rfl
      (fun _ => rfl) (by simp [At]) fun handle look => ?_
    simp [h.inUse_of_at parts idle (by decide) look]
  | park f w deadline active =>
    refine h.restage parts' f w .idle (by simp [At]) (.inl rfl) rfl rfl rfl
      (fun _ => rfl) (by simp [At]) fun handle look => ?_
    simp [h.inUse_of_at parts active (by decide) look]
  | retire source f w handle function live member look known =>
    exact h.retire small parts live member look known rfl rfl rfl rfl fun _ => rfl
  | announce w sandbox handle message look =>
    exact h.announce look rfl rfl rfl rfl rfl
  | reap stage w handle function cpuset busy closing member look known =>
    exact h.reap parts member look known rfl rfl rfl rfl rfl
  | register f function unknown =>
    refine h.functions rfl rfl rfl (fun w f' fn => ?_) rfl rfl
    have known := parts.registered w f' fn
    simp only [Table.lookup_insert_ite]
    grind
  | deregister f settled unused =>
    refine h.functions rfl rfl rfl (fun w f' fn => ?_) rfl rfl
    obtain ⟨stage, member⟩ := parts.staged w f' fn (by simp [settled])
    have other : f' ≠ f := fun same => unused stage w (same ▸ member)
    simp [other]

theorem moves (h : Charged capacity i m) (parts : Partition m) (small : capacity < ByteUnit.max)
    (handedOver : ¬d .lostHandover) (noOvercharge : ¬d .overcharge) (moves : Moves d i m m') :
    Charged capacity i m' := by
  induction moves with
  | refl => exact h
  | tail before one ih => exact ih.move (parts.moves before) small handedOver noOvercharge one

end Charged

/-- Between two events: the counters are the sums, they fit, and only workers that are not Dying count
as in use. -/
structure MemoryAccounted (capacity : ByteUnit) (p : Pool) : Prop where
  inuse : p.memory.inuse = liveCharge p .inUse + leftCharge p .inUse
  reclaimed : p.memory.reclaimed = liveCharge p .reclaimed + leftCharge p .reclaimed
  within : p.memory.inuse + p.memory.reclaimed ≤ capacity
  total : p.memory.total = capacity
  staged : ∀ w handle, p.workerHandles.lookup w = some handle →
    (handle.memAccounting = .inUse ↔ ¬At p .dying handle.functionId w)

theorem charged_top : Charged capacity i (.top p) ↔ MemoryAccounted capacity p := by
  refine ⟨fun h => ⟨h.inuse, h.reclaimed, h.within, h.total, fun w handle look => ?_⟩, fun h =>
    ⟨h.inuse, h.reclaimed, h.within, h.total, fun w handle look _ => h.staged w handle look, ?_⟩⟩
  · exact h.staged w handle look (by simp [Moment.top])
  · simp [Moment.top]

/-- The reply to a dispatch that assigns a worker is waited for. -/
def HandsOver (i : Input) (p : Pool) : Prop :=
  ∀ f mode, i.event = .dispatch f mode → Assigns i p f mode → i.admissionWaits = true

/-- The defects that do not touch the counters. -/
def Defect.OfSnapshots : Defect → Prop
  | .droppedSnapshot | .joinFailed => True
  | .lostHandover | .overcharge => False

theorem MemoryAccounted.allows (h : MemoryAccounted capacity p) (small : capacity < ByteUnit.max)
    (handsOver : HandsOver i p) : Allows Defect.OfSnapshots i p where
  lostHandover f mode on lost assigns := by simp [handsOver f mode on assigns] at lost
  overcharge f function known fits := by
    have within := h.within
    have total := h.total
    simp only [MemoryStats.fits, ByteUnit.add] at fits
    grind
  droppedSnapshot _ _ _ _ _ _ _ _ _ := trivial
  joinFailed _ _ _ := trivial

/-- The step lemma of the loop: an event leaves the counters right. -/
theorem MemoryAccounted.turn {t : Pool} (h : MemoryAccounted capacity p)
    (small : capacity < ByteUnit.max) (parts : Partition (.top p)) (own : NamesOwn i p)
    (handsOver : HandsOver i p) (stays : turn i p = .ok none t) : MemoryAccounted capacity t := by
  obtain ⟨released, failing, moved⟩ := ok_of_wp (wp_turn (h.allows small handsOver) own parts)
    stays rfl
  have start : Charged capacity i (.top p) := charged_top.mpr h
  have after := start.moves parts small (by simp [Defect.OfSnapshots])
    (by simp [Defect.OfSnapshots]) moved
  exact (charged_top (i := i)).mp ⟨after.inuse, after.reclaimed, after.within, after.total,
    after.staged, after.started⟩

section Run
variable (config : SandboxPoolConfig) (cpus : List Cpu) (memory : MemoryStats)
  (functions : Table FunctionId RegisteredFunction) (snapshots : Table FunctionId (List Sandbox))

/-- The run lemma: the counters are right wherever a run comes to, whatever is asked of the pool in
whatever order and however the workers end. -/
theorem memory_accounted (empty : memory.inuse = 0 ∧ memory.reclaimed = 0)
    (small : memory.total < ByteUnit.max) (inputs : List Input)
    (honest : AllTurns Pool.turn (fun p i => NamesOwn i p ∧ HandsOver i p) inputs
      (spawn config cpus memory functions snapshots)) {p : Pool}
    (ran : iterate Pool.turn inputs (spawn config cpus memory functions snapshots) = .running p) :
    MemoryAccounted memory.total p := by
  have init : MemoryAccounted memory.total (spawn config cpus memory functions snapshots) := by
    constructor <;> simp [spawn, liveCharge, leftCharge, empty]
  refine (honest.reaches (I := fun p => MemoryAccounted memory.total p ∧ Partition (.top p)) ?_
    ⟨init, partition_spawn⟩ ran).1
  rintro s i t ⟨accounted, parts⟩ ⟨own, handsOver⟩ stays
  exact ⟨accounted.turn small parts own handsOver stays, partition_turn parts own stays⟩

end Run

/-- A worker ends with its clean-up unproved, and a second one is started. -/
def untidy : List Input :=
  [(Event.dispatch 7 .reuseIdleOrProvision).smooth 10,
    { (Event.workerMessage (.reapMe 10 7)).smooth 11 with
      exit := fun _ => some { result := .error (.shutDown 10 closed), sandbox := .none } },
    (Event.dispatch 7 .reuseIdleOrProvision).smooth 12]

theorem memory_accounted_untidy : MemoryAccounted 8 (run untidy single).state := by
  have honest : AllTurns turn (fun p i => NamesOwn i p ∧ i.admissionWaits = true) untidy single := by
    decide +kernel
  have ran : iterate turn untidy single = .running (run untidy single).state := by
    with_unfolding_all rfl
  refine memory_accounted single.config [0] single.memory single.store.functions ∅ (by decide) ?_
    untidy (honest.mono fun _ _ meets => ⟨meets.1, fun _ _ _ _ => meets.2⟩) ran
  unfold ByteUnit.max
  decide

example : ((run untidy single).state.memory.inuse, leftCharge (run untidy single).state .inUse) =
    (4, 2) := by
  decide +kernel

end Pool
end Snaplace
