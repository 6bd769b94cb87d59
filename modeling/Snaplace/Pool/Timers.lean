import Snaplace.Pool.Cap
import Snaplace.Pool.TurnSteps

/-!
# Keep-alive timers

The pool with the tasks of its keep-alive timers. A task sleeps until its deadline, and then sends a
notification that carries the worker's identifier and nothing else; a task that is stopped while it
is sending may still send it. The pool looks at the notifications before all other messages, and
takes one as valid when it tracks some timer of the worker.

A notification of a timer that was stopped is therefore harmless as long as it is received before
the worker is parked again, and shuts the worker down before its time when it is received later.
-/
namespace Snaplace
open Foundation Foundation.Handler

namespace Pool

section Model

structure TimerTask where
  worker : WorkerId
  deadline : Instant
  /-- It has slept until its deadline, and is sending. -/
  awake : Bool
  /-- The pool has stopped it. -/
  stopped : Bool
  deriving DecidableEq, Repr

/-- What a timer has sent; of this the pool sees the worker only. -/
structure Notification where
  worker : WorkerId
  deadline : Instant
  /-- The pool has stopped the timer it came from. -/
  stale : Bool
  deriving DecidableEq, Repr

/-- The pool, the clock, and the timers' tasks with the channel of their notifications. -/
structure Timed where
  pool : Progress Pool Unit
  now : Instant
  tasks : List TimerTask
  channel : List Notification

inductive Action where
  | tick (delay : Duration)
  /-- The task's sleep is over. -/
  | wake (idx : Nat)
  /-- The channel takes the task's notification. -/
  | send (idx : Nat)
  /-- The task ends without having sent anything: stopped, or after the time-out. -/
  | quit (idx : Nat)
  | handle (i : Input)

/-- The timer of a worker that a turn has stopped or replaced. -/
def Restarted (p t : Pool) (w : WorkerId) : Prop := p.timers.lookup w ≠ t.timers.lookup w

instance (p t : Pool) (w : WorkerId) : Decidable (Restarted p t w) :=
  inferInstanceAs (Decidable (_ ≠ _))

/-- The tasks of the timers that a turn has started. A turn that stops a timer of a worker and starts
one with the same deadline is the rollback of a dispatch, which ends in the shutdown. -/
def startedTasks (p t : Pool) : List TimerTask :=
  (t.timers.entries.filter fun e => Restarted p t e.1).map fun e =>
    { worker := e.1, deadline := e.2, awake := false, stopped := false }

def TimerTask.after (p t : Pool) (task : TimerTask) : TimerTask :=
  { task with stopped := task.stopped || decide (Restarted p t task.worker) }

def Notification.after (p t : Pool) (n : Notification) : Notification :=
  { n with stale := n.stale || decide (Restarted p t n.worker) }

namespace Timed

/-- Whether this event can be the next. While it serves, the pool takes no other message, except the
quit notification, as long as there is one from a timer; it takes none from them afterwards. The
registrar does not wait for the pool. -/
def Ready (s : Timed) (p : Pool) (i : Input) : Prop :=
  match p.phase, i.event with
  | _, .registerFunction .. | _, .deregisterFunction .. => True
  | .serving, .quit => True
  | .serving, .keepaliveTimeout w => (s.channel.head?.map (·.worker)) = some w
  | .serving, _ => s.channel = []
  | .shuttingDown, .keepaliveTimeout _ => False
  | .shuttingDown, _ => True

instance (s : Timed) (p : Pool) (i : Input) : Decidable (s.Ready p i) := by
  delta Ready
  exact match p.phase, i.event with
    | _, .registerFunction .. | _, .deregisterFunction _ => inferInstance
    | .serving, .keepaliveTimeout _ | .shuttingDown, .keepaliveTimeout _ => inferInstance
    | .serving, .quit | .serving, .admissionClosed | .serving, .snapmanMessage
    | .serving, .dispatch .. | .serving, .control _ | .serving, .workerMessage _
    | .serving, .shutdownTick => inferInstance
    | .shuttingDown, .quit | .shuttingDown, .admissionClosed | .shuttingDown, .snapmanMessage
    | .shuttingDown, .dispatch .. | .shuttingDown, .control _ | .shuttingDown, .workerMessage _
    | .shuttingDown, .shutdownTick => inferInstance

/-- The channel once the event has been taken from where it comes. -/
def received (s : Timed) (i : Input) : List Notification :=
  match i.event with
  | .keepaliveTimeout _ => s.channel.tail
  | _ => s.channel

def handle (s : Timed) (i : Input) (p : Pool) : Timed :=
  let ended := run [{ i with now := s.now }] p
  { s with
    pool := ended
    tasks := s.tasks.map (TimerTask.after p ended.state) ++ startedTasks p ended.state
    channel := (s.received i).map (Notification.after p ended.state) }

/-- An action that cannot be taken changes nothing. -/
def step : Action → Timed → Timed
  | .tick delay, s => { s with now := s.now + delay }
  | .wake idx, s =>
    match s.tasks[idx]? with
    | some task =>
      if task.stopped = false ∧ task.deadline ≤ s.now then
        { s with tasks := s.tasks.set idx { task with awake := true } }
      else s
    | none => s
  | .send idx, s =>
    match s.tasks[idx]? with
    | some task =>
      if task.awake then
        { s with
          tasks := s.tasks.eraseIdx idx
          channel := s.channel ++
            [{ worker := task.worker, deadline := task.deadline, stale := task.stopped }] }
      else s
    | none => s
  | .quit idx, s =>
    match s.tasks[idx]? with
    | some task =>
      if task.awake ∨ task.stopped then { s with tasks := s.tasks.eraseIdx idx } else s
    | none => s
  | .handle i, s =>
    match s.pool with
    | .running p => if s.Ready p i then s.handle i p else s
    | .exited .. | .panicked .. => s

def start (p : Pool) : Timed := { pool := .running p, now := 0, tasks := [], channel := [] }

/-- The notification that the serving pool takes from the channel, with the pool that takes it. -/
def notified (s : Timed) (i : Input) : Option (Pool × Notification) :=
  match s.pool, i.event, s.channel with
  | .running p, .keepaliveTimeout w, n :: _ =>
    if p.phase = .serving ∧ n.worker = w then some (p, n) else none
  | _, _, _ => none

end Timed

end Model

section Moves
variable {d : Defect → Prop} {i : Input} {m m' : Moment} {p t : Pool} {f : FunctionId} {w : WorkerId}

/-- A worker's timer goes off at its recorded deadline. -/
def SameDeadlines (p : Pool) : Prop := ∀ w, p.timers.lookup w = p.workerDeadlines.lookup w

theorem SameDeadlines.move (same : SameDeadlines m.pool) (parts : Partition m)
    (move : Move d i m m') : SameDeadlines m'.pool := by
  cases move with
  | handOut f w | wake f w | retire source f w =>
    intro w'
    have := same w'
    grind [Table.lookup_erase_ite]
  | rollback f w mode deadline | park f w deadline =>
    intro w'
    have := same w'
    grind [Table.lookup_insert_ite]
  | reap stage w handle function cpuset busy closing member =>
    have awake := parts.notMem_of_not_idle (parts.not_idle_of_at member busy)
    intro w'
    change m.pool.timers.lookup w' = (m.pool.workerDeadlines.erase w).lookup w'
    rw [Table.erase_of_notMem awake.2, same w']
  | _ => exact same

theorem SameDeadlines.moves (same : SameDeadlines m.pool) (parts : Partition m)
    (moves : Moves d i m m') : SameDeadlines m'.pool := by
  induction moves with
  | refl => exact same
  | tail before move ih => exact ih.move (parts.moves before) move

/-- The pool never serves again. -/
theorem shuttingDown_of_moves (shut : m.pool.phase = .shuttingDown) (moves : Moves d i m m') :
    m'.pool.phase = .shuttingDown := by
  induction moves with
  | refl => exact shut
  | tail _ move ih =>
    cases move with
    | shutDown => rfl
    | _ => exact ih

/-- Only a dispatch or a worker's message starts timers. -/
theorem timers_of_moves (moves : Moves d i m m') (noDispatch : ∀ f mode, i.event ≠ .dispatch f mode)
    (noMessage : ∀ msg, i.event ≠ .workerMessage msg) (w : WorkerId) :
    m'.pool.timers.lookup w = none ∨ m'.pool.timers.lookup w = m.pool.timers.lookup w := by
  induction moves with
  | refl => exact .inr rfl
  | tail _ move ih =>
    cases move with
    | handOut f w' mode cpu cpuset on => exact absurd on (noDispatch f mode)
    | rollback f w' mode deadline function cpuset on => exact absurd on (noDispatch f mode)
    | wake f w' | retire source f w' =>
      grind [Table.lookup_erase_ite]
    | park f w' deadline active reason =>
      cases reason with
      | served message => exact absurd message (noMessage _)
      | prepared message => exact absurd message (noMessage _)
      | snapshotted message => exact absurd message (noMessage _)
    | _ => exact ih

end Moves

section Acting
variable {i : Input} {p : Pool} {w : WorkerId}

/-- The pool makes the worker Dying because of the notification. -/
def Decommissions (i : Input) (p : Pool) (w : WorkerId) : Prop :=
  ∃ f, ¬At p .dying f w ∧ At (decommissionIdleWorker i w none p).state .dying f w

/-- A notification acts exactly if the pool tracks some timer of the worker. -/
theorem decommissions_iff (h : Partition (.top p)) : Decommissions i p w ↔ w ∈ p.timers := by
  constructor
  · rintro ⟨f, alive, dying⟩
    by_contra awake
    have ignored : (decommissionIdleWorker i w none p).state = p := by
      refine state_eq_of_wp ?_
      simp only [decommissionIdleWorker, wp_bind, wp_get, wp_ite]
      refine ⟨fun timed => absurd timed awake, fun _ => ?_⟩
      have same := h.clearDeadline awake
      simp only [Pool.clearDeadline, wp_modify]
      exact same
    rw [ignored] at dying
    exact alive dying
  · intro timed
    obtain ⟨f, idle⟩ := (h.timers w).mp timed
    obtain ⟨function, known⟩ := h.known idle
    refine ⟨f, h.absent (by decide) idle, ?_⟩
    refine state_of_wp (P := fun t => At t .dying f w) ?_
    refine wp_mono (decommissionIdleWorker_ends h idle known (.inr rfl)) ?_ ?_
      fun _ _ absurd => absurd
    · rintro - t ⟨store, -⟩
      change At t .dying f w
      simp [At, store]
    · rintro e t ⟨store, -⟩
      change At t .dying f w
      simp [At, store]

end Acting

section Run
variable {i : Input} {p t : Pool} {s : Timed} {a : Action}

/-- What holds of the timers' tasks and notifications: those that the pool has not stopped are of the
deadlines that it has, and what has been sent was due. -/
structure Timed.Sound (s : Timed) : Prop where
  parts : ∀ p, s.pool = .running p → Partition (.top p) ∧ SameDeadlines p
  current : ∀ p, s.pool = .running p → ∀ task ∈ s.tasks, task.stopped = false →
    p.timers.lookup task.worker = some task.deadline
  due : ∀ task ∈ s.tasks, task.awake = true → task.deadline ≤ s.now
  valid : ∀ p, s.pool = .running p → ∀ n ∈ s.channel, n.stale = false →
    p.timers.lookup n.worker = some n.deadline
  sent : ∀ n ∈ s.channel, n.deadline ≤ s.now

/-- The workers' messages are what workers send. -/
def Timed.Honest (s : Timed) (a : Action) : Prop :=
  ∀ i p, a = .handle i → s.pool = .running p → NamesOwn i p

theorem turn_of_run (ran : run [i] p = .running t) : turn i p = .ok none t := by
  unfold run iterate at ran
  cases one : turn i p with
  | ok ended u =>
    cases ended <;> rw [one] at ran <;> cases ran
    rfl
  | err never u => exact never.elim
  | panic msg u =>
    rw [one] at ran
    cases ran

theorem turned_of_run (parts : Partition (.top p)) (own : NamesOwn i p)
    (ran : run [i] p = .running t) : Turned (fun _ => True) i p t := by
  have spec := turn_spec (d := fun _ => True) (fun _ => trivial) own parts
  exact ok_of_wp spec (turn_of_run ran) rfl

theorem Turned.sameDeadlines {d : Defect → Prop} (turned : Turned d i p t)
    (parts : Partition (.top p)) (same : SameDeadlines p) : SameDeadlines t := by
  obtain ⟨released, failing, moves⟩ := turned
  exact SameDeadlines.moves (m := .top p) same parts moves

namespace Timed.Sound

theorem start (parts : Partition (.top p)) (same : SameDeadlines p) : Sound (.start p) := by
  constructor
  · rintro q ⟨⟩
    exact ⟨parts, same⟩
  · simp [Timed.start]
  · simp [Timed.start]
  · simp [Timed.start]
  · simp [Timed.start]

theorem mem_of_received {n : Notification} (mem : n ∈ s.received i) : n ∈ s.channel := by
  unfold received at mem
  split at mem
  · exact List.mem_of_mem_tail mem
  · exact mem

/-- After an event, what has not been stopped is of a timer that the event left alone, or started. -/
theorem handle (h : Sound s) (running : s.pool = .running p) (own : NamesOwn i p) :
    Sound (s.handle i p) := by
  have own : NamesOwn { i with now := s.now } p := own
  obtain ⟨parts, same⟩ := h.parts p running
  constructor
  · intro t ran
    have turned := turned_of_run parts own ran
    exact ⟨parts.turned turned, turned.sameDeadlines parts same⟩
  · intro t ran task mem fresh
    have state : (run [{ i with now := s.now }] p).state = t := by
      rw [show run [{ i with now := s.now }] p = .running t from ran, Progress.state]
    simp only [Timed.handle, state, List.mem_append, List.mem_map] at mem
    rcases mem with ⟨old, oldMem, rfl⟩ | new
    · simp only [TimerTask.after, Bool.or_eq_false_iff, decide_eq_false_iff_not] at fresh
      obtain ⟨current, kept⟩ := fresh
      rw [Restarted, not_not] at kept
      exact kept ▸ h.current p running old oldMem current
    · simp only [startedTasks, List.mem_map, List.mem_filter] at new
      obtain ⟨e, ⟨entry, -⟩, rfl⟩ := new
      exact Table.mem_entries_iff.mp entry
  · intro task mem awake
    simp only [Timed.handle, List.mem_append, List.mem_map] at mem
    rcases mem with ⟨old, oldMem, rfl⟩ | new
    · exact h.due old oldMem awake
    · simp only [startedTasks, List.mem_map] at new
      obtain ⟨e, -, rfl⟩ := new
      cases awake
  · intro t ran n mem fresh
    have state : (run [{ i with now := s.now }] p).state = t := by
      rw [show run [{ i with now := s.now }] p = .running t from ran, Progress.state]
    simp only [Timed.handle, state, List.mem_map] at mem
    obtain ⟨old, oldMem, rfl⟩ := mem
    simp only [Notification.after, Bool.or_eq_false_iff, decide_eq_false_iff_not] at fresh
    obtain ⟨current, kept⟩ := fresh
    rw [Restarted, not_not] at kept
    exact kept ▸ h.valid p running old (mem_of_received oldMem) current
  · intro n mem
    simp only [Timed.handle, List.mem_map] at mem
    obtain ⟨old, oldMem, rfl⟩ := mem
    exact h.sent old (mem_of_received oldMem)

/-- The step lemma. -/
theorem step (h : Sound s) (honest : s.Honest a) : Sound (s.step a) := by
  cases a with
  | tick delay =>
    exact ⟨h.parts, h.current, fun task mem awake => Nat.le_add_right_of_le (h.due task mem awake),
      h.valid, fun n mem => Nat.le_add_right_of_le (h.sent n mem)⟩
  | wake idx =>
    simp only [Timed.step]
    split
    next task at_ =>
      split
      next due =>
        have mem := List.mem_of_getElem? at_
        refine ⟨h.parts, fun p running other otherMem fresh => ?_, fun other otherMem awake => ?_,
          h.valid, h.sent⟩
        · rcases List.mem_or_eq_of_mem_set otherMem with old | rfl
          · exact h.current p running other old fresh
          · exact h.current p running task mem fresh
        · rcases List.mem_or_eq_of_mem_set otherMem with old | rfl
          · exact h.due other old awake
          · exact due.2
      next => exact h
    next => exact h
  | send idx =>
    simp only [Timed.step]
    split
    next task at_ =>
      split
      next awake =>
        have mem := List.mem_of_getElem? at_
        refine ⟨h.parts, fun p running other otherMem => ?_, fun other otherMem => ?_,
          fun p running n nMem fresh => ?_, fun n nMem => ?_⟩
        · exact h.current p running other (List.mem_of_mem_eraseIdx otherMem)
        · exact h.due other (List.mem_of_mem_eraseIdx otherMem)
        · rcases List.mem_append.mp nMem with old | new
          · exact h.valid p running n old fresh
          · obtain rfl := List.mem_singleton.mp new
            exact h.current p running task mem fresh
        · rcases List.mem_append.mp nMem with old | new
          · exact h.sent n old
          · obtain rfl := List.mem_singleton.mp new
            exact h.due task mem awake
      next => exact h
    next => exact h
  | quit idx =>
    simp only [Timed.step]
    split
    next task at_ =>
      split
      next ended =>
        exact ⟨h.parts, fun p running other mem =>
          h.current p running other (List.mem_of_mem_eraseIdx mem),
          fun other mem => h.due other (List.mem_of_mem_eraseIdx mem), h.valid, h.sent⟩
      next => exact h
    next => exact h
  | handle i =>
    simp only [Timed.step]
    split
    next p running =>
      split
      next => exact h.handle running (honest i p rfl running)
      next => exact h
    next => exact h
    next => exact h

end Timed.Sound

/-- A notification acts only on an Idle worker whose deadline has passed, and only if the timer it
comes from is still the worker's. -/
def Timed.Timely (s : Timed) : Action → Prop
  | .handle i => ∀ taken ∈ s.notified i,
    Decommissions { i with now := s.now } taken.1 taken.2.worker →
      (∃ f, At taken.1 .idle f taken.2.worker) ∧
        (∃ deadline, taken.1.workerDeadlines.lookup taken.2.worker = some deadline ∧
          deadline ≤ s.now) ∧
        taken.2.stale = false
  | .tick _ | .wake _ | .send _ | .quit _ => True

/-- A notification of a timer that was stopped is not received while the worker has another one. -/
def Timed.NoneLeftOver (s : Timed) : Action → Prop
  | .handle i => ∀ taken ∈ s.notified i, taken.2.stale = true → taken.2.worker ∉ taken.1.timers
  | .tick _ | .wake _ | .send _ | .quit _ => True

instance (s : Timed) : (a : Action) → Decidable (s.NoneLeftOver a)
  | .handle i => inferInstanceAs (Decidable (∀ taken ∈ s.notified i, _))
  | .tick _ | .wake _ | .send _ | .quit _ => isTrue trivial

/-- A timer's task sends nothing once the pool has stopped it. -/
def Timed.StopsAtOnce (s : Timed) : Action → Prop
  | .send idx => ∀ task ∈ s.tasks[idx]?, task.stopped = false
  | .tick _ | .wake _ | .quit _ | .handle _ => True

theorem Timed.notified_spec {taken : Pool × Notification} (mem : taken ∈ s.notified i) :
    s.pool = .running taken.1 ∧ taken.1.phase = .serving ∧
      i.event = .keepaliveTimeout taken.2.worker ∧ taken.2 ∈ s.channel := by
  unfold notified at mem
  split at mem
  next p w n rest running event channel =>
    split at mem
    next ready =>
      obtain rfl := Option.mem_some.mp mem
      exact ⟨running, ready.1, ready.2 ▸ event, by simp [channel]⟩
    next => cases mem
  next => cases mem

/-- The step lemma of the timers: only a left-over notification can act before its time. -/
theorem Timed.Sound.timely_iff (h : Sound s) : s.Timely a ↔ s.NoneLeftOver a := by
  cases a with
  | handle i =>
    refine forall₂_congr fun taken mem => ?_
    obtain ⟨running, -, -, member⟩ := notified_spec mem
    obtain ⟨parts, same⟩ := h.parts taken.1 running
    rw [decommissions_iff parts]
    constructor
    · intro acts stale timed
      have fresh := (acts timed).2.2
      simp [stale] at fresh
    · intro none timed
      have fresh : taken.2.stale = false := by
        by_contra stale
        exact none (by simpa using stale) timed
      have current := h.valid taken.1 running taken.2 member fresh
      refine ⟨(parts.timers _).mp timed, ⟨taken.2.deadline, ?_, h.sent taken.2 member⟩, fresh⟩
      rw [← same, current]
  | tick | wake | send | quit => exact Iff.rfl

/-- What is in the channel when its timer is stopped is received before any other timer starts. -/
def Timed.Swept (s : Timed) : Prop :=
  ∀ p, s.pool = .running p → p.phase = .serving →
    ∀ n ∈ s.channel, n.stale = true → p.timers.lookup n.worker = none

theorem Timed.Swept.noneLeftOver (swept : s.Swept) : s.NoneLeftOver a := by
  cases a with
  | handle i =>
    intro taken mem stale
    obtain ⟨running, serving, -, member⟩ := notified_spec mem
    exact AList.lookup_eq_none.mp (swept taken.1 running serving taken.2 member stale)
  | tick | wake | send | quit => trivial

/-- The pool takes no other message before those of the timers, so that it starts no timer as long as
there are any. -/
theorem Timed.Swept.handle (swept : s.Swept) (h : Sound s) (running : s.pool = .running p)
    (own : NamesOwn i p) (ready : s.Ready p i) : (s.handle i p).Swept := by
  intro t ran serving n mem stale
  have own : NamesOwn { i with now := s.now } p := own
  have turned := turned_of_run (h.parts p running).1 own ran
  obtain ⟨released, failing, moves⟩ := turned
  have served : p.phase = .serving := by
    match phase : p.phase with
    | .serving => rfl
    | .shuttingDown =>
      have still : t.phase = .shuttingDown := shuttingDown_of_moves phase moves
      rw [serving] at still
      cases still
  have state : (run [{ i with now := s.now }] p).state = t := by
    rw [show run [{ i with now := s.now }] p = .running t from ran, Progress.state]
  simp only [Timed.handle, state, List.mem_map] at mem
  obtain ⟨old, oldMem, rfl⟩ := mem
  have left : old ∈ s.channel := Sound.mem_of_received oldMem
  have filled : s.channel ≠ [] := List.ne_nil_of_mem left
  have noDispatch (f : FunctionId) (mode : Admission.DispatchMode) : i.event ≠ .dispatch f mode := by
    intro on
    simp only [Ready, served, on] at ready
    exact filled ready
  have noMessage (msg : Worker.OutboundMessage) : i.event ≠ .workerMessage msg := by
    intro on
    simp only [Ready, served, on] at ready
    exact filled ready
  rcases timers_of_moves moves noDispatch noMessage old.worker with stopped | kept
  · exact stopped
  · have kept : t.timers.lookup old.worker = p.timers.lookup old.worker := kept
    simp only [Notification.after, Restarted, kept, ne_eq, not_true_eq_false, decide_false,
      Bool.or_false] at stale
    exact kept.trans (swept p running served old left stale)

theorem Timed.Swept.step (swept : s.Swept) (h : Sound s) (honest : s.Honest a)
    (stops : s.StopsAtOnce a) : (s.step a).Swept := by
  cases a with
  | tick delay => exact swept
  | wake idx =>
    simp only [Timed.step]
    split
    · split
      · exact swept
      · exact swept
    · exact swept
  | send idx =>
    simp only [Timed.step]
    split
    next task at_ =>
      split
      next awake =>
        intro p running serving n mem stale
        rcases List.mem_append.mp mem with old | new
        · exact swept p running serving n old stale
        · obtain rfl := List.mem_singleton.mp new
          have current := stops task at_
          simp [current] at stale
      next => exact swept
    next => exact swept
  | quit idx =>
    simp only [Timed.step]
    split
    · split
      · exact swept
      · exact swept
    · exact swept
  | handle i =>
    simp only [Timed.step]
    split
    next p running =>
      split
      next ready => exact swept.handle h running (honest i p rfl running) ready
      next => exact swept
    next => exact swept
    next => exact swept

variable {config : SandboxPoolConfig} {cpus : List Cpu} {memory : MemoryStats}
  {functions : Table FunctionId RegisteredFunction} {snapshots : Table FunctionId (List Sandbox)}

theorem Timed.Sound.spawn : Sound (.start (spawn config cpus memory functions snapshots)) :=
  start partition_spawn fun _ => rfl

theorem Timed.allTimely_iff {actions : List Action} (h : Sound s)
    (honest : AllSteps Timed.step Timed.Honest actions s) :
    AllSteps Timed.step Timed.Timely actions s ↔
      AllSteps Timed.step Timed.NoneLeftOver actions s :=
  allSteps_congr (fun _ _ sound _ => sound.timely_iff) (fun _ _ sound honest _ => sound.step honest)
    h honest

theorem Timed.allTimely_of_stopsAtOnce {actions : List Action} (h : Sound s) (swept : s.Swept)
    (honest : AllSteps Timed.step Timed.Honest actions s)
    (stops : AllSteps Timed.step Timed.StopsAtOnce actions s) :
    AllSteps Timed.step Timed.Timely actions s := by
  have both := honest.and stops
  refine (allSteps_congr (I := fun s => Sound s ∧ s.Swept) ?_ ?_ ⟨h, swept⟩ both).mpr
    (allSteps_true actions s)
  · intro s a ⟨sound, swept⟩ _
    exact iff_of_true (sound.timely_iff.mpr swept.noneLeftOver) trivial
  · intro s a ⟨sound, swept⟩ ⟨honest, stops⟩ _
    exact ⟨sound.step honest, swept.step sound honest stops⟩

/-- The notifications act in time in exactly those runs in which none of a stopped timer is received
while the worker has another timer, as in all runs in which a stopped timer sends none. -/
theorem keepalive_timely_iff {actions : List Action}
    (honest : AllSteps Timed.step Timed.Honest actions
      (.start (spawn config cpus memory functions snapshots))) :
    (AllSteps Timed.step Timed.Timely actions
        (.start (spawn config cpus memory functions snapshots)) ↔
      AllSteps Timed.step Timed.NoneLeftOver actions
        (.start (spawn config cpus memory functions snapshots))) ∧
      (AllSteps Timed.step Timed.StopsAtOnce actions
          (.start (spawn config cpus memory functions snapshots)) →
        AllSteps Timed.step Timed.Timely actions
          (.start (spawn config cpus memory functions snapshots))) := by
  refine ⟨Timed.allTimely_iff .spawn honest, Timed.allTimely_of_stopsAtOnce .spawn ?_ honest⟩
  rintro p ⟨⟩ _ n mem
  simp [Timed.start] at mem

/-- Worker 1 is parked until 60. At 60 its timer is sending when the worker is dispatched again; it
is parked at 60 until 120, and the notification arrives then. -/
def lateNotification : List Action :=
  let assigned (event : Event) : Input := { event.smooth 1 with assign := fun _ => some 60 }
  [.handle (assigned (.dispatch 7 .reuseIdleOrProvision)),
    .handle (assigned (.workerMessage (.needWork 1 7))),
    .tick 60, .wake 0,
    .handle (assigned (.dispatch 7 .reuseIdleOnly)),
    .handle (assigned (.workerMessage (.needWork 1 7))),
    .send 0,
    .handle (assigned (.keepaliveTimeout 1))]

/-- The same worker, whose notification is received in time. -/
def inTime : List Action :=
  let assigned (event : Event) : Input := { event.smooth 1 with assign := fun _ => some 60 }
  [.handle (assigned (.dispatch 7 .reuseIdleOrProvision)),
    .handle (assigned (.workerMessage (.needWork 1 7))),
    .tick 60, .wake 0, .send 0,
    .handle (assigned (.keepaliveTimeout 1))]

/-- Nothing is asked of a run in which no worker is reaped. -/
def Action.Unreaping : Action → Prop
  | .handle i => ∀ w f, i.event ≠ .workerMessage (.reapMe w f)
  | .tick _ | .wake _ | .send _ | .quit _ => True

theorem honest_of_unreaping {actions : List Action} (unreaping : ∀ a ∈ actions, a.Unreaping) :
    AllSteps Timed.step Timed.Honest actions s := by
  refine ((allSteps_true actions s).and_mem unreaping).mono ?_
  rintro s a ⟨-, unreaping⟩ i p rfl - w f reaped
  exact absurd reaped (unreaping w f)

/-- The worker is shut down at 60 by the notification of its first timer. -/
theorem late_notification_acts :
    ¬AllSteps Timed.step Timed.Timely lateNotification (.start single) := by
  rw [show single = spawn _ _ _ _ _ from rfl, Timed.allTimely_iff .spawn]
  · decide +kernel
  · exact honest_of_unreaping (by simp [lateNotification, Action.Unreaping, Event.smooth])

theorem keepalive_timely_inTime : AllSteps Timed.step Timed.Timely inTime (.start single) := by
  refine (keepalive_timely_iff (honest_of_unreaping ?_)).1.mpr (by decide +kernel)
  simp [inTime, Action.Unreaping, Event.smooth]

end Run

end Pool
end Snaplace
