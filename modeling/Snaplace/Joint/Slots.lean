import Snaplace.Admission.Refinement
import Snaplace.Worker.MainLoop

/-!
# Concurrency slots in the controller and the workers together

A permit of the semaphore is granted to the controller, held by its outstanding dispatch, and leaves
as the running slot of a forwarded invocation, which waits in a worker's channel until the worker
serves it. Whatever is dropped (a handler's local, a channel with a worker that ends, the controller)
gives back the permits in it.
-/
namespace Snaplace
open Foundation

namespace Joint

/-- A running slot holds the permit it was made of until it is released or dropped. -/
structure RunningSlot where
  permit : Bool
  deriving DecidableEq, Repr

namespace RunningSlot

def ofPermit : RunningSlot := ⟨true⟩

def release (_ : RunningSlot) : RunningSlot := ⟨false⟩

/-- What a slot gives back when its permit is taken out. -/
def held (slot : RunningSlot) : Nat := if slot.permit then 1 else 0

/-- What a slot gives back that is released `n` times and then dropped. -/
def givesBack : Nat → RunningSlot → Nat
  | 0, slot => slot.held
  | n + 1, slot => slot.held + givesBack n slot.release

/-- A permit comes back exactly once, however often its slot is released. -/
theorem givesBack_eq (n : Nat) (slot : RunningSlot) : slot.givesBack n = slot.held := by
  induction n generalizing slot with
  | zero => rfl
  | succ n ih => simp [givesBack, ih, release, held]

end RunningSlot

inductive Phase where
  | starting
  | looping
  /-- Out of its main loop; the task has not ended, and its channel is still open. -/
  | leaving
  deriving DecidableEq, Repr

/-- A worker's task. Each invocation in its channel, and the one it serves, has its running slot. -/
structure Task where
  phase : Phase
  worker : Worker
  channel : List Worker.Invocation
  serving : Option Worker.Invocation

namespace Task

def slots (task : Task) : Nat := task.channel.length + task.serving.toList.length

end Task

/-- The admission controller's task. Once it has ended, only its semaphore is left. -/
inductive Controller where
  | running (c : Admission.AdmissionController)
  | ended (freeSlots : Nat)

structure System where
  controller : Controller
  tasks : Table WorkerId Task

namespace Controller

def freeSlots : Controller → Nat
  | running c => c.freeSlots
  | ended freeSlots => freeSlots

/-- The permits of the outstanding dispatch. -/
def outstanding : Controller → Nat
  | running c => c.held.length
  | ended _ => 0

/-- Permits that come back to the semaphore. -/
def giveBack (n : Nat) : Controller → Controller
  | running c => running { c with freeSlots := c.freeSlots + n }
  | ended freeSlots => ended (freeSlots + n)

end Controller

/-- The invocations that the controller has sent to workers. -/
def sent (c : Admission.AdmissionController) : List (WorkerId × Worker.Invocation) :=
  c.log.filterMap fun
    | .forward workerRef req cpuset => some (workerRef, { req, cpuset })
    | _ => none

/-- What one worker's task does. -/
inductive TaskStep where
  | init (result : Except SourceError Unit)
  /-- The worker takes the next invocation out of its channel. -/
  | receive
  | serve (answers : Worker.Answers)
  /-- A turn of the worker's loop that takes no invocation. -/
  | control (recv : Worker.Recv) (answers : Worker.Answers)
  /-- The task ends, and its channel with it. -/
  | finish

inductive Step where
  | admission (i : Admission.Input)
  /-- The pool spawns a worker. -/
  | spawn (id : WorkerId) (worker : Worker)
  | task (id : WorkerId) (step : TaskStep)

namespace System

def new (config : Admission.AdmissionConfig) (start : Instant) : System where
  controller := .running (.new config start)
  tasks := ∅

def giveBack (s : System) (n : Nat) : System := { s with controller := s.controller.giveBack n }

def setTask (s : System) (id : WorkerId) (task : Task) : System :=
  { s with tasks := s.tasks.insert id task }

/-- A task ends and is dropped with all that is in it. -/
def endTask (s : System) (id : WorkerId) (task : Task) : System :=
  giveBack { s with tasks := s.tasks.erase id } task.slots

/-- An invocation arrives in a worker's channel, or is dropped if the channel is closed. -/
def deliver (s : System) (invoc : WorkerId × Worker.Invocation) : System :=
  match s.tasks.lookup invoc.1 with
  | some task => s.setTask invoc.1 { task with channel := task.channel ++ [invoc.2] }
  | none => s.giveBack 1

/-- Whether the event can come to the controller now: a send to a worker fails exactly if its channel
is closed, and the permits that workers give back are steps of their own. -/
def admits (s : System) (i : Admission.Input) : Bool :=
  match i.event with
  | .slotReleased => false
  | .dispatchReply (.dispatch workerRef _) delivered => delivered = (s.tasks.lookup workerRef).isSome
  | _ => true

/-- What a turn of the controller leads to. A controller that ends drops the permits it owns. -/
def admitted (s : System) (c : Admission.AdmissionController) :
    Outcome Admission.AdmissionController Empty (Option Admission.RunResult) → System
  | .ok none t => ((sent t).drop (sent c).length).foldl deliver { s with controller := .running t }
  | .ok (some _) t =>
    ((sent t).drop (sent c).length).foldl deliver
      { s with controller := .ended (t.freeSlots + t.held.length) }
  | .panic _ _ => { s with controller := .ended (c.freeSlots + c.held.length) }

def admission (s : System) (i : Admission.Input) : System :=
  match s.controller with
  | .ended _ => s
  | .running c => if s.admits i then s.admitted c (Admission.turn i c) else s

/-- The permits given back by a worker that serves an invocation, from `w` to `w'`: the slot is
released as often as the worker does so, and then dropped. -/
def servedPermits (w w' : Worker) : Nat :=
  RunningSlot.ofPermit.givesBack ((w'.log.drop w.log.length).count .releaseSlot)

/-- How a turn of a worker's loop leaves its task. -/
def turned (s : System) (id : WorkerId) (task : Task) :
    Outcome Worker Empty (Option Worker.WorkerExit) → System
  | .ok none w => s.setTask id { task with worker := w }
  | .ok (some _) w => s.setTask id { task with worker := w, phase := .leaving }
  | .panic _ _ => s.endTask id task

/-- The worker serves the invocation it has taken. -/
def serve (s : System) (id : WorkerId) (answers : Worker.Answers) (task : Task)
    (invoc : Worker.Invocation) : System :=
  let outcome := Worker.turn (.invocation invoc, answers) task.worker
  (s.turned id { task with serving := none } outcome).giveBack
    (servedPermits task.worker outcome.state)

/-- A step of a worker's task. One that the task cannot take now changes nothing. -/
def taskStep (s : System) (id : WorkerId) (task : Task) : TaskStep → System
  | .init result =>
    if task.phase = .starting then
      s.setTask id { task with phase := if result.isOk then .looping else .leaving }
    else s
  | .receive =>
    match task.phase, task.serving, task.channel with
    | .looping, none, invoc :: channel => s.setTask id { task with channel, serving := some invoc }
    | _, _, _ => s
  | .serve answers =>
    match task.serving with
    | some invoc => s.serve id answers task invoc
    | none => s
  | .control recv answers =>
    match task.phase, task.serving, task.channel, recv with
    | .looping, none, [], .invocation _ => s
    | .looping, none, [], recv => s.turned id task (Worker.turn (recv, answers) task.worker)
    | _, _, _, _ => s
  | .finish => if task.phase = .leaving then s.endTask id task else s

def step (s : System) : Step → System
  | .admission i => s.admission i
  | .spawn id worker =>
    match s.tasks.lookup id with
    | some _ => s
    | none => s.setTask id { phase := .starting, worker, channel := [], serving := none }
  | .task id step =>
    match s.tasks.lookup id with
    | some task => s.taskStep id task step
    | none => s

/-- Any interleaving of the steps of the controller, the pool's spawns and the workers. -/
def run (config : Admission.AdmissionConfig) (start : Instant) (steps : List Step) : System :=
  steps.foldl step (new config start)

/-- The running slots not yet released: in channels, and of the invocations being served. -/
def unreleased (s : System) : Nat := Table.total (fun _ task => task.slots) s.tasks

/-- All permits: free, with the outstanding dispatch, and in running slots. -/
def permits (s : System) : Nat :=
  s.controller.freeSlots + s.controller.outstanding + s.unreleased

/-- The number of invocations that workers are serving. -/
def serving (s : System) : Nat := Table.total (fun _ task => task.serving.toList.length) s.tasks

section permits
variable {s : System}

theorem permits_giveBack (n : Nat) : (s.giveBack n).permits = s.permits + n := by
  unfold permits giveBack Controller.giveBack
  cases s.controller <;>
    simp only [Controller.freeSlots, Controller.outstanding, unreleased,
      Admission.AdmissionController.held] <;> omega

theorem permits_setTask {id : WorkerId} {old : Task} (look : s.tasks.lookup id = some old)
    (task : Task) : (s.setTask id task).permits + old.slots = s.permits + task.slots := by
  have := Table.total_insert_add (f := fun _ task => Task.slots task) (k := id) (v := task)
    (m := s.tasks)
  simp only [look, Option.elim_some] at this
  simp only [permits, unreleased, setTask]
  omega

theorem permits_spawn {id : WorkerId} (look : s.tasks.lookup id = none) (task : Task) :
    (s.setTask id task).permits = s.permits + task.slots := by
  have := Table.total_insert_add (f := fun _ task => Task.slots task) (k := id) (v := task)
    (m := s.tasks)
  simp only [look, Option.elim_none] at this
  simp only [permits, unreleased, setTask]
  omega

theorem permits_endTask {id : WorkerId} {old : Task} (look : s.tasks.lookup id = some old)
    (task : Task) : (s.endTask id task).permits + old.slots = s.permits + task.slots := by
  have := Table.total_of_lookup (f := fun _ task => Task.slots task) look
  rw [endTask, permits_giveBack]
  simp only [permits, unreleased]
  omega

theorem permits_deliver (invoc : WorkerId × Worker.Invocation) :
    (s.deliver invoc).permits = s.permits + 1 := by
  unfold deliver
  cases look : s.tasks.lookup invoc.1 with
  | none => exact permits_giveBack 1
  | some task =>
    have := permits_setTask look { task with channel := task.channel ++ [invoc.2] }
    simp only [Task.slots, List.length_append, List.length_singleton] at this
    simp only
    omega

theorem permits_deliverAll (invocs : List (WorkerId × Worker.Invocation)) :
    (invocs.foldl deliver s).permits = s.permits + invocs.length := by
  induction invocs generalizing s with
  | nil => rfl
  | cons invoc rest ih =>
    rw [List.foldl_cons, ih, permits_deliver, List.length_cons]
    omega

theorem permits_turned {id : WorkerId} {old task : Task} (look : s.tasks.lookup id = some old)
    (outcome : Outcome Worker Empty (Option Worker.WorkerExit)) :
    (s.turned id task outcome).permits + old.slots = s.permits + task.slots := by
  match outcome with
  | .ok none w => exact permits_setTask look { task with worker := w }
  | .ok (some _) w => exact permits_setTask look { task with worker := w, phase := .leaving }
  | .panic _ _ => exact permits_endTask look task

/-- However an invocation ends, its permit comes back once. -/
theorem permits_serve {id : WorkerId} {answers : Worker.Answers} {task : Task}
    {invoc : Worker.Invocation} (look : s.tasks.lookup id = some task)
    (taken : task.serving = some invoc) : (s.serve id answers task invoc).permits = s.permits := by
  have : (s.turned id { task with serving := none } _).permits + _ = _ :=
    permits_turned look (Worker.turn (.invocation invoc, answers) task.worker)
  rw [serve, permits_giveBack, servedPermits, RunningSlot.givesBack_eq]
  simp only [Task.slots, taken, Option.toList_some, Option.toList_none, List.length_singleton,
    List.length_nil, RunningSlot.held, RunningSlot.ofPermit, if_true] at this ⊢
  omega

theorem permits_taskStep {id : WorkerId} {task : Task} (look : s.tasks.lookup id = some task)
    (step : TaskStep) : (s.taskStep id task step).permits = s.permits := by
  cases step with
  | init result =>
    simp only [taskStep]
    split
    · exact Nat.add_right_cancel (permits_setTask look _)
    · rfl
  | receive =>
    simp only [taskStep]
    split
    next invoc channel phase free queue =>
      have := permits_setTask look { task with channel, serving := some invoc }
      simp only [Task.slots, free, queue, Option.toList_some, Option.toList_none, List.length_nil,
        List.length_cons] at this
      omega
    next => rfl
  | serve answers =>
    simp only [taskStep]
    split
    next invoc taken => exact permits_serve look taken
    next => rfl
  | control recv answers =>
    simp only [taskStep]
    split
    · rfl
    · exact Nat.add_right_cancel (permits_turned look _)
    · rfl
  | finish =>
    simp only [taskStep]
    split
    · exact Nat.add_right_cancel (permits_endTask look task)
    · rfl

end permits

/-! ## The controller's turns -/

section controller
variable {s : System} {config : Admission.AdmissionConfig} {c t : Admission.AdmissionController}
  {i : Admission.Input}

theorem sent_length (c : Admission.AdmissionController) :
    (sent c).length = c.forwarded.length := by
  unfold sent Admission.AdmissionController.forwarded
  induction c.log with
  | nil => rfl
  | cons action rest ih =>
    cases action <;> simpa [List.filterMap_cons, Admission.Action.forwarded] using ih

theorem held_length (c : Admission.AdmissionController) :
    c.held.length = if c.room.out.isSome then 1 else 0 := by
  unfold Admission.AdmissionController.held Admission.AdmissionController.room
  cases c.outstanding <;> rfl

/-- A turn neither makes nor loses a permit: one that is no longer free or held has left with a
forwarded request. -/
theorem turn_permits {r : Option Admission.RunResult} (steady : Admission.Steady config c)
    (other : i.event ≠ .slotReleased) (ran : Admission.turn i c = .ok r t) :
    t.freeSlots + t.held.length + ((sent t).drop (sent c).length).length =
      c.freeSlots + c.held.length := by
  have turn := (steady.room_turn ran).2
  obtain ⟨granted, served⟩ :
      t.room.granted = c.room.granted ∧ c.room.served.length ≤ t.room.served.length := by
    unfold Admission.RoomTurn at turn
    rw [if_neg other] at turn
    split at turn
    · obtain ⟨f, re, back⟩ := turn
      exact ⟨back.granted, by rw [back.served]⟩
    · exact ⟨turn.granted, turn.served_le⟩
  have free (c : Admission.AdmissionController) : c.room.permits = c.freeSlots := rfl
  have forwarded (c : Admission.AdmissionController) : c.room.served = c.forwarded := rfl
  simp only [WaitingRoom.granted, free, forwarded] at granted served
  rw [List.length_drop, sent_length, sent_length, held_length, held_length]
  omega

/-- The controller that is left runs steadily. -/
def Steady (config : Admission.AdmissionConfig) (s : System) : Prop :=
  ∀ c, s.controller = .running c → Admission.Steady config c

theorem Steady.giveBack (h : Steady config s) (n : Nat) : Steady config (s.giveBack n) := by
  intro c running
  simp only [System.giveBack, Controller.giveBack] at running
  split at running
  next c' before =>
    obtain ⟨⟩ := running
    have steady := h c' before
    exact ⟨⟨steady.sound.account.congr rfl rfl rfl rfl rfl rfl, steady.sound.waiting⟩,
      steady.config, steady.timer, steady.orderly, ⟨steady.armed.blocked, steady.armed.alarm⟩⟩
  next => cases running

theorem Steady.deliverAll (h : Steady config s) (invocs : List (WorkerId × Worker.Invocation)) :
    Steady config (invocs.foldl deliver s) := by
  induction invocs generalizing s with
  | nil => exact h
  | cons invoc rest ih =>
    refine ih ?_
    unfold deliver
    split
    · exact h
    · exact h.giveBack 1

theorem Steady.turned (h : Steady config s) (id : WorkerId) (task : Task)
    (outcome : Outcome Worker Empty (Option Worker.WorkerExit)) :
    Steady config (s.turned id task outcome) := by
  match outcome with
  | .ok none w | .ok (some _) w => exact h
  | .panic _ _ => exact Steady.giveBack (s := { s with tasks := s.tasks.erase id }) h task.slots

theorem Steady.taskStep (h : Steady config s) (id : WorkerId) (task : Task) (step : TaskStep) :
    Steady config (s.taskStep id task step) := by
  cases step with
  | init result => simp only [System.taskStep]; split <;> exact h
  | receive => simp only [System.taskStep]; split <;> exact h
  | serve answers =>
    simp only [System.taskStep]
    split
    · exact (h.turned id _ _).giveBack _
    · exact h
  | control recv answers =>
    simp only [System.taskStep]
    split
    · exact h
    · exact h.turned id task _
    · exact h
  | finish =>
    simp only [System.taskStep]
    split
    · exact Steady.giveBack (s := { s with tasks := s.tasks.erase id }) h task.slots
    · exact h

theorem Steady.admission (h : Steady config s) (i : Admission.Input) :
    Steady config (s.admission i) ∧ (s.admission i).permits = s.permits := by
  unfold System.admission
  split
  next => exact ⟨h, rfl⟩
  next c running =>
    split
    next allowed =>
      have steady := h c running
      have other : i.event ≠ .slotReleased := by
        intro released
        simp [admits, released] at allowed
      have before : s.permits = c.freeSlots + c.held.length + s.unreleased := by
        simp only [permits, running, Controller.freeSlots, Controller.outstanding]
      unfold admitted
      cases ran : Admission.turn i c with
      | ok r t =>
        have same := turn_permits steady other ran
        cases r with
        | none =>
          refine ⟨Steady.deliverAll (s := { s with controller := .running t }) ?_ _, ?_⟩
          · rintro _ ⟨⟩
            exact steady.kept ran
          · rw [permits_deliverAll, before]
            simp only [permits, Controller.freeSlots, Controller.outstanding, unreleased] at same ⊢
            omega
        | some r =>
          refine ⟨Steady.deliverAll (s := { s with controller := .ended _ }) nofun _, ?_⟩
          rw [permits_deliverAll, before]
          simp only [permits, Controller.freeSlots, Controller.outstanding, unreleased] at same ⊢
          omega
      | err e _ => exact e.elim
      | panic msg t => exact ⟨nofun, before.symm ▸ rfl⟩
    next => exact ⟨h, rfl⟩

theorem Steady.step (h : Steady config s) (step : Step) :
    Steady config (s.step step) ∧ (s.step step).permits = s.permits := by
  cases step with
  | admission i => exact h.admission i
  | spawn id worker =>
    simp only [System.step]
    split
    next => exact ⟨h, rfl⟩
    next look => exact ⟨h, permits_spawn look _⟩
  | task id step =>
    simp only [System.step]
    split
    next task look => exact ⟨h.taskStep id task step, permits_taskStep look step⟩
    next => exact ⟨h, rfl⟩

end controller

/-- Concurrency slots are conserved: in every reachable state the free permits, the permit of the
outstanding dispatch and the running slots not yet released are as many as the configuration allows,
and no more invocations than that are being served. -/
theorem slots_conserved (config : Admission.AdmissionConfig) (start : Instant)
    (steps : List Step) :
    let s := run config start steps
    s.controller.freeSlots + s.controller.outstanding + s.unreleased = config.maxConcurrency ∧
      s.serving ≤ config.maxConcurrency := by
  have conserved : Steady config (run config start steps) ∧
      (run config start steps).permits = config.maxConcurrency := by
    unfold run
    suffices ∀ s : System, Steady config s → Steady config (steps.foldl step s) ∧
        (steps.foldl step s).permits = s.permits by
      refine this (new config start) ?_
      rintro _ ⟨⟩
      exact Admission.steady_new config start
    induction steps with
    | nil => exact fun s h => ⟨h, rfl⟩
    | cons one rest ih =>
      intro s h
      obtain ⟨h', same⟩ := h.step one
      obtain ⟨steady, rest_same⟩ := ih (s.step one) h'
      exact ⟨steady, rest_same.trans same⟩
  have serving : (run config start steps).serving ≤ (run config start steps).unreleased := by
    refine List.sum_le_sum fun e _ => ?_
    exact Nat.le_add_left _ _
  have total := conserved.2
  unfold permits at total
  exact ⟨total, by omega⟩

end System

end Joint
end Snaplace
