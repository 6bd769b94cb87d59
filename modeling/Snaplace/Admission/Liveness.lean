import Snaplace.Admission.Refinement

/-!
# Admission does not stall

Whenever the controller reaches its `select!`, each queued request has a wake-up armed: the deadline
timer, and the fallback sweep, the wait for a permit or the pool's reply.
-/
namespace Snaplace
open Foundation Foundation.Handler WaitingRoom

namespace Admission

/-- The controller at its `select!`: the blocked counter is right, only queues with a request in
them are blocked, and every queued request can still be dispatched and can still expire. -/
structure Awake (c : AdmissionController) : Prop where
  blockedCount : c.blockedFunctionCount = (c.queues.entries.filter fun e => e.2.isBlocked).length
  blocked : ∀ f fq, c.queues.lookup f = some fq → fq.isBlocked → fq.queue ≠ []
  timer : ∀ f fq, c.queues.lookup f = some fq → fq.queue ≠ [] → c.deadlineTimer ≠ none
  wakeUp : ∀ f fq, c.queues.lookup f = some fq → fq.queue ≠ [] →
    fq.isBlocked ∧ 0 < c.blockedFunctionCount ∨
      fq.isBlocked = false ∧ (c.waitingForSlot ∨ c.outstanding.isSome)

section liveness
variable {config : AdmissionConfig} {c : AdmissionController}

theorem total_blockCount (queues : Table FunctionId FunctionQueue) :
    Table.total (fun _ fq => fq.blockCount) queues =
      (queues.entries.filter fun e => e.2.isBlocked).length := by
  unfold Table.total
  induction queues.entries with
  | nil => rfl
  | cons e rest ih =>
    rw [List.map_cons, List.sum_cons, ih]
    by_cases blocked : e.2.isBlocked
    · simp [blocked, FunctionQueue.blockCount, Nat.add_comm]
    · simp [blocked, FunctionQueue.blockCount]

/-- Asking for a slot changes nothing else. -/
theorem awaitSlot_state : (awaitSlot c).state =
    { c with waitingForSlot := c.waitingForSlot || shouldWaitForSlot c } := by
  refine state_eq_of_wp ?_
  simp only [awaitSlot, wp_bind, wp_get, wp_ite, wp_modify, wp_pure]
  exact ⟨fun should => by simp [Post.state, should], fun not => by simp [Post.state, not]⟩

/-- A runnable queue makes the controller wait for a slot, unless a dispatch is outstanding. -/
theorem waits_of_runnable {f : FunctionId} {fq : FunctionQueue}
    (look : c.queues.lookup f = some fq) (runnable : fq.isRunnable) :
    (c.waitingForSlot || shouldWaitForSlot c) = true ∨ c.outstanding.isSome := by
  have some_runnable : hasRunnableFunctions c :=
    List.any_eq_true.mpr ⟨⟨f, fq⟩, Table.mem_entries_iff.mpr look, runnable⟩
  cases outstanding : c.outstanding <;> cases waiting : c.waitingForSlot <;>
    simp [shouldWaitForSlot, outstanding, waiting, some_runnable]

theorem Steady.awake (h : Steady config c) : Awake (awaitSlot c).state := by
  rw [awaitSlot_state]
  refine ⟨?_, fun f fq look on => ?_, fun f fq look waits => ?_, fun f fq look waits => ?_⟩
  · exact h.sound.account.blocked.trans (total_blockCount c.queues)
  · have waits := h.armed.blocked f ((blockedOf_of_lookup look).trans on)
    rwa [show c.room.queue f = fq.queue from queueOf_of_lookup look] at waits
  · change c.deadlineTimer ≠ none
    rw [h.timer]
    refine h.armed.alarm f ?_
    rwa [show c.room.queue f = fq.queue from queueOf_of_lookup look]
  · cases on : fq.isBlocked with
    | true =>
      have counted := Table.le_total (f := fun _ fq => fq.blockCount) look
      rw [FunctionQueue.blockCount_of_isBlocked on] at counted
      exact .inl ⟨rfl, counted.trans h.sound.account.blocked.ge⟩
    | false =>
      exact .inr ⟨rfl, waits_of_runnable look (by simpa [FunctionQueue.isRunnable, on] using waits)⟩

/-- Admission never stalls with work: at every `select!` of every run each queued request has its
wake-ups armed, and no counter is subtracted below zero. -/
theorem admission_awake (config : AdmissionConfig) (start : Instant) (inputs : List Input) :
    match run config start inputs with
    | .running c => Awake (awaitSlot c).state
    | .exited _ _ => True
    | .panicked msg _ => msg ≠ underflowPanic := by
  have sound := run_sound config start inputs
  cases ran : run config start inputs with
  | running c => exact (run_steady ran).awake
  | exited r c => trivial
  | panicked msg c =>
    rw [ran] at sound
    rw [sound]
    exact (by decide : overflowPanic ≠ underflowPanic)

end liveness

end Admission
end Snaplace
