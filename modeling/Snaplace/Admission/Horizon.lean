import Snaplace.Admission.Room
import Snaplace.Foundation.Frame

/-!
# How far ahead the controller looks

A deadline is the current time and the longest delay of the request's function. If no such sum is
later than some instant, no deadline that the controller keeps or arms its timer for ever is, and if
that instant exists the controller never adds up one that does not.
-/
namespace Snaplace
open Foundation Foundation.Handler

namespace Admission

/-- The parts of the state in which there are deadlines, and the delays they are made of. -/
def dues (c : AdmissionController) : AdmissionConfig × Table FunctionId FunctionQueue ×
    Option OutstandingDispatch × Option Instant :=
  (c.config, c.queues, c.outstanding, c.deadlineTimer)

/-- Nothing is due later than `bound`. -/
structure Bounded (config : AdmissionConfig) (bound : Instant) (c : AdmissionController) : Prop where
  config : c.config = config
  queued : ∀ f fq, c.queues.lookup f = some fq → ∀ re ∈ fq.queue, re.deadline ≤ bound
  held : ∀ d, c.outstanding = some d → d.envelope.deadline ≤ bound
  timer : ∀ deadline, c.deadlineTimer = some deadline → deadline ≤ bound

/-- What begins at this turn is due by `bound`, an instant that exists: the wait of a request, and the
retry of a blocked function. -/
structure Reaches (config : AdmissionConfig) (bound : Instant) (i : Input) : Prop where
  delay : ∀ f overrides, i.store f = some overrides →
    i.now + (overrides.bind (·.maxQueueDelay)).getD config.defaultMaxQueueDelay ≤ bound
  retry : i.now + config.fallbackRetryPeriod ≤ bound
  inRange : bound ≤ maxInstant

variable {config : AdmissionConfig} {bound : Instant} {c : AdmissionController} {i : Input}
  {f : FunctionId}

namespace Bounded

theorem frame {t : AdmissionController} (h : Bounded config bound c) (same : dues t = dues c) :
    Bounded config bound t := by
  obtain ⟨config, queues, outstanding, timer⟩ : t.config = c.config ∧ t.queues = c.queues ∧
      t.outstanding = c.outstanding ∧ t.deadlineTimer = c.deadlineTimer := by
    simpa [dues] using same
  constructor
  · rw [config]
    exact h.config
  · rw [queues]
    exact h.queued
  · rw [outstanding]
    exact h.held
  · rw [timer]
    exact h.timer

/-- A queue is replaced by one in which nothing is due later. -/
theorem replace {fq : FunctionQueue} (h : Bounded config bound c)
    (due : ∀ re ∈ fq.queue, re.deadline ≤ bound) :
    Bounded config bound { c with queues := c.queues.insert f fq } :=
  { h with queued := Table.forall_insert.mpr ⟨due, fun g fq _ look => h.queued g fq look⟩ }

/-- All queues keep requests that they have. -/
theorem mapValues (g : FunctionQueue → FunctionQueue) (h : Bounded config bound c)
    (fewer : ∀ fq, ∀ re ∈ (g fq).queue, re ∈ fq.queue) :
    Bounded config bound { c with queues := c.queues.mapValues fun _ => g } := by
  refine { h with queued := fun f fq look re mem => ?_ }
  rw [Table.lookup_mapValues] at look
  obtain ⟨old, before, rfl⟩ := Option.map_eq_some_iff.mp look
  exact h.queued f old before re (fewer old re mem)

theorem release (h : Bounded config bound c) :
    Bounded config bound { c with outstanding := none } :=
  { h with held := nofun }

theorem arm {next : Option Instant} (h : Bounded config bound c)
    (due : ∀ deadline, next = some deadline → deadline ≤ bound) :
    Bounded config bound { c with nextDeadline := next, deadlineTimer := next } :=
  { h with timer := due }

end Bounded

/-- Nothing becomes due later than `bound`, and no sum leaves the range of instants. -/
abbrev Within (config : AdmissionConfig) (bound : Instant) {ε α : Type}
    (m : Handler AdmissionController ε α) : Prop :=
  Sustains (Bounded config bound) overflowPanic m

section handlers

/-- A handler that changes neither what is queued or outstanding nor the timer. -/
theorem within_aside {ε : Type} {g : AdmissionController → AdmissionController}
    (same : ∀ c, dues (g c) = dues c) :
    Within config bound (modify g : Handler AdmissionController ε PUnit) :=
  .modify fun c h => h.frame (same c)

theorem within_failAdmission {req : Request} {failure : AdmissionFailure} :
    Within config bound (failAdmission i req f failure) := by
  refine .bind (within_aside fun _ => rfl) fun _ =>
    .bind (within_aside fun _ => rfl) fun _ => .ite ?_ fun _ => .pure _
  exact fun _ => within_aside fun _ => rfl

theorem within_setDeadlineTimerTo {next : Option Instant}
    (due : ∀ deadline, next = some deadline → deadline ≤ bound) :
    Within config bound (setDeadlineTimerTo next) := .modify fun _ h => h.arm due

theorem within_updateDeadlineTimer {deadline : Instant} (due : deadline ≤ bound) :
    Within config bound (updateDeadlineTimer deadline) := by
  refine .inspect fun c _ => .ite (fun _ => within_setDeadlineTimerTo ?_) fun _ => .pure _
  rintro _ ⟨⟩
  exact due

theorem within_updateQueue {g : FunctionQueue → FunctionQueue}
    (due : ∀ fq, (∀ re ∈ fq.queue, re.deadline ≤ bound) → ∀ re ∈ (g fq).queue, re.deadline ≤ bound) :
    Within config bound (updateQueue f g) := by
  refine .inspect fun c h => .expecting (by decide) fun fq look => .modify fun _ h' => ?_
  exact h'.replace (due fq (h.queued f fq look))

theorem within_subtractQueued {n : Nat} : Within config bound (subtractQueued n) :=
  .inspect fun _ _ => .bind (.require _ (.inr (by decide))) fun _ =>
    within_aside fun _ => rfl

theorem within_subtractBlocked {n : Nat} : Within config bound (subtractBlocked n) :=
  .inspect fun _ _ => .bind (.require _ (.inr (by decide))) fun _ =>
    within_aside fun _ => rfl

/-- The timer is armed for a request that is still queued. -/
theorem within_expireQueuedRequests {now : Instant} :
    Within config bound (expireQueuedRequests i now) := by
  refine .inspect fun c h => .bind (.modify fun _ h' => ?_) fun _ => .bind within_subtractQueued
    fun _ => .bind within_subtractBlocked fun _ => .bind ?_ fun _ => ?_
  · exact h'.mapValues _ fun fq re mem => (List.dropWhile_sublist _).mem mem
  · exact .forM fun _ _ => within_failAdmission
  · apply within_setDeadlineTimerTo
    intro deadline next
    obtain ⟨⟨⟩⟩ | ⟨fq, mem, front⟩ := foldl_earliest_mem next
    obtain ⟨f, look⟩ := mem_values.mp mem
    obtain ⟨re, head, rfl⟩ := Option.map_eq_some_iff.mp front
    exact h.queued f fq look re ((List.dropWhile_sublist _).mem (List.mem_of_head? head))

theorem within_expireIfDue : Within config bound (expireIfDue i) :=
  .inspect fun _ _ => .ite (fun _ => within_expireQueuedRequests) fun _ => .pure _

theorem within_requeue {re : RequestEnvelope} (due : re.deadline ≤ bound) :
    Within config bound (requeue re) := by
  apply Sustains.bind
  · exact within_updateQueue fun fq all => List.forall_mem_cons.mpr ⟨due, all⟩
  · intro _
    exact .bind (within_aside fun _ => rfl) fun _ => within_updateDeadlineTimer due

theorem within_releaseSlot : Within config bound releaseSlot :=
  within_aside fun _ => rfl

/-- The request taken out of its queue is one that was queued. -/
theorem within_popHead {α : Type} {rest : RequestEnvelope → AdmissionM α}
    (each : ∀ re, re.deadline ≤ bound → Within config bound (rest re)) :
    Within config bound (popHead f >>= rest) := by
  simp only [popHead, bind_assoc]
  refine .inspect fun c h => .expecting (by decide) fun fq look => ?_
  have due := h.queued f fq look
  cases queue : fq.queue with
  | nil =>
    intro s _
    rw [wp_bind, wp_panicWith]
    exact (by decide : "called `Option::unwrap()` on a `None` value" ≠ overflowPanic)
  | cons re rest =>
    rw [queue] at due
    obtain ⟨first, others⟩ := List.forall_mem_cons.mp due
    simp only [bind_assoc]
    refine .bind (.modify fun _ h' => h'.replace others) fun _ => .bind within_subtractQueued fun _ =>
      .bind (.require _ (.inr (by decide))) fun _ => ?_
    rw [pure_bind]
    exact each re first

theorem within_handleAcquiredSlot {sent : Bool} :
    Within config bound (handleAcquiredSlot i sent) := by
  refine .bind within_expireIfDue fun _ => .inspect fun c _ => ?_
  cases pickNextFunction i c with
  | none => exact within_releaseSlot
  | some f =>
    refine within_popHead fun re due => .ite (fun _ => ?_) fun _ => ?_
    · refine .bind (within_aside fun _ => rfl) fun _ => .modify fun _ h => ?_
      refine { h with held := ?_ }
      rintro _ ⟨⟩
      exact due
    · exact .bind (within_requeue due) fun _ => .bind within_releaseSlot fun _ => .throw _

theorem wp_addInstant_eq {now : Instant} {delay : Duration} {Q : Post AdmissionController Unit Instant} :
    wp (addInstant now delay) Q c =
      ((now + delay ≤ maxInstant → Q.ok (now + delay) c) ∧
        (¬now + delay ≤ maxInstant → Q.panic overflowPanic c)) := by
  simp only [addInstant, wp_bind, wp_require, wp_pure]

theorem within_addInstant {now : Instant} {delay : Duration} (fits : now + delay ≤ maxInstant) :
    Within config bound (addInstant now delay) :=
  .bind (.require _ (.inl fits)) fun _ => .pure _

theorem within_enqueue {req : Request} {now : Instant} {delay : Duration}
    (due : now + delay ≤ bound) (inRange : bound ≤ maxInstant) :
    Within config bound (enqueue req f now delay) := by
  unfold enqueue addInstant
  rw [bind_assoc]
  refine .bind (.require _ (.inl (due.trans inRange))) fun _ => ?_
  rw [pure_bind]
  apply Sustains.bind
  · refine within_updateQueue fun fq all re mem => ?_
    obtain mem | mem := List.mem_append.mp mem
    · exact all re mem
    · obtain rfl := List.mem_singleton.mp mem
      exact due
  · intro _
    exact .bind (within_aside fun _ => rfl) fun _ => within_updateDeadlineTimer due

theorem within_functionFull {fqCap : Nat} {checkedExpiries : Bool} :
    Within config bound (functionFull i f fqCap checkedExpiries) := by
  have again : Within config bound (do
      let fq ← expect queuePanic ((← get).queues.lookup f)
      pure (decide (fqCap ≤ fq.queue.length)) : AdmissionM Bool) :=
    .inspect fun _ _ => .bind (.expect (by decide) _) fun _ => .pure _
  refine .inspect fun _ _ => .bind (.expect (by decide) _) fun fq => .ite ?_ fun _ => .pure _
  exact fun _ => .ite (fun _ => .bind within_expireIfDue fun _ => again) fun _ => again

theorem within_admitToQueue {req : Request} {overrides : Option FunctionAdmissionOverrides}
    {checkedExpiries : Bool} (reaches : Reaches config bound i)
    (known : i.store req.functionId = some overrides) :
    Within config bound (admitToQueue i req overrides checkedExpiries) := by
  refine .inspect fun c h => .bind (.modify fun c h => h.replace fun re mem => ?_) fun _ =>
    .bind within_functionFull fun _ => .ite (fun _ => within_failAdmission) fun _ => ?_
  · cases look : c.queues.lookup req.functionId with
    | none => simp [look, FunctionQueue.empty] at mem
    | some fq => exact h.queued _ fq look re (by simpa [look] using mem)
  · rw [h.config]
    exact within_enqueue (reaches.delay _ _ known) reaches.inRange

theorem within_handleNewRequest {req : Request} (reaches : Reaches config bound i) :
    Within config bound (handleNewRequest i req) := by
  refine .bind (within_aside fun _ => rfl) fun _ =>
    .bind (within_aside fun _ => rfl) fun _ => ?_
  unfold admitRequest
  cases known : i.store req.functionId with
  | none => exact within_failAdmission
  | some overrides =>
    refine .inspect fun c _ => .ite (fun _ => .bind within_expireIfDue fun _ => ?_) fun _ => ?_
    · refine .inspect fun c _ => .ite (fun _ => within_failAdmission) fun _ => ?_
      exact within_admitToQueue reaches known
    · exact within_admitToQueue reaches known

theorem within_markFunctionRunnable : Within config bound (markFunctionRunnable f) := by
  refine .inspect fun c h => ?_
  cases look : c.queues.lookup f with
  | none => exact .pure _
  | some fq =>
    refine .ite (fun _ => .bind (.modify fun _ h' => ?_) fun _ => within_subtractBlocked) fun _ => ?_
    · exact h'.replace (h.queued f fq look)
    · exact .pure _

theorem within_markFunctionBlocked {reason : BlockReason} (reaches : Reaches config bound i) :
    Within config bound (markFunctionBlocked i f reason) := by
  refine .inspect fun c h => .expecting (by decide) fun fq look => ?_
  have block : Within config bound (modify fun c =>
      { c with queues := c.queues.insert f { fq with state := .blocked reason i.now } } :
        AdmissionM Unit) :=
    .modify fun _ h' => h'.replace (h.queued f fq look)
  refine .ite (fun _ => .bind (within_aside fun _ => rfl) fun _ =>
    .inspect fun c' h' => .ite (fun _ => ?_) fun _ => block) fun _ => block
  refine .inspect fun c' h' => .bind (within_addInstant ?_) fun _ =>
    .bind (within_aside fun _ => rfl) fun _ => block
  rw [h'.config]
  exact reaches.retry.trans reaches.inRange

theorem within_unblockResourceBlockedFunctions :
    Within config bound (unblockResourceBlockedFunctions i) := by
  refine .inspect fun c h => .bind (.modify fun _ h' => h'.mapValues _ fun fq re mem => ?_) fun _ =>
    within_subtractBlocked
  unfold FunctionQueue.unblock at mem
  split at mem <;> exact mem

theorem within_unblockAll : Within config bound unblockAll := by
  refine .inspect fun c h => .ite (fun _ => .modify fun _ h' => ?_) fun _ => .pure _
  refine (h'.mapValues (.unblock FunctionQueue.isBlocked) fun fq re mem => ?_).frame rfl
  unfold FunctionQueue.unblock at mem
  split at mem <;> exact mem

theorem within_handlePoolEvent {ev : PoolEvent} : Within config bound (handlePoolEvent i ev) := by
  cases ev with
  | workerIdle f => exact within_markFunctionRunnable
  | memoryCapAvailable => exact within_unblockResourceBlockedFunctions
  | workerCapAvailable f =>
    refine .inspect fun c _ => ?_
    cases c.queues.lookup f with
    | none => exact .pure _
    | some fq => exact .ite (fun _ => within_markFunctionRunnable) fun _ => .pure _

theorem within_handleDispatchReply {resp : DispatchResponse} {delivered : Bool}
    (reaches : Reaches config bound i) :
    Within config bound (handleDispatchReply i resp delivered) := by
  refine .inspect fun c h => .expecting (by decide) fun curr held =>
    .bind (.modify fun _ h' => h'.release) fun _ => ?_
  have due := h.held curr held
  cases resp with
  | dispatch workerRef cpuset =>
    apply Sustains.ite
    · exact fun _ => .bind (within_aside fun _ => rfl) fun _ =>
        within_aside fun _ => rfl
    · exact fun _ => .bind within_releaseSlot fun _ => .throw _
  | wouldBlock reason =>
    exact .bind (within_requeue due) fun _ =>
      .bind (within_markFunctionBlocked reaches) fun _ => within_releaseSlot
  | reject reason => exact .bind within_failAdmission fun _ => within_releaseSlot

theorem within_handleReplyClosed : Within config bound (handleReplyClosed i) := by
  refine .inspect fun c _ => ?_
  cases c.outstanding with
  | none => exact .throw _
  | some curr =>
    exact .bind (.modify fun _ h => h.release) fun _ => .bind within_failAdmission fun _ =>
      .bind within_releaseSlot fun _ => .throw _

end handlers

/-- The fallback interval arms no deadline. -/
theorem within_tick {next : AdmissionController → Instant} :
    Within config bound
      (modify fun c => { c with livenessTimer := next c } : Handler AdmissionController Empty PUnit) :=
  within_aside fun _ => rfl

theorem within_stay {m : AdmissionM Unit} (h : Within config bound m) :
    Within config bound (stay m) := by
  refine .bind (.attempt h) fun r => ?_
  cases r with
  | ok _ => exact .pure _
  | error _ => exact .pure _

/-- One turn of the loop. -/
theorem within_turn (reaches : Reaches config bound i) : Within config bound (turn i) := by
  have await : Within config bound awaitSlot :=
    .inspect fun _ _ => .ite (fun _ => within_aside fun _ => rfl) fun _ => .pure _
  refine .bind await fun _ => .inspect fun c _ => ?_
  cases i.event with
  | quit => exact .inspect fun _ _ => .pure _
  | sourceClosed => exact .inspect fun _ _ => .pure _
  | newRequest req => exact within_stay (within_handleNewRequest reaches)
  | poolEvent ev => exact within_stay within_handlePoolEvent
  | permit sent =>
    refine .ite (fun _ => ?_) fun _ => .pure _
    exact .bind (within_aside fun _ => rfl) fun _ => within_stay within_handleAcquiredSlot
  | semaphoreClosed =>
    refine .ite (fun _ => ?_) fun _ => .pure _
    exact .bind (within_aside fun _ => rfl) fun _ => .pure _
  | dispatchReply resp delivered =>
    exact .ite (fun _ => within_stay (within_handleDispatchReply reaches)) fun _ => .pure _
  | replyChannelClosed => exact .ite (fun _ => within_stay within_handleReplyClosed) fun _ => .pure _
  | deadlinePassed => exact .ite (fun _ => within_stay within_expireQueuedRequests) fun _ => .pure _
  | livenessTick =>
    refine .ite (fun _ => ?_) fun _ => .pure _
    exact .bind within_tick fun _ => within_stay within_unblockAll
  | slotReleased => exact within_stay within_releaseSlot

theorem bounded_new {start : Instant} :
    Bounded config bound (AdmissionController.new config start) where
  config := rfl
  queued := nofun
  held := nofun
  timer := nofun

/-- In a run in which everything that begins is due by `bound`, nothing is ever due later. -/
theorem bounded_run (start : Instant) {inputs : List Input}
    (reaches : ∀ i ∈ inputs, Reaches config bound i) :
    (∀ c, run config start inputs = .running c → Bounded config bound c) ∧
      ∀ c, run config start inputs ≠ .panicked overflowPanic c := by
  let Left (rest : List Input) (c : AdmissionController) : Prop :=
    Bounded config bound c ∧ ∀ i ∈ rest, Reaches config bound i
  have start : Left inputs (AdmissionController.new config start) := ⟨bounded_new, reaches⟩
  have turns (i : Input) (rest : List Input) (c : AdmissionController) (left : Left (i :: rest) c) :
      wp (turn i) (Post.sustain (Left rest) overflowPanic) c := by
    obtain ⟨bounded, reaches⟩ := left
    obtain ⟨now, later⟩ := List.forall_mem_cons.mp reaches
    apply wp_mono (within_turn now c bounded)
    · exact fun _ t bounded => ⟨bounded, later⟩
    · exact fun e _ _ => e.elim
    · exact fun _ _ other => other
  obtain ⟨ends, never⟩ := iterate_sustains turns start
  exact ⟨fun c ran => (ends c ran).1, never⟩

end Admission
end Snaplace
