import Snaplace.Admission.Controller

/-!
# Where every request is

Each request received is failed, forwarded, queued, with the outstanding dispatch, or in the hand of
the handler that is moving it. `Accounted hand` counts these places; every helper of the controller
has one specification that says how it changes the hand.
-/
namespace Snaplace
open Foundation Foundation.Handler

namespace Admission

def Action.received : Action → Option Request
  | .receive req => some req
  | _ => none

def Action.failed : Action → Option Request
  | .fail req _ _ => some req
  | _ => none

def Action.forwarded : Action → Option Request
  | .forward _ req _ => some req
  | _ => none

namespace AdmissionController

def received (c : AdmissionController) : List Request := c.log.filterMap Action.received

/-- The requests that `failAdmission` completed. -/
def failed (c : AdmissionController) : List Request := c.log.filterMap Action.failed

def forwarded (c : AdmissionController) : List Request := c.log.filterMap Action.forwarded

/-- The request held by the outstanding dispatch. -/
def held (c : AdmissionController) : List Request := (c.outstanding.map (·.envelope.req)).toList

def queued (c : AdmissionController) : List Request :=
  c.queues.entries.flatMap fun e => e.2.queue.map RequestEnvelope.req

end AdmissionController

def FunctionQueue.count (req : Request) (fq : FunctionQueue) : Nat :=
  (fq.queue.map RequestEnvelope.req).count req

def FunctionQueue.blockCount (fq : FunctionQueue) : Nat := if fq.isBlocked then 1 else 0

@[simp] theorem FunctionQueue.blockCount_runnable (queue : List RequestEnvelope) :
    blockCount ⟨queue, .runnable⟩ = 0 := rfl

@[simp] theorem FunctionQueue.blockCount_blocked (queue : List RequestEnvelope)
    (reason : BlockReason) (blockedAt : Instant) :
    blockCount ⟨queue, .blocked reason blockedAt⟩ = 1 := rfl

theorem FunctionQueue.blockCount_of_isBlocked {fq : FunctionQueue} (h : fq.isBlocked) :
    fq.blockCount = 1 := by
  simp [blockCount, h]

theorem FunctionQueue.blockCount_of_not {fq : FunctionQueue} (h : ¬fq.isBlocked) :
    fq.blockCount = 0 := by
  simp [blockCount, h]

/-- Every request received is in one place, and the controller's counters say how many are. -/
structure Accounted (hand : List Request) (c : AdmissionController) : Prop where
  balance : ∀ req, c.received.count req = c.failed.count req + c.forwarded.count req +
    Table.total (fun _ fq => fq.count req) c.queues + c.held.count req + hand.count req
  numReceived : c.stats.numReceived = c.received.length
  numFailed : c.stats.numFailed = c.failed.length
  numDispatched : c.stats.numDispatched = c.forwarded.length
  queued : c.totalQueuedReqs = Table.total (fun _ fq => fq.queue.length) c.queues
  blocked : c.blockedFunctionCount = Table.total (fun _ fq => fq.blockCount) c.queues
  own : ∀ f fq, c.queues.lookup f = some fq → ∀ re ∈ fq.queue, re.functionId = f
  heldQueue : ∀ d, c.outstanding = some d → c.queues.lookup d.envelope.functionId ≠ none

/-- What a helper leaves alone. -/
structure Frame (c t : AdmissionController) : Prop where
  outstanding : t.outstanding = c.outstanding
  waiting : t.waitingForSlot = c.waitingForSlot
  received : t.received = c.received
  queues : ∀ f, c.queues.lookup f ≠ none → t.queues.lookup f ≠ none

theorem Frame.refl (c : AdmissionController) : Frame c c := ⟨rfl, rfl, rfl, fun _ h => h⟩

theorem Frame.trans {a b c : AdmissionController} (h : Frame a b) (k : Frame b c) : Frame a c :=
  ⟨k.outstanding.trans h.outstanding, k.waiting.trans h.waiting, k.received.trans h.received,
    fun f present => k.queues f (h.queues f present)⟩

/-- A helper that ends with `hand` in hand; the only panic of the model is an instant out of range. -/
def ends (hand : List Request) (c : AdmissionController) : Post AdmissionController Unit Unit where
  ok _ t := Accounted hand t ∧ Frame c t
  err _ _ := False
  panic msg _ := msg = overflowPanic

section places
variable {hand : List Request} {c : AdmissionController}

theorem ends_trans {m : AdmissionM Unit} {t : AdmissionController} (frame : Frame c t)
    (h : wp m (ends hand t) t) : wp m (ends hand c) t :=
  wp_mono h (fun _ _ ⟨account, frame'⟩ => ⟨account, frame.trans frame'⟩) nofun fun _ _ h => h

/-- Timers, permits and the slot flag are not part of the account. -/
theorem Accounted.congr {t : AdmissionController} (h : Accounted hand c) (log : t.log = c.log)
    (stats : t.stats = c.stats) (queues : t.queues = c.queues)
    (outstanding : t.outstanding = c.outstanding) (queued : t.totalQueuedReqs = c.totalQueuedReqs)
    (blocked : t.blockedFunctionCount = c.blockedFunctionCount) : Accounted hand t := by
  constructor
  · simpa only [AdmissionController.received, AdmissionController.failed,
      AdmissionController.forwarded, AdmissionController.held, log, queues, outstanding]
      using h.balance
  · simpa only [AdmissionController.received, log, stats] using h.numReceived
  · simpa only [AdmissionController.failed, log, stats] using h.numFailed
  · simpa only [AdmissionController.forwarded, log, stats] using h.numDispatched
  · rw [queued, queues, h.queued]
  · rw [blocked, queues, h.blocked]
  · rw [queues]; exact h.own
  · rw [queues, outstanding]; exact h.heldQueue

theorem Accounted.fail {req : Request} {functionId : FunctionId} {failure : AdmissionFailure}
    (h : Accounted (req :: hand) c) :
    Accounted hand
      { c with
        stats.numFailed := c.stats.numFailed + 1
        log := c.log ++ [.fail req functionId failure] } := by
  refine ⟨fun x => ?_, ?_, ?_, ?_, h.queued, h.blocked, h.own, h.heldQueue⟩
  · have := h.balance x
    simp [AdmissionController.received, AdmissionController.failed, AdmissionController.held,
      AdmissionController.forwarded, Action.received, Action.failed, Action.forwarded,
      List.filterMap_cons, List.count_cons] at this ⊢
    omega
  · simpa [AdmissionController.received, Action.received, List.filterMap_cons] using h.numReceived
  · simpa [AdmissionController.failed, Action.failed, List.filterMap_cons] using h.numFailed
  · simpa [AdmissionController.forwarded, Action.forwarded, List.filterMap_cons] using h.numDispatched

/-- Actions that are not about the place of a request. -/
theorem Accounted.log {action : Action} (h : Accounted hand c) (received : action.received = none)
    (failed : action.failed = none) (forwarded : action.forwarded = none) :
    Accounted hand { c with log := c.log ++ [action] } := by
  refine ⟨fun x => ?_, ?_, ?_, ?_, h.queued, h.blocked, h.own, h.heldQueue⟩
  · simpa [AdmissionController.received, AdmissionController.failed, AdmissionController.held,
      AdmissionController.forwarded, *] using h.balance x
  · simpa [AdmissionController.received, received] using h.numReceived
  · simpa [AdmissionController.failed, failed] using h.numFailed
  · simpa [AdmissionController.forwarded, forwarded] using h.numDispatched

theorem failAdmission_spec {i : Input} {req : Request} {functionId : FunctionId}
    {failure : AdmissionFailure} (h : Accounted (req :: hand) c) :
    wp (failAdmission i req functionId failure) (ends hand c) c := by
  simp only [failAdmission, record, wp_bind, wp_modify, wp_ite, wp_pure]
  refine ⟨fun _ => ⟨h.fail.log rfl rfl rfl, rfl, rfl, ?_, fun _ h => h⟩,
    fun _ => ⟨h.fail, rfl, rfl, ?_, fun _ h => h⟩⟩
  all_goals simp [AdmissionController.received, Action.received, List.filterMap_cons]

/-- Every request of `res` is failed, in order. -/
theorem failAll_spec {i : Input} {failure : AdmissionFailure} {res : List RequestEnvelope}
    (h : Accounted (res.map RequestEnvelope.req ++ hand) c) :
    wp (res.forM fun re => failAdmission i re.req re.functionId failure) (ends hand c) c := by
  induction res generalizing c with
  | nil => exact ⟨h, Frame.refl c⟩
  | cons re res ih =>
    rw [List.forM_eq_forM, List.forM_cons]
    refine wp_seq (failAdmission_spec h) ?_ nofun fun _ _ h => h
    rintro - t ⟨account, frame⟩
    exact ends_trans frame (ih account)

theorem setDeadlineTimerTo_spec {next : Option Instant} (h : Accounted hand c) :
    wp (setDeadlineTimerTo next) (ends hand c) c :=
  ⟨h.congr rfl rfl rfl rfl rfl rfl, ⟨rfl, rfl, rfl, fun _ h => h⟩⟩

theorem updateDeadlineTimer_spec {deadline : Instant} (h : Accounted hand c) :
    wp (updateDeadlineTimer deadline) (ends hand c) c := by
  simp only [updateDeadlineTimer, wp_bind, wp_get, wp_ite, wp_pure]
  exact ⟨fun _ => setDeadlineTimerTo_spec h, fun _ => ⟨h, Frame.refl c⟩⟩

theorem releaseSlot_spec (h : Accounted hand c) : wp releaseSlot (ends hand c) c :=
  ⟨h.congr rfl rfl rfl rfl rfl rfl, ⟨rfl, rfl, rfl, fun _ h => h⟩⟩

theorem Accounted.receive {req : Request} (h : Accounted hand c) :
    Accounted (req :: hand)
      { c with
        stats.numReceived := c.stats.numReceived + 1
        log := c.log ++ [.receive req] } := by
  refine ⟨fun x => ?_, ?_, ?_, ?_, h.queued, h.blocked, h.own, h.heldQueue⟩
  · have := h.balance x
    simp [AdmissionController.received, AdmissionController.failed, AdmissionController.held,
      AdmissionController.forwarded, Action.received, Action.failed, Action.forwarded,
      List.filterMap_cons, List.count_cons] at this ⊢
    omega
  · simpa [AdmissionController.received, Action.received, List.filterMap_cons] using h.numReceived
  · simpa [AdmissionController.failed, Action.failed, List.filterMap_cons] using h.numFailed
  · simpa [AdmissionController.forwarded, Action.forwarded, List.filterMap_cons]
      using h.numDispatched

/-- One queue replaced, and the two counters moved with it. -/
theorem Accounted.replace {f : FunctionId} {fq : FunctionQueue} {hand' : List Request}
    {queued blocked : Nat} (h : Accounted hand c) (old : FunctionQueue)
    (look : (c.queues.lookup f).getD FunctionQueue.empty = old)
    (moved : ∀ req, fq.count req + hand'.count req = old.count req + hand.count req)
    (hqueued : queued + old.queue.length = c.totalQueuedReqs + fq.queue.length)
    (hblocked : blocked + old.blockCount = c.blockedFunctionCount + fq.blockCount)
    (own : ∀ re ∈ fq.queue, re.functionId = f) :
    Accounted hand'
      { c with
        queues := c.queues.insert f fq
        totalQueuedReqs := queued
        blockedFunctionCount := blocked } := by
  have sum (g : FunctionQueue → Nat) (none : g .empty = 0) :
      Table.total (fun _ => g) (c.queues.insert f fq) + g old =
        Table.total (fun _ => g) c.queues + g fq := by
    have := Table.total_insert_add (f := fun _ => g) (k := f) (v := fq) (m := c.queues)
    subst look
    cases hl : c.queues.lookup f <;> simp_all
  refine ⟨fun req => ?_, h.numReceived, h.numFailed, h.numDispatched, ?_, ?_, ?_, ?_⟩
  · have balance := h.balance req
    have := sum (fun fq => fq.count req) rfl
    have := moved req
    simp only [AdmissionController.received, AdmissionController.failed, AdmissionController.held,
      AdmissionController.forwarded] at balance ⊢
    omega
  · have := sum (fun fq => fq.queue.length) rfl
    have := h.queued
    dsimp only
    omega
  · have := sum (fun fq => fq.blockCount) rfl
    have := h.blocked
    dsimp only
    omega
  · intro g fq' look' re mem
    rw [Table.lookup_insert_ite] at look'
    split at look'
    next same =>
      obtain rfl := Option.some.inj look'
      rw [same]
      exact own re mem
    next => exact h.own g fq' look' re mem
  · intro d hd
    rw [Table.lookup_insert_ite]
    split
    · simp
    · exact h.heldQueue d hd

theorem insert_present {f : FunctionId} {fq : FunctionQueue} (g : FunctionId)
    (present : c.queues.lookup g ≠ none) : (c.queues.insert f fq).lookup g ≠ none := by
  rw [Table.lookup_insert_ite]
  split
  · simp
  · exact present

theorem requeue_spec {re : RequestEnvelope} (h : Accounted (re.req :: hand) c)
    (present : c.queues.lookup re.functionId ≠ none) :
    wp (requeue re) (ends hand c) c := by
  obtain ⟨fq, look⟩ := Option.ne_none_iff_exists'.mp present
  simp only [requeue, updateQueue, wp_bind, wp_get, wp_expect, wp_modify, look]
  refine ⟨?_, nofun⟩
  rintro _ ⟨⟩
  have account : Accounted hand
      { c with
        queues := c.queues.insert re.functionId { fq with queue := re :: fq.queue }
        totalQueuedReqs := c.totalQueuedReqs + 1 } := by
    refine h.replace fq (by simp [look]) (fun req => ?_) ?_ rfl ?_
    · simp [FunctionQueue.count, List.count_cons]
      omega
    · simp only [List.length_cons]
      omega
    · simpa using h.own _ _ look
  exact ends_trans ⟨rfl, rfl, rfl, fun g => insert_present g⟩ (updateDeadlineTimer_spec account)

theorem enqueue_spec {req : Request} {now : Instant} {delay : Duration}
    (h : Accounted (req :: hand) c) (present : c.queues.lookup req.functionId ≠ none) :
    wp (enqueue req req.functionId now delay) (ends hand c) c := by
  obtain ⟨fq, look⟩ := Option.ne_none_iff_exists'.mp present
  simp only [enqueue, addInstant, updateQueue, wp_bind, wp_get, wp_expect, wp_modify, wp_require,
    wp_pure, look]
  refine ⟨fun _ => ⟨?_, nofun⟩, fun _ => rfl⟩
  rintro _ ⟨⟩
  have account : Accounted hand
      { c with
        queues := c.queues.insert req.functionId
          { fq with queue := fq.queue ++ [⟨req, req.functionId, now, now + delay⟩] }
        totalQueuedReqs := c.totalQueuedReqs + 1 } := by
    refine h.replace fq (by simp [look]) (fun x => ?_) ?_ rfl ?_
    · simp [FunctionQueue.count, List.count_cons]
      omega
    · simp only [List.length_append, List.length_singleton]
      omega
    · intro re mem
      obtain mem | mem := List.mem_append.mp mem
      · exact h.own _ _ look re mem
      · rw [List.mem_singleton.mp mem]
  exact ends_trans ⟨rfl, rfl, rfl, fun g => insert_present g⟩ (updateDeadlineTimer_spec account)

/-- All queues replaced at once, each by its image under `g`. -/
theorem Accounted.replaceAll {g : FunctionQueue → FunctionQueue} {hand' : List Request}
    {queued blocked : Nat} (h : Accounted hand c)
    (moved : ∀ req, Table.total (fun _ fq => (g fq).count req) c.queues + hand'.count req =
      Table.total (fun _ fq => fq.count req) c.queues + hand.count req)
    (hqueued : queued = Table.total (fun _ fq => (g fq).queue.length) c.queues)
    (hblocked : blocked = Table.total (fun _ fq => (g fq).blockCount) c.queues)
    (own : ∀ fq, ∀ re ∈ (g fq).queue, re ∈ fq.queue) :
    Accounted hand'
      { c with
        queues := c.queues.mapValues fun _ => g
        totalQueuedReqs := queued
        blockedFunctionCount := blocked } := by
  refine ⟨fun req => ?_, h.numReceived, h.numFailed, h.numDispatched, ?_, ?_, ?_, ?_⟩
  · have balance := h.balance req
    have := moved req
    simp only [AdmissionController.received, AdmissionController.failed, AdmissionController.held,
      AdmissionController.forwarded, Table.total_mapValues] at balance ⊢
    omega
  · simpa only [Table.total_mapValues] using hqueued
  · simpa only [Table.total_mapValues] using hblocked
  · intro f fq look re mem
    rw [Table.lookup_mapValues, Option.map_eq_some_iff] at look
    obtain ⟨old, look, rfl⟩ := look
    exact h.own f old look re (own old re mem)
  · intro d hd
    simpa [Table.lookup_mapValues] using h.heldQueue d hd

theorem mapValues_present {g : FunctionQueue → FunctionQueue} (f : FunctionId)
    (present : c.queues.lookup f ≠ none) :
    (c.queues.mapValues fun _ => g).lookup f ≠ none := by
  simpa [Table.lookup_mapValues] using present

/-- A sweep splits each queue into what is failed and what stays. -/
theorem sweep_count (now : Instant) (req : Request) (fq : FunctionQueue) :
    (fq.sweep now).count req + ((fq.expired now).map RequestEnvelope.req).count req =
      fq.count req := by
  have split : fq.expired now ++ fq.remaining now = fq.queue := List.takeWhile_append_dropWhile
  rw [Nat.add_comm]
  simp only [FunctionQueue.count, FunctionQueue.sweep]
  rw [← List.count_append, ← List.map_append, split]

theorem sweep_length (now : Instant) (fq : FunctionQueue) :
    (fq.sweep now).queue.length + (fq.expired now).length = fq.queue.length := by
  have split : fq.expired now ++ fq.remaining now = fq.queue := List.takeWhile_append_dropWhile
  rw [← split, List.length_append, Nat.add_comm]
  rfl

theorem sweep_isBlocked (now : Instant) (fq : FunctionQueue) :
    (fq.sweep now).isBlocked = (fq.isBlocked && !fq.unblocks now) := by
  unfold FunctionQueue.sweep
  by_cases stale : fq.unblocks now
  · simp [stale, FunctionQueue.isBlocked]
  · simp only [stale, Bool.not_false, Bool.and_true]
    rfl

theorem sweep_blockCount (now : Instant) (fq : FunctionQueue) :
    (fq.sweep now).blockCount + (if fq.unblocks now then 1 else 0) = fq.blockCount := by
  rw [FunctionQueue.blockCount, FunctionQueue.blockCount, sweep_isBlocked]
  by_cases stale : fq.unblocks now
  · have blocked : fq.isBlocked := by simp_all [FunctionQueue.unblocks]
    simp [stale, blocked]
  · simp [stale]

theorem expireQueuedRequests_spec {i : Input} {now : Instant} (h : Accounted hand c) :
    wp (expireQueuedRequests i now) (ends hand c) c := by
  obtain ⟨expired, hexp⟩ :
    ∃ res, res = (c.queues.values i.rank).flatMap (FunctionQueue.expired now) := ⟨_, rfl⟩
  have length : Table.total (fun _ fq => (fq.sweep now).queue.length) c.queues + expired.length =
      c.totalQueuedReqs := by
    rw [hexp, List.length_flatMap, Table.sum_values, ← Table.total_add, h.queued]
    simp only [sweep_length]
  have blocks : Table.total (fun _ fq => (fq.sweep now).blockCount) c.queues +
      (c.queues.values i.rank).countP (FunctionQueue.unblocks now) = c.blockedFunctionCount := by
    rw [Table.countP_values, ← Table.total_add, h.blocked]
    simp only [sweep_blockCount]
  have account : Accounted (expired.map RequestEnvelope.req ++ hand)
      { c with
        queues := c.queues.mapValues fun _ => FunctionQueue.sweep now
        totalQueuedReqs := c.totalQueuedReqs - expired.length
        blockedFunctionCount := c.blockedFunctionCount -
          (c.queues.values i.rank).countP (FunctionQueue.unblocks now) } := by
    refine h.replaceAll (fun req => ?_) (by omega) (by omega) ?_
    · rw [List.count_append, hexp, List.map_flatMap, List.count_flatMap,
        show (List.count req ∘ fun fq => (FunctionQueue.expired now fq).map RequestEnvelope.req) =
          fun fq => ((fq.expired now).map RequestEnvelope.req).count req from rfl,
        Table.sum_values, ← Nat.add_assoc, ← Table.total_add]
      simp only [sweep_count]
    · intro fq re mem
      exact (List.dropWhile_sublist _).mem mem
  simp only [expireQueuedRequests, subtractQueued, subtractBlocked, wp_bind, wp_get, wp_modify,
    wp_require, ← hexp]
  refine ⟨fun _ => ⟨fun _ => ?_, fun bad => absurd ?_ bad⟩, fun bad => absurd ?_ bad⟩
  · refine wp_mono (failAll_spec account) ?_ nofun fun _ _ h => h
    rintro - t ⟨account, frame⟩
    refine ⟨account.congr rfl rfl rfl rfl rfl rfl, frame.outstanding, frame.waiting, frame.received,
      ?_⟩
    exact fun f present => frame.queues f (mapValues_present f present)
  · omega
  · omega

theorem expireIfDue_spec {i : Input} (h : Accounted hand c) :
    wp (expireIfDue i) (ends hand c) c := by
  simp only [expireIfDue, wp_bind, wp_get, wp_ite, wp_pure]
  exact ⟨fun _ => expireQueuedRequests_spec h, fun _ => ⟨h, Frame.refl c⟩⟩

theorem pickNextFunction_runnable {i : Input} {f : FunctionId}
    (h : pickNextFunction i c = some f) :
    ∃ fq, c.queues.lookup f = some fq ∧ fq.isRunnable := by
  unfold pickNextFunction at h
  obtain ⟨⟨g, fq⟩, best, rfl⟩ := Option.map_eq_some_iff.mp h
  have mem := List.argmin_mem best
  obtain ⟨traversed, runnable⟩ := List.mem_filter.mp mem
  exact ⟨fq, Table.mem_ordered.mp traversed, runnable⟩

/-- The head of a runnable queue is taken into the hand. -/
theorem popHead_spec {f : FunctionId} {fq : FunctionQueue} (h : Accounted hand c)
    (look : c.queues.lookup f = some fq) (runnable : fq.isRunnable) :
    wp (popHead f)
      { ok := fun re t => Accounted (re.req :: hand) t ∧ Frame c t ∧
          t.queues.lookup re.functionId ≠ none
        err := fun _ _ => False } c := by
  obtain ⟨queue, state⟩ := fq
  cases queue with
  | nil => simp [FunctionQueue.isRunnable] at runnable
  | cons re queue =>
    have unblocked : FunctionQueue.isBlocked ⟨re :: queue, state⟩ = false := by
      simpa [FunctionQueue.isRunnable] using runnable
    have nonempty : 1 ≤ c.totalQueuedReqs := by
      have := Table.le_total (f := fun _ fq => fq.queue.length) look
      have := h.queued
      simp only [List.length_cons] at *
      omega
    simp only [popHead, subtractQueued, wp_bind, wp_get, wp_expect, look]
    refine ⟨?_, nofun⟩
    rintro _ ⟨⟩
    simp only [wp_bind, wp_get, wp_modify, wp_require, wp_pure]
    refine ⟨fun _ => ⟨fun _ => ⟨?_, ⟨rfl, rfl, rfl, fun g => insert_present g⟩, ?_⟩,
      fun bad => bad unblocked⟩, fun bad => bad nonempty⟩
    · refine h.replace ⟨re :: queue, state⟩ (by simp [look]) (fun req => ?_) ?_ rfl ?_
      · simp [FunctionQueue.count, List.count_cons]
        omega
      · simp only [List.length_cons]
        omega
      · exact fun x mem => h.own _ _ look x (List.mem_cons_of_mem _ mem)
    · rw [h.own _ _ look re List.mem_cons_self, AList.lookup_insert]
      simp

theorem markFunctionRunnable_spec {f : FunctionId} (h : Accounted hand c) :
    wp (markFunctionRunnable f) (ends hand c) c := by
  simp only [markFunctionRunnable, wp_bind, wp_get]
  match look : c.queues.lookup f with
  | none => exact ⟨h, Frame.refl c⟩
  | some fq =>
    simp only [subtractBlocked, wp_ite, wp_bind, wp_get, wp_modify, wp_require, wp_pure]
    refine ⟨fun blocked => ?_, fun _ => ⟨h, Frame.refl c⟩⟩
    have counted := FunctionQueue.blockCount_of_isBlocked blocked
    have positive : 1 ≤ c.blockedFunctionCount := by
      have := Table.le_total (f := fun _ fq => fq.blockCount) look
      have := h.blocked
      omega
    refine ⟨fun _ => ⟨?_, rfl, rfl, rfl, fun g => insert_present g⟩,
      fun bad => absurd positive bad⟩
    refine h.replace fq (by simp [look]) (fun _ => rfl) rfl ?_ (h.own f fq look)
    rw [counted, FunctionQueue.blockCount_runnable]
    omega

theorem markFunctionBlocked_spec {i : Input} {f : FunctionId} {reason : BlockReason}
    (h : Accounted hand c) (present : c.queues.lookup f ≠ none) :
    wp (markFunctionBlocked i f reason) (ends hand c) c := by
  obtain ⟨fq, look⟩ := Option.ne_none_iff_exists'.mp present
  have blocked (n : Nat) (hn : n + fq.blockCount = c.blockedFunctionCount + 1) :
      Accounted hand { c with
        queues := c.queues.insert f { fq with state := .blocked reason i.now }
        blockedFunctionCount := n } :=
    h.replace fq (by simp [look]) (fun _ => rfl) rfl hn (h.own f fq look)
  simp only [markFunctionBlocked, addInstant, wp_bind, wp_get, wp_expect, look]
  refine ⟨?_, nofun⟩
  rintro _ ⟨⟩
  simp only [wp_bind, wp_ite, wp_get, wp_modify, wp_require, wp_pure]
  refine ⟨fun free => ?_, fun taken => ?_⟩
  · have account := blocked (c.blockedFunctionCount + 1) (by
      rw [FunctionQueue.blockCount_of_not (by simp [free]), Nat.add_zero])
    refine ⟨fun _ => ⟨fun _ => ?_, fun _ => rfl⟩, fun _ => ?_⟩
    · exact ⟨account.congr rfl rfl rfl rfl rfl rfl, rfl, rfl, rfl, fun g => insert_present g⟩
    · exact ⟨account, rfl, rfl, rfl, fun g => insert_present g⟩
  · have account := blocked c.blockedFunctionCount (by
      rw [FunctionQueue.blockCount_of_isBlocked (by simpa using taken)])
    exact ⟨account, rfl, rfl, rfl, fun g => insert_present g⟩

theorem underMemoryPressure_isBlocked {fq : FunctionQueue} (h : fq.underMemoryPressure) :
    fq.isBlocked := by
  unfold FunctionQueue.underMemoryPressure at h
  unfold FunctionQueue.isBlocked
  grind

@[simp] theorem unblock_queue (p : FunctionQueue → Bool) (fq : FunctionQueue) :
    (fq.unblock p).queue = fq.queue := by
  unfold FunctionQueue.unblock
  split <;> rfl

theorem unblock_blockCount {p : FunctionQueue → Bool} {fq : FunctionQueue}
    (h : p fq → fq.isBlocked) :
    (fq.unblock p).blockCount + (if p fq then 1 else 0) = fq.blockCount := by
  by_cases pressed : p fq
  · have := FunctionQueue.blockCount_of_isBlocked (h pressed)
    simp [FunctionQueue.unblock, pressed, this]
  · simp [FunctionQueue.unblock, pressed]

/-- Unblocking leaves every request where it is. -/
theorem Accounted.unblock {p : FunctionQueue → Bool} {blocked : Nat} (h : Accounted hand c)
    (hblocked : blocked = Table.total (fun _ fq => (fq.unblock p).blockCount) c.queues) :
    Accounted hand
      { c with
        queues := c.queues.mapValues fun _ => .unblock p
        blockedFunctionCount := blocked } := by
  refine h.replaceAll (fun _ => ?_) ?_ hblocked fun fq re mem => by simpa using mem
  · simp only [FunctionQueue.count, unblock_queue]
  · simp only [unblock_queue, h.queued]

theorem unblockResourceBlockedFunctions_spec {i : Input} (h : Accounted hand c) :
    wp (unblockResourceBlockedFunctions i) (ends hand c) c := by
  have blocks :
      Table.total (fun _ fq => (fq.unblock FunctionQueue.underMemoryPressure).blockCount) c.queues +
      (c.queues.values i.rank).countP FunctionQueue.underMemoryPressure =
        c.blockedFunctionCount := by
    rw [Table.countP_values, ← Table.total_add, h.blocked]
    simp only [unblock_blockCount underMemoryPressure_isBlocked]
  simp only [unblockResourceBlockedFunctions, subtractBlocked, wp_bind, wp_get, wp_modify,
    wp_require]
  refine ⟨fun _ => ⟨h.unblock ?_, rfl, rfl, rfl, fun f => mapValues_present f⟩,
    fun bad => absurd ?_ bad⟩
  · omega
  · omega

theorem unblockAll_spec (h : Accounted hand c) : wp unblockAll (ends hand c) c := by
  have none (fq : FunctionQueue) : (fq.unblock FunctionQueue.isBlocked).blockCount = 0 := by
    by_cases blocked : fq.isBlocked
    · simp [FunctionQueue.unblock, blocked]
    · simp [FunctionQueue.unblock, blocked, FunctionQueue.blockCount_of_not]
  simp only [unblockAll, wp_bind, wp_get, wp_ite, wp_modify, wp_pure]
  refine ⟨fun _ => ⟨h.unblock ?_, rfl, rfl, rfl, fun f => mapValues_present f⟩,
    fun _ => ⟨h, Frame.refl c⟩⟩
  rw [Table.total_eq_zero fun _ fq => none fq]

theorem handlePoolEvent_spec {i : Input} {ev : PoolEvent} (h : Accounted hand c) :
    wp (handlePoolEvent i ev) (ends hand c) c := by
  match ev with
  | .workerIdle f => exact markFunctionRunnable_spec h
  | .memoryCapAvailable => exact unblockResourceBlockedFunctions_spec h
  | .workerCapAvailable f =>
    simp only [handlePoolEvent, wp_bind, wp_get]
    match c.queues.lookup f with
    | none => exact ⟨h, Frame.refl c⟩
    | some fq =>
      simp only [wp_ite, wp_pure]
      exact ⟨fun _ => markFunctionRunnable_spec h, fun _ => ⟨h, Frame.refl c⟩⟩

end places

end Admission
end Snaplace
