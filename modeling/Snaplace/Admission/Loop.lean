import Snaplace.Admission.Conservation

/-!
# The account over whole runs of the controller

The handlers and one turn of the loop keep the account with nothing in hand. While the controller
waits for a permit there is no outstanding dispatch, so the permit's dispatch replaces none.
-/
namespace Snaplace
open Foundation Foundation.Handler

namespace Admission

section handlers
variable {c : AdmissionController} {i : Input}

theorem Accounted.hold {re : RequestEnvelope} {action : Action} (h : Accounted [re.req] c)
    (none : c.outstanding = none) (present : c.queues.lookup re.functionId ≠ .none)
    (received : action.received = .none) (failed : action.failed = .none)
    (forwarded : action.forwarded = .none) :
    Accounted [] { c with outstanding := some ⟨re⟩, log := c.log ++ [action] } := by
  have h := h.log received failed forwarded
  refine ⟨fun req => ?_, h.numReceived, h.numFailed, h.numDispatched, h.queued, h.blocked, h.own,
    ?_⟩
  · have := h.balance req
    simpa [AdmissionController.received, AdmissionController.failed, AdmissionController.held,
      AdmissionController.forwarded, none] using this
  · rintro _ ⟨⟩
    exact present

theorem Accounted.take {d : OutstandingDispatch} (h : Accounted [] c)
    (some : c.outstanding = .some d) :
    Accounted [d.envelope.req] { c with outstanding := none } := by
  refine ⟨fun req => ?_, h.numReceived, h.numFailed, h.numDispatched, h.queued, h.blocked, h.own,
    nofun⟩
  have := h.balance req
  simpa [AdmissionController.received, AdmissionController.failed, AdmissionController.held,
    AdmissionController.forwarded, some] using this

theorem Accounted.forward {hand : List Request} {req : Request} {workerRef : WorkerId} {cpuset : Cpu}
    (h : Accounted (req :: hand) c) :
    Accounted hand
      { c with
        log := c.log ++ [.forward workerRef req cpuset]
        stats.numDispatched := c.stats.numDispatched + 1 } := by
  refine ⟨fun x => ?_, ?_, ?_, ?_, h.queued, h.blocked, h.own, h.heldQueue⟩
  · have := h.balance x
    simp [AdmissionController.received, AdmissionController.failed, AdmissionController.held,
      AdmissionController.forwarded, Action.received, Action.failed, Action.forwarded,
      List.filterMap_cons, List.count_cons] at this ⊢
    omega
  · simpa [AdmissionController.received, Action.received, List.filterMap_cons] using h.numReceived
  · simpa [AdmissionController.failed, Action.failed, List.filterMap_cons] using h.numFailed
  · simpa [AdmissionController.forwarded, Action.forwarded, List.filterMap_cons]
      using h.numDispatched

theorem functionFull_spec {hand : List Request} {f : FunctionId} {fqCap : Nat}
    {checkedExpiries : Bool} (h : Accounted hand c) (present : c.queues.lookup f ≠ none) :
    wp (functionFull i f fqCap checkedExpiries)
      { ok := fun _ t => Accounted hand t ∧ Frame c t
        err := fun _ _ => False
        panic := fun msg _ => msg = overflowPanic } c := by
  have look {t : AdmissionController} (frame : Frame c t) : t.queues.lookup f ≠ none :=
    frame.queues f present
  simp only [functionFull, wp_bind, wp_get, wp_expect, wp_ite, wp_pure]
  refine ⟨fun fq _ => ⟨fun _ => ⟨fun _ => ?_, fun _ => ?_⟩, fun _ => ⟨h, Frame.refl c⟩⟩,
    fun bad => absurd bad present⟩
  · refine wp_mono (expireIfDue_spec h) ?_ nofun fun _ _ h => h
    rintro - t ⟨account, frame⟩
    exact ⟨fun _ _ => ⟨account, frame⟩, fun bad => absurd bad (look frame)⟩
  · exact ⟨fun _ _ => ⟨h, Frame.refl c⟩, fun bad => absurd bad present⟩

theorem admitToQueue_spec {req : Request} {overrides : Option FunctionAdmissionOverrides}
    {checkedExpiries : Bool} (h : Accounted [req] c) :
    wp (admitToQueue i req overrides checkedExpiries) (ends [] c) c := by
  obtain ⟨fq, hfq⟩ : ∃ fq, (c.queues.lookup req.functionId).getD FunctionQueue.empty = fq :=
    ⟨_, rfl⟩
  have own : ∀ re ∈ fq.queue, re.functionId = req.functionId := by
    cases look : c.queues.lookup req.functionId with
    | none => simp [← hfq, look, FunctionQueue.empty]
    | some old => simpa [← hfq, look] using h.own _ old look
  have created : Accounted [req] { c with queues := c.queues.insert req.functionId fq } :=
    h.replace fq hfq (fun _ => rfl) rfl rfl own
  have present : (c.queues.insert req.functionId fq).lookup req.functionId ≠ none := by
    simp [AList.lookup_insert]
  simp only [admitToQueue, wp_bind, wp_get, wp_modify, hfq]
  refine wp_mono (functionFull_spec created present) ?_ nofun fun _ _ h => h
  rintro full t ⟨account, frame⟩
  have present := frame.queues _ present
  have frame : Frame c t := ⟨frame.outstanding, frame.waiting, frame.received,
    fun f hf => frame.queues f (insert_present f hf)⟩
  simp only [wp_ite]
  exact ⟨fun _ => ends_trans frame (failAdmission_spec account),
    fun _ => ends_trans frame (enqueue_spec account present)⟩

theorem admitRequest_spec {req : Request} (h : Accounted [req] c) :
    wp (admitRequest i req) (ends [] c) c := by
  unfold admitRequest
  match i.store req.functionId with
  | none => exact failAdmission_spec h
  | some overrides =>
    simp only [wp_bind, wp_get, wp_ite]
    refine ⟨fun _ => ?_, fun _ => admitToQueue_spec h⟩
    refine wp_mono (expireIfDue_spec h) ?_ nofun fun _ _ h => h
    rintro - u ⟨account, frame⟩
    exact ⟨fun _ => ends_trans frame (failAdmission_spec account),
      fun _ => ends_trans frame (admitToQueue_spec account)⟩

/-- A request is received, and then failed or queued. -/
theorem handleNewRequest_spec {req : Request} (h : Accounted [] c) :
    wp (handleNewRequest i req)
      { ok := fun _ t => Accounted [] t ∧ t.outstanding = c.outstanding ∧
          t.waitingForSlot = c.waitingForSlot ∧ t.received = c.received ++ [req]
        err := fun _ _ => False
        panic := fun msg _ => msg = overflowPanic } c := by
  simp only [handleNewRequest, record, wp_bind, wp_modify]
  refine wp_mono (admitRequest_spec h.receive) ?_ (fun _ _ never => never.elim) fun _ _ h => h
  rintro - t ⟨account, frame⟩
  refine ⟨account, frame.outstanding, frame.waiting, frame.received.trans ?_⟩
  simp [AdmissionController.received, Action.received]

/-- Spend a permit: the only place where a dispatch becomes outstanding, and there is none yet. -/
theorem handleAcquiredSlot_spec {sent : Bool} (h : Accounted [] c) (none : c.outstanding = none)
    (idle : c.waitingForSlot = false) :
    wp (handleAcquiredSlot i sent)
      { ok := fun _ t => Accounted [] t ∧ t.waitingForSlot = false ∧ t.received = c.received
        err := fun _ t => Accounted [] t ∧ t.outstanding = .none
        panic := fun msg _ => msg = overflowPanic } c := by
  simp only [handleAcquiredSlot, wp_bind]
  refine wp_mono (expireIfDue_spec h) ?_ nofun fun _ _ h => h
  rintro - t ⟨account, frame⟩
  simp only [wp_get]
  match picked : pickNextFunction i t with
  | .none =>
    exact ⟨account.congr rfl rfl rfl rfl rfl rfl, frame.waiting.trans idle, frame.received⟩
  | some f =>
    obtain ⟨fq, look, runnable⟩ := pickNextFunction_runnable picked
    simp only [wp_bind]
    refine wp_mono (popHead_spec account look runnable) ?_ nofun nofun
    rintro re u ⟨account, frame', present⟩
    have frame := frame.trans frame'
    have free : u.outstanding = .none := frame.outstanding.trans none
    simp only [wp_ite, wp_bind, record, wp_modify, wp_throw]
    refine ⟨fun _ => ⟨account.hold free present rfl rfl rfl, frame.waiting.trans idle, ?_⟩,
      fun _ => ?_⟩
    · simpa [AdmissionController.received, Action.received, List.filterMap_cons]
        using frame.received
    · refine wp_mono (requeue_spec account present) ?_ nofun fun _ _ h => h
      rintro - v ⟨account, frame'⟩
      exact ⟨account.congr rfl rfl rfl rfl rfl rfl, frame'.outstanding.trans free⟩

/-- The pool's reply takes the outstanding dispatch. -/
theorem handleDispatchReply_spec {resp : DispatchResponse} {delivered : Bool} (h : Accounted [] c)
    (some : c.outstanding ≠ none) :
    wp (handleDispatchReply i resp delivered)
      { ok := fun _ t => Accounted [] t ∧ t.outstanding = none ∧ t.received = c.received
        err := fun _ _ => True
        panic := fun msg _ => msg = overflowPanic } c := by
  obtain ⟨d, hd⟩ := Option.ne_none_iff_exists'.mp some
  have present := h.heldQueue d hd
  have account := h.take hd
  simp only [handleDispatchReply, wp_bind, wp_get, wp_expect, hd]
  refine ⟨?_, by simp⟩
  rintro _ ⟨⟩
  simp only [wp_modify]
  have finish {u : AdmissionController} (account : Accounted [] u)
      (frame : Frame { c with outstanding := none } u) :
      wp releaseSlot
        { ok := fun _ t => Accounted [] t ∧ t.outstanding = none ∧ t.received = c.received
          err := fun _ _ => True
          panic := fun msg _ => msg = overflowPanic } u :=
    ⟨account.congr rfl rfl rfl rfl rfl rfl, frame.outstanding, frame.received⟩
  cases resp with
  | dispatch workerRef cpuset =>
    simp only [wp_ite, wp_bind, record, wp_modify, wp_throw]
    refine ⟨fun _ => ⟨account.forward, ?_⟩, fun _ => trivial⟩
    simp [AdmissionController.received, Action.received, List.filterMap_cons]
  | wouldBlock reason =>
    simp only [wp_bind]
    refine wp_mono (requeue_spec account present) ?_ (fun _ _ never => never.elim) fun _ _ h => h
    rintro - t ⟨account, frame⟩
    refine wp_mono (ends_trans frame (markFunctionBlocked_spec account
      (frame.queues _ present))) ?_ (fun _ _ never => never.elim) fun _ _ h => h
    rintro - u ⟨account, frame⟩
    exact finish account frame
  | reject reason =>
    simp only [wp_bind]
    refine wp_mono (failAdmission_spec account) ?_ (fun _ _ never => never.elim) fun _ _ h => h
    rintro - u ⟨account, frame⟩
    exact finish account frame

theorem handleReplyClosed_spec (h : Accounted [] c) :
    wp (handleReplyClosed i)
      { ok := fun _ _ => False
        err := fun _ t => Accounted [] t
        panic := fun msg _ => msg = overflowPanic } c := by
  simp only [handleReplyClosed, wp_bind, wp_get]
  match hd : c.outstanding with
  | none => exact h
  | some d =>
    simp only [wp_bind, wp_modify]
    refine wp_mono (failAdmission_spec (h.take hd)) ?_ nofun fun _ _ h => h
    rintro - t ⟨account, -⟩
    exact account.congr rfl rfl rfl rfl rfl rfl

end handlers

/-- What holds at the top of every iteration. -/
structure Sound (c : AdmissionController) : Prop where
  account : Accounted [] c
  waiting : c.waitingForSlot = true → c.outstanding = none

def Event.request : Event → Option Request
  | .newRequest req => some req
  | _ => none

/-- A turn leaves an outstanding dispatch where it is unless it is the pool's reply to it. -/
def KeepsOutstanding (event : Event) (c t : AdmissionController) : Prop :=
  ∀ d, c.outstanding = some d → t.outstanding = some d ∨
    t.outstanding = none ∧ ∃ resp delivered, event = .dispatchReply resp delivered

/-- One turn of the loop that stays in it. -/
structure Turned (event : Event) (c t : AdmissionController) : Prop where
  sound : Sound t
  received : t.received = c.received ++ event.request.toList
  outstanding : KeepsOutstanding event c t

def turnPost (event : Event) (c : AdmissionController) :
    Post AdmissionController Empty (Option RunResult) where
  ok r t := r = none → Turned event c t
  err _ _ := False
  panic msg _ := msg = overflowPanic

section turns
variable {c : AdmissionController} {i : Input}

theorem stay_spec {m : AdmissionM Unit} {event : Event}
    (h : wp m { ok := fun _ t => Turned event c t, err := fun _ _ => True,
                panic := fun msg _ => msg = overflowPanic } c) :
    wp (stay m) (turnPost event c) c := by
  simp only [stay, wp_bind, wp_attempt]
  exact wp_mono h (fun _ _ turned _ => turned) (fun _ _ _ => nofun) fun _ _ h => h

/-- A handler that keeps the frame is a turn of an event that brings no request. -/
theorem stay_ends {m : AdmissionM Unit} {event : Event} (sound : Sound c)
    (quiet : event.request = none) (h : wp m (ends [] c) c) : wp (stay m) (turnPost event c) c := by
  refine stay_spec (wp_mono h ?_ nofun fun _ _ h => h)
  rintro - t ⟨account, frame⟩
  refine ⟨⟨account, fun w => ?_⟩, by simp [quiet, frame.received], fun d hd => .inl ?_⟩
  · rw [frame.outstanding]
    exact sound.waiting (frame.waiting.symm.trans w)
  · rw [frame.outstanding, hd]

theorem stutter {event : Event} (sound : Sound c) (quiet : event.request = none) :
    Turned event c c :=
  ⟨sound, by simp [quiet], fun _ hd => .inl hd⟩

/-- The fallback sweep, once the interval has been set to its next tick. -/
theorem tick_spec {next : Instant} (sound : Sound c) :
    wp (stay unblockAll) (turnPost .livenessTick c) { c with livenessTimer := next } := by
  have account : Accounted [] { c with livenessTimer := next } :=
    sound.account.congr rfl rfl rfl rfl rfl rfl
  refine wp_mono (P := turnPost .livenessTick { c with livenessTimer := next })
    (stay_ends ⟨account, sound.waiting⟩ rfl (unblockAll_spec account)) ?_ nofun fun _ _ h => h
  intro r t h stays
  obtain ⟨sound, received, outstanding⟩ := h stays
  exact ⟨sound, received, outstanding⟩

theorem select_spec (sound : Sound c) : wp (select i) (turnPost i.event c) c := by
  simp only [select, wp_bind, wp_get]
  match event : i.event with
  | .quit | .sourceClosed => exact nofun
  | .newRequest req =>
    refine stay_spec (wp_mono (handleNewRequest_spec sound.account) ?_ nofun fun _ _ h => h)
    rintro - t ⟨account, outstanding, waiting, received⟩
    refine ⟨⟨account, fun w => ?_⟩, received, fun d hd => .inl (outstanding.trans hd)⟩
    exact outstanding.trans (sound.waiting (waiting.symm.trans w))
  | .poolEvent ev => exact stay_ends sound rfl (handlePoolEvent_spec sound.account)
  | .permit sent =>
    simp only [wp_ite, wp_bind, wp_modify, wp_pure]
    refine ⟨fun granted => ?_, fun _ _ => stutter sound rfl⟩
    have free := sound.waiting granted.1
    have account : Accounted []
        { c with waitingForSlot := false, freeSlots := c.freeSlots - 1 } :=
      sound.account.congr rfl rfl rfl rfl rfl rfl
    simp only [stay, wp_bind, wp_attempt]
    refine wp_mono (handleAcquiredSlot_spec account free rfl) ?_ (fun _ _ _ => nofun)
      fun _ _ h => h
    rintro - t ⟨account, idle, received⟩ -
    refine ⟨⟨account, by simp [idle]⟩, ?_, fun d hd => by simp [free] at hd⟩
    rw [received]
    exact (List.append_nil _).symm
  | .semaphoreClosed =>
    simp only [wp_ite, wp_bind, wp_modify, wp_pure]
    exact ⟨fun _ => nofun, fun _ _ => stutter sound rfl⟩
  | .dispatchReply resp delivered =>
    simp only [wp_ite, wp_pure]
    refine ⟨fun outstanding => ?_, fun _ _ => stutter sound rfl⟩
    refine stay_spec (wp_mono (handleDispatchReply_spec sound.account ?_) ?_
      (fun _ _ h => h) fun _ _ h => h)
    · exact Option.isSome_iff_ne_none.mp outstanding
    · rintro - t ⟨account, none, received⟩
      exact ⟨⟨account, fun _ => none⟩, by simpa [Event.request] using received,
        fun d _ => .inr ⟨none, resp, delivered, rfl⟩⟩
  | .replyChannelClosed =>
    simp only [wp_ite, wp_pure]
    refine ⟨fun _ => ?_, fun _ _ => stutter sound rfl⟩
    exact stay_spec (wp_mono (handleReplyClosed_spec sound.account) nofun
      (fun _ _ _ => trivial) fun _ _ h => h)
  | .deadlinePassed =>
    simp only [wp_ite, wp_pure]
    exact ⟨fun _ => stay_ends sound rfl (expireQueuedRequests_spec sound.account),
      fun _ _ => stutter sound rfl⟩
  | .livenessTick =>
    simp only [wp_ite, wp_bind, wp_modify, wp_pure]
    exact ⟨fun _ => tick_spec sound, fun _ _ => stutter sound rfl⟩
  | .slotReleased => exact stay_ends sound rfl (releaseSlot_spec sound.account)

theorem turn_spec (sound : Sound c) : wp (turn i) (turnPost i.event c) c := by
  simp only [turn, awaitSlot, wp_bind, wp_get, wp_ite, wp_modify, wp_pure]
  refine ⟨fun should => ?_, fun _ => select_spec sound⟩
  have free : c.outstanding = none := by
    simp only [shouldWaitForSlot, Bool.and_eq_true, Option.isNone_iff_eq_none] at should
    exact should.1.1
  refine wp_mono (select_spec (c := { c with waitingForSlot := true })
    ⟨sound.account.congr rfl rfl rfl rfl rfl rfl, fun _ => free⟩) ?_ nofun fun _ _ h => h
  intro r t h stays
  obtain ⟨sound, received, outstanding⟩ := h stays
  exact ⟨sound, received, outstanding⟩

end turns

section runs

theorem sound_new (config : AdmissionConfig) (start : Instant) :
    Sound (AdmissionController.new config start) :=
  ⟨⟨fun _ => rfl, rfl, rfl, rfl, rfl, rfl, nofun, nofun⟩, nofun⟩

/-- Every top of the loop is sound, and the controller has received what the events brought. -/
theorem run_sound (config : AdmissionConfig) (start : Instant) (inputs : List Input) :
    match run config start inputs with
    | .running c => Sound c ∧ c.received = inputs.filterMap fun i => i.event.request
    | .exited _ _ => True
    | .panicked msg _ => msg = overflowPanic := by
  suffices ∀ c, Sound c → match iterate turn inputs c with
      | .running t => Sound t ∧ t.received = c.received ++ inputs.filterMap fun i => i.event.request
      | .exited _ _ => True
      | .panicked msg _ => msg = overflowPanic by
    simpa [run, AdmissionController.received, AdmissionController.new]
      using this _ (sound_new config start)
  induction inputs with
  | nil => exact fun c sound => ⟨sound, by simp⟩
  | cons i rest ih =>
    intro c sound
    have one := turn_spec (i := i) sound
    unfold wp at one
    unfold iterate
    cases h : turn i c with
    | err e _ => exact e.elim
    | panic msg t => rw [h] at one; exact one
    | ok r t =>
      rw [h] at one
      cases r with
      | some r => trivial
      | none =>
        obtain ⟨sound, received, -⟩ := one rfl
        have := ih t sound
        simp only [Outcome.andThen]
        cases hr : iterate turn rest t with
        | running u =>
          rw [hr] at this
          refine ⟨this.1, this.2.trans ?_⟩
          rw [received, List.append_assoc]
          cases hq : i.event.request <;> simp [hq]
        | exited r u => trivial
        | panicked msg u => rw [hr] at this; exact this

/-- The requests received so far, the counters and the outstanding dispatch at a loop top. -/
structure Conserved (c : AdmissionController) : Prop where
  /-- Each request is failed, forwarded, in a function's queue or held, and in one of them only. -/
  places : c.received.Perm (c.failed ++ c.forwarded ++ c.queued ++ c.held)
  ownQueue : ∀ f fq, c.queues.lookup f = some fq → ∀ re ∈ fq.queue, re.functionId = f
  counts : c.stats.numReceived = c.stats.numFailed + c.stats.numDispatched + c.totalQueuedReqs +
    (if c.outstanding.isSome then 1 else 0)
  received : c.stats.numReceived = c.received.length
  failed : c.stats.numFailed = c.failed.length
  dispatched : c.stats.numDispatched = c.forwarded.length
  queued : c.totalQueuedReqs = (c.queues.entries.map fun e => e.2.queue.length).sum
  waiting : c.waitingForSlot = true → c.outstanding = none

theorem Sound.conserved {c : AdmissionController} (sound : Sound c) : Conserved c := by
  have account := sound.account
  have places : c.received.Perm (c.failed ++ c.forwarded ++ c.queued ++ c.held) := by
    rw [List.perm_iff_count]
    intro req
    have balance := account.balance req
    have queued : c.queued.count req = Table.total (fun _ fq => fq.count req) c.queues := by
      rw [AdmissionController.queued, List.count_flatMap]
      rfl
    simp only [List.count_append, List.count_nil] at balance ⊢
    omega
  have queued : c.totalQueuedReqs = c.queued.length := by
    rw [account.queued, AdmissionController.queued, List.length_flatMap]
    simp [Table.total]
  refine ⟨places, account.own, ?_, account.numReceived, account.numFailed, account.numDispatched,
    account.queued, sound.waiting⟩
  have lengths := places.length_eq
  have held : c.held.length = if c.outstanding.isSome then 1 else 0 := by
    unfold AdmissionController.held
    cases c.outstanding <;> rfl
  simp only [List.length_append] at lengths
  rw [account.numReceived, account.numFailed, account.numDispatched, queued, ← held]
  exact lengths

/-- Admission conserves requests: at every top of its loop each request received is in one place,
the counters agree, and the next turn does not replace an outstanding dispatch. The only panic of
the model is an instant out of range; the room that a new queue reserves is not part of it. -/
theorem requests_conserved (config : AdmissionConfig) (start : Instant) (inputs : List Input) :
    match run config start inputs with
    | .running c => Conserved c ∧ c.received = inputs.filterMap (fun i => i.event.request) ∧
        ∀ i t, turn i c = .ok none t → KeepsOutstanding i.event c t
    | .exited _ _ => True
    | .panicked msg _ => msg = overflowPanic := by
  have h := run_sound config start inputs
  cases hr : run config start inputs with
  | running c =>
    rw [hr] at h
    refine ⟨h.1.conserved, h.2, fun i t ht => ?_⟩
    have one := turn_spec (i := i) h.1
    rw [wp, ht] at one
    exact (one rfl).outstanding
  | exited r c => trivial
  | panicked msg c => rw [hr] at h; exact h

end runs

end Admission
end Snaplace
