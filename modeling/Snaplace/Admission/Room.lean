import Snaplace.Admission.Loop
import Snaplace.Foundation.WaitingRoom

/-!
# The controller as a waiting room

The queues of the controller are a waiting room keyed by function, the outstanding dispatch is the
item out, and a permit of the semaphore is needed to take one. Each helper has one specification that
says what it makes of the room; `Admission.Refinement` puts them together to a turn of the loop.
-/
namespace Snaplace
open Foundation Foundation.Handler

namespace Admission

instance : Waits RequestEnvelope FunctionId Request Instant where
  name := RequestEnvelope.req
  key := Request.functionId
  arrival := RequestEnvelope.enqueuedAt
  deadline := RequestEnvelope.deadline

abbrev Room : Type := WaitingRoom FunctionId RequestEnvelope Request Instant

def queueOf (queues : Table FunctionId FunctionQueue) (f : FunctionId) : List RequestEnvelope :=
  (queues.lookup f).elim [] FunctionQueue.queue

def blockedOf (queues : Table FunctionId FunctionQueue) (f : FunctionId) : Bool :=
  (queues.lookup f).any FunctionQueue.isBlocked

/-- A refusal because a queue was full. -/
def Action.turnsAway : Action → Bool
  | .fail _ _ .queueFullGlobal | .fail _ _ .queueFullFunction => true
  | _ => false

def AdmissionController.room (c : AdmissionController) : Room where
  queue := queueOf c.queues
  blocked := blockedOf c.queues
  waiting := c.totalQueuedReqs
  next := c.nextDeadline
  out := c.outstanding.map fun d => (d.envelope.functionId, d.envelope)
  permits := c.freeSlots
  arrived := c.received
  served := c.forwarded
  turnedAway := c.log.countP Action.turnsAway

/-- The bound on one function's queue. -/
def queueCap (config : AdmissionConfig) (overrides : Option FunctionAdmissionOverrides) : Nat :=
  (overrides.bind (·.maxQueued)).getD config.defaultMaxQueuedPerFunc

/-- The bounds that a request meets in `handleNewRequest`. -/
structure Bounds (i : Input) (config : AdmissionConfig) (cap : Capacity FunctionId) : Prop where
  total : cap.total = config.globalMaxQueuedReqs
  each : ∀ f overrides, i.store f = some overrides → cap.each f = queueCap config overrides

/-- No helper changes the configuration or lets the timer and the cached deadline differ. -/
structure Keeps (c t : AdmissionController) : Prop where
  config : t.config = c.config
  timer : c.deadlineTimer = c.nextDeadline → t.deadlineTimer = t.nextDeadline

theorem Keeps.refl (c : AdmissionController) : Keeps c c := ⟨rfl, id⟩

theorem Keeps.trans {a b c : AdmissionController} (h : Keeps a b) (k : Keeps b c) : Keeps a c :=
  ⟨k.config.trans h.config, k.timer ∘ h.timer⟩

/-- A helper that turns the room into one that satisfies `R`, or finds an instant out of range and
leaves one that satisfies `H`. -/
def gives {α : Type} (c : AdmissionController) (R : Room → Prop) (H : Room → Prop := fun _ => False) :
    Post AdmissionController Unit α where
  ok _ t := Keeps c t ∧ R t.room
  err _ _ := False
  panic msg t := msg = overflowPanic → H t.room

section views
variable {queues : Table FunctionId FunctionQueue} {f : FunctionId} {fq : FunctionQueue}

theorem queueOf_insert : queueOf (queues.insert f fq) = Function.update (queueOf queues) f fq.queue := by
  funext g
  rw [queueOf, Table.lookup_insert_ite, Function.update_apply]
  split <;> rfl

theorem blockedOf_insert :
    blockedOf (queues.insert f fq) = Function.update (blockedOf queues) f fq.isBlocked := by
  funext g
  rw [blockedOf, Table.lookup_insert_ite, Function.update_apply]
  split <;> rfl

theorem queueOf_of_lookup (look : queues.lookup f = some fq) : queueOf queues f = fq.queue := by
  simp [queueOf, look]

theorem blockedOf_of_lookup (look : queues.lookup f = some fq) :
    blockedOf queues f = fq.isBlocked := by
  simp [blockedOf, look]

/-- A new, empty queue is not seen. -/
theorem queueOf_create :
    queueOf (queues.insert f ((queues.lookup f).getD .empty)) = queueOf queues := by
  rw [queueOf_insert]
  refine Function.update_eq_self_iff.mpr ?_
  cases look : queues.lookup f <;> simp [queueOf, look, FunctionQueue.empty]

theorem blockedOf_create :
    blockedOf (queues.insert f ((queues.lookup f).getD .empty)) = blockedOf queues := by
  rw [blockedOf_insert]
  refine Function.update_eq_self_iff.mpr ?_
  cases look : queues.lookup f <;>
    simp [blockedOf, look, FunctionQueue.empty, FunctionQueue.isBlocked]

theorem queueOf_mapValues (g : FunctionQueue → FunctionQueue) :
    queueOf (queues.mapValues fun _ => g) f =
      (queues.lookup f).elim [] fun fq => (g fq).queue := by
  rw [queueOf, Table.lookup_mapValues]
  cases queues.lookup f <;> rfl

theorem blockedOf_mapValues (g : FunctionQueue → FunctionQueue) :
    blockedOf (queues.mapValues fun _ => g) f =
      (queues.lookup f).any fun fq => (g fq).isBlocked := by
  rw [blockedOf, Table.lookup_mapValues]
  cases queues.lookup f <;> rfl

end views

section helpers
variable {c : AdmissionController} {i : Input}

/-- An action recorded in the log. -/
theorem room_record (action : Action) (stats : QuickStats) :
    AdmissionController.room { c with stats, log := c.log ++ [action] } =
      { c.room with
        arrived := c.room.arrived ++ action.received.toList
        served := c.room.served ++ action.forwarded.toList
        turnedAway := c.room.turnedAway + if action.turnsAway then 1 else 0 } := by
  cases action <;>
    simp [AdmissionController.room, AdmissionController.received, AdmissionController.forwarded,
      Action.received, Action.forwarded, List.countP_cons, List.countP_append, List.filterMap_cons]

theorem failAdmission_room {req : Request} {f : FunctionId} {failure : AdmissionFailure} :
    wp (failAdmission i req f failure)
      (gives c (· = { c.room with
        turnedAway := c.room.turnedAway +
          if (Action.fail req f failure).turnsAway then 1 else 0 })) c := by
  simp only [failAdmission, record, wp_bind, wp_modify, wp_ite, wp_pure]
  have failed := room_record (c := c) (.fail req f failure)
    { c.stats with numFailed := c.stats.numFailed + 1 }
  have responded (resp : Response) := room_record
    (c := { c with
      stats.numFailed := c.stats.numFailed + 1
      log := c.log ++ [.fail req f failure] })
    (.respond resp) { c.stats with numFailed := c.stats.numFailed + 1 }
  refine ⟨fun _ => ⟨⟨rfl, id⟩, (responded _).trans ?_⟩, fun _ => ⟨⟨rfl, id⟩, failed.trans ?_⟩⟩
  · rw [failed]
    simp [Action.received, Action.forwarded, Action.turnsAway]
  · simp [Action.received, Action.forwarded]

/-- Failing requests that are not turned away leaves the room as it is. -/
theorem failAll_room {failure : AdmissionFailure} {res : List RequestEnvelope}
    (other : ∀ req f, (Action.fail req f failure).turnsAway = false) :
    wp (res.forM fun re => failAdmission i re.req re.functionId failure)
      (gives c (· = c.room)) c := by
  refine wp_forM (I := fun t => Keeps c t ∧ t.room = c.room) ⟨Keeps.refl c, rfl⟩
    (fun _ h => h) fun re _ t h => ?_
  refine wp_mono failAdmission_room ?_ nofun fun _ _ h => h
  rintro - u ⟨keeps, room⟩
  exact ⟨h.1.trans keeps, by rw [room, ← h.2]; simp [other]⟩

theorem updateDeadlineTimer_room {deadline : Instant} :
    wp (updateDeadlineTimer deadline)
      (gives c (· = { c.room with next := WaitingRoom.sooner deadline c.room.next })) c := by
  simp only [updateDeadlineTimer, wp_bind, wp_get, wp_ite, wp_pure]
  refine ⟨fun earlier => ⟨⟨rfl, fun _ => rfl⟩, ?_⟩, fun later => ⟨Keeps.refl c, ?_⟩⟩
  · have next : WaitingRoom.sooner deadline c.room.next = some deadline := if_pos earlier
    exact congrArg (fun next => { c.room with next }) next.symm
  · have next : WaitingRoom.sooner deadline c.room.next = c.room.next := if_neg later
    exact congrArg (fun next => { c.room with next }) next.symm

theorem releaseSlot_room :
    wp releaseSlot (gives c (· = { c.room with permits := c.room.permits + 1 })) c :=
  ⟨⟨rfl, id⟩, rfl⟩

/-! ## The expiry sweep -/

theorem earliest_le {a b : Option Instant} {d : Instant} (h : a = some d ∨ b = some d) :
    ∃ e, earliest a b = some e ∧ e ≤ d := by
  match a, b with
  | some x, some y =>
    refine ⟨min x y, rfl, ?_⟩
    obtain ⟨⟨⟩⟩ | ⟨⟨⟩⟩ := h
    · exact Nat.min_le_left _ _
    · exact Nat.min_le_right _ _
  | some x, none => exact ⟨x, rfl, by simp_all⟩
  | none, some y => exact ⟨y, rfl, by simp_all⟩
  | none, none => simp at h

theorem earliest_mem {a b : Option Instant} {d : Instant} (h : earliest a b = some d) :
    a = some d ∨ b = some d := by
  match a, b with
  | some x, some y =>
    obtain rfl : min x y = d := by simpa [earliest] using h
    obtain h | h := Nat.le_total x y
    · exact .inl (congrArg some (Nat.min_eq_left h).symm)
    · exact .inr (congrArg some (Nat.min_eq_right h).symm)
  | some x, none => exact .inl h
  | none, _ => exact .inr h

theorem foldl_earliest_le {front : FunctionQueue → Option Instant} {fqs : List FunctionQueue}
    {acc : Option Instant} {d : Instant} (h : acc = some d ∨ ∃ fq ∈ fqs, front fq = some d) :
    ∃ e, fqs.foldl (fun next fq => earliest next (front fq)) acc = some e ∧ e ≤ d := by
  induction fqs generalizing acc d with
  | nil => exact ⟨d, by simpa using h, le_rfl⟩
  | cons fq rest ih =>
    have later {d' : Instant} (first : acc = some d' ∨ front fq = some d') :
        ∃ e, rest.foldl (fun next fq => earliest next (front fq)) (earliest acc (front fq)) =
          some e ∧ e ≤ d' := by
      obtain ⟨e, he, le⟩ := earliest_le first
      obtain ⟨e', he', le'⟩ := ih (.inl he)
      exact ⟨e', he', le'.trans le⟩
    obtain h | ⟨x, mem, hx⟩ := h
    · exact later (.inl h)
    · obtain rfl | mem := List.mem_cons.mp mem
      · exact later (.inr hx)
      · exact ih (.inr ⟨x, mem, hx⟩)

theorem foldl_earliest_mem {front : FunctionQueue → Option Instant} {fqs : List FunctionQueue}
    {acc : Option Instant} {d : Instant}
    (h : fqs.foldl (fun next fq => earliest next (front fq)) acc = some d) :
    acc = some d ∨ ∃ fq ∈ fqs, front fq = some d := by
  induction fqs generalizing acc with
  | nil => exact .inl h
  | cons fq rest ih =>
    obtain first | ⟨x, mem, hx⟩ := ih h
    · obtain first | first := earliest_mem first
      · exact .inl first
      · exact .inr ⟨fq, by simp, first⟩
    · exact .inr ⟨x, by simp [mem], hx⟩

theorem mem_values {queues : Table FunctionId FunctionQueue} {rank : FunctionId → Nat}
    {fq : FunctionQueue} : fq ∈ queues.values rank ↔ ∃ f, queues.lookup f = some fq := by
  simp [Table.values, Table.mem_ordered]

theorem queueOf_sweep (queues : Table FunctionId FunctionQueue) (now : Instant) (f : FunctionId) :
    queueOf (queues.mapValues fun _ => FunctionQueue.sweep now) f =
      WaitingRoom.remaining now (queueOf queues f) := by
  rw [queueOf_mapValues, queueOf]
  cases queues.lookup f <;> rfl

theorem blockedOf_sweep {queues : Table FunctionId FunctionQueue} {now : Instant} {f : FunctionId}
    (h : blockedOf (queues.mapValues fun _ => FunctionQueue.sweep now) f) :
    blockedOf queues f ∧ queueOf (queues.mapValues fun _ => FunctionQueue.sweep now) f ≠ [] := by
  rw [blockedOf_mapValues] at h
  rw [queueOf_mapValues, blockedOf]
  cases look : queues.lookup f with
  | none => simp [look] at h
  | some fq =>
    simp only [look, Option.any_some, Option.elim_some, sweep_isBlocked, FunctionQueue.unblocks,
      Bool.and_eq_true, Bool.not_eq_true'] at h ⊢
    refine ⟨h.1, fun empty => ?_⟩
    have none : (fq.remaining now).isEmpty := by simpa [FunctionQueue.sweep] using empty
    simp [h.1, none] at h

theorem expireQueuedRequests_room {now : Instant} :
    wp (expireQueuedRequests i now) (gives c (WaitingRoom.Swept now c.room)) c := by
  obtain ⟨next, hnext⟩ : ∃ next, next = (c.queues.values i.rank).foldl
    (fun next fq => earliest next ((fq.remaining now).head?.map RequestEnvelope.deadline)) none :=
    ⟨_, rfl⟩
  have front {f : FunctionId} {fq : FunctionQueue} (look : c.queues.lookup f = some fq) :
      WaitingRoom.remaining now (c.room.queue f) = fq.remaining now :=
    congrArg (WaitingRoom.remaining now) (queueOf_of_lookup look)
  simp only [expireQueuedRequests, subtractQueued, subtractBlocked, wp_bind, wp_get, wp_modify,
    wp_require, ← hnext]
  refine ⟨fun _ => ⟨fun _ => ?_, fun _ => (by decide : underflowPanic ≠ overflowPanic)⟩,
    fun _ => (by decide : underflowPanic ≠ overflowPanic)⟩
  refine wp_mono (failAll_room fun _ _ => rfl) ?_ (fun _ _ never => never.elim) fun _ _ h => h
  rintro - t ⟨keeps, room⟩
  refine ⟨⟨keeps.config, fun _ => rfl⟩, ?_⟩
  have swept : t.room = { c.room with
      queue := queueOf (c.queues.mapValues fun _ => FunctionQueue.sweep now)
      blocked := blockedOf (c.queues.mapValues fun _ => FunctionQueue.sweep now)
      waiting := c.totalQueuedReqs -
        ((c.queues.values i.rank).flatMap (FunctionQueue.expired now)).length } := room
  have final : AdmissionController.room { t with nextDeadline := next, deadlineTimer := next } =
      { t.room with next } := rfl
  change WaitingRoom.Swept now c.room
    (AdmissionController.room { t with nextDeadline := next, deadlineTimer := next })
  rw [final, swept]
  constructor <;> try rfl
  · exact queueOf_sweep c.queues now
  · exact fun f => blockedOf_sweep
  · exact Nat.sub_le _ _
  · intro f re rest h
    replace h := (queueOf_sweep c.queues now f).symm.trans h
    cases look : c.queues.lookup f with
    | none => simp [queueOf, look, WaitingRoom.remaining] at h
    | some fq =>
      rw [show queueOf c.queues f = c.room.queue f from rfl, front look] at h
      simp only [hnext]
      refine foldl_earliest_le (.inr ⟨fq, mem_values.mpr ⟨f, look⟩, ?_⟩)
      rw [h]
      rfl
  · intro d hd
    obtain h | ⟨fq, mem, hd⟩ := foldl_earliest_mem (hnext.symm.trans hd)
    · simp at h
    · obtain ⟨f, look⟩ := mem_values.mp mem
      obtain ⟨re, head, rfl⟩ := Option.map_eq_some_iff.mp hd
      obtain ⟨rest, h⟩ := List.head?_eq_some_iff.mp head
      exact ⟨f, re, rest, (queueOf_sweep c.queues now f).trans ((front look).trans h), rfl⟩

theorem expireIfDue_room :
    wp (expireIfDue i) (gives c (WaitingRoom.Checked i.now c.room)) c := by
  simp only [expireIfDue, wp_bind, wp_get, wp_ite, wp_pure, Option.any_eq_true,
    decide_eq_true_eq]
  refine ⟨fun due => ?_, fun quiet => ⟨Keeps.refl c, .inl ⟨rfl, quiet⟩⟩⟩
  exact wp_mono expireQueuedRequests_room (fun _ _ h => ⟨h.1, .inr ⟨due, h.2⟩⟩)
    (fun _ _ never => never.elim) fun _ _ h => h

/-! ## Taking, putting back and joining -/

/-- The function picked has the oldest front of all queues that are not blocked. -/
theorem pickNextFunction_oldest {f : FunctionId} (h : pickNextFunction i c = some f) :
    ∃ fq re rest, c.queues.lookup f = some fq ∧ fq.queue = re :: rest ∧ fq.isBlocked = false ∧
      ∀ g re' rest', c.room.queue g = re' :: rest' → c.room.blocked g = false →
        re.enqueuedAt ≤ re'.enqueuedAt := by
  unfold pickNextFunction at h
  obtain ⟨⟨g, fq⟩, best, rfl⟩ := Option.map_eq_some_iff.mp h
  obtain ⟨traversed, runnable⟩ := List.mem_filter.mp (List.argmin_mem best)
  have look := Table.mem_ordered.mp traversed
  obtain ⟨nonempty, unblocked⟩ : fq.queue ≠ [] ∧ fq.isBlocked = false := by
    simpa [FunctionQueue.isRunnable] using runnable
  obtain ⟨re, rest, front⟩ := List.exists_cons_of_ne_nil nonempty
  refine ⟨fq, re, rest, look, front, unblocked, fun g' re' rest' front' unblocked' => ?_⟩
  cases look' : c.queues.lookup g' with
  | none => simp [AdmissionController.room, queueOf, look'] at front'
  | some fq' =>
    have front' : fq'.queue = re' :: rest' := (queueOf_of_lookup look').symm.trans front'
    have unblocked' : fq'.isBlocked = false := (blockedOf_of_lookup look').symm.trans unblocked'
    have mem : (g', fq') ∈ (c.queues.ordered i.rank).filter fun e => e.2.isRunnable :=
      List.mem_filter.mpr
        ⟨Table.mem_ordered.mpr look', by simp [FunctionQueue.isRunnable, front', unblocked']⟩
    simpa [front, front'] using List.le_of_mem_argmin mem best

/-- Other requests in a function's queue, with the block left as it is. -/
theorem room_replace {f : FunctionId} {fq : FunctionQueue} (look : c.queues.lookup f = some fq)
    (queue : List RequestEnvelope) (n : Nat) :
    AdmissionController.room
        { c with queues := c.queues.insert f { fq with queue }, totalQueuedReqs := n } =
      { c.room with queue := Function.update c.room.queue f queue, waiting := n } := by
  have blocked : Function.update (blockedOf c.queues) f (FunctionQueue.isBlocked { fq with queue }) =
      blockedOf c.queues :=
    Function.update_eq_self_iff.mpr (blockedOf_of_lookup look).symm
  simp only [AdmissionController.room, queueOf_insert, blockedOf_insert, blocked]
  rfl

theorem popHead_room {f : FunctionId} {fq : FunctionQueue} {re : RequestEnvelope}
    {rest : List RequestEnvelope} (look : c.queues.lookup f = some fq)
    (front : fq.queue = re :: rest) :
    wp (popHead f)
      { ok := fun x t => x = re ∧ Keeps c t ∧ t.room =
          { c.room with
            queue := Function.update c.room.queue f rest
            waiting := c.room.waiting - 1 }
        err := fun _ _ => False
        panic := fun msg _ => msg ≠ overflowPanic } c := by
  simp only [popHead, subtractQueued, wp_bind, wp_get, wp_expect, look]
  refine ⟨?_, by simp⟩
  rintro _ ⟨⟩
  simp only [front, wp_bind, wp_get, wp_modify, wp_require, wp_pure]
  exact ⟨fun _ => ⟨fun _ => ⟨trivial, ⟨rfl, id⟩, room_replace look rest _⟩,
    fun _ => by decide⟩, fun _ => (by decide : underflowPanic ≠ overflowPanic)⟩

theorem requeue_room {re : RequestEnvelope} :
    wp (requeue re)
      (gives c (· =
        { c.room with
          queue := Function.update c.room.queue re.functionId (re :: c.room.queue re.functionId)
          waiting := c.room.waiting + 1
          next := WaitingRoom.sooner re.deadline c.room.next })) c := by
  simp only [requeue, updateQueue, wp_bind, wp_get, wp_expect, wp_modify]
  refine ⟨fun fq look => ?_, fun _ => (by decide : queuePanic ≠ overflowPanic)⟩
  refine wp_mono updateDeadlineTimer_room ?_ (fun _ _ never => never.elim) fun _ _ h => h
  rintro - t ⟨keeps, room⟩
  refine ⟨⟨keeps.config, keeps.timer⟩, room.trans ?_⟩
  rw [room_replace look, ← show c.room.queue re.functionId = fq.queue from queueOf_of_lookup look]
  rfl

theorem enqueue_room {req : Request} {now : Instant} {delay : Duration} :
    wp (enqueue req req.functionId now delay)
      (gives c
        (· =
          { c.room with
            queue := Function.update c.room.queue req.functionId
              (c.room.queue req.functionId ++ [⟨req, req.functionId, now, now + delay⟩])
            waiting := c.room.waiting + 1
            next := WaitingRoom.sooner (now + delay) c.room.next })
        (· = c.room)) c := by
  simp only [enqueue, addInstant, updateQueue, wp_bind, wp_get, wp_expect, wp_modify, wp_require,
    wp_pure]
  refine ⟨fun _ => ⟨fun fq look => ?_, fun _ _ => rfl⟩, fun _ _ => rfl⟩
  refine wp_mono updateDeadlineTimer_room ?_ (fun _ _ never => never.elim) fun _ _ h => fun msg => (h msg).elim
  rintro - t ⟨keeps, room⟩
  refine ⟨⟨keeps.config, keeps.timer⟩, room.trans ?_⟩
  rw [room_replace look, ← show c.room.queue req.functionId = fq.queue from queueOf_of_lookup look]
  rfl

/-! ## Blocks -/

/-- The room `t` is `r` with some blocks lifted. -/
def Wakes (r t : Room) : Prop :=
  ∃ blocked : FunctionId → Bool, (∀ f, blocked f → r.blocked f) ∧ t = { r with blocked }

/-- The room `t` is `r` with perhaps one more function blocked. -/
def Blocks (f : FunctionId) (r t : Room) : Prop :=
  ∃ blocked : FunctionId → Bool, (∀ g, blocked g → r.blocked g ∨ g = f) ∧ t = { r with blocked }

theorem Wakes.refl (r : Room) : Wakes r r := ⟨r.blocked, fun _ h => h, rfl⟩

/-- Another state of a function's queue. -/
theorem room_mark {f : FunctionId} {fq : FunctionQueue} (look : c.queues.lookup f = some fq)
    (state : FunctionDispatchState) (n : Nat) :
    AdmissionController.room
        { c with queues := c.queues.insert f { fq with state }, blockedFunctionCount := n } =
      { c.room with
        blocked := Function.update c.room.blocked f
          (FunctionQueue.isBlocked { fq with state }) } := by
  have queue : Function.update (queueOf c.queues) f fq.queue = queueOf c.queues :=
    Function.update_eq_self_iff.mpr (queueOf_of_lookup look).symm
  simp only [AdmissionController.room, queueOf_insert, blockedOf_insert, queue]
  rfl

theorem markFunctionRunnable_room {f : FunctionId} :
    wp (markFunctionRunnable f) (gives c (Wakes c.room)) c := by
  simp only [markFunctionRunnable, wp_bind, wp_get]
  cases look : c.queues.lookup f with
  | none => exact ⟨Keeps.refl c, Wakes.refl _⟩
  | some fq =>
    simp only [subtractBlocked, wp_ite, wp_bind, wp_get, wp_modify, wp_require, wp_pure]
    refine ⟨fun _ => ⟨fun _ => ⟨⟨rfl, id⟩, ?_⟩,
      fun _ => (by decide : underflowPanic ≠ overflowPanic)⟩,
      fun _ => ⟨Keeps.refl c, Wakes.refl _⟩⟩
    refine ⟨_, fun g on => ?_, room_mark look .runnable _⟩
    rw [Function.update_apply] at on
    split at on
    · simp [FunctionQueue.isBlocked] at on
    · exact on

theorem markFunctionBlocked_room {f : FunctionId} {reason : BlockReason} :
    wp (markFunctionBlocked i f reason) (gives c (Blocks f c.room) (· = c.room)) c := by
  simp only [markFunctionBlocked, addInstant, wp_bind, wp_get, wp_expect]
  refine ⟨fun fq look => ?_, fun _ _ => rfl⟩
  have blocks (n : Nat) : Blocks f c.room (AdmissionController.room
      { c with
        queues := c.queues.insert f { fq with state := .blocked reason i.now }
        blockedFunctionCount := n }) := by
    refine ⟨_, fun g on => ?_, room_mark look _ n⟩
    rw [Function.update_apply] at on
    split at on
    next same => exact .inr same
    next => exact .inl on
  simp only [wp_bind, wp_ite, wp_get, wp_modify, wp_require, wp_pure]
  refine ⟨fun _ => ⟨fun _ => ⟨fun _ => ⟨⟨rfl, id⟩, ?_⟩, fun _ _ => rfl⟩, fun _ => ⟨⟨rfl, id⟩, ?_⟩⟩,
    fun _ => ⟨⟨rfl, id⟩, ?_⟩⟩
  · exact blocks (c.blockedFunctionCount + 1)
  · exact blocks (c.blockedFunctionCount + 1)
  · exact blocks c.blockedFunctionCount

/-- Blocks lifted all over the map of queues. -/
theorem room_unblock (p : FunctionQueue → Bool) (n : Nat) :
    Wakes c.room (AdmissionController.room
      { c with queues := c.queues.mapValues fun _ => .unblock p, blockedFunctionCount := n }) := by
  have queue : queueOf (c.queues.mapValues fun _ => .unblock p) = queueOf c.queues := by
    funext f
    rw [queueOf_mapValues, queueOf]
    cases c.queues.lookup f <;> simp
  refine ⟨blockedOf (c.queues.mapValues fun _ => .unblock p), fun f on => ?_, ?_⟩
  · rw [blockedOf_mapValues] at on
    change blockedOf c.queues f
    rw [blockedOf]
    cases look : c.queues.lookup f with
    | none => simp [look] at on
    | some fq =>
      simp only [look, Option.any_some, FunctionQueue.unblock] at on ⊢
      split at on
      · simp [FunctionQueue.isBlocked] at on
      · exact on
  · simp only [AdmissionController.room, queue]
    rfl

theorem unblockResourceBlockedFunctions_room :
    wp (unblockResourceBlockedFunctions i) (gives c (Wakes c.room)) c := by
  simp only [unblockResourceBlockedFunctions, subtractBlocked, wp_bind, wp_get, wp_modify,
    wp_require]
  exact ⟨fun _ => ⟨⟨rfl, id⟩, room_unblock _ _⟩,
    fun _ => (by decide : underflowPanic ≠ overflowPanic)⟩

theorem unblockAll_room : wp unblockAll (gives c (Wakes c.room)) c := by
  simp only [unblockAll, wp_bind, wp_get, wp_ite, wp_modify, wp_pure]
  exact ⟨fun _ => ⟨⟨rfl, id⟩, room_unblock _ _⟩, fun _ => ⟨Keeps.refl c, Wakes.refl _⟩⟩

theorem handlePoolEvent_room {ev : PoolEvent} :
    wp (handlePoolEvent i ev) (gives c (Wakes c.room)) c := by
  cases ev with
  | workerIdle f => exact markFunctionRunnable_room
  | memoryCapAvailable => exact unblockResourceBlockedFunctions_room
  | workerCapAvailable f =>
    simp only [handlePoolEvent, wp_bind, wp_get]
    cases c.queues.lookup f with
    | none => exact ⟨Keeps.refl c, Wakes.refl _⟩
    | some fq =>
      simp only [wp_ite, wp_pure]
      exact ⟨fun _ => markFunctionRunnable_room, fun _ => ⟨Keeps.refl c, Wakes.refl _⟩⟩

end helpers

end Admission
end Snaplace
