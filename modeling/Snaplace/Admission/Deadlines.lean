import Snaplace.Admission.Refinement

/-!
# The deadlines of queued requests

The cached deadline is never later than a queued request's, and nothing overdue is dispatched or takes
up room, as long as each sweep can see the earliest deadline at the front of some queue. A function
that is registered again with a shorter delay can hide a deadline behind a later one.
-/
namespace Snaplace
open Foundation Foundation.Handler WaitingRoom

namespace Admission

/-- Behind the fronts that are overdue at `now`, no deadline is earlier than that of every front. -/
def covered (now : Instant) (c : AdmissionController) : Bool :=
  c.queues.entries.all fun e => (e.2.remaining now).all fun re =>
    c.queues.entries.any fun e' => (e'.2.remaining now).head?.any fun front =>
      front.deadline ≤ re.deadline

/-- If this turn sweeps, the fronts it leaves cover the requests it leaves. -/
def SweepsCovered (c : AdmissionController) (i : Input) : Prop :=
  sweeps c i = true → covered i.now c = true

instance (c : AdmissionController) (i : Input) : Decidable (SweepsCovered c i) :=
  inferInstanceAs (Decidable (_ → _))

/-- Every queued request is due after `now`. -/
def Unexpired (now : Instant) (c : AdmissionController) : Prop :=
  ∀ f fq, c.queues.lookup f = some fq → ∀ re ∈ fq.queue, now < re.deadline

/-- The cached deadline and its timer: they agree, and are not later than any queued request's
deadline. In particular they are absent only when nothing is queued. -/
structure OnTime (c : AdmissionController) : Prop where
  timer : c.deadlineTimer = c.nextDeadline
  next_le : ∀ f fq, c.queues.lookup f = some fq → ∀ re ∈ fq.queue,
    ∃ d, c.nextDeadline = some d ∧ d ≤ re.deadline

def AdmissionController.refusals (c : AdmissionController) : Nat := c.log.countP Action.turnsAway

/-- What the deadlines are for, in a state from which the next turn starts. -/
structure Enforced (c : AdmissionController) : Prop extends OnTime c where
  /-- A sweep leaves nothing overdue. -/
  swept : ∀ i now t, covered now c → expireQueuedRequests i now c = .ok () t → Unexpired now t
  /-- Nothing overdue is handed to the pool. -/
  dispatched : ∀ i t d, SweepsCovered c i → turn i c = .ok none t → c.outstanding ≠ some d →
    t.outstanding = some d → i.now < d.envelope.deadline
  /-- Nothing is refused for a full queue in which something is overdue. -/
  refused : ∀ i t, SweepsCovered c i → turn i c = .ok none t → c.refusals < t.refusals →
    Unexpired i.now t

section deadlines
variable {config : AdmissionConfig} {c t : AdmissionController} {i : Input}

/-- A request queued in the room is one of the table. -/
theorem mem_queue {f : FunctionId} {re : RequestEnvelope} (mem : re ∈ c.room.queue f) :
    ∃ fq, c.queues.lookup f = some fq ∧ re ∈ fq.queue := by
  change re ∈ queueOf c.queues f at mem
  rw [queueOf] at mem
  cases look : c.queues.lookup f with
  | none => simp [look] at mem
  | some fq => exact ⟨fq, rfl, by simpa [look] using mem⟩

theorem queue_mem {f : FunctionId} {fq : FunctionQueue} {re : RequestEnvelope}
    (look : c.queues.lookup f = some fq) (mem : re ∈ fq.queue) : re ∈ c.room.queue f := by
  rwa [show c.room.queue f = fq.queue from queueOf_of_lookup look]

theorem onTime_iff (timer : c.deadlineTimer = c.nextDeadline) : OnTime c ↔ Punctual c.room := by
  constructor
  · intro onTime f re mem
    obtain ⟨fq, look, mem⟩ := mem_queue mem
    exact onTime.next_le f fq look re mem
  · exact fun punctual => ⟨timer, fun f fq look re mem => punctual f re (queue_mem look mem)⟩

theorem remaining_room {now : Instant} {f : FunctionId} {fq : FunctionQueue}
    (look : c.queues.lookup f = some fq) :
    WaitingRoom.remaining now (c.room.queue f) = fq.remaining now :=
  congrArg (WaitingRoom.remaining now) (queueOf_of_lookup look)

theorem covered_room {now : Instant} (h : covered now c = true) : Covered now c.room := by
  intro f re mem
  obtain ⟨fq, look, -⟩ := mem_queue ((List.dropWhile_sublist _).mem mem)
  rw [remaining_room look] at mem
  have all := List.all_eq_true.mp h ⟨f, fq⟩ (Table.mem_entries_iff.mpr look)
  have any := List.all_eq_true.mp all re mem
  obtain ⟨⟨g, fq'⟩, entry, front⟩ := List.any_eq_true.mp any
  obtain ⟨a, head, le⟩ := (Option.any_eq_true ..).mp front
  obtain ⟨rest, left⟩ := List.head?_eq_some_iff.mp head
  refine ⟨g, a, rest, ?_, of_decide_eq_true le⟩
  rw [remaining_room (Table.mem_entries_iff.mp entry), left]

theorem Steady.enforced (h : Steady config c) (punctual : Punctual c.room) : Enforced c := by
  refine ⟨(onTime_iff h.timer).mpr punctual, fun i now t cover ran f fq look re mem => ?_,
    fun i t d cover one fresh taken => ?_, fun i t cover one more f fq look re mem => ?_⟩
  · have swept : wp (expireQueuedRequests i now) _ c := expireQueuedRequests_room
    rw [wp, ran] at swept
    exact swept.2.unexpired (covered_room cover) (queue_mem look mem)
  · have idle : c.room.out = none := by
      simp [AdmissionController.room, h.idle_before one fresh taken]
    exact (h.room_turn one).2.turn.taken_unexpired (k := d.envelope.functionId) punctual
      (fun due => covered_room (cover due)) idle (by simp [AdmissionController.room, taken])
  · exact (h.room_turn one).2.turn.turnedAway_unexpired punctual
      (fun due => covered_room (cover due)) more (queue_mem look mem)

/-- In every run whose sweeps are covered, the deadlines are enforced at every top of the loop. -/
theorem deadlines_enforced (config : AdmissionConfig) (start : Instant) (inputs : List Input)
    (covered : AllTurns turn SweepsCovered inputs (AdmissionController.new config start)) :
    match run config start inputs with
    | .running c => Enforced c
    | .exited _ c => OnTime c
    | .panicked _ _ => True := by
  have first : Punctual (AdmissionController.new config start).room := nofun
  have all := iterate_invariant (C := SweepsCovered)
    (I := fun c => Steady config c ∧ Punctual c.room) (E := fun _ c => OnTime c)
    (P := fun _ _ => True) ?_ ⟨steady_new config start, first⟩ covered
  · unfold run
    cases ran : iterate turn inputs (AdmissionController.new config start) with
    | running c => rw [ran] at all; exact all.1.enforced all.2
    | exited r c => rw [ran] at all; exact all
    | panicked msg c => trivial
  · rintro c i ⟨steady, punctual⟩ cover
    unfold wp
    cases one : turn i c with
    | ok r t =>
      obtain ⟨keeps, turn⟩ := steady.room_turn one
      have punctual := punctual.turn (fun due => covered_room (cover due)) turn.turn
      cases r with
      | none => exact ⟨steady.kept one, punctual⟩
      | some r => exact (onTime_iff (keeps.timer steady.timer)).mpr punctual
    | err e _ => exact e.elim
    | panic msg t => trivial

def slowConfig : AdmissionConfig :=
  { smallConfig with globalMaxQueuedReqs := 2, defaultMaxQueuedPerFunc := 2 }

/-- An event while every function is registered with this queue delay. -/
def delayed (delay : Duration) (now : Instant) (event : Event) : Input :=
  { plain now event with
    store := fun _ => some (some
      { maxQueued := none, maxQueueDelay := some delay, maxLiveInstances := none }) }

/-- A function with a queued request is registered again with a shorter delay. -/
def reregistered : List Input :=
  [delayed 100 0 (.newRequest ⟨1, 7, none⟩), delayed 10 40 (.newRequest ⟨2, 7, none⟩),
    delayed 10 50 .deadlinePassed]

/-- The sweep at 50 leaves the request that is due at 50 and caches the deadline 100; at 70 that
request is sent to the pool. -/
theorem deadline_missed : ∃ c, run slowConfig 0 reregistered = .running c ∧
    c.nextDeadline = some 100 ∧ (∃ re ∈ queueOf c.queues 7, re.deadline = 50) ∧
    ∃ t d, run slowConfig 0 (reregistered ++ [delayed 10 60 (.permit true),
        delayed 10 61 (.dispatchReply (.dispatch 1 1) true), delayed 10 62 .slotReleased,
        delayed 10 70 (.permit true)]) = .running t ∧
      t.outstanding = some d ∧ d.envelope.deadline = 50 :=
  ⟨_, rfl, rfl, ⟨_, .tail _ (.head _), rfl⟩, _, _, rfl, rfl, rfl⟩

/-- With the longer delay last, the first request expires at 50 and the cached deadline is 140. -/
theorem deadlines_enforced_longer :
    ∃ c, run slowConfig 0 [delayed 50 0 (.newRequest ⟨1, 7, none⟩),
      delayed 100 40 (.newRequest ⟨2, 7, none⟩), delayed 100 50 .deadlinePassed] = .running c ∧
      c.nextDeadline = some 140 ∧ Enforced c :=
  ⟨_, rfl, rfl, deadlines_enforced slowConfig 0 [delayed 50 0 (.newRequest ⟨1, 7, none⟩),
    delayed 100 40 (.newRequest ⟨2, 7, none⟩), delayed 100 50 .deadlinePassed] (by decide +kernel)⟩

end deadlines

end Admission
end Snaplace
