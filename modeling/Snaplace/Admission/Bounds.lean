import Snaplace.Admission.Refinement

/-!
# The bounds on queued requests

A request meets the bounds when it enters. A request that the pool would block comes back to its
queue without meeting them again, and its place may have been taken while its dispatch was
outstanding: the queues then hold one request more than the configuration allows.
-/
namespace Snaplace
open Foundation Foundation.Handler WaitingRoom

namespace Admission

/-- A request goes back while as many wait as may wait in total. -/
def overfills (c : AdmissionController) (i : Input) : Bool :=
  returns c i && decide (c.config.globalMaxQueuedReqs ≤ c.totalQueuedReqs)

/-- A request of `f` goes back while `cap` requests wait in its queue. -/
def overfillsQueue (f : FunctionId) (cap : Nat) (c : AdmissionController) (i : Input) : Bool :=
  returns c i && (c.outstanding.any fun d => d.envelope.functionId = f) &&
    decide (cap ≤ (queueOf c.queues f).length)

section bounds
variable {config : AdmissionConfig} {c t : AdmissionController} {i : Input}
  {cap : Capacity FunctionId}

theorem RoomTurn.waiting_iff {r : Room} (turn : RoomTurn cap i c r)
    (total : cap.total = c.config.globalMaxQueuedReqs) (h : c.room.waiting ≤ cap.total) :
    r.waiting ≤ cap.total ↔ ¬overfills c i := by
  unfold RoomTurn at turn
  split_ifs at turn with released back
  next => simpa [turn, overfills, returns, released] using h
  next =>
    obtain ⟨f, re, back'⟩ := turn
    have waiting : c.room.waiting = c.totalQueuedReqs := rfl
    simp only [overfills, back, back'.waiting, ← total, ← waiting, Bool.true_and,
      decide_eq_true_eq]
    omega
  next =>
    simp only [overfills, back, Bool.false_and, Bool.false_eq_true, not_false_eq_true, iff_true]
    exact turn.waiting_le h

theorem RoomTurn.length_iff {r : Room} {f : FunctionId} (turn : RoomTurn cap i c r)
    (h : (c.room.queue f).length ≤ cap.each f) :
    (r.queue f).length ≤ cap.each f ↔ ¬overfillsQueue f (cap.each f) c i := by
  unfold RoomTurn at turn
  split_ifs at turn with released back
  next => simpa [turn, overfillsQueue, returns, released] using h
  next =>
    obtain ⟨g, re, back'⟩ := turn
    have queue : queueOf c.queues f = c.room.queue f := rfl
    obtain ⟨d, held, out⟩ := Option.map_eq_some_iff.mp back'.taken
    obtain ⟨rfl, rfl⟩ : d.envelope.functionId = g ∧ d.envelope = re := by simpa using out
    simp only [overfillsQueue, back, back'.length, queue, held, Option.any_some, Bool.true_and,
      Bool.and_eq_true, decide_eq_true_eq]
    split
    next same => simp only [same, true_and]; omega
    next other => simp only [Ne.symm other, false_and, not_false_eq_true, iff_true]; exact h
  next =>
    simp only [overfillsQueue, back, Bool.false_and, Bool.false_eq_true, not_false_eq_true,
      iff_true]
    exact turn.length_le h

/-- A property of the room's queues and their total that one turn decides. -/
theorem Steady.decides {P : AdmissionController → Prop} {C : Prop} (h : Steady config c)
    (bounds : Bounds i config cap)
    (queues : ∀ t r, t.room.queue = r.queue → t.room.waiting = r.waiting →
      RoomTurn cap i c r → (P t ↔ C)) :
    wp (turn i)
      { ok := fun r t => (P t ↔ C) ∧ (r = none → Steady config t)
        err := fun _ _ => True
        panic := fun _ t => P t ↔ C } c := by
  have room := turn_room h.sound (h.config.symm ▸ bounds) h.timer
  have sound := turn_spec (i := i) h.sound
  rw [wp] at room sound ⊢
  cases ran : turn i c with
  | ok r t =>
    rw [ran] at room
    refine ⟨queues t t.room rfl rfl room.2, ?_⟩
    rintro rfl
    exact h.kept ran
  | err e _ => exact e.elim
  | panic msg t =>
    rw [ran] at room sound
    obtain ⟨u, turn, queue, waiting⟩ := room sound
    exact queues t u queue waiting turn

/-- The total is within its bound after every turn of a run exactly when no turn puts a request back
while the bound is reached; and a function's queue, in any part of a run in which the function's
bound does not change, exactly when no turn puts one of its requests back into a full queue. -/
theorem queue_bounds_iff (config : AdmissionConfig) (start : Instant) (inputs : List Input) :
    ((∀ taken, taken <+: inputs →
        (run config start taken).state.totalQueuedReqs ≤ config.globalMaxQueuedReqs) ↔
      AllTurns turn (fun c i => ¬overfills c i) inputs (AdmissionController.new config start)) ∧
    ∀ before c f cap, run config start before = .running c →
      (∀ i ∈ inputs, ∀ overrides, i.store f = some overrides →
        queueCap config overrides = cap) →
      (queueOf c.queues f).length ≤ cap →
      ((∀ taken, taken <+: inputs →
          (queueOf (iterate turn taken c).state.queues f).length ≤ cap) ↔
        AllTurns turn (fun c i => ¬overfillsQueue f cap c i) inputs c) := by
  constructor
  · refine prefixes_iff (I := Steady config)
      (P := fun t => t.totalQueuedReqs ≤ config.globalMaxQueuedReqs) ?_
      (steady_new config start) (Nat.zero_le _)
    intro c i _ steady le
    refine steady.decides (bounds_capacity config i) fun t r _ waiting turn => ?_
    have iff := turn.waiting_iff (congrArg AdmissionConfig.globalMaxQueuedReqs steady.config).symm le
    rwa [← waiting] at iff
  · intro before c f cap ran constant le
    refine prefixes_iff (I := Steady config) (P := fun t => (queueOf t.queues f).length ≤ cap) ?_
      (run_steady ran) le
    intro c i mem steady le
    have bounds : Bounds i config
        { capacity config i with each := Function.update (capacity config i).each f cap } := by
      refine ⟨rfl, fun g overrides known => ?_⟩
      simp only [Function.update_apply]
      split
      next same =>
        subst same
        exact (constant i mem overrides known).symm
      next => exact (bounds_capacity config i).each g overrides known
    refine steady.decides bounds fun t r queue _ turn => ?_
    have iff := turn.length_iff (f := f)
    simp only [Function.update_self, ← queue] at iff
    exact iff le

/-- The place of a request that is out is taken, before the pool answers. -/
def refilled : List Input :=
  [plain 1 (.newRequest ⟨1, 7, none⟩), plain 2 (.permit true), plain 3 (.newRequest ⟨2, 7, none⟩),
    plain 4 (.dispatchReply (.wouldBlock .noIdleWorker) true)]

/-- Two requests wait where the configuration allows one. -/
theorem queue_overfull :
    (∀ i ∈ refilled, i.store 7 = some none) ∧ ∃ c, run smallConfig 0 refilled = .running c ∧
      smallConfig.globalMaxQueuedReqs < c.totalQueuedReqs ∧
      queueCap smallConfig none < (queueOf c.queues 7).length :=
  ⟨by simp [refilled, plain], _, rfl, by decide, by decide⟩

/-- A request put back while its place is still free. -/
theorem queue_bounds_calm :
    let calm := [plain 1 (.newRequest ⟨1, 7, none⟩), plain 2 (.permit true),
      plain 3 (.dispatchReply (.wouldBlock .noIdleWorker) true)]
    (∀ taken, taken <+: calm → (run smallConfig 0 taken).state.totalQueuedReqs ≤ 1) ∧
      ∀ taken, taken <+: calm → (queueOf (run smallConfig 0 taken).state.queues 7).length ≤ 1 :=
  have bounds := queue_bounds_iff smallConfig 0
    [plain 1 (.newRequest ⟨1, 7, none⟩), plain 2 (.permit true),
      plain 3 (.dispatchReply (.wouldBlock .noIdleWorker) true)]
  ⟨bounds.1.mpr (by decide +kernel),
    (bounds.2 [] _ 7 1 rfl (by simp [plain, queueCap, smallConfig]) (by decide)).mpr
      (by decide +kernel)⟩

end bounds

end Admission
end Snaplace
