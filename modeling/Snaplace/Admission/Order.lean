import Snaplace.Admission.Refinement

/-!
# The order of admission

A dispatch attempt takes the oldest request of all functions that are not blocked, and the requests
of one function are forwarded in the order in which they were received. The first needs a clock that
does not go back; the second holds on any clock.
-/
namespace Snaplace
open Foundation Foundation.Handler WaitingRoom

namespace Admission

/-- The instants at which the events are handled do not decrease. -/
def Monotone (inputs : List Input) : Prop := inputs.Pairwise fun i j => i.now ≤ j.now

/-- No function that is not blocked has a request that was received before `d`'s. -/
def OldestFirst (d : OutstandingDispatch) (t : AdmissionController) : Prop :=
  ∀ f fq, t.queues.lookup f = some fq → fq.isBlocked = false →
    ∀ re ∈ fq.queue, d.envelope.enqueuedAt ≤ re.enqueuedAt

section order
variable {config : AdmissionConfig} {start : Instant} {c t : AdmissionController}

theorem run_timely {inputs : List Input} (ran : run config start inputs = .running c)
    (monotone : Monotone inputs) {now : Instant} (past : ∀ i ∈ inputs, i.now ≤ now) :
    Timely now c.room := by
  suffices Steady config c ∧ (Monotone inputs → ∀ now, (∀ i ∈ inputs, i.now ≤ now) →
      Timely now c.room) from this.2 monotone now past
  refine iterate_history (P := fun inputs c => Steady config c ∧ (Monotone inputs →
    ∀ now, (∀ i ∈ inputs, i.now ≤ now) → Timely now c.room)) ?_ ?_ ran
  · rintro taken i s t ⟨steady, timely⟩ one
    refine ⟨steady.kept one, fun monotone now past => ?_⟩
    obtain ⟨before, -, last⟩ := List.pairwise_append.mp monotone
    have timely := timely before i.now fun j mem => last j mem i (by simp)
    exact (timely.turn (steady.room_turn one).2.turn).mono (past i (by simp))
  · exact ⟨steady_new config start, fun _ _ _ => ⟨nofun, fun _ => .nil, nofun, nofun⟩⟩

theorem Steady.oldest_first {i : Input} {d : OutstandingDispatch} (h : Steady config c)
    (timely : Timely i.now c.room) (one : turn i c = .ok none t) (fresh : c.outstanding ≠ some d)
    (taken : t.outstanding = some d) : OldestFirst d t := by
  have idle := h.idle_before one fresh taken
  intro f fq look unblocked re mem
  refine (h.room_turn one).2.turn.oldest (j := f) (k := d.envelope.functionId) timely ?_ ?_ ?_ ?_
  · simp [AdmissionController.room, idle]
  · simp [AdmissionController.room, taken]
  · have queue : t.room.queue f = fq.queue := queueOf_of_lookup look
    rwa [queue]
  · exact (blockedOf_of_lookup look).trans unblocked

/-- In every run a function's requests are forwarded in the order in which they were received, and,
on a clock that does not go back, each dispatch attempt takes a request received no later than any
other that is queued for a function not blocked. -/
theorem admission_in_order (config : AdmissionConfig) (start : Instant) (inputs : List Input) :
    (∀ c, run config start inputs = .running c → ∀ f,
      (c.forwarded.filter fun req => req.functionId = f).Sublist
        (c.received.filter fun req => req.functionId = f)) ∧
    (Monotone inputs → ∀ taken i, taken ++ [i] <+: inputs → ∀ c t d,
      run config start taken = .running c → turn i c = .ok none t →
      c.outstanding ≠ some d → t.outstanding = some d → OldestFirst d t) := by
  refine ⟨fun c ran f => ?_, fun monotone taken i before c t d ran one fresh out => ?_⟩
  · have orderly := (run_steady ran).orderly f
    exact (List.sublist_append_left _ _).trans orderly
  · have monotone : Monotone (taken ++ [i]) := monotone.sublist before.sublist
    obtain ⟨before, -, last⟩ := List.pairwise_append.mp monotone
    have timely := run_timely ran before fun j mem => last j mem i (by simp)
    exact (run_steady ran).oldest_first timely one fresh out

def twoAsked : List Input :=
  [plain 1 (.newRequest ⟨1, 7, none⟩), plain 2 (.newRequest ⟨2, 5, none⟩)]

/-- Of two functions with a request each, the one that asked first is dispatched. -/
theorem admission_in_order_two :
    ∃ c t d, run { smallConfig with globalMaxQueuedReqs := 2 } 0 twoAsked = .running c ∧
      turn (plain 3 (.permit true)) c = .ok none t ∧ t.outstanding = some d ∧
      d.envelope.req.invocationId = 1 ∧ OldestFirst d t :=
  ⟨_, _, _, rfl, rfl, rfl, rfl,
    (admission_in_order { smallConfig with globalMaxQueuedReqs := 2 } 0
      (twoAsked ++ [plain 3 (.permit true)])).2 (by unfold Monotone; decide) twoAsked
      (plain 3 (.permit true)) (List.prefix_refl _) _ _ _ rfl rfl nofun rfl⟩

end order

end Admission
end Snaplace
