import Snaplace.Worker.Failure

/-!
# One turn of the main loop

What each message leads to: back to the top of the loop in a settled state, out of the loop with an
exit value, or a panic. `turn_spec` is the step lemma of every statement about runs of a worker.
-/
namespace Snaplace
open Foundation Foundation.Handler

namespace Worker
variable {ε : Type} {a : Answers} {w t : Worker} {cpuset : Cpu}

theorem handleRequest_spec {invoc : Invocation} (h : w.sandboxState.Settled) :
    wp (handleRequest a invoc)
      (requestPost a w (ResumeFails a w invoc.cpuset) (LosesSandbox a w invoc.cpuset)) w := by
  simp only [handleRequest, sendNeedWork, retrySendToPool, wp_bind, wp_attempt, record, wp_modify,
    wp_fromExcept, wp_get]
  refine wp_mono (handleWithSlot_spec h) ?_ ?_ (fun _ _ h => h)
  · rintro _ t ⟨kept, paused, fine⟩
    exact ⟨fun _ _ => ⟨(kept.emit rfl rfl rfl).emit rfl rfl rfl, paused, fine⟩, by simp⟩
  · rintro e t ⟨left, expected, held, kept, lost⟩
    refine ⟨by simp, ?_⟩
    rintro _ ⟨rfl⟩
    exact ⟨left, expected, held, kept.emit rfl rfl rfl, lost⟩

theorem snapshotAfterPreparation_spec {sb : Sandbox} {startState : SandboxStateRef} {has : Bool}
    (h : w.sandboxState = .paused sb) :
    wp (snapshotAfterPreparation a startState has)
      { ok := fun _ => StaysPaused sb w, err := fun _ _ => False } w := by
  simp only [snapshotAfterPreparation, wp_bind, wp_get, wp_ite, wp_attempt, wp_pure]
  refine ⟨fun _ => wp_mono (createSnapshot_spec h) ?_ ?_ nofun, fun _ => ⟨Kept.refl w, sb, rfl, h⟩⟩
  · exact fun _ _ stays => stays
  · exact fun _ _ stays => stays

theorem handlePrepareSandboxRequest_spec (h : w.sandboxState.Settled) :
    wp (handlePrepareSandboxRequest a cpuset)
      (requestPost a w False (LosesSandbox a w cpuset)) w := by
  simp only [handlePrepareSandboxRequest, wp_bind, wp_get, wp_attempt, sendSandboxPrepResult,
    retrySendToPool, record, wp_modify, wp_throw]
  refine wp_mono (prepareSandbox_spec h) ?_ ?_ (fun _ _ never => never.elim)
  · rintro _ t ⟨kept, sb, running, creates⟩
    have loses : ¬LosesSandbox a w cpuset := fun lost => (creates lost.1).not_fails lost.2
    refine wp_mono (pauseSandbox_spec running) ?_ ?_ (fun _ _ never => never.elim)
    · rintro _ _ ⟨rfl, -⟩
      dsimp only
      refine wp_mono (runningToPaused_spec (setState_sandboxState _ _)) ?_ (fun _ _ never => never.elim)
        fun _ _ never => never.elim
      rintro _ _ ⟨rfl, rfl⟩
      dsimp only
      refine wp_mono (snapshotAfterPreparation_spec (setState_sandboxState _ _)) ?_ (fun _ _ never => never.elim)
        fun _ _ never => never.elim
      rintro has u ⟨kept', sb', same, paused⟩
      have kept'' := ((kept.setState (by simp [running])).setState (by simp)).trans kept'
      exact ⟨kept''.emit rfl rfl rfl, ⟨sb', paused⟩, not_false, loses⟩
    · rintro e _ ⟨rfl, source, failed, rfl⟩
      exact ⟨by rintro _ ⟨⟩, .inl ⟨not_false, _, rfl⟩, [],
        (kept.setState (by simp [running])).emit rfl rfl rfl, by simp [loses]⟩
  · rintro e t ⟨left, fails, held, kept, lost⟩
    exact ⟨left.snapshotFrom, .inl ⟨not_false, left.expects⟩, held, kept.emit rfl rfl rfl, lost⟩

/-- Back at the top of the loop: a sandbox is only a snapshot if it was the same one before. -/
def BackAtTop (w t : Worker) : Prop :=
  Kept [] w t ∧ t.sandboxState.Settled ∧
    ∀ sb, t.sandboxState = .snapshot sb → w.sandboxState = .snapshot sb

theorem BackAtTop.refl (h : w.sandboxState.Settled) : BackAtTop w w :=
  ⟨Kept.refl w, h, fun _ state => state⟩

theorem snapshotOnRequest_spec (h : w.sandboxState.Settled) :
    wp (snapshotOnRequest a) (Post.state (BackAtTop w)) w := by
  simp only [snapshotOnRequest, wp_bind, wp_get]
  cases state : w.sandboxState with
  | snapshot sb => exact BackAtTop.refl h
  | nonexistent => exact BackAtTop.refl h
  | paused sb =>
    simp only [wp_ite, wp_pure]
    have after : ∀ t, StaysPaused sb w t → BackAtTop w t := by
      rintro t ⟨kept, sb', _, paused⟩
      exact ⟨kept, by simp [paused, SandboxState.Settled], by simp [paused]⟩
    refine ⟨fun _ => BackAtTop.refl h, fun _ => ?_⟩
    exact wp_mono (createSnapshot_spec state) (fun _ => after) (fun _ => after) fun _ _ never => never.elim
  | running _ | trashed _ => simp [state, SandboxState.Settled] at h

theorem handleSnapshotRequest_spec {sandboxId : SandboxId} (h : w.sandboxState.Settled) :
    wp (ε := ε) (handleSnapshotRequest a sandboxId)
      { ok := fun _ => BackAtTop w, err := fun _ _ => False } w := by
  simp only [handleSnapshotRequest, sendSnapshotResult, retrySendToPool, wp_bind, wp_attempt,
    wp_get, record, wp_modify]
  have after : ∀ t msg, BackAtTop w t → BackAtTop w (t.emit (.toPool (.snapshotCreation msg))) :=
    fun t msg back => ⟨back.1.emit rfl rfl rfl, back.2⟩
  exact wp_mono (snapshotOnRequest_spec h) (fun _ t => after t _) (fun _ t => after t _)
    fun _ _ never => never.elim

def Recv.Closed : Recv → Prop
  | .invocationsClosed | .controlClosed => True
  | _ => False

/-- The cpuset of a request that prepares a sandbox. -/
def Recv.preparesOn : Recv → Option Cpu
  | .invocation invoc => some invoc.cpuset
  | .control (.prepareSandbox cpuset) => some cpuset
  | _ => none

def ResumeFailsAt (w : Worker) (input : Recv × Answers) : Prop :=
  ∃ invoc, input.1 = .invocation invoc ∧ ResumeFails input.2 w invoc.cpuset

def LosesSandboxAt (w : Worker) (input : Recv × Answers) : Prop :=
  ∃ cpuset, input.1.preparesOn = some cpuset ∧ LosesSandbox input.2 w cpuset

/-- In what state the loop is left with each exit status. -/
def LeftLoop (honest : Prop) (recv : Recv) (w t : Worker) : Except Error Unit → Prop
  | .ok _ => t.sandboxState = .nonexistent ∨
      (∃ sb, t.sandboxState = .snapshot sb ∧ (honest → sb.hasSnapshot)) ∨ (recv.Closed ∧ t = w)
  | .error _ => (∃ sb, t.sandboxState = .trashed sb) ∨
      t.sandboxState = .nonexistent ∧ NetworkLost t.log

def verdictPost (honest : Prop) (recv : Recv) (w : Worker) (loses : Prop) :
    Post Worker ε Verdict where
  ok verdict t := match verdict with
    | none => BackAtTop w t ∧ ¬loses
    | some status => LeftLoop honest recv w t status ∧ ∃ held, Kept held w t ∧ (held = [] ↔ ¬loses)
  err _ _ := False
  panic msg _ := msg = newSandboxPanic ∨ msg = unmatchedErrorPanic

section Verdict
variable {honest : Prop} (keeps : honest → a.KeepsSnapshots)
  (flag : honest → ∀ sb, w.sandboxState = .snapshot sb → sb.hasSnapshot)

include keeps flag in
theorem afterRequest_spec {request : WorkerM Unit} {recv : Recv} {fails loses : Prop}
    (h : wp request (requestPost a w fails loses) w) :
    wp (ε := ε) (attempt request >>= afterRequest a) (verdictPost honest recv w loses) w := by
  rw [wp_bind, wp_attempt]
  refine wp_mono h ?_ ?_ (fun _ _ known => .inl known.1)
  · rintro _ t ⟨kept, ⟨sb, paused⟩, fine, lost⟩
    exact ⟨⟨kept, by simp [paused, SandboxState.Settled], by simp [paused]⟩, lost⟩
  · rintro err t ⟨left, expected, held, kept, lost⟩
    simp only [afterRequest, wp_bind, wp_attempt]
    obtain ⟨fine, expected⟩ | ⟨_, source, rfl⟩ := expected
    · have flag' : honest → ∀ sb, t.sandboxState = .snapshot sb → sb.hasSnapshot := by
        intro p sb state
        obtain ⟨old, before, rfl⟩ := left sb state
        exact ((keeps p).load _).trans (flag p old before)
      refine wp_mono (tryHandleFailure_spec expected keeps flag') ?_ ?_ (fun _ _ never => never.elim)
      · rintro _ u ⟨kept', left⟩
        exact ⟨left.imp_right .inl, held ++ [], kept.trans kept', by simpa using lost⟩
      · rintro _ u ⟨kept', left⟩
        exact ⟨left, held ++ [], kept.trans kept', by simpa using lost⟩
    · exact .inr rfl

include keeps flag in
theorem handle_spec {recv : Recv} (h : w.sandboxState.Settled) :
    wp (ε := ε) (handle a recv) (verdictPost honest recv w (LosesSandboxAt w (recv, a))) w := by
  have stop : ∀ {m : WorkerM Unit} {recv : Recv} {loses : Prop}, ¬loses →
      wp m (retirePost honest w) w →
      wp (ε := ε) (some <$> attempt m) (verdictPost honest recv w loses) w := by
    intro m recv loses lost retired
    simp only [wp_map, wp_attempt]
    refine wp_mono retired ?_ ?_ (fun _ _ never => never.elim)
    · exact fun _ t out => ⟨out.2.imp_right .inl, [], out.1, by simp [lost]⟩
    · exact fun _ t out => ⟨out.2, [], out.1, by simp [lost]⟩
  cases recv with
  | invocation invoc =>
    have loses : LosesSandboxAt w (.invocation invoc, a) = LosesSandbox a w invoc.cpuset := by
      simp [LosesSandboxAt, Recv.preparesOn]
    exact loses ▸ afterRequest_spec keeps flag (handleRequest_spec h)
  | control msg =>
    cases msg with
    | prepareSandbox cpuset =>
      have loses : LosesSandboxAt w (.control (.prepareSandbox cpuset), a) =
          LosesSandbox a w cpuset := by
        simp [LosesSandboxAt, Recv.preparesOn]
      exact loses ▸ afterRequest_spec keeps flag (handlePrepareSandboxRequest_spec h)
    | shutDown =>
      exact stop (by simp [LosesSandboxAt, Recv.preparesOn]) (shutdown_spec keeps h flag)
    | destroySandbox =>
      refine stop (by simp [LosesSandboxAt, Recv.preparesOn]) ?_
      have settled : ∀ sb, w.sandboxState ≠ .trashed sb := by
        intro sb state
        simp [state, SandboxState.Settled] at h
      refine wp_mono (destroySandbox_spec settled) ?_ ?_ (fun _ _ never => never.elim)
      · exact fun _ t out => ⟨out.1, .inl out.2⟩
      · exact fun _ t left => left
    | createSnapshot sandboxId =>
      simp only [handle, wp_bind, wp_pure]
      refine wp_mono (handleSnapshotRequest_spec h) ?_ (fun _ _ never => never.elim)
        fun _ _ never => never.elim
      exact fun _ t back => ⟨back, by simp [LosesSandboxAt, Recv.preparesOn]⟩
  | invocationsClosed | controlClosed =>
    exact ⟨.inr (.inr ⟨trivial, rfl⟩), [], Kept.refl w, by simp [LosesSandboxAt, Recv.preparesOn]⟩

end Verdict

end Worker
end Snaplace
