import Snaplace.Worker.Exit
import Snaplace.Worker.Frames

/-!
# The one sandbox of a worker

A worker that was given a sandbox creates none, and another one creates at most one, whose identifier
it announces to the pool at once. Whatever the worker exits with, that sandbox is the one it hands
back or has destroyed.
-/
namespace Snaplace
open Foundation

namespace Worker
open Handler (Keeps Post wp attempt mapErr fromExcept)
variable {ε : Type} {a : Answers} {w t u : Worker} {cpuset : Cpu} {loses : Prop}
  {given : List SandboxId} {input : Recv × Answers}

/-- The sandboxes whose identifiers the worker has sent to the pool. -/
def announced (log : List Action) : List SandboxId :=
  log.filterMap fun action => match action with
    | .toPool (.sandboxId _ sandbox) => some sandbox
    | _ => none

@[simp] theorem announced_append (l m : List Action) :
    announced (l ++ m) = announced l ++ announced m := List.filterMap_append

theorem Action.Plain.nothing {action : Action} (h : action.Plain) :
    Worker.created [action] = [] ∧ Worker.destroyed [action] = [] ∧ announced [action] = [] := by
  cases action with
  | created | destroyed => exact h.elim
  | toPool msg =>
    cases msg with
    | sandboxId | sandboxPreparation | snapshotCreation => exact h.elim
    | needWork | reapMe => exact ⟨rfl, rfl, rfl⟩
  | _ => exact ⟨rfl, rfl, rfl⟩

/-! ## Turns that create or destroy nothing -/

/-- From `w` to `t` no sandbox is created or announced. -/
structure Barren (w t : Worker) : Prop where
  created : created t.log = created w.log
  announced : announced t.log = announced w.log

theorem Barren.emit {action : Action} (hc : Worker.created [action] = [])
    (ha : Worker.announced [action] = []) : Barren w (w.emit action) := by
  constructor
  · simp [hc]
  · simp [ha]

instance : IsPreorder Worker Barren where
  refl _ := ⟨rfl, rfl⟩
  trans _ _ _ h h' := ⟨h'.created.trans h.created, h'.announced.trans h.announced⟩

instance : DestroyFrame Barren where
  become _ _ := ⟨rfl, rfl⟩
  plain _ _ h := .emit h.nothing.1 h.nothing.2.2
  destroyed _ _ := .emit rfl rfl

instance : ReportFrame Barren where
  preparation _ _ := .emit rfl rfl
  snapshot _ _ := .emit rfl rfl

/-- From `w` to `t` no sandbox is destroyed. -/
def Spared (w t : Worker) : Prop := destroyed t.log = destroyed w.log

theorem Spared.emit {action : Action} (hd : destroyed [action] = []) : Spared w (w.emit action) := by
  simp [Spared, hd]

instance : IsPreorder Worker Spared where
  refl _ := rfl
  trans _ _ _ h h' := h'.trans h

instance : CreateFrame Spared where
  become _ _ := rfl
  plain _ _ h := .emit h.nothing.2.1
  created _ _ := .emit rfl
  announced _ _ _ := .emit rfl

instance : ReportFrame Spared where
  preparation _ _ := .emit rfl
  snapshot _ _ := .emit rfl

theorem spared_handlePrepareSandboxRequest :
    Keeps Spared (handlePrepareSandboxRequest a cpuset) := by
  refine .bind .get fun w => .bind (.attempt Keeping.prepareSandbox) fun r => ?_
  split
  · exact .bind Keeping.sendSandboxPrepResult fun _ => .throw _
  · refine .bind (.attempt Keeping.pauseSandbox) fun r => ?_
    split
    · exact .bind Keeping.sendSandboxPrepResult fun _ => .throw _
    · exact .bind Keeping.runningToPaused fun _ => .bind Keeping.snapshotAfterPreparation fun _ =>
        Keeping.sendSandboxPrepResult

/-- Nothing is destroyed, unless the loop is left. -/
def spares (w : Worker) {α : Type} : Post Worker ε (Option α) where
  ok r t := r = none → Spared w t
  err _ _ := True
  panic _ _ := True

theorem wp_spares {α : Type} {m : Handler Worker ε (Option α)} (h : Keeps Spared m) :
    wp m (spares w) w :=
  Handler.wp_mono (h.wp w) (fun _ _ spared _ => spared) (fun _ _ _ => trivial) fun _ _ _ => trivial

theorem spares_afterRequest {m : WorkerM Unit} (h : Keeps Spared m) :
    wp (ε := ε) (attempt m >>= afterRequest a) (spares w) w := by
  rw [Handler.wp_bind, Handler.wp_attempt]
  refine Handler.wp_mono (h.wp w) (fun _ _ spared _ => spared) (fun err t _ => ?_)
    fun _ _ _ => trivial
  simp only [afterRequest, Handler.wp_bind, Handler.wp_attempt, Handler.wp_pure]
  exact Handler.wp_mono (Keeping.tryHandleFailure.wp (R := Barren) t) (fun _ _ _ left => absurd left (by simp))
    (fun _ _ _ left => absurd left (by simp)) fun _ _ _ => trivial

theorem spares_left {m : WorkerM Unit} (h : Keeps Barren m) :
    wp (ε := ε) (some <$> attempt m) (spares w) w := by
  simp only [Handler.wp_map, Handler.wp_attempt]
  exact Handler.wp_mono (h.wp w) (fun _ _ _ => nofun) (fun _ _ _ => nofun) fun _ _ _ => trivial

theorem spares_handle {recv : Recv} : wp (ε := ε) (handle a recv) (spares w) w := by
  match recv with
  | .invocation invoc => exact spares_afterRequest Keeping.handleRequest
  | .control (.prepareSandbox cpuset) => exact spares_afterRequest spared_handlePrepareSandboxRequest
  | .control (.createSnapshot sandboxId) =>
    exact wp_spares (.bind Keeping.handleSnapshotRequest fun _ => .pure _)
  | .control .shutDown => exact spares_left Keeping.shutdown
  | .control .destroySandbox => exact spares_left Keeping.destroySandbox
  | .invocationsClosed | .controlClosed => exact nofun

/-- A worker that stays in its loop has destroyed nothing. -/
theorem spared_turn (stays : turn input w = .ok none t) : Spared w t := by
  have spec : wp (turn input) (spares w) w := by
    simp only [turn, Handler.wp_bind, Handler.wp_get, Handler.wp_require]
    refine ⟨fun _ => Handler.wp_mono spares_handle ?_ (fun _ _ _ => trivial) fun _ _ _ => trivial,
      fun _ => trivial⟩
    intro verdict t spared
    cases verdict with
    | none => exact fun _ => spared rfl
    | some status =>
      simp only [Handler.wp_map]
      exact Handler.wp_mono (Keeping.leave.wp (R := Barren) t) (fun _ _ _ left => absurd left (by simp))
        (fun _ _ _ => trivial) fun _ _ _ => trivial
  exact Handler.ok_of_wp spec stays rfl

/-! ## Turns that create -/

/-- From `w` to `t` at most one sandbox is created, by a worker that holds none, and it is announced
unless it is lost. -/
inductive Grows (loses : Prop) (w t : Worker) : Prop
  | barren (same : Barren w t)
  | named (sb : SandboxId) (empty : w.sandboxState = .nonexistent) (fine : ¬loses)
      (created : created t.log = created w.log ++ [sb])
      (announced : announced t.log = announced w.log ++ [sb])
  | lost (sb : SandboxId) (empty : w.sandboxState = .nonexistent) (failed : loses)
      (created : created t.log = created w.log ++ [sb])
      (announced : announced t.log = announced w.log)

namespace Grows

theorem congr {loses' : Prop} (h : Grows loses w t) (same : loses ↔ loses') : Grows loses' w t := by
  rwa [← propext same]

theorem then_ (h : Grows loses w t) (h' : Barren t u) : Grows loses w u := by
  cases h with
  | barren same => exact .barren (trans_of Barren same h')
  | named sb empty fine created announced =>
    exact .named sb empty fine (h'.created.trans created) (h'.announced.trans announced)
  | lost sb empty failed created announced =>
    exact .lost sb empty failed (h'.created.trans created) (h'.announced.trans announced)

end Grows

/-- What a handler does that prepares the worker's sandbox first. -/
def GrowsOn (a : Answers) (cpuset : Cpu) (w t : Worker) : Prop := Grows (LosesSandbox a w cpuset) w t

theorem grows_createSandbox : Keeps (GrowsOn a cpuset) (createSandbox a cpuset) := by
  refine .inspect fun w => ?_
  match empty : w.sandboxState with
  | .nonexistent =>
    simp only [Handler.wp_bind, Handler.wp_fromExcept, allocateNet_eq_ok, record, Handler.wp_modify,
      mapError_eq_ok, mapError_eq_error, sendSandboxId, retrySendToPool, Handler.wp_get,
      Handler.wp_pure]
    have allocated (net : NetResource) : Barren w (w.emit (.allocated net)) := .emit rfl rfl
    refine ⟨fun net granted => ⟨fun fresh made => ⟨fun _ set => ?_, ?_⟩, ?_⟩, ?_⟩
    · refine .named fresh.id empty ?_ (by simp [created]) (by simp [announced])
      rintro ⟨-, net', fresh', err, -, -, failed⟩
      simp [set] at failed
    · rintro _ ⟨err, failed, -⟩
      exact .lost fresh.id empty ⟨empty, net, fresh, err, granted, made, failed⟩ (by simp [created])
        (by simp [announced])
    · exact fun _ _ => .barren (allocated net)
    · exact fun _ _ => .barren (refl_of Barren w)
  | .paused _ | .snapshot _ | .running _ | .trashed _ => exact .barren (refl_of Barren w)

/-- What comes after the preparation creates nothing. -/
theorem GrowsOn.seq {ε α β : Type} {m : Handler Worker ε α} {f : α → Handler Worker ε β}
    (first : Keeps (GrowsOn a cpuset) m) (rest : ∀ x, Keeps Barren (f x)) :
    Keeps (GrowsOn a cpuset) (m >>= f) :=
  .comp (S := Barren) (fun _ _ _ grown same => Grows.then_ grown same) first rest

theorem Barren.growsOn (h : Barren w t) : GrowsOn a cpuset w t := .barren h

theorem grows_prepareSandbox : Keeps (GrowsOn a cpuset) (prepareSandbox a cpuset) := by
  refine .inspect fun w => ?_
  dsimp only
  split
  · exact (GrowsOn.seq grows_createSandbox fun _ => Keeping.become).wp w
  · refine Keeps.wp (Keeps.mono (R := Barren) ?_ fun _ _ => Barren.growsOn) w
    refine .bind Keeping.loadSandbox fun _ => .bind .get fun w => ?_
    split
    · exact .bind (.pure _) fun _ => Keeping.become
    · exact .bind (.panicWith _) fun _ => Keeping.become
  · refine Keeps.wp (Keeps.mono (R := Barren) ?_ fun _ _ => Barren.growsOn) w
    refine .bind Keeping.resumeSandbox fun _ => .bind .get fun w => ?_
    split
    · exact .bind (.pure _) fun _ => Keeping.become
    · exact .bind (.panicWith _) fun _ => Keeping.become
  · exact Keeps.wp (Keeps.mono (R := Barren) (.bind (.panicWith _) fun _ => Keeping.become)
      fun _ _ => Barren.growsOn) w
  · exact Keeps.wp (Keeps.mono (R := Barren) (.bind (.panicWith _) fun _ => Keeping.become)
      fun _ _ => Barren.growsOn) w

theorem grows_handleRequest {invoc : Invocation} :
    Keeps (GrowsOn a invoc.cpuset) (handleRequest a invoc) := by
  have withSlot : Keeps (GrowsOn a invoc.cpuset) (handleWithSlot a invoc.req invoc.cpuset) :=
    .inspect fun w =>
      (GrowsOn.seq (.mapErr grows_prepareSandbox) fun _ => Keeping.handleWithSandbox).wp w
  exact .seq (.attempt withSlot) fun _ => .bind (Keeping.plain trivial) fun _ =>
    .bind (.fromExcept _) fun _ => .bind .get fun _ => Keeping.plain trivial

theorem grows_handlePrepareSandboxRequest :
    Keeps (GrowsOn a cpuset) (handlePrepareSandboxRequest a cpuset) := by
  refine .inspect fun w => (GrowsOn.seq (.attempt grows_prepareSandbox) fun r => ?_).wp w
  split
  · exact .bind Keeping.sendSandboxPrepResult fun _ => .throw _
  · refine .bind (.attempt Keeping.pauseSandbox) fun r => ?_
    split
    · exact .bind Keeping.sendSandboxPrepResult fun _ => .throw _
    · exact .bind Keeping.runningToPaused fun _ => .bind Keeping.snapshotAfterPreparation fun _ =>
        Keeping.sendSandboxPrepResult

/-- One case for each message. -/
theorem grows_handle {recv : Recv} :
    Keeps (ε := ε) (fun w => Grows (LosesSandboxAt w (recv, a)) w) (handle a recv) := by
  have grown {cpuset : Cpu} (prepares : recv.preparesOn = some cpuset) {m : WorkerM Unit}
      (h : Keeps (GrowsOn a cpuset) m) : Keeps (ε := ε)
        (fun w => Grows (LosesSandboxAt w (recv, a)) w) (attempt m >>= afterRequest a) :=
    (GrowsOn.seq (.attempt h) fun _ => Keeping.afterRequest).mono fun _ _ grown =>
      grown.congr (by simp [LosesSandboxAt, prepares])
  have barren {m : Handler Worker ε Verdict} (h : Keeps Barren m) :
      Keeps (fun w => Grows (LosesSandboxAt w (recv, a)) w) m := h.mono fun _ _ => .barren
  cases recv with
  | invocation invoc => exact grown rfl grows_handleRequest
  | control msg =>
    cases msg with
    | prepareSandbox cpuset => exact grown rfl grows_handlePrepareSandboxRequest
    | createSnapshot sandboxId =>
      exact barren (.bind Keeping.handleSnapshotRequest fun _ => .pure _)
    | shutDown => exact barren (.map (.attempt Keeping.shutdown))
    | destroySandbox => exact barren (.map (.attempt Keeping.destroySandbox))
  | invocationsClosed | controlClosed => exact barren (.pure _)

theorem grows_turn (input : Recv × Answers) :
    Keeps (fun w => Grows (LosesSandboxAt w input) w) (turn input) := by
  obtain ⟨recv, a⟩ := input
  refine .inspect fun w => ?_
  simp only [Handler.wp_bind, Handler.wp_require]
  refine ⟨fun _ => ?_, fun _ => .barren (refl_of Barren w)⟩
  refine Handler.wp_mono (grows_handle.wp w) ?_ (fun _ _ grown => grown) fun _ _ grown => grown
  intro verdict t grown
  cases verdict with
  | none => exact grown
  | some status =>
    refine Handler.wp_mono ((Keeps.map Keeping.leave).wp (R := Barren) t) ?_ ?_ ?_
    all_goals exact fun _ _ same => grown.then_ same

/-! ## Runs -/

/-- At the top of its loop a worker holds the sandbox it was given or has announced. -/
structure Carries (given : List SandboxId) (w : Worker) : Prop where
  settled : w.sandboxState.Settled
  owned : w.sandboxState.owned = given ++ announced w.log
  created : created w.log = announced w.log
  destroyed : destroyed w.log = []

theorem SandboxState.owned_length (state : SandboxState) : state.owned.length ≤ 1 := by
  unfold owned
  cases state.id <;> simp

/-- Two lists of at most one element that count alike are the same. -/
theorem SandboxState.owned_eq {state : SandboxState} {sbs : List SandboxId}
    (alike : ∀ sb, state.owned.count sb = sbs.count sb) : state.owned = sbs := by
  have perm : state.owned.Perm sbs := List.perm_iff_count.mpr alike
  unfold owned at perm ⊢
  cases held : state.id with
  | none =>
    rw [held] at perm
    exact (List.nil_perm.mp perm).symm
  | some sb =>
    rw [held] at perm
    exact (List.perm_singleton.mp perm.symm).symm

namespace Carries

theorem length (h : Carries given w) : (given ++ announced w.log).length ≤ 1 := by
  rw [← h.owned]
  exact w.sandboxState.owned_length

theorem nothing (h : Carries given w) (empty : w.sandboxState = .nonexistent) :
    given = [] ∧ announced w.log = [] := by
  have owned := h.owned
  rw [empty, owned_nonexistent] at owned
  exact List.append_eq_nil_iff.mp owned.symm

/-- However a turn ends, the pool has been told of at most one sandbox. -/
theorem length_turn (input : Recv × Answers) (h : Carries given w) :
    (given ++ announced (turn input w).state.log).length ≤ 1 := by
  cases grows_turn input w with
  | barren same =>
    rw [same.announced]
    exact h.length
  | named sb empty fine created announced =>
    obtain ⟨rfl, none⟩ := h.nothing empty
    simp [announced, none]
  | lost sb empty failed created announced =>
    rw [announced]
    exact h.length

/-- The step lemma of the loop. -/
theorem turn (h : Carries given w) (stays : turn input w = .ok none t) : Carries given t := by
  obtain ⟨⟨kept, settled, -⟩, fine⟩ := Handler.ok_of_wp (turn_spec_any input h.settled) stays
  have spared := (spared_turn stays).trans h.destroyed
  have grown : Grows (LosesSandboxAt w input) w t := by
    simpa [stays, Outcome.state] using grows_turn input w
  cases grown with
  | barren same =>
    have owned : t.sandboxState.owned = w.sandboxState.owned := by
      refine SandboxState.owned_eq fun sb => ?_
      have balance := kept.balance sb
      rw [same.created, spared, h.destroyed] at balance
      simp at balance
      omega
    refine ⟨settled, ?_, ?_, spared⟩
    · rw [owned, h.owned, same.announced]
    · rw [same.created, h.created, same.announced]
  | named sb empty fine created announced =>
    obtain ⟨rfl, none⟩ := h.nothing empty
    refine ⟨settled, ?_, ?_, spared⟩
    · refine SandboxState.owned_eq fun sb' => ?_
      have balance := kept.balance sb'
      rw [created, spared, h.destroyed, empty] at balance
      rw [announced, none]
      simp at balance ⊢
      omega
    · rw [created, h.created, announced]
  | lost sb empty failed => exact absurd failed fine

/-- The last turn: the sandbox is in the exit value, or was destroyed. -/
theorem left {exit : WorkerExit} (h : Carries given w) (leaves : Worker.turn input w = .ok (some exit) t) :
    (given ++ announced t.log).Perm (Worker.destroyed t.log ++ exit.owned) := by
  obtain ⟨⟨-, held, lost, balance⟩, -⟩ := Handler.ok_of_wp (turn_spec_any input h.settled) leaves
  have grown : Grows (LosesSandboxAt w input) w t := by
    simpa [leaves, Outcome.state] using grows_turn input w
  simp only [h.destroyed, h.owned] at balance
  refine List.perm_iff_count.mpr fun sb' => ?_
  have here := balance sb'
  cases grown with
  | barren same =>
    have none_held : held.count sb' = 0 := by
      by_cases loses : LosesSandboxAt w input
      · obtain ⟨cpuset, -, empty, -⟩ := loses
        obtain ⟨rfl, none⟩ := h.nothing empty
        rw [same.created, none] at here
        simp at here
        omega
      · simp [lost.mpr loses]
    rw [same.created, none_held] at here
    rw [same.announced]
    simp at here ⊢
    omega
  | named sb empty fine created announced =>
    rw [created, lost.mpr fine] at here
    rw [announced]
    simp at here ⊢
    omega
  | lost sb empty failed created announced =>
    -- The lost sandbox is the only one there is, so none is left for the exit.
    obtain ⟨rfl, none⟩ := h.nothing empty
    obtain ⟨x, mem⟩ := List.exists_mem_of_ne_nil held fun nil => lost.mp nil failed
    have held_x := List.count_pos_iff.mpr mem
    have at_x := balance x
    simp only [created, none, announced, List.count_append, List.count_nil, List.nil_append,
      List.count_singleton'] at here at_x ⊢
    grind

end Carries

/-- What is known of the sandbox wherever a run stands, and when the worker has exited. -/
def Follows (given : List SandboxId) : Progress Worker WorkerExit → Prop
  | .running t => Carries given t
  | .exited exit t => (given ++ announced t.log).length ≤ 1 ∧
      (given ++ announced t.log).Perm (destroyed t.log ++ exit.owned)
  | .panicked _ t => (given ++ announced t.log).length ≤ 1

theorem Follows.length {progress : Progress Worker WorkerExit} (h : Follows given progress) :
    (given ++ announced progress.state.log).length ≤ 1 := by
  cases progress with
  | running t => exact Carries.length h
  | exited exit t => exact h.1
  | panicked msg t => exact h

/-- The run lemma. -/
theorem Carries.iterate {inputs : List (Recv × Answers)} (h : Carries given w) :
    Follows given (Foundation.iterate Worker.turn inputs w) := by
  have turns : AllTurns Worker.turn (fun _ _ => True) inputs w :=
    .of_forall_mem (fun _ _ _ => trivial) w
  have all := iterate_invariant (I := Carries given) (E := fun exit t => Follows given (.exited exit t))
    (P := fun msg t => Follows given (.panicked msg t)) ?_ h turns
  · cases ended : Foundation.iterate Worker.turn inputs w with
    | running t | exited exit t | panicked msg t =>
      rw [ended] at all
      exact all
  · intro s input holds _
    have length := holds.length_turn input
    unfold Handler.wp
    cases ended : Worker.turn input s with
    | ok r t =>
      rw [ended] at length
      cases r with
      | none => exact holds.turn ended
      | some exit => exact ⟨length, holds.left ended⟩
    | err e t => trivial
    | panic msg t =>
      rw [ended] at length
      exact length

section Spawn
variable (id : WorkerId) (functionId : FunctionId) (mode : SnapshotCreationTime)
  (timeout : Duration) (sandbox : Option Sandbox) (init : Except SourceError Unit)
  (inputs : List (Recv × Answers))

theorem carries_spawn :
    Carries (sandbox.toList.map Sandbox.id) (spawn id functionId mode timeout sandbox) := by
  refine ⟨spawn_settled .., ?_, rfl, rfl⟩
  cases sandbox <;> rfl

/-- The sandboxes that the pool can know a worker by: what it was given, then what it announced. -/
def known (sandbox : Option Sandbox) (log : List Action) : List SandboxId :=
  sandbox.toList.map Sandbox.id ++ announced log

theorem run_follows : Follows (sandbox.toList.map Sandbox.id)
    (run init inputs (spawn id functionId mode timeout sandbox)) := by
  have holds := carries_spawn id functionId mode timeout sandbox
  match init with
  | .ok _ => exact holds.iterate
  | .error source =>
    rw [run_init_failed]
    refine ⟨holds.length, ?_⟩
    rw [WorkerExit.owned_ofState, holds.owned]
    exact List.Perm.refl _

/-- A worker is known by one sandbox at most, wherever its run stands. -/
theorem known_length :
    (known sandbox (run init inputs (spawn id functionId mode timeout sandbox)).state.log).length ≤
      1 :=
  (run_follows ..).length

/-- A worker that exits hands back the sandbox it is known by, or has destroyed it. -/
theorem known_perm {exit : WorkerExit}
    (exited : run init inputs (spawn id functionId mode timeout sandbox) = .exited exit t) :
    (known sandbox t.log).Perm (destroyed t.log ++ exit.owned) := by
  have follows := run_follows id functionId mode timeout sandbox init inputs
  rw [exited] at follows
  exact follows.2

end Spawn

end Worker
end Snaplace
