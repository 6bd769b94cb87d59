import Snaplace.Pool.Sandboxes

/-!
# The pool's shutdown

While the pool serves, its handlers do not touch the phase. When it stops serving, the workers have
all been told to go; from then on nothing is started any more, the live workers only become fewer,
and the loop ends when there is none left. What is left of the sandboxes then is kept for the next
start, or destroyed one by one.
-/
namespace Snaplace
open Foundation
open Worker (OutboundMessage)
open Admission (DispatchMode DispatchResponse)

namespace Pool
open Handler (Keeps Post wp attempt)

section Phase
variable {ε : Type} {i : Input} {w : WorkerId} {f : FunctionId}

/-- A pool that serves goes on serving, and one that shuts down goes on shutting down. -/
def SamePhase (p q : Pool) : Prop := q.phase = p.phase

instance : IsPreorder Pool SamePhase where
  refl _ := rfl
  trans _ _ _ h h' := h'.trans h

theorem phase_insertWorker {stage : Stage} : Keeps SamePhase (insertWorker stage w f) :=
  .of_wp fun _ => all_insertWorker rfl rfl

theorem phase_removeWorker {stage : Stage} :
    Keeps SamePhase (removeWorker stage w f : Handler Pool ε Bool) :=
  .of_wp fun _ => all_removeWorker rfl rfl

theorem phase_transition {source target : Stage} {msg : String} :
    Keeps SamePhase (transition source target msg w f) :=
  .of_wp fun _ => all_transition rfl (fun _ => rfl) fun _ => rfl

instance : Frame SamePhase where
  aside p q same := show q.phase = p.phase from congrArg (fun core => core.2.2.2.2.2.2) same
  toIdle _ _ := phase_transition
  idleToDying _ _ := phase_transition
  activeToDying _ _ := phase_transition
  account _ _ := .bind (.bind .get fun _ => .expect _ _) fun _ => .modify fun _ => rfl

instance : SandboxFrame SamePhase where
  place p q same := show q.phase = p.phase from congrArg (fun tables => tables.2.2.1) same
  condemn _ _ := phase_insertWorker

instance : ReapFrame SamePhase where
  remove _ _ _ := phase_removeWorker

theorem phase_assignWorker : Keeps SamePhase (assignWorker i w f) := by
  refine .bind Keeping.stopTimer fun _ => .bind (.mapErr phase_insertWorker) fun _ =>
    .bind Keeping.cpuAlloc fun _ => .bind Keeping.expectHandle fun _ => .bind .get fun p =>
      .bind Keeping.clearDeadline fun _ => .bind (.attempt Keeping.replyDispatch) fun r => ?_
  cases r with
  | ok _ => exact .pure _
  | error _ => exact Keeping.cleanupFailedDispatch

theorem phase_dispatchToNewWorker {mode : DispatchMode} :
    Keeps SamePhase (dispatchToNewWorker i f mode) := by
  refine .ite (fun _ => Keeping.deny) fun _ => .bind Keeping.registeredFunction fun function =>
    .bind .get fun p => .ite (fun _ => Keeping.deny) fun _ => .ite (fun _ => ?_) fun _ => ?_
  · exact .bind Keeping.pickOrphanSnapshot fun _ => .bind Keeping.spawnNewWorker fun _ =>
      .bind Keeping.evictIfNeeded fun _ => phase_assignWorker
  · exact .bind Keeping.evictIfNeeded fun _ => Keeping.deny

theorem phase_handleDispatch {mode : DispatchMode} :
    Keeps SamePhase (handleDispatch i f mode) := by
  refine .bind .get fun p => .ite (fun _ => ?_) fun _ => Keeping.deny
  refine .bind Keeping.pickIdleWorker fun picked => ?_
  cases picked with
  | some worker =>
    exact .bind phase_removeWorker fun _ => .bind (.require _ _) fun _ => phase_assignWorker
  | none => exact phase_dispatchToNewWorker

theorem phase_startPrep {options : PrepareSandboxOptions} {respondTo : Option ReplyId} :
    Keeps SamePhase (startPrep i w f options respondTo) := by
  have abandon (err : Worker.Error) : Keeps SamePhase (abandonPrep i w f err) := by
    refine .bind (.attempt Keeping.cpuRelease) fun _ => .bind Keeping.takePrepOp fun _ => ?_
    split
    · exact .bind (.attempt Keeping.reapWorker) fun _ => .throw _
    · exact .throw _
  refine .bind (.mapErr phase_insertWorker) fun _ => .bind Keeping.cpuAlloc fun _ =>
    .bind Keeping.insertOp fun _ => .bind Keeping.insertPrepOp fun _ =>
      .bind Keeping.expectHandle fun _ => .bind (.attempt Keeping.sendControl) fun r => ?_
  cases r with
  | ok _ => exact .pure _
  | error err => exact abandon err

theorem phase_requestSandboxPrep {options : PrepareSandboxOptions} {respondTo : Option ReplyId} :
    Keeps SamePhase (requestSandboxPrep i f options respondTo) := by
  refine .bind .get fun p => .ite (fun _ => ?_) fun _ => .throw _
  refine .bind Keeping.functionMemory fun mem => .bind Keeping.startingSandbox fun sandbox =>
    .bind .get fun p => .ite (fun _ => ?_) fun _ => ?_
  · exact .bind (.mapErr Keeping.spawnNewWorker) fun _ => .bind Keeping.evictIfNeeded fun _ =>
      phase_startPrep
  · exact .bind Keeping.evictIfNeeded fun _ => .throw _

theorem phase_activateForSnapshot {sandboxId : SandboxId} {respondTo : Option ReplyId} :
    Keeps SamePhase (activateForSnapshot w f sandboxId respondTo) := by
  unfold activateForSnapshot
  refine .bind phase_removeWorker fun _ => .ite (fun _ => .mapErr phase_insertWorker) fun _ => ?_
  refine .bind .get fun p => .bind .get fun q => ?_
  split
  · exact .pure _
  · exact .throw _
  · exact .throw _

theorem phase_handleControl {msg : PoolControlMessage} :
    Keeps SamePhase (handleControl i msg : Handler Pool ε Unit) := by
  cases msg with
  | prepareSandbox f options respondTo =>
    exact .bind (Keeping.record rfl) fun _ =>
      Keeping.answerFailure phase_requestSandboxPrep fun _ _ => rfl
  | destroySandbox target options respondTo =>
    exact .bind (Keeping.record rfl) fun _ =>
      Keeping.answerFailure Keeping.requestSandboxDestr fun _ _ => rfl
  | listSandboxes respondTo => exact .panicWith _
  | createSnapshot sandboxId respondTo =>
    exact .bind (Keeping.record rfl) fun _ => Keeping.answerFailure
      (Keeping.requestSnapshotting fun _ _ => phase_activateForSnapshot) fun _ _ => rfl

theorem phase_registerFunction {function : RegisteredFunction} :
    Keeps SamePhase (registerFunction f function) := by
  refine .bind .get fun p => ?_
  split
  · exact .throw _
  · exact .modify fun _ => rfl

theorem phase_deregisterFunction : Keeps SamePhase (deregisterFunction f) := by
  refine .bind .get fun p => ?_
  dsimp only
  split
  · exact .throw _
  · exact .ite (fun _ => .throw _) fun _ => .modify fun _ => rfl

theorem phase_serve {event : Event} : Keeps SamePhase (serve i event) := by
  cases event with
  | keepaliveTimeout worker =>
    change Keeps SamePhase (decommissionIdleWorker i worker none)
    exact Keeping.decommissionIdleWorker
  | workerMessage msg => exact Keeping.handleWorkerStatus
  | dispatch functionId mode => exact phase_handleDispatch
  | control msg => exact phase_handleControl
  | registerFunction functionId function =>
    exact .bind (.attempt phase_registerFunction) fun _ => .pure _
  | deregisterFunction functionId =>
    exact .bind (.attempt phase_deregisterFunction) fun _ => .pure _
  | quit | admissionClosed | snapmanMessage | shutdownTick => exact .pure _

end Phase

section Winding
variable {d : Defect → Prop} {i : Input} {m m' : Moment} {p q t : Pool}

/-- A worker is started, handed out or asked for something, or a request is taken. -/
def Effect.Starts : Effect → Prop
  | .spawned .. | .requested _ | .dispatchReply (.dispatch ..) => True
  | .sent _ (.prepareSandbox _) | .sent _ (.createSnapshot _) => True
  | _ => False

/-- The workers become fewer, none of them goes back to work, and nothing is started. -/
structure Winds (p t : Pool) : Prop where
  workers : ∀ w f, functionOf t w = some f → functionOf p w = some f
  idle : ∀ f w, At t .idle f w → At p .idle f w
  active : ∀ f w, At t .active f w → At p .active f w
  log : ∃ effects, t.log = p.log ++ effects ∧ ∀ effect ∈ effects, ¬effect.Starts

namespace Winds

theorem refl (p : Pool) : Winds p p :=
  ⟨fun _ _ live => live, fun _ _ idle => idle, fun _ _ active => active, [], by simp⟩

theorem trans (h : Winds p q) (h' : Winds q t) : Winds p t := by
  obtain ⟨effects, log, quiet⟩ := h.log
  obtain ⟨effects', log', quiet'⟩ := h'.log
  refine ⟨fun w f live => h.workers w f (h'.workers w f live),
    fun f w idle => h.idle f w (h'.idle f w idle),
    fun f w active => h.active f w (h'.active f w active), effects ++ effects', ?_, ?_⟩
  · rw [log', log, List.append_assoc]
  · intro effect mem
    rcases List.mem_append.mp mem with before | after
    · exact quiet effect before
    · exact quiet' effect after

end Winds

/-- While a worker's message is handled, no worker is spawned and nothing is started. -/
theorem winds_of_moves {msg : OutboundMessage} (on : i.event = .workerMessage msg)
    (moves : Moves d i m m') :
    (∀ w f, functionOf m'.pool w = some f → functionOf m.pool w = some f) ∧
      ∃ effects, m'.pool.log = m.pool.log ++ effects ∧ ∀ effect ∈ effects, ¬effect.Starts := by
  induction moves with
  | refl => exact ⟨fun _ _ live => live, [], by simp⟩
  | @tail u v _ move ih =>
    obtain ⟨workers, effects, log, quiet⟩ := ih
    have step {effect : Effect} (calm : ¬effect.Starts) :
        ∃ more, u.pool.log ++ [effect] = m.pool.log ++ more ∧ ∀ e ∈ more, ¬e.Starts := by
      refine ⟨effects ++ [effect], by rw [log, List.append_assoc], fun e mem => ?_⟩
      rcases List.mem_append.mp mem with before | last
      · exact quiet e before
      · rwa [List.mem_singleton.mp last]
    cases move with
    | event => exact ⟨workers, step (by simp [Effect.Starts])⟩
    | answer => exact ⟨workers, step (by simp [Effect.Starts])⟩
    | tell f w msg dying last =>
      rcases last with rfl | rfl <;> exact ⟨workers, step (by simp [Effect.Starts])⟩
    | deny f mode resp on' | handOut f w mode cpu cpuset on' | rollback f w mode dl fn cs on' =>
      simp [on] at on'
    | requested msg on' => simp [on] at on'
    | spawn f function sandbox accounting snapshots settled registered succeeds fresh takes unowned
        room charge quiet =>
      simp [on, Event.worker] at quiet
    | prepare f w cpu cpuset op rest starting free alloc delivered waits on' =>
      obtain ⟨f, options, respondTo, on'⟩ := on'
      simp [on] at on'
    | snapshot f w sandbox op rest active owner unmarked delivered waits on' =>
      obtain ⟨sandbox, respondTo, on'⟩ := on'
      simp [on] at on'
    | retire source f w handle function live member look =>
      refine ⟨fun w' f' live => workers w' f' ?_, effects, log, quiet⟩
      rw [functionOf_insert (p := u.pool) rfl] at live
      have same := functionOf_of_lookup look
      grind
    | announce w sandbox handle message look =>
      refine ⟨fun w' f' live => workers w' f' ?_, effects, log, quiet⟩
      rw [functionOf_insert (p := u.pool) rfl] at live
      have same := functionOf_of_lookup look
      grind
    | reap stage w handle =>
      refine ⟨fun w' f' live => workers w' f' ?_, step (by simp [Effect.Starts])⟩
      rw [functionOf_erase (p := u.pool) rfl] at live
      split at live
      · cases live
      · exact live
    | _ => exact ⟨workers, effects, log, quiet⟩

theorem active_of_moves {msg : OutboundMessage} {f : FunctionId} {w : WorkerId}
    (on : i.event = .workerMessage msg) (moves : Moves d i m m') (active : At m'.pool .active f w) :
    At m.pool .active f w := by
  induction moves with
  | refl => exact active
  | tail _ move ih =>
    refine ih ?_
    cases move with
    | handOut f' w' mode cpu cpuset on' | rollback f' w' mode deadline function cpuset on' =>
      simp [on] at on'
    | prepare f' w' cpu cpuset op rest starting free alloc delivered waits on' =>
      obtain ⟨f, options, respondTo, on'⟩ := on'
      simp [on] at on'
    | prepareFailed f' w' cpuset starting undelivered free on' =>
      obtain ⟨f, options, respondTo, on'⟩ := on'
      simp [on] at on'
    | wake f' w' idle on' =>
      obtain ⟨sandbox, respondTo, on'⟩ := on'
      simp [on] at on'
    | condemn | park | retire =>
      simp only [At, FunctionMetadataStore.mem_insert, FunctionMetadataStore.mem_erase] at active
      grind [At]
    | reap =>
      simp only [At, FunctionMetadataStore.mem_erase] at active
      exact active.2
    | _ => exact active

/-- The other events change nothing but the functions, and a dispatch is rejected. -/
theorem aside_of_shuttingDown (shut : p.phase = .shuttingDown)
    (noMessage : ∀ msg, i.event ≠ .workerMessage msg) :
    wp (turn i)
      { ok := fun r t => r = none → Winds p t, err := fun _ _ => True, panic := fun _ _ => True }
      p := by
  have logged {effects : List Effect} (calm : ∀ effect ∈ effects, ¬effect.Starts) :
      Winds p { p with log := p.log ++ effects } :=
    ⟨fun _ _ live => live, fun _ _ idle => idle, fun _ _ active => active, effects, rfl, calm⟩
  have stored (functions : Table FunctionId RegisteredFunction) :
      Winds p { p with store.functions := functions } :=
    ⟨fun _ _ live => live, fun _ _ idle => idle, fun _ _ active => active, [], by simp⟩
  simp only [turn, Handler.wp_bind, Handler.wp_get, shut, handleShuttingDown]
  cases on : i.event with
  | workerMessage msg => exact absurd on (noMessage msg)
  | dispatch f mode =>
    simp only [rejectDispatch, replyDispatch, record, Handler.wp_bind, Handler.wp_attempt,
      Handler.wp_ite, Handler.wp_modify, Handler.wp_throw, Handler.wp_pure, shuttingDownResponse]
    refine ⟨fun _ => ⟨by simp, fun _ _ => logged (by simp [Effect.Starts])⟩, fun _ => ?_⟩
    exact ⟨by simp, fun _ _ => .refl p⟩
  | shutdownTick =>
    simp only [Handler.wp_bind, Handler.wp_get, Handler.wp_ite, Handler.wp_pure]
    refine ⟨fun _ => Handler.wp_mono (wp_cleanupOrphans (Q := Post.all fun _ => True)
      (fun _ => trivial) fun _ _ _ => trivial) (fun _ _ _ => ?_) (fun _ _ _ => trivial)
        fun _ _ _ => trivial, fun _ => ?_⟩
    · simp
    · exact ⟨by simp, fun _ _ => .refl p⟩
  | registerFunction f function =>
    simp only [registerFunction, Handler.wp_bind, Handler.wp_attempt, Handler.wp_get,
      Handler.wp_pure, Handler.wp_ite]
    cases p.store.functions.lookup f with
    | none => exact ⟨by simp, fun _ _ => stored _⟩
    | some _ => exact ⟨by simp, fun _ _ => .refl p⟩
  | deregisterFunction f =>
    simp only [deregisterFunction, Handler.wp_bind, Handler.wp_attempt, Handler.wp_get,
      Handler.wp_pure, Handler.wp_ite]
    cases p.store.functions.lookup f with
    | none => exact ⟨by simp, fun _ _ => .refl p⟩
    | some _ =>
      rw [Handler.wp_ite]
      exact ⟨fun _ => ⟨by simp, fun _ _ => .refl p⟩, fun _ => ⟨by simp, fun _ _ => stored _⟩⟩
  | quit | keepaliveTimeout w | snapmanMessage | control msg | admissionClosed =>
    simp only [Handler.wp_pure, Handler.wp_ite]
    exact ⟨by simp, fun _ _ => .refl p⟩

/-- The step lemma of the shutdown. -/
theorem turn_winds (parts : Partition (.top p)) (own : NamesOwn i p)
    (shut : p.phase = .shuttingDown) (stays : turn i p = .ok none t) :
    Winds p t ∧ t.phase = .shuttingDown := by
  have spec := turn_spec (d := fun _ => True) (fun _ => trivial) own parts
  obtain ⟨released, failing, moves⟩ := Handler.ok_of_wp spec stays rfl
  refine ⟨?_, shuttingDown_of_moves (m := .top p) shut moves⟩
  by_cases message : ∃ msg, i.event = .workerMessage msg
  · obtain ⟨msg, on⟩ := message
    obtain ⟨workers, log⟩ := winds_of_moves on moves
    exact ⟨workers, fun f w idle => idle_of_shuttingDown parts own shut stays idle,
      fun f w active => active_of_moves on moves active, log⟩
  · exact Handler.ok_of_wp (aside_of_shuttingDown shut fun msg on => message ⟨msg, on⟩) stays rfl

end Winding

section Stop
variable {d : Defect → Prop} {i : Input} {p t : Pool}

/-- No worker is Idle or Active. -/
def Quiet (p : Pool) : Prop := ∀ f w, ¬At p .idle f w ∧ ¬At p .active f w

theorem Winds.quiet (h : Winds p t) (quiet : Quiet p) : Quiet t :=
  fun f w => ⟨fun idle => (quiet f w).1 (h.idle f w idle),
    fun active => (quiet f w).2 (h.active f w active)⟩

/-- A pool that stops serving has told all its workers to go. -/
theorem handleServing_stops {ε : Type} (parts : Partition (.top p)) (own : NamesOwn i p)
    (serving : p.phase = .serving) :
    wp (handleServing i : Handler Pool ε Unit)
      { ok := fun _ t => t.phase = .shuttingDown → Quiet t
        err := fun _ _ => True
        panic := fun _ _ => True } p := by
  have stops {m : Moment} (h : Partition m) : wp (ε := ε) (beginShutdown i)
      { ok := fun _ t => t.phase = .shuttingDown → Quiet t
        err := fun _ _ => True
        panic := fun _ _ => True } m.pool :=
    Handler.wp_mono (beginShutdown_spec (d := fun _ => True) h) (fun _ _ post _ => post.2)
      (fun _ _ absurd => absurd.elim) fun _ _ _ => trivial
  unfold handleServing
  cases on : i.event with
  | quit | admissionClosed => exact stops parts
  | _ =>
    rw [Handler.wp_bind, Handler.wp_attempt]
    have spec := Handler.wp_and (phase_serve.wp p)
      (serve_spec (d := fun _ => True) (.of_all fun _ => trivial) own parts on)
    refine Handler.wp_mono spec ?_ ?_ fun _ _ _ => trivial
    · intro _ t both shut
      have same : t.phase = p.phase := both.1
      rw [same, serving] at shut
      cases shut
    · rintro e t ⟨-, released, failing, moves⟩
      exact stops (parts.moves moves)

theorem turn_stops (parts : Partition (.top p)) (own : NamesOwn i p)
    (serving : p.phase = .serving) (stays : turn i p = .ok none t)
    (shut : t.phase = .shuttingDown) : Quiet t := by
  have spec : wp (turn i)
      { ok := fun _ t => t.phase = .shuttingDown → Quiet t
        err := fun _ _ => True
        panic := fun _ _ => True } p := by
    simp only [turn, Handler.wp_bind, Handler.wp_get, serving, Handler.wp_pure]
    exact handleServing_stops parts own serving
  exact Handler.ok_of_wp spec stays shut

end Stop

section Orphans
variable {ε : Type} {i : Input} {p q t : Pool} {f : FunctionId} {sb : SandboxId}

/-- How often a sandbox was destroyed at the end, or could not be for want of a runtime. -/
def disposed (effects : List Effect) (sb : SandboxId) : Nat :=
  effects.count (.orphanDestroyed sb) + effects.count (.orphanDropped sb)

/-- The effects of the clean-up at the end. -/
def Effect.Tidies : Effect → Prop
  | .orphanDestroyed _ | .orphanDropped _ | .wipeDbSnapshots | .syncDbSnapshots => True
  | _ => False

/-- So many sandboxes were each destroyed, dropped or trashed; the rest of the pool is as it was. -/
structure Disposes (p t : Pool) (many : SandboxId → Nat) : Prop where
  frame : t = { p with trashedSandboxes := t.trashedSandboxes, log := t.log }
  log : ∃ effects, t.log = p.log ++ effects ∧ (∀ effect ∈ effects, effect.Tidies) ∧ ∀ sb,
    countId sb t.trashedSandboxes + disposed effects sb = countId sb p.trashedSandboxes + many sb

theorem Disposes.none (p : Pool) : Disposes p p fun _ => 0 := ⟨rfl, [], by simp [disposed]⟩

theorem Disposes.then_ {many more : SandboxId → Nat} (h : Disposes p q many)
    (h' : Disposes q t more) : Disposes p t fun sb => many sb + more sb := by
  obtain ⟨effects, log, tidies, counts⟩ := h.log
  obtain ⟨effects', log', tidies', counts'⟩ := h'.log
  refine ⟨by rw [h'.frame, h.frame], effects ++ effects', ?_, ?_, fun sb => ?_⟩
  · rw [log', log, List.append_assoc]
  · exact List.forall_mem_append.mpr ⟨tidies, tidies'⟩
  · have first := counts sb
    have second := counts' sb
    simp only [disposed, List.count_append] at *
    omega

/-- So far in a loop over them. -/
def disposing (p : Pool) (all rest : SandboxId → Nat) (t : Pool) : Prop :=
  ∃ many, Disposes p t many ∧ ∀ sb, many sb + rest sb = all sb

/-- Its clean-up is given up only if a function is missing. -/
def disposes (p : Pool) (many : SandboxId → Nat) : Post Pool ε Unit where
  ok _ t := Disposes p t many
  err _ _ := False
  panic _ _ := True

theorem destroyOrphanSandbox_disposes {sandbox : Sandbox} :
    wp (ε := ε) (destroyOrphanSandbox i f sandbox)
      (disposes p fun sb => tally sb (some sandbox.id)) p := by
  simp only [destroyOrphanSandbox, registeredFunction, Handler.wp_bind, Handler.wp_get,
    Handler.wp_expect]
  refine ⟨fun _ _ => ?_, fun _ => trivial⟩
  have effect (e : Effect) (tidies : e.Tidies)
      (counts : ∀ sb, disposed [e] sb = tally sb (some sandbox.id)) :
      Disposes p { p with log := p.log ++ [e] } fun sb => tally sb (some sandbox.id) :=
    ⟨rfl, [e], rfl, by simpa using tidies, fun sb => by rw [counts]⟩
  cases i.destroyOrphan sandbox.id with
  | runtimeFailed =>
    exact effect _ trivial fun sb => by simp [disposed, tally, List.count_cons]
  | destroyed => exact effect _ trivial fun sb => by simp [disposed, tally, List.count_cons]
  | notDestroyed => exact ⟨rfl, [], by simp, by simp, fun sb => by simp [disposed]⟩

theorem destroyAll_disposes {sandboxes : List Sandbox} :
    wp (ε := ε) (sandboxes.forM (destroyOrphanSandbox i f))
      (disposes p fun sb => countId sb sandboxes) p := by
  refine Handler.wp_forM_rest
    (I := fun rest => disposing p (countId · sandboxes) (countId · rest)) ?_ ?_ ?_
  · exact ⟨_, .none p, fun sb => by simp⟩
  · rintro t ⟨many, disposes, counts⟩
    obtain rfl : many = fun sb => countId sb sandboxes := by
      funext sb
      simpa [countId] using counts sb
    exact disposes
  · rintro sandbox rest t - ⟨many, disposes, counts⟩
    refine Handler.wp_mono destroyOrphanSandbox_disposes ?_ (fun _ _ absurd => absurd.elim)
      fun _ _ _ => trivial
    intro _ u more
    refine ⟨_, disposes.then_ more, fun sb => ?_⟩
    have before := counts sb
    simp only [countId, List.map_cons, List.count_cons, tally, beq_iff_eq, Option.some.injEq] at *
    omega

theorem disposeAll {groups : List (FunctionId × List Sandbox)} :
    wp (ε := ε) (groups.forM fun e => e.2.forM (destroyOrphanSandbox i e.1))
      (disposes p fun sb => (groups.map fun e => countId sb e.2).sum) p := by
  refine Handler.wp_forM_rest (I := fun rest => disposing p
    (fun sb => (groups.map fun e => countId sb e.2).sum)
    fun sb => (rest.map fun e => countId sb e.2).sum) ?_ ?_ ?_
  · exact ⟨_, .none p, fun sb => by simp⟩
  · rintro t ⟨many, disposes, counts⟩
    obtain rfl : many = fun sb => (groups.map fun e => countId sb e.2).sum := by
      funext sb
      simpa using counts sb
    exact disposes
  · rintro group rest t - ⟨many, disposes, counts⟩
    refine Handler.wp_mono destroyAll_disposes ?_ (fun _ _ absurd => absurd.elim)
      fun _ _ _ => trivial
    intro _ u more
    refine ⟨_, disposes.then_ more, fun sb => ?_⟩
    have before := counts sb
    simp only [List.map_cons, List.sum_cons] at *
    omega

end Orphans

section Exit
variable {d : Defect → Prop} {i : Input} {m m' : Moment} {p t : Pool} {sb : SandboxId}

/-- What becomes of the pool's sandboxes when its loop ends. -/
structure Cleaned (p t : Pool) : Prop where
  retained : p.config.retainSnapshots = true → t = { p with log := p.log ++ [.syncDbSnapshots] }
  frame : t = { p with
    snapshots := t.snapshots, trashedSandboxes := t.trashedSandboxes, log := t.log }
  wiped : p.config.retainSnapshots = false → t.snapshots = ∅
  log : ∃ effects, t.log = p.log ++ effects ∧ (∀ effect ∈ effects, effect.Tidies) ∧ ∀ sb,
    listed t.snapshots sb + countId sb t.trashedSandboxes + disposed effects sb =
      listed p.snapshots sb + countId sb p.trashedSandboxes

theorem cleanupOrphans_cleans {ε : Type} :
    wp (ε := ε) (cleanupOrphans i)
      { ok := fun _ t => Cleaned p t, err := fun _ _ => True, panic := fun _ _ => True } p := by
  simp only [cleanupOrphans, record, Handler.wp_bind, Handler.wp_get, Handler.wp_ite,
    Handler.wp_modify]
  refine ⟨fun retained => ⟨fun _ => rfl, rfl, ?_, [_], rfl, ?_, ?_⟩, fun wiped => ?_⟩
  · simp [retained]
  · simp [Effect.Tidies]
  · simp [disposed]
  · refine Handler.wp_mono (disposeAll (p := { p with snapshots := ∅ })) ?_
      (fun _ _ absurd => absurd.elim) fun _ _ _ => trivial
    rintro - t ⟨frame, effects, log, tidies, counts⟩
    refine ⟨fun retained => absurd retained wiped, by rw [frame], fun _ => by rw [frame],
      effects ++ [.wipeDbSnapshots], by rw [log, List.append_assoc], ?_, fun sb => ?_⟩
    · exact List.forall_mem_append.mpr ⟨tidies, by simp [Effect.Tidies]⟩
    have sum :=
      Table.sum_ordered (fun _ sandboxes => countId sb sandboxes) i.functionRank p.snapshots
    have counts := counts sb
    have emptied : t.snapshots = ∅ := by rw [frame]
    simp only [emptied, listed, disposed, List.count_append, Table.total_empty] at *
    simp only [sum] at counts
    simp
    omega

/-- The loop ends when there is no worker left. -/
theorem turn_exits (exits : turn i p = .ok (some ()) t) :
    p.phase = .shuttingDown ∧ p.noWorkers ∧ Cleaned p t := by
  have spec : wp (turn i)
      { ok := fun r t => r = some () → p.phase = .shuttingDown ∧ p.noWorkers ∧ Cleaned p t
        err := fun _ _ => True
        panic := fun _ _ => True } p := by
    simp only [turn, Handler.wp_bind, Handler.wp_get]
    cases shut : p.phase with
    | serving =>
      simp only [Handler.wp_bind, Handler.wp_pure]
      exact Handler.wp_mono (Handler.wp_all_iff.mpr trivial : wp _ (Post.all fun _ => True) p)
        (fun _ _ _ => by simp) (fun _ _ _ => trivial) fun _ _ _ => trivial
    | shuttingDown =>
      have stays {α : Type} {x : Handler Pool Empty α} : wp (do let _ ← x; pure false)
          { ok := fun over_ t => over_ = true → p.noWorkers ∧ Cleaned p t
            err := fun _ _ => True
            panic := fun _ _ => True } p := by
        simp only [Handler.wp_bind, Handler.wp_pure]
        exact Handler.wp_mono (Handler.wp_all_iff.mpr trivial : wp _ (Post.all fun _ => True) p)
          (fun _ _ _ => by simp) (fun _ _ _ => trivial) fun _ _ _ => trivial
      simp only [Handler.wp_bind, Handler.wp_ite, Handler.wp_pure]
      suffices wp (handleShuttingDown i)
          { ok := fun over_ t => over_ = true → p.noWorkers ∧ Cleaned p t
            err := fun _ _ => True
            panic := fun _ _ => True } p from
        Handler.wp_mono this (fun _ _ post => ⟨fun over_ _ => ⟨trivial, post over_⟩, by simp⟩)
          (fun _ _ _ => trivial) fun _ _ _ => trivial
      unfold handleShuttingDown
      cases i.event with
      | dispatch f mode => exact stays
      | workerMessage msg => exact stays
      | shutdownTick =>
        simp only [Handler.wp_bind, Handler.wp_get, Handler.wp_ite, Handler.wp_pure]
        refine ⟨fun none => ?_, fun _ => by simp⟩
        exact Handler.wp_mono cleanupOrphans_cleans (fun _ _ cleaned _ => ⟨none, cleaned⟩)
          (fun _ _ _ => trivial) fun _ _ _ => trivial
      | registerFunction f function => exact stays
      | deregisterFunction f => exact stays
      | quit | keepaliveTimeout w | snapmanMessage | control msg | admissionClosed => exact by simp
  exact Handler.ok_of_wp spec exits rfl

theorem ended_of_tidies {effects : List Effect} (tidies : ∀ effect ∈ effects, effect.Tidies) :
    ended effects sb = 0 := by
  refine List.sum_eq_zero fun count mem => ?_
  obtain ⟨effect, logged, rfl⟩ := List.mem_map.mp mem
  have tidy := tidies effect logged
  cases effect <;> simp [Effect.Tidies, Effect.ends] at tidy ⊢

theorem undisposed_of_moves (moves : Moves d i m m') :
    disposed m'.pool.log sb = disposed m.pool.log sb := by
  induction moves with
  | refl => rfl
  | tail _ move ih =>
    rw [← ih]
    cases move <;> simp [Moment.note, disposed]

/-- What has become of a sandbox once its worker has gone. -/
def fates (t : Pool) (sb : SandboxId) : Nat :=
  listed t.snapshots sb + countId sb t.trashedSandboxes + ended t.log sb + disposed t.log sb

/-- A pool that is left: its workers are gone, and so is every sandbox, or it is kept in one
place. -/
structure Left (snapshots : Table FunctionId (List Sandbox)) (t : Pool) : Prop where
  workers : t.noWorkers ∧ ∀ w, t.workerHandles.lookup w = none
  once : ∀ sb, fates t sb ≤ 1
  kept : ∀ sb, listed snapshots sb ≤ fates t sb
  wiped : t.config.retainSnapshots = false → t.snapshots = ∅
  retained : t.config.retainSnapshots = true → ∀ sb, disposed t.log sb = 0

theorem handles_of_noWorkers (parts : Partition (.top p)) (idle : p.noWorkers) (w : WorkerId) :
    p.workerHandles.lookup w = none := by
  cases look : p.workerHandles.lookup w with
  | none => rfl
  | some handle =>
    obtain ⟨stage, member⟩ := parts.staged w _ (functionOf_of_lookup look) (by simp [Moment.top])
    change _ ∈ p.store.workers stage at member
    simp [idle stage] at member

theorem Cleaned.left (cleaned : Cleaned p t) (parts : Partition (.top p)) (idle : p.noWorkers)
    (calm : ∀ sb, disposed p.log sb = 0) (placed : Placed p)
    {snapshots : Table FunctionId (List Sandbox)} (kept : ∀ sb, listed snapshots sb ≤ places p sb) :
    Left snapshots t := by
  obtain ⟨effects, log, tidies, counts⟩ := cleaned.log
  have gone := handles_of_noWorkers parts idle
  have same (sb : SandboxId) : fates t sb = places p sb := by
    have owned : owners p.workerHandles sb = 0 := Table.total_of_lookup_none gone
    have counts := counts sb
    have calm := calm sb
    have none_ends : ended effects sb = 0 := ended_of_tidies tidies
    simp only [fates, places, log, disposed, ended_append, List.count_append] at *
    omega
  have handles : t.workerHandles = p.workerHandles := by rw [cleaned.frame]
  have config : t.config = p.config := by rw [cleaned.frame]
  have store : t.store = p.store := by rw [cleaned.frame]
  refine ⟨⟨fun stage => ?_, fun w => by rw [handles, gone]⟩, fun sb => ?_, fun sb => ?_, ?_, ?_⟩
  · rw [store, idle]
  · rw [same]
    exact placed.unique sb
  · rw [same]
    exact kept sb
  · rw [config]
    exact cleaned.wiped
  · intro retain sb
    rw [config] at retain
    rw [cleaned.retained retain]
    simpa [disposed] using calm sb

end Exit

section Run
variable (config : SandboxPoolConfig) (cpus : List Cpu) (memory : MemoryStats)
  (functions : Table FunctionId RegisteredFunction) (snapshots : Table FunctionId (List Sandbox))

theorem reached_partition {inputs : List Input} {p t : Pool} (init : Partition (.top p))
    (honest : Honest inputs p) (ran : iterate turn inputs p = .running t) : Partition (.top t) :=
  honest.reaches (I := fun p => Partition (.top p)) (fun _ _ _ => partition_turn) init ran

theorem stopped_turn {i : Input} {p t : Pool} (stopped : p.phase = .shuttingDown → Quiet p)
    (parts : Partition (.top p)) (own : NamesOwn i p) (stays : turn i p = .ok none t)
    (shut : t.phase = .shuttingDown) : Quiet t := by
  cases phase : p.phase with
  | serving => exact turn_stops parts own phase stays shut
  | shuttingDown => exact (turn_winds parts own phase stays).1.quiet (stopped phase)

/-- Once a run has come to a pool that shuts down, it only winds down: the pool stays in that phase,
all its workers are Dying, none is added, and nothing is started any more. -/
theorem shutdown_winds (front rest : List Input)
    (honest : Honest (front ++ rest) (spawn config cpus memory functions snapshots)) {p t : Pool}
    (came : run front (spawn config cpus memory functions snapshots) = .running p)
    (shut : p.phase = .shuttingDown) (ran : run rest p = .running t) :
    t.phase = .shuttingDown ∧ Quiet t ∧ Winds p t := by
  have all := run_partition partition_spawn honest
  have quiet : Quiet p := by
    refine (all.of_front (List.prefix_append front rest)).reaches
      (I := fun p => p.phase = .shuttingDown → Quiet p) ?_ (by simp [spawn]) came shut
    rintro s i t stopped ⟨parts, own⟩ stays
    exact stopped_turn stopped parts own stays
  refine (all.rest came).reaches (I := fun t => t.phase = .shuttingDown ∧ Quiet t ∧ Winds p t) ?_
    ⟨shut, quiet, .refl p⟩ ran
  rintro s i t ⟨shut, quiet, winds⟩ ⟨parts, own⟩ stays
  obtain ⟨more, shut⟩ := turn_winds parts own shut stays
  exact ⟨shut, more.quiet quiet, winds.trans more⟩

/-- A run that ends leaves no worker, and no sandbox in two places; none that was listed at the
start is lost. -/
theorem exit_settles {snapshots : Table FunctionId (List Sandbox)}
    (distinct : ∀ sb, listed snapshots sb ≤ 1) (inputs : List Input)
    (promised : AllTurns turn (fun p i => NamesOwn i p ∧ Announces i p ∧ Affords i p) inputs
      (spawn config cpus memory functions snapshots)) {t : Pool}
    (exits : run inputs (spawn config cpus memory functions snapshots) = .exited () t)
    (returns : Returns t.log) : Left snapshots t := by
  obtain ⟨taken, i, p, before, came, left⟩ := iterate_exited exits
  have promised := promised.of_front ((List.prefix_append taken [i]).trans before)
  have honest : Honest taken _ := promised.mono fun _ _ meets => meets.1
  obtain ⟨-, idle, cleaned⟩ := turn_exits left
  obtain ⟨effects, log, -⟩ := cleaned.log
  have returns : Returns p.log := fun effect mem => returns effect (by simp [log, mem])
  have calm : ∀ sb, disposed p.log sb = 0 := by
    refine (run_partition partition_spawn honest).reaches
      (I := fun p => ∀ sb, disposed p.log sb = 0) ?_ (by simp [spawn, disposed]) came
    rintro s i t calm ⟨parts, own⟩ stays sb
    have spec := turn_spec (d := fun _ => True) (fun _ => trivial) own parts
    obtain ⟨released, failing, moves⟩ := Handler.ok_of_wp spec stays rfl
    exact (undisposed_of_moves moves).trans (calm sb)
  have init := placed_spawn config cpus memory functions distinct
  have placed := init.reached partition_spawn
    (promised.mono fun _ _ meets => ⟨meets.1, meets.2.1⟩) came returns
  refine cleaned.left (reached_partition partition_spawn honest came) idle calm placed fun sb => ?_
  exact (listed_le_places config cpus memory functions).trans
    (init.kept partition_spawn promised came returns sb)

end Run

/-- The pool is told to quit. -/
def quitted : List Input := restored ++ [Event.quit.smooth 12]

/-- The worker that it still has could not end its sandbox. -/
def trashing : Input :=
  { (Event.workerMessage (.reapMe 10 7)).smooth 12 with
    exit := fun _ =>
      some { result := .error (.shutdownSandbox "killed"), sandbox := .trashed (snapshotOf 3) } }

theorem shutdown_winds_quitted : Winds (run quitted stocked).state
    (run [trashing] (run quitted stocked).state).state := by
  refine (shutdown_winds single.config [0] single.memory single.store.functions
    snapshotted quitted [trashing] (by decide +kernel) ?_ (by decide +kernel) ?_).2.2
  all_goals with_unfolding_all rfl

theorem exit_settles_quitted : Left snapshotted
    (run (quitted ++ [trashing, Event.shutdownTick.smooth 12]) stocked).state := by
  refine exit_settles single.config [0] single.memory single.store.functions distinct_snapshotted
    (quitted ++ [trashing, Event.shutdownTick.smooth 12]) (by decide +kernel) ?_ (by decide +kernel)
  with_unfolding_all rfl

/-- The one sandbox is trashed, the other one has been destroyed. -/
example :
    let t := (run (quitted ++ [trashing, Event.shutdownTick.smooth 12]) stocked).state
    (t.trashedSandboxes.map Sandbox.id, disposed t.log 9) = ([3], 1) := by
  decide +kernel

end Pool
end Snaplace
