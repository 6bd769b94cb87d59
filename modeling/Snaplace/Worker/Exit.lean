import Snaplace.Worker.Turn

/-!
# How a worker exits

The exit values of a worker, what becomes of the sandboxes it was given or created, and the
completeness of its error handling, each over whole runs.
-/
namespace Snaplace
open Foundation Foundation.Handler

namespace Worker
variable {a : Answers} {w t : Worker}

/-- The exit values a worker hands to the pool, for a worker spawned with `spawned`. -/
inductive ExitTable (spawned : Option Sandbox) (log : List Action) : WorkerExit → Prop where
  | reusable (sb : Sandbox) (has : sb.hasSnapshot) :
      ExitTable spawned log { result := .ok (), sandbox := .reusable sb }
  | none : ExitTable spawned log { result := .ok (), sandbox := .none }
  | trashed (err : Error) (sb : Sandbox) :
      ExitTable spawned log { result := .error err, sandbox := .trashed sb }
  | networkLost (err : Error) (lost : NetworkLost log) :
      ExitTable spawned log { result := .error err, sandbox := .none }
  | initReusable (source : SourceError) (sb : Sandbox) (untouched : spawned = some sb) :
      ExitTable spawned log
        { result := .error (.init "runtime initialization" source), sandbox := .reusable sb }
  | initNone (source : SourceError) (fresh : spawned = Option.none) :
      ExitTable spawned log
        { result := .error (.init "runtime initialization" source), sandbox := .none }

/-- The sandbox an exit value carries, as a list. -/
def WorkerExit.owned (exit : WorkerExit) : List SandboxId :=
  (exit.sandbox.toOption.map Sandbox.id).toList

theorem WorkerExit.owned_ofState (result : Except Error Unit) (state : SandboxState) :
    WorkerExit.owned { result, sandbox := .ofState state } = state.owned := by
  simp [owned, SandboxState.owned, SandboxState.id]

/-- What leaving the loop hands over: one `ReapMe`, and every sandbox that is not `held`. -/
structure HandsOver (w t : Worker) (exit : WorkerExit) (loses : Prop) : Prop where
  reapMes : reapMes t.log = reapMes w.log ++ [w.id]
  balance : ∃ held : List SandboxId, (held = [] ↔ ¬loses) ∧ ∀ sb,
    (created t.log).count sb + (destroyed w.log).count sb + w.sandboxState.owned.count sb =
      (created w.log).count sb + (destroyed t.log).count sb + exit.owned.count sb + held.count sb

def turnPost (honest : Prop) (w : Worker) (input : Recv × Answers) :
    Post Worker Empty (Option WorkerExit) where
  ok r t := match r with
    | none => BackAtTop w t ∧ ¬LosesSandboxAt w input
    | some exit => HandsOver w t exit (LosesSandboxAt w input) ∧
        (honest → ∀ spawned, ExitTable spawned t.log exit)
  err _ _ := False
  panic msg _ := msg = newSandboxPanic ∨ msg = unmatchedErrorPanic ∨
    msg = uncachePanic ∧ (honest → input.1.Closed)

theorem NetworkLost.append {l : List Action} (h : NetworkLost l) (m : List Action) :
    NetworkLost (l ++ m) := by
  obtain ⟨sb, net, gone, refused⟩ := h
  exact ⟨sb, net, by simp [gone], by simp [refused]⟩

theorem HandsOver.of_kept {held : List SandboxId} {loses : Prop} {result : Except Error Unit}
    (kept : Kept held w t) (lost : held = [] ↔ ¬loses) :
    HandsOver w ((t.emit (.toPool (.reapMe t.id t.functionId))).setState .nonexistent)
      { result, sandbox := .ofState t.sandboxState } loses where
  reapMes := by
    rw [setState_log, emit_log, reapMes_append, kept.reapMes, ← kept.id]
    rfl
  balance := ⟨held, lost, fun sb => by
    rw [WorkerExit.owned_ofState]
    simpa [created, destroyed] using kept.balance sb⟩

theorem leave_spec {honest loses : Prop} {recv : Recv} {status : Except Error Unit}
    {held : List SandboxId} (left : LeftLoop honest recv w t status) (kept : Kept held w t)
    (lost : held = [] ↔ ¬loses) :
    wp (leave a status)
      { ok := fun exit u => HandsOver w u exit loses ∧
          (honest → ∀ spawned, ExitTable spawned u.log exit)
        err := fun (_ : Empty) _ => False
        panic := fun msg _ => msg = uncachePanic ∧ (honest → recv.Closed) } t := by
  have handed : ∀ result, HandsOver w _ { result, sandbox := .ofState t.sandboxState } loses :=
    fun result => HandsOver.of_kept kept lost
  simp only [leave, sendReapMe, retrySendToPool, wp_bind, wp_get, record, wp_modify, takeExit]
  cases status with
  | error err =>
    refine ⟨handed _, fun _ spawned => ?_⟩
    obtain ⟨sb, state⟩ | ⟨state, net⟩ := left
    · simpa [state, SandboxExit.ofState] using ExitTable.trashed err sb
    · simpa [state, SandboxExit.ofState] using ExitTable.networkLost err (net.append _)
  | ok _ =>
    -- Uncaching panics only on what an open channel and an honest runtime never leave.
    have closed : t.sandboxState ≠ .nonexistent →
        (∀ sb, t.sandboxState = .snapshot sb → ¬sb.hasSnapshot) → honest → recv.Closed := by
      intro some hasNot p
      obtain empty | ⟨sb, state, has⟩ | ⟨closed, -⟩ := left
      · exact absurd empty some
      · exact absurd (has p) (hasNot sb state)
      · exact closed
    simp only [uncacheSandbox, wp_bind, wp_get, emit_sandboxState]
    cases state : t.sandboxState with
    | nonexistent =>
      exact ⟨handed _, fun _ spawned => by simpa [state, SandboxExit.ofState] using ExitTable.none⟩
    | snapshot sb =>
      simp only [wp_ite]
      refine ⟨fun has => ⟨handed _, fun _ spawned => ?_⟩, fun hasNot => ⟨rfl, closed ?_ ?_⟩⟩
      · simpa [state, SandboxExit.ofState] using ExitTable.reusable sb has
      · simp [state]
      · intro sb' same
        simp_all
    | paused sb | running sb | trashed sb => exact ⟨rfl, closed (by simp [state]) (by simp [state])⟩

section Turn
variable {honest : Prop} (keeps : honest → a.KeepsSnapshots)
  (flag : honest → ∀ sb, w.sandboxState = .snapshot sb → sb.hasSnapshot)
include keeps flag

/-- The step lemma of the main loop. -/
theorem turn_spec {recv : Recv} (h : w.sandboxState.Settled) :
    wp (turn (recv, a)) (turnPost honest w (recv, a)) w := by
  simp only [turn, wp_bind, wp_get, wp_require]
  refine ⟨fun _ => ?_, fun unsettled => absurd h unsettled⟩
  refine wp_mono (handle_spec keeps flag h) ?_ (fun _ _ never => never.elim) ?_
  · rintro (_ | status) t post
    · exact post
    · obtain ⟨left, held, kept, lost⟩ := post
      simp only [wp_map]
      exact wp_mono (leave_spec left kept lost) (fun _ _ out => out) (fun never => never.elim)
        (fun _ _ known => .inr (.inr known))
  · exact fun msg _ known => known.imp_right .inl

end Turn

theorem turn_spec_any (input : Recv × Answers) (h : w.sandboxState.Settled) :
    wp (turn input) (turnPost False w input) w :=
  turn_spec nofun nofun h

/-- A condition on every turn taken by a worker whose runtime initialized. -/
def TurnsMeet (C : Worker → Recv × Answers → Prop) (init : Except SourceError Unit)
    (inputs : List (Recv × Answers)) (w : Worker) : Prop :=
  match init with
  | .ok _ => AllTurns turn C inputs w
  | .error _ => True

/-- Every sandbox created since `w`, and the one `w` owns, was destroyed or left with the exit. -/
def Conserved (w t : Worker) (exit : WorkerExit) : Prop :=
  ∀ sb, (created t.log).count sb + (destroyed w.log).count sb + w.sandboxState.owned.count sb =
    (created w.log).count sb + (destroyed t.log).count sb + exit.owned.count sb

theorem HandsOver.conserved_iff {exit : WorkerExit} {loses : Prop} (h : HandsOver w t exit loses) :
    Conserved w t exit ↔ ¬loses := by
  obtain ⟨held, lost, balance⟩ := h.balance
  rw [← lost]
  constructor
  · intro conserved
    refine List.eq_nil_iff_forall_not_mem.mpr fun sb mem => ?_
    have := List.count_pos_iff.mpr mem
    have := balance sb
    have := conserved sb
    omega
  · rintro rfl sb
    simpa using balance sb

theorem Kept.conserved_iff {u : Worker} {exit : WorkerExit} (h : Kept [] w t) :
    Conserved w u exit ↔ Conserved t u exit := by
  refine forall_congr' fun sb => ?_
  have := h.balance sb
  simp only [List.count_nil] at this
  omega

/-- A run that ends conserves sandboxes exactly if none of its turns lost one. -/
theorem iterate_conserved_iff {inputs : List (Recv × Answers)} {exit : WorkerExit}
    (h : w.sandboxState.Settled) (run : iterate turn inputs w = .exited exit t) :
    Conserved w t exit ↔ AllTurns turn (fun w input => ¬LosesSandboxAt w input) inputs w := by
  induction inputs generalizing w with
  | nil => cases run
  | cons input rest ih =>
    have step := turn_spec_any input h
    unfold wp at step
    unfold iterate at run
    cases one : turn input w with
    | ok ended u =>
      cases ended with
      | none =>
        rw [one] at step run
        obtain ⟨⟨kept, settled, -⟩, fine⟩ := step
        rw [AllTurns.cons_stay one, kept.conserved_iff, ih settled run]
        simp [fine]
      | some e =>
        rw [one] at step run
        cases run
        rw [AllTurns.cons_leave (by simp [one]), step.1.conserved_iff]
    | err never u => exact never.elim
    | panic msg u => rw [one] at run; cases run

/-- Leaving because the runtime did not initialize: the snapshot goes back untouched. -/
theorem run_init_failed {source : SourceError} {inputs : List (Recv × Answers)} :
    run (.error source) inputs w =
      .exited { result := .error (.init "runtime initialization" source),
                sandbox := .ofState w.sandboxState }
        ((w.emit (.toPool (.reapMe w.id w.functionId))).setState .nonexistent) := rfl

section Spawn
variable (id : WorkerId) (functionId : FunctionId) (mode : SnapshotCreationTime)
  (timeout : Duration) (sandbox : Option Sandbox) (init : Except SourceError Unit)
  (inputs : List (Recv × Answers))

theorem spawn_settled : (spawn id functionId mode timeout sandbox).sandboxState.Settled := by
  cases sandbox <;> simp [spawn, SandboxState.ofOption, SandboxState.Settled]

theorem conserved_spawn_iff {exit : WorkerExit} :
    Conserved (spawn id functionId mode timeout sandbox) t exit ↔
      (sandbox.toList.map Sandbox.id ++ created t.log).Perm (destroyed t.log ++ exit.owned) := by
  have owned : (spawn id functionId mode timeout sandbox).sandboxState.owned =
      sandbox.toList.map Sandbox.id := by
    cases sandbox <;> rfl
  rw [List.perm_iff_count]
  refine forall_congr' fun sb => ?_
  simp only [owned, List.count_append]
  simp only [spawn, created, destroyed, List.filterMap_nil, List.count_nil]
  omega

/-- Every sandbox created for a worker or given to it is, when it has exited, destroyed or in its
exit value, exactly when no turn failed to set up the cpuset of a sandbox it had just created. A run
that ends in a panic has no exit value and is outside of this. -/
theorem sandboxes_conserved_iff {exit : WorkerExit}
    (exited : run init inputs (spawn id functionId mode timeout sandbox) = .exited exit t) :
    (sandbox.toList.map Sandbox.id ++ created t.log).Perm (destroyed t.log ++ exit.owned) ↔
      TurnsMeet (fun w input => ¬LosesSandboxAt w input) init inputs
        (spawn id functionId mode timeout sandbox) := by
  rw [← conserved_spawn_iff id functionId mode timeout sandbox]
  match init with
  | .ok _ => exact iterate_conserved_iff (spawn_settled ..) exited
  | .error source =>
    rw [run_init_failed] at exited
    cases exited
    refine iff_of_true (fun sb => ?_) trivial
    rw [WorkerExit.owned_ofState]
    simp [spawn, created, destroyed]

end Spawn

/-- Answers for a turn in which nothing fails: sandbox 7 is created on network resource 1. -/
def Answers.calm : Answers where
  allocate := .granted 1
  createSandbox _ _ := .ok { id := 7, hasSnapshot := false, stats := ⟨0, 0⟩ }
  setupCpuset _ := { result := .ok (), hasSnapshot := fun b => b }
  loadSandbox := { result := .ok (), hasSnapshot := fun b => b }
  resumeToPrepare := { result := .ok (), hasSnapshot := fun b => b }
  pauseBeforeSnapshot := { result := .ok (), hasSnapshot := fun b => b }
  resumeAfterSnapshot := { result := .ok (), hasSnapshot := fun b => b }
  pauseAfterInvocation := { result := .ok (), hasSnapshot := fun b => b }
  pauseAfterPreparation := { result := .ok (), hasSnapshot := fun b => b }
  pauseAgain := { result := .ok (), hasSnapshot := fun b => b }
  pauseForCleanup := { result := .ok (), hasSnapshot := fun b => b }
  queryPaths := .ok (some { state := "s", memory := "m" })
  createSnapshot _ := { result := .ok (), hasSnapshot := fun _ => true }
  snapshotState sandbox := some (.ok sandbox.id)
  notifyNewSnapshot := .ok ()
  spawnMonitor := .ok ()
  issueRequest := .ok ⟨0, 0, .ok, none, ""⟩
  errorResponse := .ok
  sink _ := .sent
  shutdownSandbox := { result := .ok (), hasSnapshot := fun b => b }
  destroySandbox := .ok 1
  notifySnapshotRemoval := .ok ()
  deallocate _ := .ok ()
  uncacheSandbox := .ok ()

/-- An invocation, then the shutdown of the snapshotted sandbox. -/
def calmInputs : List (Recv × Answers) :=
  [(.invocation ⟨⟨0, 0, none⟩, 0⟩, .calm), (.control .shutDown, .calm)]

theorem sandboxes_conserved_calm :
    ∃ t exit, run (.ok ()) calmInputs (spawn 0 0 .onCreationAfterInvoc 0 none) = .exited exit t ∧
      ((Option.none.toList.map Sandbox.id ++ created t.log).Perm (destroyed t.log ++ exit.owned) ↔
        TurnsMeet (fun w input => ¬LosesSandboxAt w input) (.ok ()) calmInputs
          (spawn 0 0 .onCreationAfterInvoc 0 none)) :=
  ⟨_, _, rfl, sandboxes_conserved_iff 0 0 .onCreationAfterInvoc 0 none (.ok ()) calmInputs rfl⟩

/-- The runtime creates a sandbox and fails to set its cpuset up; the worker exits with none. -/
def cpusetFails : Answers :=
  { Answers.calm with setupCpuset := fun _ => { result := .error "EINVAL", hasSnapshot := fun b => b } }

theorem sandbox_lost_when_cpuset_fails :
    ∃ exit t, run (.ok ()) [(.invocation ⟨⟨0, 0, none⟩, 0⟩, cpusetFails)]
        (spawn 0 0 .onCreationAfterInvoc 0 none) = .exited exit t ∧ exit.sandbox = .none ∧
      ¬(Option.none.toList.map Sandbox.id ++ created t.log).Perm (destroyed t.log ++ exit.owned) :=
  ⟨_, _, rfl, rfl, by decide⟩

/-- The request a message makes whose error goes to `tryHandleFailure`. -/
def requestOf (a : Answers) : Recv → Option (WorkerM Unit)
  | .invocation invoc => some (handleRequest a invoc)
  | .control (.prepareSandbox cpuset) => some (handlePrepareSandboxRequest a cpuset)
  | _ => none

/-- Whatever error the request ends in, `tryHandleFailure` accepts it without a panic. -/
def FailureHandledAt (w : Worker) (input : Recv × Answers) : Prop :=
  ∀ request, requestOf input.2 input.1 = some request → ∀ err t, request w = .err err t →
    ∀ msg u, tryHandleFailure input.2 err t ≠ .panic msg u

theorem Error.ExpectsUnless.handled_iff {err : Error} {fails : Prop}
    (h : err.ExpectsUnless t.sandboxState fails) :
    (∀ msg u, tryHandleFailure a err t ≠ .panic msg u) ↔ ¬fails := by
  obtain ⟨fine, expected⟩ | ⟨fails, source, rfl⟩ := h
  · refine iff_of_true (fun msg u panicked => ?_) fine
    have spec : wp (tryHandleFailure a err) (retirePost False t) t :=
      tryHandleFailure_spec expected nofun nofun
    rw [wp, panicked] at spec
    exact spec
  · refine iff_of_false (fun handled => ?_) (not_not.mpr fails)
    have stuck : wp (tryHandleFailure a (.resumeSandbox source)) Post.panics t :=
      tryHandleFailure_panics not_false
    obtain ⟨msg, u, panicked⟩ := (wp_panics_iff _ _).mp stuck
    exact handled msg u panicked

theorem requestPost.handled_iff {request : WorkerM Unit} {fails loses : Prop}
    (h : wp request (requestPost a w fails loses) w) :
    (∀ err t, request w = .err err t → ∀ msg u, tryHandleFailure a err t ≠ .panic msg u) ↔
      ¬fails := by
  unfold wp at h
  match ended : request w with
  | .ok _ t =>
    rw [ended] at h
    exact iff_of_true nofun h.2.2.1
  | .panic msg t =>
    rw [ended] at h
    exact iff_of_true nofun h.2.1
  | .err err t =>
    rw [ended] at h
    rw [← h.2.1.handled_iff (a := a)]
    refine ⟨fun all => all err t rfl, ?_⟩
    rintro all _ _ ⟨rfl, rfl⟩
    exact all

theorem failureHandledAt_iff {input : Recv × Answers} (h : w.sandboxState.Settled) :
    FailureHandledAt w input ↔ ¬ResumeFailsAt w input := by
  obtain ⟨recv, a⟩ := input
  match recv with
  | .invocation invoc =>
    have spec : wp (handleRequest a invoc) (requestPost a w _ _) w := handleRequest_spec h
    have := requestPost.handled_iff spec
    simpa [FailureHandledAt, requestOf, ResumeFailsAt] using this
  | .control (.prepareSandbox cpuset) =>
    have spec : wp (handlePrepareSandboxRequest a cpuset) (requestPost a w _ _) w :=
      handlePrepareSandboxRequest_spec h
    have := requestPost.handled_iff spec
    simpa [FailureHandledAt, requestOf, ResumeFailsAt] using this
  | .control .shutDown | .control .destroySandbox | .control (.createSnapshot _)
  | .invocationsClosed | .controlClosed =>
    simp [FailureHandledAt, requestOf, ResumeFailsAt]

/-- Every turn that stays in the loop leads back to a settled state. -/
theorem turn_settled {input : Recv × Answers} (h : w.sandboxState.Settled)
    (stay : turn input w = .ok none t) : BackAtTop w t := by
  have step := turn_spec_any input h
  rw [wp, stay] at step
  exact step.1

theorem allTurns_settled {C : Worker → Recv × Answers → Prop} {inputs : List (Recv × Answers)}
    (h : w.sandboxState.Settled) (all : AllTurns turn C inputs w) :
    AllTurns turn (fun w input => w.sandboxState.Settled ∧ C w input) inputs w :=
  AllTurns.strengthen (fun _ _ _ settled _ stay => (turn_settled settled stay).2.1) h all

theorem iterate_reapMes {inputs : List (Recv × Answers)} {exit : WorkerExit}
    (h : w.sandboxState.Settled) (exited : iterate turn inputs w = .exited exit t) :
    reapMes t.log = reapMes w.log ++ [w.id] := by
  have all : AllTurns turn (fun _ _ => True) inputs w :=
    AllTurns.of_forall_mem (fun _ _ _ => trivial) w
  have result := iterate_invariant (I := fun u => Kept [] w u ∧ u.sandboxState.Settled)
    (E := fun _ u => reapMes u.log = reapMes w.log ++ [w.id]) (P := fun _ _ => True)
    ?_ ⟨Kept.refl w, h⟩ all
  · rwa [exited] at result
  · rintro u input ⟨kept, settled⟩ -
    refine wp_mono (turn_spec_any input settled) ?_ nofun (fun _ _ _ => trivial)
    rintro (_ | exit) v post
    · exact ⟨kept.trans post.1.1, post.1.2.1⟩
    · exact post.1.reapMes.trans (by rw [kept.reapMes, kept.id])

section Spawn
variable (id : WorkerId) (functionId : FunctionId) (mode : SnapshotCreationTime)
  (timeout : Duration) (sandbox : Option Sandbox) (init : Except SourceError Unit)
  (inputs : List (Recv × Answers))

/-- Every error of a request is accepted by `tryHandleFailure`, and a worker that leaves its loop
sends exactly one `ReapMe`, exactly when no turn fails to resume a sandbox that was paused for a
snapshot before its first invocation. -/
theorem failures_handled_iff :
    (TurnsMeet FailureHandledAt init inputs (spawn id functionId mode timeout sandbox) ∧
      ∀ exit t, run init inputs (spawn id functionId mode timeout sandbox) = .exited exit t →
        reapMes t.log = [id]) ↔
      TurnsMeet (fun w input => ¬ResumeFailsAt w input) init inputs
        (spawn id functionId mode timeout sandbox) := by
  have settled := spawn_settled id functionId mode timeout sandbox
  match init with
  | .error source =>
    refine iff_of_true ⟨trivial, fun exit t exited => ?_⟩ trivial
    rw [run_init_failed] at exited
    cases exited
    rfl
  | .ok _ =>
    refine ⟨fun ⟨handled, _⟩ => ?_, fun fine => ⟨?_, fun exit t exited => ?_⟩⟩
    · exact (allTurns_settled settled handled).mono
        fun w input ⟨settled, handled⟩ => (failureHandledAt_iff settled).mp handled
    · exact (allTurns_settled settled fine).mono
        fun w input ⟨settled, fine⟩ => (failureHandledAt_iff settled).mpr fine
    · simpa [spawn, reapMes] using iterate_reapMes settled exited

end Spawn

/-- A sandbox paused for a snapshot before its first invocation cannot be resumed. -/
def resumeFails : Answers :=
  { Answers.calm with
    resumeAfterSnapshot := { result := .error "EIO", hasSnapshot := fun b => b } }

theorem resume_failure_panics :
    ∃ t, run (.ok ()) [(.invocation ⟨⟨0, 0, none⟩, 0⟩, resumeFails)]
        (spawn 0 0 .onCreationBeforeInvoc 0 none) = .panicked unmatchedErrorPanic t ∧
      reapMes t.log = [] :=
  ⟨_, rfl, rfl⟩

/-- A loop top at which a snapshot, if held, can be restored. -/
def RestorableTop (w : Worker) : Prop :=
  w.sandboxState.Settled ∧ ∀ sb, w.sandboxState = .snapshot sb → sb.hasSnapshot

/-- The exit table of a worker spawned with a restorable snapshot or with none, whose channels stay
open and whose runtime leaves snapshots alone: the loop is only entered in a settled state, the
exit value is one of the table, and neither the loop's assertion nor `uncacheSandbox` panics. -/
theorem exit_table (id : WorkerId) (functionId : FunctionId) (mode : SnapshotCreationTime)
    (timeout : Duration) (sandbox : Option Sandbox) (init : Except SourceError Unit)
    (inputs : List (Recv × Answers)) (restorable : ∀ sb, sandbox = some sb → sb.hasSnapshot)
    (honest : ∀ input ∈ inputs, input.2.KeepsSnapshots)
    (isOpen : ∀ input ∈ inputs, ¬input.1.Closed) :
    TurnsMeet (fun w _ => w.sandboxState.Settled) init inputs
        (spawn id functionId mode timeout sandbox) ∧
      match run init inputs (spawn id functionId mode timeout sandbox) with
      | .running w => w.sandboxState.Settled
      | .exited exit w => ExitTable sandbox w.log exit
      | .panicked msg _ => msg ≠ mainLoopPanic ∧ msg ≠ uncachePanic := by
  have top : RestorableTop (spawn id functionId mode timeout sandbox) := by
    refine ⟨spawn_settled .., ?_⟩
    cases sandbox <;> simp_all [spawn, SandboxState.ofOption]
  match init with
  | .error source =>
    refine ⟨trivial, ?_⟩
    rw [run_init_failed]
    match sandbox with
    | none => exact .initNone source rfl
    | some sb => exact .initReusable source sb rfl
  | .ok _ =>
    have inputsOk : AllTurns turn (fun _ input => input.2.KeepsSnapshots ∧ ¬input.1.Closed) inputs
        (spawn id functionId mode timeout sandbox) :=
      AllTurns.of_forall_mem (fun input mem _ => ⟨honest input mem, isOpen input mem⟩) _
    refine ⟨(allTurns_settled top.1 inputsOk).mono fun _ _ all => all.1, ?_⟩
    have result := iterate_invariant (I := RestorableTop)
      (E := fun exit u => ExitTable sandbox u.log exit)
      (P := fun msg _ => msg = newSandboxPanic ∨ msg = unmatchedErrorPanic) ?_ top inputsOk
    · simp only [run]
      match iterate turn inputs (spawn id functionId mode timeout sandbox), result with
      | .running u, top => exact top.1
      | .exited exit u, table => exact table
      | .panicked msg u, known =>
        rcases known with rfl | rfl <;>
          simp [newSandboxPanic, unmatchedErrorPanic, mainLoopPanic, uncachePanic]
    · rintro u input ⟨settled, has⟩ ⟨keeps, notClosed⟩
      refine wp_mono (P := turnPost True u input)
        (turn_spec (fun _ => keeps) (fun _ => has) settled) ?_ nofun ?_
      · rintro (_ | exit) v post
        · obtain ⟨⟨-, settled', same⟩, -⟩ := post
          exact ⟨settled', fun sb state => has sb (same sb state)⟩
        · exact post.2 trivial sandbox
      · rintro msg v (known | known | ⟨-, closed⟩)
        · exact .inl known
        · exact .inr known
        · exact absurd (closed trivial) notClosed

theorem exit_table_calm :
    TurnsMeet (fun w _ => w.sandboxState.Settled) (.ok ()) calmInputs
        (spawn 0 0 .onCreationAfterInvoc 0 none) ∧
      match run (.ok ()) calmInputs (spawn 0 0 .onCreationAfterInvoc 0 none) with
      | .running w => w.sandboxState.Settled
      | .exited exit w => ExitTable none w.log exit
      | .panicked msg _ => msg ≠ mainLoopPanic ∧ msg ≠ uncachePanic := by
  have calm : Answers.calm.KeepsSnapshots := by constructor <;> exact fun _ => rfl
  refine exit_table 0 0 .onCreationAfterInvoc 0 none (.ok ()) calmInputs nofun ?_ ?_
  · simp [calmInputs, calm]
  · simp [calmInputs, Recv.Closed]

end Worker
end Snaplace
