import Snaplace.Snapshots.Placement
import Snaplace.Worker.Exit
import Snaplace.Worker.Frames

/-!
# What a worker reports about snapshots

A preparation is answered with a flag that says whether the prepared sandbox has a snapshot, a
snapshot request with a success or an error. Both come from "nothing went wrong", which is also how
a skipped snapshot ends. `reports_true_iff` says exactly when the reports of a turn are true.
-/
namespace Snaplace
open Foundation

namespace Worker
open Handler (Keeps Post wp attempt mapErr fromExcept)
variable {ε : Type} {a : Answers} {w t u : Worker} {cpuset : Cpu}

/-- What a message reports about the sandbox is so when the worker is in `state`. -/
def OutboundMessage.TrueOf (state : SandboxState) : OutboundMessage → Prop
  | .sandboxPreparation { result := .ok (id, hasSnapshot, _), .. } =>
    ∃ sb, state.toOption = some sb ∧ sb.id = id ∧ sb.hasSnapshot = hasSnapshot
  | .snapshotCreation { result := .ok _, sandboxId := id, .. } =>
    ∃ sb, state.toOption = some sb ∧ sb.id = id ∧ sb.hasSnapshot
  | _ => True

/-- The messages sent between `w` and `t` are true of the sandbox at `t`. A turn that reports a
success ends with the report. -/
def ReportsTrue (w t : Worker) : Prop :=
  ∀ msg, .toPool msg ∈ t.log.drop w.log.length → msg.TrueOf t.sandboxState

/-- An action that says nothing about a snapshot. -/
def Action.Quiet (action : Action) : Prop := ∀ msg state, action = .toPool msg → msg.TrueOf state

/-- From `w` to `t` nothing is reported about a snapshot. -/
def Quietly (w t : Worker) : Prop := ∃ acts, t.log = w.log ++ acts ∧ ∀ act ∈ acts, act.Quiet

namespace Quietly

theorem refl (w : Worker) : Quietly w w := ⟨[], by simp, by simp⟩

theorem trans (h : Quietly w t) (h' : Quietly t u) : Quietly w u := by
  obtain ⟨acts, log, quiet⟩ := h
  obtain ⟨acts', log', quiet'⟩ := h'
  refine ⟨acts ++ acts', ?_, ?_⟩
  · rw [log', log, List.append_assoc]
  · intro act mem
    rcases List.mem_append.mp mem with mem | mem
    · exact quiet act mem
    · exact quiet' act mem

theorem emit {action : Action} (quiet : action.Quiet) : Quietly w (w.emit action) :=
  ⟨[action], rfl, by simpa using quiet⟩

theorem reportsTrue (h : Quietly w t) : ReportsTrue w t := by
  obtain ⟨acts, log, quiet⟩ := h
  intro msg sent
  rw [log, List.drop_left] at sent
  exact quiet _ sent msg _ rfl

/-- After quiet actions, one report. -/
theorem report_iff {msg : OutboundMessage} (h : Quietly w t) :
    ReportsTrue w (t.emit (.toPool msg)) ↔ msg.TrueOf t.sandboxState := by
  obtain ⟨acts, log, quiet⟩ := h
  have later : (t.emit (.toPool msg)).log.drop w.log.length = acts ++ [.toPool msg] := by
    rw [emit_log, log, List.append_assoc, List.drop_left]
  unfold ReportsTrue
  rw [later]
  constructor
  · exact fun all => all msg (by simp)
  · intro now other sent
    rcases List.mem_append.mp sent with before | last
    · exact quiet _ before other _ rfl
    · obtain rfl : other = msg := by simpa using last
      exact now

end Quietly

instance : IsPreorder Worker Quietly where
  refl := .refl
  trans _ _ _ h h' := h.trans h'

theorem Action.Plain.quiet {action : Action} (h : action.Plain) : action.Quiet := by
  rintro msg state rfl
  cases msg
  all_goals first
    | exact h.elim
    | trivial

instance : CreateFrame Quietly where
  become w _ := .refl w
  plain _ _ h := .emit h.quiet
  created _ _ := .emit nofun
  announced _ _ _ := .emit (by rintro _ state ⟨⟩; trivial)

instance : DestroyFrame Quietly where
  destroyed _ _ := .emit nofun

/-! ## The two reports -/

/-- A runtime call that gives no sandbox a snapshot. -/
def SandboxCall.GivesNone (call : SandboxCall) : Prop := call.hasSnapshot false = false

/-- Only a `create_snapshot` call that succeeds gives a sandbox a snapshot. -/
structure Answers.OnlyCreateSnapshot (a : Answers) : Prop where
  createSandbox : ∀ function net sb, a.createSandbox function net = .ok sb → sb.hasSnapshot = false
  setupCpuset : ∀ cpuset, (a.setupCpuset cpuset).GivesNone
  loadSandbox : a.loadSandbox.GivesNone
  resumeToPrepare : a.resumeToPrepare.GivesNone
  pauseBeforeSnapshot : a.pauseBeforeSnapshot.GivesNone
  resumeAfterSnapshot : a.resumeAfterSnapshot.GivesNone
  pauseAfterInvocation : a.pauseAfterInvocation.GivesNone
  pauseAfterPreparation : a.pauseAfterPreparation.GivesNone
  pauseAgain : a.pauseAgain.GivesNone
  pauseForCleanup : a.pauseForCleanup.GivesNone
  shutdownSandbox : a.shutdownSandbox.GivesNone
  createSnapshot : ∀ paths, (a.createSnapshot paths).result = .ok () →
    ∀ hasSnapshot, (a.createSnapshot paths).hasSnapshot hasSnapshot
  createSnapshotFailed : ∀ paths err, (a.createSnapshot paths).result = .error err →
    (a.createSnapshot paths).GivesNone

/-- The path query says to skip the snapshot of a sandbox that has none. -/
def SkipsAt (w : Worker) : Recv × Answers → Prop
  | (.control (.prepareSandbox cpuset), a) =>
    w.sandboxState = .nonexistent ∧ w.snapCreationTime = .onCreationBeforeInvoc ∧
      (∃ sb, a.Creates w.functionId cpuset sb) ∧ a.pauseAfterPreparation.result = .ok () ∧
      a.queryPaths = .ok none
  | (.control (.createSnapshot _), a) =>
    (∃ sb, w.sandboxState = .paused sb ∧ sb.hasSnapshot = false) ∧ a.queryPaths = .ok none
  | _ => False

/-- A snapshot request meets a worker in `Snapshot` whose sandbox cannot be restored. -/
def UnbackedAt (w : Worker) : Recv × Answers → Prop
  | (.control (.createSnapshot _), _) =>
    ∃ sb, w.sandboxState = .snapshot sb ∧ sb.hasSnapshot = false
  | _ => False

theorem snapmanNotifyCreation_state {sb : Sandbox} (h : w.sandboxState = .paused sb) :
    wp (snapmanNotifyCreation a) (Post.state fun t => t.sandboxState = .paused sb) w := by
  unfold snapmanNotifyCreation
  simp only [Handler.wp_bind, Handler.wp_get, h]
  match a.snapshotState sb with
  | none => exact h
  | some (.error err) => exact h
  | some (.ok state) =>
    simp only [Handler.wp_bind, Handler.wp_fromExcept, record, Handler.wp_modify]
    exact ⟨fun _ _ => h, fun _ _ => h⟩

/-- What a snapshot of a paused sandbox that has none ends in. -/
theorem createSnapshot_gives {sb : Sandbox} (only : a.OnlyCreateSnapshot)
    (h : w.sandboxState = .paused sb) (no : sb.hasSnapshot = false) :
    wp (createSnapshot a)
      { ok := fun _ t => ∃ sb', t.sandboxState = .paused sb' ∧ sb'.id = sb.id ∧
          (sb'.hasSnapshot ↔ a.queryPaths ≠ .ok none)
        err := fun _ t => ∃ sb', t.sandboxState = .paused sb' ∧ sb'.id = sb.id ∧
          sb'.hasSnapshot = false ∧ a.queryPaths ≠ .ok none } w := by
  unfold createSnapshot
  simp only [Handler.wp_bind, Handler.wp_get, h]
  rcases query : a.queryPaths with err | _ | paths
  · exact ⟨sb, h, rfl, no, by simp⟩
  · exact ⟨sb, h, rfl, by simp [no]⟩
  · simp only [rtCreateSnapshot, Handler.wp_bind, Handler.wp_get, h, become, Handler.wp_modify,
      Handler.wp_fromExcept, mapError_eq_ok, mapError_eq_error, Handler.wp_attempt]
    generalize paths.forSandbox sb.id = path
    refine ⟨fun _ created => ?_, ?_⟩
    · have has : (a.createSnapshot path).hasSnapshot sb.hasSnapshot :=
        only.createSnapshot path created _
      have state : (w.setState (.paused ((a.createSnapshot path).on sb))).sandboxState =
          .paused ((a.createSnapshot path).on sb) := rfl
      refine Handler.wp_mono (snapmanNotifyCreation_state state) ?_ ?_ (fun _ _ never => never.elim)
      · exact fun _ t paused => ⟨_, paused, rfl, iff_of_true has (by simp)⟩
      · exact fun _ t paused => ⟨_, paused, rfl, iff_of_true has (by simp)⟩
    · rintro _ ⟨err, failed, -⟩
      have gives : (a.createSnapshot path).hasSnapshot sb.hasSnapshot = false := by
        rw [no]
        exact only.createSnapshotFailed path err failed
      exact ⟨_, rfl, rfl, gives, by simp⟩

/-- A sandbox that a preparation has just created and paused has no snapshot. -/
theorem Answers.OnlyCreateSnapshot.new {sb : Sandbox} {function : FunctionId}
    (only : a.OnlyCreateSnapshot) (creates : a.Creates function cpuset sb) :
    (a.pauseAfterPreparation.on sb).hasSnapshot = false := by
  obtain ⟨net, fresh, -, made, -, rfl⟩ := creates
  have no : fresh.hasSnapshot = false := only.createSandbox _ _ _ made
  change a.pauseAfterPreparation.hasSnapshot ((a.setupCpuset cpuset).hasSnapshot fresh.hasSnapshot) =
    false
  rw [no, only.setupCpuset cpuset]
  exact only.pauseAfterPreparation

theorem SandboxState.asRef_eq_nonexistent {state : SandboxState} :
    state.asRef = .nonexistent ↔ state = .nonexistent := by
  cases state <;> simp [asRef]

/-- The flag is right unless a new sandbox's snapshot was skipped. -/
theorem snapshotAfterPreparation_flag {sb : Sandbox} {startState : SandboxStateRef}
    (only : a.OnlyCreateSnapshot) (paused : w.sandboxState = .paused sb)
    (new : startState = .nonexistent → sb.hasSnapshot = false) :
    wp (snapshotAfterPreparation a startState sb.hasSnapshot)
      { ok := fun has t => ∃ sb', t.sandboxState = .paused sb' ∧ sb'.id = sb.id ∧
          (sb'.hasSnapshot = has ↔ ¬(startState = .nonexistent ∧
            w.snapCreationTime = .onCreationBeforeInvoc ∧ a.queryPaths = .ok none))
        err := fun _ _ => False } w := by
  simp only [snapshotAfterPreparation, Handler.wp_bind, Handler.wp_get, Handler.wp_ite,
    Handler.wp_attempt, Handler.wp_pure]
  constructor
  · rintro ⟨none_before, before⟩
    have no := new none_before
    refine Handler.wp_mono (createSnapshot_gives only paused no) ?_ ?_ (fun _ _ never => never.elim)
    · rintro _ t ⟨sb', paused', same, gives⟩
      exact ⟨sb', paused', same, by simp [gives, none_before, before]⟩
    · rintro e t ⟨sb', paused', same, none_given, query⟩
      exact ⟨sb', paused', same, by simp [none_given, no, query]⟩
  · intro other
    refine ⟨sb, paused, rfl, iff_of_true rfl ?_⟩
    rintro ⟨none_before, before, -⟩
    exact other ⟨none_before, before⟩

/-- A preparation that succeeds is reported last; the report of one that fails says nothing. -/
theorem handlePrepareSandboxRequest_reports (only : a.OnlyCreateSnapshot)
    (settled : w.sandboxState.Settled) :
    wp (handlePrepareSandboxRequest a cpuset)
      { ok := fun _ t => ReportsTrue w t ↔ ¬SkipsAt w (.control (.prepareSandbox cpuset), a)
        err := fun _ t => Quietly w t ∧ ¬SkipsAt w (.control (.prepareSandbox cpuset), a) } w := by
  have failed {v : Worker} {result : PrepareSandboxResult} {e : String} (quiet : Quietly w v)
      (error : result.result = .error e) :
      Quietly w (v.emit (.toPool (.sandboxPreparation result))) := by
    refine quiet.trans (.emit ?_)
    rintro _ state ⟨⟩
    obtain ⟨id, function, _⟩ := result
    obtain rfl := error
    trivial
  simp only [handlePrepareSandboxRequest, Handler.wp_bind, Handler.wp_get, Handler.wp_attempt,
    sendSandboxPrepResult, retrySendToPool, record, Handler.wp_modify, Handler.wp_throw]
  refine Handler.wp_mono (Handler.wp_and (prepareSandbox_spec settled) (Keeping.prepareSandbox.wp (R := Quietly) w)) ?_ ?_
    (fun _ _ h => h.1.elim)
  · rintro _ t ⟨⟨kept, sb, running, creates⟩, quiet⟩
    refine Handler.wp_mono (pauseSandbox_spec running) ?_ ?_ (fun _ _ never => never.elim)
    · rintro _ _ ⟨rfl, pauses⟩
      dsimp only
      refine Handler.wp_mono (runningToPaused_spec (setState_sandboxState _ _)) ?_ (fun _ _ never => never.elim)
        fun _ _ never => never.elim
      rintro _ _ ⟨rfl, rfl⟩
      dsimp only
      have new (none_before : w.sandboxState.asRef = .nonexistent) :
          (a.pauseAfterPreparation.on sb).hasSnapshot = false :=
        only.new (creates (SandboxState.asRef_eq_nonexistent.mp none_before))
      refine Handler.wp_mono (Handler.wp_and
        (snapshotAfterPreparation_flag only (setState_sandboxState _ _) new)
        (Keeping.snapshotAfterPreparation.wp (R := Quietly) _)) ?_ ?_ ?_
      · rintro has u ⟨⟨sb', paused, same, flag⟩, still⟩
        refine (Quietly.report_iff (quiet.trans still)).trans ?_
        have creation : t.snapCreationTime = w.snapCreationTime := kept.snapCreationTime
        have skips : SkipsAt w (.control (.prepareSandbox cpuset), a) ↔
            w.sandboxState.asRef = .nonexistent ∧ t.snapCreationTime = .onCreationBeforeInvoc ∧
              a.queryPaths = .ok none := by
          rw [SandboxState.asRef_eq_nonexistent, creation]
          constructor
          · rintro ⟨none_before, before, _, _, query⟩
            exact ⟨none_before, before, query⟩
          · rintro ⟨none_before, before, query⟩
            exact ⟨none_before, before, ⟨sb, creates none_before⟩, pauses, query⟩
        simp only [setState_snapCreationTime] at flag
        rw [skips, ← flag]
        simp [OutboundMessage.TrueOf, paused, SandboxState.toOption, same]
      · exact fun _ _ impossible => impossible.1.elim
      · exact fun _ _ impossible => impossible.1.elim
    · rintro e _ ⟨rfl, source, fails, -⟩
      refine ⟨failed quiet rfl, ?_⟩
      rintro ⟨-, -, -, pauses, -⟩
      rw [pauses] at fails
      cases fails
  · rintro e t ⟨⟨left, none_created, -⟩, quiet⟩
    refine ⟨failed quiet rfl, ?_⟩
    rintro ⟨new, -, ⟨sb, creates⟩, -⟩
    exact none_created new sb creates

theorem snapshot_reportsTrue_iff {sandboxId : SandboxId} (only : a.OnlyCreateSnapshot) :
    wp (ε := ε) (handleSnapshotRequest a sandboxId)
      (Post.all fun t => ReportsTrue w t ↔ ¬SkipsAt w (.control (.createSnapshot sandboxId), a) ∧
        ¬UnbackedAt w (.control (.createSnapshot sandboxId), a)) w := by
  simp only [handleSnapshotRequest, snapshotOnRequest, sendSnapshotResult, retrySendToPool,
    Handler.wp_bind, Handler.wp_attempt, Handler.wp_get, record, Handler.wp_modify]
  cases state : w.sandboxState with
  | snapshot sb =>
    refine (Quietly.refl w).report_iff.trans ?_
    simp [OutboundMessage.TrueOf, Except.mapError, state, SandboxState.toOption, SandboxState.id,
      SkipsAt, UnbackedAt]
  | nonexistent | running _ | trashed _ =>
    refine (Quietly.refl w).report_iff.trans ?_
    simp [OutboundMessage.TrueOf, Except.mapError, state, SkipsAt, UnbackedAt]
  | paused sb =>
    simp only [Handler.wp_ite, Handler.wp_pure]
    refine ⟨fun has => ?_, fun no => ?_⟩
    · refine (Quietly.refl w).report_iff.trans ?_
      simp [OutboundMessage.TrueOf, Except.mapError, state, SandboxState.toOption, SandboxState.id,
        SkipsAt, UnbackedAt, has]
    · have no : sb.hasSnapshot = false := by simpa using no
      refine Handler.wp_mono (Handler.wp_and (createSnapshot_gives only state no)
        (Keeping.createSnapshot.wp (R := Quietly) w)) ?_ ?_ (fun _ _ impossible => impossible.1.elim)
      · rintro _ t ⟨⟨sb', paused, same, gives⟩, quiet⟩
        refine (Quietly.report_iff quiet).trans ?_
        simp [OutboundMessage.TrueOf, Except.mapError, paused, SandboxState.toOption,
          SandboxState.id, SkipsAt, UnbackedAt, state, no, gives]
      · rintro e t ⟨⟨sb', paused, same, -, query⟩, quiet⟩
        refine (Quietly.report_iff quiet).trans ?_
        simp [OutboundMessage.TrueOf, Except.mapError, SkipsAt, UnbackedAt, state, query]

/-- Only a settled worker can be asked for what it reports falsely. -/
theorem SkipsAt.settled {input : Recv × Answers} (h : SkipsAt w input) : w.sandboxState.Settled := by
  unfold SkipsAt at h
  split at h
  · rw [h.1]
    trivial
  · obtain ⟨⟨sb, paused, -⟩, -⟩ := h
    rw [paused]
    trivial
  · exact h.elim

theorem UnbackedAt.settled {input : Recv × Answers} (h : UnbackedAt w input) :
    w.sandboxState.Settled := by
  unfold UnbackedAt at h
  split at h
  · obtain ⟨sb, unloaded, -⟩ := h
    rw [unloaded]
    trivial
  · exact h.elim

/-- Messages that are answered with no report. -/
def Recv.Unreported : Recv → Prop
  | .control (.prepareSandbox _) | .control (.createSnapshot _) => False
  | _ => True

theorem quiet_verdict (verdict : Verdict) : Keeps Quietly (match verdict with
    | none => pure none
    | some status => some <$> leave a status : Handler Worker ε (Option WorkerExit)) := by
  cases verdict with
  | none => exact .pure _
  | some status => exact .map Keeping.leave

theorem quiet_turn {recv : Recv} (unreported : recv.Unreported) :
    Keeps Quietly (turn (recv, a)) := by
  refine .bind .get fun w => .bind (.require _ _) fun _ => .bind ?_ quiet_verdict
  match recv with
  | .invocation invoc => exact .bind (.attempt Keeping.handleRequest) fun _ => Keeping.afterRequest
  | .invocationsClosed | .controlClosed => exact .pure _
  | .control .shutDown => exact .map (.attempt Keeping.shutdown)
  | .control .destroySandbox => exact .map (.attempt Keeping.destroySandbox)
  | .control (.prepareSandbox _) | .control (.createSnapshot _) => exact unreported.elim

/-- The step lemma: one case for each message a turn takes. -/
theorem turn_reports {recv : Recv} (only : a.OnlyCreateSnapshot) :
    wp (turn (recv, a))
      (Post.all fun t => ReportsTrue w t ↔ ¬SkipsAt w (recv, a) ∧ ¬UnbackedAt w (recv, a)) w := by
  have quietly (quiet : Keeps Quietly (turn (recv, a)))
      (asks : ¬SkipsAt w (recv, a) ∧ ¬UnbackedAt w (recv, a)) :
      wp (turn (recv, a))
        (Post.all fun t => ReportsTrue w t ↔ ¬SkipsAt w (recv, a) ∧ ¬UnbackedAt w (recv, a)) w :=
    Handler.wp_all_iff.mpr (iff_of_true (quiet w).reportsTrue asks)
  rcases recv with _ | _ | msg | _
  · exact quietly (quiet_turn trivial) ⟨not_false, not_false⟩
  · exact quietly (quiet_turn trivial) ⟨not_false, not_false⟩
  · cases msg with
    | shutDown | destroySandbox => exact quietly (quiet_turn trivial) ⟨not_false, not_false⟩
    | createSnapshot sandboxId =>
      simp only [turn, Handler.wp_bind, Handler.wp_get, Handler.wp_require]
      refine ⟨fun settled => ?_, fun unsettled => ?_⟩
      · simp only [handle, Handler.wp_bind, Handler.wp_pure]
        exact snapshot_reportsTrue_iff only
      · exact iff_of_true (Quietly.refl w).reportsTrue
          ⟨fun skips => unsettled skips.settled, fun unbacked => unsettled unbacked.settled⟩
    | prepareSandbox cpuset =>
      simp only [turn, Handler.wp_bind, Handler.wp_get, Handler.wp_require]
      refine ⟨fun settled => ?_, fun unsettled => ?_⟩
      · simp only [handle, Handler.wp_bind, Handler.wp_attempt]
        refine Handler.wp_mono (handlePrepareSandboxRequest_reports only settled) ?_ ?_ (fun _ _ never => never.elim)
        · exact fun _ t reports => reports.trans (and_iff_left not_false).symm
        · rintro e t ⟨quiet, skips⟩
          refine (Handler.wp_bind _ _ _ _).mp
            (Handler.wp_mono ((Keeps.bind Keeping.afterRequest quiet_verdict).wp t) ?_ ?_ ?_)
          all_goals exact fun _ u later => iff_of_true (quiet.trans later).reportsTrue ⟨skips, not_false⟩
      · exact iff_of_true (Quietly.refl w).reportsTrue
          ⟨fun skips => unsettled skips.settled, fun unbacked => unsettled unbacked.settled⟩
  · exact quietly (quiet_turn trivial) ⟨not_false, not_false⟩

/-- The reports of a turn are true exactly when the turn skips no snapshot it then reports, and is
not asked to snapshot a sandbox that has been unloaded without one. -/
theorem reports_true_iff (w : Worker) (recv : Recv) (a : Answers) (only : a.OnlyCreateSnapshot) :
    ReportsTrue w (turn (recv, a) w).state ↔ ¬SkipsAt w (recv, a) ∧ ¬UnbackedAt w (recv, a) :=
  Handler.wp_all_iff.mp (turn_reports only)

/-- The sandbox of a worker in `Snapshot` can be restored. -/
def Backed (w : Worker) : Prop := ∀ sb, w.sandboxState = .snapshot sb → sb.hasSnapshot

/-- A worker that stays in its loop is only in `Snapshot` with the sandbox it started with. -/
theorem Backed.turn {input : Recv × Answers} (settled : w.sandboxState.Settled) (h : Backed w)
    (stays : Worker.turn input w = .ok none t) : t.sandboxState.Settled ∧ Backed t := by
  have step := turn_spec_any input settled
  rw [wp, stays] at step
  obtain ⟨⟨-, settled', same⟩, -⟩ := step
  exact ⟨settled', fun sb unloaded => h sb (same sb unloaded)⟩

/-- Over a run of a worker that was given no sandbox, or one with a snapshot: every report is true
exactly when no snapshot is skipped where a success is reported. -/
theorem run_reportsTrue_iff {id : WorkerId} {functionId : FunctionId} {mode : SnapshotCreationTime}
    {timeout : Duration} {sandbox : Option Sandbox} {inputs : List (Recv × Answers)}
    (backed : ∀ sb, sandbox = some sb → sb.hasSnapshot)
    (only : ∀ input ∈ inputs, input.2.OnlyCreateSnapshot) :
    AllTurns turn (fun w input => ReportsTrue w (turn input w).state) inputs
        (spawn id functionId mode timeout sandbox) ↔
      AllTurns turn (fun w input => ¬SkipsAt w input) inputs
        (spawn id functionId mode timeout sandbox) := by
  have start : Backed (spawn id functionId mode timeout sandbox) := by
    intro sb unloaded
    refine backed sb ?_
    cases sandbox with
    | none => cases unloaded
    | some given =>
      cases unloaded
      rfl
  refine allTurns_congr (I := fun w => w.sandboxState.Settled ∧ Backed w) ?_ ?_ ⟨spawn_settled .., start⟩
  · rintro w ⟨recv, a⟩ mem ⟨-, has⟩
    refine (Handler.wp_all_iff.mp (turn_reports (only _ mem))).trans (and_iff_left ?_)
    intro unbacked
    unfold UnbackedAt at unbacked
    split at unbacked
    · obtain ⟨sb, unloaded, none_held⟩ := unbacked
      simp [has sb unloaded] at none_held
    · exact unbacked
  · exact fun w input t ⟨settled, has⟩ stays => has.turn settled stays

/-- A function kept alive has no device to be snapshotted on. -/
def keptAlive : Snapshots.SlowdownsStatic where
  devices dst := if dst.IsDevice then some "/snapshots" else none
  slowdowns := AList.singleton 0 .keepAlive
  warmDevice := .none
  present dst device := by simp [device]

/-- Nothing fails, and snapshots are placed by `keptAlive`. -/
def skipped : Answers := { Answers.calm with queryPaths := keptAlive.queryPath 0 }

theorem calm_onlyCreateSnapshot (query : Except SourceError (Option SnapshotPaths)) :
    { Answers.calm with queryPaths := query }.OnlyCreateSnapshot := by
  constructor
  all_goals simp [Answers.calm, SandboxCall.GivesNone]

/-- A worker without a sandbox, told to snapshot before the first invocation. -/
def empty : Worker := spawn 0 0 .onCreationBeforeInvoc 0 none

/-- A worker with a paused sandbox that has no snapshot. -/
def unsnapshotted : Worker :=
  (spawn 0 0 .onlyOnDemand 0 none).setState (.paused { id := 7, hasSnapshot := false, stats := ⟨0, 0⟩ })

theorem skipped_snapshot_reported : skipped.OnlyCreateSnapshot ∧
    ¬ReportsTrue empty (turn (.control (.prepareSandbox 0), skipped) empty).state ∧
    ¬ReportsTrue unsnapshotted
      (turn (.control (.createSnapshot 7), skipped) unsnapshotted).state := by
  refine ⟨calm_onlyCreateSnapshot _, fun h => ?_, fun h => ?_⟩
  · have told := h (.sandboxPreparation { workerId := 0, functionId := 0, result := .ok (7, true, ⟨0, 0⟩) })
      (by decide)
    obtain ⟨sb, ⟨⟩, -, has⟩ := told
    cases has
  · have told := h (.snapshotCreation { workerId := 0, functionId := 0, sandboxId := 7, result := .ok () })
      (by decide)
    obtain ⟨sb, ⟨⟩, -, has⟩ := told
    cases has

/-- With paths to snapshot to, the preparation's report is true. -/
theorem reports_true_snapshotted : ReportsTrue empty
    (turn (.control (.prepareSandbox 0), .calm) empty).state :=
  (reports_true_iff empty (.control (.prepareSandbox 0)) .calm (calm_onlyCreateSnapshot _)).mpr
    ⟨by simp [SkipsAt, Answers.calm], not_false⟩

end Worker
end Snaplace
