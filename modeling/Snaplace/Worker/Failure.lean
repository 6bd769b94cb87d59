import Snaplace.Worker.Ownership

/-!
# Errors of a request and their cleanup

Which errors a request can end in, in which sandbox state, and that `tryHandleFailure` accepts an
error exactly when that state is the one it expects. The one error that is not accepted is a failed
resume after a snapshot taken before the first invocation.
-/
namespace Snaplace
open Foundation Foundation.Handler

namespace Worker
variable {a : Answers} {w t : Worker} {cpuset : Cpu} {req : Request}

/-- The sandbox state in which `tryHandleFailure` accepts an error. -/
def Error.Expects : Error → SandboxState → Prop
  | prepareSandbox _, state => ∀ sb, state ≠ .trashed sb
  | handleFunctionRequest _, state | issuerTimeout _, state | forwardToSink _, state
  | pauseSandbox _, state => ∃ sb, state = .running sb
  | _, _ => False

/-- A snapshot found in the state came from one the runtime failed to load. -/
def SnapshotFrom (a : Answers) (w t : Worker) : Prop :=
  ∀ sb, t.sandboxState = .snapshot sb → ∃ old, w.sandboxState = .snapshot old ∧
    sb = a.loadSandbox.on old

theorem LeftByFailedPrepare.snapshotFrom (h : LeftByFailedPrepare a w t.sandboxState) :
    SnapshotFrom a w t := by
  intro sb state
  rwa [state] at h

theorem LeftByFailedPrepare.expects {source : Error} (h : LeftByFailedPrepare a w t.sandboxState) :
    (Error.prepareSandbox source).Expects t.sandboxState := by
  intro sb state
  rwa [state] at h

theorem tryHandleFailure_spec {err : Error} {honest : Prop} (h : err.Expects w.sandboxState)
    (keeps : honest → a.KeepsSnapshots)
    (flag : honest → ∀ sb, w.sandboxState = .snapshot sb → sb.hasSnapshot) :
    wp (tryHandleFailure a err) (retirePost honest w) w := by
  simp only [tryHandleFailure, wp_bind, wp_get]
  cases err with
  | prepareSandbox _ =>
    cases state : w.sandboxState with
    | nonexistent => exact ⟨Kept.refl w, .inl state⟩
    | snapshot sb => exact ⟨Kept.refl w, .inr ⟨sb, state, fun p => flag p sb state⟩⟩
    | paused sb => exact cleanupPaused_spec keeps state
    | running sb => exact retireRunning_spec keeps state
    | trashed sb => exact absurd state (h sb)
  | handleFunctionRequest _ | issuerTimeout _ | forwardToSink _ =>
    obtain ⟨sb, state⟩ := h
    simp only [state]
    exact retireRunning_spec keeps state
  | pauseSandbox _ =>
    obtain ⟨sb, state⟩ := h
    simp only [state]
    cases a.pauseAgain.result with
    | ok _ =>
      simp only [wp_bind, become, wp_modify]
      exact destroyPost.retire (Kept.of_setState (by simp [state])) (destroySandbox_spec (by simp))
    | error _ =>
      simp only [wp_bind, become, wp_modify]
      exact destroyPost.retire (Kept.of_setState (by simp [state])) (destroySandbox_spec (by simp))
  | _ => exact absurd h not_false

theorem tryHandleFailure_panics {err : Error} (h : ¬err.Expects w.sandboxState) :
    wp (tryHandleFailure a err) Post.panics w := by
  simp only [tryHandleFailure, wp_bind, wp_get]
  match err with
  | .prepareSandbox _ =>
    obtain ⟨sb, state⟩ : ∃ sb, w.sandboxState = .trashed sb := by simpa [Error.Expects] using h
    simp only [state]
    trivial
  | .handleFunctionRequest _ | .issuerTimeout _ | .forwardToSink _ | .pauseSandbox _ =>
    match state : w.sandboxState with
    | .running sb => exact absurd ⟨sb, state⟩ h
    | .nonexistent | .paused _ | .snapshot _ | .trashed _ => trivial
  | .init _ _ | .forward _ _ | .shutDown _ _ | .channel _ _ | .network _ | .createSandbox _
  | .loadSandbox _ | .resumeSandbox _ | .setupCpuset _ | .createSnapshot _ | .shutdownSandbox _
  | .destroySandbox _ | .snapshotManager _ _ | .createSnapshotControl _ | .createState _ => trivial

/-- The state does not hold a snapshot that is not also running or paused. -/
def SandboxState.NotSnapshot (state : SandboxState) : Prop := ∀ sb, state ≠ .snapshot sb

theorem resumeForInvocation_spec {sb : Sandbox} (h : w.sandboxState = .paused sb) :
    wp (resumeForInvocation a)
      { ok := fun _ t => Kept [] w t ∧ (∃ sb', t.sandboxState = .running sb') ∧
          a.resumeAfterSnapshot.result = .ok ()
        err := fun e t => Kept [] w t ∧ t.sandboxState.NotSnapshot ∧
          (∃ source, e = .resumeSandbox source) ∧ a.resumeAfterSnapshot.result ≠ .ok () } w := by
  refine wp_seq (resumeSandbox_spec h) ?_ ?_ (fun _ _ never => never.elim)
  · rintro _ _ ⟨sb', same, rfl, ok⟩
    simp only [wp_bind, wp_get, setState_sandboxState, become, wp_modify]
    exact ⟨(Kept.of_setState (by simp [h, same])).setState (by simp), ⟨_, rfl⟩, ok⟩
  · rintro e _ ⟨sb', same, rfl, why⟩
    obtain ⟨source, failed, rfl⟩ := why rfl
    exact ⟨Kept.of_setState (by simp [h, same]), fun _ => SandboxState.noConfusion, ⟨source, rfl⟩, by simp [failed]⟩

/-- The runtime pauses a new sandbox for its snapshot and then fails to resume it. -/
def Answers.FailsToResume (a : Answers) (sb : Sandbox) : Prop :=
  sb.hasSnapshot = false ∧ a.pauseBeforeSnapshot.result = .ok () ∧
    a.resumeAfterSnapshot.result ≠ .ok ()

/-- An error is accepted in this state, unless the resume after a snapshot failed. -/
def Error.ExpectsUnless (err : Error) (state : SandboxState) (fails : Prop) : Prop :=
  (¬fails ∧ err.Expects state) ∨ (fails ∧ ∃ source, err = .resumeSandbox source)

def beforeInvocationPost (a : Answers) (w : Worker) (sb : Sandbox) : Post Worker Error Unit where
  ok _ t := Kept [] w t ∧ (∃ sb', t.sandboxState = .running sb') ∧ ¬a.FailsToResume sb
  err e t := Kept [] w t ∧ t.sandboxState.NotSnapshot ∧
    e.ExpectsUnless t.sandboxState (a.FailsToResume sb)
  panic msg _ := msg = newSandboxPanic ∧ ¬a.FailsToResume sb

theorem snapshotBeforeInvocation_spec {sb : Sandbox} (h : w.sandboxState = .running sb) :
    wp (snapshotBeforeInvocation a) (beforeInvocationPost a w sb) w := by
  simp only [snapshotBeforeInvocation, wp_bind, wp_get, h, wp_require, wp_attempt]
  refine ⟨fun fresh => wp_mono (pauseSandbox_spec h) ?_ ?_ nofun,
    fun stale => ⟨rfl, fun fails => stale fails.1⟩⟩
  · rintro _ _ ⟨rfl, paused⟩
    dsimp only
    refine wp_mono (runningToPaused_spec (setState_sandboxState _ _)) ?_ nofun nofun
    rintro _ _ ⟨-, rfl⟩
    dsimp only
    have kept : Kept [] w ((w.setState (.running (a.pauseBeforeSnapshot.on sb))).setState
        (.paused (a.pauseBeforeSnapshot.on sb))) :=
      (Kept.of_setState (by simp [h])).setState (by simp)
    have resume : ∀ t, StaysPaused (a.pauseBeforeSnapshot.on sb)
        ((w.setState (.running (a.pauseBeforeSnapshot.on sb))).setState
          (.paused (a.pauseBeforeSnapshot.on sb))) t →
        wp (resumeForInvocation a) (beforeInvocationPost a w sb) t := by
      rintro t ⟨kept', sb', same, state⟩
      refine wp_mono (resumeForInvocation_spec state) ?_ ?_ nofun
      · exact fun _ u ⟨kept'', running, ok⟩ =>
          ⟨(kept.trans kept').trans kept'', running, fun fails => fails.2.2 ok⟩
      · exact fun e u ⟨kept'', left, source, failed⟩ => ⟨(kept.trans kept').trans kept'', left,
          .inr ⟨⟨fresh, paused, failed⟩, source⟩⟩
    exact wp_mono (createSnapshot_spec rfl) (fun _ => resume) (fun _ => resume) nofun
  · rintro e _ ⟨rfl, source, failed, rfl⟩
    exact ⟨Kept.of_setState (by simp [h]), nofun,
      .inl ⟨by simp [Answers.FailsToResume, failed], _, rfl⟩⟩

/-- The errors that come out of issuing a request. -/
def Error.FromIssuer : Error → Prop
  | handleFunctionRequest _ | issuerTimeout _ => True
  | _ => False

theorem issueRequest_spec {sb : Sandbox} (h : w.sandboxState = .running sb) :
    wp (issueRequest a req)
      { ok := fun _ t => ∃ sb', sb'.id = sb.id ∧ t = w.setState (.running sb')
        err := fun e t => t = w ∧ e.FromIssuer } w := by
  simp only [issueRequest, wp_bind, wp_get, h]
  match a.issueRequest with
  | .ok resp =>
    exact ⟨{ sb with stats := { sb.stats with invocations := sb.stats.invocations + 1 } }, rfl, rfl⟩
  | .failed err => exact ⟨rfl, trivial⟩
  | .timedOut => exact ⟨rfl, trivial⟩

theorem makeIssuerErrorResponse_spec {err : Error} {message : String} (h : err.FromIssuer) :
    wp (makeIssuerErrorResponse a req err message) (Post.state fun t => t = w) w := by
  unfold makeIssuerErrorResponse
  match err with
  | .handleFunctionRequest _ | .issuerTimeout _ =>
    simp only [wp_bind, wp_pure, wp_fromExcept]
    exact ⟨fun _ _ => rfl, fun _ _ => rfl⟩

theorem prepareResponse_spec {issued : Except Error Response}
    (h : ∀ err, issued = .error err → err.FromIssuer) :
    wp (prepareResponse a req issued)
      { ok := fun p t => t = w ∧ ∀ err, p.2 = some err → err.FromIssuer
        err := fun _ _ => False } w := by
  match issued with
  | .ok resp => exact ⟨rfl, nofun⟩
  | .error err =>
    match err, h err rfl with
    | .handleFunctionRequest source, _ | .issuerTimeout timeout, _ =>
      simp only [prepareResponse, wp_bind, wp_attempt, wp_pure]
      refine wp_mono (makeIssuerErrorResponse_spec trivial) ?_ ?_ nofun
      · exact fun _ _ same => ⟨same, by rintro _ ⟨rfl⟩; trivial⟩
      · exact fun _ _ same => ⟨same, by rintro _ ⟨rfl⟩; trivial⟩

theorem forwardIfAny_spec {resp : Option Response} :
    wp (forwardIfAny a req resp)
      { ok := fun err t => (t = w ∨ ∃ resp, t = w.emit (.respond req resp)) ∧
          ∀ e, err = some e → ∃ source, e = .forwardToSink source
        err := fun _ _ => False } w := by
  match resp with
  | none => exact ⟨.inl rfl, nofun⟩
  | some resp =>
    simp only [forwardIfAny, forwardResponse, wp_bind, wp_attempt, wp_fromExcept, record, wp_modify,
      wp_pure]
    exact ⟨fun _ _ => ⟨.inr ⟨resp, rfl⟩, nofun⟩, fun err _ => ⟨.inl trivial, by simp⟩⟩

/-- Serving an invocation keeps the sandbox running; an error met then is an expected one. -/
def runningPost (w : Worker) (done : SandboxState → Prop) : Post Worker Error Unit where
  ok _ t := Kept [] w t ∧ done t.sandboxState
  err e t := Kept [] w t ∧ t.sandboxState.NotSnapshot ∧ e.Expects t.sandboxState

def SandboxState.Running (state : SandboxState) : Prop := ∃ sb, state = .running sb
def SandboxState.Paused (state : SandboxState) : Prop := ∃ sb, state = .paused sb

theorem SandboxState.Running.notSnapshot {state : SandboxState} (h : state.Running) :
    state.NotSnapshot := by
  obtain ⟨sb, rfl⟩ := h
  exact nofun

theorem Error.FromIssuer.expects {err : Error} {state : SandboxState} (h : err.FromIssuer)
    (running : state.Running) : err.Expects state := by
  match err with
  | .handleFunctionRequest _ | .issuerTimeout _ => exact running

theorem forwardIssued_spec {issued : Except Error Response} (kept : Kept [] w t)
    (running : t.sandboxState.Running) (h : ∀ err, issued = .error err → err.FromIssuer) :
    wp (forwardIssued a req issued) (runningPost w SandboxState.Running) t := by
  simp only [forwardIssued, wp_bind]
  refine wp_mono (prepareResponse_spec h) ?_ nofun nofun
  rintro ⟨resp, issueErr⟩ _ ⟨rfl, fromIssuer⟩
  refine wp_mono forwardIfAny_spec ?_ nofun nofun
  rintro forwardErr u ⟨sent, toSink⟩
  have kept' : Kept [] w u := by
    obtain rfl | ⟨resp, rfl⟩ := sent
    · exact kept
    · exact kept.emit rfl rfl rfl
  have running' : u.sandboxState.Running := by
    obtain rfl | ⟨resp, rfl⟩ := sent <;> exact running
  match issueErr, forwardErr with
  | some err, _ => exact ⟨kept', running'.notSnapshot, (fromIssuer err rfl).expects running'⟩
  | none, none => exact ⟨kept', running'⟩
  | none, some err =>
    obtain ⟨source, rfl⟩ := toSink err rfl
    exact ⟨kept', running'.notSnapshot, running'⟩

theorem issueAndForward_spec (h : w.sandboxState.Running) :
    wp (issueAndForward a req) (runningPost w SandboxState.Running) w := by
  obtain ⟨sb, state⟩ := h
  have issue : wp (issueRequest a req)
      { ok := fun resp => wp (forwardIssued a req (.ok resp)) (runningPost w SandboxState.Running)
        err := fun e => wp (forwardIssued a req (.error e)) (runningPost w SandboxState.Running)
        panic := (runningPost w SandboxState.Running).panic } w := by
    refine wp_mono (issueRequest_spec state) ?_ ?_ nofun
    · rintro resp _ ⟨sb', same, rfl⟩
      exact forwardIssued_spec (Kept.of_setState (by simp [state, same])) ⟨sb', rfl⟩ nofun
    · rintro err _ ⟨rfl, fromIssuer⟩
      exact forwardIssued_spec (Kept.refl _) ⟨sb, state⟩ (by rintro _ ⟨rfl⟩; exact fromIssuer)
  simp only [issueAndForward, spawnPerformanceMonitor, wp_bind, wp_attempt, wp_get, state,
    wp_fromExcept]
  exact ⟨fun _ _ => issue, fun _ _ => issue⟩

theorem pauseAfterInvocation_spec {sb : Sandbox} {snapshotNow : Bool}
    (h : w.sandboxState = .running sb) :
    wp (pauseAfterInvocation a snapshotNow) (runningPost w SandboxState.Paused) w := by
  refine wp_seq (pauseSandbox_spec h) ?_ ?_ nofun
  · rintro _ _ ⟨rfl, -⟩
    refine wp_seq (runningToPaused_spec (setState_sandboxState _ _)) ?_ nofun nofun
    rintro _ _ ⟨-, rfl⟩
    generalize paused : (w.setState _).setState _ = t
    have kept : Kept [] w t := by
      rw [← paused]
      exact (Kept.of_setState (by simp [h])).setState (by simp)
    have state : t.sandboxState = .paused (a.pauseAfterInvocation.on sb) := by simp [← paused]
    simp only [wp_ite, wp_bind, wp_attempt]
    refine ⟨fun _ => ?_, fun _ => ⟨kept, _, state⟩⟩
    have after : ∀ u, StaysPaused (a.pauseAfterInvocation.on sb) t u →
        Kept [] w u ∧ u.sandboxState.Paused :=
      fun u ⟨kept', sb', _, state⟩ => ⟨kept.trans kept', sb', state⟩
    exact wp_mono (createSnapshot_spec state) (fun _ => after) (fun _ => after) nofun
  · rintro e _ ⟨rfl, source, failed, rfl⟩
    exact ⟨Kept.of_setState (by simp [h]), nofun, _, rfl⟩

def invocationPost (w : Worker) (fails : Prop) : Post Worker Error Unit where
  ok _ t := Kept [] w t ∧ t.sandboxState.Paused ∧ ¬fails
  err e t := Kept [] w t ∧ t.sandboxState.NotSnapshot ∧ e.ExpectsUnless t.sandboxState fails
  panic msg _ := msg = newSandboxPanic ∧ ¬fails

theorem handleWithSandbox_spec {sb : Sandbox} {startState : SandboxStateRef}
    (h : w.sandboxState = .running sb) :
    wp (handleWithSandbox a req startState)
      (invocationPost w (startState = .nonexistent ∧
        w.snapCreationTime = .onCreationBeforeInvoc ∧ a.FailsToResume sb)) w := by
  generalize fails : (startState = .nonexistent ∧
    w.snapCreationTime = .onCreationBeforeInvoc ∧ a.FailsToResume sb) = F
  have serve : ∀ t snapshotNow, Kept [] w t → t.sandboxState.Running → ¬F →
      wp (issueAndForward a req)
        { ok := fun _ u => wp (pauseAfterInvocation a snapshotNow) (invocationPost w F) u
          err := (invocationPost w F).err
          panic := (invocationPost w F).panic } t := by
    intro t snapshotNow kept running fine
    refine wp_mono (issueAndForward_spec running) ?_ ?_ nofun
    · rintro _ u ⟨kept', sb', running'⟩
      refine wp_mono (pauseAfterInvocation_spec running') ?_ ?_ nofun
      · exact fun _ v ⟨kept'', paused⟩ => ⟨(kept.trans kept').trans kept'', paused, fine⟩
      · exact fun e v ⟨kept'', left, expected⟩ =>
          ⟨(kept.trans kept').trans kept'', left, .inl ⟨fine, expected⟩⟩
    · exact fun e u ⟨kept', left, expected⟩ => ⟨kept.trans kept', left, .inl ⟨fine, expected⟩⟩
  simp only [handleWithSandbox, wp_bind, wp_get, wp_ite]
  refine ⟨fun ⟨fresh, mode⟩ => ?_, fun other => ?_⟩
  · have same : F = a.FailsToResume sb := by simp [← fails, fresh, mode]
    refine wp_mono (snapshotBeforeInvocation_spec h) ?_ ?_ ?_
    · exact fun _ t ⟨kept, running, ok⟩ => serve t _ kept running (same ▸ ok)
    · exact fun e t ⟨kept, left, expected⟩ => ⟨kept, left, same ▸ expected⟩
    · exact fun msg t ⟨known, ok⟩ => ⟨known, same ▸ ok⟩
  · exact serve w _ (Kept.refl w) ⟨sb, h⟩ (fun f => other ⟨(fails ▸ f).1, (fails ▸ f).2.1⟩)

/-- An invocation creates a sandbox, pauses it for a snapshot and fails to resume it. -/
def ResumeFails (a : Answers) (w : Worker) (cpuset : Cpu) : Prop :=
  w.sandboxState = .nonexistent ∧ w.snapCreationTime = .onCreationBeforeInvoc ∧
    ∃ sb, a.Creates w.functionId cpuset sb ∧ a.FailsToResume sb

/-- A request creates a sandbox and loses it because its cpuset cannot be set up. -/
def LosesSandbox (a : Answers) (w : Worker) (cpuset : Cpu) : Prop :=
  w.sandboxState = .nonexistent ∧ a.FailsAfterCreate w.functionId cpuset

theorem Answers.Creates.unique {function : FunctionId} {sb sb' : Sandbox}
    (h : a.Creates function cpuset sb) (h' : a.Creates function cpuset sb') : sb = sb' := by
  obtain ⟨net, fresh, granted, made, -, rfl⟩ := h
  obtain ⟨net', fresh', granted', made', -, rfl⟩ := h'
  simp_all

theorem Answers.Creates.not_fails {function : FunctionId} {sb : Sandbox}
    (h : a.Creates function cpuset sb) : ¬a.FailsAfterCreate function cpuset := by
  obtain ⟨net, fresh, granted, made, set, rfl⟩ := h
  rintro ⟨_, _, _, -, -, failed⟩
  simp [set] at failed

/-- How a request ends: with a paused sandbox, or with an error that is accepted unless `fails`,
having lost a sandbox exactly if `loses`. -/
def requestPost (a : Answers) (w : Worker) (fails loses : Prop) : Post Worker Error Unit where
  ok _ t := Kept [] w t ∧ t.sandboxState.Paused ∧ ¬fails ∧ ¬loses
  err e t := SnapshotFrom a w t ∧ e.ExpectsUnless t.sandboxState fails ∧
    ∃ held, Kept held w t ∧ (held = [] ↔ ¬loses)
  panic msg _ := msg = newSandboxPanic ∧ ¬fails ∧ ¬loses

theorem handleWithSlot_spec (h : w.sandboxState.Settled) :
    wp (handleWithSlot a req cpuset)
      (requestPost a w (ResumeFails a w cpuset) (LosesSandbox a w cpuset)) w := by
  simp only [handleWithSlot, wp_bind, wp_get, wp_mapErr]
  refine wp_mono (prepareSandbox_spec h) ?_ ?_ nofun
  · rintro _ t ⟨kept, sb, running, creates⟩
    have loses : ¬LosesSandbox a w cpuset := fun ⟨new, failed⟩ => (creates new).not_fails failed
    have fails : (w.sandboxState.asRef = .nonexistent ∧
        t.snapCreationTime = .onCreationBeforeInvoc ∧ a.FailsToResume sb) =
        ResumeFails a w cpuset := by
      have new : w.sandboxState.asRef = .nonexistent ↔ w.sandboxState = .nonexistent := by
        cases w.sandboxState <;> simp [SandboxState.asRef]
      rw [ResumeFails, kept.snapCreationTime, new]
      refine propext (and_congr_right fun new => and_congr_right fun _ => ?_)
      exact ⟨fun f => ⟨sb, creates new, f⟩, fun ⟨sb', made, f⟩ => (creates new).unique made ▸ f⟩
    refine wp_mono (fails ▸ handleWithSandbox_spec running) ?_ ?_ ?_
    · exact fun _ u ⟨kept', paused, fine⟩ => ⟨kept.trans kept', paused, fine, loses⟩
    · exact fun e u ⟨kept', left, expected⟩ => ⟨fun sb snap => absurd snap (left sb), expected, [],
        kept.trans kept', by simp [loses]⟩
    · exact fun msg u ⟨known, fine⟩ => ⟨known, fine, loses⟩
  · rintro e t ⟨left, fails, held, kept, lost⟩
    have fine : ¬ResumeFails a w cpuset := fun ⟨new, _, sb, made, _⟩ => fails new sb made
    exact ⟨left.snapshotFrom, .inl ⟨fine, left.expects⟩, held, kept, lost⟩

end Worker
end Snaplace
