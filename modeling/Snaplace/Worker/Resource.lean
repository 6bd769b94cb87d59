import Snaplace.Foundation.Frame
import Snaplace.Worker.Exit

/-!
# A worker and its network resource

A worker is granted at most one network resource in its life, announces the sandbox created on it,
and sends it back when it has destroyed the sandbox; `ReapMe` comes last. A worker's log is traced
from one of these stages to the next.
-/
namespace Snaplace
open Foundation

namespace Worker
open Handler (Keeps Post wp attempt mapErr fromExcept)
variable {ε : Type}

/-- How far a worker has come with its network resource. -/
inductive Life where
  | fresh
  | granted (net : NetResource)
  /-- The sandbox on it has been announced to the pool. -/
  | owner (net : NetResource)
  | returned
  /-- Out of the main loop, with what is left of the resource. -/
  | gone (net : Option NetResource)
  deriving DecidableEq, Repr

namespace Life

/-- A worker starts with no sandbox or with the one it is given. -/
def ofOption : Option SandboxId → Life
  | some sandbox => owner sandbox
  | none => fresh

def resource : Life → Option NetResource
  | fresh | returned => none
  | granted net | owner net => some net
  | gone net => net

/-- What one action makes of it; `none` for an action that cannot come now. -/
def next (id : WorkerId) : Life → Action → Option Life
  | gone _, _ => none
  | fresh, .allocated net => some (granted net)
  | granted net, .toPool (.sandboxId worker sandbox) =>
    if worker = id ∧ sandbox = net then some (owner net) else none
  | owner net, .deallocate net' _ => if net' = net then some returned else none
  | life, .toPool (.reapMe worker _) => if worker = id then some (gone life.resource) else none
  | _, .allocated _ | _, .deallocate .. | _, .toPool (.sandboxId ..) => none
  | life, _ => some life

def after (id : WorkerId) (life : Life) (log : List Action) : Option Life :=
  log.foldlM (next id) life

variable {id : WorkerId} {life : Life} {log acts : List Action}

theorem after_append : after id life (log ++ acts) = after id life log >>= (after id · acts) :=
  List.foldlM_append ..

theorem after_concat {action : Action} :
    after id life (log ++ [action]) = after id life log >>= (next id · action) := by
  rw [after_append]
  congr 1
  funext l
  simp [after]

end Life

/-- An action that has nothing to do with network resources or with the end of the worker. -/
def Action.Silent : Action → Prop
  | .allocated _ | .deallocate .. | .toPool (.sandboxId ..) | .toPool (.reapMe ..) => False
  | _ => True

theorem Life.next_silent {id : WorkerId} {life : Life} {action : Action} (silent : action.Silent)
    (present : ∀ net, life ≠ gone net) : life.next id action = some life := by
  cases life with
  | gone net => exact absurd rfl (present net)
  | fresh | granted | owner | returned =>
    cases action with
    | toPool msg => cases msg <;> first | rfl | exact silent.elim
    | allocated | deallocate => exact silent.elim
    | created | destroyed | newSnapshot | snapshotRemoved | respond | releaseSlot => rfl

variable {a : Answers} {w t : Worker} {start life : Life} {lost : Prop} {cpuset : Cpu}

/-- A worker that began at `start` has come to `life`. -/
def Reaches (start : Life) (w : Worker) (life : Life) : Prop :=
  Life.after w.id start w.log = some life

theorem Reaches.emit {action : Action} {life' : Life} (h : Reaches start w life)
    (next : life.next w.id action = some life') : Reaches start (w.emit action) life' := by
  unfold Reaches at h ⊢
  rw [emit_log, Life.after_concat]
  change Life.after w.id start w.log >>= _ = _
  rw [h]
  exact next

theorem Reaches.setState {state : SandboxState} (h : Reaches start w life) :
    Reaches start (w.setState state) life := h

/-- From `w` to `t` the worker keeps its sandbox and does nothing about its network resource. -/
structure Calm (w t : Worker) : Prop where
  id : t.id = w.id
  sandbox : t.sandboxState.id = w.sandboxState.id
  acts : ∃ acts, t.log = w.log ++ acts ∧ ∀ act ∈ acts, act.Silent

namespace Calm

theorem refl (w : Worker) : Calm w w := ⟨rfl, rfl, [], by simp, by simp⟩

theorem trans {u : Worker} (h : Calm w t) (h' : Calm t u) : Calm w u := by
  obtain ⟨acts, log, silent⟩ := h.acts
  obtain ⟨acts', log', silent'⟩ := h'.acts
  refine ⟨h'.id.trans h.id, h'.sandbox.trans h.sandbox, acts ++ acts', ?_, ?_⟩
  · rw [log', log, List.append_assoc]
  · intro act mem
    rcases List.mem_append.mp mem with mem | mem
    · exact silent act mem
    · exact silent' act mem

theorem setState {state : SandboxState} (same : state.id = w.sandboxState.id) :
    Calm w (w.setState state) := ⟨rfl, same, [], by simp, by simp⟩

theorem emit {action : Action} (silent : action.Silent) : Calm w (w.emit action) :=
  ⟨rfl, rfl, [action], rfl, by simpa using silent⟩

theorem reaches (h : Calm w t) (present : ∀ net, life ≠ .gone net) (now : Reaches start w life) :
    Reaches start t life := by
  obtain ⟨acts, log, silent⟩ := h.acts
  unfold Reaches at now ⊢
  rw [log, h.id, Life.after_append, now]
  change Life.after w.id life acts = _
  clear log
  induction acts with
  | nil => rfl
  | cons act acts ih =>
    rw [Life.after, List.foldlM_cons, Life.next_silent (silent act (by simp)) present]
    exact ih fun act mem => silent act (by simp [mem])

end Calm

instance : IsPreorder Worker Calm where
  refl := .refl
  trans _ _ _ h h' := h.trans h'

/-! ## Handlers that leave the resource alone -/

section Calm
variable {req : Request}

theorem calm_record {action : Action} (silent : action.Silent) :
    Keeps Calm (record action : Handler Worker ε Unit) := fun _ => .emit silent

theorem calm_sendNeedWork : Keeps Calm (sendNeedWork : Handler Worker ε Unit) :=
  .bind .get fun _ => calm_record trivial

theorem calm_sendSnapshotResult {result : Except Error Unit} {sandboxId : SandboxId} :
    Keeps Calm (sendSnapshotResult result sandboxId : Handler Worker ε Unit) :=
  .bind .get fun _ => calm_record trivial

theorem calm_sendSandboxPrepResult {result : Except String (SandboxId × Bool × SandboxStats)} :
    Keeps Calm (sendSandboxPrepResult result : Handler Worker ε Unit) :=
  .bind .get fun _ => calm_record trivial

theorem calm_loadSandbox : Keeps Calm (loadSandbox a cpuset) := by
  refine .inspect fun w => ?_
  cases state : w.sandboxState with
  | snapshot sb =>
    simp only [Handler.wp_bind, become, Handler.wp_modify, Handler.wp_fromExcept]
    refine ⟨fun _ _ => ⟨fun _ _ => ?_, fun _ _ => ?_⟩, fun _ _ => ?_⟩
    all_goals exact ⟨rfl, by rw [state]; rfl, [], by simp, by simp⟩
  | nonexistent | paused | running | trashed => exact .refl w

theorem calm_pauseSandbox {call : SandboxCall} : Keeps Calm (pauseSandbox call) := by
  refine .inspect fun w => ?_
  cases state : w.sandboxState with
  | running sb =>
    simp only [Handler.wp_bind, become, Handler.wp_modify, Handler.wp_fromExcept]
    have same : Calm w (w.setState (.running (call.on sb))) := .setState (by rw [state]; rfl)
    exact ⟨fun _ _ => same, fun _ _ => same⟩
  | nonexistent | paused | snapshot | trashed => exact .refl w

theorem calm_resumeSandbox {call : SandboxCall} {cpuset : Option Cpu} :
    Keeps Calm (resumeSandbox a call cpuset) := by
  refine .inspect fun w => ?_
  cases state : w.sandboxState with
  | paused sb =>
    simp only [Handler.wp_bind, become, Handler.wp_modify, Handler.wp_fromExcept]
    have same : Calm w (w.setState (.paused (call.on sb))) := .setState (by rw [state]; rfl)
    refine ⟨fun _ _ => ?_, fun _ _ => same⟩
    cases cpuset with
    | none => exact same
    | some cpu =>
      simp only [Handler.wp_bind, Handler.wp_modify, Handler.wp_fromExcept]
      refine ⟨fun _ _ => ?_, fun _ _ => ?_⟩
      all_goals exact ⟨rfl, by rw [state]; rfl, [], by simp, by simp⟩
  | nonexistent | running | snapshot | trashed => exact .refl w

theorem calm_runningToPaused : Keeps Calm runningToPaused := by
  refine .inspect fun w => ?_
  cases state : w.sandboxState with
  | running sb => exact Calm.setState (by rw [state]; rfl)
  | nonexistent | paused | snapshot | trashed => exact .refl w

theorem calm_snapmanNotifyCreation : Keeps Calm (snapmanNotifyCreation a) := by
  refine .bind .get fun w => ?_
  split
  · split
    · exact .pure _
    · exact .bind (.fromExcept _) fun _ => calm_record trivial
    · exact .throw _
  · exact .panicWith _

theorem calm_rtCreateSnapshot {paths : SnapshotPaths} : Keeps Calm (rtCreateSnapshot a paths) := by
  refine .inspect fun w => ?_
  cases state : w.sandboxState with
  | paused sb =>
    simp only [Handler.wp_bind, become, Handler.wp_modify, Handler.wp_fromExcept]
    have same : Calm w (w.setState (.paused ((a.createSnapshot paths).on sb))) :=
      .setState (by rw [state]; rfl)
    exact ⟨fun _ _ => same, fun _ _ => same⟩
  | nonexistent | running | snapshot | trashed => exact .refl w

theorem calm_createSnapshot : Keeps Calm (createSnapshot a) := by
  refine .bind .get fun w => ?_
  split
  · split
    · exact .bind calm_rtCreateSnapshot fun _ => .bind (.attempt calm_snapmanNotifyCreation)
        fun _ => .pure _
    · exact .pure _
    · exact .throw _
  · exact .panicWith _

theorem calm_resumeForInvocation : Keeps Calm (resumeForInvocation a) := by
  refine .bind calm_resumeSandbox fun _ => .inspect fun w => ?_
  cases state : w.sandboxState with
  | paused sb => exact Calm.setState (by rw [state]; rfl)
  | nonexistent | running | snapshot | trashed => exact .refl w

theorem calm_snapshotBeforeInvocation : Keeps Calm (snapshotBeforeInvocation a) := by
  refine .bind .get fun w => ?_
  split
  · exact .bind (.require _ _) fun _ => .bind calm_pauseSandbox fun _ =>
      .bind calm_runningToPaused fun _ => .bind (.attempt calm_createSnapshot) fun _ =>
        calm_resumeForInvocation
  · exact .panicWith _

theorem calm_issueRequest : Keeps Calm (issueRequest a req) := by
  refine .inspect fun w => ?_
  cases state : w.sandboxState with
  | running sb =>
    cases a.issueRequest with
    | ok resp => exact Calm.setState (by rw [state]; rfl)
    | failed err => exact .refl w
    | timedOut => exact .refl w
  | nonexistent | paused | snapshot | trashed => exact .refl w

theorem calm_makeIssuerErrorResponse {err : Error} {message : String} :
    Keeps Calm (makeIssuerErrorResponse a req err message) := by
  unfold makeIssuerErrorResponse
  cases err
  case handleFunctionRequest | issuerTimeout => exact .bind (.pure _) fun _ => .fromExcept _
  all_goals exact .bind (.panicWith _) fun _ => .fromExcept _

theorem calm_prepareResponse {issued : Except Error Response} :
    Keeps Calm (prepareResponse a req issued) := by
  unfold prepareResponse
  split
  · exact .pure _
  · exact .bind (.attempt calm_makeIssuerErrorResponse) fun _ => .pure _
  · exact .bind (.attempt calm_makeIssuerErrorResponse) fun _ => .pure _
  · exact .throw _

theorem calm_forwardIfAny {resp : Option Response} : Keeps Calm (forwardIfAny a req resp) := by
  cases resp with
  | none => exact .pure _
  | some resp =>
    refine .bind (.attempt (.bind (.fromExcept _) fun _ => calm_record trivial)) fun r => ?_
    split
    · exact .pure _
    · exact .pure _

theorem calm_forwardIssued {issued : Except Error Response} :
    Keeps Calm (forwardIssued a req issued) := by
  refine .bind calm_prepareResponse fun prepared => .bind calm_forwardIfAny fun err => ?_
  split
  · exact .throw _
  · exact .pure _

theorem calm_issueAndForward : Keeps Calm (issueAndForward a req) := by
  have monitor : Keeps Calm (spawnPerformanceMonitor a) := by
    refine .bind .get fun w => ?_
    split
    · exact .fromExcept _
    · exact .panicWith _
  exact .bind (.attempt monitor) fun _ => .bind (.attempt calm_issueRequest) fun _ =>
    calm_forwardIssued

theorem calm_pauseAfterInvocation {snapshotNow : Bool} :
    Keeps Calm (pauseAfterInvocation a snapshotNow) := by
  refine .bind calm_pauseSandbox fun _ => .bind calm_runningToPaused fun _ => .ite (fun _ => ?_) ?_
  · exact .bind (.attempt calm_createSnapshot) fun _ => .pure _
  · exact fun _ => .pure _

theorem calm_handleWithSandbox {startState : SandboxStateRef} :
    Keeps Calm (handleWithSandbox a req startState) := by
  refine .bind .get fun w => ?_
  have rest (snapshotNow : Bool) : Keeps Calm (do
      issueAndForward a req
      pauseAfterInvocation a snapshotNow) :=
    .bind calm_issueAndForward fun _ => calm_pauseAfterInvocation
  exact .ite (fun _ => .bind calm_snapshotBeforeInvocation fun _ => rest _) fun _ => rest _

theorem calm_snapshotAfterPreparation {startState : SandboxStateRef} {hasSnapshot : Bool} :
    Keeps Calm (snapshotAfterPreparation a startState hasSnapshot) := by
  refine .bind .get fun w => .ite (fun _ => .bind (.attempt calm_createSnapshot) fun r => ?_)
    fun _ => .pure _
  split
  · exact .pure _
  · exact .pure _

theorem calm_handleSnapshotRequest {sandboxId : SandboxId} :
    Keeps Calm (handleSnapshotRequest a sandboxId : Handler Worker ε Unit) := by
  have onRequest : Keeps Calm (snapshotOnRequest a) := by
    refine .bind .get fun w => ?_
    split
    · exact .pure _
    · exact .ite (fun _ => .pure _) fun _ => calm_createSnapshot
    · exact .throw _
  exact .bind (.attempt onRequest) fun _ => .bind .get fun _ => calm_sendSnapshotResult

end Calm

/-! ## Handlers that create or destroy the sandbox -/

/-- The state agrees with the life, in the middle of a turn in which `lost` says whether a resource
may be lost. The runtime gives back the resource of the sandbox it destroys. -/
def Life.Fits (a : Answers) (lost : Prop) (state : SandboxState) : Life → Prop
  | fresh | returned => state.id = none
  | granted _ => state.id = none ∧ lost
  | owner net => state.id = some net ∧ ∀ net', a.destroySandbox = .ok net' → net' = net
  | gone _ => False

def Holds (start : Life) (a : Answers) (lost : Prop) (w : Worker) : Prop :=
  ∃ life, Reaches start w life ∧ life.Fits a lost w.sandboxState

/-- At the top of the loop a worker that has no sandbox has had no resource. -/
def AtTop (start : Life) (w : Worker) : Prop := Reaches start w (.ofOption w.sandboxState.id)

theorem Holds.calm (h : Holds start a lost w) (calm : Calm w t) : Holds start a lost t := by
  obtain ⟨life, reaches, fits⟩ := h
  refine ⟨life, calm.reaches ?_ reaches, ?_⟩
  · rintro net rfl
    exact fits
  · cases life with
    | fresh | returned => exact calm.sandbox.trans fits
    | granted _ | owner _ => exact ⟨calm.sandbox.trans fits.1, fits.2⟩
    | gone _ => exact fits

theorem Holds.owner {net : NetResource} (h : Holds start a lost w)
    (own : w.sandboxState.id = some net) :
    Reaches start w (.owner net) ∧ ∀ net', a.destroySandbox = .ok net' → net' = net := by
  obtain ⟨life, reaches, fits⟩ := h
  cases life with
  | owner net' =>
    obtain rfl : net' = net := by simpa [fits.1] using own
    exact ⟨reaches, fits.2⟩
  | fresh | returned => simp [Life.Fits, own] at fits
  | granted _ => simp [Life.Fits, own] at fits
  | gone _ => exact fits.elim

theorem AtTop.calm (h : AtTop start w) (calm : Calm w t) : AtTop start t := by
  unfold AtTop at h ⊢
  rw [calm.sandbox]
  refine calm.reaches (fun net => ?_) h
  cases w.sandboxState.id <;> nofun

/-- The worker holds a sandbox on its own resource, which the runtime would give back. -/
def Owns (start : Life) (a : Answers) (w : Worker) : Prop :=
  ∃ net, w.sandboxState.id = some net ∧ Reaches start w (.owner net) ∧
    ∀ net', a.destroySandbox = .ok net' → net' = net

theorem Holds.owns {net : NetResource} (h : Holds start a lost w)
    (own : w.sandboxState.id = some net) : Owns start a w :=
  ⟨net, own, h.owner own⟩

theorem Owns.holds (h : Owns start a w) : Holds start a lost w := by
  obtain ⟨net, own, reaches, returns⟩ := h
  exact ⟨.owner net, reaches, own, returns⟩

theorem Owns.calm (h : Owns start a w) (calm : Calm w t) : Owns start a t := by
  obtain ⟨net, own, reaches, returns⟩ := h
  exact ⟨net, calm.sandbox.trans own, calm.reaches (by simp) reaches, returns⟩

theorem Owns.atTop (h : Owns start a w) : AtTop start w := by
  obtain ⟨net, own, reaches, -⟩ := h
  rwa [AtTop, own]

/-- After a request that prepares the sandbox: it is there, unless the request failed. -/
def serves {α : Type} (start : Life) (a : Answers) (lost : Prop) : Post Worker ε α where
  ok _ := Owns start a
  err _ := Holds start a lost
  panic _ := Holds start a lost

theorem Calm.serves {α : Type} {m : Handler Worker ε α} (h : Keeps Calm m) (owns : Owns start a w) :
    wp m (serves start a lost) w :=
  Handler.wp_mono (h.wp w) (fun _ _ => owns.calm) (fun _ _ calm => (owns.calm calm).holds)
    fun _ _ calm => (owns.calm calm).holds

/-- What the runtime says about resources in a turn that starts at `w`: a new sandbox is named after
its resource, and a destroyed one gives its own resource back. -/
structure Answers.Honest (a : Answers) (w : Worker) : Prop where
  named : ∀ functionId net sandbox, a.createSandbox functionId net = .ok sandbox → sandbox.id = net
  returns : ∀ net, a.destroySandbox = .ok net →
    w.sandboxState.id = some net ∨ w.sandboxState.id = none ∧ a.allocate = .granted net

theorem AtTop.holds (h : AtTop start w) (honest : a.Honest w) : Holds start a lost w := by
  refine ⟨_, h, ?_⟩
  cases own : w.sandboxState.id with
  | none => exact own
  | some net =>
    refine ⟨own, fun net' gives => ?_⟩
    rcases honest.returns net' gives with same | ⟨none, -⟩
    · exact Option.some.inj (same.symm.trans own)
    · simp [none] at own

/-- The runtime does not create a sandbox on the resource granted, or cannot set its cpuset up. -/
def LosesNet (a : Answers) (functionId : FunctionId) (cpuset : Cpu) : Prop :=
  ∃ net, a.allocate = .granted net ∧
    ((a.createSandbox functionId net).isOk = false ∨ (a.setupCpuset cpuset).result.isOk = false)

theorem isOk_of_eq_error {ε α : Type} {r : Except ε α} {e : ε} (h : r = .error e) :
    r.isOk = false := by
  rw [h]
  rfl

section Create
variable (top : AtTop start w) (honest : a.Honest w)
  (may : w.sandboxState = .nonexistent → LosesNet a w.functionId cpuset → lost)
include top honest may

theorem createSandbox_life (empty : w.sandboxState = .nonexistent) :
    wp (createSandbox a cpuset)
      { ok := fun sb t => Reaches start t (.owner sb.id) ∧
          ∀ net, a.destroySandbox = .ok net → net = sb.id
        err := fun _ => Holds start a lost
        panic := fun _ => Holds start a lost } w := by
  have fresh : Reaches start w .fresh := by
    have := top
    rwa [AtTop, empty] at this
  simp only [createSandbox, Handler.wp_bind, Handler.wp_get, empty, record, Handler.wp_modify,
    Handler.wp_fromExcept, sendSandboxId, retrySendToPool, Handler.wp_pure, mapError_eq_ok,
    mapError_eq_error]
  refine ⟨fun net grant => ?_, fun _ _ => ⟨.fresh, fresh, by rw [empty]; rfl⟩⟩
  have allocate : a.allocate = .granted net := by
    cases reply : a.allocate with
    | granted net' =>
      rw [reply] at grant
      cases grant
      rfl
    | refused | noReply | notSent =>
      rw [reply] at grant
      cases grant
  have granted : Reaches start (w.emit (.allocated net)) (.granted net) := fresh.emit rfl
  have loses {t : Worker} (reaches : Reaches start t (.granted net)) (id : t.sandboxState.id = none)
      (failed : (a.createSandbox w.functionId net).isOk = false ∨
        (a.setupCpuset cpuset).result.isOk = false) : Holds start a lost t :=
    ⟨_, reaches, id, may empty ⟨net, allocate, failed⟩⟩
  refine ⟨fun sb made => ⟨fun _ _ => ?_, ?_⟩, ?_⟩
  · have name := honest.named _ _ _ made
    have created : Reaches start ((w.emit (.allocated net)).emit (.created sb.id)) (.granted net) :=
      granted.emit rfl
    refine ⟨created.emit ?_, fun net' gives => ?_⟩
    · simp [Life.next, name]
    · rcases honest.returns net' gives with own | ⟨-, same⟩
      · rw [empty] at own
        cases own
      · rw [allocate] at same
        simpa [name] using same.symm
  · rintro _ ⟨_, failed, -⟩
    refine loses (granted.emit rfl) ?_ (.inr (isOk_of_eq_error failed))
    rw [emit_sandboxState, emit_sandboxState, empty]
    rfl
  · rintro _ ⟨_, failed, -⟩
    refine loses granted ?_ (.inl (isOk_of_eq_error failed))
    rw [emit_sandboxState, empty]
    rfl

theorem prepareSandbox_life : wp (prepareSandbox a cpuset) (serves start a lost) w := by
  have holds : Holds start a lost w := top.holds honest
  unfold prepareSandbox
  simp only [Handler.wp_bind, Handler.wp_get]
  cases state : w.sandboxState with
  | nonexistent =>
    simp only [Handler.wp_bind, become, Handler.wp_modify]
    refine Handler.wp_mono (createSandbox_life top honest may state) ?_ ?_ ?_
    · rintro sb t ⟨reaches, returns⟩
      exact ⟨_, rfl, reaches.setState, returns⟩
    · exact fun _ _ holds => holds
    · exact fun _ _ holds => holds
  | snapshot _ =>
    have owns : Owns start a w := holds.owns (by rw [state]; rfl)
    refine Handler.wp_seq (calm_loadSandbox.wp w) ?_ (fun _ _ => holds.calm) fun _ _ => holds.calm
    intro _ t calm
    simp only [Handler.wp_bind, Handler.wp_get]
    cases state' : t.sandboxState with
    | running sb => exact (owns.calm calm).calm (.setState (by rw [state']))
    | nonexistent | paused _ | snapshot _ | trashed _ => exact holds.calm calm
  | paused _ =>
    have owns : Owns start a w := holds.owns (by rw [state]; rfl)
    refine Handler.wp_seq (calm_resumeSandbox.wp w) ?_ (fun _ _ => holds.calm) fun _ _ => holds.calm
    intro _ t calm
    simp only [Handler.wp_bind, Handler.wp_get]
    cases state' : t.sandboxState with
    | paused sb => exact (owns.calm calm).calm (.setState (by rw [state']; rfl))
    | nonexistent | running _ | snapshot _ | trashed _ => exact holds.calm calm
  | running _ | trashed _ => exact holds

end Create

section Serve
variable {invoc : Invocation} (top : AtTop start w) (honest : a.Honest w)
include top honest

/-- The running slot is released and, after a success, work is asked for. -/
theorem handleRequest_life
    (may : w.sandboxState = .nonexistent → LosesNet a w.functionId invoc.cpuset → lost) :
    wp (handleRequest a invoc) (serves start a lost) w := by
  have served : wp (handleWithSlot a invoc.req invoc.cpuset) (serves start a lost) w := by
    simp only [handleWithSlot, Handler.wp_bind, Handler.wp_get, Handler.wp_mapErr]
    exact Handler.wp_mono (prepareSandbox_life top honest may)
      (fun _ _ owns => Calm.serves calm_handleWithSandbox owns) (fun _ _ holds => holds)
      fun _ _ holds => holds
  simp only [handleRequest, Handler.wp_bind, Handler.wp_attempt, record, Handler.wp_modify,
    Handler.wp_fromExcept]
  refine Handler.wp_mono served (fun _ t owns => ⟨fun _ _ => ?_, by simp⟩)
    (fun err t holds => ⟨by simp, fun _ _ => holds.calm (.emit trivial)⟩) fun _ _ holds => holds
  exact Calm.serves calm_sendNeedWork (owns.calm (.emit trivial))

theorem handlePrepareSandboxRequest_life
    (may : w.sandboxState = .nonexistent → LosesNet a w.functionId cpuset → lost) :
    wp (handlePrepareSandboxRequest a cpuset) (serves start a lost) w := by
  simp only [handlePrepareSandboxRequest, Handler.wp_bind, Handler.wp_get, Handler.wp_attempt]
  refine Handler.wp_mono (prepareSandbox_life top honest may) (fun _ t owns => ?_)
    (fun err t holds => ?_) fun _ _ holds => holds
  · refine Handler.wp_mono (calm_pauseSandbox.wp t) (fun _ u calm => ?_) (fun err u calm => ?_)
      fun _ _ calm => (owns.calm calm).holds
    · have rest : Keeps Calm (do
          let sandbox ← runningToPaused
          let hasSnapshot ← snapshotAfterPreparation a w.sandboxState.asRef sandbox.hasSnapshot
          sendSandboxPrepResult (.ok (sandbox.id, hasSnapshot, sandbox.stats))) :=
        .bind calm_runningToPaused fun _ => .bind calm_snapshotAfterPreparation fun _ =>
          calm_sendSandboxPrepResult
      have served : wp _ (serves start a lost) u := Calm.serves rest (owns.calm calm)
      simpa only [Handler.wp_bind] using served
    · simp only [Handler.wp_throw]
      exact Handler.wp_mono (calm_sendSandboxPrepResult.wp u)
        (fun _ _ calm' => (owns.calm (calm.trans calm')).holds)
        (fun _ _ calm' => (owns.calm (calm.trans calm')).holds)
        fun _ _ calm' => (owns.calm (calm.trans calm')).holds
  · simp only [Handler.wp_throw]
    exact Handler.wp_mono (calm_sendSandboxPrepResult.wp t) (fun _ _ => holds.calm)
      (fun _ _ => holds.calm) fun _ _ => holds.calm

end Serve

section Retire
variable {sb : Sandbox}

/-- What all handlers do that may give the resource back. -/
def Upholds (start : Life) (a : Answers) (lost : Prop) (w t : Worker) : Prop :=
  Holds start a lost w → Holds start a lost t

instance : IsPreorder Worker (Upholds start a lost) where
  refl _ h := h
  trans _ _ _ h h' holds := h' (h holds)

theorem upholds_of {α : Type} {m : Handler Worker ε α}
    (h : Holds start a lost w → wp m (Post.all (Holds start a lost)) w) :
    wp m (Post.all (Upholds start a lost w)) w :=
  Handler.wp_all_iff.mpr fun holds => Handler.wp_all_iff.mp (h holds)

theorem destroyTaken_life (holds : Holds start a lost w) (own : w.sandboxState.id = some sb.id) :
    wp (destroyTaken a sb) (Post.all (Holds start a lost)) w := by
  obtain ⟨owner, returns⟩ := holds.owner own
  simp only [destroyTaken, Handler.wp_bind, become, Handler.wp_modify]
  cases gives : a.destroySandbox with
  | error failure => exact ⟨_, owner.setState, rfl, returns⟩
  | ok net =>
    obtain rfl := returns net gives
    have deallocate : ∀ t, Reaches start t (.owner sb.id) → t.sandboxState.id = none →
        wp (deallocateNet a sb.id) (Post.all (Holds start a lost)) t := by
      intro t reaches empty
      unfold deallocateNet
      cases a.deallocate sb.id with
      | ok => exact ⟨.returned, reaches.emit (if_pos rfl), empty⟩
      | error => exact ⟨.returned, reaches.emit (if_pos rfl), empty⟩
    have destroyed : Reaches start ((w.setState .nonexistent).emit (.destroyed sb.id))
        (.owner sb.id) := owner.setState.emit rfl
    simp only [Handler.wp_bind, record, Handler.wp_modify, releaseDestroyed, Handler.wp_ite,
      Handler.wp_attempt, snapmanNotifyRemoval, Handler.wp_fromExcept, Handler.wp_get]
    refine ⟨fun _ => ⟨fun _ _ => ?_, fun _ _ => ?_⟩, fun _ => deallocate _ destroyed rfl⟩
    · exact deallocate _ (destroyed.emit rfl) rfl
    · exact deallocate _ destroyed rfl

theorem upholds_destroySandbox : Keeps (Upholds start a lost) (destroySandbox a) := by
  refine .inspect fun w => upholds_of fun holds => ?_
  cases state : w.sandboxState with
  | nonexistent | trashed => exact holds
  | paused | snapshot | running => exact destroyTaken_life holds (by rw [state]; rfl)

theorem calm_shutdownOrTrash (own : w.sandboxState.id = some sb.id) :
    wp (shutdownOrTrash a sb) (Post.all (Calm w)) w := by
  unfold shutdownOrTrash
  cases a.shutdownSandbox.result with
  | ok => exact Calm.setState own.symm
  | error => exact Calm.setState own.symm

theorem upholds_shutdown : Keeps (Upholds start a lost) (shutdown a) := by
  refine .inspect fun w => upholds_of fun holds => ?_
  cases state : w.sandboxState with
  | paused sb =>
    simp only [Handler.wp_ite, Handler.wp_mapErr]
    have destroy := Handler.wp_all_iff.mpr (upholds_destroySandbox w holds)
    refine ⟨fun _ => ?_, fun _ => destroy⟩
    exact Handler.wp_mono (calm_shutdownOrTrash (by rw [state]; rfl)) (fun _ _ => holds.calm)
      (fun _ _ => holds.calm) fun _ _ => holds.calm
  | nonexistent | snapshot | running | trashed => exact holds

theorem retireRunning_life (holds : Holds start a lost w) (own : w.sandboxState.id = some sb.id) :
    wp (retireRunning a sb) (Post.all (Holds start a lost)) w := by
  unfold retireRunning
  cases a.pauseForCleanup.result with
  | error => exact holds.calm (.setState own.symm)
  | ok =>
    simp only [Handler.wp_ite, Handler.wp_mapErr, Handler.wp_bind, become, Handler.wp_modify]
    have paused : Holds start a lost (w.setState (.paused (a.pauseForCleanup.on sb))) :=
      holds.calm (.setState own.symm)
    refine ⟨fun _ => ?_, fun _ => Handler.wp_all_iff.mpr (upholds_destroySandbox _ paused)⟩
    exact Handler.wp_mono (calm_shutdownOrTrash own) (fun _ _ => holds.calm)
      (fun _ _ => holds.calm) fun _ _ => holds.calm

theorem cleanupPaused_life (holds : Holds start a lost w) (own : w.sandboxState.id = some sb.id) :
    wp (cleanupPaused a sb) (Post.all (Holds start a lost)) w := by
  simp only [cleanupPaused, Handler.wp_ite, Handler.wp_mapErr]
  refine ⟨fun _ => ?_, fun _ => Handler.wp_all_iff.mpr (upholds_destroySandbox w holds)⟩
  exact Handler.wp_mono (calm_shutdownOrTrash own) (fun _ _ => holds.calm)
    (fun _ _ => holds.calm) fun _ _ => holds.calm

theorem upholds_tryHandleFailure {err : Error} :
    Keeps (Upholds start a lost) (tryHandleFailure a err) := by
  refine .inspect fun w => upholds_of fun holds => ?_
  cases err with
  | prepareSandbox =>
    cases state : w.sandboxState with
    | nonexistent | snapshot | trashed => exact holds
    | paused => exact cleanupPaused_life holds (by rw [state]; rfl)
    | running => exact retireRunning_life holds (by rw [state]; rfl)
  | handleFunctionRequest | issuerTimeout | forwardToSink =>
    cases state : w.sandboxState with
    | running => exact retireRunning_life holds (by rw [state]; rfl)
    | nonexistent | snapshot | trashed | paused => exact holds
  | pauseSandbox =>
    cases state : w.sandboxState with
    | running sb =>
      dsimp only
      have destroy : ∀ t : Worker, Holds start a lost t →
          wp (mapErr (fun _ => ()) (destroySandbox a)) (Post.all (Holds start a lost)) t :=
        fun t holds => Handler.wp_all_iff.mpr ((Keeps.mapErr upholds_destroySandbox) t holds)
      cases a.pauseAgain.result with
      | ok => exact destroy _ (holds.calm (.setState (by rw [state]; rfl)))
      | error => exact destroy _ (holds.calm (.setState (by rw [state]; rfl)))
    | nonexistent | snapshot | trashed | paused => exact holds
  | init | forward | shutDown | channel | network | createSandbox
  | loadSandbox | resumeSandbox | setupCpuset | createSnapshot | shutdownSandbox
  | destroySandbox | snapshotManager | createSnapshotControl | createState =>
    exact holds

end Retire

/-! ## Turns -/

/-- The runtime loses the network resource of the request that is taken. -/
def LosesNetAt (w : Worker) (input : Recv × Answers) : Prop :=
  ∃ cpuset, input.1.preparesOn = some cpuset ∧ w.sandboxState = .nonexistent ∧
    LosesNet input.2 w.functionId cpuset

/-- After a message: at the top of the loop again, or about to leave. -/
def goesOn (start : Life) (a : Answers) (lost : Prop) : Post Worker ε Verdict where
  ok verdict t := match verdict with
    | none => AtTop start t
    | some _ => Holds start a lost t
  err _ _ := True
  panic _ _ := True

section Turn
variable {recv : Recv} {input : Recv × Answers}

theorem afterRequest_life {request : WorkerM Unit} (served : wp request (serves start a lost) w) :
    wp (ε := ε) (attempt request >>= afterRequest a) (goesOn start a lost) w := by
  rw [Handler.wp_bind, Handler.wp_attempt]
  refine Handler.wp_mono served (fun _ _ owns => owns.atTop) (fun err t holds => ?_)
    fun _ _ _ => trivial
  simp only [afterRequest, Handler.wp_bind, Handler.wp_attempt, Handler.wp_pure]
  exact Handler.wp_mono (upholds_tryHandleFailure.wp t) (fun _ _ upholds => upholds holds)
    (fun _ _ upholds => upholds holds) fun _ _ _ => trivial

theorem leaves_life {m : WorkerM Unit} (upholds : Keeps (Upholds start a lost) m)
    (holds : Holds start a lost w) :
    wp (ε := ε) (some <$> attempt m) (goesOn start a lost) w := by
  simp only [Handler.wp_map, Handler.wp_attempt]
  exact Handler.wp_mono (upholds.wp w) (fun _ _ kept => kept holds) (fun _ _ kept => kept holds)
    fun _ _ _ => trivial

theorem handle_life (top : AtTop start w) (honest : a.Honest w)
    (may : LosesNetAt w (recv, a) → lost) :
    wp (ε := ε) (handle a recv) (goesOn start a lost) w := by
  have holds : Holds start a lost w := top.holds honest
  cases recv with
  | invocation invoc =>
    exact afterRequest_life (handleRequest_life top honest fun empty loses =>
      may ⟨invoc.cpuset, rfl, empty, loses⟩)
  | control msg =>
    cases msg with
    | prepareSandbox cpuset =>
      exact afterRequest_life (handlePrepareSandboxRequest_life top honest fun empty loses =>
        may ⟨cpuset, rfl, empty, loses⟩)
    | shutDown => exact leaves_life upholds_shutdown holds
    | destroySandbox => exact leaves_life upholds_destroySandbox holds
    | createSnapshot sandboxId =>
      simp only [handle, Handler.wp_bind, Handler.wp_pure]
      exact Handler.wp_mono (calm_handleSnapshotRequest.wp w) (fun _ _ calm => top.calm calm)
        (fun _ _ _ => trivial) fun _ _ _ => trivial
  | invocationsClosed | controlClosed => exact holds

/-- The worker is gone: it hands back the sandbox on its resource, or has none, or it lost it. -/
def Gone (start : Life) (lost : Prop) (exit : WorkerExit) (t : Worker) : Prop :=
  ∃ net, Reaches start t (.gone net) ∧
    (exit.sandbox.toOption.map Sandbox.id = net ∨ lost ∧ exit.sandbox = .none)

theorem ofState_id (state : SandboxState) :
    (SandboxExit.ofState state).toOption.map Sandbox.id = state.id := by
  cases state <;> rfl

theorem ofState_eq_none {state : SandboxState} (empty : state.id = none) :
    SandboxExit.ofState state = .none := by
  cases state with
  | nonexistent => rfl
  | paused | snapshot | running | trashed => cases empty

theorem uncacheSandbox_same : wp (uncacheSandbox a : Handler Worker ε Unit)
    { ok := fun _ t => t = w, err := fun _ _ => True, panic := fun _ _ => True } w := by
  simp only [uncacheSandbox, Handler.wp_bind, Handler.wp_get]
  cases w.sandboxState with
  | snapshot sandbox =>
    rw [Handler.wp_ite]
    exact ⟨fun _ => rfl, fun _ => trivial⟩
  | nonexistent => rfl
  | paused | running | trashed => trivial

/-- `ReapMe` is the last action. -/
theorem leave_life {status : Except Error Unit} (holds : Holds start a lost w) :
    wp (ε := ε) (leave a status)
      { ok := fun exit t => Gone start lost exit t
        err := fun _ _ => True
        panic := fun _ _ => True } w := by
  have told (t : Worker) (same : t = w.emit (.toPool (.reapMe w.id w.functionId))) :
      wp (ε := ε) (takeExit status)
        { ok := fun exit t => Gone start lost exit t, err := fun _ _ => True,
          panic := fun _ _ => True } t := by
    obtain ⟨life, reaches, fits⟩ := holds
    have gone : Reaches start t (.gone life.resource) := by
      rw [same]
      refine reaches.emit ?_
      cases life <;> simp [Life.next, Life.Fits] at fits ⊢
    refine ⟨life.resource, gone, ?_⟩
    have state : t.sandboxState = w.sandboxState := by rw [same]; rfl
    simp only [state]
    cases life with
    | fresh | returned => exact .inl ((ofState_id _).trans fits)
    | owner net => exact .inl ((ofState_id _).trans fits.1)
    | granted net => exact .inr ⟨fits.2, ofState_eq_none fits.1⟩
    | gone net => exact fits.elim
  simp only [leave, sendReapMe, retrySendToPool, record, Handler.wp_bind, Handler.wp_get,
    Handler.wp_modify]
  cases status with
  | ok _ =>
    change wp (uncacheSandbox a >>= fun _ => takeExit _) _ _
    rw [Handler.wp_bind]
    exact Handler.wp_mono uncacheSandbox_same (fun _ t same => told t same) (fun _ _ _ => trivial)
      fun _ _ _ => trivial
  | error err => exact told _ rfl

/-- The step lemma. -/
theorem turn_life (top : AtTop start w) (honest : input.2.Honest w)
    (may : LosesNetAt w input → lost) :
    wp (turn input)
      { ok := fun r t => (r = none → AtTop start t) ∧ ∀ exit, r = some exit → Gone start lost exit t
        err := fun _ _ => True
        panic := fun _ _ => True } w := by
  simp only [turn, Handler.wp_bind, Handler.wp_get, Handler.wp_require]
  refine ⟨fun _ => Handler.wp_mono (handle_life top honest may) (fun verdict t after => ?_)
    (fun _ _ _ => trivial) fun _ _ _ => trivial, fun _ => trivial⟩
  cases verdict with
  | none => exact ⟨fun _ => after, by simp⟩
  | some status =>
    simp only [Handler.wp_map]
    exact Handler.wp_mono (leave_life after) (fun _ _ gone => ⟨by simp, by simpa using gone⟩)
      (fun _ _ _ => trivial) fun _ _ _ => trivial

end Turn

section Run
variable (id : WorkerId) (functionId : FunctionId) (mode : SnapshotCreationTime)
  (timeout : Duration) (sandbox : Option Sandbox)

/-- Where a run stands, told by the log: at a stage of the worker's life, or gone. Nothing is said of
a run that panics: the panic aborts the process, wherever in a turn it comes. -/
def Lived (start : Life) (lost : Prop) : Progress Worker WorkerExit → Prop
  | .running t => AtTop start t
  | .exited exit t => Gone start lost exit t
  | .panicked _ _ => True

theorem atTop_spawn : AtTop (.ofOption (sandbox.map Sandbox.id))
    (spawn id functionId mode timeout sandbox) := by
  cases sandbox <;> rfl

/-- The run lemma: a worker is granted at most one network resource, it announces a sandbox only on
the one it was granted, gives back only its own and that once, and its last message is `ReapMe`; the
resource that it has then is the one of the sandbox that it hands back, unless the runtime lost
it. Runs that panic are left open, as in `Lived`. -/
theorem resource_traced (lost : Prop) (inputs : List (Recv × Answers))
    (honest : AllTurns turn (fun w input => input.2.Honest w ∧ (LosesNetAt w input → lost)) inputs
      (spawn id functionId mode timeout sandbox)) :
    Lived (.ofOption (sandbox.map Sandbox.id)) lost
      (run (.ok ()) inputs (spawn id functionId mode timeout sandbox)) := by
  have all := iterate_invariant (I := AtTop (.ofOption (sandbox.map Sandbox.id)))
    (E := Gone (.ofOption (sandbox.map Sandbox.id)) lost) (P := fun _ _ => True)
    ?_ (atTop_spawn ..) honest
  rotate_left
  · intro w input top meets
    refine Handler.wp_mono (turn_life top meets.1 meets.2) (fun r t after => ?_)
      (fun _ _ _ => trivial) fun _ _ _ => trivial
    cases r with
    | none => exact after.1 rfl
    | some exit => exact after.2 exit rfl
  cases ended : run (.ok ()) inputs (spawn id functionId mode timeout sandbox) with
  | running t | exited exit t | panicked msg t =>
    rw [run] at ended
    rw [ended] at all
    exact all

end Run

/-- A sandbox is named after its network resource. -/
def Answers.onTap : Answers :=
  { Answers.calm with
    createSandbox := fun _ net => .ok { id := net, hasSnapshot := false, stats := ⟨0, 0⟩ } }

/-- An invocation, then the shutdown, at which the sandbox is destroyed. -/
def tapInputs : List (Recv × Answers) :=
  [(.invocation ⟨⟨0, 0, none⟩, 0⟩, .onTap), (.control .shutDown, .onTap)]

theorem resource_traced_onTap :
    Lived .fresh False (run (.ok ()) tapInputs (spawn 0 0 .never 0 none)) := by
  refine resource_traced 0 0 .never 0 none False tapInputs ?_
  have honest (w : Worker) (own : w.sandboxState.id = some 1 ∨ w.sandboxState.id = none) :
      Answers.onTap.Honest w := by
    constructor
    · rintro functionId net sandbox ⟨⟩
      rfl
    · rintro net ⟨⟩
      exact own.imp_right fun none => ⟨none, rfl⟩
  have found (w : Worker) (recv : Recv) : ¬LosesNetAt w (recv, .onTap) := by
    rintro ⟨cpuset, -, -, net, -, made | set⟩
    · cases made
    · cases set
  refine ⟨⟨honest _ (.inr rfl), fun loses => found _ _ loses⟩, fun t stays => ?_⟩
  cases stays
  refine ⟨⟨honest _ (.inl rfl), fun loses => found _ _ loses⟩, fun t stays => ?_⟩
  cases stays

/-- Its resource has been given back. -/
example : (run (.ok ()) tapInputs (spawn 0 0 .never 0 none)).state.log.count (.deallocate 1 true) =
    1 := by
  decide

end Worker
end Snaplace
