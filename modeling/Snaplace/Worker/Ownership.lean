import Snaplace.Worker.MainLoop

/-!
# Who owns a sandbox

Every sandbox the runtime creates for a worker is, at any time, held by the worker's state, destroyed
by the runtime, or held by a local variable. `Kept held w t` is that balance between two moments,
with `held` the sandboxes in local variables at the second one.
-/
namespace Snaplace
open Foundation Foundation.Handler

namespace Worker
variable {ε : Type}

def created (log : List Action) : List SandboxId :=
  log.filterMap fun action => match action with
    | .created sandbox => some sandbox
    | _ => none

def destroyed (log : List Action) : List SandboxId :=
  log.filterMap fun action => match action with
    | .destroyed sandbox => some sandbox
    | _ => none

def reapMes (log : List Action) : List WorkerId :=
  log.filterMap fun action => match action with
    | .toPool (.reapMe worker _) => some worker
    | _ => none

@[simp] theorem created_append (l m : List Action) :
    created (l ++ m) = created l ++ created m := List.filterMap_append

@[simp] theorem destroyed_append (l m : List Action) :
    destroyed (l ++ m) = destroyed l ++ destroyed m := List.filterMap_append

@[simp] theorem reapMes_append (l m : List Action) :
    reapMes (l ++ m) = reapMes l ++ reapMes m := List.filterMap_append

/-- The sandbox a worker's state holds, as a list. -/
def SandboxState.owned (state : SandboxState) : List SandboxId := state.id.toList

@[simp] theorem owned_nonexistent : SandboxState.nonexistent.owned = [] := rfl
@[simp] theorem owned_paused (sb : Sandbox) : (SandboxState.paused sb).owned = [sb.id] := rfl
@[simp] theorem owned_snapshot (sb : Sandbox) : (SandboxState.snapshot sb).owned = [sb.id] := rfl
@[simp] theorem owned_running (sb : Sandbox) : (SandboxState.running sb).owned = [sb.id] := rfl
@[simp] theorem owned_trashed (sb : Sandbox) : (SandboxState.trashed sb).owned = [sb.id] := rfl

/-- From `w` to `t` no sandbox appears or disappears except into `held`, and no `ReapMe` is sent. -/
structure Kept (held : List SandboxId) (w t : Worker) : Prop where
  id : t.id = w.id
  functionId : t.functionId = w.functionId
  snapCreationTime : t.snapCreationTime = w.snapCreationTime
  reapMes : reapMes t.log = reapMes w.log
  balance : ∀ sb,
    (created t.log).count sb + (destroyed w.log).count sb + w.sandboxState.owned.count sb =
      (created w.log).count sb + (destroyed t.log).count sb + t.sandboxState.owned.count sb +
        held.count sb

theorem Kept.refl (w : Worker) : Kept [] w w where
  id := rfl
  functionId := rfl
  snapCreationTime := rfl
  reapMes := rfl
  balance sb := by simp

theorem Kept.trans {held held' : List SandboxId} {w t u : Worker} (h : Kept held w t)
    (h' : Kept held' t u) : Kept (held ++ held') w u where
  id := h'.id.trans h.id
  functionId := h'.functionId.trans h.functionId
  snapCreationTime := h'.snapCreationTime.trans h.snapCreationTime
  reapMes := h'.reapMes.trans h.reapMes
  balance sb := by
    have := h.balance sb
    have := h'.balance sb
    simp only [List.count_append]
    omega

/-- Actions other than creation, destruction and `ReapMe` do not move a sandbox. -/
theorem Kept.emit {held : List SandboxId} {w t : Worker} {action : Action} (h : Kept held w t)
    (hc : created [action] = []) (hd : destroyed [action] = []) (hr : Worker.reapMes [action] = []) :
    Kept held w (t.emit action) where
  id := h.id
  functionId := h.functionId
  snapCreationTime := h.snapCreationTime
  reapMes := by simp [hr, h.reapMes]
  balance sb := by simpa [hc, hd] using h.balance sb

/-- Changing the state around the same sandbox does not move it. -/
theorem Kept.setState {held : List SandboxId} {w t : Worker} {state : SandboxState}
    (h : Kept held w t) (same : state.owned = t.sandboxState.owned) :
    Kept held w (t.setState state) where
  id := h.id
  functionId := h.functionId
  snapCreationTime := h.snapCreationTime
  reapMes := h.reapMes
  balance sb := by simpa [same] using h.balance sb

/-- A sandbox held by a local variable moves into an empty state. -/
theorem Kept.attach {sb : Sandbox} {w t : Worker} {state : SandboxState} (h : Kept [sb.id] w t)
    (empty : t.sandboxState = .nonexistent) (own : state.owned = [sb.id]) :
    Kept [] w (t.setState state) where
  id := h.id
  functionId := h.functionId
  snapCreationTime := h.snapCreationTime
  reapMes := h.reapMes
  balance x := by simpa [empty, own] using h.balance x

/-- A sandbox moves out of the state into a local variable. -/
theorem Kept.detach {sb : SandboxId} {w t : Worker} (h : Kept [] w t)
    (own : t.sandboxState.owned = [sb]) : Kept [sb] w (t.setState .nonexistent) where
  id := h.id
  functionId := h.functionId
  snapCreationTime := h.snapCreationTime
  reapMes := h.reapMes
  balance x := by simpa [own] using h.balance x

theorem Kept.destroyed {sb : SandboxId} {w t : Worker} (h : Kept [sb] w t) :
    Kept [] w (t.emit (.destroyed sb)) where
  id := h.id
  functionId := h.functionId
  snapCreationTime := h.snapCreationTime
  reapMes := by rw [emit_log, reapMes_append, h.reapMes]; exact List.append_nil _
  balance x := by
    have := h.balance x
    have : Worker.created [.destroyed sb] = [] ∧ Worker.destroyed [.destroyed sb] = [sb] :=
      ⟨rfl, rfl⟩
    simp_all
    omega

theorem Kept.created {sb : SandboxId} {w t : Worker} (h : Kept [] w t) :
    Kept [sb] w (t.emit (.created sb)) where
  id := h.id
  functionId := h.functionId
  snapCreationTime := h.snapCreationTime
  reapMes := by rw [emit_log, reapMes_append, h.reapMes]; exact List.append_nil _
  balance x := by
    have := h.balance x
    have : Worker.created [.created sb] = [sb] ∧ Worker.destroyed [.created sb] = [] := ⟨rfl, rfl⟩
    simp_all
    omega

/-- A fresh sandbox `sb` is created for `function` and its cpuset set up. -/
def Answers.Creates (a : Answers) (function : FunctionId) (cpuset : Cpu) (sb : Sandbox) : Prop :=
  ∃ net fresh, a.allocate = .granted net ∧ a.createSandbox function net = .ok fresh ∧
    (a.setupCpuset cpuset).result = .ok () ∧ sb = (a.setupCpuset cpuset).on fresh

/-- The runtime creates a sandbox and then fails to set its cpuset up. -/
def Answers.FailsAfterCreate (a : Answers) (function : FunctionId) (cpuset : Cpu) : Prop :=
  ∃ net fresh err, a.allocate = .granted net ∧ a.createSandbox function net = .ok fresh ∧
    (a.setupCpuset cpuset).result = .error err

@[simp] theorem allocateNet_eq_ok {reply : AllocateReply} {net : NetResource} :
    (allocateNet reply = .ok net) = (reply = .granted net) := by
  cases reply <;> simp [allocateNet]

variable {a : Answers} {w t : Worker} {cpuset : Cpu} {held : List SandboxId}

theorem Kept.allocated {net : NetResource} (h : Kept held w t) :
    Kept held w (t.emit (.allocated net)) := h.emit rfl rfl rfl

theorem Kept.sentSandboxId {worker : WorkerId} {sb : SandboxId} (h : Kept held w t) :
    Kept held w (t.emit (.toPool (.sandboxId worker sb))) := h.emit rfl rfl rfl

theorem createSandbox_spec (h : w.sandboxState = .nonexistent) :
    wp (createSandbox a cpuset)
      { ok := fun sb t => t.sandboxState = .nonexistent ∧ Kept [sb.id] w t ∧
          a.Creates w.functionId cpuset sb
        err := fun _ t => t.sandboxState = .nonexistent ∧
          (∀ sb, ¬a.Creates w.functionId cpuset sb) ∧ ∃ held, Kept held w t ∧
            (held = [] ↔ ¬a.FailsAfterCreate w.functionId cpuset) } w := by
  simp only [createSandbox, wp_bind, wp_get, h, wp_fromExcept, allocateNet_eq_ok, record, wp_modify,
    mapError_eq_ok, mapError_eq_error, sendSandboxId, retrySendToPool, wp_pure]
  refine ⟨fun net granted => ⟨fun fresh made => ⟨fun _ set => ?_, ?_⟩, ?_⟩, ?_⟩
  · exact ⟨by simp [h], (Kept.refl w).allocated.created.sentSandboxId, net, fresh, granted, made,
      set, rfl⟩
  · rintro _ ⟨err, failed, -⟩
    have fails : a.FailsAfterCreate w.functionId cpuset := ⟨net, fresh, err, granted, made, failed⟩
    refine ⟨h, ?_, [fresh.id], (Kept.refl w).allocated.created, by simp [fails]⟩
    rintro sb ⟨-, -, -, -, set, -⟩
    simp [failed] at set
  · rintro _ ⟨err, failed, -⟩
    have : ¬a.FailsAfterCreate w.functionId cpuset := by
      rintro ⟨net', fresh, -, granted', made, -⟩
      simp_all
    refine ⟨h, ?_, [], (Kept.refl w).allocated, by simp [this]⟩
    rintro sb ⟨net', fresh, granted', made, -⟩
    simp_all
  · intro e refused
    have refused' : ∀ net, a.allocate ≠ .granted net := by
      intro net granted
      simp [granted, allocateNet] at refused
    have : ¬a.FailsAfterCreate w.functionId cpuset := fun ⟨net, _, _, granted, _⟩ =>
      refused' net granted
    exact ⟨trivial, fun _ ⟨net, _, granted, _⟩ => refused' net granted, [], Kept.refl w,
      by simp [this]⟩

/-- From `w` to `t` the same sandbox stays in the state, and nothing but the state changed. -/
theorem Kept.of_setState {state : SandboxState} (same : state.owned = w.sandboxState.owned) :
    Kept [] w (w.setState state) := (Kept.refl w).setState same

theorem loadSandbox_spec {sb : Sandbox} (h : w.sandboxState = .snapshot sb) :
    wp (loadSandbox a cpuset)
      { ok := fun _ t => Kept [] w t ∧ ∃ sb', t.sandboxState = .running sb'
        err := fun _ t => Kept [] w t ∧
          (t.sandboxState = .snapshot (a.loadSandbox.on sb) ∨ ∃ sb', t.sandboxState = .running sb') }
      w := by
  simp only [loadSandbox, wp_bind, wp_get, h, become, wp_modify, wp_fromExcept, mapError_eq_ok,
    mapError_eq_error]
  refine ⟨fun _ _ => ⟨fun _ _ => ?_, fun _ _ => ?_⟩, fun _ _ => ?_⟩
  · exact ⟨(Kept.of_setState (by simp [h])).setState (by simp), _, rfl⟩
  · exact ⟨(Kept.of_setState (by simp [h])).setState (by simp), .inr ⟨_, rfl⟩⟩
  · exact ⟨Kept.of_setState (by simp [h]), .inl rfl⟩

theorem pauseSandbox_spec {sb : Sandbox} {call : SandboxCall} (h : w.sandboxState = .running sb) :
    wp (pauseSandbox call)
      { ok := fun _ t => t = w.setState (.running (call.on sb)) ∧ call.result = .ok ()
        err := fun e t => t = w.setState (.running (call.on sb)) ∧
          ∃ source, call.result = .error source ∧ e = .pauseSandbox source } w := by
  simp only [pauseSandbox, wp_bind, wp_get, h, become, wp_modify, wp_fromExcept, mapError_eq_ok,
    mapError_eq_error]
  refine ⟨fun _ ok => ⟨trivial, ok⟩, ?_⟩
  rintro _ ⟨source, failed, rfl⟩
  exact ⟨trivial, source, failed, rfl⟩

theorem resumeSandbox_spec {sb : Sandbox} {call : SandboxCall} {cpuset : Option Cpu}
    (h : w.sandboxState = .paused sb) :
    wp (resumeSandbox a call cpuset)
      { ok := fun _ t => ∃ sb', sb'.id = sb.id ∧ t = w.setState (.paused sb') ∧
          call.result = .ok ()
        err := fun e t => ∃ sb', sb'.id = sb.id ∧ t = w.setState (.paused sb') ∧
          (cpuset = none → ∃ source, call.result = .error source ∧ e = .resumeSandbox source) }
      w := by
  simp only [resumeSandbox, wp_bind, wp_get, h, become, wp_modify, wp_fromExcept, mapError_eq_ok,
    mapError_eq_error]
  refine ⟨fun _ ok => ?_, ?_⟩
  · cases cpuset with
    | none => exact ⟨call.on sb, rfl, rfl, ok⟩
    | some cpu =>
      simp only [wp_bind, wp_modify, wp_fromExcept, mapError_eq_ok, mapError_eq_error]
      exact ⟨fun _ _ => ⟨(a.setupCpuset cpu).on (call.on sb), rfl, rfl, ok⟩,
        fun _ _ => ⟨(a.setupCpuset cpu).on (call.on sb), rfl, rfl, nofun⟩⟩
  · rintro _ ⟨source, failed, rfl⟩
    exact ⟨call.on sb, rfl, rfl, fun _ => ⟨source, failed, rfl⟩⟩

theorem runningToPaused_spec {sb : Sandbox} (h : w.sandboxState = .running sb) :
    wp runningToPaused
      { ok := fun sb' t => sb' = sb ∧ t = w.setState (.paused sb), err := fun _ _ => False } w := by
  simp [runningToPaused, h, become]

/-- What a failed preparation leaves: never a trashed sandbox, and a snapshot only if the runtime
failed to load the one the worker had. -/
def LeftByFailedPrepare (a : Answers) (w : Worker) : SandboxState → Prop
  | .snapshot sb => ∃ old, w.sandboxState = .snapshot old ∧ sb = a.loadSandbox.on old
  | .trashed _ => False
  | _ => True

theorem prepareSandbox_spec (h : w.sandboxState.Settled) :
    wp (prepareSandbox a cpuset)
      { ok := fun _ t => Kept [] w t ∧ ∃ sb, t.sandboxState = .running sb ∧
          (w.sandboxState = .nonexistent → a.Creates w.functionId cpuset sb)
        err := fun _ t => LeftByFailedPrepare a w t.sandboxState ∧
          (w.sandboxState = .nonexistent → ∀ sb, ¬a.Creates w.functionId cpuset sb) ∧
          ∃ held, Kept held w t ∧ (held = [] ↔
            ¬(w.sandboxState = .nonexistent ∧ a.FailsAfterCreate w.functionId cpuset)) }
      w := by
  unfold prepareSandbox
  simp only [wp_bind, wp_get]
  match state : w.sandboxState with
  | .nonexistent =>
    simp only [wp_bind, become, wp_modify]
    refine wp_mono (createSandbox_spec state) ?_ ?_ (fun _ _ h => h)
    · rintro sb t ⟨empty, kept, creates⟩
      exact ⟨kept.attach empty rfl, sb, rfl, fun _ => creates⟩
    · rintro e t ⟨empty, fails, held, kept, iff⟩
      exact ⟨by simp [empty, LeftByFailedPrepare], fun _ => fails, held, kept, by simp [iff]⟩
  | .snapshot sb =>
    simp only [wp_bind, wp_get]
    refine wp_mono (loadSandbox_spec state) ?_ ?_ (fun _ _ h => h)
    · rintro _ t ⟨kept, sb', running⟩
      simp only [running, wp_bind, wp_pure, become, wp_modify]
      exact ⟨kept.setState (by simp [running]), sb', rfl, nofun⟩
    · rintro e t ⟨kept, left⟩
      refine ⟨?_, nofun, [], kept, by simp⟩
      rcases left with left | ⟨sb', left⟩
      · exact left ▸ ⟨sb, state, rfl⟩
      · exact left ▸ trivial
  | .paused sb =>
    simp only [wp_bind, wp_get]
    refine wp_mono (resumeSandbox_spec state) ?_ ?_ (fun _ _ h => h)
    · rintro _ t ⟨sb', same, rfl, -⟩
      simp only [setState_sandboxState, wp_bind, wp_pure, become, wp_modify]
      exact ⟨(Kept.of_setState (by simp [state, same])).setState (by simp), sb', rfl, nofun⟩
    · rintro e t ⟨sb', same, rfl, -⟩
      exact ⟨trivial, nofun, [], Kept.of_setState (by simp [state, same]), by simp⟩
  | .running _ | .trashed _ => simp [state, SandboxState.Settled] at h

/-- From `w` to `t` a worker in `Paused` stays in `Paused` with the same sandbox. -/
def StaysPaused (sb : Sandbox) (w t : Worker) : Prop :=
  Kept [] w t ∧ ∃ sb', sb'.id = sb.id ∧ t.sandboxState = .paused sb'

theorem snapmanNotifyCreation_spec {sb : Sandbox} (h : w.sandboxState = .paused sb) :
    wp (snapmanNotifyCreation a) (Post.state (StaysPaused sb w)) w := by
  have unchanged : StaysPaused sb w w := ⟨Kept.refl w, sb, rfl, h⟩
  unfold snapmanNotifyCreation
  simp only [wp_bind, wp_get, h]
  match a.snapshotState sb with
  | none => exact unchanged
  | some (.error err) => exact unchanged
  | some (.ok state) =>
    simp only [wp_bind, wp_fromExcept, record, wp_modify]
    exact ⟨fun _ _ => ⟨(Kept.refl w).emit rfl rfl rfl, sb, rfl, h⟩, fun _ _ => unchanged⟩

theorem createSnapshot_spec {sb : Sandbox} (h : w.sandboxState = .paused sb) :
    wp (createSnapshot a) (Post.state (StaysPaused sb w)) w := by
  have unchanged : StaysPaused sb w w := ⟨Kept.refl w, sb, rfl, h⟩
  unfold createSnapshot
  simp only [wp_bind, wp_get, h]
  match a.queryPaths with
  | .ok none => exact unchanged
  | .error err => exact unchanged
  | .ok (some paths) =>
    simp only [rtCreateSnapshot, wp_bind, wp_get, h, become, wp_modify, wp_fromExcept, wp_attempt]
    generalize a.createSnapshot (paths.forSandbox sb.id) = call
    have kept : Kept [] w (w.setState (.paused (call.on sb))) := Kept.of_setState (by simp [h])
    refine ⟨fun _ _ => ?_, fun _ _ => ⟨kept, call.on sb, rfl, rfl⟩⟩
    have after : ∀ t, StaysPaused (call.on sb) (w.setState (.paused (call.on sb))) t →
        StaysPaused sb w t := fun t ⟨kept', sb', same, paused⟩ => ⟨kept.trans kept', sb', same, paused⟩
    exact wp_mono (snapmanNotifyCreation_spec (setState_sandboxState _ _)) (fun _ => after)
      (fun _ => after) (fun _ _ h => h)

/-- The runtime destroyed a sandbox whose network resource could then not be given back. -/
def NetworkLost (log : List Action) : Prop :=
  ∃ sandbox net, .destroyed sandbox ∈ log ∧ .deallocate net false ∈ log

theorem deallocateNet_spec {net : NetResource} :
    wp (deallocateNet a net)
      { ok := fun _ t => t = w.emit (.deallocate net true)
        err := fun _ t => t = w.emit (.deallocate net false) } w := by
  unfold deallocateNet
  match a.deallocate net with
  | .ok _ => exact rfl
  | .error err => exact rfl

theorem snapmanNotifyRemoval_spec {sb : SandboxId} :
    wp (snapmanNotifyRemoval a sb)
      (Post.state fun t => t = w ∨ t = w.emit (.snapshotRemoved w.functionId sb)) w := by
  simp only [snapmanNotifyRemoval, wp_bind, wp_fromExcept, wp_get, record, wp_modify]
  exact ⟨fun _ _ => .inr rfl, fun _ _ => .inl rfl⟩

/-- A destruction begun at `w` ends with no sandbox, or with the sandbox trashed. -/
def destroyPost (w : Worker) : Post Worker Error Unit where
  ok _ t := Kept [] w t ∧ t.sandboxState = .nonexistent
  err _ t := Kept [] w t ∧ ((∃ sb, t.sandboxState = .trashed sb) ∨
    t.sandboxState = .nonexistent ∧ NetworkLost t.log)

theorem releaseDestroyed_spec {sb : Sandbox} {net : NetResource} (kept : Kept [] w t)
    (empty : t.sandboxState = .nonexistent) (gone : .destroyed sb.id ∈ t.log) :
    wp (releaseDestroyed a sb net) (destroyPost w) t := by
  have release : ∀ u, Kept [] w u → u.sandboxState = .nonexistent → .destroyed sb.id ∈ u.log →
      wp (deallocateNet a net) (destroyPost w) u := by
    intro u kept empty gone
    refine wp_mono deallocateNet_spec ?_ ?_ (fun _ _ h => h)
    · rintro _ _ rfl
      exact ⟨kept.emit rfl rfl rfl, empty⟩
    · rintro _ _ rfl
      exact ⟨kept.emit rfl rfl rfl, .inr ⟨empty, sb.id, net, by simp [gone], by simp⟩⟩
  simp only [releaseDestroyed, wp_bind, wp_ite, wp_attempt]
  refine ⟨fun _ => ?_, fun _ => release t kept empty gone⟩
  have next : ∀ u, u = t ∨ u = t.emit (.snapshotRemoved t.functionId sb.id) →
      wp (deallocateNet a net) (destroyPost w) u := by
    rintro u (rfl | rfl)
    · exact release _ kept empty gone
    · exact release _ (kept.emit rfl rfl rfl) empty (by simp [gone])
  exact wp_mono snapmanNotifyRemoval_spec (fun _ => next) (fun _ => next) (fun _ _ h => h)

theorem destroyTaken_spec {sb : Sandbox} (own : w.sandboxState.owned = [sb.id]) :
    wp (destroyTaken a sb) (destroyPost w) w := by
  have taken : Kept [sb.id] w (w.setState .nonexistent) := (Kept.refl w).detach own
  simp only [destroyTaken, wp_bind, become, wp_modify]
  match a.destroySandbox with
  | .ok net =>
    simp only [wp_bind, record, wp_modify]
    exact releaseDestroyed_spec taken.destroyed rfl (by simp)
  | .error (err, hasSnapshot) =>
    exact ⟨taken.attach rfl rfl, .inl ⟨_, rfl⟩⟩

theorem destroySandbox_spec (h : ∀ sb, w.sandboxState ≠ .trashed sb) :
    wp (destroySandbox a) (destroyPost w) w := by
  simp only [destroySandbox, wp_bind, wp_get]
  match state : w.sandboxState with
  | .nonexistent => exact ⟨Kept.refl w, state⟩
  | .paused _ | .snapshot _ | .running _ => exact destroyTaken_spec (by simp [state])
  | .trashed sb => exact absurd state (h sb)

theorem shutdownOrTrash_spec {sb : Sandbox} (own : w.sandboxState.owned = [sb.id]) :
    wp (shutdownOrTrash a sb)
      { ok := fun _ t => Kept [] w t ∧ t.sandboxState = .snapshot (a.shutdownSandbox.on sb)
        err := fun _ t => Kept [] w t ∧ ∃ sb', t.sandboxState = .trashed sb' } w := by
  unfold shutdownOrTrash
  match a.shutdownSandbox.result with
  | .ok _ => exact ⟨Kept.of_setState (by simp [own]), rfl⟩
  | .error err => exact ⟨Kept.of_setState (by simp [own]), _, rfl⟩

def SandboxCall.KeepsSnapshot (call : SandboxCall) : Prop :=
  ∀ hasSnapshot, call.hasSnapshot hasSnapshot = hasSnapshot

/-- The runtime's load, pause, resume and shutdown calls do not change whether a sandbox has a
snapshot. -/
structure Answers.KeepsSnapshots (a : Answers) : Prop where
  load : a.loadSandbox.KeepsSnapshot
  resumeToPrepare : a.resumeToPrepare.KeepsSnapshot
  resumeAfterSnapshot : a.resumeAfterSnapshot.KeepsSnapshot
  pauseBeforeSnapshot : a.pauseBeforeSnapshot.KeepsSnapshot
  pauseAfterInvocation : a.pauseAfterInvocation.KeepsSnapshot
  pauseAfterPreparation : a.pauseAfterPreparation.KeepsSnapshot
  pauseAgain : a.pauseAgain.KeepsSnapshot
  pauseForCleanup : a.pauseForCleanup.KeepsSnapshot
  shutdown : a.shutdownSandbox.KeepsSnapshot

/-- How a sandbox ends up when a worker leaves its main loop: unloaded or destroyed on success,
else trashed, or destroyed with its network resource lost. With `honest`, an unloaded sandbox has a
snapshot. -/
def retirePost (honest : Prop) (w : Worker) : Post Worker ε Unit where
  ok _ t := Kept [] w t ∧ (t.sandboxState = .nonexistent ∨
    ∃ sb, t.sandboxState = .snapshot sb ∧ (honest → sb.hasSnapshot))
  err _ t := Kept [] w t ∧ ((∃ sb, t.sandboxState = .trashed sb) ∨
    t.sandboxState = .nonexistent ∧ NetworkLost t.log)

section Retire
variable {honest : Prop} (keeps : honest → a.KeepsSnapshots)

theorem destroyPost.retire {f : Error → ε} (h : Kept [] w t)
    (destroy : wp (destroySandbox a) (destroyPost t) t) :
    wp (mapErr f (destroySandbox a)) (retirePost honest w) t := by
  rw [wp_mapErr]
  refine wp_mono destroy ?_ ?_ nofun
  · exact fun _ _ ⟨kept, empty⟩ => ⟨h.trans kept, .inl empty⟩
  · exact fun _ _ ⟨kept, left⟩ => ⟨h.trans kept, left⟩

include keeps

theorem shutdownOrTrash_retire {sb : Sandbox} {f : SourceError → ε} (h : Kept [] w t)
    (own : t.sandboxState.owned = [sb.id]) (has : sb.hasSnapshot) :
    wp (mapErr f (shutdownOrTrash a sb)) (retirePost honest w) t := by
  rw [wp_mapErr]
  refine wp_mono (shutdownOrTrash_spec own) ?_ ?_ nofun
  · rintro _ u ⟨kept, unloaded⟩
    exact ⟨h.trans kept, .inr ⟨_, unloaded, fun p => ((keeps p).shutdown _).trans has⟩⟩
  · exact fun _ _ ⟨kept, trashed⟩ => ⟨h.trans kept, .inl trashed⟩

theorem cleanupPaused_spec {sb : Sandbox} (h : w.sandboxState = .paused sb) :
    wp (cleanupPaused a sb) (retirePost honest w) w := by
  simp only [cleanupPaused, wp_ite]
  exact ⟨shutdownOrTrash_retire keeps (Kept.refl w) (by simp [h]),
    fun _ => destroyPost.retire (Kept.refl w) (destroySandbox_spec (by simp [h]))⟩

theorem retireRunning_spec {sb : Sandbox} (h : w.sandboxState = .running sb) :
    wp (retireRunning a sb) (retirePost honest w) w := by
  unfold retireRunning
  match a.pauseForCleanup.result with
  | .error _ => exact ⟨Kept.of_setState (by simp [h]), .inl ⟨_, rfl⟩⟩
  | .ok _ =>
    simp only [wp_ite, wp_bind, become, wp_modify]
    refine ⟨fun has => shutdownOrTrash_retire keeps (Kept.refl w) (by simp [h]) has, fun _ => ?_⟩
    exact destroyPost.retire (Kept.of_setState (by simp [h])) (destroySandbox_spec (by simp))

/-- `shutdown` is called on a settled sandbox only. -/
theorem shutdown_spec (h : w.sandboxState.Settled)
    (flag : honest → ∀ sb, w.sandboxState = .snapshot sb → sb.hasSnapshot) :
    wp (shutdown a) (retirePost honest w) w := by
  simp only [shutdown, wp_bind, wp_get]
  match state : w.sandboxState with
  | .nonexistent => exact ⟨Kept.refl w, .inl state⟩
  | .snapshot sb => exact ⟨Kept.refl w, .inr ⟨sb, state, fun p => flag p sb state⟩⟩
  | .paused sb =>
    simp only [wp_ite]
    refine ⟨shutdownOrTrash_retire keeps (Kept.refl w) (by simp [state]), fun _ => ?_⟩
    simpa using destroyPost.retire (f := fun e => e) (Kept.refl w)
      (destroySandbox_spec (by simp [state]))
  | .running _ | .trashed _ => simp [state, SandboxState.Settled] at h

end Retire

end Worker
end Snaplace
