import Snaplace.Pool.Sandboxes

/-!
# What is told about destructions

The waiters of a destruction hear of its success at the turn in which the worker that performs it is
joined, and at no other time; an entry of the table of destructions appears for a request, is joined
by later ones, and disappears with the worker.
-/
namespace Snaplace
open Foundation
open Worker (SandboxExit WorkerExit OutboundMessage)
open Admission (DispatchMode)

namespace Pool
open Handler (Keeps Post wp mapErr attempt expect require)
variable {ε α : Type} {p q t : Pool} {w : WorkerId} {f : FunctionId} {i : Input}

/-- What is kept by all that leaves the table of destructions alone and notes nothing. -/
class DestrFrame (R : Pool → Pool → Prop) : Prop extends IsPreorder Pool R where
  unrelated : ∀ p q, (q.pending.sandboxDestrs, noted q.log) = (p.pending.sandboxDestrs, noted p.log) →
    R p q

section Frame
variable {R : Pool → Pool → Prop} [DestrFrame R]

namespace DestrFrame

theorem modify {g : Pool → Pool}
    (same : ∀ p, ((g p).pending.sandboxDestrs, noted (g p).log) =
      (p.pending.sandboxDestrs, noted p.log)) : Keeps R (modify g : Handler Pool ε PUnit) :=
  .modify fun p => unrelated p _ (same p)

theorem insertWorker {stage : Stage} : Keeps R (insertWorker stage w f) :=
  .of_wp fun p => all_insertWorker (refl_of R p) (unrelated p _ rfl)

theorem removeWorker {stage : Stage} : Keeps R (removeWorker stage w f : Handler Pool ε Bool) :=
  .of_wp fun p => all_removeWorker (refl_of R p) (unrelated p _ rfl)

theorem transition {source target : Stage} {msg : String} :
    Keeps R (transition source target msg w f) :=
  .of_wp fun p => all_transition (refl_of R p) (fun _ => unrelated p _ rfl)
    fun _ => unrelated p _ rfl

end DestrFrame

instance : SandboxFrame R where
  aside p q same := DestrFrame.unrelated p q (congrArg Prod.snd same)
  toIdle _ _ := DestrFrame.transition
  idleToDying _ _ := DestrFrame.transition
  activeToDying _ _ := DestrFrame.transition
  account _ _ := .bind (.bind .get fun _ => .expect _ _) fun _ => DestrFrame.modify fun _ => rfl
  place p q same := DestrFrame.unrelated p q (congrArg (fun tables => tables.2.2.2) same)
  condemn _ _ := DestrFrame.insertWorker

namespace DestrFrame

theorem assignWorker : Keeps R (assignWorker i w f) := by
  unfold Pool.assignWorker
  refine .bind Keeping.stopTimer fun _ => .bind (.mapErr insertWorker) fun _ =>
    .bind Keeping.cpuAlloc fun _ => .bind Keeping.expectHandle fun _ => .bind .get fun p =>
      .bind Keeping.clearDeadline fun _ => .bind (.attempt Keeping.replyDispatch) fun r => ?_
  cases r with
  | ok _ => exact .pure _
  | error _ => exact Keeping.cleanupFailedDispatch

theorem dispatchToNewWorker {mode : DispatchMode} : Keeps R (dispatchToNewWorker i f mode) := by
  refine .ite (fun _ => Keeping.deny) fun _ => .bind Keeping.registeredFunction fun function =>
    .bind .get fun p => .ite (fun _ => Keeping.deny) fun _ => .ite (fun _ => ?_) fun _ => ?_
  · exact .bind Keeping.pickOrphanSnapshot fun _ => .bind Keeping.spawnNewWorker fun _ =>
      .bind Keeping.evictIfNeeded fun _ => assignWorker
  · exact .bind Keeping.evictIfNeeded fun _ => Keeping.deny

theorem handleDispatch {mode : DispatchMode} : Keeps R (handleDispatch i f mode) := by
  unfold Pool.handleDispatch
  refine .bind .get fun p => .ite (fun _ => ?_) fun _ => Keeping.deny
  refine .bind Keeping.pickIdleWorker fun picked => ?_
  cases picked with
  | some worker =>
    exact .bind removeWorker fun _ => .bind (.require _ _) fun _ => assignWorker
  | none => exact dispatchToNewWorker

theorem activateForSnapshot {sandboxId : SandboxId} {respondTo : Option ReplyId} :
    Keeps R (activateForSnapshot w f sandboxId respondTo) := by
  unfold Pool.activateForSnapshot
  refine .bind removeWorker fun idle => .ite (fun _ => .mapErr insertWorker) fun _ => ?_
  refine .bind .get fun p => .bind .get fun q => ?_
  split
  · exact .pure _
  · exact .throw _
  · exact .throw _

theorem registerFunction {function : RegisteredFunction} :
    Keeps R (registerFunction f function) := by
  unfold Pool.registerFunction
  refine .bind .get fun p => ?_
  split
  · exact .throw _
  · exact modify fun _ => rfl

theorem deregisterFunction : Keeps R (deregisterFunction f) := by
  unfold Pool.deregisterFunction
  refine .bind .get fun p => ?_
  dsimp only
  split
  · exact .throw _
  · exact .ite (fun _ => .throw _) fun _ => modify fun _ => rfl

end DestrFrame

end Frame

/-! ## Reaping -/

/-- The reply to one who asked for a destruction that it has succeeded. -/
abbrev success (r : ReplyId) (persists : Bool) : Effect := .reply r (.destroySandbox (.ok persists))

/-- The successes that the waiters of a destruction are told when the worker has exited. -/
def answered (exit : WorkerExit) (op : PendingSandboxDestr) : List Effect :=
  match exit with
  | { result := .ok _, sandbox := .reusable _ } =>
    if op.removePersistedSnapshot then []
    else answers op.respondTo (.destroySandbox (.ok true))
  | { result := .ok _, sandbox := .none } => answers op.respondTo (.destroySandbox (.ok false))
  | _ => []

theorem mem_answered {exit : WorkerExit} {op : PendingSandboxDestr} {r : ReplyId}
    {persists : Bool} :
    success r persists ∈ answered exit op ↔ r ∈ op.respondTo ∧ exit.result.isOk ∧
      if persists then (∃ sandbox, exit.sandbox = .reusable sandbox) ∧ ¬ op.removePersistedSnapshot
      else exit.sandbox = .none := by
  obtain ⟨result | result, sandbox | sandbox | sandbox⟩ := exit <;>
    cases persists <;> simp [answered, answers, Except.isOk, Except.toBool, and_comm]

theorem noted_of_events {events : List Effect} (quiet : ∀ e ∈ events, ∃ ev, e = .event ev) :
    noted events = [] := by
  refine List.filter_eq_nil_iff.mpr fun e mem => ?_
  obtain ⟨ev, rfl⟩ := quiet e mem
  exact Bool.false_ne_true

theorem noted_successes (waiters : List ReplyId) (persists : Bool) :
    noted (answers waiters (.destroySandbox (.ok persists))) =
      answers waiters (.destroySandbox (.ok persists)) := by
  simp [noted, answers, Effect.isNoted]

theorem noted_failures (waiters : List ReplyId) (err : DestroySandboxError) :
    noted (answers waiters (.destroySandbox (.error err))) = [] := by
  simp [noted, answers, Effect.isNoted]

/-- What settling an exit does to the pool, and tells those who wait. -/
structure Settles (f : FunctionId) (op : Option PendingSandboxDestr) (exit : WorkerExit)
    (s t : Pool) : Prop where
  snapshots : t.snapshots = stashed s.snapshots f (WorkerExit.stashed (some exit))
  noted : noted t.log = noted s.log ++ op.elim [] (answered exit)

/-- The last part of settling an exit: the replies, of which the successes are as they should be. -/
theorem settles_replies {op : Option PendingSandboxDestr} {exit : WorkerExit} {s u : Pool}
    {reply : PendingSandboxDestr → PoolM Unit} (events : List Effect)
    (quiet : ∀ e ∈ events, ∃ ev, e = .event ev)
    (placed : u.snapshots = stashed s.snapshots f (WorkerExit.stashed (some exit)))
    (log : u.log = s.log ++ events)
    (replies : ∀ op, ∃ r, reply op = sendAll op.respondTo r ∧
      noted (answers op.respondTo r) = answered exit op) :
    wp (forWaiters op reply)
      { ok := fun _ t => Settles f op exit s t
        err := fun _ _ => False
        panic := fun _ t => t = s } u := by
  have silent := noted_of_events quiet
  cases op with
  | none => exact ⟨placed, by simp [log, silent]⟩
  | some op =>
    obtain ⟨r, same, successes⟩ := replies op
    simp only [forWaiters, same, wp_sendAll]
    exact ⟨placed, by simp [log, silent, successes]⟩

theorem settleExit_settles {accounting : WorkerMemAccounting} {mem : ByteUnit}
    {op : Option PendingSandboxDestr} {exit : WorkerExit} {s : Pool} :
    wp (settleExit f accounting mem op exit)
      { ok := fun _ t => Settles f op exit s t
        err := fun _ _ => False
        panic := fun _ t => t = s } s := by
  have succeed (persists : Bool) (op : PendingSandboxDestr) :
      ∃ r, op.replyDestroySuccess (ε := Error) persists = sendAll op.respondTo r ∧
        noted (answers op.respondTo r) =
          if persists && op.removePersistedSnapshot then []
          else answers op.respondTo (.destroySandbox (.ok persists)) := by
    unfold PendingSandboxDestr.replyDestroySuccess
    split
    · exact ⟨_, rfl, noted_failures ..⟩
    · exact ⟨_, rfl, noted_successes ..⟩
  have fail (err : Worker.Error) (op : PendingSandboxDestr) :
      ∃ r, op.replyDestroyWorkerFailure (ε := Error) err = sendAll op.respondTo r ∧
        noted (answers op.respondTo r) = [] := ⟨_, rfl, noted_failures ..⟩
  obtain ⟨err | _, _ | sandbox | sandbox⟩ := exit
  · cases err with
    | init dscr source =>
      simp only [settleExit, Handler.wp_bind]
      refine wp_reapMemAccount fun events quiet => ?_
      exact settles_replies events quiet rfl rfl (fail _)
    | _ =>
      exact settles_replies [] (by simp) rfl (by simp) (fail _)
  · simp only [settleExit, stashSnapshot, Handler.wp_bind, Handler.wp_modify]
    refine wp_reapMemAccount fun events quiet => ?_
    exact settles_replies events quiet rfl rfl (fail err)
  · simp only [settleExit, trashSandbox, Handler.wp_bind, Handler.wp_modify]
    exact settles_replies [] (by simp) rfl (by simp) (fail err)
  · simp only [settleExit, Handler.wp_bind]
    refine wp_reapMemAccount fun events quiet => ?_
    exact settles_replies events quiet rfl rfl (succeed false)
  · simp only [settleExit, stashSnapshot, Handler.wp_bind, Handler.wp_modify]
    refine wp_reapMemAccount fun events quiet => ?_
    exact settles_replies events quiet rfl rfl (succeed true)
  · rfl

/-- An answer to another request. -/
theorem noted_reapReplies (p : Pool) (w : WorkerId) (sandbox : Option SandboxId) :
    noted (reapReplies p w sandbox) = [] := by
  simp [noted, reapReplies, answers, List.filter_append, Effect.isNoted]

/-- Nothing is noted, and no destruction is asked for. -/
structure Silent (p t : Pool) : Prop where
  entries : ∀ w op, t.pending.sandboxDestrs.lookup w = some op →
    p.pending.sandboxDestrs.lookup w = some op
  noted : noted t.log = noted p.log

instance : IsPreorder Pool Silent where
  refl _ := ⟨fun _ _ look => look, rfl⟩
  trans _ _ _ h h' := ⟨fun w op look => h.entries w op (h'.entries w op look), h'.noted.trans h.noted⟩

instance : DestrFrame Silent where
  unrelated p q same := by
    obtain ⟨entries, noted⟩ := Prod.mk.inj same
    exact ⟨fun w op look => entries ▸ look, noted⟩

/-- Nothing is noted, and the snapshots stay where they are. -/
structure Still (p t : Pool) : Prop where
  snapshots : t.snapshots = p.snapshots
  noted : noted t.log = noted p.log

instance : IsPreorder Pool Still where
  refl _ := ⟨rfl, rfl⟩
  trans _ _ _ h h' := ⟨h'.snapshots.trans h.snapshots, h'.noted.trans h.noted⟩

theorem Still.transition {source target : Stage} {msg : String} :
    Keeps Still (transition source target msg w f) :=
  .of_wp fun p => all_transition (refl_of Still p) (fun _ => ⟨rfl, rfl⟩) fun _ => ⟨rfl, rfl⟩

instance : QuietFrame Still where
  aside _ _ same := ⟨congrArg (fun tables => tables.1.2.2.2.2.1) same, congrArg (·.2.2) same⟩
  toIdle _ _ := Still.transition
  idleToDying _ _ := Still.transition
  activeToDying _ _ := Still.transition
  account _ _ := .bind (.bind .get fun _ => .expect _ _) fun _ => .modify fun _ => ⟨rfl, rfl⟩

/-- The reply is a success for a destruction waited for in `p`, whose worker has been joined with it;
the snapshot that this worker handed back is in a list in `t`. -/
def Vouched (i : Input) (p t : Pool) (notes : List Effect) (reply : Effect) : Prop :=
  ∃ w handle memory op exit, .joined w handle memory (some exit) ∈ notes ∧
    p.pending.sandboxDestrs.lookup w = some op ∧ i.exit w = some exit ∧
    reply ∈ answered exit op ∧
      ∀ sandbox, exit.sandbox = .reusable sandbox →
        ∃ f sandboxes, t.snapshots.lookup f = some sandboxes ∧ sandbox ∈ sandboxes

/-- Each success told from `p` to `t` is vouched for. -/
def Truthful (i : Input) (p t : Pool) : Prop :=
  ∃ notes, noted t.log = noted p.log ++ notes ∧
    ∀ r persists, success r persists ∈ notes → Vouched i p t notes (success r persists)

theorem truthful_of_noted (same : noted t.log = noted p.log) : Truthful i p t :=
  ⟨[], by rw [List.append_nil, same], by simp⟩

instance : Std.Refl (Truthful i) where
  refl _ := truthful_of_noted rfl

theorem Silent.then_ {p q t : Pool} (h : Silent p q) (h' : Truthful i q t) : Truthful i p t := by
  obtain ⟨notes, grown, vouched⟩ := h'
  refine ⟨notes, by rw [grown, h.noted], fun r persists mem => ?_⟩
  obtain ⟨w, handle, memory, op, exit, joined, look, rest⟩ := vouched r persists mem
  exact ⟨w, handle, memory, op, exit, joined, h.entries w op look, rest⟩

theorem Truthful.still {p q t : Pool} (h : Truthful i p q) (h' : Still q t) : Truthful i p t := by
  obtain ⟨notes, grown, vouched⟩ := h
  refine ⟨notes, h'.noted.trans grown, fun r persists mem => ?_⟩
  obtain ⟨w, handle, memory, op, exit, joined, look, left, answer, back⟩ := vouched r persists mem
  exact ⟨w, handle, memory, op, exit, joined, look, left, answer, h'.snapshots ▸ back⟩

theorem truthful_of_silent {m : Handler Pool ε α} (h : Keeps Silent m) : Keeps (Truthful i) m :=
  h.mono fun _ _ silent => truthful_of_noted silent.noted

/-- First nothing is noted. -/
theorem truthful_bind {β : Type} {m : Handler Pool ε α} {g : α → Handler Pool ε β}
    (first : Keeps Silent m) (rest : ∀ a, Keeps (Truthful i) (g a)) :
    Keeps (Truthful i) (m >>= g) :=
  .comp (S := Truthful i) (fun _ _ _ => Silent.then_) first rest

/-- Then nothing is noted any more. -/
theorem truthful_still {β : Type} {m : Handler Pool ε α} {g : α → Handler Pool ε β}
    (first : Keeps (Truthful i) m) (rest : ∀ a, Keeps Still (g a)) : Keeps (Truthful i) (m >>= g) :=
  .comp (S := Still) (fun _ _ _ => Truthful.still) first rest

/-- What a worker hands back when it exits is in a list when the exit is settled. -/
theorem Settles.listed {op : Option PendingSandboxDestr} {exit : WorkerExit} {s : Pool}
    (h : Settles f op exit s t) (sandbox : Sandbox) (back : exit.sandbox = .reusable sandbox) :
    ∃ f sandboxes, t.snapshots.lookup f = some sandboxes ∧ sandbox ∈ sandboxes := by
  obtain ⟨result, sandboxExit⟩ := exit
  obtain rfl : sandboxExit = .reusable sandbox := back
  refine ⟨f, (s.snapshots.lookup f).getD [] ++ [sandbox], ?_, by simp⟩
  rw [h.snapshots]
  simp [stashed, WorkerExit.stashed]

theorem reapHandle_truthful {handle : WorkerHandle} :
    Keeps (Truthful i) (reapHandle i w f handle) := by
  unfold reapHandle
  refine truthful_bind Keeping.clearDeadline fun _ => truthful_bind ?_ fun _ =>
    truthful_bind (.attempt Keeping.cpuRelease) fun _ => .of_wp fun s => ?_
  · cases handle.sandboxId with
    | some sandbox => exact DestrFrame.modify fun _ => rfl
    | none => exact .pure _
  rw [Handler.wp_bind]
  refine wp_finalizeControlOps.mpr ?_
  simp only [functionMemory, record, Handler.wp_bind, wp_registeredFunction_iff, Handler.wp_modify,
    Handler.wp_pure]
  refine ⟨fun function _ => ?_, fun _ => truthful_of_noted (by simp [noted_reapReplies])⟩
  -- The state in which the exit is settled: the worker has been joined, and nobody told yet.
  generalize state : Pool.mk .. = joined
  have noted_joined : noted joined.log =
      noted s.log ++ [.joined w handle function.memory (i.exit w)] := by
    rw [← state, noted_append, noted_append, noted_reapReplies, List.append_nil]
    rfl
  have quiet {t : Pool} (same : noted t.log = noted joined.log) : Truthful i s t :=
    ⟨_, same.trans noted_joined, by simp⟩
  cases exit : i.exit w with
  | none =>
    have told_nothing : Keeps Silent (do
        forWaiters (s.pending.sandboxDestrs.lookup w) fun op =>
          op.replyDestroyInternalFailure s!"failed to join Worker {w}: join error"
        throw (.workerJoin w) : PoolM Unit) :=
      .bind (Keeping.forWaiters fun _ => Keeping.replyDestroyInternalFailure) fun _ => .throw _
    exact Handler.wp_mono (told_nothing.wp _) (fun _ _ after => quiet after.noted)
      (fun _ _ after => quiet after.noted) fun _ _ after => quiet after.noted
  | some exit' =>
    refine Handler.wp_mono settleExit_settles ?_ (fun _ _ absurd => absurd.elim) ?_
    · intro _ t settles
      rw [exit] at noted_joined
      refine ⟨_, by rw [settles.noted, noted_joined, List.append_assoc], ?_⟩
      intro r persists mem
      have answer : success r persists ∈ (s.pending.sandboxDestrs.lookup w).elim [] (answered exit') := by
        simpa using mem
      cases look : s.pending.sandboxDestrs.lookup w with
      | none => simp [look] at answer
      | some op =>
        rw [look] at answer
        exact ⟨w, handle, function.memory, op, exit', by simp, look, exit, answer, settles.listed⟩
    · rintro - t rfl
      exact quiet rfl

theorem reapWorker_truthful : Keeps (Truthful i) (reapWorker i w f) := by
  unfold reapWorker
  refine truthful_bind DestrFrame.removeWorker fun dying => .ite (fun _ => ?_) fun _ => ?_
  · exact truthful_bind Keeping.takeHandle fun _ => reapHandle_truthful
  refine truthful_bind DestrFrame.removeWorker fun active => .ite (fun _ => ?_) fun _ => ?_
  · exact truthful_bind (Keeping.emitAdmissionEvent _) fun _ =>
      truthful_bind Keeping.takeHandle fun _ => reapHandle_truthful
  refine truthful_bind .get fun p => .ite (fun _ => truthful_of_silent (.pure _)) fun _ =>
    truthful_bind .get fun p => ?_
  split
  · exact truthful_bind Keeping.takeHandle fun _ => reapHandle_truthful
  · exact truthful_of_silent (.pure _)

theorem handleWorkerStatus_truthful {msg : OutboundMessage} :
    Keeps (Truthful i) (handleWorkerStatus i msg) := by
  cases msg with
  | sandboxId worker sandboxId => exact truthful_of_silent Keeping.updateSandboxId
  | needWork worker functionId => exact truthful_of_silent Keeping.onNeedWork
  | reapMe worker functionId => exact reapWorker_truthful
  | sandboxPreparation resp => exact truthful_of_silent Keeping.finalizeSandboxPreparation
  | snapshotCreation resp => exact truthful_of_silent Keeping.finalizeSnapshotting

theorem drainWorkerMessage_truthful {msg : OutboundMessage} :
    Keeps (Truthful i) (drainWorkerMessage i msg : Handler Pool ε Unit) := by
  cases msg with
  | sandboxId worker sandboxId => exact truthful_of_silent Keeping.updateSandboxId
  | needWork worker functionId =>
    exact truthful_of_silent (.bind (.attempt Keeping.cpuRelease) fun _ => .pure _)
  | reapMe worker functionId => exact truthful_still (.attempt reapWorker_truthful) fun _ => .pure _
  | sandboxPreparation resp =>
    exact truthful_of_silent Keeping.finalizeSandboxPreparationDuringShutdown
  | snapshotCreation resp => exact truthful_of_silent Keeping.finalizeSnapshottingDuringShutdown

/-- A preparation can reap the worker that it has just spawned. -/
theorem requestSandboxPrep_truthful {options : PrepareSandboxOptions} {respondTo : Option ReplyId} :
    Keeps (Truthful i) (requestSandboxPrep i f options respondTo) := by
  have abandon (w : WorkerId) (err : Worker.Error) :
      Keeps (Truthful i) (abandonPrep i w f err) := by
    refine truthful_bind (.attempt Keeping.cpuRelease) fun _ =>
      truthful_bind Keeping.takePrepOp fun _ => ?_
    split
    · exact truthful_still (.attempt reapWorker_truthful) fun _ => .throw _
    · exact truthful_of_silent (.throw _)
  have start (w : WorkerId) : Keeps (Truthful i) (startPrep i w f options respondTo) := by
    refine truthful_bind (.mapErr DestrFrame.insertWorker) fun _ =>
      truthful_bind Keeping.cpuAlloc fun _ => truthful_bind Keeping.insertOp fun _ =>
        truthful_bind Keeping.insertPrepOp fun _ => truthful_bind Keeping.expectHandle fun _ =>
          truthful_bind (.attempt Keeping.sendControl) fun r => ?_
    cases r with
    | ok _ => exact truthful_of_silent (.pure _)
    | error err => exact abandon w err
  unfold Pool.requestSandboxPrep
  refine truthful_bind .get fun p => .ite (fun _ => ?_) fun _ => truthful_of_silent (.throw _)
  refine truthful_bind Keeping.functionMemory fun mem =>
    truthful_bind Keeping.startingSandbox fun sandbox =>
      truthful_bind .get fun p => .ite (fun _ => ?_) fun _ => ?_
  · exact truthful_bind (.mapErr Keeping.spawnNewWorker) fun w =>
      truthful_bind Keeping.evictIfNeeded fun _ => start w
  · exact truthful_of_silent (.bind Keeping.evictIfNeeded fun _ => .throw _)

/-! ## Asking for a destruction -/

/-- Nothing is noted. -/
def Untold (p t : Pool) : Prop := noted t.log = noted p.log

instance : IsPreorder Pool Untold where
  refl _ := rfl
  trans _ _ _ h h' := h'.trans h

instance : DestrFrame Untold where
  unrelated _ _ same := (Prod.mk.inj same).2

theorem untold_insertDestrOp {op : PendingSandboxDestr} :
    Keeps Untold (insertDestrOp w op : Handler Pool ε Unit) := .modify fun _ => rfl

theorem untold_destrTarget {sandboxId : SandboxId} {options : DestroySandboxOptions}
    {respondTo : Option ReplyId} : Keeps Untold (destrTarget i sandboxId options respondTo) := by
  unfold destrTarget
  refine .bind .get fun p => ?_
  cases p.workerBySandbox.lookup sandboxId with
  | some worker =>
    dsimp only
    split
    · exact .pure _
    · exact .bind (.expect _ _) fun _ => .bind untold_insertDestrOp fun _ => .pure _
    · exact .throw _
  | none =>
    refine .ite (fun _ => ?_) fun _ => .throw _
    split
    · exact .throw _
    · exact .bind (.expect _ _) fun _ => .bind (Keeping.place fun _ => rfl) fun _ =>
        .map Keeping.spawnDestroyer

theorem untold_requestSandboxDestr {sandboxId : SandboxId} {options : DestroySandboxOptions}
    {respondTo : Option ReplyId} :
    Keeps Untold (requestSandboxDestr i sandboxId options respondTo) := by
  refine .bind untold_destrTarget fun target => ?_
  cases target with
  | none => exact .pure _
  | some worker =>
    exact .bind Keeping.startDestr fun _ => .bind Keeping.insertOp fun _ => untold_insertDestrOp

/-! ## Turns -/

theorem truthful_of_untold {m : Handler Pool ε α} (h : Keeps Untold m) : Keeps (Truthful i) m :=
  h.mono fun _ _ untold => truthful_of_noted untold

/-- A request that fails is answered, which is not a success. -/
theorem answerFailure_truthful {E : Type} {reply : E → Reply} {request : RequestM E Unit}
    (h : Keeps (Truthful i) request) (quiet : ∀ e r, noted [.reply r (reply e)] = []) :
    Keeps (Truthful i) (answerFailure reply request : Handler Pool ε Unit) := by
  unfold Pool.answerFailure
  refine truthful_still (.attempt h) fun r => ?_
  split
  · exact .pure _
  · exact Keeping.send (quiet _ _)
  · exact .pure _

theorem handleControl_truthful {msg : PoolControlMessage} :
    Keeps (Truthful i) (handleControl i msg : Handler Pool ε Unit) := by
  cases msg with
  | prepareSandbox f options respondTo =>
    exact truthful_bind (Keeping.record rfl) fun _ =>
      answerFailure_truthful requestSandboxPrep_truthful fun _ _ => rfl
  | destroySandbox target options respondTo =>
    exact truthful_of_untold (.bind (Keeping.record rfl) fun _ =>
      Keeping.answerFailure untold_requestSandboxDestr fun _ _ => rfl)
  | listSandboxes respondTo => exact truthful_of_untold (.panicWith _)
  | createSnapshot sandboxId respondTo =>
    exact truthful_of_untold (.bind (Keeping.record rfl) fun _ => Keeping.answerFailure
      (Keeping.requestSnapshotting fun _ _ => DestrFrame.activateForSnapshot) fun _ _ => rfl)

theorem serve_truthful {event : Event} : Keeps (Truthful i) (serve i event) := by
  cases event with
  | keepaliveTimeout worker =>
    refine truthful_of_untold ?_
    change Keeps Untold (decommissionIdleWorker i worker none)
    exact Keeping.decommissionIdleWorker
  | workerMessage msg => exact handleWorkerStatus_truthful
  | dispatch functionId mode => exact truthful_of_untold DestrFrame.handleDispatch
  | control msg => exact handleControl_truthful
  | registerFunction functionId function =>
    exact truthful_of_untold (.bind (.attempt DestrFrame.registerFunction) fun _ => .pure _)
  | deregisterFunction functionId =>
    exact truthful_of_untold (.bind (.attempt DestrFrame.deregisterFunction) fun _ => .pure _)
  | quit | admissionClosed | snapmanMessage | shutdownTick => exact truthful_of_untold (.pure _)

theorem handleServing_truthful : Keeps (Truthful i) (handleServing i : Handler Pool ε Unit) := by
  have stop : Keeps Still (beginShutdown i : Handler Pool ε Unit) :=
    Keeping.beginShutdown fun _ => ⟨rfl, rfl⟩
  unfold handleServing
  cases i.event with
  | quit | admissionClosed => exact stop.mono fun _ _ still => truthful_of_noted still.noted
  | _ =>
    refine truthful_still (.attempt serve_truthful) fun r => ?_
    cases r with
    | ok _ => exact .pure _
    | error _ => exact stop

theorem handleShuttingDown_truthful :
    Keeps (Truthful i) (handleShuttingDown i : Handler Pool ε Bool) := by
  unfold handleShuttingDown
  cases i.event with
  | workerMessage msg =>
    exact truthful_still drainWorkerMessage_truthful fun _ => .pure _
  | dispatch functionId mode =>
    exact truthful_of_untold (.bind Keeping.rejectDispatch fun _ => .pure _)
  | shutdownTick =>
    refine truthful_of_untold (.bind .get fun p => .ite (fun _ => ?_) fun _ => .pure _)
    exact .bind Keeping.cleanupOrphans fun _ => .pure _
  | registerFunction functionId function =>
    exact truthful_of_untold (.bind (.attempt DestrFrame.registerFunction) fun _ => .pure _)
  | deregisterFunction functionId =>
    exact truthful_of_untold (.bind (.attempt DestrFrame.deregisterFunction) fun _ => .pure _)
  | quit | keepaliveTimeout worker | snapmanMessage | control msg | admissionClosed =>
    exact truthful_of_untold (.pure _)

/-- The step lemma. -/
theorem turn_truthful : Keeps (Truthful i) (turn i) := by
  unfold turn
  refine .inspect fun p => Keeps.wp ?_ p
  cases p.phase with
  | serving => exact truthful_still handleServing_truthful fun _ => .pure _
  | shuttingDown =>
    refine truthful_still handleShuttingDown_truthful fun ended => ?_
    exact .ite (fun _ => .pure _) fun _ => .pure _

/-! ## Runs -/

/-- The success is told at one of the turns of a run from `p`, which vouches for it. -/
def Backed (p : Pool) (inputs : List Input) (reply : Effect) : Prop :=
  ∃ before i after, inputs = before ++ i :: after ∧
    ∃ q, run before p = .running q ∧ ∃ notes, noted (turn i q).state.log = noted q.log ++ notes ∧
      reply ∈ notes ∧ Vouched i q (turn i q).state notes reply

theorem Backed.later {inputs : List Input} {reply : Effect} (stays : turn i p = .ok none q)
    (backed : Backed q inputs reply) : Backed p (i :: inputs) reply := by
  obtain ⟨before, j, after, rfl, s, came, told⟩ := backed
  refine ⟨i :: before, j, after, rfl, s, ?_, told⟩
  change (turn i p).andThen (run before) = _
  rw [stays]
  exact came

/-- The run lemma: whatever has been told at the end was told before or is backed. -/
theorem backed_of_told {r : ReplyId} {persists : Bool} (inputs : List Input) (p : Pool)
    (mem : success r persists ∈ noted (run inputs p).state.log) :
    success r persists ∈ noted p.log ∨ Backed p inputs (success r persists) := by
  induction inputs generalizing p with
  | nil => exact .inl mem
  | cons i rest ih =>
    obtain ⟨notes, grown, vouched⟩ := turn_truthful (i := i) p
    have now (mem : success r persists ∈ noted (turn i p).state.log) :
        success r persists ∈ noted p.log ∨ Backed p (i :: rest) (success r persists) := by
      rw [grown] at mem
      exact (List.mem_append.mp mem).imp_right fun mem =>
        ⟨[], i, rest, rfl, p, rfl, notes, grown, mem, vouched r persists mem⟩
    unfold run iterate at mem
    cases one : turn i p with
    | ok r q =>
      rw [one] at mem now
      cases r with
      | none => exact (ih q mem).elim now fun backed => .inr (backed.later one)
      | some r => exact now mem
    | err e _ => exact e.elim
    | panic msg q =>
      rw [one] at mem now
      exact now mem

section Run
variable (config : SandboxPoolConfig) (cpus : List Cpu) (memory : MemoryStats)
  (functions : Table FunctionId RegisteredFunction) (snapshots : Table FunctionId (List Sandbox))

/-- A waiter is told that a destruction has succeeded only at a turn at which the worker that
performed it is joined and has ended well: of a snapshot that persists when it was not meant to go and
is listed after the turn, of none when the worker handed none back. -/
theorem destructions_told_truly (inputs : List Input) (r : ReplyId) (persists : Bool)
    (told : success r persists ∈
      (run inputs (spawn config cpus memory functions snapshots)).state.log) :
    ∃ before i after, inputs = before ++ i :: after ∧
      ∃ p, run before (spawn config cpus memory functions snapshots) = .running p ∧
        ∃ notes, noted (turn i p).state.log = noted p.log ++ notes ∧ success r persists ∈ notes ∧
          ∃ w handle workerMem op exit, .joined w handle workerMem (some exit) ∈ notes ∧
            p.pending.sandboxDestrs.lookup w = some op ∧ i.exit w = some exit ∧
            r ∈ op.respondTo ∧ exit.result.isOk ∧
            if persists then
              ¬ op.removePersistedSnapshot ∧
                ∃ sandbox, exit.sandbox = .reusable sandbox ∧
                  ∃ f sandboxes, (turn i p).state.snapshots.lookup f = some sandboxes ∧
                    sandbox ∈ sandboxes
            else exit.sandbox = .none := by
  rcases backed_of_told inputs _ (List.mem_filter.mpr ⟨told, rfl⟩) with before | backed
  · simp [spawn, noted] at before
  · obtain ⟨before, i, after, inputs, p, came, notes, grown, now, vouched⟩ := backed
    obtain ⟨w, handle, workerMem, op, exit, joined, look, left, answer, listed⟩ := vouched
    obtain ⟨waits, well, verdict⟩ := mem_answered.mp answer
    refine ⟨before, i, after, inputs, p, came, notes, grown, now, w, handle, workerMem, op, exit,
      joined, look, left, waits, well, ?_⟩
    cases persists with
    | true =>
      obtain ⟨⟨sandbox, back⟩, stays⟩ := verdict
      exact ⟨stays, sandbox, back, listed sandbox back⟩
    | false => exact verdict

end Run

/-- The sandbox of a worker is destroyed for two who ask, but for its snapshot. -/
def destroyed : List Input :=
  let asks (options : DestroySandboxOptions) (respondTo : ReplyId) : Input :=
    (Event.control (.destroySandbox 3 options respondTo)).smooth 11
  [(preparation 1).smooth 10,
    (Event.workerMessage (.sandboxPreparation
      { workerId := 10, functionId := 7, result := .ok (3, true, ⟨0, 0⟩) })).smooth 11,
    asks { allowIfActive := true, removePersistedSnapshot := false } 2,
    asks { allowIfActive := false, removePersistedSnapshot := true } 3,
    { (Event.workerMessage (.reapMe 10 7)).smooth 11 with
      exit := fun _ => some { result := .ok (), sandbox := .reusable (snapshotOf 3) } }]

theorem destructions_told_truly_destroyed :
    ∃ before i after, destroyed = before ++ i :: after ∧ ∃ p, run before stocked = .running p ∧
      ∃ notes, noted (turn i p).state.log = noted p.log ++ notes ∧ success 3 true ∈ notes ∧
        ∃ w handle workerMem op exit, .joined w handle workerMem (some exit) ∈ notes ∧
          p.pending.sandboxDestrs.lookup w = some op ∧ i.exit w = some exit ∧
          3 ∈ op.respondTo ∧ exit.result.isOk ∧ ¬ op.removePersistedSnapshot ∧
            ∃ sandbox, exit.sandbox = .reusable sandbox ∧
              ∃ f sandboxes, (turn i p).state.snapshots.lookup f = some sandboxes ∧
                sandbox ∈ sandboxes :=
  destructions_told_truly single.config [0] single.memory single.store.functions snapshotted
    destroyed 3 true (by decide +kernel)

end Pool
end Snaplace
