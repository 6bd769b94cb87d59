import Snaplace.Pool.Steps
import Snaplace.Pool.Stepwise

/-!
# The look-ups of the stepwise handlers

The pool relies on the functions of its workers and of its snapshots, and on those that the handler
under way holds. As long as the registrar leaves these registered, no look-up of the pool finds its
function missing, and the pool itself never takes a function out of the store.
-/
namespace Snaplace
open Foundation
open Worker (WorkerExit OutboundMessage PrepareSandboxResult CreateSnapshotResult)
open Admission (DispatchMode DispatchResponse PoolEvent)

namespace Pool
open Handler (wp mapErr attempt expect require fromExcept Post)
variable {ε ε' α β : Type} {held : List FunctionId} {p q : Pool} {f : FunctionId} {w : WorkerId}
  {i : Input}

/-- The pool has a worker or a snapshot of the function. -/
inductive Covers (p : Pool) (f : FunctionId) : Prop
  | member {stage : Stage} {w : WorkerId} (member : (f, w) ∈ p.store.workers stage)
  | handle {w : WorkerId} {handle : WorkerHandle} (look : p.workerHandles.lookup w = some handle)
      (own : handle.functionId = f)
  | snapshot {sandboxes : List Sandbox} (look : p.snapshots.lookup f = some sandboxes)
      (left : sandboxes ≠ [])

/-- The function is in the store. -/
def Registered (p : Pool) (f : FunctionId) : Prop := p.store.functions.lookup f ≠ none

/-- What the pool has, and what its handler holds, is registered. -/
structure Secure (held : List FunctionId) (p : Pool) : Prop where
  covered : ∀ f, Covers p f → Registered p f
  held : ∀ f ∈ held, Registered p f

/-- The registrar at work: it leaves what the pool relies on registered. -/
def Interferes (held : List FunctionId) (p q : Pool) : Prop :=
  ∃ functions, q = { p with store.functions := functions } ∧
    ∀ f, f ∈ held ∨ Covers p f → Registered p f → functions.lookup f ≠ none

/-- The pool's own steps leave the functions alone, and do not come to rely on others. -/
structure Advances (p q : Pool) : Prop where
  functions : q.store.functions = p.store.functions
  covered : ∀ f, Covers q f → Registered q f

/-- What a handler may add: workers and snapshots of functions that it holds. -/
structure Grows (held : List FunctionId) (p q : Pool) : Prop where
  functions : q.store.functions = p.store.functions
  covers : ∀ f, Covers q f → Covers p f ∨ f ∈ held

theorem Secure.grows (h : Secure held p) (grows : Grows held p q) : Secure held q := by
  have same (f : FunctionId) : Registered q f ↔ Registered p f := by
    unfold Registered
    rw [grows.functions]
  refine ⟨fun f covers => (same f).mpr ?_, fun f mem => (same f).mpr (h.held f mem)⟩
  obtain before | mem := grows.covers f covers
  · exact h.covered f before
  · exact h.held f mem

theorem Grows.refl : Grows held p p := ⟨rfl, fun _ => .inl⟩

theorem Grows.trans {r : Pool} (h : Grows held p q) (h' : Grows held q r) : Grows held p r := by
  refine ⟨h'.functions.trans h.functions, fun f covers => ?_⟩
  obtain between | mem := h'.covers f covers
  · exact h.covers f between
  · exact .inr mem

theorem Grows.of_subset {held' : List FunctionId} (h : Grows held p q)
    (subset : ∀ f ∈ held, f ∈ held' ∨ Covers p f) : Grows held' p q := by
  refine ⟨h.functions, fun f covers => ?_⟩
  obtain before | mem := h.covers f covers
  · exact .inl before
  · exact (subset f mem).symm

/-- Everything that the pool relies on a function for is as it was. -/
structure Stays (p q : Pool) : Prop where
  workers : q.store.workers = p.store.workers
  workerHandles : q.workerHandles = p.workerHandles
  snapshots : q.snapshots = p.snapshots

theorem Covers.stays (h : Covers p f) (stays : Stays p q) : Covers q f := by
  obtain ⟨workers, workerHandles, snapshots⟩ := stays
  cases h with
  | member member => exact .member (workers ▸ member)
  | handle look own => exact .handle (workerHandles ▸ look) own
  | snapshot look left => exact .snapshot (snapshots ▸ look) left

theorem Stays.symm (h : Stays p q) : Stays q p :=
  ⟨h.workers.symm, h.workerHandles.symm, h.snapshots.symm⟩

theorem Stays.trans {r : Pool} (h : Stays p q) (h' : Stays q r) : Stays p r :=
  ⟨h'.workers.trans h.workers, h'.workerHandles.trans h.workerHandles,
    h'.snapshots.trans h.snapshots⟩

theorem Interferes.stays (h : Interferes held p q) : Stays p q := by
  obtain ⟨functions, rfl, -⟩ := h
  exact ⟨rfl, rfl, rfl⟩

theorem Interferes.secure (h : Secure held p) (interferes : Interferes held p q) :
    Secure held q := by
  have stays := interferes.stays
  obtain ⟨functions, rfl, keeps⟩ := interferes
  refine ⟨fun f covers => ?_, fun f mem => keeps f (.inl mem) (h.held f mem)⟩
  have before := covers.stays stays.symm
  exact keeps f (.inr before) (h.covered f before)

theorem Interferes.refl : Interferes held p p := ⟨p.store.functions, rfl, fun _ _ known => known⟩

theorem Interferes.trans {r : Pool} (h : Interferes held p q) (h' : Interferes held q r) :
    Interferes held p r := by
  have stays := h.stays
  obtain ⟨functions, rfl, keeps⟩ := h
  obtain ⟨functions', rfl, keeps'⟩ := h'
  refine ⟨functions', rfl, fun f relied known => keeps' f ?_ (keeps f relied known)⟩
  exact relied.imp_right fun covers => covers.stays stays

/-! ## Handlers that work on other tables -/

/-- The tables that say which functions the pool relies on. -/
def footing (p : Pool) :
    FunctionMetadataStore × Table WorkerId WorkerHandle × Table FunctionId (List Sandbox) :=
  (p.store, p.workerHandles, p.snapshots)

theorem Stays.of_footing (same : q.footing = p.footing) : Stays p q :=
  ⟨congrArg (fun tables => tables.1.workers) same, congrArg (fun tables => tables.2.1) same,
    congrArg (fun tables => tables.2.2) same⟩

theorem Grows.of_footing (same : q.footing = p.footing) : Grows held p q :=
  ⟨congrArg (fun tables => tables.1.functions) same,
    fun _ covers => .inl (covers.stays (Stays.of_footing same).symm)⟩

/-- The handler leaves these tables alone, and does not fail to find a function. -/
def Aside (m : Handler Pool ε α) : Prop :=
  ∀ p, wp m
    { ok := fun _ q => q.footing = p.footing, err := fun _ q => q.footing = p.footing,
      panic := fun msg q => q.footing = p.footing ∧ msg ≠ functionPanic } p

namespace Aside

theorem pure (a : α) : Aside (Pure.pure a : Handler Pool ε α) := fun _ => rfl

theorem get : Aside (MonadState.get : Handler Pool ε Pool) := fun _ => rfl

theorem throw (e : ε) : Aside (MonadExcept.throw e : Handler Pool ε α) := fun _ => rfl

theorem bind {m : Handler Pool ε α} {k : α → Handler Pool ε β} (first : Aside m)
    (rest : ∀ a, Aside (k a)) : Aside (m >>= k) := fun p =>
  Handler.wp_seq (first p)
    (fun a q same => Handler.wp_mono (rest a q) (fun _ _ h => h.trans same)
      (fun _ _ h => h.trans same) fun _ _ h => ⟨h.1.trans same, h.2⟩)
    (fun _ _ h => h) fun _ _ h => h

theorem attempt {m : Handler Pool ε α} (h : Aside m) :
    Aside (Handler.attempt m : Handler Pool ε' (Except ε α)) := fun p =>
  (Handler.wp_attempt m _ p).mpr (h p)

theorem mapErr {m : Handler Pool ε α} (g : ε → ε') (h : Aside m) :
    Aside (Handler.mapErr g m) := fun p => (Handler.wp_mapErr g m _ p).mpr (h p)

theorem fromExcept (r : Except ε α) : Aside (Handler.fromExcept r) := by
  cases r
  · exact throw _
  · exact pure _

theorem ite {c : Prop} [Decidable c] {m n : Handler Pool ε α} (h : Aside m) (h' : Aside n) :
    Aside (if c then m else n) := by
  split
  · exact h
  · exact h'

theorem forM {xs : List β} {k : β → Handler Pool ε PUnit} (h : ∀ x, Aside (k x)) :
    Aside (forM xs k) := by
  induction xs with
  | nil => exact pure PUnit.unit
  | cons x xs ih =>
    rw [List.forM_cons]
    exact bind (h x) fun _ => ih

theorem expect {msg : String} {o : Option α} (other : msg ≠ functionPanic) :
    Aside (Handler.expect msg o : Handler Pool ε α) := by
  cases o
  · exact fun p => (⟨rfl, other⟩ : p.footing = p.footing ∧ msg ≠ functionPanic)
  · exact pure _

theorem require {msg : String} {c : Prop} [Decidable c] (other : msg ≠ functionPanic) :
    Aside (Handler.require c msg : Handler Pool ε Unit) := by
  unfold Handler.require
  split
  · exact pure _
  · exact fun p => (⟨rfl, other⟩ : p.footing = p.footing ∧ msg ≠ functionPanic)

theorem modify {g : Pool → Pool} (same : ∀ p, (g p).footing = p.footing) :
    Aside (modify g : Handler Pool ε PUnit) := fun p => same p

section Pieces
variable {msg : String}

theorem record (effect : Effect) : Aside (Pool.record effect : Handler Pool ε Unit) :=
  modify fun _ => rfl

theorem emitAdmissionEvent (ev : PoolEvent) :
    Aside (Pool.emitAdmissionEvent ev : Handler Pool ε Unit) := record _

theorem stopTimer : Aside (Pool.stopTimer w : Handler Pool ε Unit) := modify fun _ => rfl

theorem clearDeadline : Aside (Pool.clearDeadline w : Handler Pool ε Unit) :=
  modify fun _ => rfl

theorem setDeadline {t : Instant} : Aside (Pool.setDeadline w t : Handler Pool ε Unit) :=
  modify fun _ => rfl

theorem spawnTimer {t : Instant} : Aside (Pool.spawnTimer w t : Handler Pool ε Unit) :=
  modify fun _ => rfl

theorem addInstant {t : Instant} {d : Duration} :
    Aside (Pool.addInstant t d : Handler Pool ε Instant) :=
  bind (require (by decide)) fun _ => pure _

theorem expectHandle (other : msg ≠ functionPanic) :
    Aside (Pool.expectHandle msg w : Handler Pool ε WorkerHandle) :=
  bind get fun _ => expect other

theorem sendControl {msg : Worker.ControlMessage} : Aside (Pool.sendControl i w msg) := by
  unfold Pool.sendControl
  refine ite (record _) ?_
  cases msg <;> exact throw _

theorem sendLast {msg : Worker.ControlMessage} : Aside (Pool.sendLast i w msg) :=
  bind (expectHandle (by decide)) fun _ => mapErr _ sendControl

theorem deadlineOf : Aside (Pool.deadlineOf w : Handler Pool ε Instant) :=
  bind get fun _ => expect (by decide)

theorem cpuAlloc : Aside (Pool.cpuAlloc i w : Handler Pool ε Cpu) :=
  bind get fun _ => bind (expect (by decide)) fun _ =>
    bind (modify fun _ => rfl) fun _ => bind (require (by decide)) fun _ => pure _

theorem cpuRelease : Aside (Pool.cpuRelease w) := by
  unfold Pool.cpuRelease
  refine bind get fun p => ?_
  dsimp only
  split
  · exact throw _
  · exact bind (modify fun _ => rfl) fun _ => bind (expect (by decide)) fun _ => modify fun _ => rfl

theorem replyDispatch {resp : DispatchResponse} : Aside (Pool.replyDispatch i resp) :=
  ite (record _) (throw _)

theorem deny {resp : DispatchResponse} : Aside (Pool.deny i resp) := mapErr _ replyDispatch

theorem send {r : ReplyId} {reply : Reply} :
    Aside (Pool.send r reply : Handler Pool ε Unit) := record _

theorem sendAll {rs : List ReplyId} {reply : Reply} :
    Aside (Pool.sendAll rs reply : Handler Pool ε Unit) := forM fun _ => send

theorem forWaiters {op : Option PendingSandboxDestr}
    {reply : PendingSandboxDestr → Handler Pool ε Unit} (h : ∀ op, Aside (reply op)) :
    Aside (Pool.forWaiters op reply) := by
  cases op
  · exact pure _
  · exact h _

theorem answerPrep {op : Option PendingSandboxPrep} {reply : PrepareSandboxReply} :
    Aside (Pool.answerPrep op reply : Handler Pool ε Unit) := by
  unfold Pool.answerPrep
  split
  · exact send
  · exact pure _

theorem answerSnapshot {op : Option PendingSnapshot} {reply : CreateSnapshotReply} :
    Aside (Pool.answerSnapshot op reply : Handler Pool ε Unit) := by
  cases op
  · exact pure _
  · exact sendAll

theorem replyDestroyInternalFailure {op : PendingSandboxDestr} :
    Aside (op.replyDestroyInternalFailure msg : Handler Pool ε Unit) := sendAll

theorem replyDestroySuccess {op : PendingSandboxDestr} {persists : Bool} :
    Aside (op.replyDestroySuccess persists : Handler Pool ε Unit) :=
  ite replyDestroyInternalFailure sendAll

theorem replyDestroyWorkerFailure {op : PendingSandboxDestr} {err : Worker.Error} :
    Aside (op.replyDestroyWorkerFailure err : Handler Pool ε Unit) := sendAll

theorem insertOp {op : PendingControlOp} : Aside (Pool.insertOp w op : Handler Pool ε Unit) :=
  modify fun _ => rfl

theorem removeOp : Aside (Pool.removeOp w : Handler Pool ε Unit) := modify fun _ => rfl

theorem insertSnapshotOp {sandbox : SandboxId} {op : PendingSnapshot} :
    Aside (Pool.insertSnapshotOp sandbox op : Handler Pool ε Unit) := modify fun _ => rfl

theorem insertPrepOp {op : PendingSandboxPrep} :
    Aside (Pool.insertPrepOp w op : Handler Pool ε Unit) := modify fun _ => rfl

theorem insertDestrOp {op : PendingSandboxDestr} :
    Aside (Pool.insertDestrOp w op : Handler Pool ε Unit) := modify fun _ => rfl

theorem takeSnapshotOp {sandbox : SandboxId} :
    Aside (Pool.takeSnapshotOp sandbox : Handler Pool ε (Option PendingSnapshot)) := fun _ => rfl

theorem takePrepOp : Aside (Pool.takePrepOp w : Handler Pool ε (Option PendingSandboxPrep)) :=
  fun _ => rfl

theorem takeDestrOp :
    Aside (Pool.takeDestrOp w : Handler Pool ε (Option PendingSandboxDestr)) := fun _ => rfl

theorem finalizeControlOps {sandbox : Option SandboxId} :
    Aside (Pool.finalizeControlOps w sandbox : Handler Pool ε (Option PendingSandboxDestr)) := by
  unfold Pool.finalizeControlOps
  refine bind removeOp fun _ => ?_
  cases sandbox with
  | none => exact bind takePrepOp fun _ => bind answerPrep fun _ => takeDestrOp
  | some sandbox =>
    exact bind takeSnapshotOp fun _ => bind answerSnapshot fun _ =>
      bind takePrepOp fun _ => bind answerPrep fun _ => takeDestrOp

theorem reapMemAccount {accounting : WorkerMemAccounting} {workerMem : ByteUnit} :
    Aside (Pool.reapMemAccount accounting workerMem : Handler Pool ε Unit) := by
  cases accounting with
  | inUse => exact bind (modify fun _ => rfl) fun _ => emitAdmissionEvent _
  | reclaimed => exact bind (modify fun _ => rfl) fun _ => emitAdmissionEvent _
  | uncharged => exact pure _

theorem trashSandbox {sandbox : Sandbox} :
    Aside (Pool.trashSandbox sandbox : Handler Pool ε Unit) := modify fun _ => rfl

theorem insertWorkerBySandbox {sandbox : SandboxId} (other : msg ≠ functionPanic) :
    Aside (Pool.insertWorkerBySandbox msg sandbox w : Handler Pool ε Unit) :=
  bind get fun _ => bind (modify fun _ => rfl) fun _ => require other

theorem untrackSandbox {sandbox : Option SandboxId} :
    Aside (Pool.untrackSandbox sandbox : Handler Pool ε Unit) := by
  cases sandbox
  · exact pure _
  · exact modify fun _ => rfl

theorem trackDestr {removePersistedSnapshot : Bool} {respondTo : Option ReplyId} :
    Aside (Pool.trackDestr w removePersistedSnapshot respondTo : Handler Pool ε Unit) :=
  bind insertOp fun _ => insertDestrOp

theorem joinSnapshot {sandboxId : SandboxId} {respondTo : Option ReplyId} :
    Aside (Pool.joinSnapshot sandboxId respondTo) := by
  cases respondTo
  · exact pure _
  · exact bind get fun _ => bind (expect (by decide)) fun _ => insertSnapshotOp

theorem rejectDispatch : Aside (Pool.rejectDispatch i : Handler Pool ε Unit) :=
  bind (attempt replyDispatch) fun _ => pure _

theorem releaseForPrep : Aside (Pool.releaseForPrep w) := mapErr _ cpuRelease

theorem finalizeSandboxPreparationDuringShutdown {resp : PrepareSandboxResult} :
    Aside (Pool.finalizeSandboxPreparationDuringShutdown resp : Handler Pool ε Unit) :=
  bind (attempt releaseForPrep) fun _ => bind takePrepOp fun _ => bind answerPrep fun _ => removeOp

theorem finalizeSnapshottingDuringShutdown {resp : CreateSnapshotResult} :
    Aside (Pool.finalizeSnapshottingDuringShutdown resp : Handler Pool ε Unit) :=
  bind removeOp fun _ => bind takeSnapshotOp fun _ => answerSnapshot

end Pieces

end Aside

/-! ## Specifications of one step -/

/-- The handler adds only what it holds, and does not fail to find a function. -/
def growing (held : List FunctionId) (p : Pool) (F : α → Pool → Prop := fun _ _ => True) :
    Post Pool ε α where
  ok a q := Grows held p q ∧ F a q
  err _ q := Grows held p q
  panic msg q := Grows held p q ∧ msg ≠ functionPanic

section Growing
variable {F : α → Pool → Prop}

theorem Aside.growing {m : Handler Pool ε α} (h : Aside m) :
    wp m (growing held p fun _ q => q.footing = p.footing) p :=
  Handler.wp_mono (h p) (fun _ _ same => ⟨.of_footing same, same⟩) (fun _ _ same => .of_footing same)
    fun _ _ h => ⟨.of_footing h.1, h.2⟩

theorem growing_seq {m : Handler Pool ε α} {k : α → Handler Pool ε β} {G : β → Pool → Prop}
    (h : wp m (growing held p F) p)
    (rest : ∀ a q, Grows held p q → F a q → wp (k a) (growing held q G) q) :
    wp (m >>= k) (growing held p G) p := by
  refine Handler.wp_seq h ?_ (fun _ _ h => h) fun _ _ h => h
  rintro a q ⟨grows, fact⟩
  exact Handler.wp_mono (rest a q grows fact) (fun _ _ h => ⟨grows.trans h.1, h.2⟩)
    (fun _ _ h => grows.trans h) fun _ _ h => ⟨grows.trans h.1, h.2⟩

theorem growing_mono {m : Handler Pool ε α} {G : α → Pool → Prop} {held' : List FunctionId}
    (h : wp m (growing held p F) p) (subset : ∀ f ∈ held, f ∈ held' ∨ Covers p f)
    (fact : ∀ a q, Grows held p q → F a q → G a q) : wp m (growing held' p G) p :=
  Handler.wp_mono h (fun a q h => ⟨h.1.of_subset subset, fact a q h.1 h.2⟩)
    (fun _ _ h => h.of_subset subset) fun _ _ h => ⟨h.1.of_subset subset, h.2⟩

theorem growing_true {m : Handler Pool ε α} (h : wp m (growing held p F) p) :
    wp m (growing held p) p :=
  growing_mono h (fun _ => .inl) fun _ _ _ _ => trivial

theorem growing_past {m : Handler Pool ε α} {k : α → Handler Pool ε β} {G : β → Pool → Prop}
    (h : Aside m) (rest : ∀ a q, Stays p q → wp (k a) (growing held q G) q) :
    wp (m >>= k) (growing held p G) p :=
  growing_seq h.growing fun a q _ same => rest a q (.of_footing same)

theorem growing_last {m : Handler Pool ε α} (h : Aside m) : wp m (growing held p) p :=
  growing_true h.growing

theorem growing_mapErr {g : ε → ε'} {m : Handler Pool ε α} (h : wp m (growing held p F) p) :
    wp (mapErr g m) (growing held p F) p :=
  (Handler.wp_mapErr g m _ p).mpr h

theorem growing_map {g : α → β} {m : Handler Pool ε α} (h : wp m (growing held p) p) :
    wp (g <$> m) (growing held p) p :=
  (Handler.wp_map g m _ p).mpr h

theorem growing_pure {a : α} (fact : F a p) : wp (pure a : Handler Pool ε α) (growing held p F) p :=
  ⟨.refl, fact⟩

theorem growing_throw {e : ε} : wp (throw e : Handler Pool ε α) (growing held p F) p :=
  (Grows.refl : Grows held p p)

/-- The rest of a handler may also add for a function that was covered at its start. -/
theorem growing_from {m : Handler Pool ε α} (first : Grows held p q) (covers : Covers p f)
    (h : wp m (growing (f :: held) q F) q) : wp m (growing held p F) q := by
  have whole {r : Pool} (rest : Grows (f :: held) q r) : Grows held p r := by
    refine ⟨rest.functions.trans first.functions, fun f' covers' => ?_⟩
    obtain between | mem := rest.covers f' covers'
    · exact first.covers f' between
    · obtain rfl | mem := List.mem_cons.mp mem
      · exact .inl covers
      · exact .inr mem
  exact Handler.wp_mono h (fun _ _ h => ⟨whole h.1, h.2⟩) (fun _ _ h => whole h)
    fun _ _ h => ⟨whole h.1, h.2⟩

end Growing

theorem Grows.registered (h : Grows held p q) : Registered q f ↔ Registered p f := by
  unfold Registered
  rw [h.functions]

theorem grows_registeredFunction (known : Registered p f) :
    wp (registeredFunction f : Handler Pool ε RegisteredFunction)
      (growing held p fun _ q => q = p) p := by
  obtain ⟨function, look⟩ := Option.ne_none_iff_exists'.mp known
  exact wp_registeredFunction look ⟨.refl, rfl⟩

theorem grows_functionMemory (known : Registered p f) :
    wp (functionMemory f : Handler Pool ε ByteUnit) (growing held p fun _ q => q = p) p := by
  obtain ⟨function, look⟩ := Option.ne_none_iff_exists'.mp known
  exact wp_functionMemory look ⟨.refl, rfl⟩

section Workers
variable {stage source target : Stage}

theorem Grows.erase (key : FunctionId × WorkerId) :
    Grows held p { p with store := p.store.erase stage key } := by
  refine ⟨rfl, fun f covers => .inl ?_⟩
  cases covers with
  | member member => exact .member (FunctionMetadataStore.mem_erase.mp member).2
  | handle look own => exact .handle look own
  | snapshot look left => exact .snapshot look left

theorem Grows.insert (allowed : f ∈ held ∨ Covers p f) :
    Grows held p { p with store := p.store.insert stage (f, w) } := by
  refine ⟨rfl, fun f' covers => ?_⟩
  cases covers with
  | member member =>
    obtain ⟨-, ⟨⟩⟩ | before := FunctionMetadataStore.mem_insert.mp member
    · exact allowed.symm
    · exact .inl (.member before)
  | handle look own => exact .inl (.handle look own)
  | snapshot look left => exact .inl (.snapshot look left)

theorem grows_removeWorker (known : Registered p f) :
    wp (removeWorker stage w f : Handler Pool ε Bool)
      (growing held p fun _ q => q.workerHandles = p.workerHandles) p := by
  unfold removeWorker
  refine growing_seq (grows_registeredFunction known) ?_
  rintro _ _ - rfl
  exact ⟨.erase _, rfl⟩

theorem grows_insertWorker (known : Registered p f) (allowed : f ∈ held ∨ Covers p f) :
    wp (insertWorker stage w f)
      (growing held p fun _ q => (f, w) ∈ q.store.workers stage) p := by
  unfold insertWorker
  refine growing_seq (grows_registeredFunction known) ?_
  rintro _ _ - rfl
  simp only [Handler.wp_bind, Handler.wp_get, Handler.wp_modify, Handler.wp_ite, Handler.wp_throw,
    Handler.wp_pure]
  exact ⟨fun _ => .insert allowed, fun _ => ⟨.insert allowed, by simp⟩⟩

theorem grows_transition {msg : String} :
    wp (transition source target msg w f)
      (growing held p fun _ q => (f, w) ∈ q.store.workers target) p := by
  unfold transition
  simp only [Handler.wp_bind, Handler.wp_get]
  split
  next => exact .refl
  next function look =>
    simp only [Handler.wp_bind, Handler.wp_get, Handler.wp_ite, Handler.wp_throw]
    refine ⟨fun member => ?_, fun _ => .refl⟩
    have known : Registered p f := by simp [Registered, look]
    simp only [Handler.wp_modify]
    have erased : Grows held p { p with store := p.store.erase source (f, w) } := .erase _
    exact growing_from erased (.member member)
      (grows_insertWorker (erased.registered.mpr known) (.inl (by simp)))

end Workers

section Tables

theorem Grows.handle {handle : WorkerHandle}
    (allowed : handle.functionId ∈ held ∨ Covers p handle.functionId) :
    Grows held p { p with workerHandles := p.workerHandles.insert w handle } := by
  refine ⟨rfl, fun f covers => ?_⟩
  cases covers with
  | member member => exact .inl (.member member)
  | handle look own =>
    rw [Table.lookup_insert_ite] at look
    split at look
    · cases look
      exact own ▸ allowed.symm
    · exact .inl (.handle look own)
  | snapshot look left => exact .inl (.snapshot look left)

theorem Grows.untrack :
    Grows held p { p with workerHandles := p.workerHandles.erase w } := by
  refine ⟨rfl, fun f covers => .inl ?_⟩
  cases covers with
  | member member => exact .member member
  | handle look own =>
    rw [Table.lookup_erase_ite] at look
    split at look
    · cases look
    · exact .handle look own
  | snapshot look left => exact .snapshot look left

theorem Grows.snapshots {sandboxes : List Sandbox}
    (allowed : sandboxes ≠ [] → f ∈ held ∨ Covers p f) :
    Grows held p { p with snapshots := p.snapshots.insert f sandboxes } := by
  refine ⟨rfl, fun f' covers => ?_⟩
  cases covers with
  | member member => exact .inl (.member member)
  | handle look own => exact .inl (.handle look own)
  | snapshot look left =>
    rw [Table.lookup_insert_ite] at look
    split at look
    next same =>
      cases look
      exact same ▸ (allowed left).symm
    next => exact .inl (.snapshot look left)

/-- Taking a snapshot out. -/
theorem Grows.pick {sandboxes : List Sandbox} {idx : Nat}
    (look : p.snapshots.lookup f = some sandboxes) :
    Grows held p { p with snapshots := p.snapshots.insert f (sandboxes.eraseIdx idx) } := by
  refine .snapshots fun left => .inr (.snapshot look ?_)
  rintro rfl
  exact left rfl

theorem grows_expectHandle {msg : String} (other : msg ≠ functionPanic) :
    wp (expectHandle msg w : Handler Pool ε WorkerHandle)
      (growing held p fun handle q => q = p ∧ p.workerHandles.lookup w = some handle) p := by
  simp only [expectHandle, Handler.wp_bind, Handler.wp_get, Handler.wp_expect]
  exact ⟨fun handle look => ⟨.refl, rfl, look⟩, fun _ => ⟨.refl, other⟩⟩

theorem grows_setMemoryAccounting {accounting : WorkerMemAccounting} :
    wp (setMemoryAccounting w accounting : Handler Pool ε Unit) (growing held p) p := by
  unfold setMemoryAccounting
  refine growing_seq (grows_expectHandle (by decide)) ?_
  rintro handle _ - ⟨rfl, look⟩
  exact ⟨.handle (.inr (.handle look rfl)), trivial⟩

theorem grows_updateSandboxId {sandboxId : SandboxId} :
    wp (updateSandboxId w sandboxId : Handler Pool ε Unit) (growing held p) p := by
  unfold updateSandboxId
  refine growing_seq (grows_expectHandle (by decide)) ?_
  rintro handle q - ⟨rfl, look⟩
  refine growing_seq (F := fun _ _ => True) ⟨.handle (.inr (.handle look rfl)), trivial⟩ ?_
  exact fun _ _ _ _ => growing_last (.insertWorkerBySandbox (by decide))

theorem grows_takeHandle {msg : String} (other : msg ≠ functionPanic) :
    wp (takeHandle msg w : Handler Pool ε WorkerHandle) (growing held p) p := by
  unfold takeHandle
  refine growing_seq (grows_expectHandle other) ?_
  rintro handle _ - ⟨rfl, -⟩
  exact ⟨.untrack, trivial⟩

theorem grows_pickOrphanSnapshot :
    wp (pickOrphanSnapshot f : Handler Pool ε (Option Sandbox)) (growing held p) p := by
  refine wp_pickOrphanSnapshot fun sandbox snapshots takes => ?_
  cases takes with
  | none => exact ⟨.refl, trivial⟩
  | some look at_ => exact ⟨.pick look, trivial⟩

theorem grows_stashSnapshot {sandbox : Sandbox} (allowed : f ∈ held ∨ Covers p f) :
    wp (stashSnapshot f sandbox : Handler Pool ε Unit) (growing held p) p :=
  ⟨.snapshots fun _ => allowed, trivial⟩

theorem grows_insertWorkerHandle {handle : WorkerHandle}
    (allowed : handle.functionId ∈ held ∨ Covers p handle.functionId) :
    wp (insertWorkerHandle w handle : Handler Pool ε Unit)
      (growing held p fun _ q => Covers q handle.functionId) p := by
  have grows : Grows held p { p with workerHandles := p.workerHandles.insert w handle } :=
    .handle allowed
  simp only [insertWorkerHandle, Handler.wp_bind, Handler.wp_get, Handler.wp_modify,
    Handler.wp_require]
  exact ⟨fun _ => ⟨grows, .handle (AList.lookup_insert _) rfl⟩, fun _ => ⟨grows, by decide⟩⟩

theorem grows_spawnUntrackedWorker {sandbox : Option Sandbox} {accounting : WorkerMemAccounting}
    (known : Registered p f) (allowed : f ∈ held ∨ Covers p f) :
    wp (spawnUntrackedWorker i f sandbox accounting)
      (growing held p fun _ q => Covers q f) p := by
  unfold spawnUntrackedWorker
  refine growing_seq (grows_registeredFunction known) ?_
  rintro _ _ - rfl
  cases i.spawnError with
  | some err =>
    cases sandbox with
    | none => exact .refl
    | some sandbox => exact .snapshots fun _ => allowed
  | none =>
    refine growing_seq (grows_insertWorkerHandle allowed) fun _ q _ covers => ?_
    refine growing_mono (Aside.growing (.bind (.record _) fun _ => ?_)) (fun _ => .inl)
      fun _ _ _ same => covers.stays (.of_footing same)
    cases sandbox with
    | none => exact .pure _
    | some sandbox => exact .bind (.insertWorkerBySandbox (by decide)) fun _ => .pure _

theorem grows_settleExit {accounting : WorkerMemAccounting} {workerMem : ByteUnit}
    {op : Option PendingSandboxDestr} {exit : WorkerExit}
    (allowed : ∀ sandbox, exit.sandbox = .reusable sandbox → f ∈ held) :
    wp (settleExit f accounting workerMem op exit) (growing held p) p := by
  obtain ⟨result, sandbox⟩ := exit
  cases sandbox with
  | reusable sandbox =>
    have stash : wp (stashSnapshot f sandbox : Handler Pool Error Unit) (growing held p) p :=
      grows_stashSnapshot (.inl (allowed sandbox rfl))
    cases result with
    | ok =>
      exact growing_seq stash fun _ _ _ _ => growing_last <|
        .bind .reapMemAccount fun _ => .forWaiters fun _ => .replyDestroySuccess
    | error err =>
      exact growing_seq stash fun _ _ _ _ => growing_last <|
        .bind .reapMemAccount fun _ => .forWaiters fun _ => .replyDestroyWorkerFailure
  | trashed sandbox =>
    cases result with
    | ok => exact (⟨.refl, by decide⟩ : Grows held p p ∧ trashedPanic ≠ functionPanic)
    | error err =>
      exact growing_last <|
        .bind .trashSandbox fun _ => .forWaiters fun _ => .replyDestroyWorkerFailure
  | none =>
    cases result with
    | ok =>
      exact growing_last <|
        .bind .reapMemAccount fun _ => .forWaiters fun _ => .replyDestroySuccess
    | error err =>
      refine growing_last ?_
      cases err <;> first
        | exact .bind .reapMemAccount fun _ => .forWaiters fun _ => .replyDestroyWorkerFailure
        | exact .forWaiters fun _ => .replyDestroyWorkerFailure

end Tables

end Pool
end Snaplace
