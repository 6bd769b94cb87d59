import Snaplace.Pool.Frames
import Snaplace.Pool.Steps

/-!
# The cap on a function's live workers

A dispatch starts a worker only below the cap, and everything else that the pool does to its sets
moves workers towards Dying or takes them out, except for a preparation: it starts its worker without
a look at the cap.
-/
namespace Snaplace
open Foundation
open Worker (WorkerExit OutboundMessage)
open Admission (DispatchMode)

namespace Pool
open Handler (Keeps wp mapErr attempt expect require Post)
variable {ε : Type} {p q : Pool} {w : WorkerId} {f : FunctionId} {i : Input}

/-- The Idle and the Active workers of a function. -/
def liveWorkers (p : Pool) (f : FunctionId) : Nat := numWorkers .idle p f + numWorkers .active p f

/-- The cap in force for a function; one that is not registered may have no workers. -/
def capInForce (p : Pool) (f : FunctionId) : Nat :=
  ((p.store.functions.lookup f).map (workerCap p)).getD 0

def Capped (p : Pool) : Prop := ∀ f, liveWorkers p f ≤ capInForce p f

/-! ## How the sets change -/

def isOf (f : FunctionId) (key : FunctionId × WorkerId) : Nat := if key.1 = f then 1 else 0

namespace FunctionMetadataStore
variable {store : FunctionMetadataStore} {stage stage' : Stage} {key : FunctionId × WorkerId}

/-- How many workers of a function there are in a set. -/
def count (store : FunctionMetadataStore) (f : FunctionId) (stage : Stage) : Nat :=
  Table.total (fun key _ => isOf f key) (store.workers stage)

theorem count_erase (store : FunctionMetadataStore) (stage stage' : Stage)
    (key : FunctionId × WorkerId) :
    (store.erase stage key).count f stage' +
        (if stage' = stage ∧ key ∈ store.workers stage then isOf f key else 0) =
      store.count f stage' := by
  simp only [count, erase, Function.update]
  by_cases same : stage' = stage
  · subst same
    simp only [dite_true, true_and]
    split
    next member =>
      obtain ⟨v, look⟩ := Option.isSome_iff_exists.mp (AList.lookup_isSome.mpr member)
      rw [Table.total_of_lookup look, Nat.add_comm]
    next absent => rw [Table.erase_of_notMem absent, Nat.add_zero]
  · simp [same]

theorem count_insert_le (store : FunctionMetadataStore) (stage stage' : Stage)
    (key : FunctionId × WorkerId) :
    (store.insert stage key).count f stage' ≤
      store.count f stage' + if stage' = stage then isOf f key else 0 := by
  simp only [count, insert, Function.update]
  by_cases same : stage' = stage
  · subst same
    have added := Table.total_insert_add (f := fun key _ => isOf f key) (k := key) (v := ())
      (m := store.workers stage')
    simp only [dite_true, if_true]
    omega
  · simp [same]

def live (store : FunctionMetadataStore) (f : FunctionId) : Nat :=
  store.count f .idle + store.count f .active

theorem live_erase_le (store : FunctionMetadataStore) (stage : Stage)
    (key : FunctionId × WorkerId) : (store.erase stage key).live f ≤ store.live f := by
  have idle := count_erase (f := f) store stage .idle key
  have active := count_erase (f := f) store stage .active key
  unfold live
  omega

theorem live_erase (member : key ∈ store.workers stage) (live : stage ≠ .dying) :
    (store.erase stage key).live f + isOf f key = store.live f := by
  have idle := count_erase (f := f) store stage .idle key
  have active := count_erase (f := f) store stage .active key
  unfold FunctionMetadataStore.live
  cases stage with
  | dying => exact absurd rfl live
  | idle => simp [member] at idle active; omega
  | active => simp [member] at idle active; omega

theorem live_insert_le (store : FunctionMetadataStore) (stage : Stage)
    (key : FunctionId × WorkerId) :
    (store.insert stage key).live f ≤
      store.live f + if stage = .dying then 0 else isOf f key := by
  have idle := count_insert_le (f := f) store stage .idle key
  have active := count_insert_le (f := f) store stage .active key
  unfold live
  cases stage <;> simp at idle active ⊢ <;> omega

/-- A worker is moved from one set to another, not out of Dying. -/
theorem live_relocate (target : Stage) (member : key ∈ store.workers stage)
    (live : stage ≠ .dying) : ((store.erase stage key).insert target key).live f ≤ store.live f := by
  have out := live_erase (f := f) member live
  have into := live_insert_le (f := f) (store.erase stage key) target key
  split at into <;> omega

end FunctionMetadataStore

theorem numWorkers_eq_count (stage : Stage) (p : Pool) (f : FunctionId) :
    numWorkers stage p f = p.store.count f stage := by
  unfold numWorkers FunctionMetadataStore.count Table.total isOf
  induction (p.store.workers stage).entries with
  | nil => rfl
  | cons e entries ih =>
    rw [List.countP_cons, ih]
    by_cases same : e.1.1 = f <;> simp [same, Nat.add_comm]

theorem liveWorkers_eq (p : Pool) (f : FunctionId) : liveWorkers p f = p.store.live f := by
  rw [liveWorkers, numWorkers_eq_count, numWorkers_eq_count, FunctionMetadataStore.live]

theorem capInForce_eq (config : q.config = p.config)
    (functions : q.store.functions = p.store.functions) (f : FunctionId) :
    capInForce q f = capInForce p f := by
  have same : workerCap q = workerCap p := by
    funext function
    simp only [workerCap, config]
  rw [capInForce, capInForce, functions, same]

/-- No function has more live workers than before. -/
structure Shrinks (p q : Pool) : Prop where
  config : q.config = p.config
  functions : q.store.functions = p.store.functions
  live : ∀ f, q.store.live f ≤ p.store.live f

namespace Shrinks

theorem refl (p : Pool) : Shrinks p p := ⟨rfl, rfl, fun _ => le_rfl⟩

theorem trans {r : Pool} (h : Shrinks p q) (h' : Shrinks q r) : Shrinks p r :=
  ⟨h'.config.trans h.config, h'.functions.trans h.functions, fun f => (h'.live f).trans (h.live f)⟩

theorem of_store (config : q.config = p.config) (store : q.store = p.store) : Shrinks p q :=
  ⟨config, congrArg _ store, fun f => by rw [store]⟩

theorem erase (p : Pool) (stage : Stage) (key : FunctionId × WorkerId) :
    Shrinks p { p with store := p.store.erase stage key } :=
  ⟨rfl, rfl, fun _ => p.store.live_erase_le stage key⟩

theorem capped (h : Shrinks p q) (capped : Capped p) : Capped q := fun f => by
  have less := h.live f
  have cap := capped f
  rw [liveWorkers_eq] at cap ⊢
  rw [capInForce_eq h.config h.functions]
  omega

end Shrinks

theorem keeps_transition {source target : Stage} {msg : String} (live : source ≠ .dying) :
    Keeps Shrinks (transition source target msg w f) :=
  .of_wp fun p => all_transition (.refl p) (fun _ => .erase p source (f, w))
    fun member => ⟨rfl, rfl, fun _ => FunctionMetadataStore.live_relocate target member live⟩

instance : IsPreorder Pool Shrinks where
  refl := .refl
  trans _ _ _ h h' := h.trans h'

instance : Frame Shrinks where
  aside p q same := .of_store (congrArg Prod.fst same) (congrArg (fun core => core.2.1) same)
  toIdle _ _ := keeps_transition (by decide)
  idleToDying _ _ := keeps_transition (by decide)
  activeToDying _ _ := keeps_transition (by decide)
  account _ _ := .bind (.bind .get fun _ => .expect _ _) fun _ => .modify fun _ => .of_store rfl rfl

theorem keeps_removeWorker {stage : Stage} :
    Keeps Shrinks (removeWorker stage w f : Handler Pool ε Bool) :=
  .of_wp fun p => all_removeWorker (.refl p) (.erase p stage (f, w))

theorem keeps_insertDyingWorker : Keeps Shrinks (insertDyingWorker w f) :=
  .of_wp fun p => all_insertWorker (.refl p)
    ⟨rfl, rfl, fun _ => p.store.live_insert_le .dying (f, w)⟩

instance : SandboxFrame Shrinks where
  place _ _ same := .of_store (congrArg Prod.fst same) (congrArg (fun tables => tables.2.1) same)
  condemn _ _ := keeps_insertDyingWorker

instance : ReapFrame Shrinks where
  remove _ _ _ := keeps_removeWorker

/-! ## Handlers that take workers and snapshots in and out -/

section Handlers

/-- An Idle worker becomes Active, which leaves it live. -/
theorem keeps_activateForSnapshot {sandboxId : SandboxId} {respondTo : Option ReplyId} :
    Keeps Shrinks (activateForSnapshot w f sandboxId respondTo) := by
  apply Keeps.of_wp
  intro p
  simp only [activateForSnapshot, removeIdleWorker, removeWorker, registeredFunction,
    Handler.wp_bind, Handler.wp_get, Handler.wp_expect, Handler.wp_modify, Handler.wp_pure,
    Handler.wp_ite, decide_eq_true_eq, Handler.wp_mapErr]
  refine ⟨fun _ _ => ⟨fun idle => ?_, fun _ => ?_⟩, fun _ => .refl p⟩
  · exact all_insertWorker (.erase p .idle (f, w))
      ⟨rfl, rfl, fun _ => FunctionMetadataStore.live_relocate .active idle (by decide)⟩
  · have erased := Shrinks.erase p .idle (f, w)
    split <;> exact erased

end Handlers

/-! ## Handlers that start or activate a worker -/

/-- One live worker of `f` more, at most, and no more of any other function. -/
structure Adds (f : FunctionId) (p q : Pool) : Prop where
  config : q.config = p.config
  functions : q.store.functions = p.store.functions
  live : ∀ g, q.store.live g ≤ p.store.live g + if f = g then 1 else 0

namespace Adds

theorem of_shrinks (h : Shrinks p q) : Adds f p q :=
  ⟨h.config, h.functions, fun g => (h.live g).trans (Nat.le_add_right ..)⟩

instance : Std.Refl (Adds f) := ⟨fun p => of_shrinks (.refl p)⟩

theorem before {r : Pool} (h : Shrinks p q) (h' : Adds f q r) : Adds f p r :=
  ⟨h'.config.trans h.config, h'.functions.trans h.functions,
    fun g => (h'.live g).trans (Nat.add_le_add_right (h.live g) _)⟩

theorem then_ {r : Pool} (h : Adds f p q) (h' : Shrinks q r) : Adds f p r :=
  ⟨h'.config.trans h.config, h'.functions.trans h.functions, fun g => (h'.live g).trans (h.live g)⟩

theorem insert (p : Pool) (f : FunctionId) (w : WorkerId) :
    Adds f p { p with store := p.store.insert .active (f, w) } :=
  ⟨rfl, rfl, fun _ => p.store.live_insert_le .active (f, w)⟩

/-- One more worker is within a cap that has not been reached. -/
theorem capped (h : Adds f p q) (capped : Capped p) (room : liveWorkers p f < capInForce p f) :
    Capped q := fun g => by
  have same : capInForce q g = capInForce p g := capInForce_eq h.config h.functions g
  have more := h.live g
  have cap := capped g
  rw [liveWorkers_eq] at cap room ⊢
  rw [same]
  split at more
  next here => subst here; omega
  next => omega

end Adds

theorem keeps_before {α β : Type} {m : Handler Pool ε α} {k : α → Handler Pool ε β}
    (first : Keeps Shrinks m) (rest : ∀ a, Keeps (Adds f) (k a)) : Keeps (Adds f) (m >>= k) :=
  .comp (S := Adds f) (fun _ _ _ => .before) first rest

theorem keeps_then {α β : Type} {m : Handler Pool ε α} {k : α → Handler Pool ε β}
    (first : Keeps (Adds f) m) (rest : ∀ a, Keeps Shrinks (k a)) : Keeps (Adds f) (m >>= k) :=
  .comp (S := Shrinks) (fun _ _ _ => .then_) first rest

theorem keeps_insertActiveWorker : Keeps (Adds f) (insertActiveWorker w f) :=
  .of_wp fun p => all_insertWorker (.of_shrinks (.refl p)) (.insert p f w)

theorem keeps_assignWorker : Keeps (Adds f) (assignWorker i w f) := by
  unfold assignWorker
  refine keeps_before Keeping.stopTimer fun _ => keeps_then (.mapErr keeps_insertActiveWorker) ?_
  refine fun _ => .bind Keeping.cpuAlloc fun _ => .bind Keeping.expectHandle fun _ => .bind .get
    fun p => .bind Keeping.clearDeadline fun _ => .bind (.attempt Keeping.replyDispatch) fun r => ?_
  cases r with
  | ok _ => exact .pure _
  | error _ => exact Keeping.cleanupFailedDispatch

/-- An Idle worker is handed out, which leaves it live. -/
theorem keeps_assignIdle : Keeps Shrinks (do
    let found ← removeIdleWorker w f
    require (found = true) idlePanic
    assignWorker i w f) := by
  apply Keeps.of_wp
  intro p
  simp only [removeIdleWorker, removeWorker, registeredFunction, Handler.wp_bind, Handler.wp_get,
    Handler.wp_expect, Handler.wp_modify, Handler.wp_pure, Handler.wp_require, decide_eq_true_eq]
  refine ⟨fun _ _ => ⟨fun idle => ?_, fun _ => .erase p .idle (f, w)⟩, fun _ => .refl p⟩
  have assigned (q : Pool) (adds : Adds f { p with store := p.store.erase .idle (f, w) } q) :
      Shrinks p q := by
    refine ⟨adds.config, adds.functions, fun g => (adds.live g).trans ?_⟩
    exact (FunctionMetadataStore.live_erase idle (by decide)).le
  exact Handler.wp_mono (keeps_assignWorker.wp _) (fun _ => assigned) (fun _ => assigned)
    fun _ => assigned

theorem Shrinks.all_capped {α : Type} {m : Handler Pool ε α} (h : Keeps Shrinks m)
    (capped : Capped p) : wp m (Post.all Capped) p :=
  Handler.wp_all_iff.mpr ((h p).capped capped)

theorem Adds.all_capped {α : Type} {m : Handler Pool ε α} (h : Keeps (Adds f) m)
    (capped : Capped p) (room : liveWorkers p f < capInForce p f) :
    wp m (Post.all Capped) p :=
  Handler.wp_all_iff.mpr ((h p).capped capped room)

/-- A dispatch that comes to a new worker has found room for it. -/
theorem capped_dispatchToNewWorker {mode : DispatchMode} (capped : Capped p) :
    wp (dispatchToNewWorker i f mode) (Post.all Capped) p := by
  rw [dispatchToNewWorker, Handler.wp_ite]
  refine ⟨fun _ => Shrinks.all_capped Keeping.deny capped, fun _ => ?_⟩
  rw [Handler.wp_bind, wp_registeredFunction_iff]
  refine ⟨fun function known => ?_, fun _ => capped⟩
  dsimp only
  rw [Handler.wp_bind, Handler.wp_get]
  dsimp only
  rw [Handler.wp_ite]
  refine ⟨fun _ => Shrinks.all_capped Keeping.deny capped, fun below => ?_⟩
  have room : liveWorkers p f < capInForce p f := by
    simpa [capInForce, known, liveWorkers] using below
  rw [Handler.wp_ite]
  refine ⟨fun _ => Adds.all_capped ?_ capped room, fun _ => Shrinks.all_capped ?_ capped⟩
  · exact keeps_before Keeping.pickOrphanSnapshot fun _ => keeps_before Keeping.spawnNewWorker fun _ =>
      keeps_before Keeping.evictIfNeeded fun _ => keeps_assignWorker
  · exact .bind Keeping.evictIfNeeded fun _ => Keeping.deny

theorem capped_handleDispatch {mode : DispatchMode} (capped : Capped p) :
    wp (handleDispatch i f mode) (Post.all Capped) p := by
  rw [handleDispatch, Handler.wp_bind, Handler.wp_get]
  dsimp only
  rw [Handler.wp_ite]
  refine ⟨fun _ => ?_, fun _ => Shrinks.all_capped Keeping.deny capped⟩
  refine Handler.wp_seq (Shrinks.all_capped Keeping.pickIdleWorker capped) (fun picked q capped => ?_)
    (fun _ _ => id) fun _ _ => id
  cases picked with
  | some worker => exact Shrinks.all_capped keeps_assignIdle capped
  | none => exact capped_dispatchToNewWorker capped

/-! ## Preparations -/

theorem keeps_startPrep {options : PrepareSandboxOptions} {respondTo : Option ReplyId} :
    Keeps (Adds f) (startPrep i w f options respondTo) := by
  have abandon (err : Worker.Error) : Keeps Shrinks (abandonPrep i w f err) := by
    refine .bind (.attempt Keeping.cpuRelease) fun _ => .bind Keeping.takePrepOp fun _ => ?_
    split
    · exact .bind (.attempt Keeping.reapWorker) fun _ => .throw _
    · exact .throw _
  refine keeps_then (.mapErr keeps_insertActiveWorker) fun _ => .bind Keeping.cpuAlloc fun _ =>
    .bind Keeping.insertOp fun _ => .bind Keeping.insertPrepOp fun _ =>
      .bind Keeping.expectHandle fun _ => .bind (.attempt Keeping.sendControl) fun r => ?_
  cases r with
  | ok _ => exact .pure _
  | error err => exact abandon err

theorem keeps_requestSandboxPrep {options : PrepareSandboxOptions} {respondTo : Option ReplyId} :
    Keeps (Adds f) (requestSandboxPrep i f options respondTo) := by
  unfold requestSandboxPrep
  refine keeps_before .get fun p => .ite (fun _ => ?_) fun _ => fun p => .of_shrinks (.refl p)
  refine keeps_before Keeping.functionMemory fun mem => keeps_before Keeping.startingSandbox
    fun sandbox => keeps_before .get fun p => .ite (fun _ => ?_) fun _ => ?_
  · exact keeps_before (.mapErr Keeping.spawnNewWorker) fun _ =>
      keeps_before Keeping.evictIfNeeded fun _ => keeps_startPrep
  · exact keeps_before Keeping.evictIfNeeded fun _ => fun p => .of_shrinks (.refl p)

/-- The request would start a worker. -/
structure StartsWorker (i : Input) (p : Pool) (f : FunctionId) (options : PrepareSandboxOptions) :
    Prop where
  succeeds : i.spawnError = none
  snapshot : options.mode = .requireSnapshot → (p.snapshots.lookup f).getD [] ≠ []
  memory : ∃ function, p.store.functions.lookup f = some function ∧
    p.memory.fits function.memory = true

/-- The handler does not succeed, and leaves the pool as `P` says. -/
def onlyFails {α : Type} (P : Pool → Prop) : Post Pool ε α where
  ok _ _ := False
  err _ := P
  panic _ := P

theorem spawnNewWorker_fails {sandbox : Option Sandbox} {err : Worker.Error} (p : Pool)
    (fails : i.spawnError = some err) :
    wp (spawnNewWorker i f sandbox) (onlyFails (Shrinks p)) p := by
  simp only [spawnNewWorker, spawnUntrackedWorker, Handler.wp_bind, wp_registeredFunction_iff, fails]
  refine ⟨fun _ _ => ?_, fun _ => .refl p⟩
  cases sandbox with
  | some sandbox =>
    exact Handler.wp_seq (Keeping.stashSnapshot.wp p) (fun _ _ moved => moved) (fun _ _ => id)
      fun _ _ => id
  | none => exact Shrinks.refl p

/-- A request that does not start a worker ends before one is Active. -/
theorem shrinks_requestSandboxPrep {options : PrepareSandboxOptions} {respondTo : Option ReplyId}
    (starts : ¬ StartsWorker i p f options) :
    wp (requestSandboxPrep i f options respondTo) (Post.all (Shrinks p)) p := by
  rw [requestSandboxPrep, Handler.wp_bind, Handler.wp_get]
  dsimp only
  rw [Handler.wp_ite]
  refine ⟨fun known => ?_, fun _ => .refl p⟩
  obtain ⟨function, known⟩ := Option.isSome_iff_exists.mp known
  rw [Handler.wp_bind]
  refine wp_functionMemory known ?_
  -- What follows once the snapshot to start from is settled.
  have rest (sandbox : Option Sandbox) (q : Pool) (moved : Shrinks p q)
      (memory : q.memory = p.memory)
      (snapshot : options.mode = .requireSnapshot → (p.snapshots.lookup f).getD [] ≠ []) :
      wp (do
        if (← get).memory.fits function.memory then
          let worker ← mapErr (fun err =>
            (.internal "failed while creating new Worker" (some err), respondTo))
            (spawnNewWorker i f sandbox)
          evictIfNeeded i
          startPrep i worker f options respondTo
        else
          evictIfNeeded i
          throw (.outOfMemory, respondTo) : RequestM PrepareSandboxError Unit)
        (Post.all (Shrinks p)) q := by
    rw [Handler.wp_bind, Handler.wp_get]
    dsimp only
    rw [Handler.wp_ite, memory]
    refine ⟨fun fits => ?_, fun _ => ?_⟩
    · cases fails : i.spawnError with
      | none => exact absurd ⟨fails, snapshot, function, known, fits⟩ starts
      | some err =>
        refine Handler.wp_seq (P := onlyFails (Shrinks q))
          ((Handler.wp_mapErr ..).mpr (spawnNewWorker_fails q fails)) ?_ ?_ ?_
        · exact fun _ _ => False.elim
        · exact fun _ _ h => moved.trans h
        · exact fun _ _ h => moved.trans h
    · have ends : Keeps Shrinks (do
          evictIfNeeded i
          throw (.outOfMemory, respondTo) : RequestM PrepareSandboxError Unit) :=
        .bind Keeping.evictIfNeeded fun _ => .throw _
      exact Handler.wp_all_iff.mpr (moved.trans (ends q))
  dsimp only
  rw [Handler.wp_bind]
  cases mode : options.mode with
  | forceFresh => exact rest none p (.refl p) rfl (by simp [mode])
  | preferSnapshot =>
    refine wp_pickOrphanSnapshot fun sandbox snapshots takes => ?_
    exact rest sandbox _ (.of_store rfl rfl) rfl (by simp [mode])
  | requireSnapshot =>
    rw [startingSandbox, Handler.wp_bind]
    refine wp_pickOrphanSnapshot fun sandbox snapshots takes => ?_
    cases takes with
    | none => exact Shrinks.refl p
    | some look at_ =>
      refine rest (some _) _ (.of_store rfl rfl) rfl fun _ => ?_
      rw [look]
      rintro rfl
      simp at at_

/-! ## Runs -/

/-- No worker is started for a preparation while its function's live workers have reached the cap. -/
def PreparesBelowCap (p : Pool) (i : Input) : Prop :=
  match i.event with
  | .control (.prepareSandbox f options _) => p.phase = .serving → StartsWorker i p f options →
      liveWorkers p f < capInForce p f
  | _ => True

instance (i : Input) (p : Pool) (f : FunctionId) (options : PrepareSandboxOptions) :
    Decidable (StartsWorker i p f options) :=
  decidable_of_iff
    (i.spawnError = none ∧
      (options.mode = .requireSnapshot → (p.snapshots.lookup f).getD [] ≠ []) ∧
      ∃ function ∈ p.store.functions.lookup f, p.memory.fits function.memory = true)
    ⟨fun ⟨succeeds, snapshot, memory⟩ => ⟨succeeds, snapshot, memory⟩,
      fun ⟨succeeds, snapshot, memory⟩ => ⟨succeeds, snapshot, memory⟩⟩

instance (p : Pool) (i : Input) : Decidable (PreparesBelowCap p i) := by
  unfold PreparesBelowCap
  split <;> infer_instance

theorem capped_requestSandboxPrep {options : PrepareSandboxOptions} {respondTo : Option ReplyId}
    (capped : Capped p)
    (below : StartsWorker i p f options → liveWorkers p f < capInForce p f) :
    wp (requestSandboxPrep i f options respondTo) (Post.all Capped) p := by
  by_cases starts : StartsWorker i p f options
  · exact Adds.all_capped keeps_requestSandboxPrep capped (below starts)
  · have shrinks : wp (requestSandboxPrep i f options respondTo) (Post.all p.Shrinks) p :=
      shrinks_requestSandboxPrep starts
    exact Handler.wp_all_iff.mpr ((Handler.wp_all_iff.mp shrinks).capped capped)

theorem capped_answerFailure {E : Type} {reply : E → Reply} {request : RequestM E Unit}
    (h : wp request (Post.all Capped) p) :
    wp (answerFailure reply request : Handler Pool ε Unit) (Post.all Capped) p := by
  rw [answerFailure, Handler.wp_bind, Handler.wp_attempt]
  refine Handler.wp_mono h (fun _ _ capped => capped) (fun err q capped => ?_) fun _ _ => id
  obtain ⟨err, waiter⟩ := err
  cases waiter with
  | some respondTo =>
    have sent : Keeps Shrinks (send respondTo (reply err) : Handler Pool ε Unit) :=
      .modify fun _ => .of_store rfl rfl
    exact Shrinks.all_capped sent capped
  | none => exact capped

theorem capped_handleControl {msg : PoolControlMessage} (capped : Capped p)
    (below : ∀ f options respondTo, msg = .prepareSandbox f options respondTo →
      StartsWorker i p f options → liveWorkers p f < capInForce p f) :
    wp (handleControl i msg : Handler Pool ε Unit) (Post.all Capped) p := by
  cases msg with
  | prepareSandbox f options respondTo =>
    rw [handleControl, Handler.wp_bind, record, Handler.wp_modify]
    refine capped_answerFailure (capped_requestSandboxPrep capped fun starts => ?_)
    exact below f options respondTo rfl ⟨starts.succeeds, starts.snapshot, starts.memory⟩
  | destroySandbox target options respondTo =>
    exact Shrinks.all_capped (.bind (Keeping.record rfl) fun _ =>
      Keeping.answerFailure Keeping.requestSandboxDestr fun _ _ => rfl) capped
  | listSandboxes respondTo => exact capped
  | createSnapshot sandboxId respondTo =>
    exact Shrinks.all_capped (.bind (Keeping.record rfl) fun _ => Keeping.answerFailure
      (Keeping.requestSnapshotting fun _ _ => keeps_activateForSnapshot) fun _ _ => rfl) capped

/-- The functions that have live workers are as they were. -/
theorem Capped.functions (capped : Capped p) {functions : Table FunctionId RegisteredFunction}
    (same : ∀ g, liveWorkers p g ≠ 0 → functions.lookup g = p.store.functions.lookup g) :
    Capped { p with store.functions := functions } := by
  intro g
  change liveWorkers p g ≤ ((functions.lookup g).map (workerCap p)).getD 0
  by_cases none : liveWorkers p g = 0
  · omega
  · rw [same g none]
    exact capped g

theorem capped_registerFunction {function : RegisteredFunction} (capped : Capped p) :
    wp (registerFunction f function) (Post.all Capped) p := by
  simp only [registerFunction, Handler.wp_bind, Handler.wp_get]
  cases unknown : p.store.functions.lookup f with
  | some _ => exact capped
  | none =>
    refine capped.functions fun g live => ?_
    rw [Table.lookup_insert_ite]
    split
    next here =>
      have cap := capped g
      rw [capInForce, here, unknown] at cap
      exact absurd (Nat.le_zero.mp cap) (here ▸ live)
    next => rfl

theorem capped_deregisterFunction (capped : Capped p) :
    wp (deregisterFunction f) (Post.all Capped) p := by
  simp only [deregisterFunction, Handler.wp_bind, Handler.wp_get]
  cases p.store.functions.lookup f with
  | none => exact capped
  | some _ =>
    rw [Handler.wp_ite]
    refine ⟨fun _ => capped, fun unused => capped.functions fun g live => ?_⟩
    rw [Table.lookup_erase_ite]
    split
    next here =>
      subst here
      unfold liveWorkers at live
      omega
    next => rfl

theorem capped_attempt {ε' α β : Type} {m : Handler Pool ε α}
    {k : Except ε α → Handler Pool ε' β} (h : wp m (Post.all Capped) p)
    (rest : ∀ r, Keeps Shrinks (k r)) :
    wp (attempt m >>= k) (Post.all Capped) p := by
  rw [Handler.wp_bind, Handler.wp_attempt]
  exact Handler.wp_mono h (fun _ _ capped => Shrinks.all_capped (rest _) capped)
    (fun _ _ capped => Shrinks.all_capped (rest _) capped) fun _ _ => id

theorem capped_serve (capped : Capped p) (serving : p.phase = .serving)
    (below : PreparesBelowCap p i) : wp (serve i i.event) (Post.all Capped) p := by
  unfold PreparesBelowCap at below
  cases event : i.event with
  | keepaliveTimeout worker =>
    change wp (decommissionIdleWorker i worker none) _ p
    exact Shrinks.all_capped Keeping.decommissionIdleWorker capped
  | workerMessage msg => exact Shrinks.all_capped Keeping.handleWorkerStatus capped
  | dispatch functionId mode => exact capped_handleDispatch capped
  | control msg =>
    refine capped_handleControl capped fun f options respondTo same starts => ?_
    rw [event, same] at below
    exact below serving starts
  | registerFunction functionId function =>
    exact capped_attempt (capped_registerFunction capped) fun _ => .pure _
  | deregisterFunction functionId =>
    exact capped_attempt (capped_deregisterFunction capped) fun _ => .pure _
  | quit | admissionClosed | snapmanMessage | shutdownTick => exact capped

theorem capped_handleServing (capped : Capped p) (serving : p.phase = .serving)
    (below : PreparesBelowCap p i) :
    wp (handleServing i : Handler Pool ε Unit) (Post.all Capped) p := by
  have served := capped_serve capped serving below
  unfold handleServing
  cases event : i.event with
  | quit | admissionClosed =>
    exact Shrinks.all_capped (Keeping.beginShutdown fun _ => .of_store rfl rfl) capped
  | _ =>
    rw [event] at served
    refine capped_attempt served fun r => ?_
    cases r with
    | ok _ => exact .pure _
    | error _ => exact Keeping.beginShutdown fun _ => .of_store rfl rfl

theorem capped_handleShuttingDown (capped : Capped p) :
    wp (handleShuttingDown i : Handler Pool ε Bool) (Post.all Capped) p := by
  unfold handleShuttingDown
  cases i.event with
  | dispatch f mode =>
    exact Shrinks.all_capped (.bind Keeping.rejectDispatch fun _ => .pure _) capped
  | workerMessage msg =>
    exact Shrinks.all_capped (.bind Keeping.drainWorkerMessage fun _ => .pure _) capped
  | shutdownTick =>
    exact Shrinks.all_capped (.bind .get fun _ => .ite
      (fun _ => .bind Keeping.cleanupOrphans fun _ => .pure _) fun _ => .pure _) capped
  | registerFunction f function =>
    exact capped_attempt (capped_registerFunction capped) fun _ => .pure _
  | deregisterFunction f => exact capped_attempt (capped_deregisterFunction capped) fun _ => .pure _
  | quit | keepaliveTimeout _ | snapmanMessage | control _ | admissionClosed => exact capped

/-- One turn of the loop. -/
theorem capped_turn (capped : Capped p) (below : PreparesBelowCap p i) :
    wp (turn i) (Post.all Capped) p := by
  rw [turn, Handler.wp_bind, Handler.wp_get]
  dsimp only
  cases phase : p.phase with
  | serving =>
    exact Handler.wp_seq (capped_handleServing capped phase below) (fun _ _ => id) (fun _ _ => id)
      fun _ _ => id
  | shuttingDown =>
    refine Handler.wp_seq (capped_handleShuttingDown capped) (fun done _ capped => ?_)
      (fun _ _ => id) fun _ _ => id
    cases done <;> exact capped

theorem capped_spawn (config : SandboxPoolConfig) (cpus : List Cpu) (memory : MemoryStats)
    (functions : Table FunctionId RegisteredFunction)
    (snapshots : Table FunctionId (List Sandbox)) :
    Capped (spawn config cpus memory functions snapshots) := fun _ => Nat.zero_le _

/-- No function has more live workers than its cap, wherever a run has come to in which no preparation
starts a worker of a function that has reached its cap. -/
theorem live_workers_capped (config : SandboxPoolConfig) (cpus : List Cpu) (memory : MemoryStats)
    (functions : Table FunctionId RegisteredFunction)
    (snapshots : Table FunctionId (List Sandbox)) (inputs : List Input)
    (below : AllTurns turn PreparesBelowCap inputs
      (spawn config cpus memory functions snapshots)) :
    ∀ taken, taken <+: inputs → ∀ f,
      let p := (run taken (spawn config cpus memory functions snapshots)).state
      liveWorkers p f ≤ capInForce p f := by
  intro taken before
  have all := iterate_invariant (I := Capped) (E := fun _ => Capped) (P := fun _ => Capped)
    (fun p i capped below => Handler.wp_mono (capped_turn capped below)
      (fun r _ capped => by cases r <;> exact capped) (fun _ _ _ => trivial) fun _ _ => id)
    (capped_spawn config cpus memory functions snapshots) (below.of_front before)
  change Capped _
  unfold run
  cases ran : iterate turn taken (spawn config cpus memory functions snapshots) <;>
    rw [ran] at all <;> exact all

/-- An event at which everything outside the pool goes well. -/
def Event.smooth (event : Event) (newWorkerId : WorkerId) : Input where
  event := event
  now := 0
  newWorkerId := newWorkerId
  spawnError := none
  workerRank := Prod.snd
  randomRank := Prod.snd
  functionRank := id
  cpuRank := id
  assign _ := none
  controlOpen _ := true
  isFinished _ := false
  exit _ := none
  admissionWaits := true
  destroyOrphan _ := .destroyed true

/-- A pool with one function, which may have one live worker. -/
def single : Pool :=
  spawn
    { retainSnapshots := false, snapshotCreationTime := .never, defaultWorkerCapPerFunc := 1,
      eviction := .noOp }
    [0]
    { total := 8, inuse := 0, reclaimed := 0, evictionThresHi := 8, evictionThresLo := 8 }
    (AList.insert 7 { memory := 2, admission := none } ∅) ∅

def preparation (respondTo : ReplyId) : Event :=
  .control (.prepareSandbox 7 { mode := .preferSnapshot, initialKeepaliveHint := none } respondTo)

/-- One worker is prepared; a dispatch finds that the cap has been reached. -/
theorem live_workers_capped_single :
    let inputs := [(preparation 1).smooth 10, (Event.dispatch 7 .reuseIdleOrProvision).smooth 11]
    liveWorkers (run inputs single).state 7 ≤ capInForce (run inputs single).state 7 :=
  live_workers_capped _ _ _ _ _ _ (by decide +kernel) _ (List.prefix_refl _) 7

/-- Two workers are prepared for a function that may have one. -/
theorem prepared_past_cap :
    let p := (run [(preparation 1).smooth 10, (preparation 2).smooth 11] single).state
    capInForce p 7 = 1 ∧ liveWorkers p 7 = 2 ∧ ¬ liveWorkers p 7 ≤ capInForce p 7 := by
  decide +kernel

end Pool
end Snaplace
