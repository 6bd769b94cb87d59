import Snaplace.Pool.Lookups

/-!
# The pool under interference of the registrar

From a pool whose functions are registered, and with the registrar leaving registered what the pool
relies on, no step of a turn fails to find a function, and the turn leaves such a pool behind.
-/
namespace Snaplace
open Foundation
open Worker (OutboundMessage PrepareSandboxResult CreateSnapshotResult)
open Admission (DispatchMode DispatchResponse)

namespace Pool
open Handler (wp mapErr attempt expect require fromExcept Post)
open Resumption (atomic)
variable {ε ε' α β : Type} {held held' : List FunctionId} {p q : Pool} {f : FunctionId}
  {w : WorkerId} {i : Input} {F : α → Pool → Prop} {G : β → Pool → Prop}

theorem Secure.release (h : Secure held p) (less : held' ⊆ held) : Secure held' p :=
  ⟨h.covered, fun f mem => h.held f (less mem)⟩

theorem Secure.hold (h : Secure held p) (known : Registered p f) : Secure [f] p :=
  ⟨h.covered, by simpa using known⟩

theorem Secure.holdCovered (h : Secure held p) (covers : Covers p f) : Secure [f] p :=
  h.hold (h.covered f covers)

theorem Secure.registered (h : Secure [f] p) : Registered p f := h.held f (by simp)

/-- The pool stays secure, `F` holds at the end, and no function is found missing. -/
def securing (held : List FunctionId) (F : α → Pool → Prop := fun _ _ => True) :
    Post Pool ε α where
  ok a q := Secure held q ∧ F a q
  err _ q := Secure held q
  panic msg _ := msg ≠ functionPanic

namespace Stepwise

/-- Started in `p`, the handler is safe from the registrar, and secures what `Q` says. -/
abbrev SafeFrom (p : Pool) (x : PoolS ε α) (Q : Post Pool ε α) : Prop :=
  x.Safe Interferes Advances Q p

section Rules

theorem safe_step {m : Handler Pool ε α} (secure : Secure held p)
    (spec : ∀ q, Stays p q → Secure held q → wp m (growing held q F) q) :
    SafeFrom p (atomic held m) (securing held F) := by
  refine Resumption.safe_atomic fun q interferes => ?_
  have secured := interferes.secure secure
  have advances {r : Pool} (grows : Grows held q r) : Advances q r :=
    ⟨grows.functions, (secured.grows grows).covered⟩
  exact Handler.wp_mono (spec q interferes.stays secured)
    (fun _ _ h => ⟨advances h.1, secured.grows h.1, h.2⟩)
    (fun _ _ h => ⟨advances h, secured.grows h⟩) fun _ _ h => ⟨advances h.1, h.2⟩

theorem safe_get (secure : Secure held p) :
    SafeFrom p (atomic held get : PoolS ε Pool) (securing held fun a q => q = a ∧ Stays p q) :=
  safe_step secure fun _ stays _ => ⟨.refl, rfl, stays⟩

theorem safe_aside {m : Handler Pool ε α} (h : Aside m) (secure : Secure held p) :
    SafeFrom p (atomic held m) (securing held fun _ q => Stays p q) :=
  safe_step secure fun _ stays _ =>
    growing_mono h.growing (fun _ => .inl) fun _ _ _ same => stays.trans (.of_footing same)

theorem safe_pure {a : α} (secure : Secure held p) (fact : F a p) :
    SafeFrom p (pure a : PoolS ε α) (securing held F) := ⟨secure, fact⟩

theorem safe_throw {e : ε} (secure : Secure held p) :
    SafeFrom p (Resumption.throw e : PoolS ε α) (securing held F) := secure

theorem safe_mono {x : PoolS ε α} {F' : α → Pool → Prop} (h : SafeFrom p x (securing held F))
    (less : held' ⊆ held) (fact : ∀ a q, Secure held q → F a q → F' a q) :
    SafeFrom p x (securing held' F') :=
  h.mono (fun a q h => ⟨h.1.release less, fact a q h.1 h.2⟩) (fun _ _ h => h.release less)
    fun _ _ h => h

theorem safe_true {x : PoolS ε α} (h : SafeFrom p x (securing held F)) :
    SafeFrom p x (securing held) :=
  safe_mono h (List.Subset.refl _) fun _ _ _ _ => trivial

theorem safe_released {x : PoolS ε α} (h : SafeFrom p x (securing held F)) :
    SafeFrom p x (securing []) :=
  safe_mono h (List.nil_subset _) fun _ _ _ _ => trivial

theorem safe_then {x : PoolS ε α} {k : α → PoolS ε β} (less : held' ⊆ held)
    (h : SafeFrom p x (securing held F))
    (rest : ∀ a q, Secure held q → F a q → SafeFrom q (k a) (securing held' G)) :
    SafeFrom p (x >>= k) (securing held' G) :=
  Resumption.safe_seq h (fun a q h => rest a q h.1 h.2) (fun _ _ h => h.release less) fun _ _ h => h

theorem safe_tried {x : PoolS ε α} (h : SafeFrom p x (securing held F)) :
    SafeFrom p (x.attempt : PoolS ε' (Except ε α)) (securing held) := by
  refine (Resumption.safe_attempt x).mpr ?_
  exact h.mono (fun _ _ h => ⟨h.1, trivial⟩) (fun _ _ h => ⟨h, trivial⟩) fun _ _ h => h

theorem safe_tried_aside {m : Handler Pool ε α} (h : Aside m) (secure : Secure held p) :
    SafeFrom p ((atomic held m).attempt : PoolS ε' (Except ε α))
      (securing held fun _ q => Stays p q) := by
  rw [Resumption.attempt_atomic]
  exact safe_aside (.attempt h) secure

theorem safe_renamed {x : PoolS ε α} {g : ε → ε'} (h : SafeFrom p x (securing held F)) :
    SafeFrom p (x.mapErr g) (securing held F) :=
  (Resumption.safe_mapErr g x).mpr h

theorem safe_each {β : Type} {xs : List β} {k : β → PoolS ε PUnit} {I : Pool → Prop}
    (secure : Secure held p) (init : I p)
    (turn : ∀ x ∈ xs, ∀ q, Secure held q → I q →
      SafeFrom q (k x) (securing held fun _ => I)) :
    SafeFrom p (xs.forM k) (securing held fun _ => I) := by
  have all : SafeFrom p (forM xs k) (securing held fun _ => I) := by
    refine Resumption.safe_forM (I := fun q => Secure held q ∧ I q) ⟨secure, init⟩
      (fun _ h => h) ?_
    exact fun x mem q h => turn x mem q h.1 h.2
  exact all

end Rules

section Keepalive

theorem safe_functionStats (secure : Secure held p) (known : f ∈ held ∨ Covers p f) :
    SafeFrom p (functionStats held f : PoolS ε Unit) (securing held fun _ q => Stays p q) := by
  refine safe_step secure fun q stays secured => ?_
  have : Registered q f :=
    known.elim (secured.held f) fun covers => secured.covered f (covers.stays stays)
  refine growing_seq (grows_registeredFunction this) ?_
  rintro _ _ - rfl
  exact growing_pure stays

/-- The second step of either transition to Dying. -/
theorem safe_reclaim (secure : Secure held p) (covers : Covers p f) :
    SafeFrom p (atomic held do
      let workerMem ← functionMemory f
      modify fun p => { p with memory := p.memory.reclaim workerMem }
      setMemoryAccounting w .reclaimed : PoolS ε Unit) (securing held) := by
  refine safe_step secure fun q stays secured => ?_
  refine growing_seq (grows_functionMemory (secured.covered f (covers.stays stays))) ?_
  rintro _ _ - rfl
  exact growing_past (.modify fun _ => rfl) fun _ _ _ => grows_setMemoryAccounting

theorem safe_idleWorkerToDying (secure : Secure held p) :
    SafeFrom p (idleWorkerToDying held w f) (securing held) := by
  unfold idleWorkerToDying
  refine safe_then (F := fun handle q => Covers q handle.functionId) (List.Subset.refl _) ?_ ?_
  · refine safe_step secure fun q _ _ => growing_seq (growing_mapErr grows_transition) ?_
    intro _ q _ _
    refine growing_past (.emitAdmissionEvent _) fun _ _ _ => ?_
    refine growing_past .stopTimer fun _ _ _ => growing_past .clearDeadline fun _ _ _ => ?_
    refine growing_mono (grows_expectHandle (by decide)) (fun _ => .inl) ?_
    rintro handle _ - ⟨rfl, look⟩
    exact .handle look rfl
  · exact fun handle q secured covers => safe_reclaim secured covers

theorem safe_activeWorkerToDying (secure : Secure held p) :
    SafeFrom p (activeWorkerToDying held w f) (securing held) := by
  unfold activeWorkerToDying
  refine safe_then (F := fun _ q => Covers q f) (List.Subset.refl _) ?_ ?_
  · refine safe_step secure fun q _ _ => growing_seq (growing_mapErr grows_transition) ?_
    intro _ q _ member
    have aside : Aside (do
        emitAdmissionEvent (.workerCapAvailable f)
        clearDeadline w : PoolM Unit) :=
      .bind (.emitAdmissionEvent _) fun _ => .clearDeadline
    exact growing_mono aside.growing (fun _ => .inl) fun _ _ _ same =>
      (Covers.member member).stays (.of_footing same)
  · exact fun _ q secured covers => safe_reclaim secured covers

theorem safe_decommissionIdleWorker {functionId : Option FunctionId} (secure : Secure held p) :
    SafeFrom p (decommissionIdleWorker held i w functionId) (securing held) := by
  have retire (q : Pool) (secured : Secure held q) (f : FunctionId) :
      SafeFrom q (do
        idleWorkerToDying held w f
        atomic held (sendLast i w .shutDown)) (securing held) :=
    safe_then (List.Subset.refl _) (safe_idleWorkerToDying secured) fun _ _ secured _ =>
      safe_true (safe_aside .sendLast secured)
  unfold decommissionIdleWorker
  refine safe_then (List.Subset.refl _) (safe_get secure) fun p q secured _ => ?_
  split
  · cases functionId with
    | some functionId => exact retire q secured functionId
    | none =>
      refine safe_then (F := fun _ _ => True) (List.Subset.refl _) ?_ fun functionId q secured _ =>
        retire q secured functionId
      exact safe_true (safe_aside (.bind (.expectHandle (by decide)) fun _ => .pure _) secured)
  · exact safe_true (safe_aside .clearDeadline secured)

/-- A step that reads a function's memory and changes nothing. -/
theorem safe_readMemory {rest : Handler Pool ε PUnit} (secure : Secure held p)
    (covers : Covers p f) (aside : Aside rest) :
    SafeFrom p (atomic held do
      let _ ← functionMemory f
      rest) (securing held fun _ q => Stays p q) := by
  refine safe_step secure fun q stays secured => ?_
  refine growing_seq (grows_functionMemory (secured.covered f (covers.stays stays))) ?_
  rintro _ _ - rfl
  exact growing_mono aside.growing (fun _ => .inl) fun _ _ _ same =>
    stays.trans (.of_footing same)

theorem safe_evict {memToReclaim : ByteUnit} (secure : Secure held p) :
    SafeFrom p (evict held i memToReclaim : PoolS ε (List (FunctionId × WorkerId)))
      (securing held) := by
  unfold evict
  refine safe_then (List.Subset.refl _) (safe_get secure) ?_
  rintro a q secured ⟨rfl, -⟩
  -- The candidates stay Idle, since only the pool moves workers.
  have reads (rest : FunctionId × WorkerId → Handler Pool ε PUnit)
      (aside : ∀ candidate, Aside (rest candidate)) :
      SafeFrom q (forM (iterWorkers i .idle q) fun candidate => atomic held do
        let _ ← functionMemory candidate.1
        rest candidate) (securing held fun _ r => Stays q r) := by
    refine safe_each secured ⟨rfl, rfl, rfl⟩ fun candidate mem r secured stays => ?_
    have covers : Covers q candidate.1 := .member (mem_iterWorkers.mp mem)
    exact safe_mono (safe_readMemory secured (covers.stays stays) (aside candidate))
      (List.Subset.refl _) fun _ _ _ => stays.trans
  split
  · exact safe_pure secured trivial
  · refine safe_then (List.Subset.refl _) (reads _ fun _ => .pure _) fun _ r secured _ => ?_
    split
    · exact safe_pure secured trivial
    · exact safe_pure secured trivial
  · refine safe_then (List.Subset.refl _) (reads _ fun candidate => ?_) fun _ r secured _ =>
      safe_pure secured trivial
    exact .ite (.bind .deadlineOf fun _ => .pure _) (.pure _)

theorem safe_evictIfNeeded (secure : Secure held p) :
    SafeFrom p (evictIfNeeded held i : PoolS ε Unit) (securing held) := by
  unfold evictIfNeeded triggerEvictionPolicy
  refine safe_then (List.Subset.refl _) (safe_get secure) fun p q secured _ => ?_
  split
  · refine safe_then (List.Subset.refl _) (safe_get secured) fun p q secured _ => ?_
    refine safe_then (List.Subset.refl _) (safe_evict secured) fun victims q secured _ => ?_
    refine safe_each secured trivial fun victim _ q secured _ => ?_
    exact safe_then (List.Subset.refl _) (safe_tried (safe_decommissionIdleWorker secured))
      fun _ _ secured _ => safe_pure secured trivial
  · exact safe_pure secured trivial

theorem safe_deactivateWorker {newDeadline : Option Instant} (secure : Secure held p) :
    SafeFrom p (deactivateWorker held i w f newDeadline) (securing held) := by
  cases newDeadline with
  | none =>
    exact safe_then (List.Subset.refl _) (safe_activeWorkerToDying secure) fun _ _ secured _ =>
      safe_true (safe_aside .sendLast secured)
  | some newDeadline =>
    refine safe_step secure fun q _ _ => growing_seq (growing_mapErr grows_transition) ?_
    exact fun _ _ _ _ => growing_past .setDeadline fun _ _ _ => growing_past .spawnTimer
      fun _ _ _ => growing_last (.emitAdmissionEvent _)

theorem safe_deactivateWorkerPerKeepalive (secure : Secure held p) :
    SafeFrom p (deactivateWorkerPerKeepalive held i w f) (securing held) := by
  unfold deactivateWorkerPerKeepalive
  split
  · exact safe_then (List.Subset.refl _) (safe_aside .addInstant secure) fun _ _ secured _ =>
      safe_deactivateWorker secured
  · exact safe_deactivateWorker secure

end Keepalive

section Dispatch

theorem safe_spawnNewWorker {sandbox : Option Sandbox} (secure : Secure [f] p) :
    SafeFrom p (spawnNewWorker i f sandbox) (securing [f]) := by
  unfold spawnNewWorker
  have less := List.Subset.refl [f]
  refine safe_then (F := fun _ _ => True) less ?_ fun worker q secured _ => ?_
  · exact safe_step secure fun q _ secured =>
      growing_true (grows_spawnUntrackedWorker secured.registered (.inl (by simp)))
  refine safe_then (F := fun _ _ => True) less ?_ fun _ q secured _ => ?_
  · refine safe_step secured fun q _ secured => ?_
    exact growing_seq (grows_functionMemory secured.registered) fun _ _ _ _ =>
      growing_last (.modify fun _ => rfl)
  exact safe_then less (safe_functionStats secured (.inl (by simp))) fun _ _ secured _ =>
    safe_pure secured trivial

theorem safe_cleanupFailedDispatch {oldDeadline : Option Instant} (secure : Secure [] p) :
    SafeFrom p (cleanupFailedDispatch i w oldDeadline) (securing []) := by
  unfold cleanupFailedDispatch
  have less := List.Subset.refl ([] : List FunctionId)
  refine safe_then (F := fun handle q => Covers q handle.functionId) less ?_ ?_
  · refine safe_step secure fun q _ _ => ?_
    refine growing_mono (grows_expectHandle (by decide)) (fun _ => .inl) ?_
    rintro handle _ - ⟨rfl, look⟩
    exact .handle look rfl
  intro handle q secured covers
  refine safe_then (F := fun _ _ => True) less ?_ fun newDeadline q secured _ => ?_
  · refine safe_step secured fun q stays secured => ?_
    have known := secured.covered _ (covers.stays stays)
    refine growing_seq (grows_functionMemory known) fun _ q _ _ => ?_
    refine growing_last <|
      .bind (.modify fun _ => rfl) fun _ => .bind (.mapErr _ .cpuRelease) fun _ => ?_
    cases oldDeadline with
    | none => exact .addInstant
    | some _ => exact .pure _
  · refine safe_step secured fun q _ _ => growing_seq (growing_mapErr grows_transition) ?_
    exact fun _ _ _ _ => growing_past .setDeadline fun _ _ _ => growing_past .spawnTimer
      fun _ _ _ => growing_last (.throw _)

theorem safe_assignWorker (secure : Secure [f] p) :
    SafeFrom p (assignWorker i w f) (securing []) := by
  unfold assignWorker
  refine safe_then (F := fun _ q => Covers q f) (List.nil_subset [f]) ?_ ?_
  · refine safe_step secure fun q _ secured => 
      growing_seq Aside.stopTimer.growing fun _ q' grows _ => ?_
    refine growing_seq (growing_mapErr (grows_insertWorker (grows.registered.mpr secured.registered)
      (.inl (by simp)))) fun _ r _ member => ?_
    have rest : Aside (do
        let cpuset ← cpuAlloc i w
        let _ ← expectHandle assignPanic w
        let oldDeadline := (← get).workerDeadlines.lookup w
        clearDeadline w
        pure (cpuset, oldDeadline) : PoolM (Cpu × Option Instant)) :=
      .bind .cpuAlloc fun _ => .bind (.expectHandle (by decide)) fun _ => .bind .get fun _ =>
        .bind .clearDeadline fun _ => .pure _
    exact growing_mono rest.growing (fun _ => .inl) fun _ _ _ same =>
      (Covers.member member).stays (.of_footing same)
  rintro ⟨cpuset, oldDeadline⟩ q secured covers
  have less := List.Subset.refl ([] : List FunctionId)
  refine safe_then less (safe_functionStats (secured.release (List.nil_subset _)) (.inr covers)) ?_
  intro _ q secured _
  refine safe_then less (safe_tried (safe_aside .replyDispatch secured)) fun outcome q secured _ => ?_
  cases outcome with
  | ok => exact safe_pure secured trivial
  | error => exact safe_cleanupFailedDispatch secured

theorem safe_dispatchToNewWorker {mode : DispatchMode}
    (secure : Secure (if mode = .reuseIdleOnly then [] else [f]) p) :
    SafeFrom p (dispatchToNewWorker i f mode) (securing []) := by
  unfold dispatchToNewWorker
  split at secure
  next reuse =>
    rw [if_pos reuse]
    exact safe_true (safe_aside .deny secure)
  next other =>
    rw [if_neg other]
    refine safe_then (F := fun _ _ => True) (List.nil_subset [f]) ?_ ?_
    · refine safe_step secure fun q _ secured => ?_
      refine growing_seq (grows_registeredFunction secured.registered) fun _ _ _ _ => ?_
      exact growing_last (.bind .get fun _ => .pure _)
    rintro ⟨function, a⟩ q secured -
    have released := secured.release (List.nil_subset _)
    dsimp only
    split
    · exact safe_true (safe_aside .deny released)
    · split
      · refine safe_then (List.nil_subset _) (safe_step secured fun _ _ _ =>
          grows_pickOrphanSnapshot) fun sandbox q secured _ => ?_
        refine safe_then (List.nil_subset _) (safe_spawnNewWorker secured)
          fun worker q secured _ => ?_
        exact safe_then (List.nil_subset _) (safe_evictIfNeeded secured) fun _ q secured _ =>
          safe_assignWorker secured
      · exact safe_then (List.Subset.refl _) (safe_evictIfNeeded released) fun _ q secured _ =>
          safe_true (safe_aside .deny secured)

theorem grows_pickIdleWorker :
    wp (pickIdleWorker i f : Handler Pool ε (Option WorkerId))
      (growing held p fun worker q => ∀ w, worker = some w → Covers q f) p := by
  unfold pickIdleWorker
  refine growing_seq (F := fun a q => q = a) ⟨.refl, rfl⟩ ?_
  rintro a q - rfl
  have read : Aside ((iterWorkers i .idle q).filter (·.1 = f) |>.forM fun e => do
      let _ ← deadlineOf e.2 : Handler Pool ε PUnit) :=
    .forM fun _ => .bind .deadlineOf fun _ => .pure _
  refine growing_seq read.growing fun _ r _ same => ?_
  refine growing_seq (F := fun _ r' => r' = r) ⟨.refl, rfl⟩ ?_
  rintro _ _ - rfl
  refine growing_pure fun w picked => ?_
  obtain ⟨⟨f', w'⟩, last, rfl⟩ := Option.map_eq_some_iff.mp picked
  obtain ⟨idle, own⟩ := List.mem_filter.mp (mem_of_lastMax last)
  obtain rfl : f' = f := of_decide_eq_true own
  exact (Covers.member (mem_iterWorkers.mp idle)).stays (.of_footing same)

theorem safe_handleDispatch {mode : DispatchMode} (secure : Secure [] p) :
    SafeFrom p (handleDispatch i f mode) (securing []) := by
  unfold handleDispatch
  have less := List.nil_subset [f]
  refine safe_then (List.Subset.refl _) (safe_get secure) ?_
  rintro a q secured ⟨rfl, -⟩
  split
  next found =>
    have known : Registered q f := Option.isSome_iff_ne_none.mp found
    have holds := secured.hold known
    refine safe_then less (safe_functionStats holds (.inl (by simp))) fun _ q secured _ => ?_
    have holds : Secure (if mode = .reuseIdleOnly then [] else [f]) q := by
      split
      · exact secured.release less
      · exact secured
    refine safe_then (List.nil_subset _) (safe_step holds fun _ _ _ => grows_pickIdleWorker) ?_
    intro picked q secured covers
    cases picked with
    | none => exact safe_dispatchToNewWorker secured
    | some worker =>
      refine safe_then (F := fun _ _ => True) less ?_ fun _ q secured _ => safe_assignWorker secured
      refine safe_step (secured.holdCovered (covers worker rfl)) fun q _ secured => ?_
      refine growing_seq (grows_removeWorker secured.registered) fun _ _ _ _ => ?_
      exact growing_last (.require (by decide))
  next => exact safe_true (safe_aside .deny secured)

end Dispatch

section Reap

theorem safe_reapHandle {handle : WorkerHandle} (secure : Secure [f] p) :
    SafeFrom p (reapHandle i w f handle) (securing []) := by
  unfold reapHandle
  refine safe_then (F := fun _ _ => True) (List.nil_subset [f]) ?_ ?_
  · refine safe_step secure fun q _ secured => ?_
    refine growing_seq Aside.clearDeadline.growing fun _ q grows _ => ?_
    have known := grows.registered.mpr secured.registered
    refine growing_seq Aside.untrackSandbox.growing fun _ q grows _ => ?_
    have known := grows.registered.mpr known
    refine growing_seq (Aside.attempt .cpuRelease).growing fun _ q grows _ => ?_
    have known := grows.registered.mpr known
    refine growing_seq Aside.finalizeControlOps.growing fun op q grows _ => ?_
    have known := grows.registered.mpr known
    exact growing_seq (grows_functionMemory known) fun _ _ _ _ => growing_last (.pure _)
  rintro ⟨op, workerMem⟩ q secured -
  have less : (if leavesSandbox i w then [f] else []) ⊆ [f] := by
    split <;> simp
  refine safe_released (F := fun _ _ => True) (safe_step (secured.release less) fun q _ _ => ?_)
  refine growing_past (.record _) fun _ q _ => ?_
  cases joined : i.exit w with
  | some exit =>
    refine grows_settleExit fun sandbox reusable => ?_
    obtain ⟨result, _⟩ := exit
    obtain rfl := reusable
    simp [leavesSandbox, joined]
  | none =>
    exact growing_last (.bind (.forWaiters fun _ => .replyDestroyInternalFailure) fun _ => .throw _)

theorem safe_reapWorker (secure : Secure [f] p) :
    SafeFrom p (reapWorker i w f) (securing []) := by
  unfold reapWorker
  have less := List.nil_subset [f]
  refine safe_then (F := fun _ _ => True) less ?_ fun dying q secured _ => ?_
  · refine safe_step secure fun q _ secured => ?_
    refine growing_seq (grows_removeWorker secured.registered) fun found _ _ _ => ?_
    cases found with
    | true => exact growing_map (grows_takeHandle (by decide))
    | false => exact growing_pure trivial
  cases dying with
  | some handle => exact safe_reapHandle secured
  | none =>
    refine safe_then (F := fun _ _ => True) less ?_ fun active q secured _ => ?_
    · refine safe_step secured fun q _ secured => ?_
      refine growing_seq (grows_removeWorker secured.registered) fun found _ _ _ => ?_
      cases found with
      | true =>
        exact growing_past (.emitAdmissionEvent _) fun _ _ _ =>
          growing_map (grows_takeHandle (by decide))
      | false => exact growing_pure trivial
    cases active with
    | some handle => exact safe_reapHandle secured
    | none =>
      refine safe_then less (safe_get secured) fun a q secured _ => ?_
      have released := secured.release less
      split
      · exact safe_pure released trivial
      · split
        · refine safe_then less (safe_step secured fun _ _ _ => grows_takeHandle (by decide)) ?_
          exact fun _ _ secured _ => safe_reapHandle secured
        · exact safe_pure released trivial

end Reap

section Control

theorem safe_answerFailure {E : Type} {reply : E → Reply} {request : RequestS E Unit}
    (h : SafeFrom p request (securing [])) :
    SafeFrom p (answerFailure reply request : PoolS ε Unit) (securing []) := by
  unfold answerFailure
  refine safe_then (List.Subset.refl _) (safe_tried h) fun outcome q secured _ => ?_
  split
  · exact safe_pure secured trivial
  · exact safe_true (safe_aside .send secured)
  · exact safe_pure secured trivial

theorem safe_abandonPrep {err : Worker.Error} (secure : Secure [] p) (covers : Covers p f) :
    SafeFrom p (abandonPrep i w f err) (securing []) := by
  unfold abandonPrep
  have less := List.Subset.refl ([] : List FunctionId)
  have aside : Aside (do
      let _ ← attempt (cpuRelease w)
      takePrepOp w : RequestM PrepareSandboxError (Option PendingSandboxPrep)) :=
    .bind (.attempt .cpuRelease) fun _ => .takePrepOp
  refine safe_then less (safe_aside aside secure) fun op q secured stays => ?_
  split
  · refine safe_then less (safe_tried
      (safe_reapWorker (secured.holdCovered (covers.stays stays)))) ?_
    exact fun _ _ secured _ => safe_throw secured
  · exact safe_throw secured

theorem safe_startPrep {options : PrepareSandboxOptions} {respondTo : Option ReplyId}
    (secure : Secure [f] p) : SafeFrom p (startPrep i w f options respondTo) (securing []) := by
  unfold startPrep
  refine safe_then (F := fun _ q => Covers q f) (List.nil_subset [f]) ?_ ?_
  · refine safe_step secure fun q _ secured => ?_
    refine growing_seq (growing_mapErr (grows_insertWorker secured.registered (.inl (by simp)))) ?_
    intro _ q _ member
    have rest : Aside (do
        let cpuset ← cpuAlloc i w
        insertOp w .prepareSandbox
        insertPrepOp w { initialKeepaliveHint := options.initialKeepaliveHint, respondTo }
        let _ ← expectHandle prepPanic w
        pure cpuset : RequestM PrepareSandboxError Cpu) :=
      .bind .cpuAlloc fun _ => .bind .insertOp fun _ => .bind .insertPrepOp fun _ =>
        .bind (.expectHandle (by decide)) fun _ => .pure _
    exact growing_mono rest.growing (fun _ => .inl) fun _ _ _ same =>
      (Covers.member member).stays (.of_footing same)
  intro cpuset q secured covers
  have released := secured.release (List.nil_subset _)
  refine safe_then (List.Subset.refl _) (safe_tried_aside .sendControl released) ?_
  intro outcome q secured stays
  cases outcome with
  | ok => exact safe_pure secured trivial
  | error err => exact safe_abandonPrep secured (covers.stays stays)

theorem grows_startingSandbox {mode : SandboxProvisioningMode} {respondTo : Option ReplyId} :
    wp (startingSandbox f mode respondTo) (growing held p) p := by
  cases mode with
  | preferSnapshot => exact grows_pickOrphanSnapshot
  | requireSnapshot =>
    refine growing_seq grows_pickOrphanSnapshot fun picked q _ _ => ?_
    cases picked with
    | none => exact growing_last (.throw _)
    | some sandbox => exact growing_pure trivial
  | forceFresh => exact growing_pure trivial

theorem safe_requestSandboxPrep {options : PrepareSandboxOptions} {respondTo : Option ReplyId}
    (secure : Secure [] p) :
    SafeFrom p (requestSandboxPrep i f options respondTo) (securing []) := by
  unfold requestSandboxPrep
  have less := List.nil_subset [f]
  refine safe_then (List.Subset.refl _) (safe_get secure) ?_
  rintro a q secured ⟨rfl, -⟩
  split
  next found =>
    have known : Registered q f := Option.isSome_iff_ne_none.mp found
    refine safe_then (F := fun _ _ => True) less ?_ ?_
    · refine safe_step (secured.hold known) fun q _ secured => ?_
      refine growing_seq (grows_functionMemory secured.registered) fun _ _ _ _ => ?_
      exact growing_seq grows_startingSandbox fun _ _ _ _ =>
        growing_last (.bind .get fun _ => .pure _)
    rintro ⟨sandbox, fits⟩ q secured -
    dsimp only
    split
    · refine safe_then less (safe_renamed (safe_spawnNewWorker secured)) fun worker q secured _ => ?_
      exact safe_then less (safe_evictIfNeeded secured) fun _ q secured _ => safe_startPrep secured
    · exact safe_then (List.Subset.refl _) (safe_evictIfNeeded (secured.release less))
        fun _ q secured _ => safe_throw secured
  next => exact safe_throw secured

theorem safe_destroyIdleWorker {removeSnapshot : Bool} (secure : Secure [] p) :
    SafeFrom p (destroyIdleWorker i w f removeSnapshot) (securing []) := by
  unfold destroyIdleWorker
  split
  · exact safe_then (List.Subset.refl _) (safe_idleWorkerToDying secure) fun _ _ secured _ =>
      safe_true (safe_aside .sendLast secured)
  · exact safe_decommissionIdleWorker secure

theorem safe_destroyActiveWorker {removeSnapshot : Bool} (secure : Secure [] p) :
    SafeFrom p (destroyActiveWorker i w f removeSnapshot) (securing []) := by
  unfold destroyActiveWorker
  split
  · exact safe_then (List.Subset.refl _) (safe_activeWorkerToDying secure) fun _ _ secured _ =>
      safe_true (safe_aside .sendLast secured)
  · exact safe_deactivateWorker secure

theorem safe_startDestr {options : DestroySandboxOptions} {respondTo : Option ReplyId}
    (secure : Secure [] p) : SafeFrom p (startDestr i w options respondTo) (securing []) := by
  unfold startDestr
  refine safe_then (List.Subset.refl _) (safe_get secure) fun a q secured _ => ?_
  split
  · exact safe_renamed (safe_destroyIdleWorker secured)
  · split
    · exact safe_renamed (safe_destroyActiveWorker secured)
    · exact safe_throw secured
  · exact safe_pure secured trivial
  · exact safe_throw secured

/-- A worker spawned for an orphan keeps the orphan's function in use. -/
def Target.Owned (q : Pool) : Target → Prop
  | .spawned _ functionId => Covers q functionId
  | .joined | .owner _ => True

theorem covers_of_findSnapshot {sandboxId : SandboxId} {idx : Nat} {sandbox : Sandbox}
    (found : findSnapshot i p sandboxId = some (f, idx, sandbox)) : Covers p f := by
  obtain ⟨⟨f', sandboxes⟩, mem, picked⟩ := List.exists_of_findSome?_eq_some found
  obtain ⟨⟨sandbox', idx'⟩, first, same⟩ := Option.map_eq_some_iff.mp picked
  cases same
  have at_ := List.mem_zipIdx_iff_getElem?.mp (List.mem_of_find?_eq_some first)
  refine .snapshot (Table.mem_ordered.mp mem) ?_
  rintro rfl
  simp at at_

theorem grows_findTarget {sandboxId : SandboxId} {options : DestroySandboxOptions}
    {respondTo : Option ReplyId} (secure : Secure held p) :
    wp (findTarget i sandboxId options respondTo)
      (growing held p fun target q => target.Owned q) p := by
  unfold findTarget
  refine growing_seq (F := fun a q => q = a) ⟨.refl, rfl⟩ ?_
  rintro a q grows rfl
  split
  · split
    · exact growing_pure trivial
    · exact growing_past (.expect (by decide)) fun _ _ _ => growing_past .insertDestrOp
        fun _ _ _ => growing_pure trivial
    · exact growing_throw
  · split
    · split
      · exact growing_throw
      next functionId idx sandbox found =>
        have covers := covers_of_findSnapshot found
        have known := (secure.grows grows).covered functionId covers
        simp only [Handler.wp_bind, Handler.wp_expect, Handler.wp_modify]
        refine ⟨fun sandboxes look => ?_, fun _ => ⟨.refl, by decide⟩⟩
        have picked : Grows held q
          { q with snapshots := q.snapshots.insert functionId (sandboxes.eraseIdx idx) } := .pick look
        refine Handler.wp_mono (growing_from picked covers (growing_mapErr
          (grows_spawnUntrackedWorker (picked.registered.mpr known) (.inl (by simp)))))
          ?_ (fun _ _ h => h) fun _ _ h => h
        exact fun worker r h => h
    · exact growing_throw

theorem safe_destrTarget {sandboxId : SandboxId} {options : DestroySandboxOptions}
    {respondTo : Option ReplyId} (secure : Secure [] p) :
    SafeFrom p (destrTarget i sandboxId options respondTo) (securing []) := by
  unfold destrTarget
  have less := List.Subset.refl ([] : List FunctionId)
  refine safe_then less (safe_step secure fun _ _ secured => grows_findTarget secured) ?_
  intro target q secured owned
  cases target with
  | joined => exact safe_pure secured trivial
  | owner worker => exact safe_pure secured trivial
  | spawned worker functionId =>
    refine safe_then (F := fun _ _ => True) (List.nil_subset [functionId]) ?_
      fun _ _ secured _ => safe_pure (secured.release (List.nil_subset _)) trivial
    refine safe_step (secured.holdCovered owned) fun q _ secured => ?_
    refine growing_seq (growing_mapErr (grows_insertWorker secured.registered (.inl (by simp)))) ?_
    exact fun _ _ _ _ => growing_past (.expectHandle (by decide)) fun _ _ _ =>
      growing_last (.mapErr _ .sendControl)

theorem safe_requestSandboxDestr {sandboxId : SandboxId} {options : DestroySandboxOptions}
    {respondTo : Option ReplyId} (secure : Secure [] p) :
    SafeFrom p (requestSandboxDestr i sandboxId options respondTo) (securing []) := by
  unfold requestSandboxDestr
  have less := List.Subset.refl ([] : List FunctionId)
  refine safe_then less (safe_destrTarget secure) fun target q secured _ => ?_
  cases target with
  | none => exact safe_pure secured trivial
  | some worker =>
    exact safe_then less (safe_startDestr secured) fun _ _ secured _ =>
      safe_true (safe_aside .trackDestr secured)

theorem safe_activateForSnapshot {sandboxId : SandboxId} {respondTo : Option ReplyId}
    {handle : WorkerHandle} (secure : Secure [] p) (look : p.workerHandles.lookup w = some handle) :
    SafeFrom p (activateForSnapshot w handle.functionId sandboxId respondTo) (securing []) := by
  unfold activateForSnapshot
  have less := List.Subset.refl ([] : List FunctionId)
  refine safe_then (F := fun _ q => q.workerHandles.lookup w = some handle) less ?_ ?_
  · refine safe_step secure fun q stays secured => ?_
    rw [← stays.workerHandles] at look
    refine growing_mono (grows_removeWorker (secured.covered _ (.handle look rfl)))
      (fun _ => .inl) fun _ _ _ same => ?_
    rwa [same]
  intro found q secured look
  split
  · refine safe_true (F := fun _ _ => True) (safe_step secured fun q stays secured => ?_)
    have covers : Covers q handle.functionId := (Covers.handle look rfl).stays stays
    exact growing_true (growing_mapErr (grows_insertWorker (secured.covered _ covers) (.inr covers)))
  · refine safe_then less (safe_get secured) fun a q secured _ => ?_
    split
    · exact safe_pure secured trivial
    · exact safe_throw secured
    · exact safe_throw secured

theorem safe_startSnapshot {sandboxId : SandboxId} {respondTo : Option ReplyId}
    {handle : WorkerHandle} (secure : Secure [] p) (look : p.workerHandles.lookup w = some handle) :
    SafeFrom p (startSnapshot i w handle.functionId sandboxId respondTo) (securing []) := by
  unfold startSnapshot
  have less := List.Subset.refl ([] : List FunctionId)
  refine safe_then less (safe_aside .stopTimer secure) fun _ q secured stays => ?_
  rw [← stays.workerHandles] at look
  refine safe_then less (safe_activateForSnapshot secured look) fun _ q secured _ => ?_
  exact safe_true (safe_aside (.bind .get fun _ => .bind .clearDeadline fun _ =>
    .bind (.expectHandle (by decide)) fun _ => .bind (.mapErr _ .sendControl) fun _ =>
      .bind .insertOp fun _ => .insertSnapshotOp) secured)

theorem safe_requestSnapshotting {sandboxId : SandboxId} {respondTo : Option ReplyId}
    (secure : Secure [] p) :
    SafeFrom p (requestSnapshotting i sandboxId respondTo) (securing []) := by
  unfold requestSnapshotting
  have less := List.Subset.refl ([] : List FunctionId)
  refine safe_then less (safe_get secure) fun a q secured _ => ?_
  split
  · exact safe_throw secured
  · split
    · exact safe_throw secured
    next worker _ =>
      refine safe_then (F := fun handle q => q.workerHandles.lookup worker = some handle) less
        (safe_step secured fun _ _ _ => ?_) fun handle q secured look => ?_
      · refine growing_mono (grows_expectHandle (by decide)) (fun _ => .inl) ?_
        rintro handle _ - ⟨rfl, look⟩
        exact look
      split
      · exact safe_startSnapshot secured look
      · exact safe_true (safe_aside .joinSnapshot secured)
      · exact safe_throw secured
      · exact safe_throw secured

theorem safe_handleControl {msg : PoolControlMessage} (secure : Secure [] p) :
    SafeFrom p (handleControl i msg : PoolS ε Unit) (securing []) := by
  have less := List.Subset.refl ([] : List FunctionId)
  cases msg with
  | prepareSandbox functionId options respondTo =>
    exact safe_then less (safe_aside (.record _) secure) fun _ _ secured _ =>
      safe_answerFailure (safe_requestSandboxPrep secured)
  | destroySandbox target options respondTo =>
    exact safe_then less (safe_aside (.record _) secure) fun _ _ secured _ =>
      safe_answerFailure (safe_requestSandboxDestr secured)
  | listSandboxes respondTo => exact show "not yet implemented" ≠ functionPanic by decide
  | createSnapshot sandboxId respondTo =>
    exact safe_then less (safe_aside (.record _) secure) fun _ _ secured _ =>
      safe_answerFailure (safe_requestSnapshotting secured)

end Control

section WorkerStatus

theorem safe_parkPrepared (secure : Secure [] p) :
    SafeFrom p (parkPrepared i w f) (securing []) := by
  unfold parkPrepared
  have less := List.Subset.refl ([] : List FunctionId)
  refine safe_then less (safe_get secure) fun a q secured _ => ?_
  split
  · exact safe_then less (safe_aside .addInstant secured) fun _ _ secured _ =>
      safe_deactivateWorker secured
  · exact safe_deactivateWorkerPerKeepalive secured

theorem safe_finalizeSandboxPreparation {resp : PrepareSandboxResult} (secure : Secure [] p) :
    SafeFrom p (finalizeSandboxPreparation i resp) (securing []) := by
  unfold finalizeSandboxPreparation
  have less := List.Subset.refl ([] : List FunctionId)
  refine safe_then less (safe_tried (safe_aside .releaseForPrep secure)) fun released q secured _ => ?_
  have answers (op : Option PendingSandboxPrep → Handler Pool Error Unit)
      (aside : ∀ o, Aside (op o)) (q : Pool) (secured : Secure [] q) :
      SafeFrom q (atomic [] (takePrepOp resp.workerId >>= op)) (securing []) :=
    safe_true (safe_aside (.bind .takePrepOp aside) secured)
  dsimp only
  split
  · refine safe_then less (safe_tried (safe_parkPrepared secured)) fun _ q secured _ => ?_
    exact answers _ (fun _ => .bind .answerPrep fun _ => .bind .removeOp fun _ => .fromExcept _) q
      secured
  · exact answers _ (fun _ => .bind .answerPrep fun _ => .bind .removeOp fun _ => .fromExcept _) q
      secured

theorem safe_parkSnapshotted {timerInfo : Option PausedTimerInfo} (secure : Secure [] p) :
    SafeFrom p (parkSnapshotted i w f timerInfo) (securing []) := by
  cases timerInfo with
  | none => exact safe_deactivateWorkerPerKeepalive secure
  | some paused =>
    exact safe_then (List.Subset.refl _) (safe_aside .addInstant secure) fun _ _ secured _ =>
      safe_deactivateWorker secured

theorem safe_finalizeSnapshotting {resp : CreateSnapshotResult} (secure : Secure [] p) :
    SafeFrom p (finalizeSnapshotting i resp) (securing []) := by
  have less := List.Subset.refl ([] : List FunctionId)
  refine safe_then less (safe_aside .takeSnapshotOp secure) fun op q secured _ => ?_
  refine safe_then less (safe_tried (safe_parkSnapshotted secured)) fun ret q secured _ => ?_
  exact safe_true (safe_aside (.bind .answerSnapshot fun _ => .bind .removeOp fun _ =>
    .fromExcept _) secured)

theorem safe_onNeedWork (secure : Secure [] p) : SafeFrom p (onNeedWork i w f) (securing []) := by
  unfold onNeedWork
  refine safe_then (List.Subset.refl _) (safe_aside (.bind (.mapErr _ .cpuRelease) fun _ => .get)
    secure) fun a q secured _ => ?_
  split
  · exact safe_pure secured trivial
  · exact safe_deactivateWorkerPerKeepalive secured

theorem safe_handleWorkerStatus {msg : OutboundMessage}
    (secure : Secure (announced (.workerMessage msg)) p) :
    SafeFrom p (handleWorkerStatus i msg) (securing []) := by
  cases msg with
  | sandboxId worker sandboxId => exact safe_step secure fun _ _ _ => grows_updateSandboxId
  | needWork worker functionId => exact safe_onNeedWork secure
  | reapMe worker functionId => exact safe_reapWorker secure
  | sandboxPreparation resp => exact safe_finalizeSandboxPreparation secure
  | snapshotCreation resp => exact safe_finalizeSnapshotting secure

end WorkerStatus

section Shutdown

theorem safe_beginShutdown (secure : Secure [] p) :
    SafeFrom p (beginShutdown i : PoolS ε Unit) (securing []) := by
  have less := List.Subset.refl ([] : List FunctionId)
  have idle (q : Pool) (secured : Secure [] q) :
      SafeFrom q (retireAllIdle i : PoolS ε Unit) (securing []) := by
    refine safe_then less (safe_get secured) fun a q secured _ => ?_
    refine safe_each secured trivial fun entry _ q secured _ => ?_
    exact safe_then less (safe_tried (safe_decommissionIdleWorker secured)) fun _ _ secured _ =>
      safe_pure secured trivial
  have active (q : Pool) (secured : Secure [] q) :
      SafeFrom q (retireAllActive i : PoolS ε Unit) (securing []) := by
    refine safe_then less (safe_get secured) fun a q secured _ => ?_
    refine safe_each secured trivial fun entry _ q secured _ => ?_
    refine safe_then (F := fun _ _ => True) less (safe_tried (F := fun _ _ => True) ?_)
      fun _ _ secured _ => safe_pure secured trivial
    exact safe_then less (safe_activeWorkerToDying secured) fun _ _ secured _ =>
      safe_true (safe_aside .sendLast secured)
  refine safe_then less (idle p secure) fun _ q secured _ => ?_
  refine safe_then less (active q secured) fun _ q secured _ => ?_
  exact safe_true (safe_aside (.modify fun _ => rfl) secured)

theorem safe_drainWorkerMessage {msg : OutboundMessage}
    (secure : Secure (announced (.workerMessage msg)) p) :
    SafeFrom p (drainWorkerMessage i msg : PoolS ε Unit) (securing []) := by
  cases msg with
  | sandboxId worker sandboxId => exact safe_step secure fun _ _ _ => grows_updateSandboxId
  | needWork worker functionId =>
    exact safe_true (safe_aside (.bind (.attempt .cpuRelease) fun _ => .pure _) secure)
  | reapMe worker functionId =>
    exact safe_then (List.Subset.refl _) (safe_tried (safe_reapWorker secure)) fun _ _ secured _ =>
      safe_pure secured trivial
  | sandboxPreparation resp =>
    exact safe_true (safe_aside .finalizeSandboxPreparationDuringShutdown secure)
  | snapshotCreation resp =>
    exact safe_true (safe_aside .finalizeSnapshottingDuringShutdown secure)

theorem safe_destroyOrphans {orphans : List (FunctionId × Sandbox)}
    (secure : Secure (orphans.map Prod.fst) p) :
    SafeFrom p (destroyOrphans i orphans : PoolS ε Unit) (securing []) := by
  induction orphans generalizing p with
  | nil => exact safe_pure secure trivial
  | cons orphan rest ih =>
    refine safe_then (F := fun _ _ => True) (List.nil_subset _) (safe_step secure fun q _ secured => ?_)
      fun _ q secured _ => ih (secured.release (List.subset_cons_self _ _))
    refine growing_seq (grows_registeredFunction (secured.held _ (by simp))) fun _ _ _ _ => ?_
    refine growing_last ?_
    split
    · exact .record _
    · exact .trashSandbox
    · exact .record _

theorem covers_of_mem_orphans {orphan : FunctionId × Sandbox} (mem : orphan ∈ orphans i p) :
    Covers p orphan.1 := by
  obtain ⟨⟨f, sandboxes⟩, entry, listed⟩ := List.mem_flatMap.mp mem
  obtain ⟨sandbox, left, rfl⟩ := List.mem_map.mp listed
  exact .snapshot (Table.mem_ordered.mp entry) (List.ne_nil_of_mem left)

theorem safe_cleanupOrphans (secure : Secure [] p) :
    SafeFrom p (cleanupOrphans i : PoolS ε Unit) (securing []) := by
  unfold cleanupOrphans
  have less := List.Subset.refl ([] : List FunctionId)
  refine safe_then less (safe_get secure) fun a q secured _ => ?_
  split
  · exact safe_true (safe_aside (.record _) secured)
  · refine safe_then (F := fun taken q => Secure (taken.map Prod.fst) q) less
      (safe_step secured fun q _ secured => ?_) fun taken q _ secured => ?_
    · refine growing_seq (F := fun a q => q = a) ⟨.refl, rfl⟩ ?_
      rintro a q' grows rfl
      have known (orphan : FunctionId × Sandbox) (mem : orphan ∈ orphans i q') :
          Registered q' orphan.1 :=
        (secured.grows grows).covered _ (covers_of_mem_orphans mem)
      have emptied : Grows [] q' { q' with snapshots := ∅ } := by
        refine ⟨rfl, fun f covers => .inl ?_⟩
        cases covers with
        | member member => exact .member member
        | handle look own => exact .handle look own
        | snapshot look left => cases look
      refine ⟨emptied, ((secured.grows grows).grows emptied).covered, fun f mem => ?_⟩
      obtain ⟨orphan, taken, rfl⟩ := List.mem_map.mp mem
      exact known orphan taken
    · exact safe_then less (safe_destroyOrphans secured) fun _ _ secured _ =>
        safe_true (safe_aside (.record _) secured)

end Shutdown

theorem safe_serve {event : Event} (secure : Secure (announced event) p) :
    SafeFrom p (serve i event) (securing []) := by
  cases event with
  | keepaliveTimeout worker =>
    change SafeFrom p (decommissionIdleWorker [] i worker none) (securing [])
    exact safe_decommissionIdleWorker secure
  | workerMessage msg => exact safe_handleWorkerStatus secure
  | dispatch functionId mode => exact safe_handleDispatch secure
  | control msg => exact safe_handleControl secure
  | _ => exact safe_pure secure trivial

theorem safe_handleServing (secure : Secure (announced i.event) p) :
    SafeFrom p (handleServing i : PoolS ε Unit) (securing []) := by
  unfold handleServing
  have released := secure.release (List.nil_subset _)
  split
  · exact safe_beginShutdown released
  · exact safe_beginShutdown released
  · refine safe_then (List.Subset.refl _) (safe_tried (safe_serve secure)) fun outcome q secured _ => ?_
    cases outcome with
    | ok => exact safe_pure secured trivial
    | error => exact safe_beginShutdown secured

theorem safe_handleShuttingDown (secure : Secure (announced i.event) p) :
    SafeFrom p (handleShuttingDown i : PoolS ε Bool) (securing []) := by
  unfold handleShuttingDown
  have released := secure.release (List.nil_subset _)
  have less := List.Subset.refl ([] : List FunctionId)
  split
  · exact safe_then less (safe_aside .rejectDispatch released) fun _ _ secured _ =>
      safe_pure secured trivial
  next msg isMsg =>
    rw [isMsg] at secure
    exact safe_then less (safe_drainWorkerMessage secure) fun _ _ secured _ =>
      safe_pure secured trivial
  · refine safe_then less (safe_get released) fun a q secured _ => ?_
    split
    · exact safe_then less (safe_cleanupOrphans secured) fun _ _ secured _ =>
        safe_pure secured trivial
    · exact safe_pure secured trivial
  all_goals exact safe_pure released trivial

/-- A turn of the pool, whatever the registrar does meanwhile short of taking away what the pool
relies on. -/
theorem safe_turn (secure : Secure (announced i.event) p) :
    SafeFrom p (turn i) (securing []) := by
  unfold turn
  refine safe_then (List.nil_subset _) (safe_get secure) fun a q secured _ => ?_
  split
  · exact safe_then (List.Subset.refl _) (safe_handleServing secured) fun _ _ secured _ =>
      safe_pure secured trivial
  · refine safe_then (List.Subset.refl _) (safe_handleShuttingDown secured) fun _ _ secured _ => ?_
    split
    · exact safe_pure secured trivial
    · exact safe_pure secured trivial

end Stepwise
end Pool
end Snaplace
