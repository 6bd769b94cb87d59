import Snaplace.Admission.Loop
import Snaplace.Foundation.Resumption
import Snaplace.Pool.Workers

/-!
# Admission and the shared store

The controller asks the metadata store whether a request's function exists, and for its overrides
once the global bound is met. Here its turn is cut between the two. It holds the function at the
second, and changes nothing in the store.
-/
namespace Snaplace
open Foundation

namespace Joint.Ingress
open Admission (AdmissionController AdmissionM RunResult FunctionAdmissionOverrides)
open Pool (FunctionMetadataStore RegisteredFunction functionPanic)
open Handler (wp expect Post)
open Resumption (atomic)
variable {ε α : Type}

/-- The store, and the controller that reads it. -/
abbrev Shared := FunctionMetadataStore × AdmissionController

abbrev AdmissionS (ε : Type) : Type → Type := Resumption (List FunctionId) Shared ε

/-- A handler of the controller's own state. -/
def own (m : Handler AdmissionController ε α) : Handler Shared ε α := fun s =>
  match m s.2 with
  | .ok a c => .ok a (s.1, c)
  | .err e c => .err e (s.1, c)
  | .panic msg c => .panic msg (s.1, c)

@[simp] theorem wp_own (m : Handler AdmissionController ε α) (Q : Post Shared ε α) (s : Shared) :
    wp (own m) Q s ↔
      wp m { ok := fun a c => Q.ok a (s.1, c), err := fun e c => Q.err e (s.1, c),
             panic := fun msg c => Q.panic msg (s.1, c) } s.2 := by
  unfold wp own
  cases m s.2 <;> rfl

/-- What admission reads of the store. -/
def overrides (store : FunctionMetadataStore) (functionId : FunctionId) :
    Option (Option FunctionAdmissionOverrides) :=
  (store.functions.lookup functionId).map (·.admission)

def registeredFunction (functionId : FunctionId) : Handler Shared ε RegisteredFunction := do
  expect functionPanic ((← get).1.functions.lookup functionId)

/-- The global bound. `none` when the request has been failed; else whether it caused a sweep. -/
def checkGlobal (i : Admission.Input) (req : Request) : AdmissionM (Option Bool) := do
  if Admission.globalFull (← get) then
    Admission.expireIfDue i
    if Admission.globalFull (← get) then
      Admission.failAdmission i req req.functionId .queueFullGlobal
      pure none
    else pure (some true)
  else pure (some false)

/-- A new request up to its look-up: is the function known, and is there room for the request? -/
def receive (i : Admission.Input) (req : Request) : Handler Shared Unit (Option Bool) := do
  own do
    modify fun c => { c with stats.numReceived := c.stats.numReceived + 1 }
    Admission.record (.receive req)
  match (← get).1.functions.lookup req.functionId with
  | none => own do
    Admission.failAdmission i req req.functionId (.rejected .unknownFunction)
    pure none
  | some _ => own (checkGlobal i req)

def handleNewRequest (i : Admission.Input) (req : Request) : AdmissionS Unit Unit := do
  match ← atomic [] (receive i req) with
  | none => pure ()
  | some checkedExpiries =>
    atomic [req.functionId] do
      let function ← registeredFunction req.functionId
      own (Admission.admitToQueue i req function.admission checkedExpiries)

/-- One turn of the controller's loop. -/
def turn (i : Admission.Input) : AdmissionS Empty (Option RunResult) :=
  match i.event with
  | .newRequest req => do
    atomic [] (own Admission.awaitSlot)
    match ← (handleNewRequest i req).attempt with
    | .ok _ => pure none
    | .error _ => pure (some (.error ()))
  | _ => atomic [] (own (Admission.turn i))

section Run
variable {i : Admission.Input} {store : FunctionMetadataStore} {β : Type}

@[simp] theorem own_pure (a : α) : own (pure a : Handler AdmissionController ε α) = pure a := rfl

@[simp] theorem own_bind (m : Handler AdmissionController ε α)
    (k : α → Handler AdmissionController ε β) :
    own (m >>= k) = own m >>= fun a => own (k a) := by
  funext s
  change own (Handler.bind m k) s = Handler.bind (own m) (fun a => own (k a)) s
  unfold own Handler.bind
  cases ran : m s.2 <;> simp [ran]

@[simp] theorem own_attempt {ε' : Type} (m : Handler AdmissionController ε α) :
    own (Handler.attempt m : Handler _ ε' _) = Handler.attempt (own m) := by
  funext s
  unfold own Handler.attempt
  cases ran : m s.2 <;> simp [ran]

/-- The controller's own handlers leave the store to those that follow. -/
theorem own_bind_congr {m : Handler AdmissionController ε α} {k k' : α → Handler Shared ε β}
    {c : AdmissionController} (same : ∀ a c', k a (store, c') = k' a (store, c')) :
    (own m >>= k) (store, c) = (own m >>= k') (store, c) := by
  refine Handler.bind_congr_of_wp ((wp_own _ _ _).mpr ?_)
  unfold wp
  cases m c with
  | ok a c' => exact same a c'
  | err e c' => trivial
  | panic msg c' => trivial

theorem run_handleNewRequest (req : Request) (c : AdmissionController)
    (same : i.store = overrides store) :
    (handleNewRequest i req).run (store, c) =
      own (Admission.handleNewRequest i req) (store, c) := by
  simp only [handleNewRequest, Admission.handleNewRequest, Admission.admitRequest, receive,
    Resumption.run_bind, Resumption.run_atomic, own_bind, bind_assoc, same, overrides]
  refine own_bind_congr fun _ c => own_bind_congr fun _ c => ?_
  refine (Handler.bind_of_ok (m := (get : Handler Shared Unit Shared)) rfl).trans ?_
  dsimp only
  have lookUp (function : RegisteredFunction) (checked : Bool) (c : AdmissionController)
      (look : store.functions.lookup req.functionId = some function) :
      (registeredFunction req.functionId >>= fun function =>
        own (Admission.admitToQueue i req function.admission checked)) (store, c) =
      own (Admission.admitToQueue i req function.admission checked) (store, c) := by
    refine Handler.bind_of_ok ?_
    change expect functionPanic (store.functions.lookup req.functionId) (store, c) = _
    rw [look]
    rfl
  cases look : store.functions.lookup req.functionId with
  | none =>
    simp only [Option.map_none, own_pure, bind_assoc, pure_bind, Resumption.run_pure,
      bind_pure_unit]
  | some function =>
    simp only [Option.map_some, own_bind, checkGlobal, bind_assoc]
    refine own_bind_congr fun a c => ?_
    by_cases full : Admission.globalFull a
    · simp only [full, if_true, own_bind, bind_assoc]
      refine own_bind_congr fun _ c => own_bind_congr fun a c => ?_
      by_cases full : Admission.globalFull a
      · simp only [full, if_true, own_bind, own_pure, bind_assoc, pure_bind, Resumption.run_pure,
          bind_pure_unit]
      · simp [full, lookUp function true c look]
    · simp [full, lookUp function false c look]

/-- Without interference this is the controller's turn on what the store holds. -/
theorem run_turn (c : AdmissionController) (same : i.store = overrides store) :
    (turn i).run (store, c) = own (Admission.turn i) (store, c) := by
  cases event : i.event with
  | newRequest req =>
    simp only [turn, event, Admission.turn, Admission.select, Admission.stay, Resumption.run_bind,
      Resumption.run_atomic, Resumption.run_attempt, own_bind, own_attempt]
    refine own_bind_congr fun _ c => ?_
    refine Eq.trans ?_ (Handler.bind_of_ok (m := (own get : Handler Shared Empty _)) rfl).symm
    have request := run_handleNewRequest req c same
    change Handler.bind (Handler.attempt _) _ _ = Handler.bind (Handler.attempt _) _ _
    unfold Handler.bind Handler.attempt
    rw [request]
    cases own (Admission.handleNewRequest i req) (store, c) <;> rfl
  | _ => simp [turn, event]

end Run

section Interference
variable {i : Admission.Input} {s t : Shared} {req : Request}
open Admission (Accounted Frame Sound)

/-- Others leave the controller alone, and what it holds registered. -/
def Interferes (held : List FunctionId) (s t : Shared) : Prop :=
  t.2 = s.2 ∧ ∀ f ∈ held, s.1.functions.lookup f ≠ none → t.1.functions.lookup f ≠ none

theorem Interferes.refl {held : List FunctionId} : Interferes held s s := ⟨rfl, fun _ _ known => known⟩

theorem Interferes.trans {held : List FunctionId} {u : Shared} (h : Interferes held s t)
    (h' : Interferes held t u) : Interferes held s u :=
  ⟨h'.1.trans h.1, fun f mem known => h'.2 f mem (h.2 f mem known)⟩

def KeepsStore (s t : Shared) : Prop := t.1 = s.1

/-- A controller that owes an answer to the requests in hand, and waits for a permit only without an
outstanding dispatch. -/
structure Owes (hand : List Request) (c : AdmissionController) : Prop where
  account : Accounted hand c
  waiting : c.waitingForSlot = true → c.outstanding = none

theorem Owes.sound {c : AdmissionController} (h : Owes [] c) : Sound c := ⟨h.account, h.waiting⟩

theorem Owes.frame {hand hand' : List Request} {c d : AdmissionController} (h : Owes hand c)
    (account : Accounted hand' d) (frame : Frame c d) : Owes hand' d :=
  ⟨account, fun w => frame.outstanding.trans (h.waiting (frame.waiting.symm.trans w))⟩

/-- The controller ends as `F` says, and no function is found missing. -/
def keeping (F : α → Shared → Prop) : Post Shared ε α where
  ok := F
  err _ s := Sound s.2
  panic msg _ := msg ≠ functionPanic

theorem other_panic {msg : String} (h : msg = Admission.overflowPanic) : msg ≠ functionPanic := by
  rw [h]
  decide

/-- What the check of the global bound leaves: an answered request, or one still in hand. -/
def checked (req : Request) (c : AdmissionController) : Option Bool → Prop
  | none => Owes [] c
  | some _ => Owes [req] c

theorem checkGlobal_spec {c : AdmissionController} (h : Owes [req] c) :
    wp (checkGlobal i req)
      { ok := fun r d => checked req d r, err := fun _ _ => False,
        panic := fun msg _ => msg ≠ functionPanic } c := by
  simp only [checkGlobal, Handler.wp_bind, Handler.wp_get, Handler.wp_ite, Handler.wp_pure]
  refine ⟨fun _ => ?_, fun _ => h⟩
  refine Handler.wp_mono (Admission.expireIfDue_spec h.account) ?_ nofun fun _ _ => other_panic
  rintro - d ⟨account, frame⟩
  have h := h.frame account frame
  refine ⟨fun _ => ?_, fun _ => h⟩
  refine Handler.wp_mono (Admission.failAdmission_spec h.account) ?_ nofun fun _ _ => other_panic
  rintro - d ⟨account, frame⟩
  exact h.frame account frame

theorem receive_spec (sound : Sound s.2) :
    wp (receive i req)
      { ok := fun r t => t.1 = s.1 ∧ checked req t.2 r ∧
          (r ≠ none → s.1.functions.lookup req.functionId ≠ none),
        err := fun _ _ => False,
        panic := fun msg t => t.1 = s.1 ∧ msg ≠ functionPanic } s := by
  have h : Owes [req] _ := ⟨sound.account.receive, sound.waiting⟩
  simp only [receive, Admission.record, Handler.wp_bind, wp_own, Handler.wp_modify, Handler.wp_get]
  cases look : s.1.functions.lookup req.functionId with
  | none =>
    simp only [wp_own, Handler.wp_bind, Handler.wp_pure]
    refine Handler.wp_mono (Admission.failAdmission_spec h.account) ?_
      (fun _ _ never => never.elim) fun _ _ bad => ⟨trivial, other_panic bad⟩
    rintro - d ⟨account, frame⟩
    exact ⟨trivial, h.frame account frame, fun some => absurd rfl some⟩
  | some function =>
    refine (wp_own _ _ _).mpr (Handler.wp_mono (checkGlobal_spec h) ?_
      (fun _ _ never => never.elim) fun _ _ bad => ⟨rfl, bad⟩)
    exact fun r d checked => ⟨rfl, checked, fun _ => by simp⟩

theorem awaitSlot_spec {c : AdmissionController} (sound : Sound c) :
    wp Admission.awaitSlot (Post.state Sound) c := by
  simp only [Admission.awaitSlot, Handler.wp_bind, Handler.wp_get, Handler.wp_ite,
    Handler.wp_modify, Handler.wp_pure]
  refine ⟨fun should => ⟨sound.account.congr rfl rfl rfl rfl rfl rfl, fun _ => ?_⟩, fun _ => sound⟩
  simp only [Admission.shouldWaitForSlot, Bool.and_eq_true, Option.isNone_iff_eq_none] at should
  exact should.1.1

theorem safe_handleNewRequest (sound : Sound s.2) :
    (handleNewRequest i req).Safe Interferes KeepsStore (keeping fun _ t => Sound t.2) s := by
  unfold handleNewRequest
  refine Resumption.safe_seq (P := keeping fun r t => checked req t.2 r ∧
    (r ≠ none → t.1.functions.lookup req.functionId ≠ none)) ?_ ?_ (fun _ _ h => h) fun _ _ h => h
  · refine Resumption.safe_atomic fun t interferes => ?_
    rw [← interferes.1] at sound
    refine Handler.wp_mono (receive_spec sound) ?_ nofun fun _ _ h => h
    rintro r u ⟨store, checked, known⟩
    exact ⟨store, checked, by rwa [store]⟩
  rintro r t ⟨checked, known⟩
  cases r with
  | none => exact checked.sound
  | some checkedExpiries =>
    refine Resumption.safe_atomic fun u interferes => ?_
    have known := interferes.2 req.functionId (by simp) (known nofun)
    have h : Owes [req] u.2 := interferes.1 ▸ checked
    obtain ⟨function, look⟩ := Option.ne_none_iff_exists'.mp known
    simp only [registeredFunction, Handler.wp_bind, Handler.wp_get, Handler.wp_expect, look, wp_own]
    refine ⟨fun _ _ => ?_, nofun⟩
    refine Handler.wp_mono (Admission.admitToQueue_spec h.account) ?_ nofun fun _ _ bad =>
      ⟨rfl, other_panic bad⟩
    rintro - d ⟨account, frame⟩
    exact ⟨rfl, (h.frame account frame).sound⟩

/-- A turn of the controller, as long as what it holds stays registered. -/
theorem safe_turn (sound : Sound s.2) :
    (turn i).Safe Interferes KeepsStore (keeping fun r t => r = none → Sound t.2) s := by
  have whole : (atomic [] (own (Admission.turn i))).Safe Interferes KeepsStore
      (keeping fun r t => r = none → Sound t.2) s := by
    refine Resumption.safe_atomic fun t interferes => (wp_own _ _ _).mpr ?_
    rw [← interferes.1] at sound
    exact Handler.wp_mono (Admission.turn_spec sound) (fun _ _ h => ⟨rfl, fun stays =>
      (h stays).sound⟩) nofun fun _ _ bad => ⟨rfl, other_panic bad⟩
  unfold turn
  split
  next req _ =>
    refine Resumption.safe_seq (P := keeping fun _ t => Sound t.2) ?_ ?_ nofun fun _ _ h => h
    · refine Resumption.safe_atomic fun t interferes => (wp_own _ _ _).mpr ?_
      rw [← interferes.1] at sound
      exact Handler.wp_mono (awaitSlot_spec sound) (fun _ _ h => ⟨rfl, h⟩) nofun nofun
    · intro _ t sound
      refine (Resumption.safe_bind _ _).mpr ((Resumption.safe_attempt _).mpr ?_)
      exact (safe_handleNewRequest sound).mono (fun _ _ h _ => h) (fun _ _ _ => nofun) fun _ _ h => h
  · exact whole

end Interference

end Joint.Ingress
end Snaplace
