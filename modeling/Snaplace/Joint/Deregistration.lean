import Snaplace.Joint.Ingress
import Snaplace.Pool.Cap
import Snaplace.Pool.Interference
import Snaplace.Pool.Sequential

/-!
# Deregistration while the actors run

The pool and admission take their steps on the shared store in any order, and the registrar registers
and deregisters functions in between. A worker that has been spawned announces its end once, with
its function, at any later time.
-/
namespace Snaplace
open Foundation

namespace Joint.Deregistration
open Admission (AdmissionConfig AdmissionController RunResult)
open Pool (FunctionMetadataStore RegisteredFunction functionPanic Registered Covers Secure)
open Ingress (Shared)

/-- An actor's loop: between two events, in the middle of one, or at its end. -/
inductive Actor (σ ρ : Type) where
  | waiting
  | busy (held : List FunctionId) (state : σ → σ)
      (next : σ → Resumption (List FunctionId) σ Empty (Option ρ))
  | ended (r : ρ)
  | panicked (msg : String)

namespace Actor
variable {σ ρ : Type}

def ofTask : Resumption (List FunctionId) σ Empty (Option ρ) → Actor σ ρ
  | .ret none => waiting
  | .ret (some r) => ended r
  | .err e => e.elim
  | .panic msg => panicked msg
  | .step held state next => busy held state next

/-- The functions held at the next step. -/
def held : Actor σ ρ → List FunctionId
  | busy held _ _ => held
  | waiting | ended _ | panicked _ => []

/-- The actor has failed to find a function. -/
def lookupFailed : Actor σ ρ → Bool
  | panicked msg => msg = functionPanic
  | waiting | ended _ | busy .. => false

end Actor

structure System where
  pool : Pool
  poolActor : Actor Pool Unit
  controller : AdmissionController
  admission : Actor Shared RunResult
  /-- The workers whose end the pool has not taken notice of, each with its function. -/
  live : List (WorkerId × FunctionId)

inductive Step where
  | poolEvent (i : Pool.Input)
  | poolStep
  | admissionEvent (i : Admission.Input)
  | admissionStep
  | register (functionId : FunctionId) (function : RegisteredFunction)
  | deregister (functionId : FunctionId)

/-- The worker that announces its end. -/
def ending : Pool.Event → Option (WorkerId × FunctionId)
  | .workerMessage (.reapMe worker functionId) => some (worker, functionId)
  | _ => none

/-- The workers that one step of the pool has spawned. -/
def spawned (p q : Pool) : List (WorkerId × FunctionId) :=
  (q.workerHandles.entries.filter fun e => e.1 ∉ p.workerHandles).map fun e =>
    (e.1, e.2.functionId)

namespace System

def shared (s : System) : Shared := (s.pool.store, s.controller)

/-- A step that is not possible in the state leaves it as it is. -/
def next : Step → System → System
  | .poolEvent i, s =>
    match s.poolActor with
    | .waiting =>
      if ∀ worker ∈ ending i.event, worker ∈ s.live then
        { s with
          poolActor := .ofTask (Pool.Stepwise.turn i)
          live := s.live.diff (ending i.event).toList }
      else s
    | _ => s
  | .poolStep, s =>
    match s.poolActor with
    | .busy _ state next =>
      { s with
        pool := state s.pool
        poolActor := .ofTask (next s.pool)
        live := s.live ++ spawned s.pool (state s.pool) }
    | _ => s
  | .admissionEvent i, s =>
    match s.admission with
    | .waiting => { s with admission := .ofTask (Ingress.turn i) }
    | _ => s
  | .admissionStep, s =>
    match s.admission with
    | .busy _ state next =>
      { s with
        pool := { s.pool with store := (state s.shared).1 }
        controller := (state s.shared).2
        admission := .ofTask (next s.shared) }
    | _ => s
  | .register functionId function, s =>
    { s with pool := (Pool.registerFunction functionId function s.pool).state }
  | .deregister functionId, s =>
    { s with pool := (Pool.deregisterFunction functionId s.pool).state }

def run (steps : List Step) (s : System) : System := steps.foldl (fun s step => next step s) s

/-- Both actors before their first events. -/
def start (pool : Pool) (config : AdmissionConfig) (now : Instant) : System where
  pool := pool
  poolActor := .waiting
  controller := .new config now
  admission := .waiting
  live := []

/-- An `expect` on a function's entry in the store has failed. -/
def lookupFailed (s : System) : Bool := s.poolActor.lookupFailed || s.admission.lookupFailed

end System

/-- Whether the store lets the function go. -/
def accepts (p : Pool) (functionId : FunctionId) : Prop :=
  Pool.functionExists p functionId ∧ Pool.numWorkers .active p functionId +
    Pool.numWorkers .idle p functionId + Pool.numWorkers .dying p functionId = 0

/-- Nothing under way counts on the function. -/
structure Cold (s : System) (functionId : FunctionId) : Prop where
  pool : functionId ∉ s.poolActor.held
  admission : functionId ∉ s.admission.held
  /-- No worker, no worker handle, and no snapshot in the lists. -/
  covers : ¬Covers s.pool functionId
  live : ∀ worker, (worker, functionId) ∉ s.live

/-- A deregistration that the store accepts finds its function cold. -/
def Careful (s : System) : Step → Prop
  | .deregister functionId => accepts s.pool functionId → Cold s functionId
  | _ => True

section Actors
variable {σ ρ : Type} {R : List FunctionId → σ → σ → Prop} {G : σ → σ → Prop}
  {Q : Handler.Post σ Empty (Option ρ)} {s t : σ}

/-- What is left of the actor's turn is safe, and its end is as `Q` says. -/
def Actor.Safe (R : List FunctionId → σ → σ → Prop) (G : σ → σ → Prop)
    (Q : Handler.Post σ Empty (Option ρ)) : Actor σ ρ → σ → Prop
  | .waiting, s => Q.ok none s
  | .ended r, s => Q.ok (some r) s
  | .panicked msg, s => Q.panic msg s
  | .busy held state next, s => (Resumption.step held state next).Safe R G Q s

theorem Actor.safe_ofTask {task : Resumption (List FunctionId) σ Empty (Option ρ)}
    (h : task.Safe R G Q s) : (ofTask task).Safe R G Q s := by
  cases task with
  | ret r => cases r <;> exact h
  | err e => exact e.elim
  | panic msg => exact h
  | step held state next => exact h

theorem Actor.Safe.interfered {actor : Actor σ ρ} (h : actor.Safe R G Q s)
    (trans : ∀ held s t u, R held s t → R held t u → R held s u)
    (ok : ∀ r, R [] s t → Q.ok r s → Q.ok r t) (panic : ∀ msg, Q.panic msg s → Q.panic msg t)
    (interferes : R actor.held s t) : actor.Safe R G Q t := by
  cases actor with
  | waiting => exact ok none interferes h
  | ended r => exact ok (some r) interferes h
  | panicked msg => exact panic msg h
  | busy held state next => exact Resumption.Safe.interfered (trans held s) h interferes

end Actors

/-- The actors are safe, and the functions of the workers alive are registered. -/
structure Sound (s : System) : Prop where
  pool : s.poolActor.Safe Pool.Interferes Pool.Advances (Pool.securing []) s.pool
  admission : s.admission.Safe Ingress.Interferes Ingress.KeepsStore
    (Ingress.keeping fun r t => r = none → Admission.Sound t.2) s.shared
  live : ∀ worker functionId, (worker, functionId) ∈ s.live → Registered s.pool functionId

variable {s : System}

theorem announced_eq (event : Pool.Event) :
    Pool.Stepwise.announced event = (ending event).toList.map Prod.snd := by
  cases event with
  | workerMessage msg => cases msg <;> rfl
  | _ => rfl

theorem covers_of_spawned {p q : Pool} {worker : WorkerId} {f : FunctionId}
    (new : (worker, f) ∈ spawned p q) : Covers q f := by
  obtain ⟨⟨w, handle⟩, mem, same⟩ := List.mem_map.mp new
  cases same
  exact .handle (Table.mem_entries_iff.mp (List.mem_filter.mp mem).1) rfl

namespace Sound

theorem lookupFailed (h : Sound s) : s.lookupFailed = false := by
  have pool : s.poolActor.lookupFailed = false := by
    have safe := h.pool
    cases actor : s.poolActor with
    | panicked msg =>
      rw [actor] at safe
      exact decide_eq_false safe
    | _ => rfl
  have admission : s.admission.lookupFailed = false := by
    have safe := h.admission
    cases actor : s.admission with
    | panicked msg =>
      rw [actor] at safe
      exact decide_eq_false safe
    | _ => rfl
  simp [System.lookupFailed, pool, admission]

theorem poolInterfered {actor : Actor Pool Unit} {p q : Pool}
    (h : actor.Safe Pool.Interferes Pool.Advances (Pool.securing []) p)
    (interferes : Pool.Interferes actor.held p q) :
    actor.Safe Pool.Interferes Pool.Advances (Pool.securing []) q :=
  h.interfered (fun _ _ _ _ h => h.trans) (fun _ h ends => ⟨h.secure ends.1, trivial⟩)
    (fun _ h => h) interferes

theorem admissionInterfered {actor : Actor Shared RunResult} {s t : Shared}
    (h : actor.Safe Ingress.Interferes Ingress.KeepsStore
      (Ingress.keeping fun r t => r = none → Admission.Sound t.2) s)
    (interferes : Ingress.Interferes actor.held s t) :
    actor.Safe Ingress.Interferes Ingress.KeepsStore
      (Ingress.keeping fun r t => r = none → Admission.Sound t.2) t :=
  h.interfered (fun _ _ _ _ h => h.trans)
    (fun _ h ends stays => h.1.symm ▸ ends stays) (fun _ h => h) interferes

/-- The registrar at work, when it takes away no function that is held or that a worker has. -/
theorem registrar {functions : Table FunctionId RegisteredFunction} (h : Sound s)
    (kept : ∀ f, f ∈ s.poolActor.held ∨ Covers s.pool f ∨ f ∈ s.admission.held ∨
      (∃ worker, (worker, f) ∈ s.live) → Registered s.pool f → functions.lookup f ≠ none) :
    Sound { s with pool := { s.pool with store.functions := functions } } := by
  refine ⟨?_, ?_, fun worker f live => kept f ?_ (h.live worker f live)⟩
  · refine poolInterfered h.pool ⟨functions, rfl, fun f relied => kept f ?_⟩
    exact relied.imp_right .inl
  · exact admissionInterfered h.admission ⟨rfl, fun f mem => kept f (.inr (.inr (.inl mem)))⟩
  · exact .inr (.inr (.inr ⟨worker, live⟩))

theorem register {f : FunctionId} {function : RegisteredFunction} (h : Sound s) :
    Sound (System.next (.register f function) s) := by
  change Sound { s with pool := (Pool.registerFunction f function s.pool).state }
  cases look : s.pool.store.functions.lookup f with
  | some old =>
    have same : (Pool.registerFunction f function s.pool).state = s.pool := by
      refine Handler.state_eq_of_wp ?_
      simp [Pool.registerFunction, look, Handler.Post.state]
    rwa [same]
  | none =>
    have same : (Pool.registerFunction f function s.pool).state =
        { s.pool with store.functions := s.pool.store.functions.insert f function } := by
      refine Handler.state_eq_of_wp ?_
      simp [Pool.registerFunction, look, Handler.Post.state]
    rw [same]
    refine h.registrar fun g _ known => ?_
    rw [Table.lookup_insert_ite]
    split
    · exact Option.some_ne_none _
    · exact known

theorem deregister {f : FunctionId} (h : Sound s) (careful : Careful s (.deregister f)) :
    Sound (System.next (.deregister f) s) := by
  change Sound { s with pool := (Pool.deregisterFunction f s.pool).state }
  by_cases accepted : accepts s.pool f
  · have cold := careful accepted
    have same : (Pool.deregisterFunction f s.pool).state =
        { s.pool with store.functions := s.pool.store.functions.erase f } := by
      refine Handler.state_eq_of_wp ?_
      obtain ⟨known, unused⟩ := accepted
      obtain ⟨function, look⟩ := Option.isSome_iff_exists.mp known
      simp only [Pool.deregisterFunction, Handler.wp_bind, Handler.wp_get, look, unused]
      exact (Handler.wp_ite _ _ _ _ _).mpr ⟨fun used => absurd used (by simp), fun _ => rfl⟩
    rw [same]
    refine h.registrar fun g relied known => ?_
    rw [Table.lookup_erase_ite]
    split
    next own =>
      subst own
      obtain held | covers | held | ⟨worker, live⟩ := relied
      · exact absurd held cold.pool
      · exact absurd covers cold.covers
      · exact absurd held cold.admission
      · exact absurd live (cold.live worker)
    next => exact known
  · have same : (Pool.deregisterFunction f s.pool).state = s.pool := by
      refine Handler.state_eq_of_wp ?_
      cases look : s.pool.store.functions.lookup f with
      | none => simp [Pool.deregisterFunction, look, Handler.Post.state]
      | some function =>
        have used : Pool.numWorkers .active s.pool f + Pool.numWorkers .idle s.pool f +
            Pool.numWorkers .dying s.pool f ≠ 0 :=
          fun none => accepted ⟨by simp [Pool.functionExists, look], none⟩
        simp only [Pool.deregisterFunction, Handler.wp_bind, Handler.wp_get, look]
        exact (Handler.wp_ite _ _ _ _ _).mpr
          ⟨fun _ => rfl, fun none => absurd (Nat.pos_of_ne_zero used) none⟩
    rwa [same]

theorem poolEvent {i : Pool.Input} (h : Sound s) : Sound (System.next (.poolEvent i) s) := by
  simp only [System.next]
  split
  next waiting =>
    split
    next alive =>
      have secure : Secure [] s.pool := by
        have safe := h.pool
        rw [waiting] at safe
        exact safe.1
      have announced : Secure (Pool.Stepwise.announced i.event) s.pool := by
        refine ⟨secure.covered, fun f mem => ?_⟩
        rw [announced_eq] at mem
        obtain ⟨⟨worker, f⟩, ends, rfl⟩ := List.mem_map.mp mem
        exact h.live worker f (alive _ (Option.mem_toList.mp ends))
      refine ⟨Actor.safe_ofTask (Pool.Stepwise.safe_turn announced), h.admission, ?_⟩
      exact fun worker f live => h.live worker f (List.diff_subset _ _ live)
    next => exact h
  next => exact h

theorem poolStep (h : Sound s) : Sound (System.next .poolStep s) := by
  simp only [System.next]
  split
  next held state next busy =>
    have safe := h.pool
    rw [busy] at safe
    obtain ⟨advances, rest⟩ := safe s.pool .refl
    refine ⟨Actor.safe_ofTask rest, ?_, fun worker f live => ?_⟩
    · refine admissionInterfered h.admission ⟨rfl, fun f _ known => ?_⟩
      exact advances.functions ▸ known
    · obtain before | new := List.mem_append.mp live
      · have known := h.live worker f before
        unfold Registered
        rwa [advances.functions]
      · exact advances.covered f (covers_of_spawned new)
  next => exact h

theorem admissionEvent {i : Admission.Input} (h : Sound s) :
    Sound (System.next (.admissionEvent i) s) := by
  simp only [System.next]
  split
  next waiting =>
    have sound : Admission.Sound s.controller := by
      have safe := h.admission
      rw [waiting] at safe
      exact safe rfl
    exact ⟨h.pool, Actor.safe_ofTask (Ingress.safe_turn sound), h.live⟩
  next => exact h

theorem admissionStep (h : Sound s) : Sound (System.next .admissionStep s) := by
  simp only [System.next]
  split
  next held state next busy =>
    have safe := h.admission
    rw [busy] at safe
    obtain ⟨keeps, rest⟩ := safe s.shared .refl
    have same : (state s.shared).1 = s.pool.store := keeps
    refine ⟨?_, Actor.safe_ofTask rest, ?_⟩
    · rw [same]
      exact h.pool
    · rw [same]
      exact h.live
  next => exact h

theorem next {step : Step} (h : Sound s) (careful : Careful s step) :
    Sound (System.next step s) := by
  cases step with
  | poolEvent i => exact h.poolEvent
  | poolStep => exact h.poolStep
  | admissionEvent i => exact h.admissionEvent
  | admissionStep => exact h.admissionStep
  | register f function => exact h.register
  | deregister f => exact h.deregister careful

end Sound

theorem sound_start {pool : Pool} {config : AdmissionConfig} {now : Instant}
    (secure : Secure [] pool) : Sound (.start pool config now) :=
  ⟨⟨secure, trivial⟩, fun _ => Admission.sound_new config now, nofun⟩

theorem secure_spawn {config : Pool.SandboxPoolConfig} {cpus : List Cpu}
    {memory : Pool.MemoryStats} {functions : Table FunctionId RegisteredFunction}
    {snapshots : Table FunctionId (List Sandbox)}
    (known : ∀ f sandboxes, snapshots.lookup f = some sandboxes → sandboxes ≠ [] →
      functions.lookup f ≠ none) :
    Secure [] (Pool.spawn config cpus memory functions snapshots) := by
  refine ⟨fun f covers => ?_, nofun⟩
  cases covers with
  | member member => exact absurd member (AList.notMem_empty _)
  | handle look own => simp [Pool.spawn] at look
  | snapshot look left => exact known f _ look left

/-- No actor fails to find a function, wherever a run has come to whose accepted deregistrations all
find their function cold. The pool starts with snapshots of registered functions only. -/
theorem lookups_succeed (config : Pool.SandboxPoolConfig) (cpus : List Cpu)
    (memory : Pool.MemoryStats) (functions : Table FunctionId RegisteredFunction)
    (snapshots : Table FunctionId (List Sandbox)) (admission : AdmissionConfig) (now : Instant)
    (steps : List Step)
    (known : ∀ f sandboxes, snapshots.lookup f = some sandboxes → sandboxes ≠ [] →
      functions.lookup f ≠ none)
    (careful : AllSteps System.next Careful steps
      (.start (Pool.spawn config cpus memory functions snapshots) admission now)) :
    (System.run steps
      (.start (Pool.spawn config cpus memory functions snapshots) admission now)).lookupFailed =
        false :=
  (careful.invariant (I := Sound) (fun _ _ => Sound.next)
    (sound_start (secure_spawn known))).lookupFailed

/-- A pool with a snapshot of the one function that is registered. -/
def kept : Pool :=
  Pool.spawn
    { retainSnapshots := false, snapshotCreationTime := .never, defaultWorkerCapPerFunc := 1,
      eviction := .noOp }
    [0]
    { total := 8, inuse := 0, reclaimed := 0, evictionThresHi := 8, evictionThresLo := 8 }
    (AList.insert 7 { memory := 2, admission := none } ∅) (AList.insert 7 [⟨1, true, ⟨0, 0⟩⟩] ∅)

def request (functionId : FunctionId) (now : Instant) : Admission.Input where
  event := .newRequest { invocationId := now, functionId, sourceTimestampNs := none }
  now := now
  store := fun _ => none
  rank := fun _ => 0
  constructible := fun _ => true

/-- Function 8 comes, is looked up for a request, and goes while the pool and admission are at work
for function 7, which both have yet to look up. -/
def cold : List Step :=
  [.register 8 { memory := 2, admission := none }, .admissionEvent (request 8 1), .admissionStep,
    .admissionStep, .admissionStep,
    .poolEvent ((Pool.Event.control (.destroySandbox 1 ⟨true, true⟩ 5)).smooth 1), .poolStep,
    .admissionEvent (request 7 2), .admissionStep, .admissionStep, .deregister 8, .poolStep, .poolStep,
    .admissionStep, .poolStep]

/-- Both requests are queued, and the snapshot is with the worker that destroys it. -/
theorem lookups_succeed_cold :
    let s := System.run cold (.start kept ⟨1, 2, 1, 1, 1⟩ 0)
    s.lookupFailed = false ∧ s.controller.totalQueuedReqs = 2 ∧
      s.pool.workerBySandbox.lookup 1 = some 1 ∧ Pool.functionExists s.pool 8 = false := by
  refine ⟨?_, by decide +kernel, by decide +kernel, by decide +kernel⟩
  refine lookups_succeed _ _ _ _ _ _ _ _ (fun f sandboxes look _ => ?_)
    ⟨trivial, trivial, trivial, trivial, trivial, trivial, trivial, trivial, trivial, trivial,
      fun _ => ⟨by decide +kernel, by decide +kernel, fun covers => ?_, nofun⟩, trivial, trivial,
      trivial, trivial, trivial⟩
  · rw [Table.lookup_insert_ite] at look ⊢
    split at look
    next own => simp [own]
    next => cases look
  · cases covers with
    | member member => exact absurd member (AList.notMem_empty _)
    | handle look own => cases look
    | snapshot look left => cases look

/-- The function of an orphan snapshot is deregistered, and then the snapshot is to be destroyed. -/
theorem orphan_not_found :
    (System.run
      [.deregister 7, .poolEvent ((Pool.Event.control (.destroySandbox 1 ⟨true, true⟩ 5)).smooth 1),
        .poolStep, .poolStep, .poolStep]
      (.start kept ⟨1, 1, 1, 1, 1⟩ 0)).lookupFailed = true := by
  decide +kernel

end Joint.Deregistration
end Snaplace
