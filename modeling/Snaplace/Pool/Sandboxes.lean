import Snaplace.Pool.Pauses

/-!
# Where the sandboxes are

A sandbox is in one place: in a list of snapshots, with the live worker that owns it, among the
trashed ones, or with a worker that has ended and not handed it back. Spawning takes it out of a list,
reaping puts it back or away, and the index of the owners follows: it is the inverse of what the
workers' handles say. What the workers are trusted with is said once: a worker announces a new
sandbox, once, and only hands back the sandbox it owns.
-/
namespace Snaplace
open Foundation Foundation.Handler
open Worker (WorkerExit)

namespace Pool
variable {d : Defect → Prop} {i : Input} {m m' : Moment} {p t : Pool} {sb : SandboxId}

section Places

def countId (sb : SandboxId) (sandboxes : List Sandbox) : Nat :=
  (sandboxes.map Sandbox.id).count sb

def tally (sb : SandboxId) (sandbox : Option SandboxId) : Nat := if sandbox = some sb then 1 else 0

def listed (snapshots : Table FunctionId (List Sandbox)) (sb : SandboxId) : Nat :=
  snapshots.total fun _ sandboxes => countId sb sandboxes

def owners (handles : Table WorkerId WorkerHandle) (sb : SandboxId) : Nat :=
  handles.total fun _ handle => tally sb handle.sandboxId

/-- The sandbox that a worker hands back when it is joined. -/
def WorkerExit.returned (exit : Option WorkerExit) : Option Sandbox :=
  (WorkerExit.stashed exit).or (WorkerExit.trashed exit)

/-- The sandbox has ended with its worker. -/
def Effect.ends (sb : SandboxId) : Effect → Nat
  | .joined _ handle _ exit =>
    if (WorkerExit.returned exit).isSome then 0 else tally sb handle.sandboxId
  | _ => 0

def ended (log : List Effect) (sb : SandboxId) : Nat := (log.map (Effect.ends sb)).sum

def places (p : Pool) (sb : SandboxId) : Nat :=
  listed p.snapshots sb + owners p.workerHandles sb + countId sb p.trashedSandboxes + ended p.log sb

@[simp] theorem ended_append {log effects : List Effect} :
    ended (log ++ effects) sb = ended log sb + ended effects sb := by
  simp [ended]

@[simp] theorem countId_append {xs ys : List Sandbox} :
    countId sb (xs ++ ys) = countId sb xs + countId sb ys := by
  simp [countId]

@[simp] theorem countId_singleton {sandbox : Sandbox} :
    countId sb [sandbox] = tally sb (some sandbox.id) := by
  simp [countId, tally, List.count_singleton]

theorem listed_insert (sb : SandboxId) (snapshots : Table FunctionId (List Sandbox))
    (f : FunctionId) (sandboxes : List Sandbox) :
    listed (snapshots.insert f sandboxes) sb + countId sb ((snapshots.lookup f).getD []) =
      listed snapshots sb + countId sb sandboxes := by
  have changed := Table.total_insert_add (f := fun _ sandboxes => countId sb sandboxes) (k := f)
    (v := sandboxes) (m := snapshots)
  cases look : snapshots.lookup f <;> simpa [listed, look, countId] using changed

theorem listed_takes (sb : SandboxId) {snapshots snapshots' : Table FunctionId (List Sandbox)}
    {f : FunctionId} {sandbox : Option Sandbox} (takes : Takes snapshots f sandbox snapshots') :
    listed snapshots' sb + tally sb (sandbox.map Sandbox.id) = listed snapshots sb := by
  cases takes with
  | none => simp [tally]
  | @some sandboxes idx sandbox look at_ =>
    have changed := listed_insert sb snapshots f (sandboxes.eraseIdx idx)
    obtain ⟨inside, rfl⟩ := List.getElem?_eq_some_iff.mp at_
    have perm := (List.getElem_cons_eraseIdx_perm inside).map Sandbox.id
    have split := perm.count_eq sb
    simp only [look, Option.getD_some, Option.map_some, countId, tally, List.map_cons,
      List.count_cons, Option.some.injEq, beq_iff_eq] at *
    omega

theorem listed_stashed {snapshots : Table FunctionId (List Sandbox)} {f : FunctionId}
    {sandbox : Option Sandbox} :
    listed (stashed snapshots f sandbox) sb =
      listed snapshots sb + tally sb (sandbox.map Sandbox.id) := by
  cases sandbox with
  | none => simp [stashed, tally]
  | some sandbox =>
    have changed := listed_insert sb snapshots f
      ((snapshots.lookup f).getD [] ++ [sandbox])
    simp only [stashed, Option.map_some, countId_append, countId_singleton] at *
    omega

theorem owners_insert (sb : SandboxId) (handles : Table WorkerId WorkerHandle) (w : WorkerId)
    (handle : WorkerHandle) :
    owners (handles.insert w handle) sb + tally sb ((handles.lookup w).bind (·.sandboxId)) =
      owners handles sb + tally sb handle.sandboxId := by
  have changed := Table.total_insert_add (f := fun _ handle => tally sb handle.sandboxId) (k := w)
    (v := handle) (m := handles)
  cases look : handles.lookup w <;> simpa [owners, look, tally] using changed

theorem owners_erase (sb : SandboxId) {handles : Table WorkerId WorkerHandle} {w : WorkerId}
    {handle : WorkerHandle} (look : handles.lookup w = some handle) :
    owners handles sb = tally sb handle.sandboxId + owners (handles.erase w) sb :=
  Table.total_of_lookup look

/-- A joined worker's sandbox is stashed, trashed, or has ended with it. -/
theorem handed_back (sb : SandboxId) (w : WorkerId) {handle : WorkerHandle} {exit : Option WorkerExit}
    (memory : ByteUnit)
    (returns : ∀ sandbox ∈ WorkerExit.returned exit, handle.sandboxId = some sandbox.id) :
    tally sb ((WorkerExit.stashed exit).map Sandbox.id) +
      countId sb (WorkerExit.trashed exit).toList + Effect.ends sb (.joined w handle memory exit) =
        tally sb handle.sandboxId := by
  cases exit with
  | none =>
    simp [WorkerExit.stashed, WorkerExit.trashed, WorkerExit.returned, Effect.ends, tally, countId]
  | some exit =>
    obtain ⟨result, sandbox⟩ := exit
    cases sandbox with
    | none =>
      simp [WorkerExit.stashed, WorkerExit.trashed, WorkerExit.returned, Effect.ends, tally,
        countId]
    | reusable sandbox =>
      rw [returns sandbox rfl]
      simp [WorkerExit.stashed, WorkerExit.trashed, WorkerExit.returned, Effect.ends, countId]
    | trashed sandbox =>
      rw [returns sandbox rfl]
      simp [WorkerExit.stashed, WorkerExit.trashed, WorkerExit.returned, Effect.ends, tally]

end Places

section Owners

/-- The sandbox of a live worker. -/
def sandboxOf (p : Pool) (w : WorkerId) : Option SandboxId :=
  (p.workerHandles.lookup w).bind WorkerHandle.sandboxId

theorem sandboxOf_of_lookup {w : WorkerId} {handle : WorkerHandle}
    (look : p.workerHandles.lookup w = some handle) : sandboxOf p w = handle.sandboxId := by
  simp [sandboxOf, look]

theorem sandboxOf_insert {w : WorkerId} {handle : WorkerHandle}
    (handles : t.workerHandles = p.workerHandles.insert w handle) (w' : WorkerId) :
    sandboxOf t w' = if w' = w then handle.sandboxId else sandboxOf p w' := by
  simp only [sandboxOf, handles, Table.lookup_insert_ite]
  split <;> rfl

theorem sandboxOf_erase {w : WorkerId} (handles : t.workerHandles = p.workerHandles.erase w)
    (w' : WorkerId) : sandboxOf t w' = if w' = w then none else sandboxOf p w' := by
  simp only [sandboxOf, handles, Table.lookup_erase_ite]
  split <;> rfl

end Owners

/-- What a worker hands back when it is joined is the sandbox it owned. -/
def Effect.Returns : Effect → Prop
  | .joined _ handle _ exit =>
    ∀ sandbox ∈ WorkerExit.returned exit, handle.sandboxId = some sandbox.id
  | _ => True

instance (effect : Effect) : Decidable effect.Returns := by
  delta Effect.Returns
  exact match effect with
  | .joined .. => inferInstance
  | .spawned .. | .sent .. | .dispatchReply _ | .requested _ | .reply .. | .event _
  | .orphanDestroyed _ | .orphanDropped _ | .wipeDbSnapshots | .syncDbSnapshots => inferInstance

def Returns (log : List Effect) : Prop := ∀ effect ∈ log, effect.Returns

instance (log : List Effect) : Decidable (Returns log) :=
  inferInstanceAs (Decidable (∀ effect ∈ log, effect.Returns))

/-- A worker announces a sandbox that is nowhere, and only when it has none. -/
def Announces (i : Input) (p : Pool) : Prop :=
  ∀ w sb, i.event = .workerMessage (.sandboxId w sb) → places p sb = 0 ∧ sandboxOf p w = none

instance Announces.decidable (i : Input) (p : Pool) : Decidable (Announces i p) :=
  match on : i.event with
  | .workerMessage (.sandboxId w sb) =>
    decidable_of_iff (places p sb = 0 ∧ sandboxOf p w = none) (by simp [Announces, on])
  | .workerMessage (.reapMe ..) | .workerMessage (.needWork ..)
  | .workerMessage (.sandboxPreparation _) | .workerMessage (.snapshotCreation _) =>
    isTrue (by simp [Announces, on])
  | .quit | .admissionClosed | .keepaliveTimeout _ | .snapmanMessage | .dispatch .. | .control _
  | .shutdownTick | .registerFunction .. | .deregisterFunction _ => isTrue (by simp [Announces, on])

/-- The index of the owners is the inverse of what the handles say. -/
def Indexed (p : Pool) : Prop :=
  ∀ sb w, p.workerBySandbox.lookup sb = some w ↔ sandboxOf p w = some sb

/-- Where the sandboxes are in the middle of an event. -/
structure Housed (i : Input) (m : Moment) : Prop where
  indexed : Indexed m.pool
  unique : ∀ sb, places m.pool sb ≤ 1
  /-- An announcement is recorded at most once: no worker is reaped then. -/
  announce : ∀ w sb, i.event = .workerMessage (.sandboxId w sb) → m.closing = none ∧
    (m.pool.workerBySandbox.lookup sb = none → places m.pool sb = 0 ∧ sandboxOf m.pool w = none)

/-- Every sandbox stays where it is, or changes its place; a new one may have been announced, and
one may have been dropped. -/
def Spares (d : Defect → Prop) (p t : Pool) : Prop :=
  ∀ sb, (¬d .droppedSnapshot → places p sb ≤ places t sb) ∧
    (places t sb ≤ places p sb ∨ places t sb = 1)

namespace Housed

theorem indexed_move (h : Housed i m) (move : Move d i m m') : Indexed m'.pool := by
  intro sb w
  have before := h.indexed sb w
  cases move with
  | spawn f function sandbox accounting snapshots settled registered succeeds fresh takes unowned =>
    have bare : sandboxOf m.pool i.newWorkerId = none := by simp [sandboxOf, fresh]
    rw [sandboxOf_insert (p := m.pool) rfl]
    cases sandbox with
    | none => grind [own]
    | some sandbox =>
      have unowned := unowned sandbox rfl
      simp only [own, Option.map_some, Table.lookup_insert_ite]
      grind
  | retire source f w' handle function live member look =>
    rw [sandboxOf_insert (p := m.pool) rfl]
    have same := sandboxOf_of_lookup look
    grind
  | announce w' sandbox handle message look unowned =>
    have bare := ((h.announce w' sandbox message).2 unowned).2
    rw [sandboxOf_insert (p := m.pool) rfl]
    simp only [Table.lookup_insert_ite]
    grind
  | reap stage w' handle function cpuset busy closing member look =>
    have mine := h.indexed sb w'
    have same := sandboxOf_of_lookup look
    rw [sandboxOf_erase (p := m.pool) rfl]
    cases gone : handle.sandboxId <;> simp only [disown, Table.lookup_erase_ite] <;> grind
  | _ => exact before

/-- The step lemma of the places. -/
theorem keeps_move (h : Housed i m) (returns : Returns m'.pool.log) (move : Move d i m m') :
    Spares d m.pool m'.pool := by
  intro sb
  have same (places_eq : places m'.pool sb = places m.pool sb) :
      (¬d .droppedSnapshot → places m.pool sb ≤ places m'.pool sb) ∧
        (places m'.pool sb ≤ places m.pool sb ∨ places m'.pool sb = 1) := by omega
  cases move with
  | event | deny | requested | answer | tell | handOut | prepare | snapshot =>
    exact same (by simp [places, Moment.note, ended, Effect.ends])
  | spawn f function sandbox accounting snapshots settled registered succeeds fresh takes =>
    have taken := listed_takes sb takes
    have added := owners_insert sb m.pool.workerHandles i.newWorkerId
      { functionId := f, sandboxId := sandbox.map Sandbox.id, memAccounting := accounting,
        sandbox := sandbox }
    refine same ?_
    simp only [places, ended_append, fresh, Option.bind_none] at *
    simp [ended, Effect.ends, tally] at *
    omega
  | requeue f sandbox snapshots takes =>
    have taken := listed_takes sb takes
    refine same ?_
    simp only [places, listed_stashed]
    omega
  | drop f sandbox snapshots takes defect =>
    have taken := listed_takes sb takes
    refine ⟨fun kept => absurd defect kept, .inl ?_⟩
    simp only [places]
    omega
  | retire source f w handle function live member look =>
    have changed := owners_insert sb m.pool.workerHandles w
      { handle with memAccounting := .reclaimed }
    refine same ?_
    simp only [places, look, Option.bind_some] at *
    omega
  | announce w sandbox handle message look unowned =>
    obtain ⟨nowhere, bare⟩ := (h.announce w sandbox message).2 unowned
    have added := owners_insert sb m.pool.workerHandles w { handle with sandboxId := some sandbox }
    rw [sandboxOf] at bare
    simp only [places, bare, tally, Option.some.injEq, reduceCtorEq, if_false] at *
    split at added
    next here =>
      subst here
      omega
    next => omega
  | reap stage w handle function cpuset busy closing member look =>
    have taken := owners_erase sb look
    have back := handed_back sb w function.memory
      (returns (.joined w handle function.memory (i.exit w)) (by simp))
    refine same ?_
    simp only [places, listed_stashed, countId_append, ended_append] at *
    rw [show ended [.joined w handle function.memory (i.exit w)] sb =
      Effect.ends sb (.joined w handle function.memory (i.exit w)) by simp [ended]]
    omega
  | _ => exact same rfl

theorem announce_move (h : Housed i m) (move : Move d i m m') (w : WorkerId) (sb : SandboxId)
    (on : i.event = .workerMessage (.sandboxId w sb)) : m'.closing = none ∧
      (m'.pool.workerBySandbox.lookup sb = none →
        places m'.pool sb = 0 ∧ sandboxOf m'.pool w = none) := by
  have before := h.announce w sb on
  cases move with
  | event | deny | requested | answer | tell | handOut | prepare | snapshot =>
    simpa [places, Moment.note, ended, Effect.ends, sandboxOf] using before
  | spawn f function sandbox accounting snapshots settled registered succeeds fresh takes unowned
      room charge quiet =>
    simp [on, Event.worker] at quiet
  | requeue f sandbox snapshots takes =>
    have taken := listed_takes sb takes
    refine ⟨before.1, fun unowned => ⟨?_, (before.2 unowned).2⟩⟩
    have nowhere := (before.2 unowned).1
    simp only [places, listed_stashed] at *
    omega
  | drop f sandbox snapshots takes =>
    have taken := listed_takes sb takes
    refine ⟨before.1, fun unowned => ⟨?_, (before.2 unowned).2⟩⟩
    have nowhere := (before.2 unowned).1
    simp only [places] at *
    omega
  | retire source f w' handle function live member look =>
    have changed :=
      owners_insert sb m.pool.workerHandles w' { handle with memAccounting := .reclaimed }
    have same := sandboxOf_of_lookup look
    refine ⟨before.1, fun unowned => ?_⟩
    obtain ⟨nowhere, bare⟩ := before.2 unowned
    rw [sandboxOf_insert (p := m.pool) rfl]
    refine ⟨?_, by grind⟩
    simp only [places, look, Option.bind_some] at *
    omega
  | announce w' sandbox handle message look unowned =>
    obtain ⟨rfl, rfl⟩ : w = w' ∧ sb = sandbox := by simpa [on] using message
    exact ⟨before.1, fun unowned => by simp at unowned⟩
  | close w' reason settled =>
    cases reason with
    | prepared message | snapshotted message | reaped f message => simp [on] at message
    | finished done new prepares =>
      obtain ⟨f, options, respondTo, prepares⟩ := prepares
      simp [on] at prepares
  | takePrep w' op closing | takeSnapshot w' sandbox op closing | unmark w' closing
  | reap stage w' handle function cpuset busy closing =>
    simp [before.1] at closing
  | _ => exact before

/-- The step lemma. -/
theorem move (h : Housed i m) (returns : Returns m'.pool.log) (move : Move d i m m') :
    Housed i m' where
  indexed := h.indexed_move move
  unique sb := by
    have kept := (h.keeps_move returns move sb).2
    have unique := h.unique sb
    omega
  announce := h.announce_move move

end Housed

/-- The log only grows. -/
theorem log_of_moves (moves : Moves d i m m') : ∃ effects, m'.pool.log = m.pool.log ++ effects := by
  induction moves with
  | refl => exact ⟨[], by simp⟩
  | tail _ move ih =>
    obtain ⟨effects, log⟩ := ih
    cases move <;>
      simp only [Moment.note, log, List.append_assoc, List.append_cancel_left_eq, exists_eq']

theorem Returns.of_moves (returns : Returns m'.pool.log) (moves : Moves d i m m') :
    Returns m.pool.log := by
  obtain ⟨effects, log⟩ := log_of_moves moves
  intro effect mem
  exact returns effect (by simp [log, mem])

/-- A whole event: the sandboxes stay housed, and none is lost but a dropped one. -/
theorem Housed.moves (h : Housed i m) (returns : Returns m'.pool.log) (moves : Moves d i m m') :
    Housed i m' ∧ (¬d .droppedSnapshot → ∀ sb, places m.pool sb ≤ places m'.pool sb) := by
  induction moves with
  | refl => exact ⟨h, fun _ _ => le_rfl⟩
  | tail before move ih =>
    obtain ⟨housed, kept⟩ := ih (returns.of_moves (.single move))
    refine ⟨housed.move returns move, fun noDrop sb => (kept noDrop sb).trans ?_⟩
    exact (housed.keeps_move returns move sb).1 noDrop

/-- Between two events. -/
structure Placed (p : Pool) : Prop where
  indexed : Indexed p
  unique : ∀ sb, places p sb ≤ 1

theorem Placed.housed (h : Placed p) (announces : Announces i p) : Housed i (.top p) :=
  ⟨h.indexed, h.unique, fun w sb on => ⟨rfl, fun _ => announces w sb on⟩⟩

theorem Placed.turned (h : Placed p) (announces : Announces i p) (returns : Returns t.log)
    (turned : Turned d i p t) :
    Placed t ∧ (¬d .droppedSnapshot → ∀ sb, places p sb ≤ places t sb) := by
  obtain ⟨released, failing, moved⟩ := turned
  obtain ⟨housed, kept⟩ := (h.housed announces).moves returns moved
  exact ⟨⟨housed.indexed, housed.unique⟩, kept⟩

/-- There is memory for a worker when a snapshot is picked for it. -/
def Affords (i : Input) (p : Pool) : Prop :=
  ∀ f options respondTo function, i.event = .control (.prepareSandbox f options respondTo) →
    p.store.functions.lookup f = some function → options.mode ≠ .forceFresh →
    (p.snapshots.lookup f).getD [] ≠ [] → p.memory.fits function.memory = true

theorem Affords.allows (h : Affords i p) : Allows (· ≠ .droppedSnapshot) i p where
  lostHandover _ _ _ _ _ := by simp
  overcharge _ _ _ _ := .inr (by simp)
  droppedSnapshot f options respondTo function on known full reuses listed := by
    simp [h f options respondTo function on known reuses listed] at full
  joinFailed _ _ _ := by simp

section Run
variable (config : SandboxPoolConfig) (cpus : List Cpu) (memory : MemoryStats)
  (functions : Table FunctionId RegisteredFunction) {snapshots : Table FunctionId (List Sandbox)}

theorem placed_spawn (distinct : ∀ sb, listed snapshots sb ≤ 1) :
    Placed (spawn config cpus memory functions snapshots) where
  indexed sb w := by simp [spawn, sandboxOf]
  unique sb := by simpa [places, spawn, owners, ended, countId] using distinct sb

theorem listed_le_places :
    listed snapshots sb ≤ places (spawn config cpus memory functions snapshots) sb := by
  simp only [places, spawn]
  omega

theorem returns_back {p t : Pool} (own : NamesOwn i p) (parts : Partition (.top p))
    (stays : turn i p = .ok none t) (returns : Returns t.log) : Returns p.log := by
  obtain ⟨released, failing, moved⟩ :=
    ok_of_wp (turn_spec (d := fun _ => True) (fun _ => trivial) own parts) stays rfl
  have ends : Returns ({ Moment.top t with released, failing } : Moment).pool.log := returns
  exact ends.of_moves moved

/-- The run lemma, from any pool whose sandboxes are placed. -/
theorem Placed.reached {inputs : List Input} {p t : Pool} (init : Placed p)
    (parts : Partition (.top p))
    (promised : AllTurns turn (fun p i => NamesOwn i p ∧ Announces i p) inputs p)
    (ran : iterate turn inputs p = .running t) (returns : Returns t.log) : Placed t := by
  have all := promised.strengthen (I := fun p => Partition (.top p))
    (fun _ _ _ parts meets => partition_turn parts meets.1) parts
  refine all.reaches_while (B := fun p => Returns p.log) ?_ ?_ init ran returns
  · rintro s i t ⟨parts, own, -⟩ stays
    exact returns_back own parts stays
  · rintro s i t placed ⟨parts, own, announces⟩ returns stays
    have spec := turn_spec (d := fun _ => True) (fun _ => trivial) own parts
    exact (placed.turned announces returns (ok_of_wp spec stays rfl)).1

/-- Where there is memory for every snapshot that is picked, no sandbox is lost either. -/
theorem Placed.kept {inputs : List Input} {p t : Pool} (init : Placed p)
    (parts : Partition (.top p))
    (promised : AllTurns turn (fun p i => NamesOwn i p ∧ Announces i p ∧ Affords i p) inputs p)
    (ran : iterate turn inputs p = .running t) (returns : Returns t.log) (sb : SandboxId) :
    places p sb ≤ places t sb := by
  have all := promised.strengthen (I := fun p => Partition (.top p))
    (fun _ _ _ parts meets => partition_turn parts meets.1) parts
  suffices Placed t ∧ places p sb ≤ places t sb from this.2
  refine all.reaches_while (B := fun p => Returns p.log)
    (I := fun q => Placed q ∧ places p sb ≤ places q sb) ?_ ?_ ⟨init, le_rfl⟩ ran returns
  · rintro s i t ⟨parts, own, -⟩ stays
    exact returns_back own parts stays
  · rintro s i t ⟨placed, kept⟩ ⟨parts, own, announces, affords⟩ returns stays
    have turned := ok_of_wp (wp_turn affords.allows own parts) stays rfl
    obtain ⟨placed', kept'⟩ := placed.turned announces returns turned
    exact ⟨placed', kept.trans (kept' (by simp) sb)⟩

/-- Wherever a run comes to, a sandbox is in one place at most, and the owner that the pool finds
for it is the worker whose sandbox it is. -/
theorem sandboxes_placed (distinct : ∀ sb, listed snapshots sb ≤ 1) (inputs : List Input)
    (promised : AllTurns turn (fun p i => NamesOwn i p ∧ Announces i p) inputs
      (spawn config cpus memory functions snapshots)) {p : Pool}
    (ran : iterate turn inputs (spawn config cpus memory functions snapshots) = .running p)
    (returns : Returns p.log) : Placed p :=
  (placed_spawn config cpus memory functions distinct).reached partition_spawn promised ran returns

/-- No snapshot that was listed at the start gets lost: it is still listed, with the worker that was
started with it, trashed, or it has ended with its worker. -/
theorem snapshots_kept (distinct : ∀ sb, listed snapshots sb ≤ 1) (inputs : List Input)
    (promised : AllTurns turn (fun p i => NamesOwn i p ∧ Announces i p ∧ Affords i p) inputs
      (spawn config cpus memory functions snapshots)) {p : Pool}
    (ran : iterate turn inputs (spawn config cpus memory functions snapshots) = .running p)
    (returns : Returns p.log) (sb : SandboxId) : listed snapshots sb ≤ places p sb := by
  have kept := (placed_spawn config cpus memory functions distinct).kept partition_spawn promised
    ran returns sb
  exact (listed_le_places config cpus memory functions).trans kept

end Run

theorem affords_iff {f : FunctionId} {options : PrepareSandboxOptions} {respondTo : ReplyId}
    (on : i.event = .control (.prepareSandbox f options respondTo)) :
    Affords i p ↔ ∀ function ∈ p.store.functions.lookup f, options.mode ≠ .forceFresh →
      (p.snapshots.lookup f).getD [] ≠ [] → p.memory.fits function.memory = true := by
  constructor
  · intro affords function known
    exact affords f options respondTo function on known
  · intro affords f' options' respondTo' function same known
    rw [on] at same
    cases same
    exact affords function known

instance Affords.decidable (i : Input) (p : Pool) : Decidable (Affords i p) :=
  match on : i.event with
  | .control (.prepareSandbox f options _) =>
    decidable_of_iff' _ (affords_iff on)
  | .control (.destroySandbox ..) | .control (.listSandboxes _) | .control (.createSnapshot ..) =>
    isTrue (by simp [Affords, on])
  | .quit | .admissionClosed | .keepaliveTimeout _ | .snapmanMessage | .dispatch ..
  | .workerMessage _ | .shutdownTick | .registerFunction .. | .deregisterFunction _ =>
    isTrue (by simp [Affords, on])

def snapshotOf (id : SandboxId) : Sandbox :=
  { id, hasSnapshot := true, stats := { restorations := 0, invocations := 1 } }

/-- One snapshot of the function. -/
def snapshotted : Table FunctionId (List Sandbox) := AList.insert 7 [snapshotOf 3] ∅

/-- The snapshot is restored; a second worker announces a sandbox of its own and hands it back. -/
def restored : List Input :=
  [(preparation 1).smooth 10, (preparation 2).smooth 11,
    (Event.workerMessage (.sandboxId 11 9)).smooth 12,
    { (Event.workerMessage (.reapMe 11 7)).smooth 12 with
      exit := fun _ => some { result := .ok (), sandbox := .reusable (snapshotOf 9) } }]

theorem distinct_snapshotted (sb : SandboxId) : listed snapshotted sb ≤ 1 := by
  have only : listed snapshotted sb = tally sb (some 3) := by
    simp [listed, snapshotted, Table.total, AList.insert, AList.empty_entries, snapshotOf]
  rw [only, tally]
  split <;> omega

/-- The pool with the snapshot. -/
def stocked : Pool :=
  spawn single.config [0] single.memory single.store.functions snapshotted

theorem sandboxes_placed_restored : Placed (run restored stocked).state := by
  refine sandboxes_placed single.config [0] single.memory single.store.functions
    distinct_snapshotted restored (by decide +kernel) ?_ (by decide +kernel)
  with_unfolding_all rfl

theorem snapshots_kept_restored : 1 ≤ places (run restored stocked).state 3 := by
  refine snapshots_kept single.config [0] single.memory single.store.functions
    distinct_snapshotted restored (by decide +kernel) ?_ (by decide +kernel) 3
  with_unfolding_all rfl

/-- Owned by the first worker; the second one's is listed in its place. -/
example :
    let p := (run restored stocked).state
    (sandboxOf p 10, listed p.snapshots 9) = (some 3, 1) := by
  decide +kernel

end Pool
end Snaplace
