import Snaplace.Snapshots.Sync

/-!
# What the shutdown sync makes of the tables

The rows of a sandbox are what the last function that touched them left there: its own function
writes its state, any other function that lists it erases it. The pairs change only for functions
that one side does not know: a listed function the pool knows keeps the pairs it had.
-/
namespace Snaplace
open Foundation Foundation.Handler

namespace Snapshots
variable {D : Type} {env : Env D} {s t : SyncState D} {f g : FunctionId} {sid : SandboxId}

/-- The sandboxes of a function that are held as snapshots. -/
def held (snapshots : Table FunctionId (List Sandbox)) (f : FunctionId) : List Sandbox :=
  (snapshots.lookup f).getD []

def heldIds (snapshots : Table FunctionId (List Sandbox)) (f : FunctionId) : List SandboxId :=
  (held snapshots f).map (·.id)

/-- The latest state of a sandbox, if it reports one. -/
def stateOf (env : Env D) (sandbox : Sandbox) : Option (SnapshotState D) :=
  (env.snapshotState sandbox).bind (·.toOption)

/-- Every operation on a row succeeds, and every sandbox reports a snapshot state of its own. -/
structure Smooth (env : Env D) : Prop where
  rows : ∀ helper f sid, env.fails (.row helper f sid) = false
  reports : ∀ sandbox, ∃ state,
    env.snapshotState sandbox = some (.ok state) ∧ state.id = sandbox.id

/-- Sandbox ids are unique among the pool's snapshots. -/
def UniqueIds (snapshots : Table FunctionId (List Sandbox)) : Prop :=
  ∀ f g, ∀ a ∈ held snapshots f, ∀ b ∈ held snapshots g, a.id = b.id → f = g ∧ a = b

section Helpers

/-- Everything is as before, but for what has been destroyed. -/
def Untouched (s t : SyncState D) : Prop := t.tables = s.tables ∧ t.snapshots = s.snapshots

def untouched (s : SyncState D) : Post (SyncState D) SyncError Unit where
  ok _ := Untouched s
  err _ _ := True
  panic _ _ := True

@[simp] theorem wp_storage {ε : Type} {err : ε} {op : StorageOp} {Q : Post (SyncState D) ε Unit} :
    wp (storage env err op) Q s =
      ((env.fails op = true → Q.err err s) ∧ (env.fails op = false → Q.ok () s)) := by
  unfold storage
  split <;> simp_all

theorem wp_tryRow (smooth : Smooth env) {helper : Helper}
    {change : SnapshotTables D → SnapshotTables D} {Q : Post (SyncState D) SyncError Unit} :
    wp (tryRow env (.row helper f sid) change) Q s ↔
      Q.ok () { s with tables := change s.tables } := by
  simp [tryRow, smooth.rows, updateTables]

/-- The loop over the rows of some ids. -/
theorem wp_rows (smooth : Smooth env) {helper : Helper} {sids : List SandboxId}
    {change : SandboxId → SnapshotTables D → SnapshotTables D}
    {Q : Post (SyncState D) SyncError Unit} :
    wp (forM sids fun sid => tryRow env (.row helper f sid) (change sid)) Q s ↔
      Q.ok () { s with tables := sids.foldl (fun t sid => change sid t) s.tables } := by
  induction sids generalizing s with
  | nil => exact Iff.rfl
  | cons sid rest ih =>
    rw [List.forM_cons, wp_bind, wp_tryRow smooth]
    exact ih

theorem foldl_removeState {sids : List SandboxId} {T : SnapshotTables D} :
    let after := sids.foldl (fun t sid => t.removeState sid) T
    after.snapsPerFunc = T.snapsPerFunc ∧
      ∀ sid, after.snapshots.lookup sid = if sid ∈ sids then none else T.snapshots.lookup sid := by
  induction sids generalizing T with
  | nil => exact ⟨rfl, fun _ => by simp⟩
  | cons first rest ih =>
    refine ⟨ih.1, fun sid => ?_⟩
    rw [List.foldl_cons, ih.2 sid]
    simp only [SnapshotTables.removeState, Table.lookup_erase_ite]
    grind

theorem foldl_removeSid {sids : List SandboxId} {T : SnapshotTables D} :
    let after := sids.foldl (fun t sid => t.removeSid f sid) T
    after.snapshots = T.snapshots ∧
      ∀ g sid, (g, sid) ∈ after.snapsPerFunc ↔
        (g, sid) ∈ T.snapsPerFunc ∧ ¬ (g = f ∧ sid ∈ sids) := by
  induction sids generalizing T with
  | nil => exact ⟨rfl, fun _ _ => by simp⟩
  | cons first rest ih =>
    refine ⟨ih.1, fun g sid => ?_⟩
    rw [List.foldl_cons, ih.2 g sid]
    simp only [SnapshotTables.removeSid, Multimap.mem_remove]
    grind

theorem foldl_insertSid {sids : List SandboxId} {T : SnapshotTables D} :
    let after := sids.foldl (fun t sid => t.insertSid f sid) T
    after.snapshots = T.snapshots ∧
      ∀ g sid, (g, sid) ∈ after.snapsPerFunc ↔
        (g, sid) ∈ T.snapsPerFunc ∨ (g = f ∧ sid ∈ sids) := by
  induction sids generalizing T with
  | nil => exact ⟨rfl, fun _ _ => by simp⟩
  | cons first rest ih =>
    refine ⟨ih.1, fun g sid => ?_⟩
    rw [List.foldl_cons, ih.2 g sid]
    simp only [SnapshotTables.insertSid, List.mem_insert_iff]
    grind

/-- The states of some sandboxes have been written, and no other row touched. -/
structure Upserted (env : Env D) (sandboxes : List Sandbox) (before after : SnapshotTables D) :
    Prop where
  pairs : after.snapsPerFunc = before.snapsPerFunc
  own : ∀ sb ∈ sandboxes, after.snapshots.lookup sb.id = stateOf env sb
  other : ∀ sid ∉ sandboxes.map (·.id), after.snapshots.lookup sid = before.snapshots.lookup sid

theorem upsertStates_spec (smooth : Smooth env) {sandboxes : List Sandbox}
    {processed : List SandboxId}
    (unique : ∀ a ∈ sandboxes, ∀ b ∈ sandboxes, a.id = b.id → a = b) :
    wp (upsertStates env f sandboxes processed)
      { ok := fun r t => r = some (processed ++ sandboxes.map (·.id)) ∧
          Upserted env sandboxes s.tables t.tables ∧ t.snapshots = s.snapshots
        err := fun _ _ => False } s := by
  induction sandboxes generalizing s processed with
  | nil => simpa [upsertStates] using! ⟨rfl, by simp, fun _ _ => rfl⟩
  | cons sb rest ih =>
    obtain ⟨state, reported, same⟩ := smooth.reports sb
    simp only [upsertStates, reported, smooth.rows, updateTables, wp_bind, wp_modify, if_false,
      Bool.false_eq_true]
    refine wp_mono (ih fun a ha b hb => unique a (by simp [ha]) b (by simp [hb])) ?_
      (fun _ _ h => h) fun _ _ h => h
    rintro r t ⟨rfl, ⟨pairs, own, other⟩, frame⟩
    refine ⟨by simp [same], ⟨pairs, fun a mem => ?_, fun sid fresh => ?_⟩, frame⟩
    · by_cases later : a.id ∈ rest.map (·.id)
      · obtain ⟨b, inRest, sameId⟩ := List.mem_map.mp later
        obtain rfl : a = b := unique a mem b (by simp [inRest]) sameId.symm
        exact own a inRest
      · obtain rfl : a = sb := by
          rcases List.mem_cons.mp mem with rfl | inRest
          · rfl
          · exact absurd (List.mem_map_of_mem inRest) later
        rw [other a.id later]
        simp [SnapshotTables.insertState, stateOf, reported, Except.toOption]
    · obtain ⟨notFirst, fresh⟩ : sid ≠ sb.id ∧ sid ∉ rest.map (·.id) := by simpa using fresh
      rw [other sid fresh]
      simp [SnapshotTables.insertState, notFirst]

/-- All the sandboxes are forgotten, and the ids left are of none of them. -/
theorem updateAndForget_spec (smooth : Smooth env) {sandboxes : List Sandbox}
    {sids : List SandboxId} (unique : ∀ a ∈ sandboxes, ∀ b ∈ sandboxes, a.id = b.id → a = b) :
    wp (updateAndForgetTrackedSnapshots env f sandboxes sids)
      { ok := fun r t => r = ([], sids.filter (· ∉ sandboxes.map (·.id))) ∧
          Upserted env sandboxes s.tables t.tables ∧ t.snapshots = s.snapshots
        err := fun _ _ => True } s := by
  simp only [updateAndForgetTrackedSnapshots, wp_bind, wp_storage]
  refine ⟨fun _ => trivial, fun _ => wp_mono (upsertStates_spec smooth unique) ?_
    (fun _ _ _ => trivial) fun _ _ h => h⟩
  rintro r t ⟨rfl, upserted, frame⟩
  refine ⟨?_, upserted, frame⟩
  have none : sandboxes.filter (·.id ∉ sandboxes.map (·.id)) = [] :=
    List.filter_eq_nil_iff.mpr fun sb mem => by simpa using ⟨sb, mem, rfl⟩
  simp only [List.nil_append, none]

/-- A failed transaction is as good as none: the shutdown sync ends there. -/
theorem wp_syncTxn {body : SyncM D Unit} {Q : SyncState D → Prop}
    (h : wp body { ok := fun _ => Q, err := fun _ _ => True, panic := fun _ _ => True } s) :
    wp (syncTxn env f body)
      { ok := fun _ => Q, err := fun _ _ => True, panic := fun _ _ => True } s := by
  simp only [syncTxn, wp_bind, wp_storage, wp_transaction]
  refine ⟨fun _ => trivial, fun _ => wp_mono h ?_ (fun _ _ _ => trivial) fun _ _ _ => trivial⟩
  exact fun _ _ done => wp_storage.mpr ⟨fun _ => trivial, fun _ => done⟩

theorem reinstateSandbox_spec {helper : Helper} :
    wp (reinstateSandbox env f sid helper)
      { ok := fun _ t => t = s, err := fun _ t => t = s } s := by
  simp only [reinstateSandbox, wp_bind, wp_storage, wp_get]
  refine ⟨fun _ => trivial, fun _ => ?_⟩
  split
  · exact rfl
  · split <;> exact rfl

theorem destroyReinstated_spec {sids : List SandboxId} :
    wp (destroyReinstated env f sids) (untouched s) s := by
  suffices all : ∀ t, Untouched s t → wp (destroyReinstated env f sids) (untouched s) t from
    all s ⟨rfl, rfl⟩
  induction sids with
  | nil => exact fun _ same => same
  | cons sid rest ih =>
    intro t same
    simp only [destroyReinstated, wp_bind, wp_attempt]
    refine wp_mono reinstateSandbox_spec ?_ ?_ fun _ _ h => h.elim
    · rintro sandbox u rfl
      simp only [destroyOrphanSandbox, wp_ite, wp_modify, wp_panicWith]
      exact ⟨fun _ => ih _ same, fun _ => trivial⟩
    · rintro e u rfl
      match e with
      | .reinstatementNotImplemented => exact same
      | .stateNotFound _ => exact ih _ same
      | .runtime _ => exact ih _ same

theorem reinstateAndDestroy_spec {sids : List SandboxId} :
    wp (reinstateAndDestroyDbSnapshots env f sids) (untouched s) s := by
  simp only [reinstateAndDestroyDbSnapshots, newRuntime, untouched, wp_bind, wp_ite, wp_storage,
    wp_pure, wp_fromExcept]
  refine ⟨fun _ => ⟨rfl, rfl⟩, fun _ => ?_⟩
  refine ⟨fun _ => trivial, fun _ => ⟨fun _ => trivial, fun _ => ⟨fun _ => trivial, fun _ => ?_⟩⟩⟩
  refine ⟨fun _ => ⟨fun _ _ => ⟨fun _ _ => ?_, fun _ _ => trivial⟩, fun _ _ => trivial⟩,
    fun _ => ⟨rfl, rfl⟩⟩
  exact destroyReinstated_spec

end Helpers

section Functions
variable {pool : Table FunctionId (List Sandbox)} {listed : Multimap FunctionId SandboxId}

/-- The row of a sandbox once a listed function has been dealt with. -/
def touch (env : Env D) (pool : Table FunctionId (List Sandbox))
    (listed : Multimap FunctionId SandboxId) (sid : SandboxId) (row : Option (SnapshotState D))
    (f : FunctionId) : Option (SnapshotState D) :=
  match (held pool f).find? (·.id = sid) with
  | some sandbox => stateOf env sandbox
  | none => if (f, sid) ∈ listed then none else row

theorem touch_own (unique : UniqueIds pool) {sb : Sandbox} (mem : sb ∈ held pool f)
    (row : Option (SnapshotState D)) : touch env pool listed sb.id row f = stateOf env sb := by
  cases found : (held pool f).find? (·.id = sb.id) with
  | some other =>
    have same : other.id = sb.id := by simpa using List.find?_some found
    obtain rfl := (unique f f other (List.mem_of_find?_eq_some found) sb mem same).2
    simp only [touch, found]
  | none => simpa using List.find?_eq_none.mp found sb mem

theorem touch_other (notHeld : sid ∉ heldIds pool f) (row : Option (SnapshotState D)) :
    touch env pool listed sid row f = if (f, sid) ∈ listed then none else row := by
  have none : (held pool f).find? (·.id = sid) = none :=
    List.find?_eq_none.mpr fun sb mem same =>
      notHeld (List.mem_map.mpr ⟨sb, mem, by simpa using same⟩)
  simp only [touch, none]

/-- A listed function gets its rows right; its pairs stay, or go if the pool does not know it. -/
theorem syncListed_spec (smooth : Smooth env) (unique : UniqueIds pool)
    (known : s.snapshots.lookup f = pool.lookup f) :
    wp (syncListed env (f, listed.values f))
      { ok := fun _ t => t.snapshots = s.snapshots.erase f ∧
          (∀ sid, t.tables.snapshots.lookup sid =
            touch env pool listed sid (s.tables.snapshots.lookup sid) f) ∧
          ∀ g sid, (g, sid) ∈ t.tables.snapsPerFunc ↔
            (g, sid) ∈ s.tables.snapsPerFunc ∧ ¬ (g = f ∧ f ∉ pool ∧ (f, sid) ∈ listed)
        err := fun _ _ => True
        panic := fun _ _ => True } s := by
  rw [syncListed, wp_bind]
  refine wp_syncTxn ?_
  simp only [wp_bind, wp_get, wp_modify]
  match look : s.snapshots.lookup f with
  | some sandboxes =>
    have isHeld : held pool f = sandboxes := by simp [held, ← known, look]
    have inPool : f ∈ pool := AList.lookup_isSome.mp (by simp [← known, look])
    have distinct : ∀ a ∈ sandboxes, ∀ b ∈ sandboxes, a.id = b.id → a = b :=
      fun a ha b hb same => (unique f f a (isHeld ▸ ha) b (isHeld ▸ hb) same).2
    simp only [wp_bind, wp_modify]
    refine wp_mono (updateAndForget_spec smooth distinct) ?_ (fun _ _ _ => trivial)
      fun _ _ h => h.elim
    rintro _ t ⟨rfl, upserted, frame⟩
    simp only
    refine wp_mono reinstateAndDestroy_spec ?_ (fun _ _ _ => trivial) fun _ _ _ => trivial
    rintro _ u ⟨tables, frame'⟩
    simp only [removeDbSnapshots, wp_bind, wp_storage, wp_rows smooth]
    have ids : sandboxes.map (·.id) = heldIds pool f := by rw [heldIds, isHeld]
    refine ⟨fun _ => trivial, fun _ => ⟨?_, fun sid => ?_, fun g sid => ?_⟩⟩
    · simp only [frame', frame, Table.erase_insert_self]
    · rw [foldl_removeState.2, tables, ids]
      by_cases own : sid ∈ heldIds pool f
      · obtain ⟨sb, mem, rfl⟩ := List.mem_map.mp own
        simpa [touch_own unique mem, own] using upserted.own sb (isHeld ▸ mem)
      · rw [touch_other own, ← upserted.other sid (ids ▸ own)]
        simp [own]
    · rw [foldl_removeState.1, tables]
      simp [upserted.pairs, inPool]
  | none =>
    have notIn : f ∉ pool := AList.lookup_eq_none.mp (by simp [← known, look])
    have notOwn : ∀ sid, sid ∉ heldIds pool f := by simp [heldIds, held, ← known, look]
    simp only [wp_bind]
    refine wp_mono reinstateAndDestroy_spec ?_ (fun _ _ _ => trivial) fun _ _ _ => trivial
    rintro _ t ⟨tables, frame⟩
    simp only [removeDbSnapshots, removeDbSids, wp_bind, wp_storage, wp_rows smooth]
    refine ⟨fun _ => trivial, fun _ => ⟨fun _ => trivial,
      fun _ => ⟨by rw [frame], fun sid => ?_, fun g sid => ?_⟩⟩⟩
    · rw [foldl_removeSid.1, foldl_removeState.2, tables, touch_other (notOwn sid)]
      simp
    · rw [foldl_removeSid.2, foldl_removeState.1, tables]
      simp [notIn]

/-- A function that only the pool knows gets its pairs and its rows. -/
theorem syncUnlisted_spec (smooth : Smooth env) (unique : UniqueIds pool) :
    wp (syncUnlisted env (f, held pool f))
      { ok := fun _ t =>
          (∀ sb ∈ held pool f, t.tables.snapshots.lookup sb.id = stateOf env sb) ∧
          (∀ sid ∉ heldIds pool f,
            t.tables.snapshots.lookup sid = s.tables.snapshots.lookup sid) ∧
          ∀ g sid, (g, sid) ∈ t.tables.snapsPerFunc ↔
            (g, sid) ∈ s.tables.snapsPerFunc ∨ (g = f ∧ sid ∈ heldIds pool f)
        err := fun _ _ => True
        panic := fun _ _ => True } s := by
  rw [syncUnlisted]
  refine wp_syncTxn ?_
  simp only [updateDbSids, wp_bind, wp_storage, wp_rows smooth, wp_modify]
  refine ⟨fun _ => trivial, fun _ => ?_⟩
  refine wp_mono (updateAndForget_spec smooth fun a ha b hb same => (unique f f a ha b hb same).2) ?_
    (fun _ _ _ => trivial) fun _ _ h => h.elim
  rintro _ t ⟨-, upserted, -⟩
  refine ⟨upserted.own, fun sid notOwn => ?_, fun g sid => ?_⟩
  · rw [upserted.other sid notOwn, foldl_insertSid.1]
  · rw [upserted.pairs, foldl_insertSid.2]
    rfl

theorem syncListed_loop (smooth : Smooth env) (unique : UniqueIds pool) {order : List FunctionId}
    (distinct : order.Nodup) (known : ∀ f ∈ order, s.snapshots.lookup f = pool.lookup f) :
    wp (forM (order.map fun f => (f, listed.values f)) (syncListed env))
      { ok := fun _ t =>
          (∀ f, t.snapshots.lookup f = if f ∈ order then none else s.snapshots.lookup f) ∧
          (∀ sid, t.tables.snapshots.lookup sid =
            order.foldl (touch env pool listed sid) (s.tables.snapshots.lookup sid)) ∧
          ∀ g sid, (g, sid) ∈ t.tables.snapsPerFunc ↔
            (g, sid) ∈ s.tables.snapsPerFunc ∧ ¬ (g ∈ order ∧ g ∉ pool ∧ (g, sid) ∈ listed)
        err := fun _ _ => True
        panic := fun _ _ => True } s := by
  induction order generalizing s with
  | nil => exact ⟨by simp, by simp, by simp⟩
  | cons f rest ih =>
    obtain ⟨notIn, distinct⟩ := List.nodup_cons.mp distinct
    rw [List.map_cons, List.forM_cons]
    refine wp_seq (syncListed_spec smooth unique (known f (by simp))) ?_ (fun _ _ h => h)
      fun _ _ h => h
    rintro _ t ⟨frame, rows, pairs⟩
    have still : ∀ g ∈ rest, t.snapshots.lookup g = pool.lookup g := fun g mem => by
      rw [frame, Table.lookup_erase_ite, if_neg (ne_of_mem_of_not_mem mem notIn)]
      exact known g (by simp [mem])
    refine wp_mono (ih distinct still) ?_ (fun _ _ h => h) fun _ _ h => h
    rintro _ u ⟨frame', rows', pairs'⟩
    refine ⟨fun g => ?_, fun sid => by rw [rows', rows, List.foldl_cons], fun g sid => ?_⟩
    · rw [frame', frame, Table.lookup_erase_ite]
      grind
    · rw [pairs', pairs]
      grind

theorem syncUnlisted_loop (smooth : Smooth env) (unique : UniqueIds pool)
    {functions : List FunctionId} :
    wp (forM (functions.map fun f => (f, held pool f)) (syncUnlisted env))
      { ok := fun _ t =>
          (∀ f ∈ functions, ∀ sb ∈ held pool f,
            t.tables.snapshots.lookup sb.id = stateOf env sb) ∧
          (∀ sid, (∀ f ∈ functions, sid ∉ heldIds pool f) →
            t.tables.snapshots.lookup sid = s.tables.snapshots.lookup sid) ∧
          ∀ g sid, (g, sid) ∈ t.tables.snapsPerFunc ↔
            (g, sid) ∈ s.tables.snapsPerFunc ∨ (g ∈ functions ∧ sid ∈ heldIds pool g)
        err := fun _ _ => True
        panic := fun _ _ => True } s := by
  induction functions generalizing s with
  | nil => exact ⟨by simp, by simp, by simp⟩
  | cons f rest ih =>
    rw [List.map_cons, List.forM_cons]
    refine wp_seq (syncUnlisted_spec smooth unique) ?_ (fun _ _ h => h) fun _ _ h => h
    rintro _ t ⟨own, other, pairs⟩
    refine wp_mono ih ?_ (fun _ _ h => h) fun _ _ h => h
    rintro _ u ⟨own', other', pairs'⟩
    refine ⟨fun g mem sb inG => ?_, fun sid fresh => ?_, fun g sid => ?_⟩
    · by_cases again : ∀ g ∈ rest, sb.id ∉ heldIds pool g
      · rcases List.mem_cons.mp mem with rfl | later
        · rw [other' sb.id again, own sb inG]
        · exact own' g later sb inG
      · obtain ⟨h, later, inIds⟩ : ∃ h ∈ rest, sb.id ∈ heldIds pool h := by simpa using again
        obtain ⟨twin, inLater, same⟩ := List.mem_map.mp inIds
        obtain ⟨-, rfl⟩ := unique h g twin inLater sb inG same
        exact own' h later twin inLater
    · rw [other' sid fun g mem => fresh g (by simp [mem]), other sid (fresh f (by simp))]
    · rw [pairs', pairs]
      grind

/-- The listed functions, in the order in which they are dealt with. -/
def order (env : Env D) (listed : Multimap FunctionId SandboxId) : List FunctionId :=
  listed.orderedKeys env.rank

theorem readDbSpf_spec :
    wp (readDbSpf env)
      { ok := fun r t => t = s ∧
          r = (order env s.tables.snapsPerFunc).map fun f => (f, s.tables.snapsPerFunc.values f)
        err := fun _ _ => True } s := by
  simp only [readDbSpf, wp_bind, wp_storage, wp_get]
  refine ⟨fun _ => trivial, fun _ => ⟨fun _ => trivial, fun _ => ⟨fun _ => trivial, fun _ => ?_⟩⟩⟩
  refine wp_forM (I := (· = s)) rfl ?_ ?_
  · rintro t rfl
    exact ⟨rfl, rfl⟩
  · rintro f - t rfl
    simp only [wp_bind, wp_storage]
    refine ⟨fun _ => trivial, fun _ => wp_forM (I := (· = t)) rfl (fun _ h => h) ?_⟩
    rintro sid - u rfl
    exact wp_storage.mpr ⟨fun _ => trivial, fun _ => rfl⟩

/-- The tables after the sync, from the tables and the pool's snapshots before it. -/
structure SyncedTables (env : Env D) (s : SyncState D) (after : SnapshotTables D) : Prop where
  pairs : ∀ g sid, (g, sid) ∈ after.snapsPerFunc ↔
    if g ∈ order env s.tables.snapsPerFunc then
      g ∈ s.snapshots ∧ (g, sid) ∈ s.tables.snapsPerFunc
    else sid ∈ heldIds s.snapshots g
  unlisted : ∀ g ∉ order env s.tables.snapsPerFunc, ∀ sb ∈ held s.snapshots g,
    after.snapshots.lookup sb.id = stateOf env sb
  listed : ∀ sid, (∀ g ∉ order env s.tables.snapsPerFunc, sid ∉ heldIds s.snapshots g) →
    after.snapshots.lookup sid =
      (order env s.tables.snapsPerFunc).foldl
        (touch env s.snapshots s.tables.snapsPerFunc sid) (s.tables.snapshots.lookup sid)

theorem sync_spec (smooth : Smooth env) (unique : UniqueIds s.snapshots) :
    wp (syncDbSnapshots env)
      { ok := fun _ t => SyncedTables env s t.tables
        err := fun _ _ => True
        panic := fun _ _ => True } s := by
  rw [syncDbSnapshots]
  refine wp_seq readDbSpf_spec ?_ (fun _ _ h => h) fun _ _ h => h.elim
  rintro _ u ⟨same, rfl⟩
  obtain rfl : s = u := same.symm
  refine wp_seq (syncListed_loop smooth unique Multimap.orderedKeys_nodup fun _ _ => rfl) ?_
    (fun _ _ h => h) fun _ _ h => h
  rintro _ t ⟨frame, rows, pairs⟩
  simp only [wp_bind, wp_get]
  -- What is left in the pool are the functions that were not listed.
  have left : ∀ f sandboxes, (f, sandboxes) ∈ t.snapshots.ordered env.rank ↔
      f ∉ order env s.tables.snapsPerFunc ∧ s.snapshots.lookup f = some sandboxes := by
    intro f sandboxes
    rw [Table.mem_ordered, frame]
    split <;> simp [*]
  have entries : t.snapshots.ordered env.rank =
      ((t.snapshots.ordered env.rank).map Prod.fst).map fun f => (f, held s.snapshots f) := by
    rw [List.map_map]
    refine (List.map_id _).symm.trans (List.map_congr_left fun e mem => ?_)
    simp [held, ((left e.1 e.2).mp mem).2]
  have inLeft : ∀ g sid, sid ∈ heldIds s.snapshots g →
      (g ∈ (t.snapshots.ordered env.rank).map Prod.fst ↔ g ∉ order env s.tables.snapsPerFunc) := by
    intro g sid mem
    match look : s.snapshots.lookup g with
    | none => simp [heldIds, held, look] at mem
    | some sandboxes => simp [left, look]
  rw [entries]
  refine wp_mono (syncUnlisted_loop smooth unique) ?_ (fun _ _ h => h) fun _ _ h => h
  rintro _ u ⟨own, other, pairs'⟩
  refine ⟨fun g sid => ?_, fun g unlisted sb mem => ?_, fun sid fresh => ?_⟩
  · have isListed : (g, sid) ∈ s.tables.snapsPerFunc → g ∈ order env s.tables.snapsPerFunc :=
      fun mem => Multimap.mem_orderedKeys.mpr ⟨sid, mem⟩
    rw [pairs', pairs]
    have := inLeft g sid
    grind
  · exact own g ((inLeft g sb.id (List.mem_map_of_mem mem)).mpr unlisted) sb mem
  · rw [other sid fun g mem => ?_, rows]
    obtain ⟨e, inEntries, rfl⟩ := List.mem_map.mp mem
    exact fresh e.1 ((left e.1 e.2).mp inEntries).1

end Functions

end Snapshots
end Snaplace
