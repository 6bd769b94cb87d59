import Snaplace.Snapshots.SyncTables

/-!
# When the snapshots survive a restart

The sync leaves exactly the pool's snapshots in the tables if, for every listed function the pool
knows, the two already agreed, and no function dealt with later lists one of its sandboxes. The
next boot then reinstates exactly what the pool held.
-/
namespace Snaplace
open Foundation Foundation.Handler

namespace Snapshots
variable {D : Type} {env boot : Env D} {s t b : SyncState D} {f g : FunctionId} {sid : SandboxId}
  {pool : Table FunctionId (List Sandbox)} {listed : Multimap FunctionId SandboxId}

/-- The tables list exactly the pool's snapshots with their latest states, and nothing is left of
the others. -/
structure TablesExact (env : Env D) (s : SyncState D) (after : SnapshotTables D) : Prop where
  pairs : ∀ f sid, (f, sid) ∈ after.snapsPerFunc ↔ sid ∈ heldIds s.snapshots f
  states : ∀ f, ∀ sb ∈ held s.snapshots f,
    stateOf env sb ≠ none ∧ after.snapshots.lookup sb.id = stateOf env sb
  stale : ∀ f sid, (f, sid) ∈ s.tables.snapsPerFunc → (∀ g, sid ∉ heldIds s.snapshots g) →
    sid ∉ after.snapshots ∧ ∀ g, (g, sid) ∉ after.snapsPerFunc

/-- What the tables and the pool agree on before the sync. -/
structure InLine (env : Env D) (s : SyncState D) : Prop where
  /-- A listed function that the pool knows lists exactly the pool's snapshots. -/
  same : ∀ f ∈ s.snapshots, ∀ x, (f, x) ∈ s.tables.snapsPerFunc →
    ∀ sid, (f, sid) ∈ s.tables.snapsPerFunc ↔ sid ∈ heldIds s.snapshots f
  /-- A function dealt with later does not list its sandboxes. -/
  later : (order env s.tables.snapsPerFunc).Pairwise fun g f =>
    ∀ sb ∈ held s.snapshots g, (f, sb.id) ∉ s.tables.snapsPerFunc

theorem foldl_touch_of_untouched {functions : List FunctionId} {row : Option (SnapshotState D)}
    (untouched : ∀ f ∈ functions, sid ∉ heldIds pool f ∧ (f, sid) ∉ listed) :
    functions.foldl (touch env pool listed sid) row = row := by
  induction functions generalizing row with
  | nil => rfl
  | cons f rest ih =>
    obtain ⟨notHeld, notListed⟩ := untouched f (by simp)
    rw [List.foldl_cons, touch_other notHeld, if_neg notListed]
    exact ih fun g mem => untouched g (by simp [mem])

/-- Among functions of which none holds it, one that lists the sandbox erases its row. -/
theorem foldl_touch_of_listed {functions : List FunctionId} {row : Option (SnapshotState D)}
    (notHeld : ∀ f ∈ functions, sid ∉ heldIds pool f)
    (isListed : row = none ∨ ∃ f ∈ functions, (f, sid) ∈ listed) :
    functions.foldl (touch env pool listed sid) row = none := by
  induction functions generalizing row with
  | nil => simpa using isListed
  | cons f rest ih =>
    rw [List.foldl_cons, touch_other (notHeld f (by simp))]
    refine ih (fun g mem => notHeld g (by simp [mem])) ?_
    split
    · exact .inl rfl
    · rename_i other
      simpa [other] using isListed

theorem mem_order : f ∈ order env listed ↔ ∃ x, (f, x) ∈ listed := Multimap.mem_orderedKeys

theorem held_nonempty (mem : sid ∈ heldIds pool f) : f ∈ pool := by
  by_contra notIn
  simp [heldIds, held, AList.lookup_eq_none.mpr notIn] at mem

theorem tablesExact_of_inLine (smooth : Smooth env) (unique : UniqueIds s.snapshots)
    {after : SnapshotTables D} (synced : SyncedTables env s after) (inLine : InLine env s) :
    TablesExact env s after := by
  have pairs : ∀ f sid, (f, sid) ∈ after.snapsPerFunc ↔ sid ∈ heldIds s.snapshots f := by
    intro f sid
    rw [synced.pairs]
    split
    · rename_i isListed
      obtain ⟨x, mem⟩ := mem_order.mp isListed
      exact ⟨fun ⟨known, mem'⟩ => (inLine.same f known x mem sid).mp mem',
        fun own => ⟨held_nonempty own, (inLine.same f (held_nonempty own) x mem sid).mpr own⟩⟩
    · rfl
  refine ⟨pairs, fun f sb own => ⟨?_, ?_⟩, fun f sid isListed orphan => ?_⟩
  · obtain ⟨state, reported, -⟩ := smooth.reports sb
    simp [stateOf, reported, Except.toOption]
  · by_cases isListed : f ∈ order env s.tables.snapsPerFunc
    · have owner : ∀ g, sb.id ∈ heldIds s.snapshots g → g = f := by
        intro g mem
        obtain ⟨twin, inG, sameId⟩ := List.mem_map.mp mem
        exact (unique g f twin inG sb own sameId).1
      rw [synced.listed sb.id fun g unlisted mem => unlisted (owner g mem ▸ isListed)]
      obtain ⟨before, afterwards, split⟩ := List.append_of_mem isListed
      have distinct : (order env s.tables.snapsPerFunc).Nodup := Multimap.orderedKeys_nodup
      have later := inLine.later
      rw [split] at distinct later ⊢
      rw [List.foldl_append, List.foldl_cons, touch_own unique own]
      refine foldl_touch_of_untouched fun g mem => ⟨fun inG => ?_, ?_⟩
      · obtain rfl := owner g inG
        exact (List.nodup_cons.mp (List.nodup_append.mp distinct).2.1).1 mem
      · exact List.rel_of_pairwise_cons (List.pairwise_append.mp later).2.1 mem sb own
    · exact synced.unlisted f isListed sb own
  · refine ⟨fun mem => ?_, fun g mem => orphan g ((pairs g sid).mp mem)⟩
    have row := synced.listed sid fun g _ => orphan g
    rw [foldl_touch_of_listed (fun g _ => orphan g)
      (.inr ⟨f, mem_order.mpr ⟨sid, isListed⟩, isListed⟩)] at row
    exact AList.lookup_eq_none.mp row mem

theorem inLine_of_tablesExact (unique : UniqueIds s.snapshots) {after : SnapshotTables D}
    (synced : SyncedTables env s after) (exact_ : TablesExact env s after) : InLine env s := by
  refine ⟨fun f known x mem sid => ?_, ?_⟩
  · rw [← exact_.pairs, synced.pairs, if_pos (mem_order.mpr ⟨x, mem⟩)]
    simp [known]
  · refine List.pairwise_iff_forall_sublist.mpr fun {g f} sub sb own isListed => ?_
    obtain ⟨upTo, later, split, inUpTo, sub⟩ := List.cons_sublist_iff.mp sub
    have inLater : f ∈ later := List.singleton_sublist.mp sub
    have distinct : (order env s.tables.snapsPerFunc).Nodup := Multimap.orderedKeys_nodup
    have owner : ∀ h, sb.id ∈ heldIds s.snapshots h → h = g := by
      intro h mem
      obtain ⟨twin, inH, sameId⟩ := List.mem_map.mp mem
      exact (unique h g twin inH sb own sameId).1
    have inOrder : g ∈ order env s.tables.snapsPerFunc := by simp [split, inUpTo]
    have row := synced.listed sb.id fun h unlisted mem => unlisted (owner h mem ▸ inOrder)
    rw [split] at distinct
    rw [split, List.foldl_append, foldl_touch_of_listed (fun h mem inH => ?_)
      (.inr ⟨f, inLater, isListed⟩)] at row
    · exact (exact_.states g sb own).1 ((exact_.states g sb own).2.symm.trans row)
    · obtain rfl := owner h inH
      exact (List.nodup_append.mp distinct).2.2 h inUpTo h mem rfl

section Boot

/-- What the next boot relies on: rows can be read, the functions with snapshots are registered, and
the runtime reinstates sandboxes. -/
structure BootReady (boot : Env D) (snapshots : Table FunctionId (List Sandbox)) : Prop where
  rows : ∀ helper f sid, boot.fails (.row helper f sid) = false
  registered : ∀ f, held snapshots f ≠ [] → f ∈ boot.functions
  reinstates : ∀ f state, boot.reinstateSandbox f state ≠ none

/-- What the runtime makes of the state stored for a sandbox. -/
def revived (boot : Env D) (T : SnapshotTables D) (f : FunctionId) (sid : SandboxId) :
    Option Sandbox :=
  (T.snapshots.lookup sid).bind fun state => (boot.reinstateSandbox f state).bind (·.toOption)

variable {snapshots : Table FunctionId (List Sandbox)}

theorem held_insert {sandboxes : List Sandbox} :
    held (pool.insert f sandboxes) g = if g = f then sandboxes else held pool g := by
  simp only [held, Table.lookup_insert_ite]
  split <;> rfl

theorem wp_reinstateSandbox (ready : BootReady boot pool) {helper : Helper}
    {Q : Post (SyncState D) AuxError Sandbox}
    (ok : ∀ sb, revived boot b.tables f sid = some sb → Q.ok sb b)
    (err : ∀ e, e ≠ .reinstatementNotImplemented → revived boot b.tables f sid = none → Q.err e b) :
    wp (reinstateSandbox boot f sid helper) Q b := by
  simp only [reinstateSandbox, wp_bind, wp_storage, wp_get, ready.rows]
  refine ⟨by simp, fun _ => ?_⟩
  cases look : b.tables.snapshots.lookup sid with
  | none => exact err _ (by simp) (by simp [revived, look])
  | some state =>
    cases outcome : boot.reinstateSandbox f state with
    | none => exact absurd outcome (ready.reinstates f state)
    | some result =>
      cases result with
      | ok sb =>
        simp only [outcome]
        exact ok sb (by simp [revived, look, outcome, Except.toOption])
      | error e =>
        simp only [outcome]
        exact err _ (by simp) (by simp [revived, look, outcome, Except.toOption])

theorem reinstateListed_spec (ready : BootReady boot pool) {sids : List SandboxId} :
    wp (reinstateListed boot f sids snapshots)
      { ok := fun r t => t = b ∧ r.2 = true ∧ ∀ g, held r.1 g =
          held snapshots g ++ if g = f then sids.filterMap (revived boot b.tables f) else []
        err := fun _ _ => False } b := by
  induction sids generalizing snapshots with
  | nil => exact ⟨rfl, rfl, by simp⟩
  | cons sid rest ih =>
    simp only [reinstateListed, wp_bind, wp_attempt]
    refine wp_reinstateSandbox ready (fun sb found => ?_) fun e implemented missing => ?_
    · refine wp_mono ih ?_ (fun _ _ h => h) fun _ _ h => h
      rintro r t ⟨rfl, more, lists⟩
      refine ⟨rfl, more, fun g => ?_⟩
      rw [lists, held_insert]
      by_cases same : g = f
      · subst same
        simp [found, held]
      · simp [same]
    · have skip : wp (reinstateListed boot f rest snapshots) _ b := ih
      cases e with
      | reinstatementNotImplemented => exact absurd rfl implemented
      | stateNotFound _ => simpa [missing] using skip
      | runtime _ => simpa [missing] using skip

theorem reinstateFunctions_spec (ready : BootReady boot pool) {functions : List FunctionId}
    (distinct : functions.Nodup) :
    wp (reinstateFunctions boot listed functions snapshots)
      { ok := fun r t => t = b ∧ ∀ g, held r g = held snapshots g ++
          if g ∈ functions ∧ g ∈ boot.functions then
            (listed.values g).filterMap (revived boot b.tables g) else []
        err := fun _ _ => True } b := by
  induction functions generalizing snapshots with
  | nil => exact ⟨rfl, by simp⟩
  | cons f rest ih =>
    obtain ⟨notIn, distinct⟩ := List.nodup_cons.mp distinct
    simp only [reinstateFunctions, newRuntime, wp_bind, wp_storage, wp_ite, wp_fromExcept]
    refine ⟨fun _ => trivial, fun _ => ⟨fun _ => trivial, fun _ => ⟨fun known => ?_, fun no => ?_⟩⟩⟩
    · refine ⟨fun _ _ => ⟨fun _ _ => ?_, fun _ _ => trivial⟩, fun _ _ => trivial⟩
      refine wp_mono (reinstateListed_spec ready) ?_ (fun _ _ h => h.elim) fun _ _ h => h
      rintro ⟨r, more⟩ t ⟨rfl, rfl, lists⟩
      refine wp_mono (ih distinct) ?_ (fun _ _ h => h) fun _ _ h => h
      rintro r' u ⟨rfl, lists'⟩
      refine ⟨rfl, fun g => ?_⟩
      rw [lists', lists]
      grind
    · refine wp_mono (ih distinct) ?_ (fun _ _ h => h) fun _ _ h => h
      rintro r t ⟨rfl, lists⟩
      refine ⟨rfl, fun g => ?_⟩
      rw [lists]
      grind

/-- A boot reinstates what the registered functions' pairs and rows say. -/
theorem reinstate_spec (ready : BootReady boot pool) :
    wp (reinstateSnapshotsFromDb boot)
      { ok := fun r _ => ∀ f sb, sb ∈ held r f ↔ f ∈ boot.functions ∧
          ∃ sid, (f, sid) ∈ b.tables.snapsPerFunc ∧ revived boot b.tables f sid = some sb
        err := fun _ _ => True } b := by
  simp only [reinstateSnapshotsFromDb, wp_bind, wp_storage, wp_get]
  refine ⟨fun _ => trivial, fun _ => ⟨fun _ => trivial, fun _ => ⟨fun _ => trivial, fun _ => ?_⟩⟩⟩
  refine ⟨fun _ => trivial, fun _ => ⟨fun _ => trivial, fun _ => ⟨fun _ => trivial, fun _ => ?_⟩⟩⟩
  refine wp_mono (reinstateFunctions_spec ready (List.nodup_dedup _)) ?_ (fun _ _ h => h)
    fun _ _ h => h
  rintro r t ⟨-, lists⟩ f sb
  have empty : held ∅ f = [] := rfl
  rw [lists, empty, List.nil_append]
  by_cases known : f ∈ b.tables.snapsPerFunc.keys ∧ f ∈ boot.functions
  · rw [if_pos known, List.mem_filterMap]
    simp [known.2]
  · rw [if_neg known]
    refine ⟨fun mem => absurd mem List.not_mem_nil, ?_⟩
    rintro ⟨registered, sid, isListed, -⟩
    exact absurd ⟨Multimap.mem_keys.mpr ⟨sid, isListed⟩, registered⟩ known

/-- The next boot reinstates exactly the sandboxes that the pool held. -/
def Restores (env : Env D) (s : SyncState D) (after : SnapshotTables D) : Prop :=
  ∀ boot, BootReady boot s.snapshots → ∀ b r u, b.tables = after →
    reinstateSnapshotsFromDb boot b = .ok r u → ∀ f sb, sb ∈ held r f ↔
      ∃ old ∈ held s.snapshots f, ∃ state, stateOf env old = some state ∧
        boot.reinstateSandbox f state = some (.ok sb)

theorem restores_of_tablesExact {after : SnapshotTables D} (exact_ : TablesExact env s after) :
    Restores env s after := by
  rintro boot ready b r u rfl ran f sb
  have spec := reinstate_spec (b := b) ready
  unfold wp at spec
  rw [ran] at spec
  rw [spec f sb]
  constructor
  · rintro ⟨-, sid, isListed, back⟩
    obtain ⟨old, own, rfl⟩ := List.mem_map.mp ((exact_.pairs f sid).mp isListed)
    rw [revived, (exact_.states f old own).2] at back
    obtain ⟨state, found, back⟩ := Option.bind_eq_some_iff.mp back
    obtain ⟨outcome, made, back⟩ := Option.bind_eq_some_iff.mp back
    cases outcome with
    | ok sb' =>
      obtain rfl : sb' = sb := by simpa [Except.toOption] using back
      exact ⟨old, own, state, found, made⟩
    | error _ => cases back
  · rintro ⟨old, own, state, found, made⟩
    refine ⟨ready.registered f (List.ne_nil_of_mem own), old.id, ?_, ?_⟩
    · exact (exact_.pairs f old.id).mpr (List.mem_map_of_mem own)
    · simp [revived, (exact_.states f old own).2, found, made, Except.toOption]

end Boot

/-- After a sync that returns `Ok`, its row operations having succeeded, the tables are exact if and
only if they were in line with the pool before; they then restore the pool's snapshots. -/
theorem snapshots_synced_iff (smooth : Smooth env) (unique : UniqueIds s.snapshots)
    (ran : syncDbSnapshots env s = .ok () t) :
    (TablesExact env s t.tables ↔ InLine env s) ∧
      (TablesExact env s t.tables → Restores env s t.tables) := by
  have synced := sync_spec smooth unique
  unfold wp at synced
  rw [ran] at synced
  exact ⟨⟨inLine_of_tablesExact unique synced, tablesExact_of_inLine smooth unique synced⟩,
    restores_of_tablesExact⟩

section Runs

def calmEnv : Env Unit where
  rank f := f
  fails _ := false
  functions := [1, 2]
  stored := [1, 2]
  runtimeNew _ := .ok ()
  runtimeInit _ := .ok ()
  snapshotState sandbox := some (.ok ⟨sandbox.id, ()⟩)
  reinstateSandbox _ state := some (.ok ⟨state.id, true, ⟨0, 0⟩⟩)

theorem calmEnv_smooth : Smooth calmEnv where
  rows _ _ _ := rfl
  reports _ := ⟨_, rfl, rfl⟩

def snapshotted (id : SandboxId) : Sandbox := ⟨id, true, ⟨0, 0⟩⟩

/-- One function is listed as the pool holds it, one is known to the pool only. -/
def knownState : SyncState Unit where
  tables :=
    { snapsPerFunc := [(1, 10)]
      snapshots := (∅ : Table SandboxId (SnapshotState Unit)).insert 10 ⟨10, ()⟩ }
  snapshots :=
    AList.insert 2 [snapshotted 20] ((∅ : Table FunctionId (List Sandbox)).insert 1 [snapshotted 10])
  destroyed := []

/-- The pool has made a second snapshot of a function that the database lists. -/
def grownState : SyncState Unit where
  tables := knownState.tables
  snapshots := (∅ : Table FunctionId (List Sandbox)).insert 1 [snapshotted 10, snapshotted 11]
  destroyed := []

theorem uniqueIds_known : UniqueIds knownState.snapshots := by
  have empty : ∀ f, held ∅ f = [] := fun _ => rfl
  intro f g a ha b hb same
  simp only [knownState, held_insert, empty] at ha hb
  grind [snapshotted]

theorem uniqueIds_grown : UniqueIds grownState.snapshots := by
  have empty : ∀ f, held ∅ f = [] := fun _ => rfl
  intro f g a ha b hb same
  simp only [grownState, held_insert, empty] at ha hb
  grind [snapshotted]

theorem inLine_known : InLine calmEnv knownState where
  same f _ x mem sid := by
    obtain ⟨rfl, rfl⟩ : f = 1 ∧ x = 10 := by simpa [knownState] using mem
    have ids : heldIds knownState.snapshots 1 = [10] := by decide
    rw [ids]
    simp [knownState]
  later := by decide

theorem snapshots_synced_calm : ∃ t, syncDbSnapshots calmEnv knownState = .ok () t ∧
    TablesExact calmEnv knownState t.tables :=
  ⟨_, rfl, (snapshots_synced_iff calmEnv_smooth uniqueIds_known rfl).1.mpr inLine_known⟩

/-- The new snapshot has a row afterwards, but is not listed. -/
theorem new_snapshot_unlisted : ∃ t, syncDbSnapshots calmEnv grownState = .ok () t ∧
    Smooth calmEnv ∧ UniqueIds grownState.snapshots ∧ ¬ TablesExact calmEnv grownState t.tables := by
  refine ⟨_, rfl, calmEnv_smooth, uniqueIds_grown, fun exact_ => ?_⟩
  have isListed := (exact_.pairs 1 11).mpr (by decide)
  revert isListed
  decide

end Runs

end Snapshots
end Snaplace
