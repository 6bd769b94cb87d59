import Snaplace.Foundation.Run
import Snaplace.Foundation.Table
import Snaplace.Worker.Types

/-!
# The snapshot tables and the database writer of the snapshot manager

`SNAPS_PER_FUNC` is a multimap from functions to ids of sandboxes, `SNAPSHOTS` holds the state of a
snapshotted sandbox under its id. Every storage operation may fail, and then changes nothing.

Each message to the writer is one transaction over both tables. Adding a snapshot gives up at the
first storage error; removing one goes on after an error of the first table. The tables are in step
if the sandboxes listed under some function are exactly those whose state is stored.
-/
namespace Snaplace
open Foundation Foundation.Handler

namespace Snapshots

/-- What a sandbox is reinstated from; the id is that of the sandbox. -/
structure SnapshotState (D : Type) where
  id : SandboxId
  data : D
  deriving DecidableEq, Repr

structure SnapshotTables (D : Type) where
  snapsPerFunc : Multimap FunctionId SandboxId
  snapshots : Table SandboxId (SnapshotState D)

namespace SnapshotTables
variable {D : Type}

def insertSid (functionId : FunctionId) (sid : SandboxId) (t : SnapshotTables D) :
    SnapshotTables D :=
  { t with snapsPerFunc := t.snapsPerFunc.insert (functionId, sid) }

def removeSid (functionId : FunctionId) (sid : SandboxId) (t : SnapshotTables D) :
    SnapshotTables D :=
  { t with snapsPerFunc := t.snapsPerFunc.remove functionId sid }

def insertState (sid : SandboxId) (state : SnapshotState D) (t : SnapshotTables D) :
    SnapshotTables D :=
  { t with snapshots := t.snapshots.insert sid state }

def removeState (sid : SandboxId) (t : SnapshotTables D) : SnapshotTables D :=
  { t with snapshots := t.snapshots.erase sid }

end SnapshotTables

variable {D : Type}

/-- Which storage operations of a transaction fail. -/
structure StorageFaults where
  beginWrite : Bool
  openSnapsPerFunc : Bool
  /-- The insertion into, or removal from, `SNAPS_PER_FUNC`. -/
  updateSnapsPerFunc : Bool
  openSnapshots : Bool
  updateSnapshots : Bool
  commit : Bool
  deriving DecidableEq, Repr

/-- Why a transaction is dropped. -/
inductive Abort where
  | storage
  | sandboxIdExists
  deriving DecidableEq, Repr

inductive SnapshotManagerMessage (D : Type) where
  | newSnapshot (functionId : FunctionId) (state : SnapshotState D)
  | snapshotRemoved (functionId : FunctionId) (sandboxId : SandboxId)
  | other
  deriving DecidableEq, Repr

abbrev WriterM (D : Type) : Type → Type := Handler (SnapshotTables D) Abort

def storageOp (fails : Bool) : WriterM D Unit := if fails then throw .storage else pure ()

def writeTxn (faults : StorageFaults) (body : WriterM D Unit) : WriterM D Unit := do
  storageOp faults.beginWrite
  transaction id (fun before _ => before) (storageOp faults.commit) body

scoped instance (functionId : FunctionId) (sid : SandboxId) (t : SnapshotTables D) :
    Decidable ((functionId, sid) ∈ t.snapsPerFunc) :=
  decidable_of_iff (∃ e ∈ t.snapsPerFunc, e = (functionId, sid)) (by simp)

/-- Whether the pair was already there. -/
def insertIntoSnapsPerFunc (faults : StorageFaults) (functionId : FunctionId) (sid : SandboxId) :
    WriterM D Bool := do
  storageOp faults.openSnapsPerFunc
  storageOp faults.updateSnapsPerFunc
  let present := decide ((functionId, sid) ∈ (← get).snapsPerFunc)
  modify (·.insertSid functionId sid)
  pure present

def removeFromSnapsPerFunc (faults : StorageFaults) (functionId : FunctionId) (sid : SandboxId) :
    WriterM D Unit := do
  storageOp faults.openSnapsPerFunc
  storageOp faults.updateSnapsPerFunc
  modify (·.removeSid functionId sid)

def dbNewSnapshot (faults : StorageFaults) (functionId : FunctionId) (state : SnapshotState D) :
    WriterM D Unit :=
  writeTxn faults do
    if ← insertIntoSnapsPerFunc faults functionId state.id then
      throw .sandboxIdExists
    storageOp faults.openSnapshots
    storageOp faults.updateSnapshots
    modify (·.insertState state.id state)

def dbRmSnapshot (faults : StorageFaults) (functionId : FunctionId) (sandboxId : SandboxId) :
    WriterM D Unit :=
  writeTxn faults do
    -- An error here is logged, and the transaction goes on.
    let _ ← attempt (removeFromSnapsPerFunc faults functionId sandboxId)
    storageOp faults.openSnapshots
    storageOp faults.updateSnapshots
    modify (·.removeState sandboxId)

/-- The tables after a message; errors are only logged. -/
def dbWriter (faults : StorageFaults) (msg : SnapshotManagerMessage D) (t : SnapshotTables D) :
    SnapshotTables D :=
  match msg with
  | .newSnapshot functionId state => (dbNewSnapshot faults functionId state t).state
  | .snapshotRemoved functionId sandboxId => (dbRmSnapshot faults functionId sandboxId t).state
  | .other => t

/-- The tables that a message asks for. -/
def SnapshotManagerMessage.apply : SnapshotManagerMessage D → SnapshotTables D → SnapshotTables D
  | .newSnapshot functionId state, t => (t.insertSid functionId state.id).insertState state.id state
  | .snapshotRemoved functionId sandboxId, t =>
    (t.removeSid functionId sandboxId).removeState sandboxId
  | .other, t => t

/-- A sandbox is listed under some function exactly when its state is stored. -/
def InStep (t : SnapshotTables D) : Prop := ∀ s, (∃ f, (f, s) ∈ t.snapsPerFunc) ↔ s ∈ t.snapshots

/-- A message, with the failures of its storage operations. -/
abbrev Delivery (D : Type) : Type := StorageFaults × SnapshotManagerMessage D

/-- The writer handles one message. -/
def write (m : Delivery D) (t : SnapshotTables D) : SnapshotTables D := dbWriter m.1 m.2 t

/-- After the message the tables are in step, and it was done in both tables or in neither. -/
def KeptInStep (t : SnapshotTables D) (m : Delivery D) : Prop :=
  InStep (write m t) ∧ (write m t = t ∨ write m t = m.2.apply t)

namespace StorageFaults

/-- The transaction of a new snapshot commits, if the pair is not there. -/
def NewCommits (faults : StorageFaults) : Prop :=
  faults.beginWrite = false ∧ faults.openSnapsPerFunc = false ∧
    faults.updateSnapsPerFunc = false ∧ faults.openSnapshots = false ∧
    faults.updateSnapshots = false ∧ faults.commit = false

/-- The transaction of a removal commits, whether or not the first table was updated. -/
def RmCommits (faults : StorageFaults) : Prop :=
  faults.beginWrite = false ∧ faults.openSnapshots = false ∧ faults.updateSnapshots = false ∧
    faults.commit = false

def KeepsSid (faults : StorageFaults) : Prop :=
  faults.openSnapsPerFunc = true ∨ faults.updateSnapsPerFunc = true

instance : DecidablePred NewCommits := fun _ => inferInstanceAs (Decidable (_ ∧ _))
instance : DecidablePred RmCommits := fun _ => inferInstanceAs (Decidable (_ ∧ _))
instance : DecidablePred KeepsSid := fun _ => inferInstanceAs (Decidable (_ ∨ _))

end StorageFaults

/-- A removal commits and leaves its sandbox listed: the pair could not be removed, or the sandbox is
also listed under another function, where an earlier removal that was dropped has left it. -/
def Slips (t : SnapshotTables D) : Delivery D → Prop
  | (faults, .snapshotRemoved f s) =>
    faults.RmCommits ∧ ∃ e ∈ t.snapsPerFunc, e.2 = s ∧ (e.1 = f → faults.KeepsSid)
  | _ => False

instance (t : SnapshotTables D) : (m : Delivery D) → Decidable (Slips t m)
  | (_, .snapshotRemoved _ _) => inferInstanceAs (Decidable (_ ∧ _))
  | (_, .newSnapshot _ _) => isFalse id
  | (_, .other) => isFalse id

section Spec
variable {faults : StorageFaults} {t : SnapshotTables D} {f : FunctionId} {s : SandboxId}
  {state : SnapshotState D}

@[simp] theorem wp_storageOp {fails : Bool} {Q : Post (SnapshotTables D) Abort Unit}
    {t : SnapshotTables D} :
    wp (storageOp fails) Q t ↔ (fails = true → Q.err .storage t) ∧ (fails = false → Q.ok () t) := by
  cases fails <;> simp [storageOp]

theorem dbWriter_newSnapshot :
    dbWriter faults (.newSnapshot f state) t =
      if faults.NewCommits ∧ (f, state.id) ∉ t.snapsPerFunc then
        (t.insertSid f state.id).insertState state.id state
      else t := by
  refine state_eq_of_wp ?_
  simp only [dbNewSnapshot, writeTxn, insertIntoSnapsPerFunc, Post.state, wp_bind, wp_storageOp,
    wp_transaction, wp_get, wp_modify, wp_pure, wp_ite, wp_throw, StorageFaults.NewCommits]
  grind

theorem dbWriter_snapshotRemoved :
    dbWriter faults (.snapshotRemoved f s) t =
      if faults.RmCommits then
        (if faults.KeepsSid then t else t.removeSid f s).removeState s
      else t := by
  refine state_eq_of_wp ?_
  simp only [dbRmSnapshot, writeTxn, removeFromSnapsPerFunc, Post.state, wp_bind, wp_storageOp,
    wp_transaction, wp_attempt, wp_modify, StorageFaults.RmCommits, StorageFaults.KeepsSid]
  grind

theorem removeSid_of_not_mem (h : (f, s) ∉ t.snapsPerFunc) : t.removeSid f s = t := by
  have same : t.snapsPerFunc.remove f s = t.snapsPerFunc :=
    List.filter_eq_self.mpr fun e mem => decide_eq_true fun eq => h (eq ▸ mem)
  simp [SnapshotTables.removeSid, same]

theorem inStep_newSnapshot (h : InStep t) :
    InStep ((t.insertSid f state.id).insertState state.id state) := by
  intro s
  simp only [SnapshotTables.insertSid, SnapshotTables.insertState, List.mem_insert_iff,
    Prod.mk.injEq, AList.mem_insert, exists_or, h s]
  simp

/-- A removal leaves the tables in step exactly when it leaves no pair of its sandbox. -/
theorem inStep_removed {u : SnapshotTables D} (h : InStep t)
    (other : ∀ s' ≠ s, ∀ g, (g, s') ∈ u.snapsPerFunc ↔ (g, s') ∈ t.snapsPerFunc)
    (rows : u.snapshots = t.snapshots) :
    InStep (u.removeState s) ↔ ∀ g, (g, s) ∉ u.snapsPerFunc := by
  refine ⟨fun all g mem => ?_, fun gone s' => ?_⟩
  · have stored : s ∈ (u.removeState s).snapshots := (all s).mp ⟨g, mem⟩
    simp [SnapshotTables.removeState] at stored
  · simp only [SnapshotTables.removeState, rows, AList.mem_erase]
    by_cases same : s' = s
    · subst same
      simp [gone]
    · simp [same, other s' same, h s']

theorem inStep_dbWriter_snapshotRemoved (h : InStep t) (commits : faults.RmCommits) :
    InStep (dbWriter faults (.snapshotRemoved f s) t) ↔ ¬ Slips t (faults, .snapshotRemoved f s) := by
  rw [dbWriter_snapshotRemoved, if_pos commits]
  by_cases keeps : faults.KeepsSid
  · rw [if_pos keeps, inStep_removed (u := t) h (fun _ _ _ => Iff.rfl) rfl]
    simp [Slips, commits, keeps]
  · have other : ∀ s' ≠ s, ∀ g,
        (g, s') ∈ (t.removeSid f s).snapsPerFunc ↔ (g, s') ∈ t.snapsPerFunc := by
      intro s' other g
      simp [SnapshotTables.removeSid, other]
    rw [if_neg keeps, inStep_removed (u := t.removeSid f s) h other rfl]
    simp [Slips, commits, keeps, SnapshotTables.removeSid]

/-- A removal that commits in step has taken the pair out, if it was there. -/
theorem write_snapshotRemoved (commits : faults.RmCommits)
    (holds : ¬ Slips t (faults, .snapshotRemoved f s)) :
    dbWriter faults (.snapshotRemoved f s) t = (t.removeSid f s).removeState s := by
  rw [dbWriter_snapshotRemoved, if_pos commits]
  split_ifs with keeps
  · have absent : (f, s) ∉ t.snapsPerFunc := fun mem =>
      holds ⟨commits, (f, s), mem, rfl, fun _ => keeps⟩
    rw [removeSid_of_not_mem absent]
  · rfl

/-- One message keeps the tables in step, and is done in both or in neither, exactly when it does not
slip. -/
theorem keptInStep_iff (h : InStep t) (m : Delivery D) : KeptInStep t m ↔ ¬ Slips t m := by
  obtain ⟨faults, msg⟩ := m
  cases msg with
  | other => simpa [KeptInStep, write, dbWriter, Slips] using h
  | newSnapshot f state =>
    simp only [KeptInStep, write, dbWriter_newSnapshot, Slips, not_false_eq_true, iff_true]
    split_ifs
    · exact ⟨inStep_newSnapshot h, .inr rfl⟩
    · exact ⟨h, .inl rfl⟩
  | snapshotRemoved f s =>
    by_cases commits : faults.RmCommits
    · refine ⟨fun kept => (inStep_dbWriter_snapshotRemoved h commits).mp kept.1, fun holds => ?_⟩
      exact ⟨(inStep_dbWriter_snapshotRemoved h commits).mpr holds,
        .inr (write_snapshotRemoved commits holds)⟩
    · have dropped : write (faults, .snapshotRemoved f s) t = t := by
        simp [write, dbWriter_snapshotRemoved, commits]
      simp [KeptInStep, dropped, h, Slips, commits]

end Spec

/-- From tables in step, every message keeps them so exactly when no removal of the run slips. -/
theorem tables_in_step_iff (messages : List (Delivery D)) (t : SnapshotTables D)
    (start : InStep t) :
    AllSteps write KeptInStep messages t ↔ AllSteps write (fun t m => ¬ Slips t m) messages t :=
  allSteps_congr (fun _ m holds _ => keptInStep_iff holds m)
    (fun _ m holds _ calm => ((keptInStep_iff holds m).mpr calm).1) start (allSteps_true messages t)

def noFaults : StorageFaults := ⟨false, false, false, false, false, false⟩

def emptyTables : SnapshotTables Unit := { snapsPerFunc := [], snapshots := ∅ }

theorem emptyTables_inStep : InStep emptyTables := fun s => by simp [emptyTables]

/-- A sandbox is removed and comes back under another function; a last message is dropped. -/
theorem tables_in_step_calm :
    let messages : List (Delivery Unit) :=
      [(noFaults, .newSnapshot 1 ⟨5, ()⟩), (noFaults, .snapshotRemoved 1 5),
        (noFaults, .newSnapshot 2 ⟨5, ()⟩),
        ({ noFaults with updateSnapshots := true }, .snapshotRemoved 2 5)]
    AllSteps write KeptInStep messages emptyTables := by
  intro messages
  exact (tables_in_step_iff messages emptyTables emptyTables_inStep).mpr (by decide)

/-- A snapshot is created and removed, and only its removal from `SNAPS_PER_FUNC` fails. -/
theorem removed_snapshot_listed :
    let messages : List (Delivery Unit) :=
      [(noFaults, .newSnapshot 1 ⟨5, ()⟩),
        ({ noFaults with updateSnapsPerFunc := true }, .snapshotRemoved 1 5)]
    InStep emptyTables ∧ ¬ AllSteps write (fun t m => InStep (write m t)) messages emptyTables := by
  intro messages
  refine ⟨emptyTables_inStep, fun all => ?_⟩
  have stored : 5 ∈ (write messages[1] (write messages[0] emptyTables)).snapshots :=
    (all.2.1 5).mp ⟨1, by decide⟩
  revert stored
  decide

end Snapshots
end Snaplace
