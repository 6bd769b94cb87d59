import Snaplace.Snapshots.Writer

/-!
# Snapshots across a restart

At shutdown the pool brings the two snapshot tables in line with the snapshots it holds, one
transaction for each function; at the next boot it reinstates what the tables list. The runtime and
the failures of the single storage operations are given by an environment.
-/
namespace Snaplace
open Foundation Foundation.Handler

namespace Snapshots
variable {D : Type}

inductive SyncError where
  | database (msg : String)
  | runtime (msg : String) (source : SourceError)
  deriving DecidableEq, Repr

inductive AuxError where
  | reinstatementNotImplemented
  | stateNotFound (sid : SandboxId)
  | runtime (err : SyncError)
  deriving DecidableEq, Repr

/-- The helper that a storage operation is part of. -/
inductive Helper where
  | updateAndForgetTrackedSnapshots
  | reinstateAndDestroyDbSnapshots
  | removeDbSnapshots
  | removeDbSids
  | updateDbSids
  | reinstateSnapshotsFromDb
  deriving DecidableEq, Repr

inductive StorageOp where
  | beginRead
  | openForRead (table : String)
  | iterate (table : String)
  | length (table : String)
  | readEntry (functionId : FunctionId)
  | readSid (functionId : FunctionId) (sid : SandboxId)
  | beginWrite (functionId : FunctionId)
  | openTable (helper : Helper) (functionId : FunctionId) (table : String)
  | getFunction (functionId : FunctionId)
  /-- An operation on one row. -/
  | row (helper : Helper) (functionId : FunctionId) (sid : SandboxId)
  | commit (functionId : FunctionId)
  deriving DecidableEq, Repr

structure Env (D : Type) where
  /-- The order in which the hash maps are traversed. -/
  rank : FunctionId → Nat
  fails : StorageOp → Bool
  /-- The keys of table `FUNCTIONS`. -/
  functions : List FunctionId
  /-- The functions of the metadata store. -/
  stored : List FunctionId
  runtimeNew : FunctionId → Except SourceError Unit
  runtimeInit : FunctionId → Except SourceError Unit
  snapshotState : Sandbox → Option (Except SourceError (SnapshotState D))
  reinstateSandbox : FunctionId → SnapshotState D → Option (Except SourceError Sandbox)

structure SyncState (D : Type) where
  tables : SnapshotTables D
  /-- The pool's snapshots. -/
  snapshots : Table FunctionId (List Sandbox)
  /-- What has been reinstated in order to be destroyed. -/
  destroyed : List Sandbox

abbrev SyncM (D : Type) : Type → Type := Handler (SyncState D) SyncError

variable (env : Env D)

def storage {ε : Type} (err : ε) (op : StorageOp) : Handler (SyncState D) ε Unit :=
  if env.fails op then throw err else pure ()

def updateTables {ε : Type} (change : SnapshotTables D → SnapshotTables D) :
    Handler (SyncState D) ε Unit :=
  modify fun s => { s with tables := change s.tables }

/-- A failure of an operation on one row is only logged. -/
def tryRow (op : StorageOp) (change : SnapshotTables D → SnapshotTables D) : SyncM D Unit :=
  if env.fails op then pure () else updateTables change

/-- The functions listed in `SNAPS_PER_FUNC` with their sandbox ids, as traversed afterwards. -/
def readDbSpf : SyncM D (List (FunctionId × List SandboxId)) := do
  storage env (.database "failed to open read txn") .beginRead
  storage env (.database "failed to open table SNAPS_PER_FUNC") (.openForRead "SNAPS_PER_FUNC")
  storage env (.database "failed to loop through table SNAPS_PER_FUNC") (.iterate "SNAPS_PER_FUNC")
  let listed := (← get).tables.snapsPerFunc
  forM listed.keys fun functionId => do
    storage env (.database "failed while looping through table SNAPS_PER_FUNC")
      (.readEntry functionId)
    forM (listed.values functionId) fun sid =>
      storage env (.database "failed to read Sandbox ID") (.readSid functionId sid)
  pure ((listed.orderedKeys env.rank).map fun functionId =>
    (functionId, listed.values functionId))

/-- The ids whose states were written; nothing if the runtime has no snapshot states. -/
def upsertStates (functionId : FunctionId) :
    List Sandbox → List SandboxId → SyncM D (Option (List SandboxId))
  | [], processed => pure (some processed)
  | sandbox :: rest, processed =>
    match env.snapshotState sandbox with
    | none => pure none
    | some (.error _) => upsertStates functionId rest processed
    | some (.ok state) =>
      if env.fails (.row .updateAndForgetTrackedSnapshots functionId sandbox.id) then
        upsertStates functionId rest processed
      else do
        updateTables (·.insertState sandbox.id state)
        upsertStates functionId rest (processed ++ [state.id])

/-- What is left of the sandboxes and of the ids. -/
def updateAndForgetTrackedSnapshots (functionId : FunctionId) (sandboxes : List Sandbox)
    (dbSids : List SandboxId) : SyncM D (List Sandbox × List SandboxId) := do
  storage env (.database "failed to open table SNAPSHOTS")
    (.openTable .updateAndForgetTrackedSnapshots functionId "SNAPSHOTS")
  match ← upsertStates env functionId sandboxes [] with
  | none => pure (sandboxes, dbSids)
  | some processed =>
    pure (sandboxes.filter (·.id ∉ processed), dbSids.filter (· ∉ processed))

def removeDbSnapshots (functionId : FunctionId) (sids : List SandboxId) : SyncM D Unit := do
  storage env (.database "failed to open table SNAPSHOTS")
    (.openTable .removeDbSnapshots functionId "SNAPSHOTS")
  forM sids fun sid => tryRow env (.row .removeDbSnapshots functionId sid) (·.removeState sid)

def removeDbSids (functionId : FunctionId) (sids : List SandboxId) : SyncM D Unit := do
  storage env (.database "failed to open table SNAPS_PER_FUNC")
    (.openTable .removeDbSids functionId "SNAPS_PER_FUNC")
  forM sids fun sid => tryRow env (.row .removeDbSids functionId sid) (·.removeSid functionId sid)

def updateDbSids (functionId : FunctionId) (sids : List SandboxId) : SyncM D Unit := do
  storage env (.database "failed to open table SNAPS_PER_FUNC")
    (.openTable .updateDbSids functionId "SNAPS_PER_FUNC")
  forM sids fun sid => tryRow env (.row .updateDbSids functionId sid) (·.insertSid functionId sid)

/-- The sandbox of a stored state, made anew by the runtime. -/
def reinstateSandbox (functionId : FunctionId) (sid : SandboxId) (helper : Helper) :
    Handler (SyncState D) AuxError Sandbox := do
  storage env (.runtime (.database s!"failed to read SnapshotState for '{sid}'"))
    (.row helper functionId sid)
  match (← get).tables.snapshots.lookup sid with
  | none => throw (.stateNotFound sid)
  | some state =>
    match env.reinstateSandbox functionId state with
    | some (.ok sandbox) => pure sandbox
    | some (.error err) => throw (.runtime (.runtime "failed to reinstate Sandbox" err))
    | none => throw .reinstatementNotImplemented

def newRuntime (functionId : FunctionId) : SyncM D Unit := do
  fromExcept ((env.runtimeNew functionId).mapError
    (.runtime "failed to create new Runtime instance"))
  fromExcept ((env.runtimeInit functionId).mapError (.runtime "failed to initialiaze Runtime"))

/-- Its errors are only logged; it needs the function's metadata. -/
def destroyOrphanSandbox (functionId : FunctionId) (sandbox : Sandbox) : SyncM D Unit :=
  if functionId ∈ env.stored then
    modify fun s => { s with destroyed := s.destroyed ++ [sandbox] }
  else panicWith "function should already exist"

def destroyReinstated (functionId : FunctionId) : List SandboxId → SyncM D Unit
  | [] => pure ()
  | sid :: rest => do
    match ← attempt (reinstateSandbox env functionId sid .reinstateAndDestroyDbSnapshots) with
    | .ok sandbox => do
      destroyOrphanSandbox env functionId sandbox
      destroyReinstated functionId rest
    | .error .reinstatementNotImplemented => pure ()
    | .error _ => destroyReinstated functionId rest

def reinstateAndDestroyDbSnapshots (functionId : FunctionId) (sids : List SandboxId) :
    SyncM D Unit := do
  if sids = [] then pure () else do
  storage env (.database "failed to open table FUNCTIONS")
    (.openTable .reinstateAndDestroyDbSnapshots functionId "FUNCTIONS")
  storage env (.database "failed to open table SNAPSHOTS")
    (.openTable .reinstateAndDestroyDbSnapshots functionId "SNAPSHOTS")
  storage env (.database s!"failed to read FunctionInfo for '{functionId}'")
    (.getFunction functionId)
  if functionId ∈ env.functions then do
    newRuntime env functionId
    destroyReinstated env functionId sids
  else pure ()

def syncTxn (functionId : FunctionId) (body : SyncM D Unit) : SyncM D Unit := do
  storage env (.database "failed to open write txn") (.beginWrite functionId)
  transaction (·.tables) (fun before s => { s with tables := before })
    (storage env (.database "failed to commit txn to snapshot tables") (.commit functionId)) body

/-- A function that is listed in the database, and forgotten by the pool afterwards. -/
def syncListed (entry : FunctionId × List SandboxId) : SyncM D Unit := do
  let (functionId, sids) := entry
  syncTxn env functionId do
    match (← get).snapshots.lookup functionId with
    | some sandboxes => do
      let (remaining, sids) ← updateAndForgetTrackedSnapshots env functionId sandboxes sids
      modify fun s => { s with snapshots := s.snapshots.insert functionId remaining }
      reinstateAndDestroyDbSnapshots env functionId sids
      removeDbSnapshots env functionId sids
    | none => do
      reinstateAndDestroyDbSnapshots env functionId sids
      removeDbSnapshots env functionId sids
      removeDbSids env functionId sids
  modify fun s => { s with snapshots := s.snapshots.erase functionId }

/-- A function that only the pool knows. -/
def syncUnlisted (entry : FunctionId × List Sandbox) : SyncM D Unit := do
  let (functionId, sandboxes) := entry
  syncTxn env functionId do
    updateDbSids env functionId (sandboxes.map (·.id))
    let (remaining, _) ← updateAndForgetTrackedSnapshots env functionId sandboxes []
    modify fun s => { s with snapshots := s.snapshots.insert functionId remaining }

def syncDbSnapshots : SyncM D Unit := do
  forM (← readDbSpf env) (syncListed env)
  forM ((← get).snapshots.ordered env.rank) (syncUnlisted env)

/-- What has been reinstated, and whether to go on: not after a runtime that reinstates nothing. -/
abbrev Reinstated : Type := Table FunctionId (List Sandbox) × Bool

def reinstateListed (functionId : FunctionId) :
    List SandboxId → Table FunctionId (List Sandbox) → SyncM D Reinstated
  | [], snapshots => pure (snapshots, true)
  | sid :: rest, snapshots => do
    match ← attempt (reinstateSandbox env functionId sid .reinstateSnapshotsFromDb) with
    | .ok sandbox =>
      reinstateListed functionId rest
        (snapshots.insert functionId ((snapshots.lookup functionId).getD [] ++ [sandbox]))
    | .error .reinstatementNotImplemented => pure (snapshots, false)
    | .error _ => reinstateListed functionId rest snapshots

def reinstateFunctions (listed : Multimap FunctionId SandboxId) :
    List FunctionId → Table FunctionId (List Sandbox) → SyncM D (Table FunctionId (List Sandbox))
  | [], snapshots => pure snapshots
  | functionId :: rest, snapshots => do
    storage env (.database "failed to read Sandbox IDs from database") (.readEntry functionId)
    storage env (.database "failed to read Function from database") (.getFunction functionId)
    if functionId ∈ env.functions then do
      newRuntime env functionId
      match ← reinstateListed env functionId (listed.values functionId) snapshots with
      | (snapshots, true) => reinstateFunctions listed rest snapshots
      | (snapshots, false) => pure snapshots
    else reinstateFunctions listed rest snapshots

/-- A table that does not exist is an empty one here: it gives nothing to reinstate either. -/
def reinstateSnapshotsFromDb : SyncM D (Table FunctionId (List Sandbox)) := do
  storage env (.database "failed to begin read txn") .beginRead
  storage env (.database "failed to open table FUNCTIONS") (.openForRead "FUNCTIONS")
  storage env (.database "failed to open table SNAPS_PER_FUNC") (.openForRead "SNAPS_PER_FUNC")
  storage env (.database "failed to open table SNAPSHOTS") (.openForRead "SNAPSHOTS")
  storage env (.database "failed to retrieve length of table SNAPSHOTS") (.length "SNAPSHOTS")
  storage env (.database "failed to iterate through table SNAPS_PER_FUNC")
    (.iterate "SNAPS_PER_FUNC")
  let listed := (← get).tables.snapsPerFunc
  reinstateFunctions env listed listed.keys ∅

end Snapshots
end Snaplace
