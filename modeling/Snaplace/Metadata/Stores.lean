import Snaplace.Foundation.Refinement
import Snaplace.Foundation.RwLock
import Snaplace.Metadata.Persistence
import Snaplace.Pool.Workers

/-!
# The two stores of function metadata

Each function has its registered data and three sets of workers. `StdHashMapFmdStore` keeps the
functions in a hash map behind one lock, `DashMapStore` in a concurrent map whose entries are locked
one by one. A search for the function of a worker goes through the map in an order that is not
specified: it is an argument here, and may be another in every call.
-/
namespace Snaplace
open Foundation Foundation.Handler
open Metadata (RegisteredFunction)
open Persistence (Runtime)
open Pool (Stage StoreError ByteUnit functionPanic)

namespace Stores

/-- The order in which a map is traversed. -/
abbrev Rank : Type := FunctionId → Nat

variable {Info : Type} [Runtime Info]

variable (Info) in
/-- The metadata of a function. -/
structure Fmd where
  registeredFunction : RegisteredFunction Info
  workers : Stage → Finset WorkerId

namespace Fmd

def new (registeredFunction : RegisteredFunction Info) : Fmd Info := ⟨registeredFunction, fun _ => ∅⟩

def insert (fmd : Fmd Info) (stage : Stage) (worker : WorkerId) : Fmd Info :=
  { fmd with workers := Function.update fmd.workers stage (Insert.insert worker (fmd.workers stage)) }

def remove (fmd : Fmd Info) (stage : Stage) (worker : WorkerId) : Fmd Info :=
  { fmd with workers := Function.update fmd.workers stage ((fmd.workers stage).erase worker) }

def workersCount (fmd : Fmd Info) : Nat :=
  (fmd.workers .active).card + (fmd.workers .idle).card + (fmd.workers .dying).card

end Fmd

/-- The functions by their ids. -/
abbrev Map (Info : Type) : Type := Table FunctionId (Fmd Info)

/-- An error of the store, or of a registration. -/
inductive Failure where
  | store (err : StoreError)
  | registration (err : Metadata.Error)
  deriving DecidableEq

variable (Info) in
inductive Reply where
  | unit
  | bool (b : Bool)
  | memory (memory : ByteUnit)
  | registered (function : RegisteredFunction Info)
  | function (function : Option FunctionId)
  | count (n : Nat)
  /-- The items of an iterator, in no order. -/
  | workers (items : Multiset (FunctionId × WorkerId))

inductive Transition where
  | activeToIdle
  | idleToDying
  | activeToDying
  deriving DecidableEq, Repr

namespace Transition

def source : Transition → Stage
  | activeToIdle => .active
  | idleToDying => .idle
  | activeToDying => .active

def target : Transition → Stage
  | activeToIdle => .idle
  | idleToDying => .dying
  | activeToDying => .dying

def notFound (transition : Transition) (worker : WorkerId) : Failure :=
  .store <| .workerNotFound worker <| some <|
    match transition with
    | activeToIdle => "no such Active Worker"
    | idleToDying => "no such Idle Worker"
    | activeToDying => "no such Active Worker"

end Transition

variable (Info) in
/-- The operations of a store. -/
inductive Op where
  | functionExists (functionId : FunctionId)
  | functionMemory (functionId : FunctionId)
  | registeredFunction (functionId : FunctionId)
  | registerFunction (function : RegisteredFunction Info)
  | deregisterFunction (functionId : FunctionId)
  | find (stage : Stage) (worker : WorkerId)
  | findRemove (stage : Stage) (worker : WorkerId)
  | remove (stage : Stage) (worker : WorkerId) (functionId : FunctionId)
  | insert (stage : Stage) (worker : WorkerId) (functionId : FunctionId)
  | num (stage : Stage) (functionId : Option FunctionId)
  | iter (stage : Stage)
  | iterAll
  | transition (transition : Transition) (worker : WorkerId) (functionId : Option FunctionId)

/-! ## Working on a map -/

section Maps
variable {ε : Type}

abbrev MapM (Info : Type) := Handler (Map Info)

/-- The metadata of a function that is there. -/
def fmdOf (functionId : FunctionId) : MapM Info ε (Fmd Info) := do
  expect functionPanic ((← get).lookup functionId)

def setFmd (functionId : FunctionId) (fmd : Fmd Info) : MapM Info ε Unit :=
  modify fun m => m.insert functionId fmd

/-- The first function, in the order of the traversal, that has the worker in a set. -/
def search (rank : Rank) (stage : Stage) (worker : WorkerId) (m : Map Info) : Option FunctionId :=
  (m.ordered rank).findSome? fun (fid, fmd) =>
    if worker ∈ fmd.workers stage then some fid else none

/-- The pairs of a function and a worker of a set. -/
def items (stage : Stage) (m : Map Info) : Multiset (FunctionId × WorkerId) :=
  (Multiset.ofList m.entries).bind fun e => (e.2.workers stage).val.map (Prod.mk e.1)

end Maps

/-! ## A hash map behind a lock -/

namespace StdHashMapFmdStore

def lockPanic : String := "store lock should not be poisoned"

abbrev Store (Info : Type) : Type := RwLock (Map Info)

abbrev StoreM (Info : Type) : Type → Type := Handler (Store Info) Failure

def read {α : Type} : MapM Info Failure α → StoreM Info α := RwLock.read lockPanic

def write {α : Type} : MapM Info Failure α → StoreM Info α := RwLock.write lockPanic

def functionExists (functionId : FunctionId) : StoreM Info Bool :=
  read do return ((← get).lookup functionId).isSome

def functionMemory (functionId : FunctionId) : StoreM Info ByteUnit :=
  read do return Runtime.memory (← fmdOf functionId).registeredFunction.info

def registeredFunction (functionId : FunctionId) : StoreM Info (RegisteredFunction Info) :=
  read do return (← fmdOf functionId).registeredFunction

def registerFunction (function : RegisteredFunction Info) : StoreM Info Unit := do
  let id := Runtime.id function.info
  write do
    if ((← get).lookup id).isSome then
      throw (.registration (.alreadyExists id))
    setFmd id (.new function)

def deregisterFunction (functionId : FunctionId) : StoreM Info (RegisteredFunction Info) :=
  write do
    let some fmd := (← get).lookup functionId | throw (.registration (.notFound functionId))
    if 0 < fmd.workersCount then
      throw (.registration (.inUse functionId s!"{fmd.workersCount} Workers alive"))
    let fmd ← fmdOf functionId
    modify fun m => m.erase functionId
    pure fmd.registeredFunction

def find (rank : Rank) (stage : Stage) (worker : WorkerId) : StoreM Info (Option FunctionId) :=
  read do return search rank stage worker (← get)

def remove (stage : Stage) (worker : WorkerId) (functionId : FunctionId) : StoreM Info Bool :=
  write do
    let fmd ← fmdOf functionId
    setFmd functionId (fmd.remove stage worker)
    pure (decide (worker ∈ fmd.workers stage))

def insert (stage : Stage) (worker : WorkerId) (functionId : FunctionId) : StoreM Info Unit := do
  let inserted ← write do
    let fmd ← fmdOf functionId
    setFmd functionId (fmd.insert stage worker)
    pure (decide (worker ∉ fmd.workers stage))
  if !inserted then
    throw (.store (.workerIdCollision worker))

/-- Look the worker's function up under the read lock, then remove the worker under the other. -/
def findRemove (rank : Rank) (stage : Stage) (worker : WorkerId) :
    StoreM Info (Option FunctionId) := do
  match ← find rank stage worker with
  | some functionId => return if ← remove stage worker functionId then some functionId else none
  | none => pure none

/-- Remove the worker from the first of these functions that has it. -/
def removeFirst (worker : WorkerId) :
    List (FunctionId × Fmd Info) → MapM Info Failure (Option FunctionId)
  | [] => pure none
  | (fid, fmd) :: rest => do
    if worker ∈ fmd.workers .dying then
      setFmd fid (fmd.remove .dying worker)
      pure (some fid)
    else
      removeFirst worker rest

/-- One traversal under the write lock. -/
def findRemoveDyingWorker (rank : Rank) (worker : WorkerId) : StoreM Info (Option FunctionId) :=
  write do removeFirst worker ((← get).ordered rank)

def findRemoveIdleWorker (rank : Rank) (worker : WorkerId) : StoreM Info (Option FunctionId) :=
  findRemove rank .idle worker

def findRemoveActiveWorker (rank : Rank) (worker : WorkerId) : StoreM Info (Option FunctionId) :=
  findRemove rank .active worker

def num (stage : Stage) : Option FunctionId → StoreM Info Nat
  | none => read do return Table.total (fun _ fmd => (fmd.workers stage).card) (← get)
  | some fid => read do return (((← get).lookup fid).map fun fmd => (fmd.workers stage).card).getD 0

def iter (stage : Stage) : StoreM Info (Multiset (FunctionId × WorkerId)) :=
  read do return items stage (← get)

def iterAll : StoreM Info (Multiset (FunctionId × WorkerId)) :=
  read do
    let m ← get
    return items .idle m + items .active m + items .dying m

/-- The part of a transition that holds the write lock. -/
def move (transition : Transition) (worker : WorkerId) (functionId : FunctionId) :
    StoreM Info Unit :=
  write do
    let some fmd := (← get).lookup functionId | throw (.store (.functionNotFound functionId))
    if worker ∉ fmd.workers transition.source then
      throw (transition.notFound worker)
    setFmd functionId (fmd.remove transition.source worker)
    let fmd ← fmdOf functionId
    setFmd functionId (fmd.insert transition.target worker)
    if worker ∈ fmd.workers transition.target then
      throw (.store (.workerIdCollision worker))

def transition (rank : Rank) (transition : Transition) (worker : WorkerId) :
    Option FunctionId → StoreM Info Unit
  | some fid => move transition worker fid
  | none => do
    match ← find rank transition.source worker with
    | some fid => move transition worker fid
    | none => throw (transition.notFound worker)

def workerActiveToIdle (rank : Rank) (worker : WorkerId) (functionId : Option FunctionId) :
    StoreM Info Unit :=
  transition rank .activeToIdle worker functionId

def workerIdleToDying (rank : Rank) (worker : WorkerId) (functionId : Option FunctionId) :
    StoreM Info Unit :=
  transition rank .idleToDying worker functionId

def workerActiveToDying (rank : Rank) (worker : WorkerId) (functionId : Option FunctionId) :
    StoreM Info Unit :=
  transition rank .activeToDying worker functionId

def call (rank : Rank) : Op Info → StoreM Info (Reply Info)
  | .functionExists fid => .bool <$> functionExists fid
  | .functionMemory fid => .memory <$> functionMemory fid
  | .registeredFunction fid => .registered <$> registeredFunction fid
  | .registerFunction function => (fun _ => .unit) <$> registerFunction function
  | .deregisterFunction fid => .registered <$> deregisterFunction fid
  | .find stage worker => .function <$> find rank stage worker
  | .findRemove .idle worker => .function <$> findRemoveIdleWorker rank worker
  | .findRemove .active worker => .function <$> findRemoveActiveWorker rank worker
  | .findRemove .dying worker => .function <$> findRemoveDyingWorker rank worker
  | .remove stage worker fid => .bool <$> remove stage worker fid
  | .insert stage worker fid => (fun _ => .unit) <$> insert stage worker fid
  | .num stage fid => .count <$> num stage fid
  | .iter stage => .workers <$> iter stage
  | .iterAll => .workers <$> iterAll
  | .transition .activeToIdle worker fid => (fun _ => .unit) <$> workerActiveToIdle rank worker fid
  | .transition .idleToDying worker fid => (fun _ => .unit) <$> workerIdleToDying rank worker fid
  | .transition .activeToDying worker fid => (fun _ => .unit) <$> workerActiveToDying rank worker fid

end StdHashMapFmdStore

/-! ## A concurrent map -/

namespace DashMapStore

abbrev StoreM (Info : Type) : Type → Type := MapM Info Failure

def functionExists (functionId : FunctionId) : StoreM Info Bool := do
  return ((← get).lookup functionId).isSome

def functionMemory (functionId : FunctionId) : StoreM Info ByteUnit := do
  return Runtime.memory (← fmdOf functionId).registeredFunction.info

def registeredFunction (functionId : FunctionId) : StoreM Info (RegisteredFunction Info) := do
  return (← fmdOf functionId).registeredFunction

def registerFunction (function : RegisteredFunction Info) : StoreM Info Unit := do
  let id := Runtime.id function.info
  match (← get).lookup id with
  | none => setFmd id (.new function)
  | some _ => throw (.registration (.alreadyExists id))

def deregisterFunction (functionId : FunctionId) : StoreM Info (RegisteredFunction Info) := do
  let some fmd := (← get).lookup functionId | throw (.registration (.notFound functionId))
  if 0 < fmd.workersCount then
    throw (.registration (.inUse functionId s!"{fmd.workersCount} Workers alive"))
  modify fun m => m.erase functionId
  pure fmd.registeredFunction

def find (rank : Rank) (stage : Stage) (worker : WorkerId) : StoreM Info (Option FunctionId) := do
  return search rank stage worker (← get)

def remove (stage : Stage) (worker : WorkerId) (functionId : FunctionId) : StoreM Info Bool := do
  let fmd ← fmdOf functionId
  setFmd functionId (fmd.remove stage worker)
  pure (decide (worker ∈ fmd.workers stage))

def findRemove (rank : Rank) (stage : Stage) (worker : WorkerId) :
    StoreM Info (Option FunctionId) := do
  match ← find rank stage worker with
  | some functionId => return if ← remove stage worker functionId then some functionId else none
  | none => pure none

def insert (stage : Stage) (worker : WorkerId) (functionId : FunctionId) : StoreM Info Unit := do
  let fmd ← fmdOf functionId
  setFmd functionId (fmd.insert stage worker)
  if worker ∈ fmd.workers stage then
    throw (.store (.workerIdCollision worker))

def num (stage : Stage) : Option FunctionId → StoreM Info Nat
  | none => do return Table.total (fun _ fmd => (fmd.workers stage).card) (← get)
  | some fid => do return (((← get).lookup fid).map fun fmd => (fmd.workers stage).card).getD 0

/-- The workers of a set, collected by function. -/
def workersByFunctionId (stage : Stage) (m : Map Info) : Multiset (FunctionId × Multiset WorkerId) :=
  (Multiset.ofList m.entries).map fun e => (e.1, (e.2.workers stage).val)

def iter (stage : Stage) : StoreM Info (Multiset (FunctionId × WorkerId)) := do
  return (workersByFunctionId stage (← get)).bind fun (fid, wids) => wids.map (Prod.mk fid)

def iterAll : StoreM Info (Multiset (FunctionId × WorkerId)) := do
  return (← iter .idle) + (← iter .active) + (← iter .dying)

/-- The part of a transition that holds the entry of the function. -/
def move (transition : Transition) (worker : WorkerId) (functionId : FunctionId) :
    StoreM Info Unit := do
  match (← get).lookup functionId with
  | some fmd =>
    if worker ∉ fmd.workers transition.source then
      throw (transition.notFound worker)
    let removed := fmd.remove transition.source worker
    setFmd functionId (removed.insert transition.target worker)
    if worker ∈ removed.workers transition.target then
      throw (.store (.workerIdCollision worker))
  | none => throw (.store (.functionNotFound functionId))

def transition (rank : Rank) (transition : Transition) (worker : WorkerId) :
    Option FunctionId → StoreM Info Unit
  | some fid => move transition worker fid
  | none => do
    match ← find rank transition.source worker with
    | some fid => move transition worker fid
    | none => throw (transition.notFound worker)

def workerActiveToIdle (rank : Rank) (worker : WorkerId) (functionId : Option FunctionId) :
    StoreM Info Unit :=
  transition rank .activeToIdle worker functionId

def workerIdleToDying (rank : Rank) (worker : WorkerId) (functionId : Option FunctionId) :
    StoreM Info Unit :=
  transition rank .idleToDying worker functionId

def workerActiveToDying (rank : Rank) (worker : WorkerId) (functionId : Option FunctionId) :
    StoreM Info Unit :=
  transition rank .activeToDying worker functionId

def call (rank : Rank) : Op Info → StoreM Info (Reply Info)
  | .functionExists fid => .bool <$> functionExists fid
  | .functionMemory fid => .memory <$> functionMemory fid
  | .registeredFunction fid => .registered <$> registeredFunction fid
  | .registerFunction function => (fun _ => .unit) <$> registerFunction function
  | .deregisterFunction fid => .registered <$> deregisterFunction fid
  | .find stage worker => .function <$> find rank stage worker
  | .findRemove stage worker => .function <$> findRemove rank stage worker
  | .remove stage worker fid => .bool <$> remove stage worker fid
  | .insert stage worker fid => (fun _ => .unit) <$> insert stage worker fid
  | .num stage fid => .count <$> num stage fid
  | .iter stage => .workers <$> iter stage
  | .iterAll => .workers <$> iterAll
  | .transition .activeToIdle worker fid => (fun _ => .unit) <$> workerActiveToIdle rank worker fid
  | .transition .idleToDying worker fid => (fun _ => .unit) <$> workerIdleToDying rank worker fid
  | .transition .activeToDying worker fid => (fun _ => .unit) <$> workerActiveToDying rank worker fid

end DashMapStore

end Stores
end Snaplace
