import Snaplace.Pool.Types

/-!
# Registering and deregistering a function

A registered function is in three places that concurrent calls share: the metadata store, the table
`FUNCTIONS` of the database and the rootfs registry of the runtime. Each handler below is one step
of a call; nothing is locked from one step to the next.
-/
namespace Snaplace
open Foundation Foundation.Handler
open Pool (ByteUnit)

namespace Metadata

structure FcFunctionInfo where
  id : FunctionId
  memory : ByteUnit
  vcpuCount : Nat
  entrypoint : String
  deriving DecidableEq, Repr

structure RegisteredFunction (Info : Type) where
  info : Info
  admission : Option Admission.FunctionAdmissionOverrides
  deriving DecidableEq, Repr

/-- Errors of registration; the texts are those of the errors they wrap. -/
inductive Error where
  | deserProto3 (err : String)
  | decodeB64 (err : String)
  | deserJson (err : String)
  | missingField (field : String)
  | notFound (function : FunctionId)
  | alreadyExists (function : FunctionId)
  | inUse (function : FunctionId) (msg : String)
  | runtime (msg : String) (err : Option String)
  | database (msg : String) (err : String)
  deriving DecidableEq, Repr

inductive Code where
  | invalidArgument
  | notFound
  | alreadyExists
  | failedPrecondition
  | internal
  | dataLoss
  deriving DecidableEq, Repr

structure Status where
  code : Code
  message : String
  deriving DecidableEq, Repr

namespace Error

def display : Error → String
  | deserProto3 _ => "failed to deserialize protobuf"
  | decodeB64 _ => "failed to decode base64"
  | deserJson _ => "failed to deserialize JSON"
  | missingField field => s!"provided input missing field: '{field}'"
  | notFound function => s!"Function '{function}' not found in FunctionMetadataStore"
  | alreadyExists function => s!"Function '{function}' is already stored in FunctionMetadataStore"
  | inUse function msg => s!"Function '{function}' is currently in use: {msg}"
  | runtime msg _ => s!"runtime failure during Function registration: {msg}"
  | database msg _ => s!"database error at Function registration: {msg}"

def toStatus (err : Error) : Status :=
  match err with
  | deserProto3 source => ⟨.invalidArgument, s!"failed to deserialize protobuf: {source}"⟩
  | decodeB64 source => ⟨.invalidArgument, s!"failed to decode base64: {source}"⟩
  | deserJson source => ⟨.invalidArgument, s!"failed to deserialize JSON: {source}"⟩
  | missingField _ => ⟨.invalidArgument, err.display⟩
  | notFound _ => ⟨.notFound, err.display⟩
  | alreadyExists _ => ⟨.alreadyExists, err.display⟩
  | inUse _ _ => ⟨.failedPrecondition, err.display⟩
  | runtime msg source =>
    let details := source.elim "None" fun text => s!"Some({text})"
    ⟨.internal, s!"runtime failure during Function registration: {msg}: (details: {details})"⟩
  | database msg source =>
    ⟨.dataLoss, s!"database failure at Function registration: {msg}: (details: {source})"⟩

end Error

/-- What the calls share. -/
structure Registrar where
  store : Table FunctionId (RegisteredFunction FcFunctionInfo)
  /-- The table `FUNCTIONS`. -/
  functions : Table FunctionId (RegisteredFunction FcFunctionInfo)
  /-- The path of each function's rootfs image. -/
  rootfsRegistry : Table FunctionId String

abbrev RegistrarM : Type → Type := Handler Registrar Error

structure Config where
  uvmsRootfsPath : String
  /-- What stands before the first dash in the text of an id. -/
  idPrefix : FunctionId → Option String
  /-- How a number of bytes is printed. -/
  showBytes : ByteUnit → String

/-! ## The database -/

/-- The error that each operation of a write transaction ends with, if it fails. -/
structure WriteFaults where
  beginWrite : Option String
  openTable : Option String
  update : Option String
  commit : Option String
  deriving DecidableEq, Repr

def WriteFaults.none : WriteFaults := ⟨.none, .none, .none, .none⟩

def storageOp {σ : Type} (msg : String) : Option String → Handler σ Error Unit
  | some err => throw (.database msg err)
  | none => pure ()

/-- A write transaction on the table `FUNCTIONS` of the state. -/
def writeTxn {σ τ : Type} (functions : σ → τ) (restore : τ → σ → σ) (faults : WriteFaults)
    (body : Handler σ Error Unit) : Handler σ Error Unit := do
  storageOp "failed to open write txn" faults.beginWrite
  transaction functions restore (storageOp "failed to commit txn to table FUNCTIONS" faults.commit)
    body

/-- A row that is there already is overwritten. -/
def storeToDb (faults : WriteFaults) (func : RegisteredFunction FcFunctionInfo) : RegistrarM Unit :=
  writeTxn Registrar.functions (fun functions r => { r with functions }) faults do
    storageOp "failed to open table FUNCTIONS" faults.openTable
    storageOp "failed to insert new Function to the database" faults.update
    modify fun r => { r with functions := r.functions.insert func.info.id func }

def deleteFromDb (faults : WriteFaults) (functionId : FunctionId) : RegistrarM Unit :=
  writeTxn Registrar.functions (fun functions r => { r with functions }) faults do
    storageOp "failed to open table FUNCTIONS" faults.openTable
    storageOp "failed to remove new Function to the database" faults.update
    modify fun r => { r with functions := r.functions.erase functionId }

/-! ## The metadata store -/

namespace Store

def registerFunction (function : RegisteredFunction FcFunctionInfo) : RegistrarM Unit := do
  let id := function.info.id
  if ((← get).store.lookup id).isSome then
    throw (.alreadyExists id)
  modify fun r => { r with store := r.store.insert id function }

/-- `workersCount` workers of the function are active, idle or dying. -/
def deregisterFunction (workersCount : Nat) (functionId : FunctionId) :
    RegistrarM (RegisteredFunction FcFunctionInfo) := do
  let some _ := (← get).store.lookup functionId | throw (.notFound functionId)
  if 0 < workersCount then
    throw (.inUse functionId s!"{workersCount} Workers alive")
  let fmd ← expect "function should already exist" ((← get).store.lookup functionId)
  modify fun r => { r with store := r.store.erase functionId }
  pure fmd

end Store

/-! ## The runtime -/

namespace Firecracker

/-- `noImage` is the error of looking for the rootfs image, if there is none. -/
def registerFunction (config : Config) (noImage : Option String) (info : FcFunctionInfo) :
    RegistrarM Unit := do
  let some rootfsFileBasename := config.idPrefix info.id
    | throw (.runtime s!"expected Function ID in the form '$PREFIX-$SUFFIX'; got '{info.id}'" none)
  let rootfsPath := s!"{config.uvmsRootfsPath}/{rootfsFileBasename}.ext4"
  if let some err := noImage then
    throw (.runtime s!"missing rootfs image at '{rootfsPath}'" (some err))
  modify fun r => { r with rootfsRegistry := r.rootfsRegistry.insert info.id rootfsPath }

def deregisterFunction (info : FcFunctionInfo) : RegistrarM Unit :=
  modify fun r => { r with rootfsRegistry := r.rootfsRegistry.erase info.id }

end Firecracker

/-! ## The calls -/

/-- A request to register a function; its overrides and its function info as they decode. -/
structure RegisterFunctionRequest where
  admission : Option (Except String Admission.FunctionAdmissionOverrides)
  functionInfo : Except Error FcFunctionInfo
  /-- The request as it is printed. -/
  debug : String

def maxAllowedFunctionMem : ByteUnit := 10 * 2 ^ 30

def RegisterFunctionRequest.overrides (req : RegisterFunctionRequest) :
    Except Status (Option Admission.FunctionAdmissionOverrides) :=
  match req.admission with
  | none => .ok none
  | some decoded => (decoded.map some).mapError fun err => ⟨.invalidArgument,
    s!"error parsing submitted admission overrides for Function: {err} in {req.debug}"⟩

/-- The function that a request names, before anything is looked up. -/
def RegisterFunctionRequest.parse (req : RegisterFunctionRequest) :
    Except Status (RegisteredFunction FcFunctionInfo) := do
  let admission ← req.overrides
  let info ← req.functionInfo.mapError fun err => ⟨.invalidArgument, err.display⟩
  pure { info, admission }

/-- The beginning of `register_function`, up to the call of the runtime. -/
def validate (config : Config) (req : RegisterFunctionRequest) :
    Handler Registrar Status (RegisteredFunction FcFunctionInfo) := do
  let func ← fromExcept req.parse
  let fi := func.info
  -- Fail fast if the function is already registered; do not overwrite.
  if ((← get).store.lookup fi.id).isSome then
    throw (Error.alreadyExists fi.id).toStatus
  if maxAllowedFunctionMem < fi.memory then
    throw ⟨.invalidArgument, s!"memory requested = {config.showBytes fi.memory} > " ++
      s!"{config.showBytes maxAllowedFunctionMem} = max allowed memory"⟩
  pure func

inductive Request where
  | register (req : RegisterFunctionRequest)
  | deregister (functionId : FunctionId)

/-- How far a call has come. -/
inductive Stage where
  | received
  /-- To be registered with the runtime. -/
  | validated (func : RegisteredFunction FcFunctionInfo)
  /-- To be stored in the database. -/
  | prepared (func : RegisteredFunction FcFunctionInfo)
  /-- To be stored in the metadata store. -/
  | stored (func : RegisteredFunction FcFunctionInfo)
  /-- To be deleted from the database. -/
  | removed (func : RegisteredFunction FcFunctionInfo)
  /-- To be deregistered from the runtime. -/
  | deleted (func : RegisteredFunction FcFunctionInfo)
  | returned (result : Except Status Unit)
  deriving DecidableEq

/-- What a step of a call meets. -/
structure Answers where
  noImage : Option String
  faults : WriteFaults
  workersCount : Nat
  deriving DecidableEq, Repr

/-- The next step of `register_function` or `deregister_function`. -/
def nextStage (config : Config) (answers : Answers) (request : Request) :
    Stage → Handler Registrar Status Stage
  | .received =>
    match request with
    | .register req => .validated <$> validate config req
    | .deregister functionId =>
      .removed <$> mapErr Error.toStatus (Store.deregisterFunction answers.workersCount functionId)
  | .validated func => mapErr Error.toStatus do
    Firecracker.registerFunction config answers.noImage func.info
    pure (.prepared func)
  | .prepared func => mapErr Error.toStatus do
    storeToDb answers.faults func
    pure (.stored func)
  | .stored func => mapErr Error.toStatus do
    Store.registerFunction func
    pure (.returned (.ok ()))
  | .removed func => mapErr Error.toStatus do
    deleteFromDb answers.faults func.info.id
    pure (.deleted func)
  | .deleted func => mapErr Error.toStatus do
    -- An error of the runtime is only logged.
    let _ ← attempt (Firecracker.deregisterFunction func.info)
    pure (.returned (.ok ()))
  | .returned result => pure (.returned result)

/-! ## What a step does -/

/-- An error of the storage or of the runtime. -/
def Status.Fault (status : Status) : Prop := status.code = .internal ∨ status.code = .dataLoss

instance : DecidablePred Status.Fault := fun _ => inferInstanceAs (Decidable (_ ∨ _))

/-- The function that a valid request registers. -/
def Request.function : Request → Option (RegisteredFunction FcFunctionInfo)
  | .register req =>
    match req.parse with
    | .ok func => if func.info.memory ≤ maxAllowedFunctionMem then some func else none
    | .error _ => none
  | .deregister _ => none

/-- One step of a call, from a stage and what is shared to the next. -/
inductive CallStep (request : Request) (r : Registrar) : Stage → Stage → Registrar → Prop where
  | validated {func : RegisteredFunction FcFunctionInfo} (valid : request.function = some func)
      (absent : r.store.lookup func.info.id = none) : CallStep request r .received (.validated func) r
  | refused {status : Status} (fine : ¬ status.Fault)
      (present : ∀ func, request.function = some func → r.store.lookup func.info.id ≠ none) :
      CallStep request r .received (.returned (.error status)) r
  | failed {stage : Stage} {status : Status} (fault : status.Fault)
      (going : ∀ result, stage ≠ .returned result) :
      CallStep request r stage (.returned (.error status)) r
  | prepared (func : RegisteredFunction FcFunctionInfo) (path : String) :
      CallStep request r (.validated func) (.prepared func)
        { r with rootfsRegistry := r.rootfsRegistry.insert func.info.id path }
  | stored (func : RegisteredFunction FcFunctionInfo) :
      CallStep request r (.prepared func) (.stored func)
        { r with functions := r.functions.insert func.info.id func }
  | registered {func : RegisteredFunction FcFunctionInfo}
      (absent : r.store.lookup func.info.id = none) :
      CallStep request r (.stored func) (.returned (.ok ()))
        { r with store := r.store.insert func.info.id func }
  | lost {func : RegisteredFunction FcFunctionInfo} {status : Status} (fine : ¬ status.Fault)
      (present : r.store.lookup func.info.id ≠ none) :
      CallStep request r (.stored func) (.returned (.error status)) r
  | removed {functionId : FunctionId} {func : RegisteredFunction FcFunctionInfo}
      (asked : request = .deregister functionId) (look : r.store.lookup functionId = some func) :
      CallStep request r .received (.removed func) { r with store := r.store.erase functionId }
  | deleted (func : RegisteredFunction FcFunctionInfo) :
      CallStep request r (.removed func) (.deleted func)
        { r with functions := r.functions.erase func.info.id }
  | deregistered (func : RegisteredFunction FcFunctionInfo) :
      CallStep request r (.deleted func) (.returned (.ok ()))
        { r with rootfsRegistry := r.rootfsRegistry.erase func.info.id }
  | done (result : Except Status Unit) :
      CallStep request r (.returned result) (.returned result) r

section Steps
variable {config : Config} {answers : Answers} {r : Registrar}
  {func : RegisteredFunction FcFunctionInfo}

theorem wp_storageOp {msg : String} {fault : Option String} {Q : Post Registrar Error Unit}
    (ok : Q.ok () r) (err : ∀ text, Q.err (.database msg text) r) :
    wp (storageOp msg fault) Q r := by
  unfold storageOp
  split
  · exact err _
  · exact ok

/-- A transaction that writes the table by `f`, or leaves it after an error of the database. -/
theorem wp_writeTxn {faults : WriteFaults} {msg : String}
    {f : Table FunctionId (RegisteredFunction FcFunctionInfo) →
      Table FunctionId (RegisteredFunction FcFunctionInfo)}
    {Q : Post Registrar Error Unit} (ok : Q.ok () { r with functions := f r.functions })
    (err : ∀ msg text, Q.err (.database msg text) r) :
    wp (writeTxn Registrar.functions (fun functions r => { r with functions }) faults do
      storageOp "failed to open table FUNCTIONS" faults.openTable
      storageOp msg faults.update
      modify fun r => { r with functions := f r.functions }) Q r := by
  simp only [writeTxn, wp_bind, wp_transaction]
  refine wp_storageOp ?_ (err _)
  refine wp_storageOp ?_ (err _)
  refine wp_storageOp ?_ (err _)
  exact wp_storageOp ok (err _)

theorem parse_error {req : RegisterFunctionRequest} {status : Status}
    (h : req.parse = .error status) : status.code = .invalidArgument := by
  simp only [RegisterFunctionRequest.parse, bind, Except.bind, pure, Except.pure] at h
  cases overrides : req.overrides with
  | error e =>
    obtain rfl : e = status := by simpa [overrides] using h
    unfold RegisterFunctionRequest.overrides at overrides
    split at overrides
    · cases overrides
    · obtain ⟨_, _, rfl⟩ := (mapError_eq_error _ _ _).mp overrides
      rfl
  | ok admission =>
    cases info : req.functionInfo with
    | error err =>
      simp only [overrides, info, Except.mapError, Except.error.injEq] at h
      rw [← h]
    | ok fi => simp [overrides, info, Except.mapError] at h

theorem validate_spec (req : RegisterFunctionRequest) :
    wp (validate config req)
      { ok := fun func => CallStep (.register req) r .received (.validated func)
        err := fun status => CallStep (.register req) r .received (.returned (.error status)) } r := by
  simp only [validate, wp_bind, wp_fromExcept, wp_get, wp_ite, wp_throw, wp_pure]
  refine ⟨fun func parsed => ?_, fun status parsed => ?_⟩
  · have valid : (Request.register req).function =
        if func.info.memory ≤ maxAllowedFunctionMem then some func else none := by
      simp [Request.function, parsed]
    refine ⟨fun present => .refused (by simp [Status.Fault, Error.toStatus]) fun other named => ?_,
      fun absent => ⟨fun large => .refused (by simp [Status.Fault]) fun other named => ?_,
        fun small => .validated (by simp [valid, Nat.le_of_not_lt small]) (by simpa using absent)⟩⟩
    · obtain ⟨-, rfl⟩ : _ ∧ func = other := by simpa [valid] using named
      exact Option.isSome_iff_ne_none.mp present
    · simp [valid, Nat.not_le.mpr large] at named
  · refine .refused (by simp [Status.Fault, parse_error parsed]) fun other named => ?_
    simp [Request.function, parsed] at named

/-- Every step of a call is a `CallStep`, and none of them panics. -/
theorem nextStage_spec (request : Request) (stage : Stage) :
    wp (nextStage config answers request stage)
      { ok := CallStep request r stage
        err := fun status => CallStep request r stage (.returned (.error status)) } r := by
  cases stage with
  | received =>
    cases request with
    | register req => exact (wp_map _ _ _ _).mpr (validate_spec req)
    | deregister functionId =>
      simp only [nextStage, Store.deregisterFunction, wp_map, wp_mapErr, wp_bind, wp_get]
      split
      next func look =>
        simp only [wp_bind, wp_ite, wp_throw, wp_pure, wp_get, wp_expect, wp_modify]
        refine ⟨fun used => ?_, fun unused => ⟨fun func look => .removed rfl look, ?_⟩⟩
        · exact .refused (by simp [Status.Fault, Error.toStatus]) nofun
        · simp [look]
      next =>
        exact .refused (by simp [Status.Fault, Error.toStatus]) nofun
  | validated func =>
    simp only [nextStage, Firecracker.registerFunction, wp_mapErr, wp_bind]
    split
    · split
      · exact .failed (.inl rfl) nofun
      · exact .prepared func _
    · exact .failed (.inl rfl) nofun
  | prepared func =>
    simp only [nextStage, wp_mapErr, wp_bind]
    exact wp_writeTxn (f := fun functions => functions.insert func.info.id func) (.stored func)
      fun _ _ => .failed (.inr rfl) nofun
  | stored func =>
    simp only [nextStage, Store.registerFunction, wp_mapErr, wp_bind, wp_get, wp_ite, wp_throw,
      wp_pure, wp_modify]
    refine ⟨fun present => .lost (by simp [Status.Fault, Error.toStatus]) ?_, fun absent => ?_⟩
    · exact Option.isSome_iff_ne_none.mp present
    · exact .registered (by simpa using absent)
  | removed func =>
    simp only [nextStage, wp_mapErr, wp_bind]
    exact wp_writeTxn (f := fun functions => functions.erase func.info.id) (.deleted func)
      fun _ _ => .failed (.inr rfl) nofun
  | deleted func => exact .deregistered func
  | returned result => exact .done result

end Steps

end Metadata
end Snaplace
