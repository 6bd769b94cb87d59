import Snaplace.Foundation.Refinement
import Snaplace.Metadata.Persistence
import Snaplace.Metadata.Registration
import Snaplace.Pool.Workers

/-!
# One registrar, three views

The steps of a call work on the functions as they are, the handler that reads and writes bytes on
the rows of the database, and the pool reads the memory and the overrides of a function only. All of
them answer alike.
-/
namespace Snaplace
open Foundation Foundation.Handler
open Metadata (FcFunctionInfo RegisteredFunction WriteFaults)
open Persistence (Formats MessagePack Runtime asBytes registeredFunctionCodec)

namespace Metadata

/-- The next steps of a call, until the number is used up or a step fails. -/
def nextStages (config : Config) (answers : Answers) (request : Request) :
    Nat → Stage → Handler Registrar Status Stage
  | 0, stage => pure stage
  | n + 1, stage => do
    let stage ← nextStage config answers request stage
    nextStages config answers request n stage

section Alone
variable (config : Config) (answers : Answers) {request : Request} {id : CallId} {s : System}

/-- The call `id` is `call`, and the functions are as in `r`. -/
def System.Shows (s : System) (id : CallId) (call : Call) (r : Registrar) : Prop :=
  s.calls.lookup id = some call ∧ s.registrar = r

/-- The stage that a call is left in. -/
def stageAfter : Outcome Registrar Status Stage → Stage
  | .ok stage _ => stage
  | .err status _ => .returned (.error status)
  | .panic msg _ => .returned (.error ⟨.internal, s!"error joining tokio task: {msg}"⟩)

theorem shows_moveCall {call : Call} {stage : Stage} {r : Registrar} :
    (s.moveCall id call stage r).Shows id { call with stage } r :=
  ⟨AList.lookup_insert _, rfl⟩

theorem shows_step {call : Call} {r : Registrar} (here : s.Shows id call r) :
    let done := nextStage config answers call.request call.stage r
    (System.step config (.advance id answers) s).Shows id { call with stage := stageAfter done }
      done.state := by
  obtain ⟨look, rfl⟩ := here
  simp only [System.step, look]
  cases nextStage config answers call.request call.stage s.registrar with
  | ok stage r => exact shows_moveCall
  | err status r => exact shows_moveCall
  | panic msg r => exact shows_moveCall

/-- A call that has returned stays as it is. -/
theorem shows_returned (n : Nat) {result : Except Status Unit} {r : Registrar}
    (here : s.Shows id ⟨request, .returned result⟩ r) :
    (System.run config (List.replicate n (.advance id answers)) s).Shows id
      ⟨request, .returned result⟩ r := by
  induction n generalizing s with
  | zero => exact here
  | succ n ih => exact ih (shows_step config answers here)

/-- A call that is advanced alone does its steps one after another. -/
theorem shows_run (n : Nat) {stage : Stage} {r : Registrar} (here : s.Shows id ⟨request, stage⟩ r) :
    let done := nextStages config answers request n stage r
    (System.run config (List.replicate n (.advance id answers)) s).Shows id
      ⟨request, stageAfter done⟩ done.state := by
  induction n generalizing s stage r with
  | zero => exact here
  | succ n ih =>
    have next := shows_step config answers here
    have split : nextStages config answers request (n + 1) stage r =
        Handler.bind (nextStage config answers request stage)
          (nextStages config answers request n) r := rfl
    rw [split]
    unfold Handler.bind
    dsimp only at next
    generalize nextStage config answers request stage r = done at next ⊢
    cases done with
    | ok stage r => exact ih next
    | err status r => exact shows_returned config answers n next
    | panic msg r => exact shows_returned config answers n next

end Alone

end Metadata

namespace Persistence

section Rows
variable {Row : Type} [DecidableEq Row] {f : Formats} {pack : MessagePack Row}
  {r : Registrar Row FcFunctionInfo} {m : Metadata.Registrar}

/-- A request as the steps read it. -/
def decoded (f : Formats) (req : Pb.RegisterFunctionRequest) : Metadata.RegisterFunctionRequest where
  admission := req.admission.map (overridesTryFrom f)
  functionInfo := tryFrom f FcFunctionInfo req
  debug := f.debug req

/-- The two hold the same functions, and `r` has the rows of those in its database. -/
structure Encodes (f : Formats) (pack : MessagePack Row) (r : Registrar Row FcFunctionInfo)
    (m : Metadata.Registrar) : Prop where
  store : r.store = m.store
  registry : r.registry = m.rootfsRegistry
  functions : ∀ id, r.functions.lookup (asBytes pack (functionId f) id) =
    (m.functions.lookup id).map (asBytes pack (registeredFunctionCodec f))

omit [DecidableEq Row] in
theorem asBytes_functionId_inj (sound : f.Sound) (packs : pack.Sound) {id id' : FunctionId} :
    asBytes pack (functionId f) id = asBytes pack (functionId f) id' ↔ id = id' := by
  have read (id : FunctionId) :
      fromBytes pack (functionId f) (asBytes pack (functionId f) id) = some id := by
    rw [fromBytes, asBytes, packs, Option.bind_some]
    exact functionId_recovers sound id
  constructor
  · intro same
    have := read id
    rw [same, read id'] at this
    exact (Option.some.inj this).symm
  · rintro rfl
    rfl

theorem overrides_decoded (req : Pb.RegisterFunctionRequest) :
    (decoded f req).overrides = admissionOf f req := by
  unfold Metadata.RegisterFunctionRequest.overrides admissionOf decoded
  cases req.admission <;> rfl

theorem storageOp_alike (encodes : Encodes f pack r m) (msg : String) (fault : Option String) :
    Alike (Encodes f pack) Eq (Metadata.storageOp msg fault) r (Metadata.storageOp msg fault) m := by
  unfold Metadata.storageOp
  split
  · exact .throw _ encodes
  · exact .pure rfl encodes

theorem storeToDb_alike (sound : f.Sound) (packs : pack.Sound) (encodes : Encodes f pack r m)
    (faults : WriteFaults) (func : RegisteredFunction FcFunctionInfo) :
    Alike (Encodes f pack) Eq (storeToDb f pack faults func) r (Metadata.storeToDb faults func) m := by
  refine (storageOp_alike encodes _ _).bind fun _ _ r m _ encodes => ?_
  refine .transaction ?_ (fun _ _ encodes => storageOp_alike encodes _ _) fun r' m' other => ?_
  · refine (storageOp_alike encodes _ _).bind fun _ _ r m _ encodes => ?_
    refine (storageOp_alike encodes _ _).bind fun _ _ r m _ encodes => .modify ?_
    refine ⟨encodes.store, encodes.registry, fun id => ?_⟩
    simp only [Table.lookup_insert_ite, Runtime.id, asBytes_functionId_inj sound packs,
      encodes.functions id]
    split <;> rfl
  · exact ⟨other.store, other.registry, encodes.functions⟩

/-- A new function is put into the metadata store. -/
theorem store_registerFunction_alike (encodes : Encodes f pack r m)
    (func : RegisteredFunction FcFunctionInfo) :
    Alike (Encodes f pack) Eq (Store.registerFunction func) r (Metadata.Store.registerFunction func)
      m := by
  unfold Store.registerFunction Metadata.Store.registerFunction
  refine .get_bind ?_
  rw [encodes.store]
  refine .ite (fun _ => .err _ encodes) fun _ => .modify ?_
  exact ⟨by rw [encodes.store]; rfl, encodes.registry, encodes.functions⟩

/-- The configuration of the runtime, as the steps know it. -/
def stepsConfig (f : Formats) (config : Firecracker.Config) : Metadata.Config :=
  ⟨config.uvmsRootfsPath, config.idPrefix, f.displayByteUnit⟩

/-- The image that is looked for is there in one model if and only if it is in the other. -/
structure Serves (config : Firecracker.Config) (info : FcFunctionInfo) (noImage : Option String) :
    Prop where
  display : config.display info.id = toString info.id
  image : ∀ basename, config.idPrefix info.id = some basename →
    noImage = config.noImage s!"{config.uvmsRootfsPath}/{basename}.ext4"

variable {config : Firecracker.Config} {answers : Metadata.Answers}
  {req : Pb.RegisterFunctionRequest}

theorem register_alike (encodes : Encodes f pack r m) {noImage : Option String}
    {info : FcFunctionInfo} (serves : Serves config info noImage) :
    Alike (Encodes f pack) (fun done _ => done = info) (Runtime.register config info) r
      (Metadata.Firecracker.registerFunction (stepsConfig f config) noImage info) m := by
  simp only [Runtime.register, Runtime.registerFunction, Firecracker.registerFunction,
    Metadata.Firecracker.registerFunction, stepsConfig, serves.display]
  cases prefixed : config.idPrefix info.id with
  | none => exact .err _ encodes
  | some basename =>
    rw [serves.image basename prefixed]
    dsimp only
    cases config.noImage s!"{config.uvmsRootfsPath}/{basename}.ext4" with
    | some err => exact .err _ encodes
    | none =>
      refine .ok rfl ⟨encodes.store, ?_, encodes.functions⟩
      exact congrArg (AList.insert _ _) encodes.registry

theorem nextStages_received {config : Metadata.Config} {req : Metadata.RegisterFunctionRequest} :
    Metadata.nextStages config answers (.register req) 4 .received = (do
      let func ← Metadata.validate config req
      mapErr Metadata.Error.toStatus do
        Metadata.Firecracker.registerFunction config answers.noImage func.info
        Metadata.storeToDb answers.faults func
        Metadata.Store.registerFunction func
      pure (.returned (.ok ()))) := by
  simp only [Metadata.nextStages, Metadata.nextStage, map_eq_pure_bind, bind_assoc, pure_bind,
    mapErr_bind, mapErr_pure]

/-- The handler on the rows does what the steps of a registration do one after another. -/
theorem registerFunction_alike (sound : f.Sound) (packs : pack.Sound) (encodes : Encodes f pack r m)
    (serves : ∀ info, tryFrom f FcFunctionInfo req = .ok info → Serves config info answers.noImage) :
    Alike (Encodes f pack) (fun _ stage => stage = .returned (.ok ()))
      (registerFunction f pack config answers.faults req) r
      (Metadata.nextStages (stepsConfig f config) answers (.register (decoded f req)) 4 .received)
      m := by
  rw [nextStages_received]
  simp only [registerFunction, Metadata.validate, Metadata.RegisterFunctionRequest.parse,
    overrides_decoded, fromExcept_bind, fromExcept_pure, bind_assoc, pure_bind, Runtime.id,
    Runtime.memory]
  refine (Alike.fromExcept encodes).bind fun admission _ r m same encodes => ?_
  obtain ⟨-, rfl⟩ := same
  refine (Alike.fromExcept encodes).bind fun info _ r m received encodes => ?_
  obtain ⟨received, rfl⟩ := received
  refine .get_bind ?_
  rw [encodes.store]
  by_cases known : (m.store.lookup info.id).isSome
  · rw [if_pos known, if_pos known]
    exact .err _ encodes
  rw [if_neg known, if_neg known]
  by_cases large : Metadata.maxAllowedFunctionMem < info.memory
  · rw [if_pos large, if_pos large]
    exact .err _ encodes
  rw [if_neg large, if_neg large, pure_bind]
  rw [← bind_pure (mapErr _ _)]
  refine .bind (.mapErr _ (P := Eq) ?_) fun _ _ r m _ encodes => .pure rfl encodes
  rw [mapError_eq_ok] at received
  refine (register_alike encodes (serves info received)).bind fun done _ r m same encodes => ?_
  subst same
  refine (storeToDb_alike sound packs encodes _ _).bind fun _ _ r m _ encodes => ?_
  exact store_registerFunction_alike encodes _

/-- What the caller of a registration is told. -/
def response {σ : Type} : Outcome σ Metadata.Status Unit → Except Metadata.Status Unit
  | .ok () _ => .ok ()
  | .err status _ => .error status
  | .panic msg _ => .error ⟨.internal, s!"error joining tokio task: {msg}"⟩

/-- A registration that no other call comes between is the handler on the rows. -/
theorem registerFunction_run (sound : f.Sound) (packs : pack.Sound) (encodes : Encodes f pack r m)
    (serves : ∀ info, tryFrom f FcFunctionInfo req = .ok info → Serves config info answers.noImage)
    {s : Metadata.System} {id : Metadata.CallId}
    (here : s.Shows id ⟨.register (decoded f req), .received⟩ m) :
    let done := registerFunction f pack config answers.faults req r
    let steps := List.replicate 4 (.advance id answers)
    ∃ m', Encodes f pack done.state m' ∧
      (Metadata.System.run (stepsConfig f config) steps s).Shows id
        ⟨.register (decoded f req), .returned (response done)⟩ m' := by
  have alike := registerFunction_alike sound packs encodes serves
  have ran := Metadata.shows_run (stepsConfig f config) answers 4 here
  unfold Alike at alike
  dsimp only at ran ⊢
  generalize registerFunction f pack config answers.faults req r = done at alike ⊢
  generalize Metadata.nextStages _ answers _ 4 .received m = done' at alike ran
  cases alike with
  | ok returned states =>
    subst returned
    exact ⟨_, states, ran⟩
  | err status states => exact ⟨_, states, ran⟩
  | panic msg states => exact ⟨_, states, ran⟩

end Rows

end Persistence

namespace Pool

/-- What the pool reads of a function. -/
def ofRegistered (func : Metadata.RegisteredFunction FcFunctionInfo) : RegisteredFunction :=
  ⟨func.info.memory, func.admission⟩

def RegistrationError.toError : RegistrationError → Metadata.Error
  | alreadyExists function => .alreadyExists function
  | notFound function => .notFound function
  | inUse function workersCount => .inUse function s!"{workersCount} Workers alive"

/-- The functions of the pool are those of the store. -/
def Reads (p : Pool) (m : Metadata.Registrar) : Prop :=
  ∀ f, p.store.functions.lookup f = (m.store.lookup f).map ofRegistered

section Functions
variable {p : Pool} {m : Metadata.Registrar}

theorem registerFunction_alike (reads : Reads p m)
    (func : Metadata.RegisteredFunction FcFunctionInfo) :
    Alike Reads Eq
      (mapErr RegistrationError.toError (registerFunction func.info.id (ofRegistered func))) p
      (Metadata.Store.registerFunction func) m := by
  unfold registerFunction Metadata.Store.registerFunction
  rw [mapErr_bind]
  refine .get_bind ?_
  rw [reads]
  cases known : m.store.lookup func.info.id with
  | some _ => exact .err _ reads
  | none =>
    refine .ok rfl fun f => ?_
    simp only [Table.lookup_insert_ite]
    split
    next => rfl
    next => exact reads f

theorem deregisterFunction_alike (reads : Reads p m) (f : FunctionId) :
    Alike Reads (fun _ func => m.store.lookup f = some func)
      (mapErr RegistrationError.toError (deregisterFunction f)) p
      (Metadata.Store.deregisterFunction
        (numWorkers .active p f + numWorkers .idle p f + numWorkers .dying p f) f) m := by
  unfold deregisterFunction Metadata.Store.deregisterFunction
  rw [mapErr_bind]
  refine .get_bind ?_
  dsimp only
  rw [reads]
  cases known : m.store.lookup f with
  | none => exact .err _ reads
  | some func =>
    simp only [Option.map_some]
    by_cases used : 0 < numWorkers .active p f + numWorkers .idle p f + numWorkers .dying p f
    · rw [if_pos used, if_pos used]
      exact .err _ reads
    · rw [if_neg used, if_neg used]
      change Alike _ _ _ p (expect _ (m.store.lookup f) >>= _) m
      rw [known]
      refine .ok rfl fun g => ?_
      simp only [Table.lookup_erase_ite]
      split
      next => rfl
      next => exact reads g

end Functions

end Pool
end Snaplace
