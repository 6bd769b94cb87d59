import Snaplace.Foundation.Codec
import Snaplace.Metadata.Registrar

/-!
# Registered functions across a reboot

A request to register a function carries its function info as a protobuf message or as base64 JSON.
What is registered is written to the database as MessagePack and read back at the next start. The
formats themselves are those of other crates; what is modelled is what is written under which type
and how it is read. The two runtimes differ in their function info and in what they do with it.
-/
namespace Snaplace
open Foundation Foundation.Handler
open Metadata (Error Status Code WriteFaults FcFunctionInfo RegisteredFunction
  maxAllowedFunctionMem storageOp writeTxn)
open Pool (ByteUnit)
open Admission (FunctionAdmissionOverrides)

namespace Persistence

abbrev Bytes : Type := List UInt8

/-! ## Messages -/

namespace Pb

structure Duration where
  seconds : Int64
  nanos : Int32
  deriving DecidableEq

structure AdmissionOverrides where
  maxQueued : Option UInt64
  maxQueueDelay : Option Duration
  maxLiveInstances : Option UInt64
  deriving DecidableEq

structure Any where
  typeUrl : String
  value : Bytes
  deriving DecidableEq

inductive RuntimeSpecific where
  | b64Json (bytes : Bytes)
  | proto3 (any : Any)
  deriving DecidableEq

structure FunctionInfo where
  runtimeSpecific : Option RuntimeSpecific
  deriving DecidableEq

structure RegisterFunctionRequest where
  functionInfo : Option FunctionInfo
  admission : Option AdmissionOverrides
  deriving DecidableEq

/-- The function info of the runtime `rt-fc`. -/
structure FcFunctionInfo where
  functionId : String
  memoryMib : UInt32
  vcpuCount : UInt32
  entrypoint : String
  deriving DecidableEq

/-- The function info of the runtime `rt-fcctrd`. -/
structure FcctrdFunctionInfo where
  functionId : String
  memoryMib : UInt32
  imageRef : String
  parentSnapshot : Option String
  processArgs : Option String
  deriving DecidableEq

end Pb

/-- What the rows of the database are written in. -/
structure MessagePack (Row : Type) where
  toVec : Value → Row
  fromSlice : Row → Option Value

def MessagePack.Sound {Row : Type} (pack : MessagePack Row) : Prop :=
  ∀ v, pack.fromSlice (pack.toVec v) = some v

/-- What else is read and written by other crates. -/
structure Formats where
  decodeBase64 : Bytes → Except String Bytes
  parseJson : Bytes → Except String Value
  /-- What is said of a value that is not of the type that is asked for. -/
  mismatch : Value → String
  toFcMsg : Pb.Any → Except String Pb.FcFunctionInfo
  toFcctrdMsg : Pb.Any → Except String Pb.FcctrdFunctionInfo
  /-- The length of time that a duration message stands for; a negative one is an error. -/
  toStd : Pb.Duration → Except String Duration
  formatDuration : Duration → String
  parseDuration : String → Option Duration
  parseByteUnit : String → Option ByteUnit
  displayByteUnit : ByteUnit → String
  functionId : String → FunctionId
  asStr : FunctionId → String
  /-- The request as it is printed. -/
  debug : Pb.RegisterFunctionRequest → String

/-- Primitive values are read as they were written. -/
structure Formats.Sound (f : Formats) : Prop where
  humantime : ∀ d, f.parseDuration (f.formatDuration d) = some d
  functionId : ∀ id, f.functionId (f.asStr id) = id
  asStr : ∀ s, f.asStr (f.functionId s) = s

variable (f : Formats)

/-! ## Sizes -/

def mebibyte : Nat := 2 ^ 20

/-- The arithmetic of byte units saturates. -/
def mebibytes (b : Nat) : Nat := min (mebibyte * b) (2 ^ 64 - 1)

/-- What `deserialize_byteunit` makes of the number of bytes that it reads. -/
def rescale (b : Nat) : Nat := if b > mebibyte then b else mebibytes b

def byteUnit : Codec ByteUnit where
  serialize b := .uint (.ofNat b)
  deserialize
    | .uint n => some n.toNat
    | .str s => f.parseByteUnit s
    | _ => none

/-- Read by `deserialize_byteunit`, but written as it is. -/
def memory : Codec ByteUnit := (byteUnit f).readWith rescale

def functionId : Codec FunctionId := Codec.str.via f.asStr fun s => some (f.functionId s)

/-! ## Admission overrides -/

def overridesTryFrom (ao : Pb.AdmissionOverrides) : Except String FunctionAdmissionOverrides := do
  let maxQueueDelay ←
    match ao.maxQueueDelay with
    | some delay => some <$> f.toStd delay
    | none => pure none
  pure {
    maxQueued := ao.maxQueued.map UInt64.toNat
    maxQueueDelay
    maxLiveInstances := ao.maxLiveInstances.map UInt64.toNat }

def usize : Codec Nat := Codec.uint (2 ^ 64)

def humantime : Codec Duration := Codec.str.via f.formatDuration f.parseDuration

def overridesCodec : Codec FunctionAdmissionOverrides :=
  .record
    (.cons (.optional "max_queued" usize) <|
      .cons (.withDefault "max_queue_delay" (humantime f).option none) <|
      .cons (.optional "max_live_instances" usize) .nil)
    { toFun o := (o.maxQueued, o.maxQueueDelay, o.maxLiveInstances, ())
      invFun r := ⟨r.1, r.2.1, r.2.2.1⟩ }

/-! ## The function info of a runtime -/

/-- What registration needs of a runtime and of its function info. -/
class Runtime (Info : Type) where
  Message : Type
  toMsg : Formats → Pb.Any → Except String Message
  ofMessage : Formats → Message → Info
  codec : Formats → Codec Info
  id : Info → FunctionId
  memory : Info → ByteUnit
  /-- What the runtime remembers of the functions it has registered. -/
  Registry : Type
  /-- What a call of the runtime meets. -/
  Config : Type
  registerFunction : Config → Info → Handler Registry Error Info

namespace Firecracker

/-- The narrowing of the number of cores drops its high bits. -/
def ofMessage (msg : Pb.FcFunctionInfo) : FcFunctionInfo where
  id := f.functionId msg.functionId
  memory := mebibytes msg.memoryMib.toNat
  vcpuCount := msg.vcpuCount.toUInt8.toNat
  entrypoint := msg.entrypoint

def codec : Codec FcFunctionInfo :=
  .record
    (.cons (.required ["id"] (functionId f)) <|
      .cons (.required ["memory"] (memory f)) <|
      .cons (.required ["vcpu_count"] (.uint 256)) <|
      .cons (.withDefault "entrypoint" .str "") .nil)
    { toFun info := (info.id, info.memory, info.vcpuCount, info.entrypoint, ())
      invFun r := ⟨r.1, r.2.1, r.2.2.1, r.2.2.2.1⟩ }

structure Config where
  uvmsRootfsPath : String
  idPrefix : FunctionId → Option String
  display : FunctionId → String
  /-- The error of looking for an image at a path, if there is none. -/
  noImage : String → Option String

/-- The function info is as it was; the path of the rootfs image is remembered. -/
def registerFunction (config : Config) (info : FcFunctionInfo) :
    Handler (Table FunctionId String) Error FcFunctionInfo := do
  let some rootfsFileBasename := config.idPrefix info.id
    | throw (.runtime
        s!"expected Function ID in the form '$PREFIX-$SUFFIX'; got '{config.display info.id}'" none)
  let rootfsPath := s!"{config.uvmsRootfsPath}/{rootfsFileBasename}.ext4"
  if let some err := config.noImage rootfsPath then
    throw (.runtime s!"missing rootfs image at '{rootfsPath}'" (some err))
  modify fun registry => registry.insert info.id rootfsPath
  pure info

end Firecracker

instance : Runtime FcFunctionInfo where
  Message := Pb.FcFunctionInfo
  toMsg f := f.toFcMsg
  ofMessage := Firecracker.ofMessage
  codec := Firecracker.codec
  id := FcFunctionInfo.id
  memory := FcFunctionInfo.memory
  Registry := Table FunctionId String
  Config := Firecracker.Config
  registerFunction := Firecracker.registerFunction

structure FcctrdFunctionInfo where
  id : FunctionId
  imageRef : String
  memory : ByteUnit
  parentSnapshot : Option String
  processArgs : Option String
  deriving DecidableEq, Repr

namespace FirecrackerContainerd

def ofMessage (msg : Pb.FcctrdFunctionInfo) : FcctrdFunctionInfo where
  id := f.functionId msg.functionId
  imageRef := msg.imageRef
  memory := mebibytes msg.memoryMib.toNat
  parentSnapshot := msg.parentSnapshot
  processArgs := msg.processArgs

def codec : Codec FcctrdFunctionInfo :=
  .record
    (.cons (.required ["id"] (functionId f)) <|
      .cons (.required ["image_ref", "image"] .str) <|
      .cons (.required ["memory"] (memory f)) <|
      .cons (.optional "parent_snapshot" .str) <|
      .cons (.optional "process_args" .str) .nil)
    { toFun info :=
        (info.id, info.imageRef, info.memory, info.parentSnapshot, info.processArgs, ())
      invFun r := ⟨r.1, r.2.1, r.2.2.1, r.2.2.2.1, r.2.2.2.2.1⟩ }

/-- What is read of the configuration of an OCI image. -/
structure ImageConfiguration where
  /-- `entrypoint` and `cmd`, where there is a configuration at all. -/
  config : Option (Option (List String) × Option (List String))
  diffIds : List String
  deriving DecidableEq, Repr

/-- What a call of the runtime meets: its client, the images and their configurations. -/
structure Config where
  init : Option String
  /-- Pull an image. -/
  ensureImage : String → Except Error Unit
  getImageConfig : String → Except String ImageConfiguration
  /-- The hexadecimal digits of a SHA-256 digest. -/
  sha256 : String → String

/-- The entry point and its arguments. -/
def ImageConfiguration.args (image : ImageConfiguration) : List String :=
  image.config.elim [] fun (entrypoint, cmd) => entrypoint.getD [] ++ cmd.getD []

def calculateParentSnapshot (config : Config) (image : ImageConfiguration) : String :=
  match image.diffIds with
  | [] => ""
  | first :: layers =>
    layers.foldl (fun ret digest => "sha256:" ++ config.sha256 (ret ++ " " ++ digest)) first

def formProcessArgs {σ : Type} (image : ImageConfiguration) : Handler σ String String := do
  let some (entrypoint, cmd) := image.config
    | throw "no '.config' field found in OCI Image Configuration"
  if entrypoint.isNone && cmd.isNone then
    throw ("no '`.config.entrypoint` nor `.config.cmd`' field found in " ++
      "OCI Image Configuration")
  if image.args.isEmpty then
    panicWith "attempt to subtract with overflow"
  pure (" ".intercalate image.args)

def finalizeFunctionInfo {σ : Type} (config : Config) (fi : FcctrdFunctionInfo) :
    Handler σ Error FcctrdFunctionInfo := do
  let image ← fromExcept <| (config.getImageConfig fi.imageRef).mapError fun err =>
    .runtime "failed to get OCI Image config" (some err)
  let parentSnapshot := fi.parentSnapshot.getD (calculateParentSnapshot config image)
  let processArgs ←
    match fi.processArgs with
    | some args => pure args
    | none =>
      let failed (err : String) : Error :=
        .runtime "failed to extract command & args for the new process" (some err)
      mapErr failed (formProcessArgs image)
  pure { fi with parentSnapshot := some parentSnapshot, processArgs := some processArgs }

/-- The registry counts the functions of each image. -/
def registerFunction (config : Config) (fi : FcctrdFunctionInfo) :
    Handler (Table String Nat) Error FcctrdFunctionInfo := do
  if let some err := config.init then
    throw (.runtime "failed to initialize FirecrackerContainerd runtime" (some err))
  let registered := ((← get).lookup fi.imageRef).getD 0
  if registered = 0 then
    fromExcept (config.ensureImage fi.imageRef)
  modify fun images => images.insert fi.imageRef (((images.lookup fi.imageRef).getD 0) + 1)
  if fi.parentSnapshot.isNone || fi.processArgs.isNone then
    finalizeFunctionInfo config fi
  else
    pure fi

end FirecrackerContainerd

instance : Runtime FcctrdFunctionInfo where
  Message := Pb.FcctrdFunctionInfo
  toMsg f := f.toFcctrdMsg
  ofMessage := FirecrackerContainerd.ofMessage
  codec := FirecrackerContainerd.codec
  id := FcctrdFunctionInfo.id
  memory := FcctrdFunctionInfo.memory
  Registry := Table String Nat
  Config := FirecrackerContainerd.Config
  registerFunction := FirecrackerContainerd.registerFunction

/-! ## Registration -/

structure Registrar (Row Info : Type) [Runtime Info] where
  store : Table FunctionId (RegisteredFunction Info)
  /-- The table `FUNCTIONS`, by the written ids. -/
  functions : Table Row Row
  registry : Runtime.Registry Info

abbrev RegistrarM (Row Info : Type) [Runtime Info] : Type → Type :=
  Handler (Registrar Row Info) Error

variable {Row Info : Type} [DecidableEq Row] [Runtime Info] (pack : MessagePack Row)

def registeredFunctionCodec : Codec (RegisteredFunction Info) :=
  .record
    (.cons (.required ["info"] (Runtime.codec f)) <|
      .cons (.withDefault "admission" (overridesCodec f).option none) .nil)
    { toFun func := (func.info, func.admission, ())
      invFun r := ⟨r.1, r.2.1⟩ }

def asBytes {α : Type} (codec : Codec α) (a : α) : Row := pack.toVec (codec.serialize a)

def fromBytes {α : Type} (codec : Codec α) (data : Row) : Option α :=
  (pack.fromSlice data).bind codec.deserialize

variable (Info) in
def tryFrom (req : Pb.RegisterFunctionRequest) : Except Error Info :=
  match req.functionInfo with
  | some fi =>
    match fi.runtimeSpecific with
    | some (.proto3 any) =>
      let msg : Except String (Runtime.Message Info) := Runtime.toMsg f any
      (msg.map (Runtime.ofMessage f)).mapError .deserProto3
    | some (.b64Json base64) => do
      let json ← (f.decodeBase64 base64).mapError .decodeB64
      let value ← (f.parseJson json).mapError .deserJson
      match (Runtime.codec f).deserialize value with
      | some info => .ok info
      | none => .error (.deserJson (f.mismatch value))
    | none => .error (.missingField "RegisterFunctionRequest.function_info.runtime_specific")
  | none => .error (.missingField "RegisterFunctionRequest.function_info")

def storeToDb (faults : WriteFaults) (func : RegisteredFunction Info) : RegistrarM Row Info Unit :=
  writeTxn Registrar.functions (fun functions r => { r with functions }) faults do
    storageOp "failed to open table FUNCTIONS" faults.openTable
    storageOp "failed to insert new Function to the database" faults.update
    modify fun r => { r with
      functions := r.functions.insert (asBytes pack (functionId f) (Runtime.id func.info))
        (asBytes pack (registeredFunctionCodec f) func) }

/-- The function that is read from a row. -/
def readRow (row : Row) : Option (RegisteredFunction Info) :=
  fromBytes pack (registeredFunctionCodec f) row

def Store.registerFunction (function : RegisteredFunction Info) : RegistrarM Row Info Unit := do
  let id := Runtime.id function.info
  if ((← get).store.lookup id).isSome then
    throw (.alreadyExists id)
  modify fun r => { r with store := r.store.insert id function }

def Runtime.register (config : Runtime.Config Info) (info : Info) : RegistrarM Row Info Info :=
  focus Registrar.registry (fun registry r => { r with registry })
    (Runtime.registerFunction config info)

/-- The error that each operation of a read transaction ends with, if it fails. -/
structure ReadFaults (Row : Type) where
  beginRead : Option String
  openTable : Option String
  len : Option String
  iter : Option String
  /-- Reading the row of a key. -/
  row : Row → Option String

/-- Every function of the database is registered with the runtime and with the store. -/
def loadFromDb (config : Runtime.Config Info) (faults : ReadFaults Row) :
    RegistrarM Row Info Unit := do
  storageOp "failed to begin read txn" faults.beginRead
  storageOp "failed to open table FUNCTIONS" faults.openTable
  storageOp "failed to retrieve length of table FUNCTIONS" faults.len
  storageOp "failed to iterate through table FUNCTIONS" faults.iter
  forM (← get).functions.entries fun entry => do
    storageOp "failed to read Function from database" (faults.row entry.1)
    let func ← expect "should receive valid MessagePack data?" (readRow f pack entry.2)
    let info ← Runtime.register config func.info
    Store.registerFunction { func with info }

def admissionOf (req : Pb.RegisterFunctionRequest) :
    Except Status (Option FunctionAdmissionOverrides) :=
  match req.admission with
  | some ao => ((overridesTryFrom f ao).map some).mapError fun err => ⟨.invalidArgument,
    s!"error parsing submitted admission overrides for Function: {err} in {f.debug req}"⟩
  | none => .ok none

def registerFunction (config : Runtime.Config Info) (faults : WriteFaults)
    (req : Pb.RegisterFunctionRequest) : Handler (Registrar Row Info) Status Unit := do
  let admission ← fromExcept (admissionOf f req)
  let info ← fromExcept <| (tryFrom f Info req).mapError fun err => ⟨.invalidArgument, err.display⟩
  -- Fail fast if the function is already registered; do not overwrite.
  if ((← get).store.lookup (Runtime.id info)).isSome then
    throw (Error.alreadyExists (Runtime.id info)).toStatus
  let memReq := Runtime.memory info
  if memReq > maxAllowedFunctionMem then
    throw ⟨.invalidArgument, s!"memory requested = {f.displayByteUnit memReq} > " ++
      s!"{f.displayByteUnit maxAllowedFunctionMem} = max allowed memory"⟩
  mapErr Error.toStatus do
    let info ← Runtime.register config info
    let func := { info, admission }
    storeToDb f pack faults func
    Store.registerFunction func

/-! ## What is read back -/

section Recovery
variable {f}

/-- No memory at all, or one mebibyte at least. -/
def Normal (b : Nat) : Prop := b = 0 ∨ mebibyte ≤ b

theorem normal_mebibytes (n : Nat) : Normal (mebibytes n) := by
  unfold Normal mebibytes mebibyte
  omega

theorem normal_rescale (b : Nat) : Normal (rescale b) := by
  unfold rescale
  split
  next above => exact .inr (Nat.le_of_lt above)
  next => exact normal_mebibytes b

/-- The memory of a function is read as it was written unless it is one mebibyte. -/
theorem rescale_eq_iff {b : Nat} (normal : Normal b) : rescale b = b ↔ b ≠ mebibyte := by
  unfold rescale mebibytes
  unfold Normal mebibyte at *
  split <;> omega

theorem byteUnit_recovers {b : ByteUnit} (fits : b < 2 ^ 64) : (byteUnit f).Recovers b := by
  have same : (UInt64.ofNat b).toNat = b := by
    rw [UInt64.toNat_ofNat']
    exact Nat.mod_eq_of_lt fits
  simp only [Codec.Recovers, byteUnit, same]

theorem memory_recovers_iff {b : ByteUnit} (fits : b < 2 ^ 64) (normal : Normal b) :
    (memory f).Recovers b ↔ b ≠ mebibyte :=
  (Codec.readWith_recovers_iff (byteUnit_recovers fits)).trans (rescale_eq_iff normal)

theorem memory_yields : (memory f).Yields Normal := by
  intro v a read
  obtain ⟨b, rfl⟩ := Codec.readWith_yields v a read
  exact normal_rescale b

theorem functionId_recovers (sound : f.Sound) (id : FunctionId) : (functionId f).Recovers id :=
  Codec.via_recovers (Codec.str_recovers _) (by rw [sound.functionId])

theorem optionStr_recovers (s : Option String) : Codec.str.option.Recovers s :=
  Codec.option_recovers (fun _ => nofun) fun s _ => Codec.str_recovers s

theorem usize_recovers {n : Option Nat} (fits : ∀ m, n = some m → m < 2 ^ 64) :
    usize.option.Recovers n :=
  Codec.option_recovers (fun _ => nofun) fun m eq => Codec.uint_recovers (fits m eq) le_rfl

theorem humantime_recovers (sound : f.Sound) (delay : Option Duration) :
    (humantime f).option.Recovers delay :=
  Codec.option_recovers (fun _ => nofun) fun d _ =>
    Codec.via_recovers (Codec.str_recovers _) (sound.humantime d)

/-- The bounds are machine integers. -/
def Fits (o : FunctionAdmissionOverrides) : Prop :=
  (∀ n, o.maxQueued = some n → n < 2 ^ 64) ∧ ∀ n, o.maxLiveInstances = some n → n < 2 ^ 64

theorem overridesCodec_recovers (sound : f.Sound) {o : FunctionAdmissionOverrides} (fits : Fits o) :
    (overridesCodec f).Recovers o := by
  apply Codec.record_recovers_iff.mpr
  apply Fields.cons_recovers_iff.mpr ⟨usize_recovers fits.1, ?_⟩
  apply Fields.cons_recovers_iff.mpr ⟨humantime_recovers sound _, ?_⟩
  exact Fields.cons_recovers_iff.mpr ⟨usize_recovers fits.2, Fields.nil_recovers⟩

/-- The overrides of a request: the same bounds, and the length of time its message stands for. -/
def Overrides (f : Formats) (ao : Pb.AdmissionOverrides) (o : FunctionAdmissionOverrides) : Prop :=
  o.maxQueued = ao.maxQueued.map UInt64.toNat ∧
    o.maxLiveInstances = ao.maxLiveInstances.map UInt64.toNat ∧
    match ao.maxQueueDelay with
    | some delay => ∃ d, f.toStd delay = .ok d ∧ o.maxQueueDelay = some d
    | none => o.maxQueueDelay = none

theorem overridesTryFrom_spec {ao : Pb.AdmissionOverrides} {o : FunctionAdmissionOverrides}
    (h : overridesTryFrom f ao = .ok o) : Overrides f ao o := by
  unfold overridesTryFrom at h
  unfold Overrides
  cases delay : ao.maxQueueDelay with
  | none =>
    obtain rfl : _ = o := by simpa [delay, pure, Except.pure, bind, Except.bind] using h
    exact ⟨rfl, rfl, rfl⟩
  | some delay' =>
    cases std : f.toStd delay' with
    | error err => simp [delay, std, bind, Except.bind, Functor.map, Except.map] at h
    | ok d =>
      obtain rfl : _ = o := by
        simpa [delay, std, pure, Except.pure, bind, Except.bind, Functor.map, Except.map] using h
      exact ⟨rfl, rfl, d, std, rfl⟩

theorem Overrides.fits {ao : Pb.AdmissionOverrides} {o : FunctionAdmissionOverrides}
    (h : Overrides f ao o) : Fits o := by
  obtain ⟨queued, live, -⟩ := h
  constructor
  · intro n eq
    obtain ⟨m, -, rfl⟩ := Option.map_eq_some_iff.mp (queued.symm.trans eq)
    exact m.toNat_lt
  · intro n eq
    obtain ⟨m, -, rfl⟩ := Option.map_eq_some_iff.mp (live.symm.trans eq)
    exact m.toNat_lt

end Recovery

/-! ## What a runtime promises -/

/-- What is received of a function survives its registration, and all of it but a memory of one
mebibyte is read as it was written. -/
class LawfulRuntime (Info : Type) [Runtime Info] where
  Received : Info → Prop
  normal {info : Info} : Received info → Normal (Runtime.memory info)
  yields (f : Formats) : (Runtime.codec f).Yields Received
  ofMessage (f : Formats) (msg : Runtime.Message Info) : Received (Runtime.ofMessage f msg)
  recovers_iff {f : Formats} {info : Info} : f.Sound → Received info →
    Runtime.memory info < 2 ^ 64 →
      ((Runtime.codec f).Recovers info ↔ Runtime.memory info ≠ mebibyte)
  registerFunction {config : Runtime.Config Info} {info : Info} {registry : Runtime.Registry Info} :
    Received info →
      wp (Runtime.registerFunction config info)
        (Post.onOk fun done _ => Received done ∧ Runtime.memory done = Runtime.memory info) registry

namespace Firecracker

structure Received (info : FcFunctionInfo) : Prop where
  normal : Normal info.memory
  vcpuCount : info.vcpuCount < 256

/-- The function info of a message is the message's own. -/
structure Carries (f : Formats) (msg : Pb.FcFunctionInfo) (info : FcFunctionInfo) : Prop where
  id : f.asStr info.id = msg.functionId
  memory : info.memory = msg.memoryMib.toNat * 2 ^ 20
  vcpuCount : info.vcpuCount = msg.vcpuCount.toNat
  entrypoint : info.entrypoint = msg.entrypoint

variable {f}

theorem registerFunction_spec (config : Config) (info : FcFunctionInfo)
    (registry : Table FunctionId String) :
    wp (registerFunction config info) (Post.onOk fun done _ => done = info) registry := by
  unfold registerFunction
  split
  · dsimp only
    split <;> simp [Post.onOk]
  · simp [Post.onOk]

theorem yields : (codec f).Yields Received := by
  intro v info read
  have anything {α : Type} (c : Codec α) : c.Yields fun _ => True := fun _ _ _ => trivial
  have fields := Codec.record_yields (Fields.cons_yields (anything _) Field.required_defaults <|
    Fields.cons_yields memory_yields Field.required_defaults <|
    Fields.cons_yields Codec.uint_yields Field.required_defaults <|
    Fields.cons_yields (anything _) ⟨fun _ _ => trivial, fun _ _ => trivial⟩ Fields.nil_yields)
    v info read
  obtain ⟨-, normal, vcpuCount, -⟩ := fields
  exact ⟨normal, vcpuCount⟩

theorem recovers_iff (sound : f.Sound) {info : FcFunctionInfo} (received : Received info)
    (fits : info.memory < 2 ^ 64) : (codec f).Recovers info ↔ info.memory ≠ mebibyte := by
  rw [← memory_recovers_iff (f := f) fits received.normal]
  unfold codec
  rw [Codec.record_recovers_iff]
  constructor
  · intro recovers
    obtain ⟨-, recovers⟩ := Fields.cons_recovers_iff.mp recovers
    exact (Fields.cons_recovers_iff.mp recovers).1
  · intro memory
    apply Fields.cons_recovers_iff.mpr ⟨functionId_recovers sound _, ?_⟩
    apply Fields.cons_recovers_iff.mpr ⟨memory, ?_⟩
    apply Fields.cons_recovers_iff.mpr
      ⟨Codec.uint_recovers received.vcpuCount (by decide), ?_⟩
    exact Fields.cons_recovers_iff.mpr ⟨Codec.str_recovers _, Fields.nil_recovers⟩

end Firecracker

theorem mebibytes_message (mib : UInt32) : mebibytes mib.toNat = mib.toNat * 2 ^ 20 := by
  have := mib.toNat_lt
  unfold mebibytes mebibyte
  omega

instance : LawfulRuntime FcFunctionInfo where
  Received := Firecracker.Received
  normal received := received.normal
  yields _ := Firecracker.yields
  ofMessage _ msg := ⟨normal_mebibytes _, msg.vcpuCount.toUInt8.toNat_lt⟩
  recovers_iff sound received fits := Firecracker.recovers_iff sound received fits
  registerFunction received := by
    refine wp_mono (Firecracker.registerFunction_spec _ _ _) ?_ (fun _ _ => id) fun _ _ => id
    rintro done registry rfl
    exact ⟨received, rfl⟩

namespace FirecrackerContainerd

/-- What is given is kept; what is not is derived from the configuration of the image. -/
def Filled (config : Config) (imageRef : String) (derive : ImageConfiguration → String)
    (given done : Option String) : Prop :=
  done = given ∨ given = none ∧
    ∃ image, config.getImageConfig imageRef = .ok image ∧ done = some (derive image)

/-- The function info of a message is the message's own, completed by the runtime. -/
structure Carries (f : Formats) (config : Config) (msg : Pb.FcctrdFunctionInfo)
    (info : FcctrdFunctionInfo) : Prop where
  id : f.asStr info.id = msg.functionId
  imageRef : info.imageRef = msg.imageRef
  memory : info.memory = msg.memoryMib.toNat * 2 ^ 20
  parentSnapshot : Filled config msg.imageRef (calculateParentSnapshot config)
    msg.parentSnapshot info.parentSnapshot
  processArgs : Filled config msg.imageRef (fun image => " ".intercalate image.args)
    msg.processArgs info.processArgs

/-- How the function info that is registered differs from the one that is received. -/
structure Completes (config : Config) (fi done : FcctrdFunctionInfo) : Prop where
  id : done.id = fi.id
  imageRef : done.imageRef = fi.imageRef
  memory : done.memory = fi.memory
  parentSnapshot : Filled config fi.imageRef (calculateParentSnapshot config)
    fi.parentSnapshot done.parentSnapshot
  processArgs : Filled config fi.imageRef (fun image => " ".intercalate image.args)
    fi.processArgs done.processArgs

variable {f}

theorem formProcessArgs_spec {σ : Type} (image : ImageConfiguration) (s : σ) :
    wp (formProcessArgs image) (Post.onOk fun args _ => args = " ".intercalate image.args) s := by
  unfold formProcessArgs ImageConfiguration.args
  split
  · dsimp only
    split <;> split <;> simp [Post.onOk]
  · simp [Post.onOk]

theorem finalizeFunctionInfo_spec {σ : Type} (config : Config) (fi : FcctrdFunctionInfo) (s : σ) :
    wp (finalizeFunctionInfo config fi) (Post.onOk fun done _ => Completes config fi done) s := by
  rw [finalizeFunctionInfo, wp_bind, wp_fromExcept]
  refine ⟨fun image known => ?_, fun _ _ => trivial⟩
  rw [mapError_eq_ok] at known
  have parentSnapshot : Filled config fi.imageRef (calculateParentSnapshot config)
      fi.parentSnapshot (some (fi.parentSnapshot.getD (calculateParentSnapshot config image))) := by
    cases given : fi.parentSnapshot with
    | some parent => exact .inl rfl
    | none => exact .inr ⟨rfl, image, known, rfl⟩
  dsimp only
  split
  next args given => exact ⟨rfl, rfl, rfl, parentSnapshot, .inl given.symm⟩
  next missing =>
    rw [wp_bind, wp_mapErr]
    refine wp_mono (formProcessArgs_spec image s) ?_ (fun _ _ _ => trivial) fun _ _ _ => trivial
    rintro args t rfl
    exact ⟨rfl, rfl, rfl, parentSnapshot, .inr ⟨missing, image, known, rfl⟩⟩

theorem registerFunction_spec (config : Config) (fi : FcctrdFunctionInfo)
    (registry : Table String Nat) :
    wp (registerFunction config fi) (Post.onOk fun done _ => Completes config fi done) registry := by
  have kept : Completes config fi fi := ⟨rfl, rfl, rfl, .inl rfl, .inl rfl⟩
  unfold registerFunction
  dsimp only
  split
  next => exact trivial
  next =>
    simp only [wp_bind, wp_get, wp_ite, wp_fromExcept, wp_modify]
    refine ⟨fun _ => ⟨fun _ _ => ?_, fun _ _ => trivial⟩, fun _ => ?_⟩ <;>
      exact ⟨fun _ => finalizeFunctionInfo_spec config fi _, fun _ => kept⟩

theorem yields : (codec f).Yields fun info => Normal info.memory := by
  intro v info read
  have anything {α : Type} (c : Codec α) : c.Yields fun _ => True := fun _ _ _ => trivial
  have fields := Codec.record_yields (Fields.cons_yields (anything _) Field.required_defaults <|
    Fields.cons_yields (anything _) Field.required_defaults <|
    Fields.cons_yields memory_yields Field.required_defaults <|
    Fields.cons_yields (anything _) ⟨fun _ _ => trivial, fun _ _ => trivial⟩ <|
    Fields.cons_yields (anything _) ⟨fun _ _ => trivial, fun _ _ => trivial⟩ Fields.nil_yields) v info read
  exact fields.2.2.1

theorem recovers_iff (sound : f.Sound) {info : FcctrdFunctionInfo} (normal : Normal info.memory)
    (fits : info.memory < 2 ^ 64) : (codec f).Recovers info ↔ info.memory ≠ mebibyte := by
  rw [← memory_recovers_iff (f := f) fits normal]
  unfold codec
  rw [Codec.record_recovers_iff]
  constructor
  · intro recovers
    obtain ⟨-, recovers⟩ := Fields.cons_recovers_iff.mp recovers
    obtain ⟨-, recovers⟩ := Fields.cons_recovers_iff.mp recovers
    exact (Fields.cons_recovers_iff.mp recovers).1
  · intro memory
    apply Fields.cons_recovers_iff.mpr ⟨functionId_recovers sound _, ?_⟩
    apply Fields.cons_recovers_iff.mpr ⟨Codec.str_recovers _, ?_⟩
    apply Fields.cons_recovers_iff.mpr ⟨memory, ?_⟩
    apply Fields.cons_recovers_iff.mpr ⟨optionStr_recovers _, ?_⟩
    exact Fields.cons_recovers_iff.mpr ⟨optionStr_recovers _, Fields.nil_recovers⟩

end FirecrackerContainerd

instance : LawfulRuntime FcctrdFunctionInfo where
  Received info := Normal info.memory
  normal normal := normal
  yields _ := FirecrackerContainerd.yields
  ofMessage _ _ := normal_mebibytes _
  recovers_iff sound normal fits := FirecrackerContainerd.recovers_iff sound normal fits
  registerFunction normal := by
    refine wp_mono (FirecrackerContainerd.registerFunction_spec _ _ _) ?_
      (fun _ _ => id) fun _ _ => id
    intro done registry completes
    exact ⟨completes.memory ▸ normal, completes.memory⟩

/-! ## Across a reboot -/

section Reboot
variable {f} {pack} {config : Runtime.Config Info} {faults : WriteFaults}
  {req : Pb.RegisterFunctionRequest} {r r' : Registrar Row Info}

/-- The overrides that a request asks for, if it does. -/
def Asked (f : Formats) (req : Pb.RegisterFunctionRequest) :
    Option FunctionAdmissionOverrides → Prop
  | some o => ∃ ao, req.admission = some ao ∧ Overrides f ao o
  | none => req.admission = none

theorem Asked.fits {o : FunctionAdmissionOverrides} (h : Asked f req (some o)) : Fits o := by
  obtain ⟨ao, -, overrides⟩ := h
  exact overrides.fits

theorem wp_storageOp {σ : Type} {msg : String} {fault : Option String} {P : Unit → σ → Prop}
    {s : σ} (ok : P () s) : wp (storageOp msg fault) (Post.onOk P) s := by
  unfold storageOp
  split
  · trivial
  · exact ok

/-- The row of a function is written, or nothing is. -/
theorem storeToDb_spec (func : RegisteredFunction Info) (r : Registrar Row Info) :
    wp (storeToDb f pack faults func) (Post.onOk fun _ r' => r' = { r with
      functions := r.functions.insert (asBytes pack (functionId f) (Runtime.id func.info))
        (asBytes pack (registeredFunctionCodec f) func) }) r := by
  simp only [storeToDb, writeTxn, wp_bind, wp_transaction]
  refine wp_storageOp (P := fun _ _ => _) ?_
  refine wp_storageOp (P := fun _ _ => _) ?_
  refine wp_storageOp (P := fun _ _ => _) ?_
  exact wp_storageOp (P := fun _ r' => _) rfl

/-- What is registered by a request, with what the runtime made of the function info. -/
structure Registers (f : Formats) (pack : MessagePack Row) (config : Runtime.Config Info)
    (req : Pb.RegisterFunctionRequest)
    (r r' : Registrar Row Info) (info : Info) (func : RegisteredFunction Info) : Prop where
  received : tryFrom f Info req = .ok info
  allowed : Runtime.memory info ≤ maxAllowedFunctionMem
  registered : ∃ registry, Runtime.registerFunction config info r.registry = .ok func.info registry
  admission : Asked f req func.admission
  store : r'.store.lookup (Runtime.id func.info) = some func
  row : r'.functions.lookup (asBytes pack (functionId f) (Runtime.id func.info)) =
    some (asBytes pack (registeredFunctionCodec f) func)

theorem admissionOf_asked {admission : Option FunctionAdmissionOverrides}
    (h : admissionOf f req = .ok admission) : Asked f req admission := by
  unfold admissionOf at h
  split at h
  next ao asked =>
    rw [mapError_eq_ok, exceptMap_eq_ok] at h
    obtain ⟨o, converted, rfl⟩ := h
    exact ⟨ao, asked, overridesTryFrom_spec converted⟩
  next absent =>
    obtain rfl : none = admission := Except.ok.inj h
    exact absent

theorem registerFunction_spec :
    wp (registerFunction f pack config faults req)
      (Post.onOk fun _ r' => ∃ info func, Registers f pack config req r r' info func) r := by
  simp only [registerFunction, wp_bind, wp_fromExcept, wp_get, wp_ite, wp_mapErr, mapError_eq_ok]
  refine ⟨fun admission asked => ⟨fun info received => ⟨fun _ => trivial, fun _ =>
    ⟨fun _ => trivial, fun allowed => ?_⟩⟩, fun _ _ => trivial⟩, fun _ _ => trivial⟩
  rw [Runtime.register, wp_focus]
  have ran := wp_onOk_iff.mpr fun done registry (ran : Runtime.registerFunction config info
    r.registry = .ok done registry) => ran
  refine wp_mono ran (fun done registry ran => ?_) (fun _ _ => id) fun _ _ => id
  refine wp_mono (storeToDb_spec ⟨done, admission⟩ _) ?_ (fun _ _ => id) fun _ _ => id
  rintro - t rfl
  simp only [Store.registerFunction, wp_bind, wp_get, wp_ite, wp_modify]
  refine ⟨fun _ => trivial, fun _ => ⟨info, ⟨done, admission⟩, received, Nat.le_of_not_lt allowed,
    ⟨registry, ran⟩, admissionOf_asked asked, ?_, ?_⟩⟩
  · exact AList.lookup_insert _
  · exact AList.lookup_insert _

/-- The function info of a request that comes as a protobuf message. -/
def Pb.RegisterFunctionRequest.proto3 (req : Pb.RegisterFunctionRequest) : Option Pb.Any :=
  match req.functionInfo with
  | some ⟨some (.proto3 any)⟩ => some any
  | _ => none

theorem tryFrom_proto {any : Pb.Any} {info : Info} (proto : req.proto3 = some any)
    (received : tryFrom f Info req = .ok info) :
    ∃ msg, Runtime.toMsg f any = .ok msg ∧ Runtime.ofMessage f msg = info := by
  unfold Pb.RegisterFunctionRequest.proto3 at proto
  split at proto
  next asked =>
    obtain rfl := Option.some.inj proto
    simpa only [tryFrom, asked, mapError_eq_ok, exceptMap_eq_ok] using received
  next => contradiction

section Lawful
variable [LawfulRuntime Info] {info : Info} {func : RegisteredFunction Info}

theorem tryFrom_received (received : tryFrom f Info req = .ok info) :
    LawfulRuntime.Received info := by
  unfold tryFrom at received
  split at received
  · split at received
    next any _ =>
      simp only [mapError_eq_ok, exceptMap_eq_ok] at received
      obtain ⟨msg, -, rfl⟩ := received
      exact LawfulRuntime.ofMessage f msg
    next base64 _ =>
      simp only [exceptBind_eq_ok] at received
      obtain ⟨json, -, value, -, received⟩ := received
      split at received
      next decoded =>
        obtain rfl := Except.ok.inj received
        exact LawfulRuntime.yields f value _ decoded
      next => contradiction
    next => contradiction
  · contradiction

/-- The row that is written for a function is read as the function unless its memory is one
mebibyte. -/
theorem Registers.read_iff (sound : f.Sound) (packs : pack.Sound)
    (h : Registers f pack config req r r' info func) :
    readRow f pack (asBytes pack (registeredFunctionCodec f) func) = some func ↔
      Runtime.memory func.info ≠ mebibyte := by
  have received := tryFrom_received h.received
  obtain ⟨registry, ran⟩ := h.registered
  obtain ⟨done, same⟩ := wp_onOk_iff.mp (LawfulRuntime.registerFunction received) _ _ ran
  have fits : Runtime.memory func.info < 2 ^ 64 := by
    rw [same]
    exact Nat.lt_of_le_of_lt h.allowed (by decide)
  have overrides : (overridesCodec f).option.Recovers func.admission := by
    refine Codec.option_recovers (fun _ => nofun) fun o eq => overridesCodec_recovers sound ?_
    have asked := h.admission
    rw [eq] at asked
    exact asked.fits
  rw [← LawfulRuntime.recovers_iff sound done fits, readRow, fromBytes, asBytes, packs, Option.bind_some]
  change (registeredFunctionCodec f).Recovers func ↔ _
  unfold registeredFunctionCodec
  rw [Codec.record_recovers_iff]
  constructor
  · intro recovers
    exact (Fields.cons_recovers_iff.mp recovers).1
  · intro recovers
    apply Fields.cons_recovers_iff.mpr ⟨recovers, ?_⟩
    exact Fields.cons_recovers_iff.mpr ⟨overrides, Fields.nil_recovers⟩

end Lawful

/-- A function that is read from a row and then completed by the runtime. -/
def Loaded (f : Formats) (pack : MessagePack Row) (config : Runtime.Config Info)
    (r : Registrar Row Info) (func : RegisteredFunction Info) : Prop :=
  ∃ key row read before after, r.functions.lookup key = some row ∧
    readRow f pack row = some read ∧ func.admission = read.admission ∧
    Runtime.registerFunction config read.info before = .ok func.info after

/-- After a start from an empty store, each function of the store is one of the database. -/
theorem loadFromDb_spec {faults : ReadFaults Row} (empty : r.store = ∅) :
    wp (loadFromDb f pack config faults) (Post.onOk fun _ r' => ∀ id func,
      r'.store.lookup id = some func → Loaded f pack config r func) r := by
  simp only [loadFromDb, wp_bind, wp_get]
  refine wp_storageOp (P := fun _ _ => _) ?_
  refine wp_storageOp (P := fun _ _ => _) ?_
  refine wp_storageOp (P := fun _ _ => _) ?_
  refine wp_storageOp (P := fun _ _ => _) ?_
  refine wp_forM (I := fun s : Registrar Row Info => ∀ id func, s.store.lookup id = some func →
    Loaded f pack config r func) (fun id func stored => ?_) (fun s loaded => loaded)
    fun entry mem s loaded => ?_
  · simp [empty] at stored
  have row : r.functions.lookup entry.1 = some entry.2 := AList.mem_lookup_iff.mpr mem
  simp only [wp_bind, wp_expect]
  refine wp_storageOp (P := fun _ _ => _) ⟨fun read decoded => ?_, fun _ => trivial⟩
  rw [Runtime.register, wp_focus]
  have ran := wp_onOk_iff.mpr fun done registry (ran : Runtime.registerFunction config read.info
    s.registry = .ok done registry) => ran
  refine wp_mono ran (fun done registry ran => ?_) (fun _ _ => id) fun _ _ => id
  simp only [Store.registerFunction, wp_bind, wp_get, wp_ite, wp_modify]
  refine ⟨fun _ => trivial, fun _ => Table.forall_insert.mpr ⟨?_, fun id func _ => loaded id func⟩⟩
  exact ⟨entry.1, entry.2, read, s.registry, registry, row, decoded, rfl, ran⟩

/-- A function of the store is the one that is read from its row. -/
def ReadBack (f : Formats) (pack : MessagePack Row) (r : Registrar Row Info)
    (func : RegisteredFunction Info) : Prop :=
  ∃ row, r.functions.lookup (asBytes pack (functionId f) (Runtime.id func.info)) = some row ∧
    readRow f pack row = some func

end Reboot

section Survival
variable {Row : Type} [DecidableEq Row] {f : Formats} {pack : MessagePack Row}

/-- The function that a request registers is the same after a reboot, unless its memory is one
mebibyte, and one that came as a protobuf message is the message's own as far as the message says:
the runtime `rt-fcctrd` completes it. -/
theorem registered_function_survives_reboot (sound : f.Sound) (packs : pack.Sound)
    (faults : WriteFaults) (req : Pb.RegisterFunctionRequest) :
    (∀ (config : Firecracker.Config) (r r' : Registrar Row FcFunctionInfo),
      registerFunction f pack config faults req r = .ok () r' →
        ∃ info func, Registers f pack config req r r' info func ∧
          (func.info.memory ≠ 2 ^ 20 → ReadBack f pack r' func) ∧
          ∀ any msg, req.proto3 = some any → f.toFcMsg any = .ok msg →
            msg.vcpuCount.toNat < 256 → Firecracker.Carries f msg func.info) ∧
    ∀ (config : FirecrackerContainerd.Config) (r r' : Registrar Row FcctrdFunctionInfo),
      registerFunction f pack config faults req r = .ok () r' →
        ∃ info func, Registers f pack config req r r' info func ∧
          (func.info.memory ≠ 2 ^ 20 → ReadBack f pack r' func) ∧
          ∀ any msg, req.proto3 = some any → f.toFcctrdMsg any = .ok msg →
            FirecrackerContainerd.Carries f config msg func.info := by
  constructor
  · intro config r r' ran
    obtain ⟨info, func, registers⟩ := wp_onOk_iff.mp registerFunction_spec _ _ ran
    obtain ⟨registry, registered⟩ := registers.registered
    have done : func.info = info :=
      wp_onOk_iff.mp (Firecracker.registerFunction_spec _ _ _) _ _ registered
    refine ⟨info, func, registers, fun other => ?_, ?_⟩
    · exact ⟨_, registers.row, (registers.read_iff sound packs).mpr other⟩
    · intro any msg proto decoded narrow
      obtain ⟨msg', decoded', rfl⟩ := tryFrom_proto proto registers.received
      obtain rfl : msg = msg' := Except.ok.inj (decoded.symm.trans decoded')
      rw [done]
      exact ⟨sound.asStr _, mebibytes_message _, Nat.mod_eq_of_lt narrow, rfl⟩
  · intro config r r' ran
    obtain ⟨info, func, registers⟩ := wp_onOk_iff.mp registerFunction_spec _ _ ran
    obtain ⟨registry, registered⟩ := registers.registered
    have done : FirecrackerContainerd.Completes config info func.info :=
      wp_onOk_iff.mp (FirecrackerContainerd.registerFunction_spec _ _ _) _ _ registered
    refine ⟨info, func, registers, fun other => ?_, ?_⟩
    · exact ⟨_, registers.row, (registers.read_iff sound packs).mpr other⟩
    · intro any msg proto decoded
      obtain ⟨msg', decoded', rfl⟩ := tryFrom_proto proto registers.received
      obtain rfl : msg = msg' := Except.ok.inj (decoded.symm.trans decoded')
      refine ⟨?_, done.imageRef, ?_, done.parentSnapshot, done.processArgs⟩
      · rw [done.id]
        exact sound.asStr _
      · rw [done.memory]
        exact mebibytes_message _

end Survival

section Example

/-- Every text is the name of one id. -/
noncomputable def exampleNames : String ≃ FunctionId :=
  letI : Encodable String := .ofLeftInjection (fun s => s.toList.map Char.toNat)
    (fun codes => some (.ofList (codes.map Char.ofNat))) fun s => by simp [Function.comp_def]
  letI := Denumerable.ofEncodableOfInfinite String
  Denumerable.eqv String

/-- Formats under which every message is `fc` or `fcctrd`. -/
noncomputable def exampleFormats (fc : Pb.FcFunctionInfo) (fcctrd : Pb.FcctrdFunctionInfo) :
    Formats where
  decodeBase64 bytes := .ok bytes
  parseJson _ := .error "EOF while parsing a value"
  mismatch _ := "invalid type"
  toFcMsg _ := .ok fc
  toFcctrdMsg _ := .ok fcctrd
  toStd delay := .ok (delay.seconds.toInt.toNat * 10 ^ 9 + delay.nanos.toInt.toNat)
  formatDuration d := String.ofList (List.replicate d 'n')
  parseDuration s := some s.length
  parseByteUnit _ := none
  displayByteUnit b := s!"{b} B"
  functionId := exampleNames
  asStr := exampleNames.symm
  debug _ := ""

theorem exampleFormats_sound (fc : Pb.FcFunctionInfo) (fcctrd : Pb.FcctrdFunctionInfo) :
    (exampleFormats fc fcctrd).Sound where
  humantime d := by simp [exampleFormats]
  functionId id := exampleNames.apply_symm_apply id
  asStr s := exampleNames.symm_apply_apply s

def exampleFc (mib : UInt32) : Pb.FcFunctionInfo :=
  { functionId := "f-1", memoryMib := mib, vcpuCount := 2, entrypoint := "" }

/-- A message that leaves the arguments to the image. -/
def exampleFcctrd : Pb.FcctrdFunctionInfo :=
  { functionId := "f-1", memoryMib := 512, imageRef := "image", parentSnapshot := none,
    processArgs := none }

def exampleRequest : Pb.RegisterFunctionRequest :=
  { functionInfo := some ⟨some (.proto3 ⟨"", []⟩)⟩, admission := none }

noncomputable local instance : DecidableEq Value := Classical.decEq Value

/-- Rows that are the values themselves. -/
def examplePack : MessagePack Value := ⟨id, some⟩

def exampleConfig : FirecrackerContainerd.Config where
  init := none
  ensureImage _ := .ok ()
  getImageConfig _ := .ok ⟨some (some ["/bin/serve"], some ["--port", "80"]), ["sha256:00"]⟩
  sha256 _ := ""

def exampleStart : Registrar Value FcctrdFunctionInfo := ⟨∅, ∅, (∅ : Table String Nat)⟩

noncomputable def exampleCompleted : RegisteredFunction FcctrdFunctionInfo where
  info := {
    id := exampleNames "f-1"
    imageRef := "image"
    memory := 512 * 2 ^ 20
    parentSnapshot := some "sha256:00"
    processArgs := some "/bin/serve --port 80" }
  admission := none

/-- The arguments that the message leaves out are those of the image. -/
theorem arguments_filled_in :
    ∃ r, registerFunction (exampleFormats (exampleFc 512) exampleFcctrd) examplePack exampleConfig
        .none exampleRequest exampleStart = .ok () r ∧
      r.store.lookup (exampleNames "f-1") = some exampleCompleted ∧
      exampleCompleted.info.processArgs = some "/bin/serve --port 80" ∧
      exampleFcctrd.processArgs = none :=
  ⟨_, rfl, AList.lookup_insert _, rfl, rfl⟩

def exampleFcConfig : Firecracker.Config where
  uvmsRootfsPath := "/rootfs"
  idPrefix _ := some "f"
  display _ := "f-1"
  noImage _ := none

def exampleFcStart : Registrar Value FcFunctionInfo := ⟨∅, ∅, (∅ : Table FunctionId String)⟩

/-- A function of 512 MiB and two cores is the message's own after a reboot, too. -/
theorem registered_function_survives_reboot_fc :
    ∃ r func, registerFunction (exampleFormats (exampleFc 512) exampleFcctrd) examplePack
        exampleFcConfig .none exampleRequest exampleFcStart = .ok () r ∧
      ReadBack (exampleFormats (exampleFc 512) exampleFcctrd) examplePack r func ∧
      func.info.memory = 512 * 2 ^ 20 ∧ func.info.vcpuCount = 2 := by
  have ran : ∃ r, registerFunction (exampleFormats (exampleFc 512) exampleFcctrd) examplePack
      exampleFcConfig .none exampleRequest exampleFcStart = .ok () r := ⟨_, rfl⟩
  obtain ⟨r, ran⟩ := ran
  obtain ⟨-, func, -, readBack, own⟩ := (registered_function_survives_reboot
    (exampleFormats_sound (exampleFc 512) exampleFcctrd) (fun _ => rfl : examplePack.Sound)
    .none exampleRequest).1 exampleFcConfig exampleFcStart r ran
  have carries := own ⟨"", []⟩ (exampleFc 512) rfl rfl (by decide)
  have memory : func.info.memory = 512 * 2 ^ 20 := carries.memory
  refine ⟨r, func, ran, readBack ?_, memory, carries.vcpuCount⟩
  rw [memory]
  decide

end Example

end Persistence
end Snaplace
