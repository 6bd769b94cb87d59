import Snaplace.Network.TapRollback
import Snaplace.Runtime.Creation

/-!
# Creating a sandbox without containerd

The runtime is the parent of the Firecracker process, and talks to its API. Every step that fails once
the process runs kills it and waits for its end.
-/
namespace Snaplace
open Foundation

namespace Creation.Fc
open Handler (attempt mapErr refuse orUndo logged expect require focus)
open Network (Tap TapDevice)
open Network.TapCreation (Kernel Errno)
open UvmConfig (OsText join)

structure Process where
  pid : Nat
  args : List (List Char)
  deriving DecidableEq

structure World where
  kernel : Kernel
  processes : List Process
  nextPid : Nat
  fresh : ∀ p ∈ processes, p.pid < nextPid
  /-- The files written, by path. -/
  configs : List (List Char × List Char)
  /-- The runtime's own fields, of which the client is known by its socket. -/
  uvmName : Option String
  client : Option (List Char)

namespace World

def spawn (w : World) (args : List (List Char)) : World :=
  { w with
    processes := w.processes ++ [{ pid := w.nextPid, args }]
    nextPid := w.nextPid + 1
    fresh := by
      intro p mem
      rcases List.mem_append.mp mem with old | new
      · exact Nat.lt_succ_of_lt (w.fresh p old)
      · simp_all }

/-- The process has ended and its parent knows. -/
def reap (w : World) (pid : Nat) : World :=
  { w with
    processes := w.processes.filter fun p => p.pid ≠ pid
    fresh := fun p mem => w.fresh p (List.mem_of_mem_filter mem) }

def Runs (w : World) (pid : Nat) : Prop := ∃ p ∈ w.processes, p.pid = pid

instance (w : World) (pid : Nat) : Decidable (w.Runs pid) :=
  inferInstanceAs (Decidable (∃ p ∈ w.processes, p.pid = pid))

end World

inductive IoError where
  | os (errno : Errno)
  | other (msg : String)
  deriving DecidableEq

inductive State where
  | notStarted
  | running
  | paused
  deriving DecidableEq

structure InstanceInfo where
  id : String
  state : State
  deriving DecidableEq

/-- What is wrong with a new VM. -/
inductive Invalid where
  | files (msg : String)
  | joinTask
  | state (info : InstanceInfo)
  | api (code : Nat)
  deriving DecidableEq

inductive Error where
  | tap (source : Network.TapCreation.Error)
  | init (msg : String)
  | apiSetup (msg : String) (code : Nat)
  | io (msg : String) (err : IoError)
  | createVm (source : Invalid)
  deriving DecidableEq

structure Answers where
  tap : Network.TapCreation.Answers
  ensureFiles : Option Invalid
  writeConfig : Option Errno
  spawn : Option Errno
  pidfd : Option Errno
  /-- What `try_wait` tells at each attempt: nothing of a process that runs. -/
  childStatus : Nat → Except Errno (Option Nat)
  connect : Nat → Option Errno
  putLogger : Option Nat
  putMetrics : Option Nat
  describeInstance : Except Nat InstanceInfo
  kill : Option Errno

/-- The runtime, of which `config` is what the configuration of a microVM needs. -/
structure Firecracker where
  config : UvmConfig.Firecracker
  uvmsRootPath : List Char
  firecrackerBin : List Char
  rootfsRegistry : String → Option OsText
  debugAssertions : Bool

structure MicroVm where
  functionId : String
  tap : TapDevice
  proc : Option Nat

section Process
variable (answers : Answers)

def EINVAL : Errno := 22

/-- Kill the child and wait for it. One that was waited for before cannot be killed. -/
def kill (pid : Nat) : Handler World Errno Unit := do
  if (← get).Runs pid then
    refuse (fun errno => errno) answers.kill
    modify (·.reap pid)
  else throw EINVAL

def killAndWait {ε : Type} (pid : Nat) : Handler World ε Unit := logged (kill answers pid)

def childStatus (pid attempt : Nat) : Handler World IoError Unit :=
  match answers.childStatus attempt with
  | .error errno => throw (.os errno)
  | .ok (some status) => do
    modify (·.reap pid)
    throw (.other s!"Firecracker exited before its API socket becomes ready: ExitStatus(unix_wait_status({status}))")
  | .ok none => pure ()

def MAX_ATTEMPTS : Nat := 20

/-- The attempts that are left. -/
def attempts (pid : Nat) : Nat → Option Errno → Handler World IoError Unit
  | 0, lastErr => do
    childStatus answers pid MAX_ATTEMPTS
    throw (lastErr.elim (.other "Firecracker API socket did not become ready") .os)
  | n + 1, _ => do
    childStatus answers pid (MAX_ATTEMPTS - (n + 1))
    match answers.connect (MAX_ATTEMPTS - (n + 1)) with
    | none => pure ()
    | some errno => attempts pid n (some errno)

def awaitFcApiServer (pid : Nat) : Handler World IoError Unit := attempts answers pid MAX_ATTEMPTS none

def forkExecFc (bin vmId sock : List Char) (config : Option (List Char)) : Handler World Error Nat := do
  refuse (fun errno => .io "failed to fork/exec firecracker process" (.os errno)) answers.spawn
  let pid := (← get).nextPid
  modify (·.spawn (bin :: "--id".toList :: vmId :: "--api-sock".toList :: sock ::
    config.elim [] fun path => ["--config-file".toList, path]))
  match answers.pidfd with
  | none => pure pid
  | some errno =>
    mapErr (fun err => .io s!"failed to SIGKILL and reap child process {pid}" (.os err))
      (kill answers pid)
    throw (.io s!"failed to pidfd_open(2) child process {pid}" (.os errno))

inductive InitFiles where
  | config (path : List Char)
  | fifos (logging metrics : List Char)

def initializeFcProcess (bin vmId sock : List Char) : InitFiles → Handler World Error Nat
  | .config path => forkExecFc answers bin vmId sock (some path)
  | .fifos _ _ => do
    let pid ← forkExecFc answers bin vmId sock none
    let _ ← attempt (awaitFcApiServer answers pid)
    orUndo (.apiSetup "configuring logger") (killAndWait answers pid)
      (refuse (fun code => code) answers.putLogger)
    orUndo (.apiSetup "configuring metrics") (killAndWait answers pid)
      (refuse (fun code => code) answers.putMetrics)
    pure pid

/-- It is the VM asked for, and runs. -/
def checkInstance (vmId : String) : Handler World Invalid Unit :=
  match answers.describeInstance with
  | .ok info => if info.state = .running ∧ info.id = vmId then pure () else throw (.state info)
  | .error code => throw (.api code)

end Process

def lookupRootfsPath (rt : Firecracker) (functionId : String) : Handler World Error OsText :=
  match rt.rootfsRegistry functionId with
  | some path => pure path
  | none => throw (.init s!"missing rootfs path for FunctionId '{functionId}'")

def createSandbox (rt : Firecracker) (answers : Answers) (functionId : String) (tapResource : Tap) :
    Handler World Error MicroVm := do
  let w ← get
  require (rt.debugAssertions = false ∨ (w.uvmName = none ∧ w.client = none))
    "BUG: Creating new Sandbox while already owning one"
  let tap ← focus World.kernel (fun kernel w => { w with kernel })
    (mapErr .tap (acquireTap answers.tap tapResource))
  let vmId := tap.info.name
  let uvmDirPath := join rt.uvmsRootPath vmId.toList
  refuse .createVm answers.ensureFiles
  let apiSockPath := join uvmDirPath "api.sock".toList
  let configFilePath := join uvmDirPath "uvm.json".toList
  let rootfsPath ← lookupRootfsPath rt functionId
  let configJson ← expect "assertion failed: prefix_len <= Ipv4Addr::BITS as u8"
    (UvmConfig.renderUvmConfig rt.config rootfsPath tap uvmDirPath vmId.toList)
  refuse (fun errno => .io
    s!"failed to write uVM config file '{String.ofList configFilePath}'" (.os errno)) answers.writeConfig
  modify fun w => { w with configs := (configFilePath, configJson) :: w.configs }
  let pid ← initializeFcProcess answers rt.firecrackerBin vmId.toList apiSockPath
    (.config configFilePath)
  orUndo (.io "awaiting Firecracker's API server") (killAndWait answers pid)
    (awaitFcApiServer answers pid)
  orUndo .createVm (killAndWait answers pid) (checkInstance answers vmId)
  modify fun w => { w with uvmName := some vmId, client := some apiSockPath }
  pure { functionId, tap, proc := some pid }

/-! ## A failed creation leaves no process -/

section Proofs
variable {answers : Answers} {w t : World} {pid : Nat}

/-- The child runs or has ended, and no other process has come or gone. -/
structure Child (w : World) (pid : Nat) (t : World) : Prop where
  new : ¬w.Runs pid
  processes : t.processes = w.processes ∨ ∃ p, p.pid = pid ∧ t.processes = w.processes ++ [p]

theorem Child.reap (child : Child w pid t) : (t.reap pid).processes = w.processes := by
  have others : ∀ p ∈ w.processes, ¬p.pid = pid := fun p mem same => child.new ⟨p, mem, same⟩
  rcases child.processes with ended | ⟨p, same, running⟩
  · simpa [World.reap, ended] using others
  · simpa [World.reap, running, same] using others

/-- A child that does not run is gone. -/
theorem Child.ended (child : Child w pid t) (ended : ¬t.Runs pid) : t.processes = w.processes := by
  rcases child.processes with same | ⟨p, same, running⟩
  · exact same
  · exact absurd ⟨p, by rw [running]; exact List.mem_concat_self, same⟩ ended

theorem kill_spec (kills : answers.kill = none) (child : Child w pid t) :
    Handler.wp (kill answers pid) (.state fun u => u.processes = w.processes) t := by
  unfold kill
  rw [Handler.wp_bind, Handler.wp_get]
  apply (Handler.wp_ite _ _ _ _ _).mpr
  constructor
  · intro _
    rw [Handler.wp_bind, Handler.wp_refuse, kills]
    exact ⟨fun _ => child.reap, nofun⟩
  · exact fun ended => child.ended ended

/-- A step that fails takes the child with it. -/
theorem orKill_spec {ε α : Type} {step : Handler World ε α} (kills : answers.kill = none)
    (wrap : ε → Error) (h : Handler.wp step (.state (Child w pid)) t) :
    Handler.wp (orUndo wrap (killAndWait answers pid) step)
      { ok := fun _ => Child w pid, err := fun _ u => u.processes = w.processes } t := by
  rw [Handler.wp_orUndo]
  apply Handler.wp_mono h
  · exact fun _ _ child => child
  · intro e u child
    refine (Handler.wp_logged _ _ _).mpr ?_
    apply Handler.wp_mono (kill_spec kills child)
    · exact fun _ _ gone => gone
    · exact fun _ _ gone => gone
    · exact fun _ _ => False.elim
  · exact fun _ _ => False.elim

theorem childStatus_spec (child : Child w pid t) (attempt : Nat) :
    Handler.wp (childStatus answers pid attempt) (.state (Child w pid)) t := by
  unfold childStatus
  split
  · exact child
  · exact ⟨child.new, .inl child.reap⟩
  · exact child

theorem attempts_spec (child : Child w pid t) (n : Nat) (lastErr : Option Errno) :
    Handler.wp (attempts answers pid n lastErr) (.state (Child w pid)) t := by
  induction n generalizing lastErr t with
  | zero =>
    apply Handler.wp_seq (childStatus_spec child _)
    · exact fun _ _ child => child
    · exact fun _ _ child => child
    · exact fun _ _ => False.elim
  | succ n ih =>
    apply Handler.wp_seq (childStatus_spec child _)
    · intro _ u child
      split
      · exact child
      · exact ih child _
    · exact fun _ _ child => child
    · exact fun _ _ => False.elim

theorem checkInstance_spec (child : Child w pid t) (vmId : String) :
    Handler.wp (checkInstance answers vmId) (.state (Child w pid)) t := by
  unfold checkInstance
  split
  · exact (Handler.wp_ite _ _ _ _ _).mpr ⟨fun _ => child, fun _ => child⟩
  · exact child

theorem forkExecFc_spec (kills : answers.kill = none) (bin vmId sock : List Char)
    (config : Option (List Char)) (w : World) :
    Handler.wp (forkExecFc answers bin vmId sock config)
      { ok := fun pid t => Child w pid t, err := fun _ t => t.processes = w.processes } w := by
  have new : ¬w.Runs w.nextPid := by
    intro ⟨p, mem, same⟩
    have below := w.fresh p mem
    omega
  unfold forkExecFc
  simp only [Handler.wp_bind, Handler.wp_refuse, Handler.wp_get, Handler.wp_modify]
  refine ⟨fun _ => ?_, fun _ _ => trivial⟩
  have child (args : List (List Char)) : Child w w.nextPid (w.spawn args) :=
    ⟨new, .inr ⟨_, rfl, rfl⟩⟩
  split
  · exact child _
  · rw [Handler.wp_bind, Handler.wp_mapErr]
    apply Handler.wp_mono (kill_spec kills (child _))
    · exact fun _ _ gone => gone
    · exact fun _ _ gone => gone
    · exact fun _ _ => False.elim

theorem initializeFcProcess_spec (kills : answers.kill = none) (bin vmId sock : List Char)
    (files : InitFiles) (w : World) :
    Handler.wp (initializeFcProcess answers bin vmId sock files)
      { ok := fun pid t => Child w pid t, err := fun _ t => t.processes = w.processes } w := by
  cases files with
  | config path => exact forkExecFc_spec kills bin vmId sock (some path) w
  | fifos logging metrics =>
    have refused (o : Option Nat) {pid : Nat} {u : World} (child : Child w pid u) :
        Handler.wp (refuse (fun code => code) o) (.state (Child w pid)) u :=
      (Handler.wp_refuse _ _ _ _).mpr ⟨fun _ => child, fun _ _ => child⟩
    apply Handler.wp_seq (forkExecFc_spec kills bin vmId sock none w)
    · intro pid t child
      -- Whether the API answers shows with the next request.
      apply Handler.wp_seq (P := { ok := fun _ => Child w pid, err := fun _ _ => False })
      · rw [Handler.wp_attempt]
        exact attempts_spec child MAX_ATTEMPTS none
      · intro _ t child
        apply Handler.wp_seq (orKill_spec kills _ (refused answers.putLogger child))
        · intro _ t child
          apply Handler.wp_seq (orKill_spec kills _ (refused answers.putMetrics child))
          · exact fun _ _ child => child
          · exact fun _ _ gone => gone
          · exact fun _ _ => False.elim
        · exact fun _ _ gone => gone
        · exact fun _ _ => False.elim
      · exact fun _ _ => False.elim
      · exact fun _ _ => False.elim
    · exact fun _ _ gone => gone
    · exact fun _ _ => False.elim

/-- No process is left if the creation does not succeed. -/
def NothingLeft {α : Type} (w : World) : Handler.Post World Error α where
  ok _ _ := True
  err _ t := t.processes = w.processes
  panic _ t := t.processes = w.processes

theorem createSandbox_spec (rt : Firecracker) (answers : Answers) (kills : answers.kill = none)
    (functionId : String) (tapResource : Tap) (w : World) :
    Handler.wp (createSandbox rt answers functionId tapResource) (NothingLeft w) w := by
  unfold createSandbox
  rw [Handler.wp_bind, Handler.wp_get]
  dsimp only
  rw [Handler.wp_bind, Handler.wp_require]
  refine ⟨fun _ => ?_, fun _ => rfl⟩
  dsimp only
  rw [Handler.wp_bind, Handler.wp_focus, Handler.wp_mapErr]
  unfold Handler.wp
  cases acquireTap answers.tap tapResource w.kernel with
  | err e k => rfl
  | panic msg k => rfl
  | ok tap k =>
    change Handler.wp _ _ { w with kernel := k }
    rw [Handler.wp_bind, Handler.wp_refuse]
    refine ⟨fun _ => ?_, fun _ _ => rfl⟩
    have looked : Handler.wp (lookupRootfsPath rt functionId) (.state (· = { w with kernel := k }))
        { w with kernel := k } := by
      unfold lookupRootfsPath
      split <;> rfl
    apply Handler.wp_seq looked
    · intro rootfsPath u same
      cases same
      rw [Handler.wp_bind, Handler.wp_expect]
      refine ⟨fun configJson _ => ?_, fun _ => rfl⟩
      dsimp only
      rw [Handler.wp_bind, Handler.wp_refuse]
      refine ⟨fun _ => ?_, fun _ _ => rfl⟩
      dsimp only
      rw [Handler.wp_bind, Handler.wp_modify]
      apply Handler.wp_seq (initializeFcProcess_spec kills _ _ _ _ _)
      · intro pid t child
        apply Handler.wp_seq (orKill_spec kills _ (attempts_spec child MAX_ATTEMPTS none))
        · intro _ t child
          apply Handler.wp_seq (orKill_spec kills _ (checkInstance_spec child tap.info.name))
          · exact fun _ _ _ => trivial
          · exact fun _ _ gone => gone
          · exact fun _ _ => False.elim
        · exact fun _ _ gone => gone
        · exact fun _ _ => False.elim
      · exact fun _ _ gone => gone
      · exact fun _ _ => False.elim
    · intro _ _ same
      cases same
      rfl
    · exact fun _ _ => False.elim

end Proofs

end Creation.Fc

namespace Creation

/-- As long as processes can be killed, VMs stopped and containers deleted: without containerd a failed
creation leaves nothing, and with it if and only if no request is carried out without its reply and a
task that is created is also started. -/
theorem failed_creation_leaves_nothing_iff (fc : Fc.Firecracker) (fcAnswers : Fc.Answers)
    (kills : fcAnswers.kill = none) (fcWorld : Fc.World) (fcctrd : Fcctrd.FirecrackerContainerd)
    (answers : Fcctrd.Answers) (deletes : answers.deleteContainer = none)
    (stops : answers.stopVm = none) (world : Fcctrd.World) (functionId : String)
    (tapResource : Network.Tap) :
    Handler.wp (Fc.createSandbox fc fcAnswers functionId tapResource) (Fc.NothingLeft fcWorld) fcWorld ∧
      (Handler.wp (Fcctrd.createSandbox fcctrd answers functionId tapResource)
          (Fcctrd.NothingLeft world.containerd) world ↔
        Fcctrd.Kept fcctrd answers world tapResource) :=
  ⟨Fc.createSandbox_spec fc fcAnswers kills functionId tapResource fcWorld,
    Fcctrd.createSandbox_iff fcctrd answers deletes stops functionId tapResource world⟩

section Example
open Network.TapCreation (smooth tap noDevices)

def fc : Fc.Firecracker where
  config :=
    { kernelImg := [], kernelVerbosity := .silent, functionInfo := { memory := 0, vcpuCount := 1 },
      arch := .x86_64, hashOne := fun _ => 0 }
  uvmsRootPath := ['/']
  firecrackerBin := []
  rootfsRegistry _ := some []
  debugAssertions := false

def fcAnswers : Fc.Answers where
  tap := smooth
  ensureFiles := none
  writeConfig := none
  spawn := none
  pidfd := none
  childStatus _ := .ok none
  connect _ := none
  putLogger := none
  putMetrics := none
  describeInstance := .error 500
  kill := none

def noProcesses : Fc.World where
  kernel := noDevices
  processes := []
  nextPid := 1
  fresh := nofun
  configs := []
  uvmName := none
  client := none

def fcctrd : Fcctrd.FirecrackerContainerd where
  nameservers := []
  fi := { imageRef := "nginx", memory := 2 ^ 27, processArgs := some [] }
  client := some []
  serde := Spec.SerdeJson.compact

/-- Everything goes well until the task is started. -/
def notStarted : Fcctrd.Answers where
  tap := smooth
  createVm := .ok
  createContainer := .ok
  holdsContainer := true
  imageConfig := none
  prepareSnapshot := .ok
  createTask := .ok
  startTask := .failed 2 false
  deleteContainer := none
  stopVm := none

def nothingYet : Fcctrd.World where
  kernel := noDevices
  containerd := { vms := [], containers := [], tasks := [], snapshots := [], running := nofun }
  snapshot := none

/-- The API does not answer for the VM, and no process is left. -/
theorem nothing_left_of_api_failure :
    Handler.wp (Fc.createSandbox fc fcAnswers "f" (.device { index := 1, info := tap }))
      (Fc.NothingLeft noProcesses) noProcesses :=
  (failed_creation_leaves_nothing_iff fc fcAnswers rfl noProcesses fcctrd notStarted rfl rfl nothingYet
    "f" (.device { index := 1, info := tap })).1

/-- The task cannot be started, and what was created stays. -/
theorem unstarted_task_stays :
    ¬Handler.wp (Fcctrd.createSandbox fcctrd notStarted "f" (.device { index := 1, info := tap }))
      (Fcctrd.NothingLeft nothingYet.containerd) nothingYet := by
  rw [Fcctrd.createSandbox_iff fcctrd notStarted rfl rfl]
  intro kept
  have vm := (kept { index := 1, info := tap } noDevices rfl rfl nofun).2 rfl
  have container := (vm rfl rfl nofun).2 rfl
  exact nomatch container.2 rfl nofun rfl rfl

end Example

end Creation
end Snaplace
