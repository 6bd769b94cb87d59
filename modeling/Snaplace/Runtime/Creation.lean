import Snaplace.Network.TapCreation
import Snaplace.Runtime.Spec

/-!
# Creating a sandbox

Both runtimes create a sandbox in a chain of requests to others: to the kernel, and to the services of
containerd and its plugin, or to the Firecracker process and its API. Any of them may fail, and a
request that fails over the wire may have been carried out. The chain undoes by hand what it has done.
-/
namespace Snaplace
open Foundation

namespace Creation
open Handler (attempt mapErr refuse orUndo logged expect require focus)
open Network (Tap TapDevice)
open Network.TapCreation (Kernel Errno)

/-- The tap is given, or is built first. -/
def acquireTap (answers : Network.TapCreation.Answers) :
    Tap → Handler Kernel Network.TapCreation.Error TapDevice
  | .device tap => pure tap
  | .builder builder => Network.TapCreation.build answers builder

/-! ## With containerd -/

namespace Fcctrd

structure Vm where
  id : String
  memSizeMib : Nat
  tap : Network.TapInfo
  nameservers : List Nat
  exitAfterAllTasksDeleted : Bool
  containerCount : Nat
  deriving DecidableEq

structure Container where
  id : String
  image : String
  spec : List Char
  snapshotKey : String
  deriving DecidableEq

/-- What containerd and its plugin for Firecracker keep. A container runs in the VM of its name, and
the task is the container running. -/
structure Containerd where
  vms : List Vm
  containers : List Container
  /-- The containers that have a task. -/
  tasks : List String
  snapshots : List String
  running : ∀ id ∈ tasks, ∃ vm ∈ vms, vm.id = id

namespace Containerd

def addVm (c : Containerd) (vm : Vm) : Containerd where
  vms := c.vms ++ [vm]
  containers := c.containers
  tasks := c.tasks
  snapshots := c.snapshots
  running id mem := by
    obtain ⟨vm', there, same⟩ := c.running id mem
    exact ⟨vm', List.mem_append_left _ there, same⟩

/-- The tasks of a VM are processes in it, which go with it. -/
def removeVm (c : Containerd) (id : String) : Containerd where
  vms := c.vms.filter fun vm => vm.id ≠ id
  containers := c.containers
  tasks := c.tasks.filter fun task => task ≠ id
  snapshots := c.snapshots
  running task mem := by
    obtain ⟨mem, other⟩ := List.mem_filter.mp mem
    obtain ⟨vm, there, rfl⟩ := c.running task mem
    exact ⟨vm, List.mem_filter.mpr ⟨there, other⟩, rfl⟩

def addContainer (c : Containerd) (container : Container) : Containerd :=
  { c with containers := c.containers ++ [container] }

def removeContainer (c : Containerd) (id : String) : Containerd :=
  { c with containers := c.containers.filter fun container => container.id ≠ id }

def addSnapshot (c : Containerd) (key : String) : Containerd :=
  { c with snapshots := c.snapshots ++ [key] }

def HasVm (c : Containerd) (id : String) : Prop := ∃ vm ∈ c.vms, vm.id = id

instance (c : Containerd) (id : String) : Decidable (c.HasVm id) :=
  inferInstanceAs (Decidable (∃ vm ∈ c.vms, vm.id = id))

def HasContainer (c : Containerd) (id : String) : Prop :=
  ∃ container ∈ c.containers, container.id = id

instance (c : Containerd) (id : String) : Decidable (c.HasContainer id) :=
  inferInstanceAs (Decidable (∃ container ∈ c.containers, container.id = id))

/-- None without the VM. -/
def addTask (c : Containerd) (id : String) : Containerd :=
  if vm : c.HasVm id then
    { c with
      tasks := c.tasks ++ [id]
      running := by
        intro task mem
        rcases List.mem_append.mp mem with old | new
        · exact c.running task old
        · rw [List.mem_singleton.mp new]
          exact vm }
  else c

end Containerd

/-- How a request over the wire ends. One that fails may have been carried out. -/
inductive Reply where
  | ok
  | failed (code : Nat) (done : Bool)
  deriving DecidableEq

def Reply.Lost (reply : Reply) : Prop := ∃ code, reply = .failed code true

inductive ClientError where
  | rpc (code : Nat)
  | emptyField (name : String)
  deriving DecidableEq

inductive Error where
  | tap (source : Network.TapCreation.Error)
  | createVm (source : ClientError)
  | createContainer (source : ClientError)
  | prepareContainerSnapshot (source : ClientError)
  | createTask (source : ClientError)
  | startTask (source : ClientError)
  deriving DecidableEq

structure Answers where
  tap : Network.TapCreation.Answers
  createVm : Reply
  createContainer : Reply
  /-- The reply holds the container. -/
  holdsContainer : Bool
  /-- The image's configuration, whose digests name the parent of the snapshot. -/
  imageConfig : Option Nat
  prepareSnapshot : Reply
  createTask : Reply
  startTask : Reply
  deleteContainer : Option Nat
  stopVm : Option Nat

/-- A request that the service may refuse by itself. -/
def call (refused : Containerd → Option Nat) (reply : Reply) (effect : Containerd → Containerd) :
    Handler Containerd ClientError Unit := do
  match refused (← get) with
  | some code => throw (.rpc code)
  | none =>
    match reply with
    | .ok => modify effect
    | .failed code done =>
      if done then modify effect
      throw (.rpc code)

def NOT_FOUND : Nat := 5
def ALREADY_EXISTS : Nat := 6

section Client
variable (answers : Answers)

def createVm (vm : Vm) : Handler Containerd ClientError Vm := do
  call (fun c => if c.HasVm vm.id then some ALREADY_EXISTS else none) answers.createVm (·.addVm vm)
  pure vm

def createContainer (container : Container) : Handler Containerd ClientError Container := do
  call (fun c => if c.HasContainer container.id then some ALREADY_EXISTS else none)
    answers.createContainer (·.addContainer container)
  if answers.holdsContainer then pure container
  else throw (.emptyField "CreateContainerResponse.Container")

def prepareSnapshot (key : String) : Handler Containerd ClientError Unit := do
  refuse .rpc answers.imageConfig
  call (fun c => if key ∈ c.snapshots then some ALREADY_EXISTS else none)
    answers.prepareSnapshot (·.addSnapshot key)

def createTask (id : String) : Handler Containerd ClientError Unit :=
  call (fun c => if id ∈ c.tasks then some ALREADY_EXISTS
      else if c.HasVm id ∧ c.HasContainer id then none else some NOT_FOUND)
    answers.createTask (·.addTask id)

/-- Started or not, the task is there. -/
def startTask (id : String) : Handler Containerd ClientError Unit :=
  call (fun c => if id ∈ c.tasks then none else some NOT_FOUND) answers.startTask fun c => c

def deleteContainer (id : String) : Handler Containerd ClientError Unit := do
  refuse .rpc answers.deleteContainer
  if (← get).HasContainer id then modify (·.removeContainer id) else throw (.rpc NOT_FOUND)

def stopVm (id : String) : Handler Containerd ClientError Unit := do
  refuse .rpc answers.stopVm
  if (← get).HasVm id then modify (·.removeVm id) else throw (.rpc NOT_FOUND)

end Client

structure FunctionInfo where
  imageRef : String
  memory : Nat
  processArgs : Option (List Char)

/-- The runtime as it is while a sandbox is created. -/
structure FirecrackerContainerd where
  nameservers : List Nat
  fi : FunctionInfo
  /-- The namespace of the client, once the runtime is initialized. -/
  client : Option (List Char)
  serde : Spec.SerdeJson

structure MicroVm where
  functionId : String
  tap : TapDevice
  vm : Vm

structure World where
  kernel : Kernel
  containerd : Containerd
  /-- The runtime's own field. -/
  snapshot : Option String

def onContainerd {ε α : Type} (m : Handler Containerd ε α) : Handler World ε α :=
  focus World.containerd (fun containerd w => { w with containerd }) m

section Source
variable (rt : FirecrackerContainerd) (answers : Answers)

def newVm (tap : TapDevice) : Vm where
  id := tap.info.name
  memSizeMib := rt.fi.memory / 2 ^ 20 % 2 ^ 32
  tap := tap.info
  nameservers := rt.nameservers.take 2
  exitAfterAllTasksDeleted := true
  containerCount := 1

def newContainer (ns processArgs : List Char) (id snapshotKey : String) : Container where
  id
  image := rt.fi.imageRef
  spec := Spec.fillTemplate rt.serde Spec.ociRtSpecTemplate processArgs ns id.toList
  snapshotKey

def stop (id : String) : Handler World Error Unit := logged (onContainerd (stopVm answers id))

def delete (id : String) : Handler World Error Unit :=
  logged (onContainerd (deleteContainer answers id))

/-- The snapshot and the task of a container. -/
def runContainer (id key : String) : Handler World Error Unit := do
  let undo : Handler World Error Unit := do
    delete answers id
    stop answers id
  orUndo .prepareContainerSnapshot undo (onContainerd (prepareSnapshot answers key))
  orUndo .createTask undo (onContainerd (createTask answers id))
  mapErr .startTask (onContainerd (startTask answers id))

/-- The container and its task, in a VM that is up. -/
def fillVm (ns : List Char) (vm : Vm) : Handler World Error Unit := do
  require ((← get).snapshot = none) "snapshot should not exist yet"
  let key := vm.id ++ "-snap"
  modify fun w => { w with snapshot := some key }
  let processArgs ← expect "FunctionInfo should be initialized by now" rt.fi.processArgs
  let container ← orUndo .createContainer (stop answers vm.id)
    (onContainerd (createContainer answers (newContainer rt ns processArgs vm.id key)))
  runContainer answers container.id key

def createSandbox (functionId : String) (tapResource : Tap) : Handler World Error MicroVm := do
  let tap ← focus World.kernel (fun kernel w => { w with kernel })
    (mapErr .tap (acquireTap answers.tap tapResource))
  let ns ← expect "Runtime is initialized" rt.client
  let vm ← mapErr .createVm (onContainerd (createVm answers (newVm rt tap)))
  fillVm rt answers ns vm
  pure { functionId, tap, vm }

end Source

/-! ## What a failed creation leaves -/

/-- No VM, container or task is left if the creation fails. -/
def NothingLeft {α : Type} (c : Containerd) : Handler.Post World Error α where
  ok _ _ := True
  err _ t := t.containerd.vms = c.vms ∧ t.containerd.containers = c.containers ∧
    t.containerd.tasks = c.tasks
  panic _ _ := True

section Conditions
variable (rt : FirecrackerContainerd) (answers : Answers) (w : World)

/-- If the start of the task is reached, it goes well. -/
def StartKept (id : String) : Prop :=
  answers.imageConfig = none → id ++ "-snap" ∉ w.containerd.snapshots →
    answers.prepareSnapshot = .ok → answers.createTask = .ok → answers.startTask = .ok

/-- If the container is requested, it is created if and only if the reply says so. -/
def ContainerKept (id : String) : Prop :=
  w.snapshot = none → rt.fi.processArgs.isSome → ¬w.containerd.HasContainer id →
    ¬answers.createContainer.Lost ∧
      (answers.createContainer = .ok → answers.holdsContainer = true ∧ StartKept answers w id)

/-- If the VM is requested, it is created if and only if the reply says so. -/
def VmKept (id : String) : Prop :=
  rt.client.isSome → ¬w.containerd.HasVm id →
    ¬answers.createVm.Lost ∧ (answers.createVm = .ok → ContainerKept rt answers w id)

/-- No request is carried out without its reply, and a task that is created is also started. -/
def Kept (tapResource : Tap) : Prop :=
  ∀ tap k, acquireTap answers.tap tapResource w.kernel = .ok tap k →
    VmKept rt answers w tap.info.name

end Conditions

section Undoing
variable {rt : FirecrackerContainerd} {answers : Answers} {w t : World} {vm : Vm}

@[simp] theorem wp_onContainerd {ε α : Type} (m : Handler Containerd ε α)
    (Q : Handler.Post World ε α) (w : World) :
    Handler.wp (onContainerd m) Q w =
      Handler.wp m
        { ok := fun a c => Q.ok a { w with containerd := c }
          err := fun e c => Q.err e { w with containerd := c }
          panic := fun msg c => Q.panic msg { w with containerd := c } } w.containerd :=
  Handler.wp_focus _ _ m Q w

@[simp] theorem wp_call (refused : Containerd → Option Nat) (reply : Reply)
    (effect : Containerd → Containerd) (Q : Handler.Post Containerd ClientError Unit)
    (c : Containerd) :
    Handler.wp (call refused reply effect) Q c ↔
      (∀ code, refused c = some code → Q.err (.rpc code) c) ∧
      (refused c = none →
        (reply = .ok → Q.ok () (effect c)) ∧
        ∀ code done, reply = .failed code done →
          Q.err (.rpc code) (if done = true then effect c else c)) := by
  unfold call
  rw [Handler.wp_bind, Handler.wp_get]
  cases answer : refused c with
  | some code => simp [answer]
  | none =>
    cases reply with
    | ok => simp [answer]
    | failed code done => cases done <;> simp [answer]

/-- The VM is up, with its task or without it. -/
structure Up (c : Containerd) (vm : Vm) (t : Containerd) : Prop where
  vms : t.vms = c.vms ++ [vm]
  tasks : t.tasks = c.tasks ∨ t.tasks = c.tasks ++ [vm.id]
  free : ¬c.HasVm vm.id

theorem Up.hasVm {c d : Containerd} (up : Up c vm d) : d.HasVm vm.id :=
  ⟨vm, by rw [up.vms]; exact List.mem_concat_self, rfl⟩

theorem Up.removeVm {c d : Containerd} (up : Up c vm d) :
    (d.removeVm vm.id).vms = c.vms ∧ (d.removeVm vm.id).tasks = c.tasks := by
  have vms : ∀ other ∈ c.vms, ¬other.id = vm.id :=
    fun other mem same => up.free ⟨other, mem, same⟩
  have tasks : ∀ task ∈ c.tasks, ¬task = vm.id := by
    intro task mem equal
    obtain ⟨other, there, same⟩ := c.running task mem
    exact vms other there (same.trans equal)
  constructor
  · simpa [Containerd.removeVm, up.vms] using vms
  · rcases up.tasks with without | withTask
    · simpa [Containerd.removeVm, without] using tasks
    · simpa [Containerd.removeVm, withTask] using tasks

theorem stop_spec {c : Containerd} (stops : answers.stopVm = none) (up : Up c vm t.containerd) :
    Handler.wp (stop answers vm.id)
      { ok := fun _ u => u.containerd.vms = c.vms ∧ u.containerd.tasks = c.tasks ∧
          u.containerd.containers = t.containerd.containers
        err := fun _ _ => False } t := by
  have gone := up.removeVm
  unfold stop stopVm
  simp only [Handler.wp_logged, wp_onContainerd, Handler.wp_bind, Handler.wp_refuse, stops,
    Handler.wp_get, if_pos up.hasVm, Handler.wp_modify]
  exact ⟨fun _ => ⟨gone.1, gone.2, rfl⟩, nofun⟩

theorem delete_spec {c : Containerd} {container : Container}
    (deletes : answers.deleteContainer = none)
    (added : t.containerd.containers = c.containers ++ [container])
    (free : ¬c.HasContainer container.id) :
    Handler.wp (delete answers container.id)
      { ok := fun _ u => u.containerd.containers = c.containers ∧
          u.containerd.vms = t.containerd.vms ∧ u.containerd.tasks = t.containerd.tasks
        err := fun _ _ => False } t := by
  have there : t.containerd.HasContainer container.id :=
    ⟨container, by rw [added]; exact List.mem_concat_self, rfl⟩
  have others : ∀ other ∈ c.containers, ¬other.id = container.id :=
    fun other mem same => free ⟨other, mem, same⟩
  unfold delete deleteContainer
  simp only [Handler.wp_logged, wp_onContainerd, Handler.wp_bind, Handler.wp_refuse, deletes,
    Handler.wp_get, if_pos there, Handler.wp_modify]
  refine ⟨fun _ => ⟨?_, rfl, rfl⟩, nofun⟩
  simpa [Containerd.removeContainer, added] using others

theorem undo_spec {c : Containerd} {container : Container} (deletes : answers.deleteContainer = none)
    (stops : answers.stopVm = none) (up : Up c vm t.containerd)
    (added : t.containerd.containers = c.containers ++ [container]) (same : container.id = vm.id)
    (free : ¬c.HasContainer vm.id) :
    Handler.wp (do delete answers vm.id; stop answers vm.id)
      { ok := fun _ u => u.containerd.vms = c.vms ∧ u.containerd.containers = c.containers ∧
          u.containerd.tasks = c.tasks
        err := fun _ _ => False } t := by
  rw [← same] at free
  have deleted := delete_spec deletes added free
  rw [same] at deleted
  apply Handler.wp_seq deleted
  · intro _ u ⟨containers, vms, tasks⟩
    have still : Up c vm u.containerd :=
      ⟨vms.trans up.vms, by rw [tasks]; exact up.tasks, up.free⟩
    apply Handler.wp_mono (stop_spec stops still)
    · intro _ u' ⟨vms, tasks, kept⟩
      exact ⟨vms, kept.trans containers, tasks⟩
    · exact fun _ _ => False.elim
    · exact fun _ _ => False.elim
  · exact fun _ _ => False.elim
  · exact fun _ _ => False.elim

/-- The container is there, and no task. -/
structure Filled (w : World) (vm : Vm) (container : Container) (t : World) : Prop where
  up : Up w.containerd vm t.containerd
  noTask : t.containerd.tasks = w.containerd.tasks
  added : t.containerd.containers = w.containerd.containers ++ [container]
  same : container.id = vm.id
  free : ¬w.containerd.HasContainer vm.id

theorem Filled.undo {container : Container} (filled : Filled w vm container t)
    (deletes : answers.deleteContainer = none) (stops : answers.stopVm = none) {u : World}
    (up : Up w.containerd vm u.containerd)
    (kept : u.containerd.containers = t.containerd.containers) (e : Error) :
    Handler.wp (do delete answers vm.id; stop answers vm.id)
      { ok := fun _ => (NothingLeft (α := Unit) w.containerd).err e
        err := (NothingLeft (α := Unit) w.containerd).err
        panic := (NothingLeft (α := Unit) w.containerd).panic } u := by
  apply Handler.wp_mono (undo_spec deletes stops up (kept.trans filled.added) filled.same filled.free)
  · exact fun _ _ clean => clean
  · exact fun _ _ => False.elim
  · exact fun _ _ => False.elim

theorem Filled.hasContainer {container : Container} (filled : Filled w vm container t) :
    t.containerd.HasContainer vm.id :=
  ⟨container, by rw [filled.added]; exact List.mem_concat_self, filled.same⟩

theorem Filled.not_mem_tasks {container : Container} (filled : Filled w vm container t) :
    vm.id ∉ t.containerd.tasks := by
  rw [filled.noTask]
  intro mem
  exact filled.up.free (w.containerd.running vm.id mem)

/-- A VM that is up is left behind. -/
theorem Up.left {c d : Containerd} (up : Up c vm d) : d.vms ≠ c.vms := by
  rw [up.vms]
  simp

theorem startTask_iff {c d : Containerd} (up : Up c vm d) (task : vm.id ∈ d.tasks) (t : World) :
    Handler.wp (mapErr .startTask (onContainerd (startTask answers vm.id))) (NothingLeft c)
      { t with containerd := d } ↔ answers.startTask = .ok := by
  unfold startTask
  simp only [Handler.wp_mapErr, wp_onContainerd, wp_call, if_pos task]
  constructor
  · intro holds
    cases reply : answers.startTask with
    | ok => rfl
    | failed code done =>
      obtain ⟨vms, -⟩ := (holds.2 trivial).2 code done reply
      exact absurd vms (by cases done <;> exact up.left)
  · intro started
    refine ⟨nofun, fun _ => ⟨fun _ => trivial, fun code done failed => ?_⟩⟩
    rw [started] at failed
    cases failed

theorem createTask_iff {container : Container} (deletes : answers.deleteContainer = none)
    (stops : answers.stopVm = none) (filled : Filled w vm container t) :
    Handler.wp (do
        orUndo .createTask (do delete answers vm.id; stop answers vm.id)
          (onContainerd (createTask answers vm.id))
        mapErr .startTask (onContainerd (startTask answers vm.id)))
      (NothingLeft w.containerd) t ↔ (answers.createTask = .ok → answers.startTask = .ok) := by
  have hasVm := filled.up.hasVm
  have withTask : Up w.containerd vm (t.containerd.addTask vm.id) := by
    refine ⟨?_, .inr ?_, filled.up.free⟩
    · simp [Containerd.addTask, hasVm, filled.up.vms]
    · simp [Containerd.addTask, hasVm, filled.noTask]
  have task : vm.id ∈ (t.containerd.addTask vm.id).tasks := by
    simp [Containerd.addTask, hasVm]
  have containers : (t.containerd.addTask vm.id).containers = t.containerd.containers := by
    simp [Containerd.addTask, hasVm]
  rw [Handler.wp_bind, Handler.wp_orUndo, wp_onContainerd]
  unfold createTask
  rw [wp_call]
  simp only [if_neg filled.not_mem_tasks, if_pos (And.intro hasVm filled.hasContainer)]
  rw [startTask_iff withTask task]
  constructor
  · intro holds
    exact (holds.2 trivial).1
  · intro kept
    refine ⟨nofun, fun _ => ⟨kept, fun code done _ => ?_⟩⟩
    cases done with
    | false => exact filled.undo deletes stops filled.up rfl _
    | true => exact filled.undo deletes stops withTask containers _

theorem runContainer_iff {container : Container} (deletes : answers.deleteContainer = none)
    (stops : answers.stopVm = none) (filled : Filled w vm container t)
    (snapshots : t.containerd.snapshots = w.containerd.snapshots) :
    Handler.wp (runContainer answers vm.id (vm.id ++ "-snap")) (NothingLeft w.containerd) t ↔
      StartKept answers w vm.id := by
  unfold runContainer StartKept prepareSnapshot
  rw [Handler.wp_bind, Handler.wp_orUndo, wp_onContainerd, Handler.wp_bind, Handler.wp_refuse]
  simp only [wp_call, snapshots]
  have prepared : Filled w vm container
      { t with containerd := t.containerd.addSnapshot (vm.id ++ "-snap") } :=
    ⟨⟨filled.up.vms, filled.up.tasks, filled.up.free⟩, filled.noTask, filled.added, filled.same,
      filled.free⟩
  rw [createTask_iff deletes stops prepared]
  constructor
  · intro holds image new
    exact ((holds.1 image).2 (if_neg new)).1
  · intro kept
    refine ⟨fun image => ⟨fun _ _ => filled.undo deletes stops filled.up rfl _, fun new => ?_⟩,
      fun _ _ => filled.undo deletes stops filled.up rfl _⟩
    refine ⟨kept image (by simpa using new), fun code done _ => ?_⟩
    cases done with
    | false => exact filled.undo deletes stops filled.up rfl _
    | true => exact filled.undo deletes stops prepared.up rfl _

/-- To stop the VM is enough as long as there is no container. -/
theorem stop_iff (stops : answers.stopVm = none) (up : Up w.containerd vm t.containerd) (e : Error) :
    Handler.wp (stop answers vm.id)
      { ok := fun _ => (NothingLeft (α := Unit) w.containerd).err e
        err := (NothingLeft (α := Unit) w.containerd).err
        panic := (NothingLeft (α := Unit) w.containerd).panic } t ↔
      t.containerd.containers = w.containerd.containers := by
  have spec := stop_spec stops up
  unfold Handler.wp at spec ⊢
  cases ran : stop answers vm.id t with
  | ok a u =>
    rw [ran] at spec
    obtain ⟨vms, tasks, containers⟩ := spec
    constructor
    · intro clean
      exact containers.symm.trans clean.2.1
    · intro same
      exact ⟨vms, containers.trans same, tasks⟩
  | err e u =>
    rw [ran] at spec
    exact spec.elim
  | panic msg u =>
    rw [ran] at spec
    exact spec.elim

theorem createContainer_iff (container : Container) (deletes : answers.deleteContainer = none)
    (stops : answers.stopVm = none) (up : Up w.containerd vm t.containerd)
    (containers : t.containerd.containers = w.containerd.containers)
    (tasks : t.containerd.tasks = w.containerd.tasks)
    (snapshots : t.containerd.snapshots = w.containerd.snapshots) (same : container.id = vm.id) :
    Handler.wp (do
        let container ← orUndo .createContainer (stop answers vm.id)
          (onContainerd (createContainer answers container))
        runContainer answers container.id (vm.id ++ "-snap"))
      (NothingLeft w.containerd) t ↔
      (¬w.containerd.HasContainer vm.id → ¬answers.createContainer.Lost ∧
        (answers.createContainer = .ok →
          answers.holdsContainer = true ∧ StartKept answers w vm.id)) := by
  have has : t.containerd.HasContainer container.id ↔ w.containerd.HasContainer vm.id := by
    rw [Containerd.HasContainer, containers, same, Containerd.HasContainer]
  have added : Up w.containerd vm (t.containerd.addContainer container) :=
    ⟨up.vms, up.tasks, up.free⟩
  have grown : (t.containerd.addContainer container).containers ≠ w.containerd.containers := by
    simp [Containerd.addContainer, containers]
  unfold createContainer
  rw [Handler.wp_bind, Handler.wp_orUndo, wp_onContainerd, Handler.wp_bind, wp_call]
  by_cases used : w.containerd.HasContainer vm.id
  · simp only [if_pos (has.mpr used)]
    exact iff_of_true ⟨fun _ _ => (stop_iff stops up _).mpr containers, nofun⟩ (absurd used)
  · simp only [if_neg (mt has.mp used)]
    cases reply : answers.createContainer with
    | failed code done =>
      cases done with
      | false =>
        refine iff_of_true ⟨nofun, fun _ => ⟨nofun, ?_⟩⟩ fun _ => ⟨nofun, nofun⟩
        rintro _ _ ⟨⟩
        exact (stop_iff stops up _).mpr containers
      | true =>
        refine iff_of_false (fun holds => ?_) fun kept => (kept used).1 ⟨code, rfl⟩
        exact grown ((stop_iff stops added _).mp ((holds.2 trivial).2 code true rfl))
    | ok =>
      cases held : answers.holdsContainer with
      | false =>
        refine iff_of_false (fun holds => ?_) fun kept => nomatch ((kept used).2 rfl).1
        exact grown ((stop_iff stops added _).mp ((holds.2 trivial).1 rfl))
      | true =>
        have filled : Filled w vm container
            { t with containerd := t.containerd.addContainer container } :=
          ⟨added, tasks, by simp [Containerd.addContainer, containers], same, used⟩
        have ran := runContainer_iff deletes stops filled snapshots
        rw [← same] at ran ⊢
        constructor
        · intro holds _
          exact ⟨nofun, fun _ => ⟨rfl, ran.mp ((holds.2 trivial).1 rfl)⟩⟩
        · intro kept
          refine ⟨nofun, fun _ => ⟨fun _ => ran.mpr ?_, nofun⟩⟩
          rw [same] at kept ⊢
          exact ((kept used).2 rfl).2

theorem fillVm_iff (rt : FirecrackerContainerd) (deletes : answers.deleteContainer = none)
    (stops : answers.stopVm = none) (free : ¬w.containerd.HasVm vm.id) (ns : List Char) (k : Kernel) :
    Handler.wp (fillVm rt answers ns vm) (NothingLeft w.containerd)
        { w with kernel := k, containerd := w.containerd.addVm vm } ↔
      ContainerKept rt answers w vm.id := by
  unfold fillVm ContainerKept
  rw [Handler.wp_bind, Handler.wp_get]
  dsimp only
  rw [Handler.wp_bind, Handler.wp_require]
  dsimp only
  rw [Handler.wp_bind, Handler.wp_modify]
  dsimp only
  rw [Handler.wp_bind, Handler.wp_expect]
  have up : Up w.containerd vm (w.containerd.addVm vm) := ⟨rfl, .inl rfl, free⟩
  by_cases snapshot : w.snapshot = none
  · cases processArgs : rt.fi.processArgs with
    | none => exact iff_of_true ⟨fun _ => ⟨nofun, fun _ => trivial⟩, fun _ => trivial⟩ nofun
    | some args =>
      have created := createContainer_iff (w := w)
        (t := { kernel := k, containerd := w.containerd.addVm vm, snapshot := some (vm.id ++ "-snap") })
        (newContainer rt ns args vm.id (vm.id ++ "-snap")) deletes stops up rfl rfl rfl rfl
      constructor
      · intro holds _ _
        exact created.mp ((holds.1 snapshot).1 args rfl)
      · intro kept
        refine ⟨fun _ => ⟨?_, fun _ => trivial⟩, fun _ => trivial⟩
        intro _ same
        cases same
        exact created.mpr (kept snapshot rfl)
  · exact iff_of_true ⟨fun none => absurd none snapshot, fun _ => trivial⟩ fun none =>
      absurd none snapshot

theorem createVm_iff {α : Type} (rt : FirecrackerContainerd) (vm : Vm)
    (deletes : answers.deleteContainer = none) (stops : answers.stopVm = none) (ns : List Char) (k : Kernel) (result : Vm → α) :
    Handler.wp (do
        let vm ← mapErr .createVm (onContainerd (createVm answers vm))
        fillVm rt answers ns vm
        pure (result vm)) (NothingLeft w.containerd) { w with kernel := k } ↔
      (¬w.containerd.HasVm vm.id →
        ¬answers.createVm.Lost ∧ (answers.createVm = .ok → ContainerKept rt answers w vm.id)) := by
  have grown : (w.containerd.addVm vm).vms ≠ w.containerd.vms := by
    simp [Containerd.addVm]
  unfold createVm
  rw [Handler.wp_bind, Handler.wp_mapErr, wp_onContainerd, Handler.wp_bind, wp_call]
  by_cases used : w.containerd.HasVm vm.id
  · simp only [if_pos used]
    exact iff_of_true ⟨fun _ _ => ⟨rfl, rfl, rfl⟩, nofun⟩ (absurd used)
  · simp only [if_neg used]
    have filled := fillVm_iff rt deletes stops used ns k
    cases reply : answers.createVm with
    | failed code done =>
      cases done with
      | false =>
        refine iff_of_true ⟨nofun, fun _ => ⟨nofun, ?_⟩⟩ fun _ => ⟨nofun, nofun⟩
        rintro _ _ ⟨⟩
        exact ⟨rfl, rfl, rfl⟩
      | true =>
        refine iff_of_false (fun holds => ?_) fun kept => (kept used).1 ⟨code, rfl⟩
        exact grown ((holds.2 trivial).2 code true rfl).1
    | ok =>
      constructor
      · intro holds _
        exact ⟨nofun, fun _ => filled.mp ((Handler.wp_bind _ _ _ _).mp ((holds.2 trivial).1 rfl))⟩
      · intro kept
        refine ⟨nofun, fun _ => ⟨fun _ => ?_, nofun⟩⟩
        exact (Handler.wp_bind _ _ _ _).mpr (filled.mpr ((kept used).2 rfl))

end Undoing

theorem createSandbox_iff (rt : FirecrackerContainerd) (answers : Answers)
    (deletes : answers.deleteContainer = none) (stops : answers.stopVm = none) (functionId : String)
    (tapResource : Tap) (w : World) :
    Handler.wp (createSandbox rt answers functionId tapResource) (NothingLeft w.containerd) w ↔
      Kept rt answers w tapResource := by
  unfold createSandbox Kept VmKept
  rw [Handler.wp_bind, Handler.wp_focus, Handler.wp_mapErr]
  unfold Handler.wp
  cases acquired : acquireTap answers.tap tapResource w.kernel with
  | err e k => exact iff_of_true ⟨rfl, rfl, rfl⟩ nofun
  | panic msg k => exact iff_of_true trivial nofun
  | ok tap k =>
    change Handler.wp _ (NothingLeft w.containerd) { w with kernel := k } ↔ _
    rw [Handler.wp_bind, Handler.wp_expect]
    cases client : rt.client with
    | none =>
      refine iff_of_true ⟨nofun, fun _ => trivial⟩ fun tap' k' same none => ?_
      cases same
      cases none
    | some ns =>
      have created := createVm_iff (w := w) rt (newVm rt tap) deletes stops ns k fun vm =>
        MicroVm.mk functionId tap vm
      constructor
      · intro holds tap' k' same _
        cases same
        exact created.mp (holds.1 ns rfl)
      · intro kept
        refine ⟨fun _ same => ?_, nofun⟩
        cases same
        exact created.mpr (kept tap k rfl rfl)

end Fcctrd

end Creation
end Snaplace
