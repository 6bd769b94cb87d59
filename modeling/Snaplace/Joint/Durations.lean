import Snaplace.Admission.Horizon
import Snaplace.Metadata.Persistence
import Snaplace.Pool.Horizon

/-!
# Lengths of time given by clients

A client gives the admission controller the longest time a request may wait, as an override in a
registration, and the pool the first keep-alive of a prepared sandbox. Both are protobuf durations,
which are converted when they are received and later added to instants: the current time, the time
that a snapshot took, and what a timer rounds its deadline up by when it is armed.
`client_durations_iff` says for which of them no sum leaves the range of instants in any run.
-/
namespace Snaplace
open Foundation Foundation.Handler
open Metadata (Status)
open Persistence (Formats overridesTryFrom)
open Pool (PrepareSandboxOptions SandboxProvisioningMode PendingSandboxPrep)

namespace Joint

namespace Pb

structure PrepareSandboxRequest where
  functionId : String
  mode : Int32
  initialKeepaliveHint : Option Persistence.Pb.Duration
  deriving DecidableEq

/-- `UNSPECIFIED` and unknown numbers are no mode. -/
def provisioningMode (mode : Int32) : Option SandboxProvisioningMode :=
  if mode = 1 then some .preferSnapshot
  else if mode = 2 then some .requireSnapshot
  else if mode = 3 then some .forceFresh
  else none

end Pb

variable (f : Formats)

def provisioningMode (mode : Int32) : Except Status SandboxProvisioningMode :=
  match Pb.provisioningMode mode with
  | some mode => .ok mode
  | none => .error ⟨.invalidArgument, s!"invalid provisioning mode: {mode}"⟩

def keepaliveHint : Option Persistence.Pb.Duration → Except Status (Option Duration)
  | some hint => ((f.toStd hint).map some).mapError fun err =>
      ⟨.invalidArgument, s!"invalid initial_keepalive_hint: {err}"⟩
  | none => .ok none

/-- What the `PrepareSandbox` RPC makes of a request before it asks the pool. -/
def prepareOptions (request : Pb.PrepareSandboxRequest) : Except Status PrepareSandboxOptions := do
  let mode ← provisioningMode request.mode
  let initialKeepaliveHint ← keepaliveHint f request.initialKeepaliveHint
  pure { mode, initialKeepaliveHint }

section Runs
variable {σ ρ ι : Type}

/-- No sum has left the range of instants, nor does one when the timers that are armed between two
turns round their deadlines up. Rounding adds `tick`, and panics as any other sum does. -/
def InRange (armed : σ → Instant → Prop) (tick : Duration) : Progress σ ρ → Prop
  | .running s => ∀ deadline, armed s deadline → deadline + tick ≤ Admission.maxInstant
  | .exited _ _ => True
  | .panicked msg _ => msg ≠ Admission.overflowPanic

end Runs

/-- A run of the admission controller that is over by `horizon`. Each function is registered with
overrides that have been accepted, and with no longer delay than `d`; what the operator has set
leads to instants in range. -/
structure Delays (tick d : Duration) (horizon : Instant) (config : Admission.AdmissionConfig)
    (inputs : List Admission.Input) : Prop where
  past : ∀ i ∈ inputs, i.now ≤ horizon
  accepted : ∀ i ∈ inputs, ∀ function overrides, i.store function = some (some overrides) →
    ∃ ao, overridesTryFrom f ao = .ok overrides
  longest : ∀ i ∈ inputs, ∀ function overrides, i.store function = some (some overrides) →
    ∀ delay, overrides.maxQueueDelay = some delay → delay ≤ d
  wait : horizon + config.defaultMaxQueueDelay + tick ≤ Admission.maxInstant
  retry : horizon + config.fallbackRetryPeriod + tick ≤ Admission.maxInstant

/-- A run of the pool that is over by `horizon`, with a clock that never goes back. Each preparation
is asked for with options that have been accepted, and with no longer hint than `d`; what the
keep-alive policy answers leads to instants in range. -/
structure Hints (tick d : Duration) (horizon : Instant) (inputs : List Pool.Input) : Prop where
  monotone : inputs.Pairwise fun i j => i.now ≤ j.now
  past : ∀ i ∈ inputs, i.now ≤ horizon
  accepted : ∀ i ∈ inputs, ∀ function options respondTo,
    i.event = .control (.prepareSandbox function options respondTo) →
      ∃ request, prepareOptions f request = .ok options
  longest : ∀ i ∈ inputs, ∀ function options respondTo,
    i.event = .control (.prepareSandbox function options respondTo) →
      ∀ hint, options.initialKeepaliveHint = some hint → hint ≤ d
  policy : ∀ i ∈ inputs, ∀ function idle, i.assign function = some idle →
    horizon + idle + tick ≤ Admission.maxInstant

/-- No run of the admission controller with delays up to `d` panics over an instant that does not
exist. -/
def QueueDelaySafe (tick d : Duration) (horizon : Instant) : Prop :=
  ∀ config start inputs, Delays f tick d horizon config inputs →
    InRange (fun c deadline => c.deadlineTimer = some deadline) tick
      (Admission.run config start inputs)

/-- The same of the pool with hints up to `d`, however often a sandbox is snapshotted. -/
def KeepaliveHintSafe (tick d : Duration) (horizon : Instant) : Prop :=
  ∀ config cpus memory functions snapshots inputs, Hints f tick d horizon inputs →
    InRange (fun p deadline => ∃ w, p.timers.lookup w = some deadline) tick
      (Pool.run inputs (Pool.spawn config cpus memory functions snapshots))

/-- Both actors count instants alike. -/
theorem maxInstant_eq : Pool.maxInstant = Admission.maxInstant := by
  unfold Pool.maxInstant Admission.maxInstant
  rfl

variable {f} {tick d : Duration} {horizon : Instant} {delay hint : Persistence.Pb.Duration}

section Sufficient
variable {keep : Duration}

/-- What leads to an instant in range is no longer than what leads to the last one. -/
theorem le_of_fits {length : Duration} (last : horizon + keep + tick = Admission.maxInstant)
    (fits : horizon + length + tick ≤ Admission.maxInstant) : length ≤ keep :=
  Nat.le_of_add_le_add_left (Nat.le_of_add_le_add_right (fits.trans_eq last.symm))

theorem exists_longest (fits : horizon + d + tick ≤ Admission.maxInstant) :
    ∃ keep, d ≤ keep ∧ horizon + keep + tick = Admission.maxInstant := by
  obtain ⟨more, last⟩ := Nat.le.dest fits
  refine ⟨d + more, Nat.le_add_right d more, ?_⟩
  rw [← last, ← Nat.add_assoc, Nat.add_right_comm]

/-- Every deadline of such a run can be armed. -/
theorem Delays.reaches {config : Admission.AdmissionConfig} {inputs : List Admission.Input}
    (run : Delays f tick d horizon config inputs) (longest : d ≤ keep)
    (last : horizon + keep + tick = Admission.maxInstant) :
    ∀ i ∈ inputs, Admission.Reaches config (horizon + keep) i := by
  intro i mem
  have past := run.past i mem
  refine ⟨fun function overrides known => Nat.add_le_add past ?_,
    Nat.add_le_add past (le_of_fits last run.retry), Nat.le.intro last⟩
  cases given : overrides.bind (·.maxQueueDelay) with
  | none => exact le_of_fits last run.wait
  | some delay =>
    obtain ⟨o, rfl, given⟩ := Option.bind_eq_some_iff.mp given
    exact (run.longest i mem function o known delay given).trans longest

theorem queueDelaySafe_of_fits (fits : horizon + d + tick ≤ Admission.maxInstant) :
    QueueDelaySafe f tick d horizon := by
  intro config start inputs delays
  obtain ⟨keep, longest, last⟩ := exists_longest fits
  obtain ⟨bounded, never⟩ := Admission.bounded_run start
    (delays.reaches longest last)
  cases ran : Admission.run config start inputs with
  | running c =>
    intro deadline armed
    exact (Nat.add_le_add_right ((bounded c ran).timer deadline armed) tick).trans_eq last
  | exited r c => trivial
  | panicked msg c =>
    rintro rfl
    exact never c ran

theorem Hints.reaches {inputs : List Pool.Input} (run : Hints f tick d horizon inputs)
    (longest : d ≤ keep) (last : horizon + keep + tick = Admission.maxInstant) :
    ∀ i ∈ inputs, Pool.Reaches keep i := by
  intro i mem
  constructor
  · exact fun function idle assigned => le_of_fits last (run.policy i mem function idle assigned)
  · intro function options respondTo taken hint given
    exact (run.longest i mem function options respondTo taken hint given).trans longest
  · rw [maxInstant_eq]
    exact (Nat.add_le_add_right (run.past i mem) keep).trans (Nat.le.intro last)

theorem keepaliveHintSafe_of_fits (fits : horizon + d + tick ≤ Admission.maxInstant) :
    KeepaliveHintSafe f tick d horizon := by
  intro config cpus memory functions snapshots inputs hints
  obtain ⟨keep, longest, last⟩ := exists_longest fits
  obtain ⟨bounded, never⟩ := Pool.bounded_run config cpus memory functions snapshots
    hints.monotone hints.past (hints.reaches longest last)
  cases ran : Pool.run inputs (Pool.spawn config cpus memory functions snapshots) with
  | running p =>
    rintro deadline ⟨w, armed⟩
    exact (Nat.add_le_add_right ((bounded p ran).timer w deadline armed) tick).trans_eq last
  | exited r p => trivial
  | panicked msg p =>
    rintro rfl
    exact never p ran

end Sufficient

section Necessary

/-- A turn that arms a timer, or panics because it cannot, ends in range if the timer's deadline is. -/
theorem InRange.last {σ ρ ι : Type} {turn : ι → Handler σ Empty (Option ρ)} {i : ι} {s : σ}
    {armed : σ → Instant → Prop} {deadline : Instant}
    (inRange : InRange armed tick (iterate turn [i] s))
    (arms : wp (turn i)
      { ok := fun r t => r = none ∧ armed t deadline, err := fun _ _ => False,
        panic := fun msg _ => msg = Admission.overflowPanic } s) :
    deadline + tick ≤ Admission.maxInstant := by
  unfold wp at arms
  unfold iterate at inRange
  cases ended : turn i s with
  | ok r t =>
    rw [ended] at arms inRange
    cases r with
    | none => exact inRange deadline arms.2
    | some r => cases arms.1
  | err e t => exact e.elim
  | panic msg t =>
    rw [ended] at arms inRange
    exact absurd arms inRange

/-- One function, registered with this delay, is called once. -/
def delayInputs (delay : Duration) (now : Instant) : List Admission.Input :=
  [{ event := .newRequest { invocationId := 0, functionId := 0, sourceTimestampNs := none }
     now
     store := fun _ =>
       some (some { maxQueued := none, maxQueueDelay := some delay, maxLiveInstances := none })
     rank := fun _ => 0
     constructible := fun _ => true }]

def delayConfig : Admission.AdmissionConfig where
  maxConcurrency := 1
  globalMaxQueuedReqs := 1
  defaultMaxQueuedPerFunc := 1
  defaultMaxQueueDelay := 0
  fallbackRetryPeriod := 0

/-- What a turn finds outside on a good day. -/
def calmInput (now : Instant) (event : Pool.Event) : Pool.Input where
  event := event
  now := now
  newWorkerId := 1
  spawnError := none
  workerRank := fun _ => 0
  randomRank := fun _ => 0
  functionRank := fun _ => 0
  cpuRank := fun _ => 0
  assign := fun _ => none
  controlOpen := fun _ => true
  isFinished := fun _ => true
  exit := fun _ => none
  admissionWaits := true
  destroyOrphan := fun _ => .runtimeFailed

/-- A preparation is asked for with this hint, in request 5. -/
def hintRequest (hint : Duration) (now : Instant) : Pool.Input :=
  calmInput now (.control
    (.prepareSandbox 0 { mode := .preferSnapshot, initialKeepaliveHint := some hint } 5))

/-- Worker 1 has prepared its sandbox. -/
def hintReport (now : Instant) : Pool.Input :=
  calmInput now (.workerMessage
    (.sandboxPreparation { workerId := 1, functionId := 0, result := .ok (7, false, ⟨0, 0⟩) }))

def hintStart : Pool :=
  Pool.spawn ⟨false, .never, 1, .noOp⟩ [0] ⟨10, 0, 0, 10, 10⟩
    (AList.singleton 0 { memory := 1, admission := none }) ∅

variable (d horizon) in
/-- The controller arms its timer for the request, or panics. -/
theorem delayInputs_arms :
    ∃ i, delayInputs d horizon = [i] ∧ wp (Admission.turn i)
      { ok := fun r c => r = none ∧ c.deadlineTimer = some (horizon + d), err := fun _ _ => False,
        panic := fun msg _ => msg = Admission.overflowPanic }
      (Admission.AdmissionController.new delayConfig horizon) := by
  refine ⟨_, rfl, ?_⟩
  simp [Admission.turn, Admission.awaitSlot, Admission.shouldWaitForSlot,
    Admission.hasRunnableFunctions, Admission.select, Admission.stay,
    Admission.handleNewRequest, Admission.admitRequest, Admission.admitToQueue,
    Admission.functionFull, Admission.enqueue, Admission.wp_addInstant_eq, Admission.record,
    Admission.globalFull, Admission.updateQueue, Admission.updateDeadlineTimer,
    Admission.setDeadlineTimerTo, Admission.AdmissionController.new, delayConfig,
    Admission.FunctionQueue.empty, AList.lookup_insert]

theorem delays_once (accepted : f.toStd delay = .ok d)
    (clock : horizon + tick ≤ Admission.maxInstant) :
    Delays f tick d horizon delayConfig (delayInputs d horizon) := by
  have registered : overridesTryFrom f ⟨none, some delay, none⟩ =
      .ok { maxQueued := none, maxQueueDelay := some d, maxLiveInstances := none } := by
    simp [overridesTryFrom, accepted, bind, Except.bind, pure, Except.pure, Functor.map, Except.map]
  refine ⟨List.forall_mem_singleton.mpr le_rfl, List.forall_mem_singleton.mpr ?_,
    List.forall_mem_singleton.mpr ?_, clock, clock⟩
  · rintro function _ ⟨⟩
    exact ⟨_, registered⟩
  · rintro function _ ⟨⟩ _ ⟨⟩
    exact le_rfl

theorem fits_of_queueDelaySafe (accepted : f.toStd delay = .ok d)
    (clock : horizon + tick ≤ Admission.maxInstant) (safe : QueueDelaySafe f tick d horizon) :
    horizon + d + tick ≤ Admission.maxInstant := by
  obtain ⟨i, only, arms⟩ := delayInputs_arms d horizon
  have inRange := safe delayConfig horizon (delayInputs d horizon) (delays_once accepted clock)
  rw [only] at inRange
  exact inRange.last arms

/-- What the pool knows of the preparation when it is reported. -/
structure Prepared (hint : Duration) (p : Pool) : Prop where
  phase : p.phase = .serving
  op : p.pending.sandboxPreps.lookup 1 =
    some { initialKeepaliveHint := some hint, respondTo := some 5 }
  placed : p.cpuset.allocations.lookup 1 = some 0
  occupied : p.cpuset.occupants.lookup 0 = some 1
  known : p.store.functions.lookup 0 = some { memory := 1, admission := none }
  active : (0, 1) ∈ p.store.workers .active
  idle : (0, 1) ∉ p.store.workers .idle

variable (d horizon) in
theorem hintRequest_prepares :
    ∃ p, Pool.turn (hintRequest d horizon) hintStart = .ok none p ∧ Prepared d p := by
  refine ⟨(Pool.turn (hintRequest d horizon) hintStart).state, ?_, ?_⟩
  · with_unfolding_all rfl
  · with_unfolding_all
      exact ⟨rfl, rfl, rfl, rfl, rfl, List.mem_singleton_self _, List.not_mem_nil⟩

/-- The pool arms the timer of the worker it parks, or panics. -/
theorem hintReport_arms {p : Pool} (h : Prepared d p) :
    wp (Pool.turn (hintReport horizon))
      { ok := fun r t => r = none ∧ ∃ w, t.timers.lookup w = some (horizon + d)
        err := fun _ _ => False
        panic := fun msg _ => msg = Admission.overflowPanic } p := by
  simp [Pool.turn, h.phase, Pool.handleServing, hintReport, calmInput, Pool.serve,
    Pool.handleWorkerStatus, Pool.finalizeSandboxPreparation, Pool.releaseForPrep, Pool.cpuRelease,
    h.placed, h.occupied, Pool.parkPrepared, h.op, Pool.wp_addInstant_eq, Pool.deactivateWorker,
    Pool.workerActiveToIdle, Pool.transition, h.known, h.active, h.idle, Pool.insertWorker,
    Pool.registeredFunction, Pool.FunctionMetadataStore.erase, Pool.setDeadline, Pool.spawnTimer,
    Pool.emitAdmissionEvent, Pool.record, Pool.orElseLater, Except.map, Except.mapError,
    Pool.takePrepOp, Pool.answerPrep, Pool.send, Pool.removeOp]
  exact ⟨fun _ => ⟨1, AList.lookup_insert _⟩, fun _ => rfl⟩

/-- The options carry the length of time that the hint stands for. -/
theorem prepareOptions_hinted (accepted : f.toStd hint = .ok d) :
    prepareOptions f { functionId := "", mode := 1, initialKeepaliveHint := some hint } =
      .ok { mode := .preferSnapshot, initialKeepaliveHint := some d } := by
  have hinted : keepaliveHint f (some hint) = .ok (some d) := by
    rw [keepaliveHint, accepted]
    rfl
  rw [prepareOptions, hinted]
  rfl

theorem hints_once (accepted : f.toStd hint = .ok d) :
    Hints f tick d horizon [hintRequest d horizon, hintReport horizon] := by
  constructor
  · exact List.pairwise_pair.mpr le_rfl
  · simp [hintRequest, hintReport, calmInput]
  · intro i mem function options respondTo taken
    obtain rfl | rfl := List.mem_pair.mp mem
    · cases taken
      exact ⟨_, prepareOptions_hinted accepted⟩
    · cases taken
  · intro i mem function options respondTo taken hint given
    obtain rfl | rfl := List.mem_pair.mp mem
    · cases taken
      cases given
      exact le_rfl
    · cases taken
  · intro i mem function idle assigned
    obtain rfl | rfl := List.mem_pair.mp mem <;> cases assigned

theorem fits_of_keepaliveHintSafe (accepted : f.toStd hint = .ok d)
    (safe : KeepaliveHintSafe f tick d horizon) : horizon + d + tick ≤ Admission.maxInstant := by
  obtain ⟨p, ran, prepared⟩ := hintRequest_prepares d horizon
  have inRange : InRange _ tick ((Pool.turn (hintRequest d horizon) hintStart).andThen
      (iterate Pool.turn [hintReport horizon])) :=
    safe ⟨false, .never, 1, .noOp⟩ [0] ⟨10, 0, 0, 10, 10⟩
      (AList.singleton 0 { memory := 1, admission := none }) ∅ _ (hints_once accepted)
  rw [ran] at inRange
  exact inRange.last (hintReport_arms prepared)

end Necessary

/-- No accepted duration leads to a panic in runs up to some instant exactly when, added to that
instant and rounded up, it leads to one that exists. -/
theorem client_durations_iff (f : Formats) (tick d : Duration) (horizon : Instant)
    (duration : Persistence.Pb.Duration) (accepted : f.toStd duration = .ok d)
    (clock : horizon + tick ≤ Admission.maxInstant) :
    (QueueDelaySafe f tick d horizon ↔ horizon + d + tick ≤ Admission.maxInstant) ∧
      (KeepaliveHintSafe f tick d horizon ↔ horizon + d + tick ≤ Admission.maxInstant) := by
  constructor
  · exact ⟨fits_of_queueDelaySafe accepted clock, queueDelaySafe_of_fits⟩
  · exact ⟨fits_of_keepaliveHintSafe accepted, keepaliveHintSafe_of_fits⟩

/-- Formats that convert a duration which is not negative as it is. -/
noncomputable def plainFormats : Formats :=
  Persistence.exampleFormats (Persistence.exampleFc 128) Persistence.exampleFcctrd

/-- A timer is rounded up to the end of a millisecond. -/
def timerTick : Duration := 999999

/-- A second is safe for three centuries. -/
theorem client_durations_second :
    QueueDelaySafe plainFormats timerTick (10 ^ 9) (10 ^ 19) ∧
      KeepaliveHintSafe plainFormats timerTick (10 ^ 9) (10 ^ 19) :=
  have both := client_durations_iff plainFormats timerTick (10 ^ 9) (10 ^ 19) ⟨1, 0⟩ rfl
    (by decide +kernel)
  ⟨both.1.mpr (by decide +kernel), both.2.mpr (by decide +kernel)⟩

/-- The longest duration a message can carry; converted, it is not negative. -/
def longest : Persistence.Pb.Duration := { seconds := Int64.maxValue, nanos := 0 }

def longestTime : Duration := (2 ^ 63 - 1) * 10 ^ 9

/-- What a run ends with if it panics. -/
def panicOf {σ ρ : Type} : Progress σ ρ → Option String
  | .panicked msg _ => some msg
  | .running _ | .exited _ _ => none

/-- Both conversions accept it, and each actor panics a second after the clock's origin. -/
theorem longest_duration_panics :
    overridesTryFrom plainFormats ⟨none, some longest, none⟩ =
        .ok { maxQueued := none, maxQueueDelay := some longestTime, maxLiveInstances := none } ∧
      prepareOptions plainFormats { functionId := "", mode := 1, initialKeepaliveHint := some longest } =
        .ok { mode := .preferSnapshot, initialKeepaliveHint := some longestTime } ∧
      panicOf (Admission.run delayConfig 0 (delayInputs longestTime (10 ^ 9))) =
        some Admission.overflowPanic ∧
      panicOf (Pool.run [hintRequest longestTime (10 ^ 9), hintReport (10 ^ 9)] hintStart) =
        some Pool.overflowPanic := by
  refine ⟨rfl, rfl, ?_, ?_⟩
  · decide +kernel
  · decide +kernel

end Joint
end Snaplace
