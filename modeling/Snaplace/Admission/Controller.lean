import Snaplace.Admission.Types
import Snaplace.Foundation.Run

/-!
# The admission controller

Requests wait in one queue per function, bounded per function and in total, until a permit of the
execution-slot semaphore is free; the oldest runnable head is then sent to the sandbox pool and stays
the single outstanding dispatch until the pool replies. `turn` takes one event of the loop.
-/
namespace Snaplace
open Foundation Foundation.Handler

namespace Admission

/-- The error of a handler carries nothing: it only makes the controller leave its loop. -/
abbrev AdmissionM := Handler AdmissionController Unit

def record (action : Action) : AdmissionM Unit :=
  modify fun c => { c with log := c.log ++ [action] }

def overflowPanic : String := "overflow when adding duration to instant"
def underflowPanic : String := "attempt to subtract with overflow"
def queuePanic : String := "FunctionQueue should exist by now"

/-- The last instant: a signed 64-bit number of seconds and just under one more second. -/
def maxInstant : Instant := 2 ^ 63 * 1000000000 - 1

def addInstant (at_ : Instant) (delay : Duration) : AdmissionM Instant := do
  require (at_ + delay ≤ maxInstant) overflowPanic
  pure (at_ + delay)

def AdmissionController.new (config : AdmissionConfig) (now : Instant) : AdmissionController where
  config := config
  queues := ∅
  totalQueuedReqs := 0
  blockedFunctionCount := 0
  nextDeadline := none
  deadlineTimer := none
  livenessTimer := now + config.fallbackRetryPeriod
  outstanding := none
  freeSlots := config.maxConcurrency
  waitingForSlot := false
  stats := { numReceived := 0, numDispatched := 0, numFailed := 0 }
  log := []

def hasRunnableFunctions (c : AdmissionController) : Bool :=
  c.queues.entries.any fun e => e.2.isRunnable

def shouldWaitForSlot (c : AdmissionController) : Bool :=
  c.outstanding.isNone && !c.waitingForSlot && hasRunnableFunctions c

def failureStatus : AdmissionFailure → Code × String
  | .queueFullGlobal => (.resourceExhausted, "Global admission queue is full")
  | .queueFullFunction => (.resourceExhausted, "Function's admission queue is full")
  | .deadlinePassed => (.deadlineExceeded, "Request's deadline exceeded")
  | .rejected .unknownFunction => (.notFound, "Unknown Function")
  | .rejected .internal => (.internal, "SandboxPool internal error")
  | .rejected .shuttingDown => (.failedPrecondition, "SandboxPool is shutting down")

def failureResponse (req : Request) (functionId : FunctionId) (failure : AdmissionFailure) :
    Response where
  invocationId := req.invocationId
  functionId := functionId
  statusCode := (failureStatus failure).1
  sourceTimestampNs := none
  body := (failureStatus failure).2

/-- Complete a request that failed before it reached a worker. -/
def failAdmission (i : Input) (req : Request) (functionId : FunctionId)
    (failure : AdmissionFailure) : AdmissionM Unit := do
  modify fun c => { c with stats.numFailed := c.stats.numFailed + 1 }
  record (.fail req functionId failure)
  let resp := failureResponse req functionId failure
  if i.constructible resp then record (.respond resp)

/-- The runtime rounds the deadline up when it arms the timer; that sum is not made here. -/
def setDeadlineTimerTo (nextDeadline : Option Instant) : AdmissionM Unit :=
  modify fun c => { c with nextDeadline, deadlineTimer := nextDeadline }

def updateDeadlineTimer (deadline : Instant) : AdmissionM Unit := do
  if (← get).nextDeadline.all fun curr => deadline < curr then setDeadlineTimerTo (some deadline)

def updateQueue (functionId : FunctionId) (f : FunctionQueue → FunctionQueue) :
    AdmissionM Unit := do
  let fq ← expect queuePanic ((← get).queues.lookup functionId)
  modify fun c => { c with queues := c.queues.insert functionId (f fq) }

namespace FunctionQueue

def headExpired (now : Instant) (fq : FunctionQueue) : Bool :=
  fq.queue.head?.any fun re => re.deadline ≤ now

def expired (now : Instant) (fq : FunctionQueue) : List RequestEnvelope :=
  fq.queue.takeWhile fun re => re.deadline ≤ now

def remaining (now : Instant) (fq : FunctionQueue) : List RequestEnvelope :=
  fq.queue.dropWhile fun re => re.deadline ≤ now

/-- The block is stale: its head is gone, or nothing is left. -/
def unblocks (now : Instant) (fq : FunctionQueue) : Bool :=
  fq.isBlocked && (fq.headExpired now || (fq.remaining now).isEmpty)

/-- One queue after an expiry sweep. -/
def sweep (now : Instant) (fq : FunctionQueue) : FunctionQueue where
  queue := fq.remaining now
  state := if fq.unblocks now then .runnable else fq.state

end FunctionQueue

def earliest : Option Instant → Option Instant → Option Instant
  | some a, some b => some (min a b)
  | some a, none => some a
  | none, next => next

def subtractQueued (n : Nat) : AdmissionM Unit := do
  require (n ≤ (← get).totalQueuedReqs) underflowPanic
  modify fun c => { c with totalQueuedReqs := c.totalQueuedReqs - n }

def subtractBlocked (n : Nat) : AdmissionM Unit := do
  require (n ≤ (← get).blockedFunctionCount) underflowPanic
  modify fun c => { c with blockedFunctionCount := c.blockedFunctionCount - n }

/-- Pop every expired head, unblock the queues that lose one, and rearm the timer. -/
def expireQueuedRequests (i : Input) (now : Instant) : AdmissionM Unit := do
  let queues := (← get).queues.values i.rank
  let expired := queues.flatMap (FunctionQueue.expired now)
  let numUnblocked := queues.countP (FunctionQueue.unblocks now)
  let nextDeadline := queues.foldl
    (fun next fq => earliest next ((fq.remaining now).head?.map RequestEnvelope.deadline)) none
  modify fun c => { c with queues := c.queues.mapValues fun _ => FunctionQueue.sweep now }
  subtractQueued expired.length
  subtractBlocked numUnblocked
  expired.forM fun re => failAdmission i re.req re.functionId .deadlinePassed
  setDeadlineTimerTo nextDeadline

def expireIfDue (i : Input) : AdmissionM Unit := do
  if (← get).nextDeadline.any fun deadline => deadline ≤ i.now then expireQueuedRequests i i.now

/-- The function whose runnable queue has the oldest head; the first one traversed on a tie. -/
def pickNextFunction (i : Input) (c : AdmissionController) : Option FunctionId :=
  (((c.queues.ordered i.rank).filter fun e => e.2.isRunnable).argmin
    fun e => e.2.queue.head?.map RequestEnvelope.enqueuedAt |>.getD 0).map Prod.fst

/-- Put a request back at the front of its queue. -/
def requeue (re : RequestEnvelope) : AdmissionM Unit := do
  updateQueue re.functionId fun fq => { fq with queue := re :: fq.queue }
  modify fun c => { c with totalQueuedReqs := c.totalQueuedReqs + 1 }
  updateDeadlineTimer re.deadline

def releaseSlot : AdmissionM Unit := modify fun c => { c with freeSlots := c.freeSlots + 1 }

/-- Take the head of `functionId`'s queue out. -/
def popHead (functionId : FunctionId) : AdmissionM RequestEnvelope := do
  let fq ← expect "called `Option::unwrap()` on a `None` value"
    ((← get).queues.lookup functionId)
  match fq.queue with
  | re :: queue =>
    modify fun c => { c with queues := c.queues.insert functionId { fq with queue } }
    subtractQueued 1
    require (fq.isBlocked = false)
      "self.pick_next_function() should only be picking Runnable Functions"
    pure re
  | [] => panicWith "called `Option::unwrap()` on a `None` value"

/-- Spend a permit on one dispatch attempt, if a runnable request is left. -/
def handleAcquiredSlot (i : Input) (sent : Bool) : AdmissionM Unit := do
  expireIfDue i
  match pickNextFunction i (← get) with
  | none => releaseSlot
  | some functionId =>
    let envelope ← popHead functionId
    if sent then
      record (.requestDispatch functionId .reuseIdleOrProvision)
      modify fun c => { c with outstanding := some { envelope } }
    else
      requeue envelope
      releaseSlot
      throw ()

def enqueue (req : Request) (functionId : FunctionId) (now : Instant) (delay : Duration) :
    AdmissionM Unit := do
  let deadline ← addInstant now delay
  updateQueue functionId fun fq =>
    { fq with queue := fq.queue ++ [{ req, functionId, enqueuedAt := now, deadline }] }
  modify fun c => { c with totalQueuedReqs := c.totalQueuedReqs + 1 }
  updateDeadlineTimer deadline

/-- Whether the function's queue is full, even without its expired heads. `checkedExpiries` says
whether this request has already caused a sweep. -/
def functionFull (i : Input) (functionId : FunctionId) (fqCap : Nat) (checkedExpiries : Bool) :
    AdmissionM Bool := do
  let fq ← expect queuePanic ((← get).queues.lookup functionId)
  if fqCap ≤ fq.queue.length then
    if checkedExpiries = false then expireIfDue i
    let fq ← expect queuePanic ((← get).queues.lookup functionId)
    pure (fqCap ≤ fq.queue.length)
  else pure false

/-- The per-function bound, after the global one. A new queue reserves room for as many requests as
its bound, which panics in the source when the bound is too great for the memory; that is left out. -/
def admitToQueue (i : Input) (req : Request) (overrides : Option FunctionAdmissionOverrides)
    (checkedExpiries : Bool) : AdmissionM Unit := do
  let fid := req.functionId
  let config := (← get).config
  let fqCap := (overrides.bind (·.maxQueued)).getD config.defaultMaxQueuedPerFunc
  let fnMaxDelay := (overrides.bind (·.maxQueueDelay)).getD config.defaultMaxQueueDelay
  modify fun c =>
    { c with queues := c.queues.insert fid ((c.queues.lookup fid).getD FunctionQueue.empty) }
  if ← functionFull i fid fqCap checkedExpiries then failAdmission i req fid .queueFullFunction
  else enqueue req fid i.now fnMaxDelay

def globalFull (c : AdmissionController) : Bool := c.config.globalMaxQueuedReqs ≤ c.totalQueuedReqs

/-- The checks on a request just received: known function, global bound, function's bound. -/
def admitRequest (i : Input) (req : Request) : AdmissionM Unit := do
  match i.store req.functionId with
  | none => failAdmission i req req.functionId (.rejected .unknownFunction)
  | some overrides =>
    if globalFull (← get) then
      expireIfDue i
      if globalFull (← get) then failAdmission i req req.functionId .queueFullGlobal
      else admitToQueue i req overrides true
    else admitToQueue i req overrides false

def handleNewRequest (i : Input) (req : Request) : AdmissionM Unit := do
  modify fun c => { c with stats.numReceived := c.stats.numReceived + 1 }
  record (.receive req)
  admitRequest i req

def markFunctionRunnable (functionId : FunctionId) : AdmissionM Unit := do
  match (← get).queues.lookup functionId with
  | none => pure ()
  | some fq =>
    if fq.isBlocked then
      modify fun c => { c with queues := c.queues.insert functionId { fq with state := .runnable } }
      subtractBlocked 1

def markFunctionBlocked (i : Input) (functionId : FunctionId) (reason : BlockReason) :
    AdmissionM Unit := do
  let fq ← expect queuePanic ((← get).queues.lookup functionId)
  if fq.isBlocked = false then
    modify fun c => { c with blockedFunctionCount := c.blockedFunctionCount + 1 }
    if (← get).blockedFunctionCount = 1 then
      let next ← addInstant i.now (← get).config.fallbackRetryPeriod
      modify fun c => { c with livenessTimer := next }
  modify fun c =>
    { c with queues := c.queues.insert functionId { fq with state := .blocked reason i.now } }

def FunctionQueue.underMemoryPressure (fq : FunctionQueue) : Bool :=
  match fq.state with
  | .blocked .memoryPressure _ => true
  | _ => false

def FunctionQueue.unblock (p : FunctionQueue → Bool) (fq : FunctionQueue) : FunctionQueue :=
  if p fq then { fq with state := .runnable } else fq

def unblockResourceBlockedFunctions (i : Input) : AdmissionM Unit := do
  let unblocked := ((← get).queues.values i.rank).countP FunctionQueue.underMemoryPressure
  modify fun c =>
    { c with queues := c.queues.mapValues fun _ => .unblock FunctionQueue.underMemoryPressure }
  subtractBlocked unblocked

def unblockAll : AdmissionM Unit := do
  if (← get).blockedFunctionCount ≠ 0 then
    modify fun c =>
      { c with
        queues := c.queues.mapValues fun _ => .unblock FunctionQueue.isBlocked
        blockedFunctionCount := 0 }

def atWorkerCap (fq : FunctionQueue) : Bool :=
  match fq.state with
  | .blocked .functionWorkerCap _ => true
  | _ => false

def handlePoolEvent (i : Input) : PoolEvent → AdmissionM Unit
  | .workerIdle functionId => markFunctionRunnable functionId
  | .memoryCapAvailable => unblockResourceBlockedFunctions i
  | .workerCapAvailable functionId => do
    match (← get).queues.lookup functionId with
    | none => pure ()
    | some fq => if atWorkerCap fq then markFunctionRunnable functionId

/-- Resolve the outstanding dispatch. The permit leaves with a forwarded request only. -/
def handleDispatchReply (i : Input) (resp : DispatchResponse) (delivered : Bool) :
    AdmissionM Unit := do
  let curr ← expect "dispatch reply branch enabled only when `outstanding.is_some()`"
    (← get).outstanding
  modify fun c => { c with outstanding := none }
  match resp with
  | .dispatch workerRef cpuset =>
    if delivered then
      record (.forward workerRef curr.envelope.req cpuset)
      modify fun c => { c with stats.numDispatched := c.stats.numDispatched + 1 }
    else
      releaseSlot
      throw ()
  | .wouldBlock reason =>
    requeue curr.envelope
    markFunctionBlocked i curr.envelope.functionId reason
    releaseSlot
  | .reject reason =>
    failAdmission i curr.envelope.req curr.envelope.functionId (.rejected reason)
    releaseSlot

/-- The pool dropped the reply channel: the request is failed and the controller gives up. -/
def handleReplyClosed (i : Input) : AdmissionM Unit := do
  match (← get).outstanding with
  | none => pure ()
  | some curr =>
    modify fun c => { c with outstanding := none }
    failAdmission i curr.envelope.req curr.envelope.functionId (.rejected .internal)
    releaseSlot
  throw ()

/-- The exit value of `run`. -/
abbrev RunResult := Except Unit QuickStats

def stay (m : AdmissionM Unit) : Handler AdmissionController Empty (Option RunResult) := do
  match ← attempt m with
  | .ok _ => pure none
  | .error _ => pure (some (.error ()))

/-- Set before each `select!`: ask for one permit while there is a request to spend it on. -/
def awaitSlot : Handler AdmissionController Empty Unit := do
  if shouldWaitForSlot (← get) then modify fun c => { c with waitingForSlot := true }

def leave : Handler AdmissionController Empty (Option RunResult) := do
  pure (some (.ok (← get).stats))

/-- The fallback interval ticks again one period after its due time, or after now if it is late. -/
def nextTick (c : AdmissionController) (now : Instant) : Instant :=
  if c.livenessTimer + 5000000 < now then now + c.config.fallbackRetryPeriod
  else c.livenessTimer + c.config.fallbackRetryPeriod

/-- The branch of `select!` that takes the event. A branch whose guard is off leaves the state. -/
def select (i : Input) : Handler AdmissionController Empty (Option RunResult) := do
  let c ← get
  match i.event with
  | .quit | .sourceClosed => leave
  | .newRequest req => stay (handleNewRequest i req)
  | .poolEvent ev => stay (handlePoolEvent i ev)
  | .permit sent =>
    if c.waitingForSlot = true ∧ 0 < c.freeSlots then
      modify fun c => { c with waitingForSlot := false, freeSlots := c.freeSlots - 1 }
      stay (handleAcquiredSlot i sent)
    else pure none
  | .semaphoreClosed =>
    if c.waitingForSlot then
      modify fun c => { c with waitingForSlot := false }
      pure (some (.error ()))
    else pure none
  | .dispatchReply resp delivered =>
    if c.outstanding.isSome then stay (handleDispatchReply i resp delivered) else pure none
  | .replyChannelClosed =>
    if c.outstanding.isSome then stay (handleReplyClosed i) else pure none
  | .deadlinePassed =>
    if c.deadlineTimer.any fun deadline => deadline ≤ i.now then
      stay (expireQueuedRequests i i.now)
    else pure none
  | .livenessTick =>
    if 0 < c.blockedFunctionCount ∧ c.livenessTimer ≤ i.now then
      modify fun c => { c with livenessTimer := nextTick c i.now }
      stay unblockAll
    else pure none
  | .slotReleased => stay releaseSlot

/-- One iteration of the controller's loop. -/
def turn (i : Input) : Handler AdmissionController Empty (Option RunResult) := do
  awaitSlot
  select i

/-- A run of the controller over the events it takes. -/
def run (config : AdmissionConfig) (start : Instant) (inputs : List Input) :
    Progress AdmissionController RunResult :=
  iterate turn inputs (AdmissionController.new config start)

end Admission
end Snaplace
