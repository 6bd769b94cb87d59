import Snaplace.Foundation.Table
import Snaplace.Worker.Types

/-!
# Data of the admission controller

Queued requests, the state of a function's queue, the messages exchanged with the sandbox pool and
the controller's own state. A permit of the execution-slot semaphore is counted, not named: it is
free, or it travels with the outstanding dispatch, or it has left with a forwarded request.
-/
namespace Snaplace
open Foundation

namespace Admission

structure AdmissionConfig where
  maxConcurrency : Nat
  globalMaxQueuedReqs : Nat
  defaultMaxQueuedPerFunc : Nat
  defaultMaxQueueDelay : Duration
  fallbackRetryPeriod : Duration
  deriving DecidableEq, Repr

/-- A function's own bounds; the last one is read by the sandbox pool. -/
structure FunctionAdmissionOverrides where
  maxQueued : Option Nat
  maxQueueDelay : Option Duration
  maxLiveInstances : Option Nat
  deriving DecidableEq, Repr

inductive DispatchMode where
  | reuseIdleOnly
  | reuseIdleOrProvision
  deriving DecidableEq, Repr

inductive BlockReason where
  | noIdleWorker
  | functionWorkerCap
  | memoryPressure
  deriving DecidableEq, Repr

inductive RejectReason where
  | unknownFunction
  | internal
  | shuttingDown
  deriving DecidableEq, Repr

inductive DispatchResponse where
  | dispatch (workerRef : WorkerId) (cpuset : Cpu)
  | wouldBlock (reason : BlockReason)
  | reject (reason : RejectReason)
  deriving DecidableEq, Repr

inductive AdmissionFailure where
  | queueFullGlobal
  | queueFullFunction
  | deadlinePassed
  | rejected (reason : RejectReason)
  deriving DecidableEq, Repr

/-- Advisory hints from the sandbox pool. -/
inductive PoolEvent where
  | workerIdle (functionId : FunctionId)
  | memoryCapAvailable
  | workerCapAvailable (functionId : FunctionId)
  deriving DecidableEq, Repr

structure RequestEnvelope where
  req : Request
  functionId : FunctionId
  enqueuedAt : Instant
  deadline : Instant
  deriving DecidableEq, Repr

inductive FunctionDispatchState where
  | runnable
  | blocked (reason : BlockReason) (blockedAt : Instant)
  deriving DecidableEq, Repr

structure FunctionQueue where
  queue : List RequestEnvelope
  state : FunctionDispatchState
  deriving DecidableEq, Repr

namespace FunctionQueue

def empty : FunctionQueue := { queue := [], state := .runnable }

def isBlocked (fq : FunctionQueue) : Bool :=
  match fq.state with
  | .blocked .. => true
  | .runnable => false

def isRunnable (fq : FunctionQueue) : Bool := !fq.queue.isEmpty && !fq.isBlocked

end FunctionQueue

/-- The request taken out of its queue for the pool to place; it holds one permit. -/
structure OutstandingDispatch where
  envelope : RequestEnvelope
  deriving DecidableEq, Repr

structure QuickStats where
  numReceived : Nat
  numDispatched : Nat
  numFailed : Nat
  deriving DecidableEq, Repr

/-- What the controller does outside its own state, in order. -/
inductive Action where
  | receive (req : Request)
  | fail (req : Request) (functionId : FunctionId) (failure : AdmissionFailure)
  /-- A response handed to the sink, which may still refuse it. -/
  | respond (resp : Response)
  | requestDispatch (functionId : FunctionId) (mode : DispatchMode)
  | forward (workerRef : WorkerId) (req : Request) (cpuset : Cpu)
  deriving DecidableEq, Repr

structure AdmissionController where
  config : AdmissionConfig
  queues : Table FunctionId FunctionQueue
  totalQueuedReqs : Nat
  blockedFunctionCount : Nat
  nextDeadline : Option Instant
  /-- When the deadline timer fires, if it is armed. -/
  deadlineTimer : Option Instant
  /-- When the fallback interval ticks next. -/
  livenessTimer : Instant
  outstanding : Option OutstandingDispatch
  freeSlots : Nat
  waitingForSlot : Bool
  stats : QuickStats
  log : List Action

inductive Event where
  | quit
  | newRequest (req : Request)
  | sourceClosed
  | poolEvent (ev : PoolEvent)
  /-- The semaphore grants a permit; `sent` says whether the pool's channel takes a message. -/
  | permit (sent : Bool)
  | semaphoreClosed
  /-- The pool replies; `delivered` says whether the worker's channel takes a message. -/
  | dispatchReply (resp : DispatchResponse) (delivered : Bool)
  | replyChannelClosed
  | deadlinePassed
  | livenessTick
  /-- A worker gives back the permit of an invocation it has served. -/
  | slotReleased
  deriving DecidableEq, Repr

/-- One turn of the controller's loop: the event taken and what it finds. -/
structure Input where
  event : Event
  now : Instant
  /-- The function store: `none` is an unknown function. -/
  store : FunctionId → Option (Option FunctionAdmissionOverrides)
  /-- The order in which the map of queues is traversed. -/
  rank : FunctionId → Nat
  /-- Whether the response type can represent this response. -/
  constructible : Response → Bool

end Admission
end Snaplace
