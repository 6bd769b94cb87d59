import Snaplace.Worker.Actor

/-!
# The worker's requests and main loop

How an invocation, a preparation and a snapshot request are served, how a failed request is cleaned
up before the worker leaves its loop, and the loop itself: one `turn` takes one message, with
invocations before control messages.
-/
namespace Snaplace
open Foundation Foundation.Handler

namespace Worker
variable {ε : Type}

/-- `Paused -> Running` after the snapshot; the cpuset is still set up. -/
def resumeForInvocation (a : Answers) : WorkerM Unit := do
  resumeSandbox a a.resumeAfterSnapshot none
  match (← get).sandboxState with
  | .paused sandbox => become (.running sandbox)
  | _ => panicWith "Just transitioned to SandboxState::Paused for snapshotting"

def newSandboxPanic : String := "Newly created Sandbox should not already have snapshot"

/-- A new sandbox is snapshotted before its first invocation: `Running -> Paused -> Running`.
Only a failed snapshot is forgiven. -/
def snapshotBeforeInvocation (a : Answers) : WorkerM Unit := do
  match (← get).sandboxState with
  | .running sandbox =>
    require (sandbox.hasSnapshot = false) newSandboxPanic
    pauseSandbox a.pauseBeforeSnapshot
    let _ ← runningToPaused
    let _ ← attempt (createSnapshot a)
    resumeForInvocation a
  | _ => panicWith "Entering _handle_with_sandbox while not in SandboxState::Running"

/-- Issue the request; only `HandleFunctionRequest` and `IssuerTimeout` can come out. -/
def issueRequest (a : Answers) (req : Request) : WorkerM Response := do
  let w ← get
  match w.sandboxState with
  | .running sandbox =>
    match a.issueRequest with
    | .ok resp =>
      let stats := { sandbox.stats with invocations := sandbox.stats.invocations + 1 }
      become (.running { sandbox with stats })
      pure { resp with sourceTimestampNs := req.sourceTimestampNs <|> resp.sourceTimestampNs }
    | .failed err => throw (.handleFunctionRequest err)
    | .timedOut => throw (.issuerTimeout w.issuerTimeout)
  | _ => panicWith "Issuing function request while not in SandboxState::Running"

def makeIssuerErrorResponse (a : Answers) (req : Request) (err : Error) (message : String) :
    WorkerM Response := do
  let statusCode ← match err with
    | .handleFunctionRequest _ => pure Code.unavailable
    | .issuerTimeout _ => pure Code.deadlineExceeded
    | _ => panicWith "Only Error::HandleFunctionRequest or IssuerTimeout can be returned"
  fromExcept ((a.errorResponse
    { invocationId := req.invocationId, functionId := req.functionId, statusCode,
      sourceTimestampNs := req.sourceTimestampNs, body := message }).mapError
    .handleFunctionRequest)

/-- The response to hand to the sink, if it can be built, and the error to report afterwards. -/
def prepareResponse (a : Answers) (req : Request) :
    Except Error Response → WorkerM (Option Response × Option Error)
  | .ok resp => pure (some resp, none)
  | .error (.handleFunctionRequest err) => do
    let err := Error.handleFunctionRequest err
    let resp ← attempt (makeIssuerErrorResponse a req err "request issuer failed")
    pure (resp.toOption, some err)
  | .error (.issuerTimeout timeout) => do
    let err := Error.issuerTimeout timeout
    let resp ← attempt (makeIssuerErrorResponse a req err "request issuer timed out")
    pure (resp.toOption, some err)
  | .error err => throw err

def maxFwdAttempts : Nat := 10

def reachedMaxAttempts : Error :=
  .channel "forwarding response to Sink over mpsc"
    s!"Reached maximum number of attempts ({maxFwdAttempts})"

/-- Attempts `attempts` to `attempts + remaining - 1` at handing the response to the sink. -/
def forwardAttempts (sink : Nat → SendResult) (attempts : Nat) : Nat → Except Error Unit
  | 0 => .error reachedMaxAttempts
  | remaining + 1 =>
    match sink attempts with
    | .sent => .ok ()
    | .timeout => forwardAttempts sink (attempts + 1) remaining
    | .closed =>
      if remaining = 0 then .error reachedMaxAttempts
      else .error (.channel "forwarding response to Sink over mpsc" "channel closed")

def forwardResponse (a : Answers) (req : Request) (resp : Response) : WorkerM Unit := do
  fromExcept (forwardAttempts a.sink 0 maxFwdAttempts)
  record (.respond req resp)

def forwardIfAny (a : Answers) (req : Request) : Option Response → WorkerM (Option Error)
  | some resp => do
    match ← attempt (forwardResponse a req resp) with
    | .ok _ => pure none
    | .error err => pure (some (.forwardToSink err))
  | none => pure none

/-- Forward a response whatever came out of issuing, then report the first error met. -/
def forwardIssued (a : Answers) (req : Request) (issued : Except Error Response) :
    WorkerM Unit := do
  let (resp, issueErr) ← prepareResponse a req issued
  let forwardErr ← forwardIfAny a req resp
  match issueErr <|> forwardErr with
  | some err => throw err
  | none => pure ()

def issueAndForward (a : Answers) (req : Request) : WorkerM Unit := do
  let _ ← attempt (spawnPerformanceMonitor a)
  let issued ← attempt (issueRequest a req)
  forwardIssued a req issued

/-- `Running -> Paused` after a served invocation, with a snapshot if one is due now. -/
def pauseAfterInvocation (a : Answers) (snapshotNow : Bool) : WorkerM Unit := do
  pauseSandbox a.pauseAfterInvocation
  let _ ← runningToPaused
  if snapshotNow then
    let _ ← attempt (createSnapshot a)

/-- The part of an invocation after its sandbox has been prepared. -/
def handleWithSandbox (a : Answers) (req : Request) (startState : SandboxStateRef) :
    WorkerM Unit := do
  let creation := (← get).snapCreationTime
  if startState = .nonexistent ∧ creation = .onCreationBeforeInvoc then
    snapshotBeforeInvocation a
  issueAndForward a req
  pauseAfterInvocation a (startState = .nonexistent ∧ creation = .onCreationAfterInvoc)

def handleWithSlot (a : Answers) (req : Request) (cpuset : Cpu) : WorkerM Unit := do
  let startState := (← get).sandboxState.asRef
  mapErr Error.prepareSandbox (prepareSandbox a cpuset)
  handleWithSandbox a req startState

/-- The running slot is released whatever happened; `NeedWork` is sent on success only. -/
def handleRequest (a : Answers) (invoc : Invocation) : WorkerM Unit := do
  let result ← attempt (handleWithSlot a invoc.req invoc.cpuset)
  record .releaseSlot
  fromExcept result
  sendNeedWork

/-- `OnCreationBeforeInvoc` also snapshots a sandbox created by a preparation; best effort. -/
def snapshotAfterPreparation (a : Answers) (startState : SandboxStateRef) (hasSnapshot : Bool) :
    WorkerM Bool := do
  if startState = .nonexistent ∧ (← get).snapCreationTime = .onCreationBeforeInvoc then
    match ← attempt (createSnapshot a) with
    | .ok _ => pure true
    | .error _ => pure hasSnapshot
  else
    pure hasSnapshot

def handlePrepareSandboxRequest (a : Answers) (cpuset : Cpu) : WorkerM Unit := do
  let startState := (← get).sandboxState.asRef
  match ← attempt (prepareSandbox a cpuset) with
  | .error err => do
    sendSandboxPrepResult (.error err.display)
    throw (.prepareSandbox err)
  | .ok _ => do
    match ← attempt (pauseSandbox a.pauseAfterPreparation) with
    | .error err => do
      sendSandboxPrepResult (.error err.display)
      throw err
    | .ok _ => do
      let sandbox ← runningToPaused
      let hasSnapshot ← snapshotAfterPreparation a startState sandbox.hasSnapshot
      sendSandboxPrepResult (.ok (sandbox.id, hasSnapshot, sandbox.stats))

def SandboxStateRef.display : SandboxStateRef → String
  | nonexistent => "Nonexistent"
  | paused => "Paused"
  | snapshot => "Snapshot"
  | running => "Running"
  | trashed => "Trashed"

def snapshotOnRequest (a : Answers) : WorkerM Unit := do
  match (← get).sandboxState with
  | .snapshot _ => pure ()
  | .paused sandbox => if sandbox.hasSnapshot then pure () else createSnapshot a
  | state => throw (.createSnapshotControl
      s!"cannot create snapshot of SandboxState::{state.asRef.display}")

def handleSnapshotRequest (a : Answers) (sandboxId : SandboxId) : Handler Worker ε Unit := do
  let result ← attempt (snapshotOnRequest a)
  sendSnapshotResult result ((← get).sandboxState.id.getD sandboxId)

/-- Pause a running sandbox after a failed request, then unload it if it has a snapshot, else
destroy it. -/
def retireRunning (a : Answers) (sandbox : Sandbox) : Handler Worker Unit Unit := do
  let sandbox := a.pauseForCleanup.on sandbox
  match a.pauseForCleanup.result with
  | .error _ => do
    become (.trashed sandbox)
    throw ()
  | .ok _ =>
    if sandbox.hasSnapshot then
      mapErr (fun _ => ()) (shutdownOrTrash a sandbox)
    else do
      become (.paused sandbox)
      mapErr (fun _ => ()) (destroySandbox a)

def cleanupPaused (a : Answers) (sandbox : Sandbox) : Handler Worker Unit Unit :=
  if sandbox.hasSnapshot then mapErr (fun _ => ()) (shutdownOrTrash a sandbox)
  else mapErr (fun _ => ()) (destroySandbox a)

def unmatchedErrorPanic : String :=
  "all Error variants returned by Worker::handle_request are already matched"

/-- Clean up after a failed request. An error means the sandbox goes back to the pool trashed. -/
def tryHandleFailure (a : Answers) (err : Error) : Handler Worker Unit Unit := do
  let state := (← get).sandboxState
  match err with
  | .prepareSandbox _ =>
    match state with
    | .nonexistent | .snapshot _ => pure ()
    | .paused sandbox => cleanupPaused a sandbox
    | .running sandbox => retireRunning a sandbox
    | .trashed _ => panicWith "BUG: Error::PrepareSandbox for SandboxState::Trashed"
  | .handleFunctionRequest _ | .issuerTimeout _ =>
    match state with
    | .running sandbox => retireRunning a sandbox
    | _ => panicWith "HandleFunctionRequest, IssuerTimeout only while SandboxState::Running"
  | .forwardToSink _ =>
    match state with
    | .running sandbox => retireRunning a sandbox
    | _ => panicWith "Error::ForwardToSink should be returned only while SandboxState::Running"
  | .pauseSandbox _ =>
    match state with
    | .running sandbox => do
      match a.pauseAgain.result with
      | .ok _ => become (.paused (a.pauseAgain.on sandbox))
      | .error _ => become (.running (a.pauseAgain.on sandbox))
      mapErr (fun _ => ()) (destroySandbox a)
    | _ => panicWith "BUG: Error::PauseSandbox should be returned only while SandboxState::Running"
  | _ => panicWith unmatchedErrorPanic

/-- What the main loop takes from its two queues. -/
inductive Recv where
  | invocation (invoc : Invocation)
  | invocationsClosed
  | control (msg : ControlMessage)
  | controlClosed
  deriving DecidableEq, Repr

/-- `none` to stay in the loop, else the exit status to leave it with. -/
abbrev Verdict := Option (Except Error Unit)

/-- After a request: on failure clean up and leave; the error is kept if the cleanup failed. -/
def afterRequest (a : Answers) : Except Error Unit → Handler Worker ε Verdict
  | .ok _ => pure none
  | .error err => do
    match ← attempt (tryHandleFailure a err) with
    | .ok _ => pure (some (.ok ()))
    | .error _ => pure (some (.error err))

def handle (a : Answers) : Recv → Handler Worker ε Verdict
  | .invocation invoc => do
    afterRequest a (← attempt (handleRequest a invoc))
  | .control .shutDown => some <$> attempt (shutdown a)
  | .control .destroySandbox => some <$> attempt (destroySandbox a)
  | .control (.prepareSandbox cpuset) => do
    afterRequest a (← attempt (handlePrepareSandboxRequest a cpuset))
  | .control (.createSnapshot sandboxId) => do
    handleSnapshotRequest a sandboxId
    pure none
  | .invocationsClosed | .controlClosed => pure (some (.ok ()))

/-- Hand the sandbox back to the pool with the worker's exit value. -/
def takeExit (result : Except Error Unit) : Handler Worker ε WorkerExit :=
  modifyGet fun w => ({ result, sandbox := .ofState w.sandboxState }, w.setState .nonexistent)

def leave (a : Answers) (status : Except Error Unit) : Handler Worker ε WorkerExit := do
  sendReapMe
  match status with
  | .ok _ => uncacheSandbox a
  | .error _ => pure ()
  takeExit status

def mainLoopPanic : String :=
  "should never be in SandboxState::Running or Trashed when entering the main loop"

/-- One turn of the main loop. -/
def turn (input : Recv × Answers) : Handler Worker Empty (Option WorkerExit) := do
  require (← get).sandboxState.Settled mainLoopPanic
  match ← handle input.2 input.1 with
  | none => pure none
  | some status => some <$> leave input.2 status

/-- A worker's task: initialize the runtime, then run the main loop. -/
def run (init : Except SourceError Unit) (inputs : List (Recv × Answers)) (w : Worker) :
    Progress Worker WorkerExit :=
  match init with
  | .ok _ => iterate turn inputs w
  | .error err =>
    ((do sendReapMe; some <$> takeExit (.error (.init "runtime initialization" err)) :
      Handler Worker Empty (Option WorkerExit)) w).andThen .running

end Worker
end Snaplace
