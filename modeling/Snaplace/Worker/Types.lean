import Snaplace.Foundation.Handler

/-!
# Data of a worker

Sandboxes, the five sandbox states, the messages a worker receives and sends, its errors and its
exit value. Identifiers and instants are only compared by the code, so they are numbers here.
Metrics, tracing and invocation timings are left out: no modelled function reads them.
-/
namespace Snaplace

abbrev FunctionId := Nat
abbrev WorkerId := Nat
abbrev SandboxId := Nat
abbrev InvocationId := Nat
abbrev Cpu := Nat
/-- Nanoseconds, of a length of time or since a fixed origin. -/
abbrev Duration := Nat
abbrev Instant := Nat
abbrev NetResource := Nat
/-- The displayed text of a boxed error of a runtime, issuer, manager or channel. -/
abbrev SourceError := String

inductive SnapshotCreationTime where
  | onlyOnDemand
  | onCreationAfterInvoc
  | onCreationBeforeInvoc
  | never
  deriving DecidableEq, Repr

structure SandboxStats where
  restorations : Nat
  invocations : Nat
  deriving DecidableEq, Repr

structure Sandbox where
  id : SandboxId
  hasSnapshot : Bool
  stats : SandboxStats
  deriving DecidableEq, Repr

inductive Code where
  | ok
  | unavailable
  | resourceExhausted
  | deadlineExceeded
  | notFound
  | internal
  | failedPrecondition
  | other (code : Nat)
  deriving DecidableEq, Repr

structure Request where
  invocationId : InvocationId
  functionId : FunctionId
  /-- The source timestamp header, if the request carries one. -/
  sourceTimestampNs : Option Nat
  deriving DecidableEq, Repr

structure Response where
  invocationId : InvocationId
  functionId : FunctionId
  statusCode : Code
  sourceTimestampNs : Option Nat
  body : String
  deriving DecidableEq, Repr

namespace Worker

inductive SandboxState where
  | nonexistent
  | paused (sandbox : Sandbox)
  | snapshot (sandbox : Sandbox)
  | running (sandbox : Sandbox)
  | trashed (sandbox : Sandbox)
  deriving DecidableEq, Repr

inductive SandboxStateRef where
  | nonexistent
  | paused
  | snapshot
  | running
  | trashed
  deriving DecidableEq, Repr

namespace SandboxState

/-- A worker starts with no sandbox or with a snapshot. -/
def ofOption : Option Sandbox → SandboxState
  | some sandbox => snapshot sandbox
  | none => nonexistent

def toOption : SandboxState → Option Sandbox
  | nonexistent => none
  | paused sandbox | snapshot sandbox | running sandbox | trashed sandbox => some sandbox

def id (state : SandboxState) : Option SandboxId := state.toOption.map Sandbox.id

def asRef : SandboxState → SandboxStateRef
  | nonexistent => .nonexistent
  | paused _ => .paused
  | snapshot _ => .snapshot
  | running _ => .running
  | trashed _ => .trashed

/-- The states in which the main loop may be entered. -/
def Settled : SandboxState → Prop
  | running _ | trashed _ => False
  | _ => True

instance : DecidablePred Settled
  | nonexistent | paused _ | snapshot _ => isTrue trivial
  | running _ | trashed _ => isFalse fun h => h

end SandboxState

inductive Error where
  | init (dscr : String) (source : SourceError)
  | forward (worker : WorkerId) (dscr : SourceError)
  | shutDown (worker : WorkerId) (dscr : SourceError)
  | channel (dscr : String) (source : SourceError)
  | network (source : SourceError)
  | prepareSandbox (source : Error)
  | createSandbox (source : SourceError)
  | loadSandbox (source : SourceError)
  | pauseSandbox (source : SourceError)
  | resumeSandbox (source : SourceError)
  | setupCpuset (source : SourceError)
  | createSnapshot (source : SourceError)
  | shutdownSandbox (source : SourceError)
  | destroySandbox (source : SourceError)
  | snapshotManager (msg : String) (err : SourceError)
  | createSnapshotControl (dscr : String)
  | createState (source : SourceError)
  | handleFunctionRequest (source : SourceError)
  | issuerTimeout (timeout : Duration)
  | forwardToSink (source : Error)
  deriving DecidableEq, Repr

/-- The displayed text of an error; sources are not part of it. -/
def Error.display : Error → String
  | init dscr _ => s!"failed to initialize Worker: {dscr}"
  | forward worker dscr => s!"failed to forward Request to Worker `{worker}`: {dscr}"
  | shutDown worker dscr => s!"failed to send ShutDown message to Worker `{worker}`: {dscr}"
  | channel dscr _ => s!"internal channel failure: {dscr}"
  | network _ => "error while managing networking resources"
  | prepareSandbox _ => "failed to prepare the sandbox"
  | createSandbox _ => "runtime failed to create new sandbox"
  | loadSandbox _ => "runtime failed to load sandbox"
  | pauseSandbox _ => "runtime failed to pause sandbox"
  | resumeSandbox _ => "runtime failed to resume sandbox"
  | setupCpuset _ => "runtime failed to setup cpuset"
  | createSnapshot _ => "runtime failed to create snapshot for sandbox"
  | shutdownSandbox _ => "runtime failed to shut the sandbox down"
  | destroySandbox _ => "runtime failed to destroy the sandbox"
  | snapshotManager msg _ => s!"snapshot manager error: {msg}"
  | createSnapshotControl dscr => s!"failed to handle control-plane snapshotting request: {dscr}"
  | createState _ => "failed to create sandbox snapshot state"
  | handleFunctionRequest _ => "failed to handle the function request"
  | issuerTimeout timeout => s!"stopped awaiting RequestIssuer after {timeout}ns"
  | forwardToSink _ => "failed to forward Function's Response to Sink"

/-- The only data-plane message a worker receives. Its running slot travels with it. -/
structure Invocation where
  req : Request
  cpuset : Cpu
  deriving DecidableEq, Repr

inductive ControlMessage where
  | shutDown
  | prepareSandbox (cpuset : Cpu)
  | destroySandbox
  | createSnapshot (sandboxId : SandboxId)
  deriving DecidableEq, Repr

structure PrepareSandboxResult where
  workerId : WorkerId
  functionId : FunctionId
  result : Except String (SandboxId × Bool × SandboxStats)
  deriving DecidableEq, Repr

structure CreateSnapshotResult where
  workerId : WorkerId
  functionId : FunctionId
  sandboxId : SandboxId
  result : Except String Unit
  deriving DecidableEq, Repr

/-- What a worker sends to the sandbox pool. -/
inductive OutboundMessage where
  | sandboxId (workerId : WorkerId) (sandboxId : SandboxId)
  | needWork (workerId : WorkerId) (functionId : FunctionId)
  | reapMe (workerId : WorkerId) (functionId : FunctionId)
  | sandboxPreparation (result : PrepareSandboxResult)
  | snapshotCreation (result : CreateSnapshotResult)
  deriving DecidableEq, Repr

inductive SandboxExit where
  | none
  | reusable (sandbox : Sandbox)
  | trashed (sandbox : Sandbox)
  deriving DecidableEq, Repr

/-- `Paused` and `Running` are handed back as trashed: reusability was not proved. -/
def SandboxExit.ofState : SandboxState → SandboxExit
  | .nonexistent => .none
  | .snapshot sandbox => .reusable sandbox
  | .paused sandbox | .running sandbox => .trashed sandbox
  | .trashed sandbox => .trashed sandbox

def SandboxExit.toOption : SandboxExit → Option Sandbox
  | .none => .none
  | .reusable sandbox | .trashed sandbox => some sandbox

@[simp] theorem SandboxExit.toOption_ofState (state : SandboxState) :
    (ofState state).toOption = state.toOption := by
  cases state <;> rfl

structure WorkerExit where
  result : Except Error Unit
  sandbox : SandboxExit
  deriving DecidableEq, Repr

end Worker
end Snaplace
