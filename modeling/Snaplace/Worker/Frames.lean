import Snaplace.Foundation.Frame
import Snaplace.Worker.MainLoop

/-!
# Frames of the worker's handlers

Most of what a worker does moves its sandbox from one state to the next and tells the pool nothing
about it. A relation on workers that allows for that is kept by all such handlers; creating a
sandbox, destroying one and reporting on one are apart, so that a relation may forbid them.
-/
namespace Snaplace
open Foundation

namespace Worker
open Handler (Keeps Post wp attempt mapErr fromExcept)
variable {ε : Type} {a : Answers} {cpuset : Cpu}

/-- An action that neither creates nor destroys a sandbox nor tells the pool about one. -/
def Action.Plain : Action → Prop
  | .created _ | .destroyed _ => False
  | .toPool (.sandboxId ..) | .toPool (.sandboxPreparation _) | .toPool (.snapshotCreation _) => False
  | _ => True

/-- What a worker keeps that changes the state of its sandbox. -/
class Frame (R : Worker → Worker → Prop) : Prop extends IsPreorder Worker R where
  become : ∀ w state, R w (w.setState state)
  plain : ∀ w action, action.Plain → R w (w.emit action)

class CreateFrame (R : Worker → Worker → Prop) : Prop extends Frame R where
  created : ∀ w sb, R w (w.emit (.created sb))
  announced : ∀ w worker sb, R w (w.emit (.toPool (.sandboxId worker sb)))

class DestroyFrame (R : Worker → Worker → Prop) : Prop extends Frame R where
  destroyed : ∀ w sb, R w (w.emit (.destroyed sb))

class ReportFrame (R : Worker → Worker → Prop) : Prop extends Frame R where
  preparation : ∀ w result, R w (w.emit (.toPool (.sandboxPreparation result)))
  snapshot : ∀ w result, R w (w.emit (.toPool (.snapshotCreation result)))

namespace Keeping
variable {R : Worker → Worker → Prop} {req : Request}

section Frame
variable [Frame R]

theorem plain {action : Action} (h : action.Plain) :
    Keeps R (record action : Handler Worker ε Unit) := fun w => Frame.plain w action h

theorem become {state : SandboxState} : Keeps R (become state : Handler Worker ε Unit) :=
  fun w => Frame.become w state

theorem loadSandbox : Keeps R (loadSandbox a cpuset) := by
  refine .bind .get fun w => ?_
  split
  · exact .bind become fun _ => .bind (.fromExcept _) fun _ => .bind become fun _ =>
      .fromExcept _
  · exact .panicWith _

theorem pauseSandbox {call : SandboxCall} : Keeps R (pauseSandbox call) := by
  refine .bind .get fun w => ?_
  split
  · exact .bind become fun _ => .fromExcept _
  · exact .panicWith _

theorem resumeSandbox {call : SandboxCall} {cpuset : Option Cpu} :
    Keeps R (resumeSandbox a call cpuset) := by
  refine .bind .get fun w => ?_
  split
  · refine .bind become fun _ => .bind (.fromExcept _) fun _ => ?_
    cases cpuset with
    | none => exact .pure _
    | some cpu => exact .bind become fun _ => .fromExcept _
  · exact .panicWith _

theorem runningToPaused : Keeps R runningToPaused := by
  refine .bind .get fun w => ?_
  split
  · exact .bind become fun _ => .pure _
  · exact .panicWith _

theorem snapmanNotifyCreation : Keeps R (snapmanNotifyCreation a) := by
  refine .bind .get fun w => ?_
  split
  · split
    · exact .pure _
    · exact .bind (.fromExcept _) fun _ => plain trivial
    · exact .throw _
  · exact .panicWith _

theorem rtCreateSnapshot {paths : SnapshotPaths} : Keeps R (rtCreateSnapshot a paths) := by
  refine .bind .get fun w => ?_
  split
  · exact .bind become fun _ => .fromExcept _
  · exact .panicWith _

theorem createSnapshot : Keeps R (createSnapshot a) := by
  refine .bind .get fun w => ?_
  split
  · split
    · exact .bind rtCreateSnapshot fun _ => .bind (.attempt snapmanNotifyCreation)
        fun _ => .pure _
    · exact .pure _
    · exact .throw _
  · exact .panicWith _

theorem snapshotBeforeInvocation : Keeps R (snapshotBeforeInvocation a) := by
  refine .bind .get fun w => ?_
  split
  · refine .bind (.require _ _) fun _ => .bind pauseSandbox fun _ =>
      .bind runningToPaused fun _ => .bind (.attempt createSnapshot) fun _ =>
        .bind resumeSandbox fun _ => .bind .get fun w => ?_
    split
    · exact become
    · exact .panicWith _
  · exact .panicWith _

theorem makeIssuerErrorResponse {err : Error} {message : String} :
    Keeps R (makeIssuerErrorResponse a req err message) := by
  unfold Worker.makeIssuerErrorResponse
  cases err
  case handleFunctionRequest | issuerTimeout => exact .bind (.pure _) fun _ => .fromExcept _
  all_goals exact .bind (.panicWith _) fun _ => .fromExcept _

theorem prepareResponse {issued : Except Error Response} :
    Keeps R (prepareResponse a req issued) := by
  unfold Worker.prepareResponse
  split
  · exact .pure _
  · exact .bind (.attempt makeIssuerErrorResponse) fun _ => .pure _
  · exact .bind (.attempt makeIssuerErrorResponse) fun _ => .pure _
  · exact .throw _

theorem forwardIfAny {resp : Option Response} : Keeps R (forwardIfAny a req resp) := by
  cases resp with
  | none => exact .pure _
  | some resp =>
    refine .bind (.attempt (.bind (.fromExcept _) fun _ => plain trivial)) fun r => ?_
    split
    · exact .pure _
    · exact .pure _

theorem issueAndForward : Keeps R (issueAndForward a req) := by
  have monitor : Keeps R (spawnPerformanceMonitor a) := by
    refine .bind .get fun w => ?_
    split
    · exact .fromExcept _
    · exact .panicWith _
  have issue : Keeps R (issueRequest a req) := by
    refine .bind .get fun w => ?_
    split
    · split
      · exact .bind become fun _ => .pure _
      · exact .throw _
      · exact .throw _
    · exact .panicWith _
  refine .bind (.attempt monitor) fun _ => .bind (.attempt issue) fun _ =>
    .bind prepareResponse fun _ => .bind forwardIfAny fun _ => ?_
  split
  · exact .throw _
  · exact .pure _

theorem handleWithSandbox {startState : SandboxStateRef} :
    Keeps R (handleWithSandbox a req startState) := by
  have pause (snapshotNow : Bool) : Keeps R (pauseAfterInvocation a snapshotNow) := by
    refine .bind pauseSandbox fun _ => .bind runningToPaused fun _ => .ite ?_ ?_
    · exact fun _ => .bind (.attempt createSnapshot) fun _ => .pure _
    · exact fun _ => .pure _
  have rest (snapshotNow : Bool) : Keeps R (do
      Worker.issueAndForward a req
      pauseAfterInvocation a snapshotNow) :=
    .bind issueAndForward fun _ => pause _
  refine .bind .get fun w => .ite ?_ ?_
  · exact fun _ => .bind snapshotBeforeInvocation fun _ => rest _
  · exact fun _ => rest _

theorem shutdownOrTrash {sb : Sandbox} : Keeps R (shutdownOrTrash a sb) := by
  unfold Worker.shutdownOrTrash
  split
  · exact become
  · exact .bind become fun _ => .throw _

theorem leave {status : Except Error Unit} :
    Keeps R (leave a status : Handler Worker ε WorkerExit) := by
  have uncache : Keeps R (uncacheSandbox a : Handler Worker ε Unit) := by
    refine .bind .get fun w => ?_
    split
    · exact .ite (fun _ => .pure _) fun _ => .panicWith _
    · exact .pure _
    · exact .panicWith _
    · exact .panicWith _
    · exact .panicWith _
  have take : Keeps R (takeExit status : Handler Worker ε WorkerExit) :=
    .modifyGet fun w => Frame.become w _
  refine .bind (.bind .get fun _ => plain trivial) fun _ => ?_
  cases status with
  | ok => exact .bind uncache fun _ => take
  | error => exact take

theorem snapshotAfterPreparation {startState : SandboxStateRef} {hasSnapshot : Bool} :
    Keeps R (snapshotAfterPreparation a startState hasSnapshot) := by
  refine .bind .get fun w => .ite (fun _ => .bind (.attempt createSnapshot) fun r => ?_)
    fun _ => .pure _
  split
  · exact .pure _
  · exact .pure _

end Frame

section Create
variable [CreateFrame R]

theorem createSandbox : Keeps R (createSandbox a cpuset) := by
  refine .bind .get fun w => ?_
  split
  · exact .bind (.fromExcept _) fun _ => .bind (plain trivial) fun _ =>
      .bind (.fromExcept _) fun _ => .bind (.modify fun _ => CreateFrame.created _ _) fun _ =>
        .bind (.fromExcept _) fun _ =>
          .bind (.bind .get fun _ => .modify fun _ => CreateFrame.announced _ _ _) fun _ => .pure _
  · exact .panicWith _

theorem prepareSandbox : Keeps R (prepareSandbox a cpuset) := by
  refine .bind .get fun w => ?_
  dsimp only
  split
  · exact .bind createSandbox fun _ => become
  · refine .bind loadSandbox fun _ => .bind .get fun w => ?_
    split
    · exact .bind (.pure _) fun _ => become
    · exact .bind (.panicWith _) fun _ => become
  · refine .bind resumeSandbox fun _ => .bind .get fun w => ?_
    split
    · exact .bind (.pure _) fun _ => become
    · exact .bind (.panicWith _) fun _ => become
  · exact .bind (.panicWith _) fun _ => become
  · exact .bind (.panicWith _) fun _ => become

theorem handleRequest {invoc : Invocation} : Keeps R (handleRequest a invoc) := by
  have withSlot : Keeps R (handleWithSlot a invoc.req invoc.cpuset) :=
    .bind .get fun _ => .bind (.mapErr prepareSandbox) fun _ => handleWithSandbox
  exact .bind (.attempt withSlot) fun _ => .bind (plain trivial) fun _ =>
    .bind (.fromExcept _) fun _ => .bind .get fun _ => plain trivial

end Create

section Destroy
variable [DestroyFrame R]

theorem destroySandbox : Keeps R (destroySandbox a) := by
  have deallocate (net : NetResource) : Keeps R (deallocateNet a net) := by
    unfold deallocateNet
    split
    · exact plain trivial
    · exact .bind (plain trivial) fun _ => .throw _
  have removal (sb : SandboxId) : Keeps R (snapmanNotifyRemoval a sb) :=
    .bind (.fromExcept _) fun _ => .bind .get fun _ => plain trivial
  have taken (sb : Sandbox) : Keeps R (destroyTaken a sb) := by
    refine .bind become fun _ => ?_
    split
    · refine .bind (.modify fun _ => DestroyFrame.destroyed _ _) fun _ => .ite ?_ ?_
      · exact fun _ => .bind (.attempt (removal _)) fun _ => deallocate _
      · exact fun _ => deallocate _
    · exact .bind become fun _ => .throw _
  refine .bind .get fun w => ?_
  split
  · exact .pure _
  · exact taken _
  · exact taken _
  · exact taken _
  · exact .panicWith _

theorem shutdown : Keeps R (shutdown a) := by
  refine .bind .get fun w => ?_
  split
  · exact .ite (fun _ => .mapErr shutdownOrTrash) fun _ => destroySandbox
  · exact .pure _

theorem cleanupPaused {sb : Sandbox} : Keeps R (cleanupPaused a sb) :=
  .ite (fun _ => .mapErr shutdownOrTrash) fun _ => .mapErr destroySandbox

theorem retireRunning {sb : Sandbox} : Keeps R (retireRunning a sb) := by
  unfold Worker.retireRunning
  dsimp only
  split
  · exact .bind become fun _ => .throw _
  · refine .ite (fun _ => .mapErr shutdownOrTrash) fun _ => .bind become fun _ => ?_
    exact .mapErr destroySandbox

theorem tryHandleFailure {err : Error} : Keeps R (tryHandleFailure a err) := by
  refine .bind .get fun w => ?_
  dsimp only
  split
  · split
    · exact .pure _
    · exact .pure _
    · exact cleanupPaused
    · exact retireRunning
    · exact .panicWith _
  iterate 3
    · split
      · exact retireRunning
      · exact .panicWith _
  · split
    · split
      · exact .bind become fun _ => .mapErr destroySandbox
      · exact .bind become fun _ => .mapErr destroySandbox
    · exact .panicWith _
  · exact .panicWith _

theorem afterRequest {result : Except Error Unit} :
    Keeps R (afterRequest a result : Handler Worker ε Verdict) := by
  cases result with
  | ok => exact .pure _
  | error err =>
    refine .bind (.attempt tryHandleFailure) fun r => ?_
    split
    · exact .pure _
    · exact .pure _

end Destroy

section Report
variable [ReportFrame R]

theorem sendSandboxPrepResult {result : Except String (SandboxId × Bool × SandboxStats)} :
    Keeps R (sendSandboxPrepResult result : Handler Worker ε Unit) :=
  .bind .get fun _ => .modify fun w => ReportFrame.preparation w _

theorem handleSnapshotRequest {sandboxId : SandboxId} :
    Keeps R (handleSnapshotRequest a sandboxId : Handler Worker ε Unit) := by
  have snapshot : Keeps R (snapshotOnRequest a) := by
    refine .bind .get fun w => ?_
    split
    · exact .pure _
    · exact .ite (fun _ => .pure _) fun _ => createSnapshot
    · exact .throw _
  exact .bind (.attempt snapshot) fun _ => .bind .get fun _ => .bind .get fun _ =>
    .modify fun w => ReportFrame.snapshot w _

end Report

end Keeping

end Worker
end Snaplace
