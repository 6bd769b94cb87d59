import Snaplace.Pool.Steps

/-!
# The control requests are sequences of moves

Reaping, preparing, destroying and snapshotting, as sequences of moves. A waiter is always in one of
the tables, in hand, or answered: no request and no completion keeps one in hand when it is over.
-/
namespace Snaplace
open Foundation Foundation.Handler
open Worker (SandboxExit WorkerExit ControlMessage PrepareSandboxResult CreateSnapshotResult)
open Admission (PoolEvent)

namespace Pool
variable {ε α : Type} {d : Defect → Prop} {i : Input} {m : Moment} {f : FunctionId} {w : WorkerId}

/-- Only moves, of which some may have changed the pending requests. -/
def evolves (d : Defect → Prop) (i : Input) (m : Moment) : Post Pool ε α where
  ok _ t := Moves d i m { m with pool := t }
  err _ t := Moves d i m { m with pool := t }
  panic msg _ := msg ∉ setPanics

section Replies

def answers (waiters : List ReplyId) (reply : Reply) : List Effect :=
  waiters.map fun r => .reply r reply

@[simp] theorem wp_sendAll {waiters : List ReplyId} {reply : Reply} {s : Pool}
    {Q : Post Pool ε Unit} :
    wp (sendAll waiters reply) Q s = Q.ok () { s with log := s.log ++ answers waiters reply } := by
  induction waiters generalizing s with
  | nil =>
    change Q.ok () s = _
    simp [answers]
  | cons r rest ih =>
    change wp (send r reply >>= fun _ => sendAll rest reply) Q s = _
    simp only [send, record, wp_bind, wp_modify, ih]
    simp [answers]

theorem Moves.answers {waiters rest : List ReplyId} (reply : Reply)
    (waits : m.waiters = waiters ++ rest) :
    Moves d i m
      { m with
        waiters := rest
        pool := { m.pool with log := m.pool.log ++ Pool.answers waiters reply } } := by
  induction waiters generalizing m with
  | nil =>
    obtain rfl : m.waiters = rest := waits
    simp only [Pool.answers, List.map_nil, List.append_nil]
    exact .refl
  | cons r more ih =>
    have move := Move.answer (d := d) (i := i) r (more ++ rest) reply waits
    have later := ih (m := { m.note (.reply r reply) with waiters := more ++ rest }) rfl
    simp only [Moment.note, Pool.answers, List.map_cons, List.append_assoc,
      List.singleton_append] at later move ⊢
    exact (Moves.one move).trans later

def snapshotWaiters (p : Pool) (sandbox : Option SandboxId) : List ReplyId :=
  (sandbox.bind fun sb => p.pending.snapshots.lookup sb).elim [] (·.respondTo)

def prepWaiters (p : Pool) (w : WorkerId) : List ReplyId :=
  (p.pending.sandboxPreps.lookup w).elim [] (·.respondTo.toList)

def destrWaiters (op : Option PendingSandboxDestr) : List ReplyId := op.elim [] (·.respondTo)

def eraseSnapshot (snapshots : Table SandboxId PendingSnapshot) :
    Option SandboxId → Table SandboxId PendingSnapshot
  | some sandbox => snapshots.erase sandbox
  | none => snapshots

@[simp] theorem wp_answerPrep {op : Option PendingSandboxPrep} {reply : PrepareSandboxReply}
    {s : Pool} {Q : Post Pool ε Unit} :
    wp (answerPrep op reply) Q s =
      Q.ok ()
        { s with
          log := s.log ++ answers (op.elim [] (·.respondTo.toList)) (.prepareSandbox reply) } := by
  unfold answerPrep
  match op with
  | none => simp [answers]
  | some { respondTo := none, .. } => simp [answers]
  | some { respondTo := some r, .. } => simp [answers, send, record]

@[simp] theorem wp_answerSnapshot {op : Option PendingSnapshot} {reply : CreateSnapshotReply}
    {s : Pool} {Q : Post Pool ε Unit} :
    wp (answerSnapshot op reply) Q s =
      Q.ok ()
        { s with log := s.log ++ answers (op.elim [] (·.respondTo)) (.createSnapshot reply) } := by
  match op with
  | none => simp [answerSnapshot, answers]
  | some op => simp [answerSnapshot]

/-- What the waiters of a snapshot or preparation are told when the worker is reaped. -/
def reapReplies (p : Pool) (w : WorkerId) (sandbox : Option SandboxId) : List Effect :=
  answers (snapshotWaiters p sandbox) (.createSnapshot (.error (.internal reapingMsg none))) ++
    answers (prepWaiters p w) (.prepareSandbox (.error (.internal reapingMsg none)))

theorem wp_finalizeControlOps {sandbox : Option SandboxId} {s : Pool}
    {Q : Post Pool ε (Option PendingSandboxDestr)} :
    wp (finalizeControlOps w sandbox) Q s ↔
      Q.ok (s.pending.sandboxDestrs.lookup w)
        { s with
          pending :=
            { opByWorker := s.pending.opByWorker.erase w
              sandboxPreps := s.pending.sandboxPreps.erase w
              sandboxDestrs := s.pending.sandboxDestrs.erase w
              snapshots := eraseSnapshot s.pending.snapshots sandbox }
          log := s.log ++ reapReplies s w sandbox } := by
  match sandbox with
  | none =>
    simp [finalizeControlOps, removeOp, takePrepOp, takeDestrOp, reapReplies, snapshotWaiters,
      prepWaiters, answers, eraseSnapshot]
  | some sandbox =>
    simp [finalizeControlOps, removeOp, takePrepOp, takeDestrOp, takeSnapshotOp, reapReplies,
      snapshotWaiters, prepWaiters, eraseSnapshot]

end Replies

section Reap

/-- The snapshot entry of a worker that is closing, taken with its waiters if there is one. -/
theorem Moves.endSnapshot (closing : m.closing = some w) {sandbox : SandboxId}
    (whose : SnapshotOf i m w sandbox) :
    Moves d i m
      { m with
        waiters := snapshotWaiters m.pool (some sandbox) ++ m.waiters
        pool :=
          { m.pool with
            pending :=
              { m.pool.pending with snapshots := m.pool.pending.snapshots.erase sandbox } } } := by
  match look : m.pool.pending.snapshots.lookup sandbox with
  | some op =>
    have move := Move.takeSnapshot (d := d) w sandbox op closing whose look
    simp only [snapshotWaiters, Option.bind_some, look, Option.elim_some]
    exact .one move
  | none =>
    have absent : sandbox ∉ m.pool.pending.snapshots := AList.lookup_eq_none.mp look
    simp only [snapshotWaiters, Option.bind_some, look, Option.elim_none, List.nil_append,
      Table.erase_of_notMem absent]
    exact .refl

theorem Moves.endPrep (closing : m.closing = some w) :
    Moves d i m
      { m with
        waiters := prepWaiters m.pool w ++ m.waiters
        pool :=
          { m.pool with
            pending :=
              { m.pool.pending with
                sandboxPreps := m.pool.pending.sandboxPreps.erase w } } } := by
  match look : m.pool.pending.sandboxPreps.lookup w with
  | some op =>
    have move := Move.takePrep (d := d) (i := i) w op closing look
    simp only [prepWaiters, look, Option.elim_some]
    exact .one move
  | none =>
    have absent : w ∉ m.pool.pending.sandboxPreps := AList.lookup_eq_none.mp look
    simp only [prepWaiters, look, Option.elim_none, List.nil_append,
      Table.erase_of_notMem absent]
    exact .refl

/-- The first part of a reaping: what waits for a snapshot or preparation is answered. -/
theorem Moves.closeEntries (closing : m.closing = some w) {handle : WorkerHandle}
    (look : m.pool.workerHandles.lookup w = some handle) :
    Moves d i m
      { m with
        pool :=
          { m.pool with
            pending :=
              { m.pool.pending with
                snapshots := eraseSnapshot m.pool.pending.snapshots handle.sandboxId
                sandboxPreps := m.pool.pending.sandboxPreps.erase w }
            log := m.pool.log ++ reapReplies m.pool w handle.sandboxId } } := by
  have prep {n : Moment} (closing : n.closing = some w) :
      Moves d i n
        { n with
          pool :=
            { n.pool with
              pending :=
                { n.pool.pending with sandboxPreps := n.pool.pending.sandboxPreps.erase w }
              log := n.pool.log ++ Pool.answers (prepWaiters n.pool w)
                (.prepareSandbox (.error (.internal reapingMsg none))) } } :=
    (endPrep closing).trans (Moves.answers _ rfl)
  match owns : handle.sandboxId with
  | none =>
    simp only [eraseSnapshot, reapReplies, snapshotWaiters, Option.bind_none, Option.elim_none,
      Pool.answers, List.map_nil, List.nil_append]
    exact prep closing
  | some sandbox =>
    have snapshot := (endSnapshot (d := d) (i := i) closing (.owned look owns)).trans
      (Moves.answers (.createSnapshot (.error (.internal reapingMsg none))) rfl)
    simp only [reapReplies, ← List.append_assoc]
    exact snapshot.trans (prep closing)

theorem destr_replies {op : Option PendingSandboxDestr} {s : Pool} {Q : Post Pool ε Unit}
    {reply : PendingSandboxDestr → Handler Pool ε Unit}
    (each : ∀ op, ∃ r, reply op = sendAll op.respondTo r)
    (ok : ∀ r, Q.ok () { s with log := s.log ++ answers (destrWaiters op) r }) :
    wp (forWaiters op reply) Q s := by
  match op with
  | none =>
    have := ok (.destroySandbox (.ok false))
    simpa [forWaiters, destrWaiters, answers] using this
  | some op =>
    obtain ⟨r, same⟩ := each op
    simpa [forWaiters, same, destrWaiters] using ok r

theorem success_replies (persists : Bool) (op : PendingSandboxDestr) :
    ∃ r, op.replyDestroySuccess (ε := ε) persists = sendAll op.respondTo r := by
  unfold PendingSandboxDestr.replyDestroySuccess
  split
  · exact ⟨_, rfl⟩
  · exact ⟨_, rfl⟩

/-- What settling an exit does to the pool, from the memory on. -/
def Settled (s t : Pool) (f : FunctionId) (accounting : WorkerMemAccounting) (mem : ByteUnit)
    (op : Option PendingSandboxDestr) (exit : Option WorkerExit) : Prop :=
  ∃ events r, (∀ e ∈ events, ∃ ev, e = .event ev) ∧
    t =
      { s with
        snapshots := stashed s.snapshots f (WorkerExit.stashed exit)
        trashedSandboxes := s.trashedSandboxes ++ (WorkerExit.trashed exit).toList
        memory := if WorkerExit.frees exit then s.memory.free accounting mem else s.memory
        log := s.log ++ events ++ answers (destrWaiters op) r }

theorem wp_reapMemAccount {accounting : WorkerMemAccounting} {mem : ByteUnit} {s : Pool}
    {Q : Post Pool ε Unit} (ok : ∀ events, (∀ e ∈ events, ∃ ev, e = .event ev) →
      Q.ok () { s with memory := s.memory.free accounting mem, log := s.log ++ events }) :
    wp (reapMemAccount accounting mem) Q s := by
  cases accounting with
  | inUse => exact ok [.event .memoryCapAvailable] (by simp)
  | reclaimed => exact ok [.event .memoryCapAvailable] (by simp)
  | uncharged =>
    have := ok [] (by simp)
    simpa [reapMemAccount, MemoryStats.free] using this

theorem settleExit_spec {accounting : WorkerMemAccounting} {mem : ByteUnit}
    {op : Option PendingSandboxDestr} {exit : WorkerExit} {s : Pool} :
    wp (settleExit f accounting mem op exit)
      { ok := fun _ t => Settled s t f accounting mem op (some exit) ∧
          (exit.result = .ok () → ∀ sb, exit.sandbox ≠ .trashed sb)
        err := fun _ _ => False
        panic := fun msg _ => msg ∉ setPanics } s := by
  match exit with
  | { result := .ok _, sandbox := .reusable sandbox } =>
    simp only [settleExit, stashSnapshot, wp_bind, wp_modify]
    refine wp_reapMemAccount fun events quiet => destr_replies (success_replies true) fun r => ?_
    exact ⟨⟨events, r, quiet, by simp [WorkerExit.stashed, WorkerExit.trashed, WorkerExit.frees,
      stashed]⟩, by simp⟩
  | { result := .ok _, sandbox := .none } =>
    simp only [settleExit, wp_bind]
    refine wp_reapMemAccount fun events quiet => destr_replies (success_replies false) fun r => ?_
    exact ⟨⟨events, r, quiet, by simp [WorkerExit.stashed, WorkerExit.trashed, WorkerExit.frees,
      stashed]⟩, by simp⟩
  | { result := .ok _, sandbox := .trashed _ } =>
    change trashedPanic ∉ setPanics
    decide
  | { result := .error err, sandbox := .reusable sandbox } =>
    simp only [settleExit, stashSnapshot, wp_bind, wp_modify]
    refine wp_reapMemAccount fun events quiet => destr_replies (fun _ => ⟨_, rfl⟩) fun r => ?_
    exact ⟨⟨events, r, quiet, by simp [WorkerExit.stashed, WorkerExit.trashed, WorkerExit.frees,
      stashed]⟩, by simp⟩
  | { result := .error err, sandbox := .trashed sandbox } =>
    simp only [settleExit, trashSandbox, wp_bind, wp_modify]
    refine destr_replies (fun _ => ⟨_, rfl⟩) fun r => ?_
    exact ⟨⟨[], r, by simp, by simp [WorkerExit.stashed, WorkerExit.trashed, WorkerExit.frees,
      stashed]⟩, by simp⟩
  | { result := .error err, sandbox := .none } =>
    cases err with
    | init dscr source =>
      simp only [settleExit, wp_bind]
      refine wp_reapMemAccount fun events quiet => destr_replies (fun _ => ⟨_, rfl⟩) fun r => ?_
      exact ⟨⟨events, r, quiet, by simp [WorkerExit.stashed, WorkerExit.trashed, WorkerExit.frees,
        stashed]⟩, by simp⟩
    | _ =>
      simp only [settleExit]
      refine destr_replies (fun _ => ⟨_, rfl⟩) fun r => ?_
      exact ⟨⟨[], r, by simp, by simp [WorkerExit.stashed, WorkerExit.trashed, WorkerExit.frees,
        stashed]⟩, by simp⟩

theorem wp_attemptRelease {s : Pool} {Q : Post Pool ε (Except CpuSetError Unit)}
    (ok : ∀ r cpuset, (∀ w', cpuset.allocations.lookup w' =
      if w' = w then none else s.cpuset.allocations.lookup w') → Q.ok r { s with cpuset })
    (panic : ∀ msg t, msg ∉ setPanics → Q.panic msg t) : wp (attempt (cpuRelease w)) Q s := by
  rw [wp_attempt]
  refine wp_cpuRelease (fun cpu cpuset _ free => ok _ _ fun w' => ?_) (fun free e => ?_) panic
  · rw [free, Table.lookup_erase_ite]
  · refine ok _ s.cpuset fun w' => ?_
    split
    next here => rw [here, free]
    next => rfl

theorem Moves.events {events : List Effect} (quiet : ∀ e ∈ events, ∃ ev, e = .event ev) :
    Moves d i m { m with pool := { m.pool with log := m.pool.log ++ events } } := by
  induction events generalizing m with
  | nil =>
    simp only [List.append_nil]
    exact .refl
  | cons e rest ih =>
    obtain ⟨ev, rfl⟩ := quiet e (by simp)
    have later := ih (m := m.note (.event ev)) fun e mem => quiet e (by simp [mem])
    simp only [Moment.note, List.append_assoc, List.singleton_append] at later
    exact (Moves.one (.event ev)).trans later

@[simp] theorem wp_untrackSandbox {sandbox : Option SandboxId} {s : Pool} {Q : Post Pool ε Unit} :
    wp (untrackSandbox sandbox) Q s ↔
      Q.ok () { s with workerBySandbox := disown s.workerBySandbox sandbox } := by
  cases sandbox <;> rfl

/-- The moves of a reaping, up to the answers to those who wait for a destruction. -/
theorem Moves.reap (settled : m.closing = none) (reason : CloseReason i w) {stage : Stage}
    (busy : stage ≠ .idle) {handle : WorkerHandle} (member : At m.pool stage handle.functionId w)
    (look : m.pool.workerHandles.lookup w = some handle) {function : RegisteredFunction}
    (known : m.pool.store.functions.lookup handle.functionId = some function)
    {cpuset : CpuSetManager} (free : ∀ w', cpuset.allocations.lookup w' =
      if w' = w then none else m.pool.cpuset.allocations.lookup w')
    (exits : ∀ exit, i.exit w = some exit → exit.result = .ok () → ∀ sb, exit.sandbox ≠ .trashed sb)
    (joins : i.exit w = none → handle.sandbox = none ∨ d .joinFailed) :
    Moves d i m
      { m with
        waiters := destrWaiters (m.pool.pending.sandboxDestrs.lookup w) ++ m.waiters
        pool :=
          { m.pool with
            store := m.pool.store.erase stage (handle.functionId, w)
            workerHandles := m.pool.workerHandles.erase w
            workerDeadlines := m.pool.workerDeadlines.erase w
            workerBySandbox := disown m.pool.workerBySandbox handle.sandboxId
            cpuset := cpuset
            pending :=
              { opByWorker := m.pool.pending.opByWorker.erase w
                sandboxPreps := m.pool.pending.sandboxPreps.erase w
                sandboxDestrs := m.pool.pending.sandboxDestrs.erase w
                snapshots := eraseSnapshot m.pool.pending.snapshots handle.sandboxId }
            snapshots :=
              stashed m.pool.snapshots handle.functionId (WorkerExit.stashed (i.exit w))
            trashedSandboxes :=
              m.pool.trashedSandboxes ++ (WorkerExit.trashed (i.exit w)).toList
            memory :=
              if WorkerExit.frees (i.exit w) then
                m.pool.memory.free handle.memAccounting function.memory
              else m.pool.memory
            log := m.pool.log ++ reapReplies m.pool w handle.sandboxId ++
              [.joined w handle function.memory (i.exit w)] } } := by
  have closed : Moves d i m { m with closing := some w } := .one (.close w reason settled)
  have entries := closed.trans (Moves.closeEntries rfl look)
  have noSnapshot : ∀ sb, handle.sandboxId = some sb →
      (eraseSnapshot m.pool.pending.snapshots handle.sandboxId).lookup sb = none := by
    intro sb owns
    simp [owns, eraseSnapshot]
  have last := entries.tail (.reap stage w handle function cpuset busy rfl member look known free
    (by simp) noSnapshot exits joins)
  simp only [settled]
  exact last

theorem reapHandle_spec (h : Partition m) (settled : m.closing = none) (reason : CloseReason i w)
    {stage : Stage} (busy : stage ≠ .idle) (member : At m.pool stage f w) {handle : WorkerHandle}
    (look : m.pool.workerHandles.lookup w = some handle)
    (joins : i.exit w = none → handle.sandbox = none ∨ d .joinFailed) :
    wp (reapHandle i w f handle) (evolves d i m)
      { m.pool with
        store := m.pool.store.erase stage (f, w)
        workerHandles := m.pool.workerHandles.erase w } := by
  obtain rfl := h.function_of_at member look
  obtain ⟨function, known⟩ := h.known member
  simp only [reapHandle, clearDeadline, wp_bind, wp_modify, wp_untrackSandbox]
  refine wp_attemptRelease (fun _ cpuset free => ?_) fun _ _ other => other
  refine wp_finalizeControlOps.mpr (wp_functionMemory known ?_)
  simp only [record, wp_modify]
  cases exit : i.exit w with
  | none =>
    have reaped := Moves.reap settled reason busy member look known free (by simp [exit]) joins
    simp only [wp_bind, wp_throw]
    refine destr_replies (fun _ => ⟨_, rfl⟩) fun r => ?_
    have answered := reaped.trans (Moves.answers r rfl)
    simp only [exit, WorkerExit.trashed, WorkerExit.frees, Option.toList_none, List.append_nil,
      Bool.false_eq_true, if_false] at answered
    exact answered
  | some exit' =>
    refine wp_mono settleExit_spec ?_ (fun _ _ absurd => absurd.elim) fun _ _ other => other
    rintro - t ⟨⟨events, r, quiet, rfl⟩, fine⟩
    have exits : ∀ e, i.exit w = some e → e.result = .ok () → ∀ sb, e.sandbox ≠ .trashed sb := by
      intro e same
      rw [exit] at same
      cases same
      exact fine
    have reaped := Moves.reap settled reason busy member look known free exits joins
    have answered := (reaped.trans (Moves.events quiet)).trans (Moves.answers r rfl)
    simp only [exit] at answered
    exact answered

theorem wp_removeWorker {stage : Stage} {function : RegisteredFunction} {s : Pool}
    {Q : Post Pool ε Bool} (known : s.store.functions.lookup f = some function)
    (found : At s stage f w → Q.ok true { s with store := s.store.erase stage (f, w) })
    (missing : ¬At s stage f w → Q.ok false s) : wp (removeWorker stage w f) Q s := by
  simp only [removeWorker, wp_bind]
  refine wp_registeredFunction known ?_
  simp only [wp_get, wp_modify, wp_pure]
  by_cases member : At s stage f w
  · have yes : decide ((f, w) ∈ s.store.workers stage) = true := decide_eq_true member
    rw [yes]
    exact found member
  · have no : decide ((f, w) ∈ s.store.workers stage) = false := decide_eq_false member
    rw [no, FunctionMetadataStore.erase_of_notMem member]
    exact missing member

theorem at_of_findWorker {stage : Stage} {p : Pool} (found : findWorker stage p w = some f) :
    At p stage f w := by
  obtain ⟨e, look, rfl⟩ := Option.map_eq_some_iff.mp found
  have same : e.1.2 = w := by simpa using List.find?_some look
  have mem : e.1 ∈ p.store.workers stage := List.mem_map_of_mem (List.mem_of_find?_eq_some look)
  rw [← same]
  exact mem

theorem not_at_of_findWorker {stage : Stage} {p : Pool} (none : findWorker stage p w = none) :
    ¬At p stage f w := by
  intro member
  obtain ⟨e, mem, key⟩ : ∃ e ∈ (p.store.workers stage).entries, e.1 = (f, w) :=
    List.mem_map.mp member
  have := List.find?_eq_none.mp (Option.map_eq_none_iff.mp none) e mem
  simp [key] at this

theorem wp_takeHandle {msg : String} {handle : WorkerHandle} {s : Pool}
    {Q : Post Pool ε WorkerHandle} (look : s.workerHandles.lookup w = some handle)
    (h : Q.ok handle { s with workerHandles := s.workerHandles.erase w }) :
    wp (takeHandle msg w) Q s := by
  simp only [takeHandle, wp_bind, wp_modify, wp_pure]
  exact wp_expectHandle look h

theorem reapWorker_spec (h : Partition m) (starting : m.starting = none)
    (settled : m.closing = none) (reason : CloseReason i w)
    (own : ∀ f', functionOf m.pool w = some f' → f' = f)
    (joins : ∀ handle, m.pool.workerHandles.lookup w = some handle → i.exit w = none →
      handle.sandbox = none ∨ d .joinFailed) :
    wp (reapWorker i w f) (evolves d i m) m.pool := by
  cases known : m.pool.store.functions.lookup f with
  | none =>
    simp only [reapWorker, removeDyingWorker, removeWorker, registeredFunction, wp_bind, wp_get,
      wp_expect, known]
    exact ⟨by simp, fun _ => show functionPanic ∉ setPanics by decide⟩
  | some function =>
    simp only [reapWorker, wp_bind, removeDyingWorker]
    refine wp_removeWorker known (fun dying => ?_) fun notDying => ?_
    · obtain ⟨handle, look, -⟩ := h.handle dying
      simp only [wp_ite, wp_bind]
      refine ⟨fun _ => ?_, fun absurd => absurd.elim trivial⟩
      exact wp_takeHandle look
        (reapHandle_spec h settled reason (by decide) dying look (joins handle look))
    · simp only [wp_ite, wp_bind, removeActiveWorker]
      refine ⟨by simp, fun _ => wp_removeWorker known (fun active => ?_) fun notActive => ?_⟩
      · obtain ⟨handle, look, -⟩ := h.handle active
        simp only [emitAdmissionEvent, record, wp_modify]
        refine ⟨fun _ => wp_takeHandle look ?_, fun absurd => absurd.elim trivial⟩
        have noted := Move.event (d := d) (i := i) (m := m) (.workerCapAvailable f)
        have reaped := reapHandle_spec (h.move noted) settled reason (by decide) active look
          (joins handle look)
        exact wp_mono reaped (fun _ _ more => (Moves.one noted).trans more)
          (fun _ _ more => (Moves.one noted).trans more) fun _ _ other => other
      · simp only [wp_get, wp_pure]
        refine ⟨by simp, fun _ => ⟨fun _ => .refl, fun notIdle => ?_⟩⟩
        cases look : m.pool.workerHandles.lookup w with
        | none => exact .refl
        | some handle =>
          have live := functionOf_of_lookup look
          obtain ⟨stage, member⟩ := h.staged w _ live (by simp [starting])
          rw [own _ live] at member
          have idle : findWorker .idle m.pool w = none := by simpa [findIdleWorker] using notIdle
          cases stage with
          | active => exact absurd member notActive
          | idle => exact absurd member (not_at_of_findWorker idle)
          | dying => exact absurd member notDying

end Reap

end Pool
end Snaplace
