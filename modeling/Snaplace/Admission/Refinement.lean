import Snaplace.Admission.Room

/-!
# Every turn of the controller is a turn of its waiting room

The handlers make one sweep at most and then one act of the room. Only a reply that the pool would
block puts a request back.
-/
namespace Snaplace
open Foundation Foundation.Handler WaitingRoom

namespace Admission

/-- The reply of the pool to which the outstanding request goes back to its queue. -/
def returns (c : AdmissionController) (i : Input) : Bool :=
  match i.event with
  | .dispatchReply (.wouldBlock _) _ => c.outstanding.isSome
  | _ => false

/-- The events in which the controller looks for expired requests, if a deadline has passed: its
timer, a permit, and a request that finds a queue full. -/
def sweeps (c : AdmissionController) (i : Input) : Bool :=
  (c.nextDeadline.any fun deadline => deadline ≤ i.now) &&
    match i.event with
    | .deadlinePassed => true
    | .permit _ => (c.waitingForSlot || shouldWaitForSlot c) && decide (0 < c.freeSlots)
    | .newRequest req =>
      (i.store req.functionId).any fun overrides =>
        globalFull c || decide (queueCap c.config overrides ≤ (c.room.queue req.functionId).length)
    | _ => false

theorem due_iff {c : AdmissionController} {now : Instant} :
    c.room.Due now ↔ (c.nextDeadline.any fun deadline => deadline ≤ now) = true := by
  simp [Due, AdmissionController.room, Option.any_eq_true]

/-- What one turn makes of the room. -/
def RoomTurn (cap : Capacity FunctionId) (i : Input) (c : AdmissionController) (r : Room) : Prop :=
  if i.event = .slotReleased then r = { c.room with permits := c.room.permits + 1 }
  else if returns c i then ∃ f re, PutBack c.room r f re
  else Acts (sweeps c i) cap i.now c.room r

theorem RoomTurn.turn {cap : Capacity FunctionId} {i : Input} {c : AdmissionController} {r : Room}
    (h : RoomTurn cap i c r) : Turn (sweeps c i) cap i.now c.room r := by
  unfold RoomTurn at h
  split at h
  · exact .released h
  · split at h
    · obtain ⟨f, re, back⟩ := h
      exact .putsBack f re back
    · exact .acts h

section handlers
variable {c : AdmissionController} {i : Input} {cap : Capacity FunctionId} {due : Prop}

/-- A handler that leaves a room which satisfies `A`, however it ends. -/
def acting (c : AdmissionController) (A : Room → Prop) : Post AdmissionController Unit Unit where
  ok _ t := Keeps c t ∧ A t.room
  err _ t := Keeps c t ∧ A t.room
  panic msg t := msg = overflowPanic → A t.room

theorem acting_of_gives {m : AdmissionM Unit} {R A : Room → Prop} (h : wp m (gives c R) c)
    (acts : ∀ r, R r → A r) : wp m (acting c A) c :=
  wp_mono h (fun _ t ⟨keeps, room⟩ => ⟨keeps, acts t.room room⟩) nofun
    fun _ _ other same => (other same).elim

theorem acting_trans {m : AdmissionM Unit} {t : AdmissionController} {A : Room → Prop}
    (keeps : Keeps c t) (h : wp m (acting t A) t) : wp m (acting c A) t :=
  wp_mono h (fun _ _ ⟨keeps', acts⟩ => ⟨keeps.trans keeps', acts⟩)
    (fun _ _ ⟨keeps', acts⟩ => ⟨keeps.trans keeps', acts⟩) fun _ _ h => h

theorem Keeps.bounds {t : AdmissionController} (h : Keeps c t) (bounds : Bounds i c.config cap) :
    Bounds i t.config cap := by
  rw [h.config]
  exact bounds

theorem functionFull_room {f : FunctionId} {fqCap : Nat} {checkedExpiries : Bool}
    (when : checkedExpiries = false → fqCap ≤ (c.room.queue f).length → c.room.Due i.now → due) :
    wp (functionFull i f fqCap checkedExpiries)
      { ok := fun full t => Keeps c t ∧ MaySweep due i.now c.room t.room ∧
          (checkedExpiries = true → t.room = c.room) ∧
          full = decide (fqCap ≤ (t.room.queue f).length) ∧
          (full = true → checkedExpiries = false → ¬t.room.Due i.now)
        err := fun _ _ => False
        panic := fun msg _ => msg ≠ overflowPanic } c := by
  have length {t : AdmissionController} {fq : FunctionQueue} (look : t.queues.lookup f = some fq) :
      (t.room.queue f).length = fq.queue.length :=
    congrArg List.length (queueOf_of_lookup look)
  simp only [functionFull, wp_bind, wp_get, wp_expect, wp_ite, wp_pure]
  refine ⟨fun fq look => ⟨fun full => ⟨fun unchecked => ?_, fun checked => ?_⟩, fun space => ?_⟩,
    fun _ => (by decide : queuePanic ≠ overflowPanic)⟩
  · have long : fqCap ≤ (c.room.queue f).length := by
      rw [length look]
      exact full
    refine wp_mono expireIfDue_room ?_ (fun _ _ never => never.elim) fun _ _ h => h
    rintro - t ⟨keeps, checked⟩
    refine ⟨fun fq look => ⟨keeps, checked.maySweep (when unchecked long), by simp [unchecked], by rw [length look],
      fun _ _ => checked.not_due⟩, fun _ => (by decide : queuePanic ≠ overflowPanic)⟩
  · refine ⟨fun fq look => ⟨Keeps.refl c, .inl rfl, fun _ => trivial, by rw [length look],
      fun _ unchecked => (checked unchecked).elim⟩,
      fun _ => (by decide : queuePanic ≠ overflowPanic)⟩
  · refine ⟨Keeps.refl c, .inl rfl, fun _ => trivial, ?_, by simp⟩
    rw [length look]
    exact (decide_eq_false space).symm

/-- The function's bound, in a room `mid` that may have been swept for this request before. -/
theorem admitToQueue_room {req : Request} {overrides : Option FunctionAdmissionOverrides}
    {checkedExpiries : Bool} {before mid : Room} (bounds : Bounds i c.config cap)
    (known : i.store req.functionId = some overrides) (swept : MaySweep due i.now before mid)
    (received : c.room = { mid with arrived := mid.arrived ++ [req] })
    (fresh : checkedExpiries = false → mid = before)
    (quiet : checkedExpiries = true → ¬mid.Due i.now) (space : mid.waiting < cap.total)
    (when : queueCap c.config overrides ≤ (before.queue req.functionId).length →
      before.Due i.now → due) :
    wp (admitToQueue i req overrides checkedExpiries) (acting c (Acts due cap i.now before)) c := by
  have created : AdmissionController.room
      { c with
        queues := c.queues.insert req.functionId
          ((c.queues.lookup req.functionId).getD .empty) } = c.room := by
    simp only [AdmissionController.room, queueOf_create, blockedOf_create]
    rfl
  simp only [admitToQueue, wp_bind, wp_get, wp_modify]
  refine wp_mono (functionFull_room fun unchecked full overdue => (?_ : due)) ?_
    (fun _ _ never => never.elim) fun _ _ other same => (other same).elim
  · rw [created, received, fresh unchecked] at full overdue
    exact when full overdue
  rintro full t ⟨keeps, sweep, same, isFull, checked⟩
  have keeps : Keeps c t := ⟨keeps.config, keeps.timer⟩
  rw [created] at sweep same
  -- the room in which the request is refused or joins its queue
  obtain ⟨now, swept, space, room⟩ : ∃ now, MaySweep due i.now before now ∧ now.waiting < cap.total ∧
      t.room = { now with arrived := now.arrived ++ [req] } := by
    cases checkedExpiries with
    | true => exact ⟨mid, swept, space, (same rfl).trans received⟩
    | false =>
      obtain rfl := fresh rfl
      rw [received] at sweep
      obtain ⟨now, swept, room⟩ := sweep.arrived
      refine ⟨now, swept, ?_, room⟩
      obtain rfl | ⟨-, swept⟩ := swept
      · exact space
      · exact swept.waiting.trans_lt space
  have full_iff : full = decide (cap.each req.functionId ≤ (now.queue req.functionId).length) := by
    rw [isFull, room, bounds.each _ _ known]
    rfl
  simp only [wp_ite]
  refine ⟨fun refuse => ?_, fun accept => ?_⟩
  · refine acting_trans keeps (acting_of_gives failAdmission_room ?_)
    rintro _ rfl
    rw [room]
    have full : cap.each req.functionId ≤ (now.queue req.functionId).length := by
      simpa [full_iff] using refuse
    refine ⟨now, swept, .turnAway req ?_ (.inr full)⟩
    have notDue : ¬t.room.Due i.now := by
      cases checkedExpiries with
      | true =>
        rw [same rfl, received]
        exact quiet rfl
      | false => exact checked refuse rfl
    rw [room] at notDue
    exact notDue
  · have short : (now.queue req.functionId).length < cap.each req.functionId := by
      simpa [full_iff] using accept
    refine wp_mono enqueue_room ?_ (fun _ _ never => never.elim) fun _ u halts outOfRange => ?_
    · rintro - u ⟨keeps', joined⟩
      refine ⟨keeps.trans keeps', now, swept, ?_⟩
      rw [joined, room]
      exact .join ⟨req, req.functionId, i.now, _⟩ rfl space short
    · rw [halts outOfRange, room]
      exact ⟨now, swept, .decline req⟩

theorem admitRequest_room {req : Request} {before : Room} (bounds : Bounds i c.config cap)
    (received : c.room = { before with arrived := before.arrived ++ [req] })
    (when : ∀ overrides, i.store req.functionId = some overrides →
      globalFull c ∨ queueCap c.config overrides ≤ (before.queue req.functionId).length →
      before.Due i.now → due) :
    wp (admitRequest i req) (acting c (Acts due cap i.now before)) c := by
  unfold admitRequest
  match known : i.store req.functionId with
  | none =>
    refine acting_of_gives failAdmission_room ?_
    rintro _ rfl
    rw [received]
    exact ⟨before, .inl rfl, .decline req⟩
  | some overrides =>
    have full_iff {t : AdmissionController} (keeps : Keeps c t) :
        globalFull t ↔ cap.total ≤ t.room.waiting := by
      rw [globalFull, bounds.total, keeps.config]
      exact decide_eq_true_iff
    simp only [wp_bind, wp_get, wp_ite]
    refine ⟨fun full => ?_, fun space => ?_⟩
    · refine wp_mono expireIfDue_room ?_ nofun fun _ _ other same => (other same).elim
      rintro - t ⟨keeps, checked⟩
      have quiet := checked.not_due
      rw [received] at checked
      obtain ⟨mid, swept, room⟩ := (checked.maySweep (when overrides known (.inl full))).arrived
      rw [room] at quiet
      refine ⟨fun refuse => ?_, fun accept => ?_⟩
      · refine acting_trans keeps (acting_of_gives failAdmission_room ?_)
        rintro _ rfl
        rw [full_iff keeps, room] at refuse
        rw [room]
        exact ⟨mid, swept, .turnAway req quiet (.inl refuse)⟩
      · rw [full_iff keeps, room] at accept
        refine acting_trans keeps (admitToQueue_room (keeps.bounds bounds) known swept room nofun
          (fun _ => quiet) (not_le.mp accept) fun _ => when overrides known (.inl full))
    · rw [full_iff (Keeps.refl c), received] at space
      exact admitToQueue_room bounds known (.inl rfl) received (fun _ => rfl) nofun
        (not_le.mp space) fun full => when overrides known (.inr full)

theorem handleNewRequest_room {req : Request} (bounds : Bounds i c.config cap)
    (when : ∀ overrides, i.store req.functionId = some overrides →
      globalFull c ∨ queueCap c.config overrides ≤ (c.room.queue req.functionId).length →
      c.room.Due i.now → due) :
    wp (handleNewRequest i req) (acting c (Acts due cap i.now c.room)) c := by
  simp only [handleNewRequest, record, wp_bind, wp_modify]
  refine acting_trans (t := { c with
    stats.numReceived := c.stats.numReceived + 1
    log := c.log ++ [.receive req] }) ⟨rfl, id⟩ (admitRequest_room bounds ?_ when)
  refine (room_record (c := c) (.receive req)
    { c.stats with numReceived := c.stats.numReceived + 1 }).trans ?_
  simp [Action.received, Action.forwarded, Action.turnsAway]

theorem handlePoolEvent_acts {ev : PoolEvent} :
    wp (handlePoolEvent i ev) (acting c (Acts due cap i.now c.room)) c := by
  refine acting_of_gives handlePoolEvent_room ?_
  rintro _ ⟨blocked, fewer, rfl⟩
  exact ⟨_, .inl rfl, .wake blocked fewer⟩

/-- A permit granted: the room sees it spent when a request is taken out. -/
theorem handleAcquiredSlot_room {sent : Bool} {before : Room} (account : Accounted [] c)
    (idle : c.outstanding = none) (granted : 0 < before.permits)
    (spent : c.room = { before with permits := before.permits - 1 })
    (when : before.Due i.now → due) :
    wp (handleAcquiredSlot i sent) (acting c (Acts due cap i.now before)) c := by
  simp only [handleAcquiredSlot, wp_bind]
  refine wp_mono (wp_and expireIfDue_room (expireIfDue_spec account)) ?_ (fun _ _ h => h.1.elim)
    fun _ _ h same => (h.1 same).elim
  rintro - t ⟨⟨keeps, checked⟩, account, frame⟩
  obtain ⟨mid, checked, room⟩ : ∃ mid, Checked i.now before mid ∧
      t.room = { mid with permits := mid.permits - 1 } := by
    rw [spent] at checked
    obtain ⟨same, quiet⟩ | ⟨due, swept⟩ := checked
    · exact ⟨before, .inl ⟨rfl, quiet⟩, same⟩
    · refine ⟨{ t.room with permits := before.permits }, .inr ⟨due, ?_⟩, ?_⟩
      · exact ⟨swept.queue, swept.blocked, swept.waiting, swept.next_le, swept.next_front, swept.out,
          rfl, swept.arrived, swept.served, swept.turnedAway⟩
      · exact congrArg (fun permits => { t.room with permits }) swept.permits
  have permits : mid.permits = before.permits := by
    obtain ⟨rfl, -⟩ | ⟨-, swept⟩ := checked
    · rfl
    · exact swept.permits
  have restored : mid.permits - 1 + 1 = mid.permits := by omega
  simp only [wp_get]
  cases picked : pickNextFunction i t with
  | none =>
    refine acting_trans keeps (acting_of_gives releaseSlot_room ?_)
    rintro _ rfl
    rw [room]
    refine ⟨mid, checked.maySweep when, ?_⟩
    simp only [restored]
    exact .stay
  | some f =>
    obtain ⟨fq, re, rest, look, front, runnable, oldest⟩ := pickNextFunction_oldest picked
    have own : re.functionId = f := account.own f fq look re (by simp [front])
    have queue : t.room.queue f = re :: rest := (queueOf_of_lookup look).trans front
    have open_ : t.room.blocked f = false := (blockedOf_of_lookup look).trans runnable
    have free : t.room.out = none := by
      simp [AdmissionController.room, frame.outstanding, idle]
    rw [room] at queue open_ free oldest
    simp only [wp_bind]
    refine wp_mono (popHead_room look front) ?_ (fun _ _ never => never.elim) fun _ _ other same => (other same).elim
    rintro x u ⟨same, keeps', popped⟩
    obtain rfl : re = x := same.symm
    rw [room] at popped
    simp only [wp_ite, wp_bind, record, wp_modify, wp_throw]
    refine ⟨fun _ => ⟨(keeps.trans keeps').trans ⟨rfl, id⟩, mid, checked.maySweep when, ?_⟩, fun _ => ?_⟩
    · have out : AdmissionController.room { u with outstanding := some ⟨re⟩ } =
          { u.room with out := some (f, re) } := by
        rw [← own]
        rfl
      have taken := room_record (c := { u with outstanding := some ⟨re⟩ })
        (.requestDispatch f .reuseIdleOrProvision) u.stats
      simp only [out, popped, Action.received, Action.forwarded, Action.turnsAway,
        Option.toList_none, List.append_nil, Bool.false_eq_true, if_false, Nat.add_zero] at taken
      change Act cap i.now mid (AdmissionController.room
        { u with
          outstanding := some ⟨re⟩
          log := u.log ++ [.requestDispatch f .reuseIdleOrProvision] })
      rw [taken]
      exact .take f re rest checked.not_due free (by omega) queue open_ oldest
    · refine wp_mono requeue_room ?_ (fun _ _ never => never.elim) fun _ _ other same => (other same).elim
      rintro - v ⟨keeps'', back⟩
      refine ⟨(keeps.trans keeps').trans (keeps''.trans ⟨rfl, id⟩), mid, checked.maySweep when, ?_⟩
      have some_waiting : 1 ≤ mid.waiting := by
        have := Table.le_total (f := fun _ fq => fq.queue.length) look
        have waiting : mid.waiting = t.totalQueuedReqs := (congrArg WaitingRoom.waiting room).symm
        rw [waiting, account.queued]
        simp only [front, List.length_cons] at this
        omega
      have bounced : AdmissionController.room { v with freeSlots := v.freeSlots + 1 } =
          { mid with next := sooner re.deadline mid.next } := by
        have released : AdmissionController.room { v with freeSlots := v.freeSlots + 1 } =
            { v.room with permits := v.room.permits + 1 } := rfl
        rw [released, back, popped, own]
        simp only [Function.update_self, Function.update_idem, restored]
        rw [← queue, Function.update_eq_self, Nat.sub_add_cancel some_waiting]
      change Act cap i.now mid (AdmissionController.room { v with freeSlots := v.freeSlots + 1 })
      rw [bounced]
      exact .bounce f re rest queue

/-- Giving up the outstanding dispatch with its permit. -/
theorem dropped {d : OutstandingDispatch} {t : AdmissionController}
    (taken : c.outstanding = some d)
    (same : t.room = { c.room with out := none, permits := c.room.permits + 1 }) :
    Acts due cap i.now c.room t.room := by
  rw [same]
  exact ⟨c.room, .inl rfl, .drop d.envelope.functionId d.envelope
    (by simp [AdmissionController.room, taken])⟩

theorem handleDispatchReply_room {resp : DispatchResponse} {delivered : Bool}
    {d : OutstandingDispatch} (taken : c.outstanding = some d)
    (other : ∀ reason, resp ≠ .wouldBlock reason) :
    wp (handleDispatchReply i resp delivered) (acting c (Acts due cap i.now c.room)) c := by
  simp only [handleDispatchReply, wp_bind, wp_get, wp_expect, taken]
  refine ⟨?_, by simp⟩
  rintro _ ⟨⟩
  simp only [wp_modify]
  cases resp with
  | wouldBlock reason => exact absurd rfl (other reason)
  | dispatch workerRef cpuset =>
    simp only [wp_ite, wp_bind, record, wp_modify, wp_throw]
    refine ⟨fun _ => ⟨⟨rfl, id⟩, c.room, .inl rfl, ?_⟩, fun _ => ⟨⟨rfl, id⟩, dropped taken rfl⟩⟩
    have served := room_record (c := { c with outstanding := none })
      (.forward workerRef d.envelope.req cpuset)
      { c.stats with numDispatched := c.stats.numDispatched + 1 }
    simp only [Action.received, Action.forwarded, Action.turnsAway, Option.toList_none,
      Option.toList_some, List.append_nil, Bool.false_eq_true, if_false, Nat.add_zero] at served
    change Act cap i.now c.room (AdmissionController.room
      { c with
        outstanding := none
        stats.numDispatched := c.stats.numDispatched + 1
        log := c.log ++ [.forward workerRef d.envelope.req cpuset] })
    rw [served]
    exact .serve d.envelope.functionId d.envelope (by simp [AdmissionController.room, taken])
  | reject reason =>
    simp only [wp_bind]
    refine wp_mono failAdmission_room ?_ (fun _ _ never => never.elim) fun _ _ other same => (other same).elim
    rintro - t ⟨keeps, room⟩
    refine ⟨Keeps.trans ⟨keeps.config, keeps.timer⟩ ⟨rfl, id⟩, ?_⟩
    refine dropped (t := { t with freeSlots := t.freeSlots + 1 }) taken ?_
    exact congrArg (fun r : Room => { r with permits := r.permits + 1 }) room

theorem handleReplyClosed_room {d : OutstandingDispatch} (taken : c.outstanding = some d) :
    wp (handleReplyClosed i) (acting c (Acts due cap i.now c.room)) c := by
  simp only [handleReplyClosed, wp_bind, wp_get, taken, wp_modify]
  refine wp_mono failAdmission_room ?_ (fun _ _ never => never.elim) fun _ _ other same => (other same).elim
  rintro - t ⟨keeps, room⟩
  refine ⟨Keeps.trans ⟨keeps.config, keeps.timer⟩ ⟨rfl, id⟩, ?_⟩
  refine dropped (t := { t with freeSlots := t.freeSlots + 1 }) taken ?_
  exact congrArg (fun r : Room => { r with permits := r.permits + 1 }) room

/-- A handler that puts the outstanding request back. -/
def puttingBack (c : AdmissionController) : Post AdmissionController Unit Unit where
  ok _ t := Keeps c t ∧ ∃ f re, PutBack c.room t.room f re
  err _ _ := False
  panic msg t := msg = overflowPanic → ∃ u f re, PutBack c.room u f re ∧
    t.room.queue = u.queue ∧ t.room.waiting = u.waiting

theorem handleWouldBlock_room {reason : BlockReason} {delivered : Bool} {d : OutstandingDispatch}
    (taken : c.outstanding = some d) :
    wp (handleDispatchReply i (.wouldBlock reason) delivered) (puttingBack c) c := by
  obtain ⟨re⟩ := d
  have out : c.room.out = some (re.functionId, re) := by simp [AdmissionController.room, taken]
  have back (blocked : FunctionId → Bool)
      (fewer : ∀ f, blocked f → c.room.blocked f ∨ f = re.functionId) :
      PutBack c.room
        { c.room with
          queue := Function.update c.room.queue re.functionId (re :: c.room.queue re.functionId)
          waiting := c.room.waiting + 1
          next := sooner re.deadline c.room.next
          out := none
          permits := c.room.permits + 1
          blocked } re.functionId re :=
    ⟨out, rfl, fewer, rfl, rfl, rfl, rfl, rfl, rfl, rfl⟩
  simp only [handleDispatchReply, wp_bind, wp_get, wp_expect, taken]
  refine ⟨?_, by simp⟩
  rintro _ ⟨⟩
  simp only [wp_modify]
  refine wp_mono requeue_room ?_ (fun _ _ never => never.elim) fun _ _ other same => (other same).elim
  rintro - t ⟨keeps, requeued⟩
  refine wp_mono markFunctionBlocked_room ?_ (fun _ _ never => never.elim) fun _ u halts outOfRange => ?_
  · rintro - u ⟨keeps', blocked, fewer, marked⟩
    rw [requeued] at fewer
    refine ⟨Keeps.trans ⟨keeps.config, keeps.timer⟩ (keeps'.trans ⟨rfl, id⟩), re.functionId, re, ?_⟩
    have released : AdmissionController.room { u with freeSlots := u.freeSlots + 1 } =
        { u.room with permits := u.room.permits + 1 } := rfl
    change PutBack c.room (AdmissionController.room { u with freeSlots := u.freeSlots + 1 }) _ _
    rw [released, marked, requeued]
    exact back blocked fewer
  · refine ⟨_, re.functionId, re, back c.room.blocked fun _ h => .inl h, ?_⟩
    rw [halts outOfRange, requeued]
    exact ⟨rfl, rfl⟩

end handlers

/-- What one turn of the loop makes of the room, also when it ends in an instant out of range. -/
def roomPost (cap : Capacity FunctionId) (i : Input) (c : AdmissionController) :
    Post AdmissionController Empty (Option RunResult) where
  ok _ t := Keeps c t ∧ RoomTurn cap i c t.room
  err _ _ := False
  panic msg t := msg = overflowPanic → ∃ u, RoomTurn cap i c u ∧
    t.room.queue = u.queue ∧ t.room.waiting = u.waiting

section turns
variable {c : AdmissionController} {i : Input} {cap : Capacity FunctionId}

theorem stay_acting {m : AdmissionM Unit} {s : AdmissionController} (quiet : i.event ≠ .slotReleased ∧ returns c i = false)
    (keeps : Keeps c s) (h : wp m (acting s (Acts (sweeps c i) cap i.now c.room)) s) :
    wp (stay m) (roomPost cap i c) s := by
  have turn {r : Room} (acts : Acts (sweeps c i) cap i.now c.room r) : RoomTurn cap i c r := by
    simpa [RoomTurn, quiet] using acts
  simp only [stay, wp_bind, wp_attempt]
  exact wp_mono h (fun _ _ h => ⟨keeps.trans h.1, turn h.2⟩)
    (fun _ _ h => ⟨keeps.trans h.1, turn h.2⟩)
    fun _ _ h outOfRange => ⟨_, turn (h outOfRange), rfl, rfl⟩

theorem rest_room {r : Option RunResult} {t : AdmissionController} (quiet : i.event ≠ .slotReleased ∧ returns c i = false)
    (keeps : Keeps c t) (same : t.room = c.room) : (roomPost cap i c).ok r t := by
  refine ⟨keeps, ?_⟩
  rw [RoomTurn, if_neg quiet.1, quiet.2, same]
  exact ⟨c.room, .inl rfl, .stay⟩

theorem tick_room {next : Instant} (quiet : i.event ≠ .slotReleased ∧ returns c i = false) :
    wp (stay unblockAll) (roomPost cap i c) { c with livenessTimer := next } := by
  refine stay_acting quiet ⟨rfl, id⟩ (acting_of_gives unblockAll_room ?_)
  rintro _ ⟨blocked, fewer, rfl⟩
  exact ⟨_, .inl rfl, .wake blocked fewer⟩

theorem select_room (sound : Sound c) (bounds : Bounds i c.config cap)
    (timer : c.deadlineTimer = c.nextDeadline) : wp (select i) (roomPost cap i c) c := by
  simp only [select, wp_bind, wp_get]
  cases event : i.event with
  | quit | sourceClosed => exact rest_room (by simp [returns, event]) (Keeps.refl c) rfl
  | newRequest req =>
    refine stay_acting (by simp [returns, event]) (Keeps.refl c) (handleNewRequest_room bounds ?_)
    intro overrides known full due
    simpa [sweeps, event, known, due_iff.mp due] using full
  | poolEvent ev =>
    exact stay_acting (by simp [returns, event]) (Keeps.refl c) handlePoolEvent_acts
  | permit sent =>
    simp only [wp_ite, wp_bind, wp_modify, wp_pure]
    refine ⟨fun granted => ?_,
      fun _ => rest_room (by simp [returns, event]) (Keeps.refl c) rfl⟩
    refine stay_acting (by simp [returns, event]) ⟨rfl, id⟩ (handleAcquiredSlot_room ?_
      (sound.waiting granted.1) granted.2 rfl fun due => ?_)
    · exact sound.account.congr rfl rfl rfl rfl rfl rfl
    · simp [sweeps, event, due_iff.mp due, granted]
  | semaphoreClosed =>
    simp only [wp_ite, wp_bind, wp_modify, wp_pure]
    exact ⟨fun _ => rest_room (by simp [returns, event]) ⟨rfl, id⟩ rfl,
      fun _ => rest_room (by simp [returns, event]) (Keeps.refl c) rfl⟩
  | dispatchReply resp delivered =>
    simp only [wp_ite, wp_pure]
    cases taken : c.outstanding with
    | none =>
      exact ⟨by simp, fun _ => rest_room (by cases resp <;> simp [returns, event, taken])
        (Keeps.refl c) rfl⟩
    | some d =>
      refine ⟨fun _ => ?_, by simp⟩
      cases resp with
      | wouldBlock reason =>
        have turn {r : Room} (back : ∃ f re, PutBack c.room r f re) : RoomTurn cap i c r := by
          simpa [RoomTurn, returns, event, taken] using back
        simp only [stay, wp_bind, wp_attempt]
        refine wp_mono (handleWouldBlock_room taken) ?_ (fun _ _ never => never.elim) ?_
        · rintro - t ⟨keeps, back⟩
          exact ⟨keeps, turn back⟩
        · intro msg t halts outOfRange
          obtain ⟨u, f, re, back, same⟩ := halts outOfRange
          exact ⟨u, turn ⟨f, re, back⟩, same⟩
      | dispatch | reject =>
        exact stay_acting (by simp [returns, event]) (Keeps.refl c)
          (handleDispatchReply_room taken (by simp))
  | replyChannelClosed =>
    simp only [wp_ite, wp_pure]
    cases taken : c.outstanding with
    | none => exact ⟨by simp, fun _ => rest_room (by simp [returns, event]) (Keeps.refl c) rfl⟩
    | some d =>
      exact ⟨fun _ => stay_acting (by simp [returns, event]) (Keeps.refl c)
        (handleReplyClosed_room taken), by simp⟩
  | deadlinePassed =>
    simp only [wp_ite, wp_pure, Option.any_eq_true, decide_eq_true_eq]
    refine ⟨fun due => stay_acting (by simp [returns, event]) (Keeps.refl c)
      (acting_of_gives expireQueuedRequests_room fun r swept => ?_),
      fun _ => rest_room (by simp [returns, event]) (Keeps.refl c) rfl⟩
    rw [timer] at due
    exact ⟨r, .inr ⟨by simp [sweeps, event, due_iff.mp due], swept⟩, .stay⟩
  | livenessTick =>
    simp only [wp_ite, wp_bind, wp_modify, wp_pure]
    exact ⟨fun _ => tick_room (by simp [returns, event]),
      fun _ => rest_room (by simp [returns, event]) (Keeps.refl c) rfl⟩
  | slotReleased =>
    simp only [stay, wp_bind, wp_attempt]
    refine wp_mono releaseSlot_room ?_ (fun _ _ never => never.elim) fun _ _ other same => (other same).elim
    rintro - t ⟨keeps, room⟩
    exact ⟨keeps, by rw [RoomTurn, if_pos event, room]⟩

theorem turn_room (sound : Sound c) (bounds : Bounds i c.config cap)
    (timer : c.deadlineTimer = c.nextDeadline) : wp (turn i) (roomPost cap i c) c := by
  simp only [turn, awaitSlot, wp_bind, wp_get, wp_ite, wp_modify, wp_pure]
  refine ⟨fun should => ?_, fun _ => select_room sound bounds timer⟩
  have free : c.outstanding = none := by
    simp only [shouldWaitForSlot, Bool.and_eq_true, Option.isNone_iff_eq_none] at should
    exact should.1.1
  have same (r : Room) : RoomTurn cap i { c with waitingForSlot := true } r → RoomTurn cap i c r := by
    have sweeps_same : sweeps { c with waitingForSlot := true } i = sweeps c i := by
      simp only [sweeps, should, Bool.or_true, Bool.true_or]
      rfl
    rw [RoomTurn, RoomTurn, sweeps_same]
    exact id
  refine wp_mono (select_room (c := { c with waitingForSlot := true })
    ⟨sound.account.congr rfl rfl rfl rfl rfl rfl, fun _ => free⟩ bounds timer) ?_ (fun _ _ never => never.elim) ?_
  · rintro r t ⟨keeps, turn⟩
    exact ⟨⟨keeps.config, keeps.timer⟩, same t.room turn⟩
  · intro msg t halts outOfRange
    obtain ⟨u, turn, rest⟩ := halts outOfRange
    exact ⟨u, same u turn, rest⟩

end turns

/-- The bounds at one input; a function that is not registered has no room. -/
def capacity (config : AdmissionConfig) (i : Input) : Capacity FunctionId where
  total := config.globalMaxQueuedReqs
  each f := (i.store f).elim 0 (queueCap config)

theorem bounds_capacity (config : AdmissionConfig) (i : Input) :
    Bounds i config (capacity config i) :=
  ⟨rfl, fun _ _ known => by simp [capacity, known]⟩

/-- What holds of the controller and its room at every loop top, whatever the events. -/
structure Steady (config : AdmissionConfig) (c : AdmissionController) : Prop where
  sound : Sound c
  config : c.config = config
  timer : c.deadlineTimer = c.nextDeadline
  orderly : c.room.Orderly
  armed : c.room.Armed

section runs
variable {config : AdmissionConfig} {c t : AdmissionController} {i : Input}

theorem steady_new (config : AdmissionConfig) (start : Instant) :
    Steady config (AdmissionController.new config start) :=
  ⟨sound_new config start, rfl, rfl, fun _ => List.Sublist.refl _, ⟨nofun, fun _ h => absurd rfl h⟩⟩

theorem Steady.room_turn {r : Option RunResult} (h : Steady config c)
    (ran : turn i c = .ok r t) : Keeps c t ∧ RoomTurn (capacity config i) i c t.room := by
  have bounds : Bounds i c.config (capacity config i) := by
    rw [h.config]
    exact bounds_capacity config i
  have one := turn_room h.sound bounds h.timer
  rwa [wp, ran] at one

theorem Steady.kept (h : Steady config c) (ran : turn i c = .ok none t) : Steady config t := by
  obtain ⟨keeps, turn⟩ := h.room_turn ran
  have sound := turn_spec (i := i) h.sound
  rw [wp, ran] at sound
  exact ⟨(sound rfl).sound, keeps.config.trans h.config, keeps.timer h.timer,
    h.orderly.turn turn.turn, h.armed.turn turn.turn⟩

/-- A dispatch becomes outstanding only while none is. -/
theorem Steady.idle_before {d : OutstandingDispatch} (h : Steady config c)
    (one : turn i c = .ok none t) (fresh : c.outstanding ≠ some d)
    (taken : t.outstanding = some d) : c.outstanding = none := by
  have sound := turn_spec (i := i) h.sound
  rw [wp, one] at sound
  cases held : c.outstanding with
  | none => rfl
  | some d' => obtain same | ⟨none, -⟩ := (sound rfl).outstanding d' held <;> simp_all

theorem run_steady {start : Instant} {inputs : List Input}
    (ran : run config start inputs = .running c) : Steady config c :=
  iterate_history (P := fun _ c => Steady config c) (fun _ _ _ _ h one => h.kept one)
    (steady_new config start) ran

end runs

/-- One slot, one request queued in all: the controller of the examples. -/
def smallConfig : AdmissionConfig where
  maxConcurrency := 1
  globalMaxQueuedReqs := 1
  defaultMaxQueuedPerFunc := 1
  defaultMaxQueueDelay := 100
  fallbackRetryPeriod := 50

/-- An event at a time at which every function is registered without bounds of its own. -/
def plain (now : Instant) (event : Event) : Input where
  event := event
  now := now
  store _ := some none
  rank := id
  constructible _ := true

end Admission
end Snaplace
