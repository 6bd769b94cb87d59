import Snaplace.Network.TapPool

/-!
# The network manager

A manager serves the messages of the workers with its provider until it is told to quit; then it
only takes resources back, until all its refs are gone. A resource whose requester does not wait for
it any more goes straight back to the provider. So nothing may panic when it is given back, in
whichever of its forms.
-/
namespace Snaplace
open Foundation

namespace Network
open Handler (attempt focus)

inductive Message where
  | allocate
  | request (desc : TapInfo)
  | deallocate (netRsrc : Tap)
  deriving DecidableEq, Repr

/-- How the calls that a message leads to end: whether the requester is still there, what the kernel
answers for a new device, and whether one could be deleted. -/
structure Replies where
  delivered : Bool
  link : Link
  destroyed : Bool
  deriving DecidableEq, Repr

/-- What a manager waits for. -/
inductive Wakeup where
  | quit
  | message (msg : Message) (replies : Replies)
  /-- All refs have been dropped; `destroyed` is for the devices that are still with the provider. -/
  | closed (destroyed : Tap → Bool)

structure NetworkManager (σ : Type) where
  provider : σ
  /-- The manager has been told to quit. -/
  shuttingDown : Bool
  deriving DecidableEq

namespace NetworkManager
variable {σ : Type} (provider : SandboxNetworkingProvider σ)

def onProvider {ε α : Type} (m : Handler σ ε α) : Handler (NetworkManager σ) ε α :=
  focus NetworkManager.provider (fun provider m => { m with provider }) m

/-- An error of `dealloc` is only logged. -/
def dealloc (replies : Replies) (netRsrc : Tap) : Handler (NetworkManager σ) Empty Unit := do
  let _ ← attempt (onProvider (provider.dealloc replies.destroyed netRsrc))
  pure ()

/-- Serves `allocate` and `request`. -/
def alloc (desc : Option TapInfo) (replies : Replies) : Handler (NetworkManager σ) Empty Unit := do
  let rsrc ← attempt (onProvider
    (match desc with
    | some desc => provider.request desc replies.link
    | none => provider.alloc))
  if replies.delivered then pure ()
  else
    match rsrc with
    | .ok rsrc => dealloc provider replies rsrc
    | .error _ => pure ()

def serve (replies : Replies) : Message → Handler (NetworkManager σ) Empty Unit
  | .allocate => alloc provider none replies
  | .request desc => alloc provider (some desc) replies
  | .deallocate netRsrc => dealloc provider replies netRsrc

/-- While it shuts down, a manager refuses every request. -/
def drain (replies : Replies) : Message → Handler (NetworkManager σ) Empty Unit
  | .allocate | .request _ => pure ()
  | .deallocate netRsrc => dealloc provider replies netRsrc

/-- One turn of the loop of `run`, or of the one of `shutdown` that it ends with. -/
def turn (i : Wakeup) : Handler (NetworkManager σ) Empty (Option (Except NetworkError Unit)) := do
  match (← get).shuttingDown, i with
  | false, .quit => do
    modify fun m => { m with shuttingDown := true }
    pure none
  | false, .message msg replies => do
    serve provider replies msg
    pure none
  | false, .closed _ => pure (some (.error .unexpectedShutDown))
  | true, .quit => pure none
  | true, .message msg replies => do
    drain provider replies msg
    pure none
  | true, .closed destroyed => do
    let _ ← attempt (onProvider (provider.shutdown destroyed))
    pure (some (.ok ()))

def spawn (s : σ) : NetworkManager σ := { provider := s, shuttingDown := false }

def run (inputs : List Wakeup) (m : NetworkManager σ) :
    Progress (NetworkManager σ) (Except NetworkError Unit) :=
  iterate (turn provider) inputs m

end NetworkManager

namespace NetworkManager
variable {σ : Type} {provider : SandboxNetworkingProvider σ} {inv lazy : σ → Prop}
  {accepts : Tap → Prop}

/-- Whatever the message gives back to the provider is accepted. -/
def GivesBack (lazy : σ → Prop) (accepts : Tap → Prop) (m : NetworkManager σ) : Wakeup → Prop
  | .message .allocate replies => m.shuttingDown ∨ replies.delivered ∨ ¬ lazy m.provider
  | .message (.deallocate netRsrc) _ => accepts netRsrc
  | .quit | .message (.request _) _ | .closed _ => True

instance [DecidablePred lazy] [DecidablePred accepts] (m : NetworkManager σ) (i : Wakeup) :
    Decidable (GivesBack lazy accepts m i) := by
  unfold GivesBack
  split <;> infer_instance

section Turns
variable (h : TakesBack provider inv lazy accepts) {m : NetworkManager σ}
include h

theorem dealloc_spec (keeps : inv m.provider) (replies : Replies) (netRsrc : Tap) :
    Handler.wp (dealloc provider replies netRsrc)
      { ok := fun _ t => inv t.provider ∧ accepts netRsrc, err := fun _ _ => True,
        panic := fun _ t => inv t.provider ∧ ¬ accepts netRsrc } m := by
  simp only [dealloc, onProvider, Handler.wp_bind, Handler.wp_attempt, Handler.wp_focus]
  exact h.dealloc replies.destroyed netRsrc m.provider keeps

theorem alloc_spec (keeps : inv m.provider) (replies : Replies) :
    Handler.wp (alloc provider none replies)
      { ok := fun _ t => inv t.provider ∧ (replies.delivered ∨ ¬ lazy m.provider),
        err := fun _ _ => True,
        panic := fun _ t => inv t.provider ∧ ¬ (replies.delivered ∨ ¬ lazy m.provider) } m := by
  simp only [alloc, onProvider, Handler.wp_bind, Handler.wp_attempt, Handler.wp_focus]
  apply Handler.wp_mono (h.alloc m.provider keeps) _ _ fun _ _ => False.elim
  · intro tap t spec
    obtain ⟨keeps, accepted⟩ := spec
    have given := dealloc_spec h (m := { m with provider := t }) keeps replies tap
    cases delivered : replies.delivered with
    | true => exact ⟨keeps, .inl rfl⟩
    | false =>
      -- The requester is gone, so the manager gives the resource back itself.
      exact Handler.wp_mono given (fun _ _ spec => ⟨spec.1, .inr (accepted.mp spec.2)⟩)
        (fun _ _ => id) fun _ _ spec => ⟨spec.1, by simpa [accepted] using spec.2⟩
  · intro _ t spec
    cases replies.delivered with
    | true => exact ⟨spec.1, .inl rfl⟩
    | false => exact ⟨spec.1, .inr spec.2⟩

theorem request_spec (keeps : inv m.provider) (replies : Replies) (desc : TapInfo) :
    Handler.wp (alloc provider (some desc) replies)
      { ok := fun _ t => inv t.provider, err := fun _ _ => True } m := by
  simp only [alloc, onProvider, Handler.wp_bind, Handler.wp_attempt, Handler.wp_focus]
  apply Handler.wp_mono (h.request desc replies.link m.provider keeps) _ _ fun _ _ => False.elim
  · intro tap t spec
    obtain ⟨keeps, accepted⟩ := spec
    have given := dealloc_spec h (m := { m with provider := t }) keeps replies tap
    cases replies.delivered with
    | true => exact keeps
    | false =>
      exact Handler.wp_mono given (fun _ _ spec => spec.1) (fun _ _ => id)
        fun _ _ spec => spec.2 accepted
  · intro _ t keeps
    cases replies.delivered <;> exact keeps

theorem turn_spec (keeps : inv m.provider) (i : Wakeup) :
    Handler.wp (turn provider i)
      { ok := fun _ t => inv t.provider ∧ GivesBack lazy accepts m i, err := fun _ _ => True,
        panic := fun _ t => inv t.provider ∧ ¬ GivesBack lazy accepts m i } m := by
  simp only [turn, Handler.wp_bind, Handler.wp_get]
  cases serving : m.shuttingDown with
  | false =>
    cases i with
    | quit => exact ⟨keeps, trivial⟩
    | closed destroyed => exact ⟨keeps, trivial⟩
    | message msg replies =>
      cases msg with
      | allocate =>
        simpa [serve, GivesBack, serving] using alloc_spec h keeps replies
      | request desc =>
        simpa [serve, GivesBack] using request_spec h keeps replies desc
      | deallocate netRsrc => simpa [serve, GivesBack] using dealloc_spec h keeps replies netRsrc
  | true =>
    cases i with
    | quit => exact ⟨keeps, trivial⟩
    | closed destroyed =>
      simp only [onProvider, Handler.wp_bind, Handler.wp_attempt, Handler.wp_focus]
      exact Handler.wp_mono (h.shutdown destroyed m.provider keeps) (fun _ _ keeps => ⟨keeps, trivial⟩)
        (fun _ _ keeps => ⟨keeps, trivial⟩) fun _ _ => False.elim
    | message msg replies =>
      cases msg with
      | allocate => exact ⟨keeps, .inl serving⟩
      | request desc => exact ⟨keeps, trivial⟩
      | deallocate netRsrc => simpa [drain, GivesBack] using dealloc_spec h keeps replies netRsrc

end Turns

/-- A manager never panics exactly when all that its messages give back is accepted. -/
theorem run_ne_panicked_iff (h : TakesBack provider inv lazy accepts) {m : NetworkManager σ}
    (init : inv m.provider) (inputs : List Wakeup) :
    (∀ msg t, run provider inputs m ≠ .panicked msg t) ↔
      AllTurns (turn provider) (GivesBack lazy accepts) inputs m := by
  apply iterate_ne_panicked_iff (I := fun m => inv m.provider) _ init
  intro m i keeps
  exact Handler.wp_mono (turn_spec h keeps i) (fun _ _ spec => ⟨spec.2, fun _ => spec.1⟩)
    (fun _ _ => id) fun _ _ spec => spec.2

/-- What every call of the provider keeps holds wherever a run has come to. -/
theorem run_inv (h : TakesBack provider inv lazy accepts) {m : NetworkManager σ}
    (init : inv m.provider) (inputs : List Wakeup) : inv (run provider inputs m).state.provider := by
  have all := @iterate_invariant _ _ _ (turn provider) (fun _ _ => True) (fun m => inv m.provider)
    (fun _ m => inv m.provider) (fun _ m => inv m.provider)
    (fun _ i keeps _ => Handler.wp_mono (turn_spec h keeps i)
      (fun r _ spec => by cases r <;> exact spec.1) (fun _ _ => id) fun _ _ spec => spec.1)
    inputs m init (AllTurns.of_forall_mem (fun _ _ _ => trivial) m)
  unfold run
  cases ran : iterate (turn provider) inputs m <;> rw [ran] at all <;> exact all

section Phases
variable (provider : SandboxNetworkingProvider σ) {m : NetworkManager σ} {b : Bool}

/-- The phase the manager is left in, however the handler ends. -/
def inPhase {ε α : Type} (b : Bool) : Handler.Post (NetworkManager σ) ε α where
  ok _ t := t.shuttingDown = b
  err _ t := t.shuttingDown = b
  panic _ t := t.shuttingDown = b

theorem onProvider_phase {ε α : Type} (call : Handler σ ε α) (h : m.shuttingDown = b) :
    Handler.wp (onProvider call) (inPhase b) m := by
  rw [onProvider, Handler.wp_focus]
  unfold Handler.wp
  cases call m.provider <;> exact h

theorem dealloc_phase (replies : Replies) (netRsrc : Tap) (h : m.shuttingDown = b) :
    Handler.wp (dealloc provider replies netRsrc) (inPhase b) m := by
  simp only [dealloc, Handler.wp_bind, Handler.wp_attempt]
  exact onProvider_phase _ h

theorem alloc_phase (desc : Option TapInfo) (replies : Replies) (h : m.shuttingDown = b) :
    Handler.wp (alloc provider desc replies) (inPhase b) m := by
  simp only [alloc, Handler.wp_bind, Handler.wp_attempt]
  refine Handler.wp_mono (onProvider_phase _ h) ?_ ?_ fun _ _ same => same
  · intro tap t same
    cases replies.delivered with
    | true => exact same
    | false => exact dealloc_phase provider replies tap same
  · intro _ t same
    cases replies.delivered <;> exact same

theorem serve_phase (replies : Replies) (msg : Message) (h : m.shuttingDown = b) :
    Handler.wp (serve provider replies msg) (inPhase b) m := by
  cases msg with
  | allocate => exact alloc_phase provider none replies h
  | request desc => exact alloc_phase provider (some desc) replies h
  | deallocate netRsrc => exact dealloc_phase provider replies netRsrc h

/-- The loop is left only when all refs are gone, and shuts down only when told to. -/
theorem turn_phase (i : Wakeup) : Handler.wp (turn provider i)
    { ok := fun r t =>
        match r with
        | none => t.shuttingDown → m.shuttingDown ∨ i = .quit
        | some r => (∃ destroyed, i = .closed destroyed) ∧
            (r = .ok () ∧ m.shuttingDown ∨ r = .error .unexpectedShutDown),
      err := fun _ _ => True, panic := fun _ _ => True } m := by
  simp only [turn, Handler.wp_bind, Handler.wp_get]
  cases serving : m.shuttingDown with
  | false =>
    cases i with
    | quit => exact fun _ => .inr rfl
    | closed destroyed => exact ⟨⟨destroyed, rfl⟩, .inr rfl⟩
    | message msg replies =>
      simp only [Handler.wp_bind]
      exact Handler.wp_mono (serve_phase provider replies msg serving)
        (fun _ _ same told => absurd (same.symm.trans told) (by simp)) (fun _ _ _ => trivial)
        fun _ _ _ => trivial
  | true =>
    cases i with
    | quit => exact fun _ => .inr rfl
    | closed destroyed =>
      simp only [Handler.wp_bind, Handler.wp_attempt]
      exact Handler.wp_mono (onProvider_phase _ serving)
        (fun _ _ _ => ⟨⟨destroyed, rfl⟩, .inl ⟨rfl, trivial⟩⟩)
        (fun _ _ _ => ⟨⟨destroyed, rfl⟩, .inl ⟨rfl, trivial⟩⟩) fun _ _ _ => trivial
    | message msg replies =>
      simp only [Handler.wp_bind]
      unfold Handler.wp
      cases drain provider replies msg m with
      | ok _ _ => exact fun _ => .inl trivial
      | err e _ => exact e.elim
      | panic _ _ => exact trivial

end Phases

/-- A manager leaves its loop only once all its refs are gone: in an orderly way if it has been told
to quit, and with an error otherwise. -/
theorem run_exited (provider : SandboxNetworkingProvider σ) {inputs : List Wakeup}
    {m t : NetworkManager σ} {r : Except NetworkError Unit}
    (exited : run provider inputs m = .exited r t) :
    (∃ destroyed, .closed destroyed ∈ inputs) ∧
      (r = .ok () ∧ (m.shuttingDown ∨ .quit ∈ inputs) ∨ r = .error .unexpectedShutDown) := by
  unfold run at exited
  induction inputs generalizing m with
  | nil => cases exited
  | cons i rest ih =>
    have phase := turn_phase provider (m := m) i
    unfold Handler.wp at phase
    unfold iterate at exited
    cases ran : turn provider i m with
    | ok left u =>
      rw [ran] at phase exited
      cases left with
      | none =>
        obtain ⟨⟨destroyed, closed⟩, result⟩ := ih exited
        refine ⟨⟨destroyed, by simp [closed]⟩, result.imp_left fun ended => ?_⟩
        obtain ⟨orderly, told⟩ := ended
        refine ⟨orderly, ?_⟩
        obtain told | told := told
        · obtain before | rfl := phase told
          · exact .inl before
          · exact .inr (by simp)
        · exact .inr (by simp [told])
      | some r =>
        cases exited
        obtain ⟨⟨destroyed, rfl⟩, result⟩ := phase
        exact ⟨⟨destroyed, by simp⟩, result.imp_left fun ended => ⟨ended.1, .inl ended.2⟩⟩
    | err e _ => exact e.elim
    | panic msg u =>
      rw [ran] at exited
      cases exited

/-- How a manager may end: in an orderly way, when it has been told to quit and all its refs are gone,
or with an error, when they are gone before that. -/
def Orderly (inputs : List Wakeup) :
    Progress (NetworkManager σ) (Except NetworkError Unit) → Prop
  | .running _ => True
  | .exited r _ => (∃ destroyed, .closed destroyed ∈ inputs) ∧
      (r = .ok () ∧ .quit ∈ inputs ∨ r = .error .unexpectedShutDown)
  | .panicked _ _ => False

theorem orderly_iff (provider : SandboxNetworkingProvider σ) (inputs : List Wakeup) (s : σ) :
    Orderly inputs (run provider inputs (spawn s)) ↔
      ∀ msg t, run provider inputs (spawn s) ≠ .panicked msg t := by
  cases ran : run provider inputs (spawn s) with
  | running t => simp [Orderly]
  | exited r t =>
    obtain ⟨closed, result⟩ := run_exited provider ran
    simp only [Orderly]
    refine iff_of_true ⟨closed, ?_⟩ (by simp)
    simpa [spawn] using result
  | panicked msg t => simp [Orderly]

end NetworkManager

/-- Over plain taps a manager always ends as it should. Over a tap pool it does exactly when, before
it shuts down, no requester of a tap is gone that `alloc` returns as a builder, and no builder is sent
back. The taps in the free list can be destroyed in any case. -/
theorem resources_taken_back {subnets : Subnets} (complete : subnets.Complete)
    (ascending : subnets.Ascending) {parent : Ipv4Net} (inputs : List Wakeup) :
    (∀ start, PlainTapDevices.new subnets parent = .ok start →
      NetworkManager.Orderly inputs
        (NetworkManager.run PlainTapDevices.provider inputs (.spawn start))) ∧
    (∀ capacity link finished start,
      PoolTapDevices.new subnets { subnet := parent, capacity } link finished = .ok start () →
      let ran := NetworkManager.run PoolTapDevices.provider inputs (.spawn start)
      (NetworkManager.Orderly inputs ran ↔
        AllTurns (NetworkManager.turn PoolTapDevices.provider)
          (NetworkManager.GivesBack PoolTapDevices.Lazy Tap.IsDevice) inputs (.spawn start)) ∧
      ∀ t ∈ ran.state.provider.free, ∀ destroyed msg u,
        PoolTapDevices.destroyTask destroyed t.2 ≠ .panic msg u) := by
  constructor
  · intro start new
    obtain ⟨all, -, long, fit⟩ := PlainTapDevices.after_fit complete new []
    have takesBack := PlainTapDevices.takesBack long
    rw [NetworkManager.orderly_iff, NetworkManager.run_ne_panicked_iff takesBack fit]
    refine AllTurns.of_forall_mem (fun i _ m => ?_) _
    rcases i with _ | ⟨_ | _ | _, _⟩ | _ <;> simp [NetworkManager.GivesBack]
  · intro capacity link finished start new ran
    obtain ⟨all, listed, sound⟩ := TapUse.Sound.start complete ascending new
    have long : ∀ s ∈ all, s.prefixLen = PREFIX_LEN :=
      fun s mem => ((complete _ _ _ listed s).mp mem).length
    have takesBack := PoolTapDevices.takesBack long
    constructor
    · rw [NetworkManager.orderly_iff]
      exact NetworkManager.run_ne_panicked_iff takesBack sound.stocked inputs
    · intro t mem destroyed msg u
      have stocked := NetworkManager.run_inv takesBack (m := .spawn start) sound.stocked inputs
      obtain ⟨device, made, -⟩ := stocked.keyed t mem
      rw [made]
      cases destroyed <;> simp [PoolTapDevices.destroyTask]

/-- The requester of a tap of the free list is gone, and so is the one of a subnet's tap. -/
theorem resources_taken_back_device :
    let config : PoolTapsConfig := { subnet := tenNet 0 30, capacity := 1 }
    let first : TapDevice := { index := 4, info := { (tenNet 0 31).tapInfo with macAddr := some 5 } }
    let second : TapInfo :=
      { name := "uvm-0a-00-00-03", macAddr := some 6, ipAddr := 10 * 2 ^ 24 + 3, prefixLen := 31,
        gateway := 10 * 2 ^ 24 + 2 }
    let start : PoolTapDevices :=
      { ipPool := { iter := [second.subnet], taken := ∅, freeQ := [], freeSet := ∅ }
        free := [(tenNet 0 31, .device first)] }
    let gone : Replies := { delivered := false, link := .created 7 6, destroyed := true }
    let inputs : List Wakeup :=
      [.message .allocate gone, .message (.request second) gone, .quit, .closed fun _ => true]
    PoolTapDevices.new ipv4Subnets config (fun _ => .created 4 5) (fun _ => 0) = .ok start () ∧
      NetworkManager.Orderly inputs
        (NetworkManager.run PoolTapDevices.provider inputs (.spawn start)) := by
  intro config first second start gone inputs
  have new : PoolTapDevices.new ipv4Subnets config (fun _ => .created 4 5) (fun _ => 0) =
      .ok start () := by
    decide +kernel
  have both := @resources_taken_back ipv4Subnets ipv4Subnets_complete ipv4Subnets_ascending
    (tenNet 0 30) inputs
  exact ⟨new, (both.2 1 _ _ start new).1.mpr (by decide +kernel)⟩

/-- The first tap of a pool without devices comes back to it as a builder. -/
theorem lazy_tap_not_taken_back :
    let start : PoolTapDevices :=
      { ipPool :=
          { iter := [tenNet 0 31, { addr := 10 * 2 ^ 24 + 2, prefixLen := 31 }], taken := ∅,
            freeQ := [], freeSet := ∅ }
        free := [] }
    let gone : Replies := { delivered := false, link := .failed, destroyed := true }
    PoolTapDevices.new ipv4Subnets { subnet := tenNet 0 30, capacity := 0 } (fun _ => .failed)
        (fun _ => 0) = .ok start () ∧
      ¬ NetworkManager.Orderly [.message .allocate gone]
        (NetworkManager.run PoolTapDevices.provider [.message .allocate gone] (.spawn start)) := by
  intro start gone
  refine ⟨by decide +kernel, fun orderly => ?_⟩
  exact orderly

end Network
end Snaplace
