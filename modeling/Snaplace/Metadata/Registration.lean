import Snaplace.Foundation.Run
import Snaplace.Metadata.Registrar

/-!
# Concurrent registrations and deregistrations

Any number of calls are under way, and their steps interleave. Each registered function is published
in all three places, and what is left of a function that is not registered is owed to a call which
is still to publish it or to remove it.
-/
namespace Snaplace
open Foundation Foundation.Handler
open Pool (ByteUnit)

namespace Metadata

structure Call where
  request : Request
  stage : Stage

abbrev CallId := Nat

structure System where
  registrar : Registrar
  calls : Table CallId Call

inductive Step where
  | arrive (id : CallId) (request : Request)
  /-- A call takes its next step. -/
  | advance (id : CallId) (answers : Answers)

namespace System

/-- No call has come yet. -/
def new (registrar : Registrar) : System := ⟨registrar, ∅⟩

/-- A call comes to its next stage, and leaves `registrar` behind. -/
def moveCall (s : System) (id : CallId) (call : Call) (stage : Stage) (registrar : Registrar) :
    System :=
  { registrar, calls := s.calls.insert id { call with stage } }

def step (config : Config) (i : Step) (s : System) : System :=
  match i with
  | .arrive id request =>
    match s.calls.lookup id with
    | none => { s with calls := s.calls.insert id { request, stage := .received } }
    | some _ => s
  | .advance id answers =>
    match s.calls.lookup id with
    | none => s
    | some call =>
      match nextStage config answers call.request call.stage s.registrar with
      | .ok stage r => s.moveCall id call stage r
      | .err status r => s.moveCall id call (.returned (.error status)) r
      | .panic msg r =>
        s.moveCall id call (.returned (.error ⟨.internal, s!"error joining tokio task: {msg}"⟩)) r

def run (config : Config) (steps : List Step) (s : System) : System :=
  steps.foldl (fun s i => step config i s) s

end System

/-! ## What a step has to leave alone -/

/-- A step of a call does not collide with another call: a row is written over none but the same
row, a function is published with its own row and image, and what is removed has not been
registered again. -/
def Call.Undisturbed (c : Call) (r : Registrar) : Prop :=
  match c.stage with
  | .prepared func =>
    r.store.lookup func.info.id = none ∨ r.store.lookup func.info.id = some func
  | .stored func =>
    r.store.lookup func.info.id = none →
      r.functions.lookup func.info.id = some func ∧ r.rootfsRegistry.lookup func.info.id ≠ none
  | .removed func | .deleted func => r.store.lookup func.info.id = none
  | _ => True

instance (c : Call) (r : Registrar) : Decidable (c.Undisturbed r) := by
  unfold Call.Undisturbed
  split <;> infer_instance

def System.Undisturbed (s : System) : Step → Prop
  | .arrive _ _ => True
  | .advance id _ =>
    match s.calls.lookup id with
    | none => True
    | some call => call.Undisturbed s.registrar

instance (s : System) (i : Step) : Decidable (s.Undisturbed i) := by
  unfold System.Undisturbed
  split
  · infer_instance
  · split <;> infer_instance

/-! ## The three places -/

namespace Registrar

/-- A registered function is in all three places, under its own id. -/
def Published (r : Registrar) : Prop :=
  ∀ f func, r.store.lookup f = some func →
    func.info.id = f ∧ r.functions.lookup f = some func ∧ r.rootfsRegistry.lookup f ≠ none

/-- The three places hold the same functions, the first two with the same data. -/
def Agree (r : Registrar) : Prop :=
  ∀ f, r.functions.lookup f = r.store.lookup f ∧
    (r.rootfsRegistry.lookup f ≠ none ↔ r.store.lookup f ≠ none)

/-- The store has each function under its own id. -/
def Keyed (r : Registrar) : Prop := ∀ f func, r.store.lookup f = some func → func.info.id = f

theorem Agree.published {r : Registrar} (agree : r.Agree) (keyed : r.Keyed) : r.Published := by
  intro f func look
  obtain ⟨row, image⟩ := agree f
  exact ⟨keyed f func look, row.trans look, image.mpr (by simp [look])⟩

end Registrar

/-- Where something is left of a function that is not registered. -/
inductive Place where
  | functions
  | rootfsRegistry
  deriving DecidableEq

def Registrar.Has (r : Registrar) (f : FunctionId) : Place → Prop
  | .functions => r.functions.lookup f ≠ none
  | .rootfsRegistry => r.rootfsRegistry.lookup f ≠ none

/-- What the place has of the function is the call's, to publish or to remove, or may be left behind
by its failure. -/
def Call.Owes (f : FunctionId) (place : Place) (c : Call) : Prop :=
  match c.stage with
  | .prepared func | .deleted func => place = .rootfsRegistry ∧ func.info.id = f
  | .stored func | .removed func => func.info.id = f
  | .returned (.error status) => status.Fault
  | _ => False

instance (request : Request) (functionId : FunctionId) :
    Decidable (request = .deregister functionId) :=
  match request with
  | .register _ => isFalse nofun
  | .deregister other => decidable_of_iff (other = functionId) (by simp)

/-- A request to register the function, valid or not. -/
def Request.Registers (f : FunctionId) : Request → Prop
  | .register req => ∃ func, req.parse = .ok func ∧ func.info.id = f
  | .deregister _ => False

/-- A stage says what its call was asked for. -/
def Call.Faithful (c : Call) : Prop :=
  match c.stage with
  | .validated func | .prepared func | .stored func => c.request.function = some func
  | .removed _ | .deleted _ => ∃ functionId, c.request = .deregister functionId
  | .returned (.ok ()) => c.request.function ≠ none ∨ ∃ functionId, c.request = .deregister functionId
  | _ => True

/-- A registration of the function that has succeeded. -/
def Call.Won (f : FunctionId) (c : Call) : Prop :=
  c.request.Registers f ∧ c.stage = .returned (.ok ())

/-- The call has returned, and not with an error of the storage or the runtime. -/
def Call.Finished (c : Call) : Prop :=
  match c.stage with
  | .returned (.ok _) => True
  | .returned (.error status) => ¬ status.Fault
  | _ => False

instance : DecidablePred Call.Finished := fun c => by
  unfold Call.Finished
  split <;> infer_instance

/-- A valid registration of the function that has succeeded or lost. -/
def Call.Settled (f : FunctionId) (c : Call) : Prop :=
  (∃ func, c.request.function = some func ∧ func.info.id = f) ∧ c.Finished

theorem Request.registers_of_function {request : Request} {func : RegisteredFunction FcFunctionInfo}
    (h : request.function = some func) {f : FunctionId} :
    request.Registers f ↔ func.info.id = f := by
  cases request with
  | register req =>
    simp only [Request.function] at h
    split at h
    next parsed ok =>
      obtain ⟨-, rfl⟩ : _ ∧ parsed = func := by simpa using h
      simp [Request.Registers, ok]
    next => cases h
  | deregister _ => cases h

theorem Call.Faithful.settled {c : Call} (faithful : c.Faithful) {f : FunctionId}
    (won : c.Won f) : c.Settled f := by
  obtain ⟨registers, stage⟩ := won
  refine ⟨?_, by simp [Call.Finished, stage]⟩
  obtain valid | ⟨functionId, asked⟩ : c.request.function ≠ none ∨
      ∃ functionId, c.request = .deregister functionId := by
    simpa [Call.Faithful, stage] using faithful
  · obtain ⟨func, valid⟩ := Option.ne_none_iff_exists'.mp valid
    exact ⟨func, valid, (Request.registers_of_function valid).mp registers⟩
  · rw [asked] at registers
    exact registers.elim

namespace CallStep
variable {c : Call} {r r' : Registrar} {stage : Stage}

theorem faithful (one : CallStep c.request r c.stage stage r') (h : c.Faithful) :
    { c with stage }.Faithful := by
  obtain ⟨request, before⟩ := c
  cases one with
  | validated valid absent => exact valid
  | refused fine present => trivial
  | failed fault => trivial
  | prepared func path => exact h
  | stored func => exact h
  | @registered func absent => exact .inl (by simp [show request.function = some func from h])
  | lost fine present => trivial
  | removed asked look => exact ⟨_, asked⟩
  | deleted func => exact h
  | deregistered func => exact .inr h
  | done result => exact h

/-- Without a deregistration, a step either stores the function's data, or it leaves the store and
whoever has won, and no valid registration loses to nobody. -/
theorem contest (one : CallStep c.request r c.stage stage r') (h : c.Faithful) {f : FunctionId}
    (stays : c.request ≠ .deregister f) :
    (r.store.lookup f = none ∧ ∃ func, r'.store.lookup f = some func ∧
        c.request.function = some func ∧ stage = .returned (.ok ())) ∨
      r'.store.lookup f = r.store.lookup f ∧
        ({ c with stage }.Won f ↔ c.Won f) ∧
        ({ c with stage }.Settled f → c.Settled f ∨ r.store.lookup f ≠ none) := by
  obtain ⟨request, before⟩ := c
  cases one with
  | validated valid absent => exact .inr ⟨rfl, by simp [Call.Won], by simp [Call.Settled, Call.Finished]⟩
  | refused fine present =>
    refine .inr ⟨rfl, by simp [Call.Won], fun settled => .inr ?_⟩
    obtain ⟨⟨func, valid, rfl⟩, -⟩ := settled
    exact present func valid
  | failed fault going =>
    refine .inr ⟨rfl, by simp [Call.Won, going], fun settled => ?_⟩
    exact absurd fault settled.2
  | prepared func path => exact .inr ⟨rfl, by simp [Call.Won], by simp [Call.Settled, Call.Finished]⟩
  | stored func => exact .inr ⟨rfl, by simp [Call.Won], by simp [Call.Settled, Call.Finished]⟩
  | @registered func absent =>
    have valid : request.function = some func := h
    by_cases same : func.info.id = f
    · subst same
      exact .inl ⟨absent, func, by simp, valid, rfl⟩
    · refine .inr ⟨by simp [Ne.symm same], ?_, fun settled => ?_⟩
      · simp [Call.Won, Request.registers_of_function valid, same]
      · obtain ⟨⟨other, valid', eq⟩, -⟩ := settled
        obtain rfl : func = other := by simpa [valid] using valid'
        exact absurd eq same
  | @lost func status fine present =>
    have valid : request.function = some func := h
    refine .inr ⟨rfl, by simp [Call.Won], fun settled => .inr ?_⟩
    obtain ⟨⟨other, valid', rfl⟩, -⟩ := settled
    obtain rfl : func = other := by simpa [valid] using valid'
    exact present
  | @removed functionId func asked look =>
    subst asked
    have other : f ≠ functionId := by
      rintro rfl
      exact stays rfl
    exact .inr ⟨by simp [other], by simp [Call.Won], by simp [Call.Settled, Call.Finished]⟩
  | deleted func => exact .inr ⟨rfl, by simp [Call.Won], by simp [Call.Settled, Call.Finished]⟩
  | deregistered func =>
    obtain ⟨functionId, rfl⟩ : ∃ functionId, request = .deregister functionId := h
    exact .inr ⟨rfl, by simp [Call.Won, Request.Registers], by simp [Call.Settled, Request.function]⟩
  | done result => exact .inr ⟨rfl, Iff.rfl, .inl⟩

theorem published (one : CallStep c.request r c.stage stage r') (calm : c.Undisturbed r)
    (h : r.Published) : r'.Published := by
  obtain ⟨request, before⟩ := c
  unfold Call.Undisturbed at calm
  intro f func look
  cases one with
  | validated valid absent => exact h f func look
  | refused fine present => exact h f func look
  | failed fault => exact h f func look
  | prepared func' path =>
    obtain ⟨keyed, row, image⟩ := h f func look
    refine ⟨keyed, row, ?_⟩
    simp only [Table.lookup_insert_ite]
    split <;> simp [image]
  | stored func' =>
    obtain ⟨keyed, row, image⟩ := h f func look
    refine ⟨keyed, ?_, image⟩
    simp only [Table.lookup_insert_ite]
    split
    next same =>
      subst same
      simpa [look, eq_comm] using calm
    next => exact row
  | registered absent =>
    simp only [Table.lookup_insert_ite] at look
    split at look
    next same =>
      cases look
      subst same
      exact ⟨rfl, calm absent⟩
    next => exact h f func look
  | lost fine present => exact h f func look
  | removed asked _ =>
    simp only [Table.lookup_erase_ite] at look
    split at look
    · cases look
    · exact h f func look
  | deleted func' =>
    obtain ⟨keyed, row, image⟩ := h f func look
    have gone : r.store.lookup func'.info.id = none := calm
    have other : f ≠ func'.info.id := by
      rintro rfl
      simp [gone] at look
    exact ⟨keyed, by simpa [Table.lookup_erase_ite, other] using row, image⟩
  | deregistered func' =>
    obtain ⟨keyed, row, image⟩ := h f func look
    have gone : r.store.lookup func'.info.id = none := calm
    have other : f ≠ func'.info.id := by
      rintro rfl
      simp [gone] at look
    exact ⟨keyed, row, by simpa [Table.lookup_erase_ite, other] using image⟩
  | done result => exact h f func look

/-- What a place has left of a function after a step is the call's own, or was left before the step
and is owed as it was. -/
theorem left (one : CallStep c.request r c.stage stage r') (h : r.Published) {f : FunctionId}
    {place : Place} (absent : r'.store.lookup f = none) (has : r'.Has f place) :
    { c with stage }.Owes f place ∨
      r.store.lookup f = none ∧ r.Has f place ∧ (c.Owes f place → { c with stage }.Owes f place) := by
  obtain ⟨request, before⟩ := c
  cases one with
  | validated valid _ => exact .inr ⟨absent, has, id⟩
  | refused fine present => exact .inr ⟨absent, has, False.elim⟩
  | failed fault => exact .inl fault
  | prepared func path =>
    cases place with
    | functions => exact .inr ⟨absent, has, False.elim⟩
    | rootfsRegistry =>
      by_cases same : func.info.id = f
      · exact .inl ⟨rfl, same⟩
      · refine .inr ⟨absent, ?_, False.elim⟩
        simpa [Registrar.Has, Table.lookup_insert_ite, Ne.symm same] using has
  | stored func =>
    by_cases same : func.info.id = f
    · exact .inl same
    · refine .inr ⟨absent, ?_, fun owes => absurd owes.2 same⟩
      cases place with
      | functions => simpa [Registrar.Has, Table.lookup_insert_ite, Ne.symm same] using has
      | rootfsRegistry => exact has
  | @registered func _ =>
    have other : f ≠ func.info.id := by
      rintro rfl
      simp at absent
    refine .inr ⟨by simpa [Table.lookup_insert_ite, other] using absent, ?_, fun owes => ?_⟩
    · cases place <;> exact has
    · exact absurd owes.symm other
  | lost fine present =>
    refine .inr ⟨absent, has, fun owes => ?_⟩
    cases owes
    exact absurd absent present
  | @removed functionId func asked look =>
    by_cases same : f = functionId
    · exact .inl (same ▸ (h functionId func look).1)
    · refine .inr ⟨by simpa [Table.lookup_erase_ite, same] using absent, ?_, False.elim⟩
      cases place <;> exact has
  | deleted func =>
    cases place with
    | functions =>
      have other : f ≠ func.info.id := by
        rintro rfl
        simp [Registrar.Has] at has
      refine .inr ⟨absent, ?_, fun owes => absurd owes.symm other⟩
      simpa [Registrar.Has, Table.lookup_erase_ite, other] using has
    | rootfsRegistry => exact .inr ⟨absent, has, fun owes => ⟨rfl, owes⟩⟩
  | deregistered func =>
    cases place with
    | functions => exact .inr ⟨absent, has, fun owes => nomatch owes.1⟩
    | rootfsRegistry =>
      have other : f ≠ func.info.id := by
        rintro rfl
        simp [Registrar.Has] at has
      refine .inr ⟨absent, ?_, fun owes => absurd owes.2.symm other⟩
      simpa [Registrar.Has, Table.lookup_erase_ite, other] using has
  | done result => exact .inr ⟨absent, has, id⟩

end CallStep

namespace System
variable {config : Config} {s : System} {id : CallId} {call : Call} {stage : Stage} {r : Registrar}
  {f : FunctionId}

/-- Some call is such as `P` says. -/
def Exists (s : System) (P : Call → Prop) : Prop := ∃ id call, s.calls.lookup id = some call ∧ P call

theorem Exists.insert {P : Call → Prop} (h : s.Exists P)
    (same : ∀ old, s.calls.lookup id = some old → P old → P call) :
    System.Exists ⟨r, s.calls.insert id call⟩ P := by
  obtain ⟨y, old, look, holds⟩ := h
  by_cases eq : y = id
  · subst eq
    exact ⟨y, call, AList.lookup_insert _, same old look holds⟩
  · exact ⟨y, old, (AList.lookup_insert_ne eq).trans look, holds⟩

/-- How a step moves a call on. -/
inductive Moved (s : System) : Step → System → Prop where
  | arrived {id : CallId} {request : Request} (new : s.calls.lookup id = none) :
      Moved s (.arrive id request)
        { s with calls := s.calls.insert id { request, stage := .received } }
  | advanced {id : CallId} {answers : Answers} {call : Call} {stage : Stage} {r : Registrar}
      (look : s.calls.lookup id = some call)
      (one : CallStep call.request s.registrar call.stage stage r) :
      Moved s (.advance id answers) (s.moveCall id call stage r)
  | ignored {i : Step} : Moved s i s

theorem step_moved (i : Step) : s.Moved i (step config i s) := by
  cases i with
  | arrive id request =>
    simp only [step]
    split
    next new => exact .arrived new
    next => exact .ignored
  | advance id answers =>
    simp only [step]
    split
    next => exact .ignored
    next call look =>
      have one : wp (nextStage config answers call.request call.stage) _ s.registrar :=
        nextStage_spec call.request call.stage
      unfold wp at one
      split
      next stage r ran => exact .advanced look (by rwa [ran] at one)
      next status r ran => exact .advanced look (by rwa [ran] at one)
      next msg r ran =>
        rw [ran] at one
        exact one.elim

/-- Every registered function is published, and what is left of another is owed to a call. -/
structure Sound (s : System) : Prop where
  published : s.registrar.Published
  owed : ∀ f place, s.registrar.store.lookup f = none → s.registrar.Has f place →
    s.Exists (Call.Owes f place)
  faithful : ∀ id call, s.calls.lookup id = some call → call.Faithful

theorem Sound.new {registrar : Registrar} (agree : registrar.Agree) (keyed : registrar.Keyed) :
    Sound (new registrar) := by
  refine ⟨agree.published keyed, fun f place absent has => ?_,
    fun id call look => by simp [System.new] at look⟩
  obtain ⟨row, image⟩ := agree f
  cases place with
  | functions => exact absurd (row.trans absent) has
  | rootfsRegistry => exact absurd absent (image.mp has)

theorem Sound.step (h : Sound s) (i : Step) (calm : s.Undisturbed i) :
    Sound (step config i s) := by
  have moved : s.Moved i (System.step config i s) := step_moved i
  generalize System.step config i s = t at moved ⊢
  cases moved with
  | arrived new =>
    refine ⟨h.published, fun f place absent has => ?_,
      Table.forall_insert.mpr ⟨trivial, fun y old _ => h.faithful y old⟩⟩
    refine (h.owed f place absent has).insert fun old look => ?_
    simp [new] at look
  | @advanced id answers call stage r look one =>
    have calm : call.Undisturbed s.registrar := by simpa [System.Undisturbed, look] using calm
    refine ⟨one.published calm h.published, fun f place absent has => ?_,
      Table.forall_insert.mpr
        ⟨one.faithful (h.faithful id call look), fun y old _ => h.faithful y old⟩⟩
    obtain own | ⟨absent, has, owes⟩ := one.left h.published absent has
    · exact ⟨id, _, AList.lookup_insert _, own⟩
    · refine (h.owed f place absent has).insert fun old look' => ?_
      obtain rfl : call = old := by simpa [look] using look'
      exact owes
  | ignored => exact h

/-- All calls have returned, and none with an error of the storage or the runtime. -/
def Returned (s : System) : Prop :=
  ∀ id call, s.calls.lookup id = some call → call.Finished

instance : DecidablePred Returned := fun s => Table.decidableForall s.calls

theorem Sound.agree (h : Sound s) (returned : s.Returned) : s.registrar.Agree := by
  have nothing (f : FunctionId) (place : Place) (absent : s.registrar.store.lookup f = none) :
      ¬ s.registrar.Has f place := by
    rintro has
    obtain ⟨id, call, look, owes⟩ := h.owed f place absent has
    have finished := returned id call look
    unfold Call.Finished at finished
    unfold Call.Owes at owes
    split at finished <;> simp_all
  intro f
  cases look : s.registrar.store.lookup f with
  | none =>
    have row := nothing f .functions look
    have image := nothing f .rootfsRegistry look
    simp only [Registrar.Has, ne_eq, not_not] at row image
    simp [row, image]
  | some func =>
    obtain ⟨-, row, image⟩ := h.published f func look
    simp [row, image]

/-- No call asks to deregister the function. -/
def Undisputed (f : FunctionId) (s : System) : Prop :=
  ∀ id call, s.calls.lookup id = some call → call.request ≠ .deregister f

instance (f : FunctionId) (s : System) : Decidable (s.Undisputed f) := Table.decidableForall s.calls

/-- Nobody has settled yet, or the function is stored as the one call that has won registers it. -/
structure Contest (f : FunctionId) (s : System) : Prop where
  undecided : s.registrar.store.lookup f = none →
    ∀ id call, s.calls.lookup id = some call → ¬ call.Settled f
  decided : ∀ func, s.registrar.store.lookup f = some func →
    ∃ id call, s.calls.lookup id = some call ∧ call.request.function = some func ∧
      call.stage = .returned (.ok ()) ∧
      ∀ other call', s.calls.lookup other = some call' → call'.Won f → other = id

theorem Contest.moveCall (h : Contest f s) (sound : Sound s) (undisputed : s.Undisputed f)
    (look : s.calls.lookup id = some call)
    (one : CallStep call.request s.registrar call.stage stage r) :
    Contest f (s.moveCall id call stage r) := by
  have faithful := sound.faithful id call look
  obtain ⟨absent, func, stored, valid, won⟩ | ⟨same, won, settled⟩ :=
    one.contest faithful (undisputed id call look)
  · have nobody := h.undecided absent
    refine ⟨fun absent' => absurd (absent'.symm.trans stored) nofun, fun func' stored' => ?_⟩
    obtain rfl : func = func' := Option.some.inj (stored.symm.trans stored')
    refine ⟨id, _, AList.lookup_insert _, valid, won, ?_⟩
    refine Table.forall_insert.mpr ⟨fun _ => rfl, fun y old _ look' won' => ?_⟩
    exact absurd ((sound.faithful y old look').settled won') (nobody y old look')
  · refine ⟨fun absent => ?_, fun func stored => ?_⟩
    · have nobody := h.undecided (same.symm.trans absent)
      refine Table.forall_insert.mpr ⟨fun own => ?_, fun y old _ => nobody y old⟩
      obtain before | present := settled own
      · exact nobody id call look before
      · exact present (same.symm.trans absent)
    · obtain ⟨winner, old, look', valid, ok, only⟩ := h.decided func (same.symm.trans stored)
      have unique := Table.forall_insert (m := s.calls) (k := id) (v := { call with stage })
        (P := fun y c => c.Won f → y = winner) |>.mpr
          ⟨fun own => only id call look (won.mp own), fun y old _ => only y old⟩
      by_cases eq : winner = id
      · subst eq
        obtain rfl : call = old := by simpa [look] using look'
        have keyed := (sound.published f func (same.symm.trans stored)).1
        have wins : call.Won f := ⟨(Request.registers_of_function valid).mpr keyed, ok⟩
        exact ⟨winner, _, AList.lookup_insert _, valid, (won.mpr wins).2, unique⟩
      · exact ⟨winner, old, (AList.lookup_insert_ne eq).trans look', valid, ok, unique⟩

theorem Moved.undisputed {i : Step} {t : System} (moved : s.Moved i t) (h : t.Undisputed f) :
    s.Undisputed f := by
  intro y old look
  cases moved with
  | @arrived id request new =>
    have other : y ≠ id := by
      rintro rfl
      simp [new] at look
    exact h y old ((AList.lookup_insert_ne other).trans look)
  | @advanced id _ call stage r look' _ =>
    by_cases eq : y = id
    · subst eq
      obtain rfl : call = old := by simpa [look'] using look
      exact h y { call with stage } (AList.lookup_insert _)
    · exact h y old ((AList.lookup_insert_ne eq).trans look)
  | ignored => exact h y old look

theorem Contest.step (sound : Sound s) (h : s.Undisputed f → Contest f s) (i : Step)
    (undisputed : (step config i s).Undisputed f) : Contest f (step config i s) := by
  have moved : s.Moved i (System.step config i s) := step_moved i
  generalize System.step config i s = t at moved undisputed ⊢
  have before := moved.undisputed undisputed
  have contest := h before
  cases moved with
  | @arrived id request new =>
    refine ⟨fun absent => ?_, fun func stored => ?_⟩
    · exact Table.forall_insert.mpr
        ⟨by simp [Call.Settled, Call.Finished], fun y old _ => contest.undecided absent y old⟩
    · obtain ⟨winner, call, look, valid, ok, only⟩ := contest.decided func stored
      have other : winner ≠ id := by
        rintro rfl
        simp [new] at look
      refine ⟨winner, call, (AList.lookup_insert_ne other).trans look, valid, ok, ?_⟩
      exact Table.forall_insert.mpr ⟨by simp [Call.Won], fun y old _ => only y old⟩
  | advanced look one => exact contest.moveCall sound before look one
  | ignored => exact contest

/-- What holds of a run whose steps do not collide. -/
theorem run_sound {registrar : Registrar} (agree : registrar.Agree) (keyed : registrar.Keyed)
    {steps : List Step} (calm : AllSteps (step config) Undisturbed steps (new registrar)) :
    Sound (run config steps (new registrar)) ∧
      ∀ f, registrar.store.lookup f = none → (run config steps (new registrar)).Undisputed f →
        Contest f (run config steps (new registrar)) := by
  refine AllSteps.invariant (I := fun s => Sound s ∧ ∀ f, registrar.store.lookup f = none →
    s.Undisputed f → Contest f s) ?_ ⟨Sound.new agree keyed, fun f absent _ => ?_⟩ calm
  · rintro s i ⟨sound, contest⟩ undisturbed
    exact ⟨sound.step i undisturbed, fun f absent => Contest.step sound (contest f absent) i⟩
  · refine ⟨fun _ id call look => by simp [new] at look, fun func stored => ?_⟩
    exact absurd (absent.symm.trans stored) nofun

end System

/-- Registration is linearizable with the database as long as its steps do not collide: once all
calls have returned without an error of the storage or the runtime, the three places hold the same
functions, and of the registrations of a function that nobody deregisters exactly one has succeeded,
with the data that is stored. -/
theorem registration_linearizable (config : Config) (registrar : Registrar)
    (agree : registrar.Agree) (keyed : registrar.Keyed) (steps : List Step)
    (calm : AllSteps (System.step config) System.Undisturbed steps (.new registrar)) :
    let s := System.run config steps (.new registrar)
    s.Returned → s.registrar.Agree ∧
      ∀ f, registrar.store.lookup f = none → s.Undisputed f →
        (∃ id call func, s.calls.lookup id = some call ∧ call.request.function = some func ∧
          func.info.id = f) →
        ∃ id call func, s.calls.lookup id = some call ∧ call.request.function = some func ∧
          call.stage = .returned (.ok ()) ∧ s.registrar.store.lookup f = some func ∧
          s.registrar.functions.lookup f = some func ∧
          ∀ other call', s.calls.lookup other = some call' → call'.request.Registers f →
            call'.stage = .returned (.ok ()) → other = id := by
  intro s returned
  obtain ⟨sound, contest⟩ : System.Sound s ∧ _ := System.run_sound agree keyed calm
  refine ⟨sound.agree returned, fun f absent undisputed ⟨id, call, func, look, valid, same⟩ => ?_⟩
  obtain ⟨undecided, decided⟩ := contest f absent undisputed
  have settled : call.Settled f := ⟨⟨func, valid, same⟩, returned id call look⟩
  obtain ⟨stored, present⟩ : ∃ stored, s.registrar.store.lookup f = some stored :=
    Option.ne_none_iff_exists'.mp fun absent => undecided absent id call look settled
  obtain ⟨winner, won, look', valid', ok, only⟩ := decided stored present
  refine ⟨winner, won, stored, look', valid', ok, present, ?_, ?_⟩
  · exact (sound.published f stored present).2.1
  · exact fun other call' look registers ok => only other call' look ⟨registers, ok⟩

section Example

def exampleConfig : Config where
  uvmsRootfsPath := "/rootfs"
  idPrefix _ := some "f"
  showBytes _ := ""

/-- A function under the id 1. -/
def exampleFunction (memory : ByteUnit) : FcFunctionInfo :=
  { id := 1, memory, vcpuCount := 1, entrypoint := "" }

def exampleRequest (memory : ByteUnit) : Request :=
  .register { admission := none, functionInfo := .ok (exampleFunction memory), debug := "" }

/-- A step that meets neither an error nor a worker. -/
def plain (id : CallId) : Step := .advance id ⟨none, .none, 0⟩

/-- Two calls register a function under one id, with different memory; both are validated and
prepared before `order` says who takes the two last steps when. -/
def twoRegistrations (order : List CallId) : List Step :=
  [.arrive 0 (exampleRequest 1), .arrive 1 (exampleRequest 2)] ++
    ([0, 1, 0, 1] ++ order).map plain

def afterTwo (order : List CallId) : System :=
  System.run exampleConfig (twoRegistrations order) (.new ⟨∅, ∅, ∅⟩)

/-- The one that is overtaken at the database wins, and the row is not its own. -/
theorem registration_raced :
    let s := afterTwo [0, 1, 0, 1]
    s.Returned ∧ s.Undisputed 1 ∧
      s.registrar.store.lookup 1 = some ⟨exampleFunction 1, none⟩ ∧
      s.registrar.functions.lookup 1 = some ⟨exampleFunction 2, none⟩ ∧ ¬ s.registrar.Agree := by
  refine ⟨by decide +kernel, by decide +kernel, rfl, rfl, fun agree => ?_⟩
  have row : some (RegisteredFunction.mk (exampleFunction 2) none) =
      some ⟨exampleFunction 1, none⟩ := (agree 1).1
  simp [exampleFunction] at row

/-- The one that comes last to the database is the first to come to the store. -/
theorem registration_linearizable_two :
    let s := afterTwo [0, 1, 1, 0]
    s.registrar.Agree ∧ ∃ func, s.registrar.store.lookup 1 = some func ∧
      s.registrar.functions.lookup 1 = some func := by
  have start : Registrar.Agree ⟨∅, ∅, ∅⟩ := fun f => by simp
  obtain ⟨agree, one⟩ := registration_linearizable exampleConfig ⟨∅, ∅, ∅⟩ start
    (fun f func look => by simp at look) (twoRegistrations [0, 1, 1, 0]) (by decide +kernel)
    (by decide +kernel)
  obtain ⟨_, _, func, _, _, _, stored, row, _⟩ := one 1 rfl (by decide +kernel)
    ⟨0, _, ⟨exampleFunction 1, none⟩, rfl, rfl, rfl⟩
  exact ⟨agree, func, stored, row⟩

end Example

end Metadata
end Snaplace
