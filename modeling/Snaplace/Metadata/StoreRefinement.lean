import Snaplace.Metadata.Stores

/-!
# The two stores are one store

What a store is for: it maps each function to its metadata, and it can say where a worker is. The
map decides every answer but the one to a search, which may be any function that has the worker in
the set that is searched. Both stores are this store, until a panic poisons the lock of the one that
has a lock.
-/
namespace Snaplace
open Foundation Foundation.Handler
open Metadata (RegisteredFunction)
open Persistence (Runtime)
open Pool (Stage StoreError functionPanic)

namespace Stores
variable {Info : Type}

/-- The functions of a store. -/
abbrev Contents (Info : Type) : Type := FunctionId → Option (Fmd Info)

def contents (m : Map Info) : Contents Info := fun f => m.lookup f

@[simp] theorem contents_apply (m : Map Info) (f : FunctionId) : contents m f = m.lookup f := rfl

@[simp] theorem contents_insert (m : Map Info) (f : FunctionId) (fmd : Fmd Info) :
    contents (m.insert f fmd) = Function.update (contents m) f (some fmd) := by
  funext g
  simp only [contents, Table.lookup_insert_ite, Function.update_apply]

@[simp] theorem contents_erase (m : Map Info) (f : FunctionId) :
    contents (m.erase f) = Function.update (contents m) f none := by
  funext g
  simp only [contents, Table.lookup_erase_ite, Function.update_apply]

namespace Contents

/-- The function has the worker in the set of the stage. -/
def Has (c : Contents Info) (stage : Stage) (f : FunctionId) (worker : WorkerId) : Prop :=
  ∃ fmd, c f = some fmd ∧ worker ∈ fmd.workers stage

/-- What can be seen of all functions at once. -/
structure View (c : Contents Info) where
  found : Stage → WorkerId → Option FunctionId
  items : Stage → Multiset (FunctionId × WorkerId)
  has_of_found {stage : Stage} {worker : WorkerId} {f : FunctionId} :
    found stage worker = some f → c.Has stage f worker
  found_none {stage : Stage} {worker : WorkerId} {f : FunctionId} :
    found stage worker = none → ¬ c.Has stage f worker
  items_nodup (stage : Stage) : (items stage).Nodup
  mem_items {stage : Stage} {f : FunctionId} {worker : WorkerId} :
    (f, worker) ∈ items stage ↔ c.Has stage f worker

theorem View.items_eq {c : Contents Info} (view view' : c.View) (stage : Stage) :
    view.items stage = view'.items stage :=
  (Multiset.Nodup.ext (view.items_nodup stage) (view'.items_nodup stage)).mpr fun _ =>
    view.mem_items.trans view'.mem_items.symm

theorem View.found_eq {c : Contents Info} (view view' : c.View) {stage : Stage} {worker : WorkerId}
    (one : ∀ f g, c.Has stage f worker → c.Has stage g worker → f = g) :
    view.found stage worker = view'.found stage worker := by
  cases here : view.found stage worker with
  | none =>
    cases there : view'.found stage worker with
    | none => rfl
    | some f => exact absurd (view'.has_of_found there) (view.found_none here)
  | some f =>
    have has := view.has_of_found here
    cases there : view'.found stage worker with
    | none => exact absurd has (view'.found_none there)
    | some g => rw [one f g has (view'.has_of_found there)]

/-- The answer to an operation on a function's metadata, and the functions after it. -/
def withFmd (c : Contents Info) (f : FunctionId)
    (answer : Fmd Info → Answer Failure (Reply Info) × Contents Info) :
    Answer Failure (Reply Info) × Contents Info :=
  match c f with
  | some fmd => answer fmd
  | none => (.panicked functionPanic, c)

def put (c : Contents Info) (f : FunctionId) (fmd : Fmd Info) : Contents Info :=
  Function.update c f (some fmd)

/-- The worker changes sets within a function. -/
def move (c : Contents Info) (transition : Transition) (worker : WorkerId) (f : FunctionId) :
    Answer Failure (Reply Info) × Contents Info :=
  match c f with
  | some fmd =>
    if worker ∈ fmd.workers transition.source then
      let removed := fmd.remove transition.source worker
      let moved := c.put f (removed.insert transition.target worker)
      if worker ∈ removed.workers transition.target then
        (.failed (.store (.workerIdCollision worker)), moved)
      else
        (.returned .unit, moved)
    else
      (.failed (transition.notFound worker), c)
  | none => (.failed (.store (.functionNotFound f)), c)

variable [Runtime Info]

/-- The store as its callers see it. -/
def spec {c : Contents Info} (view : c.View) :
    Op Info → Answer Failure (Reply Info) × Contents Info
  | .functionExists f => (.returned (.bool (c f).isSome), c)
  | .functionMemory f =>
    c.withFmd f fun fmd => (.returned (.memory (Runtime.memory fmd.registeredFunction.info)), c)
  | .registeredFunction f =>
    c.withFmd f fun fmd => (.returned (.registered fmd.registeredFunction), c)
  | .registerFunction function =>
    let id := Runtime.id function.info
    if (c id).isSome then
      (.failed (.registration (.alreadyExists id)), c)
    else
      (.returned .unit, c.put id (.new function))
  | .deregisterFunction f =>
    match c f with
    | some fmd =>
      if 0 < fmd.workersCount then
        (.failed (.registration (.inUse f s!"{fmd.workersCount} Workers alive")), c)
      else
        (.returned (.registered fmd.registeredFunction), Function.update c f none)
    | none => (.failed (.registration (.notFound f)), c)
  | .find stage worker => (.returned (.function (view.found stage worker)), c)
  | .findRemove stage worker =>
    match view.found stage worker with
    | some f =>
      c.withFmd f fun fmd => (.returned (.function (some f)), c.put f (fmd.remove stage worker))
    | none => (.returned (.function none), c)
  | .remove stage worker f =>
    c.withFmd f fun fmd =>
      (.returned (.bool (worker ∈ fmd.workers stage)), c.put f (fmd.remove stage worker))
  | .insert stage worker f =>
    c.withFmd f fun fmd =>
      (if worker ∈ fmd.workers stage then .failed (.store (.workerIdCollision worker))
        else .returned .unit, c.put f (fmd.insert stage worker))
  | .num stage none => (.returned (.count (view.items stage).card), c)
  | .num stage (some f) =>
    (.returned (.count (((c f).map fun fmd => (fmd.workers stage).card).getD 0)), c)
  | .iter stage => (.returned (.workers (view.items stage)), c)
  | .iterAll =>
    (.returned (.workers (view.items .idle + view.items .active + view.items .dying)), c)
  | .transition transition worker (some f) => c.move transition worker f
  | .transition transition worker none =>
    match view.found transition.source worker with
    | some f => c.move transition worker f
    | none => (.failed (transition.notFound worker), c)

/-- What a store may answer to an operation, and how it may go on. -/
def Spec (c : Contents Info) (op : Op Info) (answer : Answer Failure (Reply Info))
    (next : Contents Info) : Prop :=
  ∃ view : c.View, c.spec view op = (answer, next)

end Contents

/-- The set and the worker that an operation looks for in all functions. -/
def Op.searched : Op Info → Option (Stage × WorkerId)
  | .find stage worker => some (stage, worker)
  | .findRemove stage worker => some (stage, worker)
  | .transition t worker none => some (t.source, worker)
  | _ => none

namespace Contents

/-- One function at most has the worker that is looked for in the set that is searched. -/
def Unambiguous (c : Contents Info) (op : Op Info) : Prop :=
  ∀ stage worker, op.searched = some (stage, worker) →
    ∀ f g, c.Has stage f worker → c.Has stage g worker → f = g

variable [Runtime Info]

theorem spec_determined {c : Contents Info} {op : Op Info} (one : c.Unambiguous op)
    (view view' : c.View) : c.spec view op = c.spec view' op := by
  have items := view.items_eq view'
  cases op with
  | find stage worker => simp only [spec, view.found_eq view' (one stage worker rfl)]
  | findRemove stage worker => simp only [spec, view.found_eq view' (one stage worker rfl)]
  | transition t worker f =>
    cases f with
    | some f => rfl
    | none => simp only [spec, view.found_eq view' (one t.source worker rfl)]
  | num stage f =>
    cases f with
    | some f => rfl
    | none => simp only [spec, items]
  | iter stage => simp only [spec, items]
  | iterAll => simp only [spec, items]
  | _ => rfl

end Contents

/-! ## What a search and an iterator see -/

section Views
variable {m : Map Info} {rank : Rank} {stage : Stage} {worker : WorkerId} {f : FunctionId}

theorem search_eq_some (found : search rank stage worker m = some f) :
    (contents m).Has stage f worker := by
  obtain ⟨⟨fid, fmd⟩, mem, here⟩ := List.exists_of_findSome?_eq_some found
  dsimp only at here
  split at here
  next has =>
    cases here
    exact ⟨fmd, Table.mem_ordered.mp mem, has⟩
  next => contradiction

theorem search_eq_none (absent : search rank stage worker m = none) :
    ¬ (contents m).Has stage f worker := by
  rintro ⟨fmd, look, has⟩
  have nowhere := List.findSome?_eq_none_iff.mp absent (f, fmd) (Table.mem_ordered.mpr look)
  simp [has] at nowhere

theorem mem_items : (f, worker) ∈ items stage m ↔ (contents m).Has stage f worker := by
  simp only [items, Multiset.mem_bind, Multiset.mem_coe, Multiset.mem_map, Finset.mem_val,
    Contents.Has, contents, ← Table.mem_entries_iff]
  constructor
  · rintro ⟨⟨g, fmd⟩, mem, w, has, same⟩
    cases same
    exact ⟨fmd, mem, has⟩
  · rintro ⟨fmd, mem, has⟩
    exact ⟨⟨f, fmd⟩, mem, worker, has, rfl⟩

theorem items_nodup (stage : Stage) (m : Map Info) : (items stage m).Nodup := by
  refine Multiset.nodup_bind.mpr ⟨fun e _ => ?_, ?_⟩
  · exact (e.2.workers stage).nodup.map (Prod.mk_right_injective e.1)
  · have : Std.Symm fun e e' : (_ : FunctionId) × Fmd Info =>
        Disjoint ((e.2.workers stage).val.map (Prod.mk e.1))
          ((e'.2.workers stage).val.map (Prod.mk e'.1)) := ⟨fun _ _ apart => apart.symm⟩
    rw [Multiset.pairwise_coe_iff_pairwise]
    refine (List.nodupKeys_iff_pairwise.mp m.nodupKeys).imp fun {e e'} other => ?_
    rw [Function.onFun, Multiset.disjoint_left]
    intro pair here there
    obtain ⟨_, -, rfl⟩ := Multiset.mem_map.mp here
    obtain ⟨_, -, same⟩ := Multiset.mem_map.mp there
    exact other (congrArg Prod.fst same).symm

theorem card_items (stage : Stage) (m : Map Info) :
    (items stage m).card = Table.total (fun _ fmd => (fmd.workers stage).card) m := by
  simp [items, Table.total, Multiset.card_bind, Function.comp_def]

end Views

/-- What a traversal in the order of `rank` sees. -/
def viewOf (rank : Rank) (m : Map Info) : (contents m).View where
  found stage worker := search rank stage worker m
  items stage := items stage m
  has_of_found := search_eq_some
  found_none := search_eq_none
  items_nodup stage := items_nodup stage m
  mem_items := mem_items

@[simp] theorem viewOf_found (rank : Rank) (m : Map Info) (stage : Stage) (worker : WorkerId) :
    (viewOf rank m).found stage worker = search rank stage worker m := rfl

@[simp] theorem viewOf_items (rank : Rank) (m : Map Info) (stage : Stage) :
    (viewOf rank m).items stage = items stage m := rfl

/-! ## Both stores are the store -/

section Implementations

/-- What the caller sees is what the specification says, from the view of a traversal. -/
abbrev Post.spec [Runtime Info] {σ : Type} (value : σ → Map Info) (rank : Rank) (m : Map Info) (op : Op Info) :
    Post σ Failure (Reply Info) :=
  Post.seen (fun s => contents (value s)) fun answer next =>
    (contents m).spec (viewOf rank m) op = (answer, next)

namespace DashMapStore

theorem bind_workersByFunctionId (stage : Stage) (m : Map Info) :
    ((workersByFunctionId stage m).bind fun (fid, wids) => wids.map (Prod.mk fid)) =
      items stage m :=
  Multiset.bind_map ..

theorem move_spec (t : Transition) (worker : WorkerId) (f : FunctionId) (m : Map Info) :
    wp (move t worker f)
      { ok := fun _ s => (contents m).move t worker f = (.returned .unit, contents s)
        err := fun e s => (contents m).move t worker f = (.failed e, contents s)
        panic := fun _ _ => False } m := by
  unfold move Contents.move
  cases look : m.lookup f with
  | none => simp [look]
  | some fmd =>
    by_cases has : worker ∈ fmd.workers t.source
    · by_cases collides : worker ∈ (fmd.remove t.source worker).workers t.target <;>
        simp [setFmd, Contents.put, look, has, collides]
    · simp [look, has]

variable [Runtime Info]

theorem transition_spec (rank : Rank) (t : Transition) (worker : WorkerId)
    (f : Option FunctionId) (m : Map Info) :
    wp (transition rank t worker f)
      { ok := fun _ s => (contents m).spec (viewOf rank m) (.transition t worker f) =
          (.returned .unit, contents s)
        err := fun e s => (contents m).spec (viewOf rank m) (.transition t worker f) =
          (.failed e, contents s)
        panic := fun _ _ => False } m := by
  cases f with
  | some f => exact move_spec t worker f m
  | none =>
    cases found : search rank t.source worker m with
    | none => simp [transition, find, Contents.spec, found]
    | some f =>
      simp only [transition, find, Contents.spec, viewOf_found, wp_bind, wp_get, wp_pure, found]
      exact move_spec t worker f m

theorem call_spec (rank : Rank) (op : Op Info) (m : Map Info) :
    wp (call rank op) (Post.spec id rank m op) m := by
  cases op with
  | functionExists f => simp [call, functionExists, Post.seen, Contents.spec]
  | functionMemory f =>
    cases look : m.lookup f <;>
      simp [call, functionMemory, fmdOf, Post.seen, Contents.spec, Contents.withFmd, look]
  | registeredFunction f =>
    cases look : m.lookup f <;>
      simp [call, registeredFunction, fmdOf, Post.seen, Contents.spec, Contents.withFmd, look]
  | registerFunction function =>
    cases look : m.lookup (Runtime.id function.info) <;>
      simp [call, registerFunction, setFmd, Post.seen, Contents.spec, Contents.put, look]
  | deregisterFunction f =>
    cases look : m.lookup f with
    | none => simp [call, deregisterFunction, Post.seen, Contents.spec, look]
    | some fmd =>
      by_cases used : 0 < fmd.workersCount <;>
        simp [call, deregisterFunction, Post.seen, Contents.spec, look, used]
  | find stage worker => simp [call, find, Post.seen, Contents.spec]
  | findRemove stage worker =>
    cases found : search rank stage worker m with
    | none => simp [call, findRemove, find, Post.seen, Contents.spec, found]
    | some f =>
      obtain ⟨fmd, look, has⟩ := search_eq_some found
      rw [contents_apply] at look
      simp [call, findRemove, find, remove, fmdOf, setFmd, Post.seen, Contents.spec,
        Contents.withFmd, Contents.put, found, look, has]
  | remove stage worker f =>
    cases look : m.lookup f <;>
      simp [call, remove, fmdOf, setFmd, Post.seen, Contents.spec, Contents.withFmd, Contents.put,
        look]
  | insert stage worker f =>
    cases look : m.lookup f with
    | none => simp [call, insert, fmdOf, Post.seen, Contents.spec, Contents.withFmd, look]
    | some fmd =>
      by_cases has : worker ∈ fmd.workers stage <;>
        simp [call, insert, fmdOf, setFmd, Post.seen, Contents.spec, Contents.withFmd, Contents.put,
          look, has]
  | num stage f =>
    cases f with
    | none => simp [call, num, Post.seen, Contents.spec, card_items]
    | some f => simp [call, num, Post.seen, Contents.spec]
  | iter stage => simp [call, iter, Post.seen, Contents.spec, bind_workersByFunctionId]
  | iterAll => simp [call, iterAll, iter, Post.seen, Contents.spec, bind_workersByFunctionId]
  | transition t worker f =>
    cases t <;>
      exact (wp_map ..).mpr (wp_mono (transition_spec rank _ worker f m) (fun _ _ => id)
        (fun _ _ => id) fun _ _ => False.elim)

end DashMapStore

namespace StdHashMapFmdStore

theorem move_spec (t : Transition) (worker : WorkerId) (f : FunctionId) (m : Map Info) :
    wp (move t worker f)
      { ok := fun _ s => (contents m).move t worker f = (.returned .unit, contents s.value)
        err := fun e s => (contents m).move t worker f = (.failed e, contents s.value)
        panic := fun _ _ => False } ⟨m, false⟩ := by
  unfold move write Contents.move
  cases look : m.lookup f with
  | none => simp [look]
  | some fmd =>
    by_cases has : worker ∈ fmd.workers t.source
    · by_cases collides : worker ∈ (fmd.remove t.source worker).workers t.target <;>
        simp [setFmd, fmdOf, Contents.put, look, has, collides]
    · simp [look, has]

/-- The traversal ends at the function that a search would find. -/
theorem removeFirst_spec (worker : WorkerId) (functions : List (FunctionId × Fmd Info))
    (m : Map Info) :
    wp (removeFirst worker functions)
      { ok := fun found s =>
          found = functions.findSome? (fun (fid, fmd) =>
            if worker ∈ fmd.workers .dying then some fid else none) ∧
          match found with
          | some f => ∃ fmd, (f, fmd) ∈ functions ∧ s = m.insert f (fmd.remove .dying worker)
          | none => s = m
        err := fun _ _ => False
        panic := fun _ _ => False } m := by
  induction functions with
  | nil => exact ⟨rfl, rfl⟩
  | cons function rest ih =>
    obtain ⟨fid, fmd⟩ := function
    unfold removeFirst
    by_cases has : worker ∈ fmd.workers .dying
    · simp only [if_pos has, setFmd, wp_bind, wp_modify, wp_pure, List.findSome?_cons]
      exact ⟨trivial, fmd, List.mem_cons_self, rfl⟩
    · simp only [if_neg has, List.findSome?_cons]
      refine wp_mono ih ?_ (fun _ _ => id) fun _ _ => id
      rintro found s ⟨same, removed⟩
      refine ⟨same, ?_⟩
      cases found with
      | none => exact removed
      | some f =>
        obtain ⟨fmd', mem, rfl⟩ := removed
        exact ⟨fmd', List.mem_cons_of_mem _ mem, rfl⟩

variable [Runtime Info]

theorem transition_spec (rank : Rank) (t : Transition) (worker : WorkerId)
    (f : Option FunctionId) (m : Map Info) :
    wp (transition rank t worker f)
      { ok := fun _ s => (contents m).spec (viewOf rank m) (.transition t worker f) =
          (.returned .unit, contents s.value)
        err := fun e s => (contents m).spec (viewOf rank m) (.transition t worker f) =
          (.failed e, contents s.value)
        panic := fun _ _ => False } ⟨m, false⟩ := by
  cases f with
  | some f => exact move_spec t worker f m
  | none =>
    cases found : search rank t.source worker m with
    | none => simp [transition, find, read, Contents.spec, found]
    | some f =>
      simp only [transition, find, read, Contents.spec, viewOf_found, wp_bind, RwLock.wp_read,
        wp_get, wp_pure, found]
      exact move_spec t worker f m

theorem findRemove_spec (rank : Rank) (stage : Stage) (worker : WorkerId) (m : Map Info) :
    wp (findRemove rank stage worker)
      { ok := fun found s => (contents m).spec (viewOf rank m) (.findRemove stage worker) =
          (.returned (.function found), contents s.value)
        err := fun _ _ => False
        panic := fun _ _ => False } ⟨m, false⟩ := by
  cases found : search rank stage worker m with
  | none => simp [findRemove, find, read, Contents.spec, found]
  | some f =>
    obtain ⟨fmd, look, has⟩ := search_eq_some found
    rw [contents_apply] at look
    simp [findRemove, find, remove, read, write, fmdOf, setFmd, Contents.spec, Contents.withFmd,
      Contents.put, found, look, has]

/-- One traversal under the write lock does what a search and a removal do. -/
theorem findRemoveDyingWorker_spec (rank : Rank) (worker : WorkerId) (m : Map Info) :
    wp (findRemoveDyingWorker rank worker)
      { ok := fun found s => (contents m).spec (viewOf rank m) (.findRemove .dying worker) =
          (.returned (.function found), contents s.value)
        err := fun _ _ => False
        panic := fun _ _ => False } ⟨m, false⟩ := by
  simp only [findRemoveDyingWorker, write, RwLock.wp_write, wp_bind, wp_get]
  refine wp_mono (removeFirst_spec worker _ m) ?_ (fun _ _ => id) fun _ _ => id
  rintro found s ⟨same, removed⟩
  change found = search rank .dying worker m at same
  subst same
  cases found : search rank .dying worker m with
  | none =>
    rw [found] at removed
    simp [Contents.spec, found, removed]
  | some f =>
    rw [found] at removed
    obtain ⟨fmd, mem, rfl⟩ := removed
    have look := Table.mem_ordered.mp mem
    simp [Contents.spec, Contents.withFmd, Contents.put, found, look]

theorem call_spec (rank : Rank) (op : Op Info) (m : Map Info) :
    wp (call rank op) (Post.spec RwLock.value rank m op) ⟨m, false⟩ := by
  cases op with
  | functionExists f => simp [call, functionExists, read, Post.seen, Contents.spec]
  | functionMemory f =>
    cases look : m.lookup f <;>
      simp [call, functionMemory, read, fmdOf, Post.seen, Contents.spec, Contents.withFmd, look]
  | registeredFunction f =>
    cases look : m.lookup f <;>
      simp [call, registeredFunction, read, fmdOf, Post.seen, Contents.spec, Contents.withFmd, look]
  | registerFunction function =>
    cases look : m.lookup (Runtime.id function.info) <;>
      simp [call, registerFunction, write, setFmd, Post.seen, Contents.spec, Contents.put, look]
  | deregisterFunction f =>
    cases look : m.lookup f with
    | none => simp [call, deregisterFunction, write, Post.seen, Contents.spec, look]
    | some fmd =>
      by_cases used : 0 < fmd.workersCount <;>
        simp [call, deregisterFunction, write, fmdOf, Post.seen, Contents.spec, look, used]
  | find stage worker => simp [call, find, read, Post.seen, Contents.spec]
  | findRemove stage worker =>
    have spec : wp (call rank (.findRemove stage worker) : StoreM Info (Reply Info))
        { ok := fun reply s => (contents m).spec (viewOf rank m) (.findRemove stage worker) =
            (.returned reply, contents s.value)
          err := fun _ _ => False
          panic := fun _ _ => False } ⟨m, false⟩ := by
      cases stage with
      | active => exact (wp_map ..).mpr (findRemove_spec rank .active worker m)
      | idle => exact (wp_map ..).mpr (findRemove_spec rank .idle worker m)
      | dying => exact (wp_map ..).mpr (findRemoveDyingWorker_spec rank worker m)
    exact wp_mono spec (fun _ _ => id) (fun _ _ => False.elim) fun _ _ => False.elim
  | remove stage worker f =>
    cases look : m.lookup f <;>
      simp [call, remove, write, fmdOf, setFmd, Post.seen, Contents.spec, Contents.withFmd,
        Contents.put, look]
  | insert stage worker f =>
    cases look : m.lookup f with
    | none => simp [call, insert, write, fmdOf, Post.seen, Contents.spec, Contents.withFmd, look]
    | some fmd =>
      by_cases has : worker ∈ fmd.workers stage <;>
        simp [call, insert, write, fmdOf, setFmd, Post.seen, Contents.spec, Contents.withFmd,
          Contents.put, look, has]
  | num stage f =>
    cases f with
    | none => simp [call, num, read, Post.seen, Contents.spec, card_items]
    | some f => simp [call, num, read, Post.seen, Contents.spec]
  | iter stage => simp [call, iter, read, Post.seen, Contents.spec]
  | iterAll => simp [call, iterAll, read, Post.seen, Contents.spec]
  | transition t worker f =>
    cases t <;>
      exact (wp_map ..).mpr (wp_mono (transition_spec rank _ worker f m) (fun _ _ => id)
        (fun _ _ => id) fun _ _ => False.elim)

end StdHashMapFmdStore

end Implementations

/-! ## Where a worker can be -/

namespace Contents
variable {c c' : Contents Info} {f : FunctionId} {fmd : Fmd Info} {worker : WorkerId}

/-- The sets of all functions are pairwise disjoint. -/
def Separate (c : Contents Info) : Prop :=
  ∀ worker stage stage' f g, c.Has stage f worker → c.Has stage' g worker → f = g ∧ stage = stage'

/-- A worker that is inserted is in no set. -/
def Fresh (c : Contents Info) : Op Info → Prop
  | .insert _ worker _ => ∀ stage f, ¬ c.Has stage f worker
  | _ => True

theorem Separate.unambiguous (h : c.Separate) (op : Op Info) : c.Unambiguous op := by
  intro stage worker _ f g here there
  exact (h worker stage stage f g here there).1

theorem Separate.of_has (h : c.Separate)
    (fewer : ∀ stage f worker, c'.Has stage f worker → c.Has stage f worker) : c'.Separate := by
  intro worker stage stage' f g here there
  exact h worker stage stage' f g (fewer _ _ _ here) (fewer _ _ _ there)

theorem has_put {stage : Stage} {g : FunctionId} :
    (c.put f fmd).Has stage g worker ↔
      if g = f then worker ∈ fmd.workers stage else c.Has stage g worker := by
  unfold Has put
  by_cases eq : g = f
  · subst eq
    simp
  · simp [eq]

theorem has_put_remove (look : c f = some fmd) {stage stage' : Stage} {g : FunctionId}
    {w : WorkerId} (has : (c.put f (fmd.remove stage worker)).Has stage' g w) :
    c.Has stage' g w := by
  rw [has_put] at has
  split at has
  next same =>
    subst same
    refine ⟨fmd, look, ?_⟩
    by_cases eq : stage' = stage
    · subst eq
      simp only [Fmd.remove, Function.update_self, Finset.mem_erase] at has
      exact has.2
    · simpa [Fmd.remove, eq] using has
  next => exact has

theorem has_put_insert (look : c f = some fmd) {stage stage' : Stage} {g : FunctionId}
    {w : WorkerId} (has : (c.put f (fmd.insert stage worker)).Has stage' g w) :
    (w = worker ∧ g = f ∧ stage' = stage) ∨ c.Has stage' g w := by
  rw [has_put] at has
  split at has
  next same =>
    subst same
    by_cases eq : stage' = stage
    · subst eq
      simp only [Fmd.insert, Function.update_self, Finset.mem_insert] at has
      rcases has with own | old
      · exact .inl ⟨own, rfl, rfl⟩
      · exact .inr ⟨fmd, look, old⟩
    · exact .inr ⟨fmd, look, by simpa [Fmd.insert, eq] using has⟩
  next => exact .inr has

/-- A worker that is in no other set may enter one. -/
theorem Separate.insert (h : c.Separate) (look : c f = some fmd) {stage : Stage}
    (fresh : ∀ stage' g, c.Has stage' g worker → g = f ∧ stage' = stage) :
    (c.put f (fmd.insert stage worker)).Separate := by
  intro w s t g k here there
  rcases has_put_insert look here with ⟨own, rfl, rfl⟩ | old <;>
    rcases has_put_insert look there with ⟨own', rfl, rfl⟩ | old'
  · exact ⟨rfl, rfl⟩
  · subst own
    obtain ⟨same, stage⟩ := fresh t k old'
    exact ⟨same.symm, stage.symm⟩
  · subst own'
    exact fresh s g old
  · exact h w s t g k old old'

theorem put_put (c : Contents Info) (f : FunctionId) (fmd fmd' : Fmd Info) :
    (c.put f fmd).put f fmd' = c.put f fmd' :=
  Function.update_idem ..

theorem Separate.move (h : c.Separate) (look : c f = some fmd) {t : Transition}
    (has : worker ∈ fmd.workers t.source) :
    (c.put f ((fmd.remove t.source worker).insert t.target worker)).Separate := by
  have removed : (c.put f (fmd.remove t.source worker)).Separate :=
    h.of_has fun stage g w => has_put_remove look
  rw [← put_put c f (fmd.remove t.source worker)]
  refine removed.insert (Function.update_self ..) fun stage g still => ?_
  obtain ⟨rfl, rfl⟩ := h worker _ _ _ _ (has_put_remove look still) ⟨fmd, look, has⟩
  rw [has_put, if_pos rfl] at still
  simp [Fmd.remove] at still

/-- Nothing is in the way of a worker that changes sets. -/
theorem Separate.move_failed (h : c.Separate) {t : Transition} {e : Failure}
    (failed : (c.move t worker f).1 = .failed e) : (c.move t worker f).2 = c := by
  unfold Contents.move at failed ⊢
  split
  next fmd look =>
    split
    next has =>
      rw [look] at failed
      simp only [if_pos has] at failed
      split at failed
      next collides =>
        have both : c.Has t.target f worker := by
          have put : (c.put f (fmd.remove t.source worker)).Has t.target f worker := by
            rw [has_put, if_pos rfl]
            exact collides
          exact has_put_remove look put
        have same := (h worker _ _ _ _ both ⟨fmd, look, has⟩).2
        cases t <;> contradiction
      next => contradiction
    next => rfl
  next => rfl

variable [Runtime Info] {op : Op Info} (view : c.View)

theorem Separate.spec (h : c.Separate) (fresh : c.Fresh op) : (c.spec view op).2.Separate := by
  have moved (t : Transition) (worker : WorkerId) (f : FunctionId) :
      (c.move t worker f).2.Separate := by
    unfold Contents.move
    split
    next fmd look =>
      split
      next has =>
        dsimp only
        split <;> exact h.move look has
      next => exact h
    next => exact h
  have removed (stage : Stage) (worker : WorkerId) (f : FunctionId) {fmd : Fmd Info}
      (look : c f = some fmd) : (c.put f (fmd.remove stage worker)).Separate :=
    h.of_has fun _ _ _ => has_put_remove look
  cases op with
  | functionMemory f =>
    simp only [Contents.spec, withFmd]
    split <;> exact h
  | registeredFunction f =>
    simp only [Contents.spec, withFmd]
    split <;> exact h
  | registerFunction function =>
    simp only [Contents.spec]
    split
    · exact h
    · refine h.of_has fun stage g worker has => ?_
      rw [has_put] at has
      split at has
      next => simp [Fmd.new] at has
      next => exact has
  | deregisterFunction f =>
    simp only [Contents.spec]
    split
    next fmd look =>
      split
      · exact h
      · refine h.of_has fun stage g worker ⟨fmd', look', has⟩ => ?_
        by_cases eq : g = f
        · simp [eq] at look'
        · exact ⟨fmd', by simpa [eq] using look', has⟩
    next => exact h
  | findRemove stage worker =>
    simp only [Contents.spec]
    split
    next f found =>
      unfold withFmd
      split
      next fmd look => exact removed stage worker f look
      next => exact h
    next => exact h
  | remove stage worker f =>
    simp only [Contents.spec, withFmd]
    split
    next fmd look => exact removed stage worker f look
    next => exact h
  | insert stage worker f =>
    simp only [Contents.spec, withFmd]
    split
    next fmd look => exact h.insert look fun stage' g has => absurd has (fresh stage' g)
    next => exact h
  | num stage f => cases f <;> exact h
  | transition t worker f =>
    cases f with
    | some f => exact moved t worker f
    | none =>
      simp only [Contents.spec]
      split
      next f found => exact moved t worker f
      next => exact h
  | _ => exact h

theorem Separate.transition_failed (h : c.Separate) {t : Transition} {f : Option FunctionId}
    {e : Failure} (failed : (c.spec view (.transition t worker f)).1 = .failed e) :
    (c.spec view (.transition t worker f)).2 = c := by
  cases f with
  | some f => exact h.move_failed failed
  | none =>
    simp only [Contents.spec] at failed ⊢
    split
    next f found =>
      rw [found] at failed
      exact h.move_failed failed
    next => rfl

end Contents

/-! ## Sequences of operations -/

section Sequences
variable [Runtime Info]

variable (Info) in
/-- An operation, and the orders in which the two maps are traversed if it does so. -/
structure Call where
  op : Op Info
  stdRank : Rank
  dashRank : Rank

namespace StdHashMapFmdStore

def handle (i : Call Info) : StoreM Info (Reply Info) := call i.stdRank i.op

/-- The lock is not poisoned, and the operation has one function at most to find. -/
def Clear (s : Store Info) (i : Call Info) : Prop :=
  s.poisoned = false ∧ (contents s.value).Unambiguous i.op

/-- Whoever comes to a poisoned lock panics. -/
theorem call_poisoned (rank : Rank) (op : Op Info) (m : Map Info) :
    wp (call rank op)
      { ok := fun _ _ => False
        err := fun _ _ => False
        panic := fun msg s => msg = lockPanic ∧ s = ⟨m, true⟩ } ⟨m, true⟩ := by
  cases op with
  | findRemove stage worker => cases stage <;> exact ⟨rfl, rfl⟩
  | num stage f => cases f <;> exact ⟨rfl, rfl⟩
  | transition t worker f => cases t <;> cases f <;> exact ⟨rfl, rfl⟩
  | _ => exact ⟨rfl, rfl⟩

theorem implements {s : Store Info} {i : Call Info} (clear : s.poisoned = false) :
    Implements (fun c i => c.Spec i.op) handle (fun s => contents s.value) s i := by
  obtain ⟨m, poisoned⟩ := s
  subst clear
  exact ⟨_, wp_seen_iff.mp (call_spec i.stdRank i.op m)⟩

/-- What one operation does to the sets: what the specification says, or nothing. -/
theorem call_cases (rank : Rank) (op : Op Info) (s : Store Info) :
    (∃ view : (contents s.value).View, (contents s.value).spec view op =
      ((call rank op s).answer, contents (call rank op s).state.value)) ∨
      (call rank op s).answer = .panicked lockPanic ∧
        contents (call rank op s).state.value = contents s.value := by
  obtain ⟨m, poisoned⟩ := s
  cases poisoned with
  | false => exact .inl ⟨_, wp_seen_iff.mp (call_spec rank op m)⟩
  | true =>
    have panics := call_poisoned rank op m
    unfold wp at panics
    cases ran : call rank op (⟨m, true⟩ : Store Info) <;> rw [ran] at panics
    · exact panics.elim
    · exact panics.elim
    · obtain ⟨rfl, rfl⟩ := panics
      exact .inr ⟨rfl, rfl⟩

variable {rank : Rank} {op : Op Info} {s s' : Store Info} {t : Transition} {worker : WorkerId}
  {f : Option FunctionId} {e : Failure}

theorem separate_call (separate : (contents s.value).Separate) (fresh : (contents s.value).Fresh op) :
    (contents (call rank op s).state.value).Separate := by
  rcases call_cases rank op s with ⟨view, spec⟩ | ⟨-, same⟩
  · have after := separate.spec view fresh
    rw [spec] at after
    exact after
  · rw [same]
    exact separate

theorem transition_failed (separate : (contents s.value).Separate)
    (failed : call rank (.transition t worker f) s = .err e s') :
    contents s'.value = contents s.value := by
  rcases call_cases rank (.transition t worker f) s with ⟨view, spec⟩ | ⟨panicked, -⟩
  · rw [failed] at spec
    have unchanged := separate.transition_failed view (congrArg Prod.fst spec)
    rw [spec] at unchanged
    exact unchanged
  · rw [failed] at panicked
    contradiction

end StdHashMapFmdStore

namespace DashMapStore

def handle (i : Call Info) : StoreM Info (Reply Info) := call i.dashRank i.op

theorem implements (m : Map Info) (i : Call Info) :
    Implements (fun c i => c.Spec i.op) handle contents m i :=
  ⟨_, wp_seen_iff.mp (call_spec i.dashRank i.op m)⟩

variable {rank : Rank} {op : Op Info} {m m' : Map Info} {t : Transition} {worker : WorkerId}
  {f : Option FunctionId} {e : Failure}

theorem separate_call (separate : (contents m).Separate) (fresh : (contents m).Fresh op) :
    (contents (call rank op m).state).Separate := by
  have spec := wp_seen_iff.mp (call_spec rank op m)
  have after := separate.spec (viewOf rank m) fresh
  rw [spec] at after
  exact after

theorem transition_failed (separate : (contents m).Separate)
    (failed : call rank (.transition t worker f) m = .err e m') : contents m' = contents m := by
  have spec := wp_seen_iff.mp (call_spec rank (.transition t worker f) m)
  rw [failed] at spec
  have unchanged := separate.transition_failed (viewOf rank m) (congrArg Prod.fst spec)
  rw [spec] at unchanged
  exact unchanged

end DashMapStore

/-- The two stores answer every sequence of operations alike and hold the same functions with the
same sets, as long as no operation comes after a panic under the write lock and none looks for a
worker that several functions have in one set. If every worker is in no set when it is inserted, the
sets of either store stay disjoint, and a transition that fails changes none of them. -/
theorem stores_agree (calls : List (Call Info)) :
    (AllSteps (fun i s => (StdHashMapFmdStore.handle i s).state) StdHashMapFmdStore.Clear calls
        (.new ∅) →
      answers StdHashMapFmdStore.handle calls (.new ∅) = answers DashMapStore.handle calls ∅ ∧
        ∀ f, (afterCalls StdHashMapFmdStore.handle calls (.new ∅)).value.lookup f =
          (afterCalls DashMapStore.handle calls ∅).lookup f) ∧
    (AllSteps (fun i s => (StdHashMapFmdStore.handle i s).state)
        (fun s i => (contents s.value).Fresh i.op) calls (.new ∅) →
      let s := afterCalls StdHashMapFmdStore.handle calls (.new ∅)
      (contents s.value).Separate ∧
        ∀ rank t worker f e s', StdHashMapFmdStore.call rank (.transition t worker f) s = .err e s' →
          ∀ g, s'.value.lookup g = s.value.lookup g) ∧
    (AllSteps (fun i m => (DashMapStore.handle i m).state) (fun m i => (contents m).Fresh i.op) calls
        ∅ →
      let m := afterCalls DashMapStore.handle calls ∅
      (contents m).Separate ∧
        ∀ rank t worker f e m', DashMapStore.call rank (.transition t worker f) m = .err e m' →
          ∀ g, m'.lookup g = m.lookup g) := by
  have empty : (contents (∅ : Map Info)).Separate := by
    rintro worker stage stage' f g ⟨fmd, look, _⟩
    simp at look
  refine ⟨fun clear => ?_, fun fresh => ?_, fun fresh => ?_⟩
  · have determined (s : StdHashMapFmdStore.Store Info) (i : Call Info) (r r' c c')
        (clear : StdHashMapFmdStore.Clear s i) (one : (contents s.value).Spec i.op r c)
        (other : (contents s.value).Spec i.op r' c') : r = r' ∧ c = c' := by
      obtain ⟨view, one⟩ := one
      obtain ⟨view', other⟩ := other
      have same := Contents.spec_determined clear.2 view view'
      rw [one, other] at same
      exact Prod.ext_iff.mp same
    obtain ⟨same, last⟩ := answers_eq (fun s i clear => StdHashMapFmdStore.implements clear.1)
      DashMapStore.implements (fun s i r c r' c' => determined s i r r' c c') rfl clear
    exact ⟨same, congrFun last⟩
  · have separate := AllSteps.invariant (I := fun s : StdHashMapFmdStore.Store Info =>
      (contents s.value).Separate) (fun _ _ => StdHashMapFmdStore.separate_call) empty fresh
    refine ⟨separate, fun rank t worker f e s' failed g => ?_⟩
    exact congrFun (StdHashMapFmdStore.transition_failed separate failed) g
  · have separate := AllSteps.invariant (I := fun m : Map Info => (contents m).Separate)
      (fun _ _ => DashMapStore.separate_call) empty fresh
    refine ⟨separate, fun rank t worker f e m' failed g => ?_⟩
    exact congrFun (DashMapStore.transition_failed separate failed) g

end Sequences

section Example
open Metadata (FcFunctionInfo)

def exampleFunction (id : FunctionId) : RegisteredFunction FcFunctionInfo :=
  ⟨⟨id, 0, 1, ""⟩, none⟩

/-- The two maps are traversed in opposite orders. -/
def exampleCall (op : Op FcFunctionInfo) : Call FcFunctionInfo := ⟨op, id, fun f => 9 - f⟩

/-- The worker 7 is idle for two functions. -/
def ambiguousCalls : List (Call FcFunctionInfo) :=
  [.registerFunction (exampleFunction 1), .registerFunction (exampleFunction 2),
    .insert .idle 7 1, .insert .idle 7 2, .find .idle 7].map exampleCall

/-- A worker is removed from a function that nobody has registered. -/
def poisoningCalls : List (Call FcFunctionInfo) :=
  [.remove .idle 7 1, .functionExists 1].map exampleCall

/-- A search may find one function in one store and another in the other, and after a panic under
the lock only one of the stores goes on. -/
theorem stores_differ :
    (answers StdHashMapFmdStore.handle ambiguousCalls (.new ∅)).getLast? =
        some (.returned (.function (some 1))) ∧
      (answers DashMapStore.handle ambiguousCalls ∅).getLast? =
        some (.returned (.function (some 2))) ∧
      (answers StdHashMapFmdStore.handle poisoningCalls (.new ∅)).getLast? =
        some (.panicked "store lock should not be poisoned") ∧
      (answers DashMapStore.handle poisoningCalls ∅).getLast? =
        some (.returned (.bool false)) :=
  ⟨rfl, rfl, rfl, rfl⟩

/-- A worker is spawned, becomes idle and dies. -/
def spawnedCalls : List (Call FcFunctionInfo) :=
  [.registerFunction (exampleFunction 1), .insert .active 7 1, .transition .activeToIdle 7 none,
    .transition .activeToDying 7 none].map exampleCall

theorem stores_agree_spawned :
    answers StdHashMapFmdStore.handle spawnedCalls (.new ∅) =
        answers DashMapStore.handle spawnedCalls ∅ ∧
      (contents (afterCalls DashMapStore.handle spawnedCalls ∅)).Separate := by
  have one (m : Map FcFunctionInfo) (only : ∀ f fmd, m.lookup f = some fmd → f = 1)
      (op : Op FcFunctionInfo) : (contents m).Unambiguous op := by
    rintro stage worker - f g ⟨fmd, here, -⟩ ⟨fmd', there, -⟩
    exact (only f fmd here).trans (only g fmd' there).symm
  have agree := stores_agree spawnedCalls
  refine ⟨(agree.1 ⟨⟨rfl, one _ ?_ _⟩, ⟨rfl, one _ ?_ _⟩, ⟨rfl, one _ ?_ _⟩, ⟨rfl, one _ ?_ _⟩,
    trivial⟩).1, (agree.2.2 ⟨trivial, ?_, trivial, trivial, trivial⟩).1⟩
  · decide +kernel
  · decide +kernel
  · decide +kernel
  · decide +kernel
  · rintro stage f ⟨fmd, look, has⟩
    rw [contents_apply] at look
    have nobody : ∀ g fmd, ((∅ : Map FcFunctionInfo).insert 1 (.new (exampleFunction 1))).lookup g =
        some fmd → fmd.workers .active = ∅ ∧ fmd.workers .idle = ∅ ∧ fmd.workers .dying = ∅ := by
      decide +kernel
    obtain ⟨active, idle, dying⟩ := nobody f fmd look
    cases stage <;> simp_all

end Example

end Stores
end Snaplace
