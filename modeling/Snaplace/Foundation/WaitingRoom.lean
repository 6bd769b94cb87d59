import Mathlib.Data.List.Basic
import Mathlib.Logic.Function.Basic
import Mathlib.Order.Defs.LinearOrder
import Mathlib.Tactic

/-!
# Waiting rooms

Items wait in one queue per key. At most one of them is out: taken from the front of its queue to be
served, dropped or put back. A queue may be blocked, and overdue items are removed from the fronts
only. A `Turn` is one sweep at most and one `Act`; the order of service, the capacity and the due
times of a room are proved from what these do.
-/
namespace Foundation

/-- What a waiting room reads of an item. -/
class Waits (α : Type) (κ ν τ : outParam Type) where
  name : α → ν
  key : ν → κ
  arrival : α → τ
  deadline : α → τ

open Waits (name key arrival deadline)

structure WaitingRoom (κ α ν τ : Type) where
  queue : κ → List α
  blocked : κ → Bool
  waiting : Nat
  /-- When the alarm for overdue items goes off. -/
  next : Option τ
  out : Option (κ × α)
  /-- Permits to have an item out or served. -/
  permits : Nat
  arrived : List ν
  served : List ν
  turnedAway : Nat

structure Capacity (κ : Type) where
  total : Nat
  each : κ → Nat

namespace WaitingRoom
variable {κ α ν τ : Type}

section Line
variable [DecidableEq κ] {r : WaitingRoom κ α ν τ}

/-- The item out, if it is one of `k`'s. -/
def outAt (r : WaitingRoom κ α ν τ) (k : κ) : List α :=
  match r.out with
  | some (j, a) => if j = k then [a] else []
  | none => []

theorem outAt_none (h : r.out = none) (k : κ) : r.outAt k = [] := by
  simp [outAt, h]

theorem outAt_some {j k : κ} {a : α} (h : r.out = some (j, a)) :
    r.outAt k = if j = k then [a] else [] := by
  simp [outAt, h]

variable [Waits α κ ν τ]

def ofKey (α : Type) [Waits α κ ν τ] (k : κ) (ns : List ν) : List ν :=
  ns.filter fun n => key α n = k

theorem ofKey_append (k : κ) (ns : List ν) (n : ν) :
    ofKey α k (ns ++ [n]) = ofKey α k ns ++ if key α n = k then [n] else [] := by
  by_cases h : key α n = k <;> simp [ofKey, h]

/-- The items of `k` in the order in which they are served: served, out, waiting. -/
def line (r : WaitingRoom κ α ν τ) (k : κ) : List ν :=
  ofKey α k r.served ++ (r.outAt k ++ r.queue k).map name

/-- Within a key the order of service is the order of arrival. -/
def Orderly (r : WaitingRoom κ α ν τ) : Prop :=
  ∀ k, (r.line k).Sublist (ofKey α k r.arrived)

theorem Orderly.key_out (h : r.Orderly) {k : κ} {a : α} (out : r.out = some (k, a)) :
    key α (name a) = k := by
  have mem : name a ∈ ofKey α k r.arrived :=
    (h k).subset (by simp [line, outAt_some out])
  simpa [ofKey] using (List.mem_filter.mp mem).2

end Line

variable [LinearOrder τ]

/-- An alarm moved forward to `d`, if it is later or off. -/
def sooner (d : τ) (next : Option τ) : Option τ :=
  if next.all fun curr => d < curr then some d else next

theorem sooner_le (d : τ) (next : Option τ) : ∃ e, sooner d next = some e ∧ e ≤ d := by
  unfold sooner
  cases next with
  | none => exact ⟨d, by simp⟩
  | some curr =>
    by_cases h : d < curr
    · exact ⟨d, by simp [h]⟩
    · exact ⟨curr, by simp [h], not_lt.mp h⟩

theorem sooner_ne_none (d : τ) (next : Option τ) : sooner d next ≠ none := by
  obtain ⟨e, h, -⟩ := sooner_le d next
  simp [h]

theorem sooner_le_of_some (d : τ) {next : Option τ} {e : τ} (h : next = some e) :
    ∃ e', sooner d next = some e' ∧ e' ≤ e := by
  subst h
  unfold sooner
  by_cases h : d < e
  · exact ⟨d, by simp [h], h.le⟩
  · exact ⟨e, by simp [h]⟩

variable [Waits α κ ν τ]

def overdue (now : τ) (a : α) : Bool := deadline a ≤ now

/-- What a sweep leaves of a queue. -/
def remaining (now : τ) (q : List α) : List α := q.dropWhile (overdue now)

theorem overdue_head_remaining {now : τ} {q rest : List α} {a : α}
    (h : remaining now q = a :: rest) : now < deadline a := by
  have := List.head?_dropWhile_not (overdue now) q
  rw [remaining] at h
  simpa [h, overdue] using this

/-- The alarm of `r` has gone off. -/
def Due (now : τ) (r : WaitingRoom κ α ν τ) : Prop := ∃ d, r.next = some d ∧ d ≤ now

/-- Overdue fronts are removed, stale blocks lifted, and the alarm is set to the earliest front. -/
structure Swept (now : τ) (r t : WaitingRoom κ α ν τ) : Prop where
  queue : ∀ k, t.queue k = remaining now (r.queue k)
  blocked : ∀ k, t.blocked k → r.blocked k ∧ t.queue k ≠ []
  waiting : t.waiting ≤ r.waiting
  next_le : ∀ k a rest, t.queue k = a :: rest → ∃ d, t.next = some d ∧ d ≤ deadline a
  next_front : ∀ d, t.next = some d → ∃ k a rest, t.queue k = a :: rest ∧ deadline a = d
  out : t.out = r.out
  permits : t.permits = r.permits
  arrived : t.arrived = r.arrived
  served : t.served = r.served
  turnedAway : t.turnedAway = r.turnedAway

theorem Swept.not_due {now : τ} {r t : WaitingRoom κ α ν τ} (h : Swept now r t) : ¬t.Due now := by
  rintro ⟨d, hd, late⟩
  obtain ⟨k, a, rest, front, rfl⟩ := h.next_front d hd
  rw [h.queue k] at front
  exact absurd late (not_le.mpr (overdue_head_remaining front))

section Sweep
variable {now : τ} {r t : WaitingRoom κ α ν τ}

/-- No item comes from after `now`, queues are sorted by arrival, and so is the item out. -/
structure Timely (now : τ) (r : WaitingRoom κ α ν τ) : Prop where
  past : ∀ k, ∀ a ∈ r.queue k, arrival a ≤ now
  sorted : ∀ k, (r.queue k).Pairwise fun a b => arrival a ≤ arrival b
  outPast : ∀ k a, r.out = some (k, a) → arrival a ≤ now
  outFirst : ∀ k a, r.out = some (k, a) → ∀ b ∈ r.queue k, arrival a ≤ arrival b

theorem Timely.mono {later : τ} (h : Timely now r) (le : now ≤ later) : Timely later r :=
  ⟨fun k a mem => (h.past k a mem).trans le, h.sorted,
    fun k a out => (h.outPast k a out).trans le, h.outFirst⟩

theorem Timely.front_le {k : κ} {a b : α} {rest : List α} (h : Timely now r)
    (front : r.queue k = a :: rest) (mem : b ∈ r.queue k) : arrival a ≤ arrival b := by
  rw [front] at mem
  obtain rfl | mem := List.mem_cons.mp mem
  · exact le_rfl
  · have sorted := h.sorted k
    rw [front] at sorted
    exact (List.pairwise_cons.mp sorted).1 b mem

theorem Timely.swept (h : Timely now r) (sweep : Swept now r t) : Timely now t := by
  have sub (k : κ) : (t.queue k).Sublist (r.queue k) := by
    rw [sweep.queue]
    exact List.dropWhile_sublist _
  refine ⟨fun k a mem => h.past k a ((sub k).subset mem), fun k => (h.sorted k).sublist (sub k),
    fun k a out => h.outPast k a (sweep.out ▸ out), fun k a out b mem => ?_⟩
  exact h.outFirst k a (sweep.out ▸ out) b ((sub k).subset mem)

/-- Only queues with something in them are blocked, and while something waits the alarm is on. -/
structure Armed (r : WaitingRoom κ α ν τ) : Prop where
  blocked : ∀ k, r.blocked k → r.queue k ≠ []
  alarm : ∀ k, r.queue k ≠ [] → r.next ≠ none

theorem Armed.swept (sweep : Swept now r t) : Armed t := by
  refine ⟨fun k h => (sweep.blocked k h).2, fun k h => ?_⟩
  obtain ⟨a, rest, front⟩ := List.exists_cons_of_ne_nil h
  obtain ⟨d, next, -⟩ := sweep.next_le k a rest front
  simp [next]

/-- The alarm goes off no later than any item is overdue. -/
def Punctual (r : WaitingRoom κ α ν τ) : Prop :=
  ∀ k, ∀ a ∈ r.queue k, ∃ d, r.next = some d ∧ d ≤ deadline a

/-- Once the overdue fronts are gone, no item is due before all the fronts are. -/
def Covered (now : τ) (r : WaitingRoom κ α ν τ) : Prop :=
  ∀ k, ∀ b ∈ remaining now (r.queue k), ∃ j a rest,
    remaining now (r.queue j) = a :: rest ∧ deadline a ≤ deadline b

theorem Swept.unexpired (sweep : Swept now r t) (covered : Covered now r) {k : κ} {b : α}
    (mem : b ∈ t.queue k) : now < deadline b := by
  rw [sweep.queue] at mem
  obtain ⟨j, a, rest, left, le⟩ := covered k b mem
  exact (overdue_head_remaining left).trans_le le

/-- After a sweep the alarm is punctual exactly if the fronts left cover the items left. -/
theorem Swept.punctual_iff (sweep : Swept now r t) : Punctual t ↔ Covered now r := by
  constructor
  · intro punctual k b mem
    rw [← sweep.queue] at mem
    obtain ⟨d, next, le⟩ := punctual k b mem
    obtain ⟨j, a, rest, front, rfl⟩ := sweep.next_front d next
    exact ⟨j, a, rest, (sweep.queue j).symm.trans front, le⟩
  · intro covered k b mem
    rw [sweep.queue] at mem
    obtain ⟨j, a, rest, left, le⟩ := covered k b mem
    obtain ⟨d, next, le'⟩ := sweep.next_le j a rest ((sweep.queue j).trans left)
    exact ⟨d, next, le'.trans le⟩

theorem Punctual.unexpired (h : Punctual r) (quiet : ¬r.Due now) {k : κ} {a : α}
    (mem : a ∈ r.queue k) : now < deadline a := by
  obtain ⟨d, next, le⟩ := h k a mem
  exact lt_of_lt_of_le (not_le.mp fun late => quiet ⟨d, next, late⟩) le

theorem Punctual.sooner (h : Punctual r) (d : τ) {k : κ} {a : α} (mem : a ∈ r.queue k) :
    ∃ e, WaitingRoom.sooner d r.next = some e ∧ e ≤ deadline a := by
  obtain ⟨e, next, le⟩ := h k a mem
  obtain ⟨e', next', le'⟩ := sooner_le_of_some d next
  exact ⟨e', next', le'.trans le⟩

end Sweep

/-- A sweep is made exactly if it is due. -/
def Checked (now : τ) (r t : WaitingRoom κ α ν τ) : Prop :=
  t = r ∧ ¬r.Due now ∨ r.Due now ∧ Swept now r t

theorem Checked.not_due {now : τ} {r t : WaitingRoom κ α ν τ} (h : Checked now r t) :
    ¬t.Due now := by
  obtain ⟨rfl, quiet⟩ | ⟨-, swept⟩ := h
  · exact quiet
  · exact swept.not_due

/-- One sweep at most, made only where `due` holds. -/
def MaySweep (due : Prop) (now : τ) (r t : WaitingRoom κ α ν τ) : Prop :=
  t = r ∨ due ∧ Swept now r t

theorem Checked.maySweep {due : Prop} {now : τ} {r t : WaitingRoom κ α ν τ} (h : Checked now r t)
    (when : r.Due now → due) : MaySweep due now r t :=
  h.imp And.left fun ⟨d, swept⟩ => ⟨when d, swept⟩

/-- An arrival recorded before the sweep may as well be recorded after it. -/
theorem MaySweep.arrived {due : Prop} {now : τ} {n : ν} {r t : WaitingRoom κ α ν τ}
    (h : MaySweep due now { r with arrived := r.arrived ++ [n] } t) :
    ∃ mid, MaySweep due now r mid ∧ t = { mid with arrived := mid.arrived ++ [n] } := by
  obtain rfl | ⟨due, swept⟩ := h
  · exact ⟨r, .inl rfl, rfl⟩
  · refine ⟨{ t with arrived := r.arrived }, .inr ⟨due, ?_⟩, ?_⟩
    · exact ⟨swept.queue, swept.blocked, swept.waiting, swept.next_le, swept.next_front, swept.out,
        swept.permits, rfl, swept.served, swept.turnedAway⟩
    · exact congrArg (fun arrived => { t with arrived }) swept.arrived

variable [DecidableEq κ]

/-- What happens at one instant, apart from the sweep before it. -/
inductive Act (cap : Capacity κ) (now : τ) (r : WaitingRoom κ α ν τ) :
    WaitingRoom κ α ν τ → Prop where
  | stay : Act cap now r r
  | decline (n : ν) : Act cap now r { r with arrived := r.arrived ++ [n] }
  | turnAway (n : ν) (checked : ¬r.Due now)
      (full : cap.total ≤ r.waiting ∨ cap.each (key α n) ≤ (r.queue (key α n)).length) :
      Act cap now r { r with arrived := r.arrived ++ [n], turnedAway := r.turnedAway + 1 }
  | join (a : α) (arrives : arrival a = now) (space : r.waiting < cap.total)
      (room : (r.queue (key α (name a))).length < cap.each (key α (name a))) :
      Act cap now r
        { r with
          queue := Function.update r.queue (key α (name a)) (r.queue (key α (name a)) ++ [a])
          waiting := r.waiting + 1
          next := sooner (deadline a) r.next
          arrived := r.arrived ++ [name a] }
  | wake (blocked : κ → Bool) (fewer : ∀ k, blocked k → r.blocked k) :
      Act cap now r { r with blocked }
  | take (k : κ) (a : α) (rest : List α) (checked : ¬r.Due now) (idle : r.out = none)
      (permit : 0 < r.permits) (front : r.queue k = a :: rest) (open_ : r.blocked k = false)
      (oldest : ∀ j b rest, r.queue j = b :: rest → r.blocked j = false → arrival a ≤ arrival b) :
      Act cap now r
        { r with
          queue := Function.update r.queue k rest
          waiting := r.waiting - 1
          out := some (k, a)
          permits := r.permits - 1 }
  /-- A front is offered and at once put back. -/
  | bounce (k : κ) (a : α) (rest : List α) (front : r.queue k = a :: rest) :
      Act cap now r { r with next := sooner (deadline a) r.next }
  | serve (k : κ) (a : α) (taken : r.out = some (k, a)) :
      Act cap now r { r with out := none, served := r.served ++ [name a] }
  | drop (k : κ) (a : α) (taken : r.out = some (k, a)) :
      Act cap now r { r with out := none, permits := r.permits + 1 }

/-- The item that is out goes back to the front of its queue, which may be blocked for it. -/
structure PutBack (r t : WaitingRoom κ α ν τ) (k : κ) (a : α) : Prop where
  taken : r.out = some (k, a)
  queue : t.queue = Function.update r.queue k (a :: r.queue k)
  blocked : ∀ j, t.blocked j → r.blocked j ∨ j = k
  waiting : t.waiting = r.waiting + 1
  next : t.next = sooner (deadline a) r.next
  out : t.out = none
  permits : t.permits = r.permits + 1
  arrived : t.arrived = r.arrived
  served : t.served = r.served
  turnedAway : t.turnedAway = r.turnedAway

/-- One sweep at most, made only where `due` holds, and one act. -/
def Acts (due : Prop) (cap : Capacity κ) (now : τ) (r t : WaitingRoom κ α ν τ) : Prop :=
  ∃ mid, MaySweep due now r mid ∧ Act cap now mid t

inductive Turn (due : Prop) (cap : Capacity κ) (now : τ) (r t : WaitingRoom κ α ν τ) : Prop where
  | acts (h : Acts due cap now r t)
  | putsBack (k : κ) (a : α) (back : PutBack r t k a)
  /-- A permit comes back from an item that was served. -/
  | released (h : t = { r with permits := r.permits + 1 })

variable {due : Prop} {cap : Capacity κ} {now : τ} {r t : WaitingRoom κ α ν τ}

/-- What the sweep, the acts and putting back keep, a turn keeps. -/
theorem Turn.keeps {I : WaitingRoom κ α ν τ → Prop} (h : Turn due cap now r t) (init : I r)
    (sweep : ∀ mid, due → Swept now r mid → I mid)
    (act : ∀ mid t, I mid → Act cap now mid t → I t) (back : ∀ k a, PutBack r t k a → I t)
    (free : I { r with permits := r.permits + 1 }) : I t := by
  cases h with
  | acts acts =>
    obtain ⟨mid, rfl | ⟨due, swept⟩, acts⟩ := acts
    · exact act _ t init acts
    · exact act mid t (sweep mid due swept) acts
  | putsBack k a h => exact back k a h
  | released h => exact h ▸ free

/-! ## Order of service -/

theorem Orderly.swept (h : r.Orderly) (sweep : Swept now r t) : t.Orderly := by
  intro k
  have queue : (remaining now (r.queue k)).Sublist (r.queue k) := List.dropWhile_sublist _
  rw [line, sweep.queue, sweep.served, sweep.arrived, outAt, sweep.out]
  exact List.Sublist.trans (((queue.append_left _).map _).append_left _) (h k)

theorem Orderly.act (h : r.Orderly) (act : Act cap now r t) : t.Orderly := by
  cases act with
  | stay | wake | bounce => exact h
  | decline n | turnAway n =>
    intro k
    rw [ofKey_append]
    exact (h k).trans (List.sublist_append_left _ _)
  | join a =>
    intro k
    have := h k
    rw [ofKey_append]
    simp only [line, outAt, Function.update_apply] at this ⊢
    by_cases same : k = key α (name a)
    · subst same
      simpa using this.append_right [name a]
    · rw [if_neg same, if_neg (Ne.symm same), List.append_nil]
      exact this
  | take k a rest _ idle _ front =>
    intro j
    have := h j
    simp only [line, outAt, idle, Function.update_apply] at this ⊢
    by_cases same : j = k
    · subst same
      simpa [front] using this
    · simpa [same, Ne.symm same] using this
  | serve k a taken =>
    intro j
    have := h j
    have own := h.key_out taken
    simp only [line, outAt_some taken, ofKey_append, own] at this ⊢
    simp only [outAt, List.nil_append]
    split <;> simp_all
  | drop k a taken =>
    intro j
    refine .trans ?_ (h j)
    simp only [line, outAt, List.nil_append, List.map_append]
    exact (List.sublist_append_right _ _).append_left _

theorem Orderly.putBack {k : κ} {a : α} (h : r.Orderly) (back : PutBack r t k a) : t.Orderly := by
  intro j
  have := h j
  rw [line, outAt_some back.taken] at this
  rw [line, outAt_none back.out, back.queue, back.served, back.arrived, Function.update_apply]
  by_cases same : j = k
  · subst same
    simpa using this
  · simpa [same, Ne.symm same] using this

theorem Orderly.turn (h : r.Orderly) (turn : Turn due cap now r t) : t.Orderly :=
  turn.keeps h (fun _ _ => h.swept) (fun _ _ h => h.act) (fun _ _ => h.putBack) h

/-! ## Times of arrival -/

theorem Timely.act (h : Timely now r) (act : Act cap now r t) : Timely now t := by
  cases act with
  | stay | wake | bounce | decline | turnAway =>
    exact ⟨h.past, h.sorted, h.outPast, h.outFirst⟩
  | serve | drop => exact ⟨h.past, h.sorted, nofun, nofun⟩
  | join a arrives =>
    refine ⟨fun k b mem => ?_, fun k => ?_, h.outPast, fun k b out x mem => ?_⟩
    · simp only [Function.update_apply] at mem
      split at mem
      next => grind [h.past]
      next => exact h.past k b mem
    · simp only [Function.update_apply]
      split
      · refine List.pairwise_append.mpr ⟨h.sorted _, List.pairwise_singleton _ _, ?_⟩
        grind [h.past]
      · exact h.sorted k
    · simp only [Function.update_apply] at mem
      split at mem
      next same =>
        obtain mem | mem := List.mem_append.mp mem
        · exact h.outFirst k b out x (same ▸ mem)
        · rw [List.mem_singleton.mp mem, arrives]
          exact h.outPast k b out
      next => exact h.outFirst k b out x mem
  | take k a rest _ idle _ front =>
    have sorted := h.sorted k
    rw [front, List.pairwise_cons] at sorted
    have sub (j : κ) : (Function.update r.queue k rest j).Sublist (r.queue j) := by
      rw [Function.update_apply]
      split
      next same => rw [same, front]; exact List.sublist_cons_self a rest
      next => exact List.Sublist.refl _
    refine ⟨fun j b mem => h.past j b ((sub j).subset mem), fun j => (h.sorted j).sublist (sub j),
      ?_, ?_⟩
    · rintro _ _ ⟨⟩
      exact h.past k a (by simp [front])
    · rintro _ _ ⟨⟩ b mem
      simp only [Function.update_self] at mem
      exact sorted.1 b mem

theorem Timely.putBack {k : κ} {a : α} (h : Timely now r) (back : PutBack r t k a) :
    Timely now t := by
  refine ⟨fun j b mem => ?_, fun j => ?_, by simp [back.out], by simp [back.out]⟩
  · rw [back.queue, Function.update_apply] at mem
    split at mem
    next =>
      obtain rfl | mem := List.mem_cons.mp mem
      · exact h.outPast k b back.taken
      · exact h.past k b mem
    next => exact h.past j b mem
  · rw [back.queue, Function.update_apply]
    split
    · exact List.pairwise_cons.mpr ⟨h.outFirst k a back.taken, h.sorted k⟩
    · exact h.sorted j

theorem Timely.turn (h : Timely now r) (turn : Turn due cap now r t) : Timely now t :=
  turn.keeps h (fun _ _ => h.swept) (fun _ _ h => h.act) (fun _ _ => h.putBack)
    ⟨h.past, h.sorted, h.outPast, h.outFirst⟩

/-- The item a turn takes out came no later than any item left in a queue that is not blocked. -/
theorem Turn.oldest {k j : κ} {a b : α} (turn : Turn due cap now r t) (h : Timely now r)
    (idle : r.out = none) (taken : t.out = some (k, a)) (mem : b ∈ t.queue j)
    (open_ : t.blocked j = false) : arrival a ≤ arrival b := by
  cases turn with
  | putsBack k a back => simp [back.taken] at idle
  | released free => simp [free, idle] at taken
  | acts acts =>
    obtain ⟨mid, sweep, act⟩ := acts
    have timely : Timely now mid := by
      obtain rfl | ⟨-, swept⟩ := sweep
      · exact h
      · exact h.swept swept
    have idle : mid.out = none := by
      obtain rfl | ⟨-, swept⟩ := sweep
      · exact idle
      · rw [swept.out, idle]
    cases act with
    | take i c rest _ _ _ front runnable oldest =>
      obtain ⟨rfl, rfl⟩ : i = k ∧ c = a := by simpa using taken
      simp only [Function.update_apply] at mem
      have mem : b ∈ mid.queue j := by
        split at mem
        next same => rw [same, front]; exact List.mem_cons_of_mem _ mem
        next => exact mem
      obtain ⟨d, rest', front'⟩ := List.exists_cons_of_ne_nil (List.ne_nil_of_mem mem)
      exact (oldest j d rest' front' open_).trans (timely.front_le front' mem)
    | _ => simp_all

/-! ## Blocks and the alarm -/

theorem Armed.act (h : Armed r) (act : Act cap now r t) : Armed t := by
  cases act with
  | stay | serve | drop | decline | turnAway => exact ⟨h.blocked, h.alarm⟩
  | wake blocked fewer => exact ⟨fun k on => h.blocked k (fewer k on), h.alarm⟩
  | bounce => exact ⟨h.blocked, fun _ _ => sooner_ne_none _ _⟩
  | join a =>
    refine ⟨fun k on => ?_, fun _ _ => sooner_ne_none _ _⟩
    simp only [Function.update_apply]
    split
    · simp
    · exact h.blocked k on
  | take k a rest _ _ _ front runnable =>
    refine ⟨fun j on => ?_, fun j left => ?_⟩
    · have other : j ≠ k := by
        rintro rfl
        simp [runnable] at on
      simp only [Function.update_of_ne other]
      exact h.blocked j on
    · exact h.alarm k (by simp [front])

theorem Armed.putBack {k : κ} {a : α} (h : Armed r) (back : PutBack r t k a) : Armed t := by
  refine ⟨fun j on => ?_, fun _ _ => by simp [back.next, sooner_ne_none]⟩
  rw [back.queue, Function.update_apply]
  split
  · simp
  next other => exact h.blocked j ((back.blocked j on).resolve_right other)

theorem Armed.turn (h : Armed r) (turn : Turn due cap now r t) : Armed t :=
  turn.keeps h (fun _ _ => Armed.swept) (fun _ _ h => h.act) (fun _ _ => h.putBack)
    ⟨h.blocked, h.alarm⟩

/-! ## Due times -/

theorem Punctual.act (h : Punctual r) (act : Act cap now r t) : Punctual t := by
  cases act with
  | stay | serve | drop | decline | turnAway | wake => exact h
  | bounce k a => exact fun j b mem => h.sooner _ mem
  | join a =>
    intro k b mem
    simp only [Function.update_apply] at mem
    split at mem
    next =>
      obtain mem | mem := List.mem_append.mp mem
      · exact h.sooner _ mem
      · rw [List.mem_singleton.mp mem]
        exact sooner_le _ _
    next => exact h.sooner _ mem
  | take k a rest _ _ _ front =>
    intro j b mem
    simp only [Function.update_apply] at mem
    split at mem
    next => exact h k b (by simp [front, mem])
    next => exact h j b mem

theorem Punctual.putBack {k : κ} {a : α} (h : Punctual r) (back : PutBack r t k a) :
    Punctual t := by
  intro j b mem
  rw [back.queue, Function.update_apply] at mem
  rw [back.next]
  split at mem
  next =>
    obtain rfl | mem := List.mem_cons.mp mem
    · exact sooner_le _ _
    · exact h.sooner _ mem
  next => exact h.sooner _ mem

theorem Punctual.turn (h : Punctual r) (covered : due → Covered now r)
    (turn : Turn due cap now r t) : Punctual t :=
  turn.keeps h (fun _ due sweep => sweep.punctual_iff.mpr (covered due)) (fun _ _ h => h.act)
    (fun _ _ => h.putBack) h

/-- The state in which a turn acts, after its sweep. -/
theorem Acts.punctual (h : Punctual r) (covered : due → Covered now r)
    (acts : Acts due cap now r t) :
    ∃ mid, Punctual mid ∧ mid.out = r.out ∧ mid.turnedAway = r.turnedAway ∧
      Act cap now mid t := by
  obtain ⟨mid, rfl | ⟨due, swept⟩, act⟩ := acts
  · exact ⟨_, h, rfl, rfl, act⟩
  · exact ⟨mid, swept.punctual_iff.mpr (covered due), swept.out, swept.turnedAway, act⟩

/-- An item that a turn takes out is not overdue. -/
theorem Turn.taken_unexpired {k : κ} {a : α} (turn : Turn due cap now r t) (h : Punctual r)
    (covered : due → Covered now r) (idle : r.out = none) (taken : t.out = some (k, a)) :
    now < deadline a := by
  cases turn with
  | putsBack k a back => simp [back.taken] at idle
  | released free => simp [free, idle] at taken
  | acts acts =>
    obtain ⟨mid, punctual, out, -, act⟩ := acts.punctual h covered
    rw [idle] at out
    cases act with
    | take i c rest quiet _ _ front =>
      obtain ⟨rfl, rfl⟩ : i = k ∧ c = a := by simpa using taken
      exact punctual.unexpired quiet (by rw [front]; exact List.mem_cons_self)
    | _ => simp_all

/-- An item is turned away only when nothing that waits is overdue. -/
theorem Turn.turnedAway_unexpired {k : κ} {a : α} (turn : Turn due cap now r t) (h : Punctual r)
    (covered : due → Covered now r) (away : r.turnedAway < t.turnedAway)
    (mem : a ∈ t.queue k) : now < deadline a := by
  cases turn with
  | putsBack k a back => simp [back.turnedAway] at away
  | released free => simp [free] at away
  | acts acts =>
    obtain ⟨mid, punctual, -, same, act⟩ := acts.punctual h covered
    cases act with
    | turnAway n quiet full => exact punctual.unexpired quiet mem
    | _ => simp_all

/-! ## Capacity -/

theorem Acts.waiting_le (acts : Acts due cap now r t) (h : r.waiting ≤ cap.total) :
    t.waiting ≤ cap.total := by
  obtain ⟨mid, sweep, act⟩ := acts
  have le : mid.waiting ≤ r.waiting := by
    obtain rfl | ⟨-, swept⟩ := sweep
    · exact le_rfl
    · exact swept.waiting
  cases act with
  | join _ _ space => exact space
  | take => exact (Nat.sub_le _ _).trans (le.trans h)
  | _ => exact le.trans h

theorem Acts.length_le {k : κ} (acts : Acts due cap now r t)
    (h : (r.queue k).length ≤ cap.each k) : (t.queue k).length ≤ cap.each k := by
  obtain ⟨mid, sweep, act⟩ := acts
  have le : (mid.queue k).length ≤ (r.queue k).length := by
    obtain rfl | ⟨-, swept⟩ := sweep
    · exact le_rfl
    · rw [swept.queue]
      exact (List.dropWhile_sublist _).length_le
  cases act with
  | join a _ _ room =>
    simp only [Function.update_apply]
    split
    next same =>
      subst same
      simpa using room
    next => omega
  | take j a rest _ _ _ front =>
    simp only [Function.update_apply]
    split
    next same =>
      subst same
      rw [front, List.length_cons] at le
      omega
    next => omega
  | _ => exact le.trans h

theorem PutBack.length {j k : κ} {a : α} (back : PutBack r t k a) :
    (t.queue j).length = (r.queue j).length + if j = k then 1 else 0 := by
  rw [back.queue, Function.update_apply]
  split
  next same => simp [same]
  next => rfl

/-! ## Permits -/

/-- The permits that are free, held with the item out, or gone with a served item. -/
def granted (r : WaitingRoom κ α ν τ) : Nat :=
  r.permits + (if r.out.isSome then 1 else 0) + r.served.length

theorem Acts.granted (acts : Acts due cap now r t) : t.granted = r.granted := by
  obtain ⟨mid, sweep, act⟩ := acts
  have same : mid.granted = r.granted := by
    obtain rfl | ⟨-, swept⟩ := sweep
    · rfl
    · simp [WaitingRoom.granted, swept.permits, swept.out, swept.served]
  rw [← same]
  unfold WaitingRoom.granted
  cases act with
  | take k a rest _ idle permit =>
    simp only [idle, Option.isSome_some, Option.isSome_none, if_true, Bool.false_eq_true, if_false]
    omega
  | serve k a taken => simp [taken]; omega
  | drop k a taken => simp [taken]
  | _ => rfl

theorem Acts.served_le (acts : Acts due cap now r t) : r.served.length ≤ t.served.length := by
  obtain ⟨mid, sweep, act⟩ := acts
  have same : mid.served = r.served := by
    obtain rfl | ⟨-, swept⟩ := sweep
    · rfl
    · exact swept.served
  rw [← same]
  cases act with
  | serve => simp
  | _ => exact le_rfl

theorem PutBack.granted {k : κ} {a : α} (back : PutBack r t k a) : t.granted = r.granted := by
  simp [WaitingRoom.granted, back.permits, back.out, back.taken, back.served]

end WaitingRoom
end Foundation
