import Snaplace.Foundation.Run
import Snaplace.Pool.CpuList
import Snaplace.Pool.Workers

/-!
# The CPU allocator

Next to the workers' CPUs the allocator counts the occupants of each CPU, in 16 bits, and gives a
worker a CPU with the fewest. The counts are the numbers of workers as long as no sum overflows,
and while CPUs are only allocated they stay level.
-/
namespace Snaplace
open Foundation Text Handler

namespace CpuSet
variable {checks : Bool} {cpus : List Cpu} {cpu : Cpu} {worker : WorkerId} {rank : Cpu → Nat}

structure CpuSetManager where
  /-- The occupants of each CPU. In the code the fewest have the highest priority. -/
  pq : Table Cpu UInt16
  allocations : Table WorkerId Cpu

namespace CpuSetManager

/-- Pushing a CPU that is queued already only sets its priority again. -/
def ofCpus (cpus : List Cpu) : CpuSetManager where
  pq := cpus.foldl (fun pq cpu => pq.insert cpu 0) ∅
  allocations := ∅

/-- All allowed CPUs are used where none is configured. -/
def new (checks : Bool) (cpusets : List Char) (status : Except String (List Char)) :
    Outcome (List Cpu) CpuSetError CpuSetManager :=
  let availableCpus := match parseCpuset checks cpusets with
    | .ok () [] => allAllowedCpus checks status
    | parsed => parsed
  match availableCpus with
  | .ok () cpus => .ok (ofCpus cpus) cpus
  | .err e cpus => .err e cpus
  | .panic msg cpus => .panic msg cpus

/-- A CPU with the fewest occupants. Which of them the queue has first is up to `rank`. -/
def peek (rank : Cpu → Nat) (m : CpuSetManager) : Option (Cpu × UInt16) :=
  (m.pq.ordered rank).argmin fun e => e.2.toNat

def changePriority (cpu : Cpu) (occupants : UInt16) (m : CpuSetManager) : CpuSetManager :=
  if cpu ∈ m.pq then { m with pq := m.pq.insert cpu occupants } else m

def alloc (checks : Bool) (rank : Cpu → Nat) (worker : WorkerId) :
    Handler CpuSetManager CpuSetError Cpu := do
  let m ← get
  let (cpu, occupants) ← expect "cpuset priority queue never empties" (m.peek rank)
  let more ← addU16 checks occupants 1
  modify (changePriority cpu more)
  modify fun m => { m with allocations := m.allocations.insert worker cpu }
  require (m.allocations.lookup worker = none) "WorkerId conflict in cpuset priority queue"
  pure cpu

def release (checks : Bool) (worker : WorkerId) : Handler CpuSetManager CpuSetError Unit := do
  let m ← get
  match m.allocations.lookup worker with
  | none => throw (.allocationNotFound worker)
  | some cpu => do
    modify fun m => { m with allocations := m.allocations.erase worker }
    let occupants ← expect "no CPU can ever be missing from the priority queue" (m.pq.lookup cpu)
    let fewer ← subU16 checks occupants 1
    modify (changePriority cpu fewer)

def allCpus (rank : Cpu → Nat) (m : CpuSetManager) : List Cpu := (m.pq.ordered rank).map Prod.fst

end CpuSetManager

inductive CpuCall where
  | alloc (worker : WorkerId) (rank : Cpu → Nat)
  | release (worker : WorkerId)

open CpuSetManager

/-- The allocator after a call. -/
def step (checks : Bool) : CpuCall → CpuSetManager → CpuSetManager
  | .alloc worker rank, m => (alloc checks rank worker m).state
  | .release worker, m => (release checks worker m).state

/-- CPUs are allocated to workers without one. -/
def CpuCall.Fresh (m : CpuSetManager) : CpuCall → Prop
  | .alloc worker _ => m.allocations.lookup worker = none
  | .release _ => True

instance (m : CpuSetManager) : (c : CpuCall) → Decidable (c.Fresh m)
  | .alloc worker _ => inferInstanceAs (Decidable (m.allocations.lookup worker = none))
  | .release _ => isTrue trivial

/-- How many workers the CPU is allocated to. -/
def CpuSetManager.occupants (m : CpuSetManager) (cpu : Cpu) : Nat :=
  m.allocations.total fun _ cpu' => if cpu' = cpu then 1 else 0

/-- How many workers have a CPU. -/
def CpuSetManager.allocated (m : CpuSetManager) : Nat := m.allocations.entries.length

/-- The counts are right, of exactly the configured CPUs. -/
structure Balanced (cpus : List Cpu) (m : CpuSetManager) : Prop where
  known : ∀ cpu, (m.pq.lookup cpu).isSome ↔ cpu ∈ cpus
  assigned : ∀ w cpu, m.allocations.lookup w = some cpu → cpu ∈ cpus
  count : ∀ cpu n, m.pq.lookup cpu = some n → n.toNat = m.occupants cpu

/-- No other CPU has fewer occupants. -/
def Fewest (m : CpuSetManager) (cpu : Cpu) : Prop :=
  ∃ n, m.pq.lookup cpu = some n ∧ ∀ cpu' n', m.pq.lookup cpu' = some n' → n ≤ n'

/-- What the allocator promises of a call: a worker that is given a CPU is recorded with it and counted
there, and is taken out and counted no more when it releases it. -/
def Balances (checks : Bool) (cpus : List Cpu) (m : CpuSetManager) (c : CpuCall) : Prop :=
  Balanced cpus (step checks c m) ∧
    match c with
    | .alloc worker rank =>
      match alloc checks rank worker m with
      | .ok cpu t => Fewest m cpu ∧ ∃ n, m.pq.lookup cpu = some n ∧ n.toNat + 1 < 2 ^ 16 ∧
          t = ⟨m.pq.insert cpu (n + 1), m.allocations.insert worker cpu⟩
      | .err _ _ => False
      | .panic _ t => 2 ^ 16 ≤ m.allocated + 1 ∧ t = m
    | .release worker =>
      match m.allocations.lookup worker with
      | none => release checks worker m = .err (.allocationNotFound worker) m
      | some cpu => ∃ n, m.pq.lookup cpu = some n ∧ 1 ≤ n ∧
          release checks worker m = .ok () ⟨m.pq.insert cpu (n - 1), m.allocations.erase worker⟩

/-- The occupants of any two CPUs differ by at most one. -/
def Level (m : CpuSetManager) : Prop :=
  ∀ cpu n cpu' n', m.pq.lookup cpu = some n → m.pq.lookup cpu' = some n' → n.toNat ≤ n'.toNat + 1

section Calls
variable {m : CpuSetManager} {n : UInt16}

namespace CpuSetManager

theorem peek_some (h : m.peek rank = some (cpu, n)) :
    m.pq.lookup cpu = some n ∧ ∀ cpu' n', m.pq.lookup cpu' = some n' → n ≤ n' := by
  refine ⟨Table.mem_ordered.mp (List.argmin_mem h), fun cpu' n' look => ?_⟩
  have least := List.le_of_mem_argmin (Table.mem_ordered.mpr look) h
  exact UInt16.le_iff_toNat_le.mpr least

theorem peek_none (h : m.peek rank = none) : m.pq.lookup cpu = none := by
  have empty := List.argmin_eq_none.mp h
  by_contra queued
  obtain ⟨n, look⟩ := Option.ne_none_iff_exists'.mp queued
  have : (cpu, n) ∈ m.pq.ordered rank := Table.mem_ordered.mpr look
  simp [empty] at this

theorem lookup_ofCpus (cpus : List Cpu) (cpu : Cpu) :
    (ofCpus cpus).pq.lookup cpu = if cpu ∈ cpus then some 0 else none := by
  suffices ∀ pq : Table Cpu UInt16, (cpus.foldl (fun pq cpu => pq.insert cpu 0) pq).lookup cpu =
      if cpu ∈ cpus then some 0 else pq.lookup cpu from this ∅
  induction cpus with
  | nil => intro pq; rfl
  | cons first rest ih =>
    intro pq
    rw [List.foldl_cons, ih, Table.lookup_insert_ite]
    by_cases here : cpu = first <;> simp [here]

theorem occupants_le_allocated (m : CpuSetManager) (cpu : Cpu) : m.occupants cpu ≤ m.allocated := by
  unfold occupants allocated Table.total
  refine (List.sum_le_card_nsmul _ 1 ?_).trans (by simp)
  intro one mem
  obtain ⟨e, -, rfl⟩ := List.mem_map.mp mem
  dsimp only
  split <;> simp

theorem changePriority_of_queued (h : m.pq.lookup cpu = some n) (n' : UInt16) :
    changePriority cpu n' m = { m with pq := m.pq.insert cpu n' } := by
  have : cpu ∈ m.pq := AList.lookup_isSome.mp (by simp [h])
  rw [changePriority, if_pos this]

end CpuSetManager

theorem ofCpus_balanced (cpus : List Cpu) : Balanced cpus (ofCpus cpus) where
  known cpu := by rw [lookup_ofCpus]; split <;> simp_all
  assigned w cpu look := by cases look
  count cpu n look := by
    rw [lookup_ofCpus] at look
    split at look
    · cases look
      rfl
    · cases look

theorem occupants_insert (fresh : m.allocations.lookup worker = none) (pq : Table Cpu UInt16)
    (cpu cpu' : Cpu) :
    (⟨pq, m.allocations.insert worker cpu⟩ : CpuSetManager).occupants cpu' =
      m.occupants cpu' + if cpu = cpu' then 1 else 0 := by
  have added := Table.total_insert_add (f := fun _ c => if c = cpu' then 1 else 0) (k := worker)
    (v := cpu) (m := m.allocations)
  rw [fresh] at added
  exact added

theorem occupants_erase (has : m.allocations.lookup worker = some cpu) (pq : Table Cpu UInt16)
    (cpu' : Cpu) :
    (⟨pq, m.allocations.erase worker⟩ : CpuSetManager).occupants cpu' +
      (if cpu = cpu' then 1 else 0) = m.occupants cpu' := by
  have taken := Table.total_of_lookup (f := fun _ c => if c = cpu' then 1 else 0) has
  rw [Nat.add_comm] at taken
  exact taken.symm

theorem isSome_lookup_insert (look : m.pq.lookup cpu = some n) (n' : UInt16) (cpu' : Cpu) :
    ((m.pq.insert cpu n').lookup cpu').isSome ↔ (m.pq.lookup cpu').isSome := by
  rw [Table.lookup_insert_ite]
  split
  next same =>
    subst same
    simp [look]
  next => rfl

/-- One more occupant, of a CPU whose count has room. -/
theorem Balanced.insert (h : Balanced cpus m) (fresh : m.allocations.lookup worker = none)
    (look : m.pq.lookup cpu = some n) (room : n.toNat + 1 < 2 ^ 16) :
    Balanced cpus ⟨m.pq.insert cpu (n + 1), m.allocations.insert worker cpu⟩ where
  known cpu' := (isSome_lookup_insert look _ cpu').trans (h.known cpu')
  assigned w cpu' has := by
    rw [Table.lookup_insert_ite] at has
    split at has
    · cases has
      exact (h.known cpu).mp (by simp [look])
    · exact h.assigned w cpu' has
  count cpu' n' look' := by
    rw [occupants_insert fresh]
    rw [Table.lookup_insert_ite] at look'
    split at look'
    next same =>
      cases look'
      subst same
      rw [if_pos rfl, ← h.count cpu' n look, UInt16.toNat_add, UInt16.toNat_one,
        Nat.mod_eq_of_lt room]
    next other => rw [if_neg (Ne.symm other), h.count cpu' n' look', Nat.add_zero]

theorem Balanced.erase (h : Balanced cpus m) (has : m.allocations.lookup worker = some cpu)
    (look : m.pq.lookup cpu = some n) :
    1 ≤ n ∧ Balanced cpus ⟨m.pq.insert cpu (n - 1), m.allocations.erase worker⟩ := by
  have counted := occupants_erase has m.pq cpu
  rw [if_pos rfl, ← h.count cpu n look] at counted
  have occupied : 1 ≤ n := by
    rw [UInt16.le_iff_toNat_le, UInt16.toNat_one]
    omega
  refine ⟨occupied, ⟨fun cpu' => (isSome_lookup_insert look _ cpu').trans (h.known cpu'),
    fun w cpu' has' => ?_, fun cpu' n' look' => ?_⟩⟩
  · rw [Table.lookup_erase_ite] at has'
    split at has'
    · cases has'
    · exact h.assigned w cpu' has'
  · have rest := occupants_erase has (m.pq.insert cpu (n - 1)) cpu'
    rw [Table.lookup_insert_ite] at look'
    split at look'
    next same =>
      cases look'
      subst same
      rw [if_pos rfl, ← h.count cpu' n look] at rest
      rw [UInt16.toNat_sub_of_le _ _ occupied, UInt16.toNat_one]
      omega
    next other =>
      rw [if_neg (Ne.symm other)] at rest
      rw [h.count cpu' n' look', ← rest, Nat.add_zero]

/-- A CPU with the fewest occupants is allocated, or its count overflows. -/
theorem wp_alloc (h : Balanced cpus m) (configured : cpus ≠ [])
    (fresh : m.allocations.lookup worker = none) {Q : Post CpuSetManager CpuSetError Cpu}
    (ok : ∀ cpu n, m.pq.lookup cpu = some n →
      (∀ cpu' n', m.pq.lookup cpu' = some n' → n ≤ n') →
      (checks = true → n.toNat + 1 < 2 ^ 16) →
      Q.ok cpu ⟨m.pq.insert cpu (n + 1), m.allocations.insert worker cpu⟩)
    (panic : ∀ cpu n, m.pq.lookup cpu = some n → checks = true → 2 ^ 16 ≤ n.toNat + 1 →
      Q.panic "attempt to add with overflow" m) : wp (alloc checks rank worker) Q m := by
  simp only [alloc, wp_bind, wp_get, wp_expect]
  constructor
  · rintro ⟨cpu, n⟩ first
    obtain ⟨look, fewest⟩ := peek_some first
    simp only [addU16, wp_ite, wp_panicWith, wp_pure, wp_modify, wp_require, UInt16.toNat_one,
      changePriority_of_queued look]
    refine ⟨fun both => panic cpu n look both.1 both.2, fun fits => ?_⟩
    refine ⟨fun _ => ok cpu n look fewest fun isChecked => ?_, fun taken => absurd fresh taken⟩
    exact not_le.mp fun overflow => fits ⟨isChecked, overflow⟩
  · intro none
    obtain ⟨cpu, mem⟩ := List.exists_mem_of_ne_nil cpus configured
    have queued := (h.known cpu).mpr mem
    simp [peek_none none] at queued

theorem release_of_none (none : m.allocations.lookup worker = none) :
    release checks worker m = .err (.allocationNotFound worker) m := by
  refine eq_err_of_wp ?_
  simp [release, none]

/-- A worker's CPU always has an occupant to lose. -/
theorem release_of_some (checks : Bool) (h : Balanced cpus m) (has : m.allocations.lookup worker = some cpu) :
    ∃ n, m.pq.lookup cpu = some n ∧ 1 ≤ n ∧ release checks worker m =
      .ok () ⟨m.pq.insert cpu (n - 1), m.allocations.erase worker⟩ := by
  obtain ⟨n, look⟩ := Option.isSome_iff_exists.mp ((h.known cpu).mpr (h.assigned worker cpu has))
  have occupied := (h.erase has look).1
  have enough : ¬ (checks = true ∧ n < 1) := fun ⟨_, less⟩ => by
    rw [UInt16.lt_iff_toNat_lt] at less
    rw [UInt16.le_iff_toNat_le] at occupied
    omega
  refine ⟨n, look, occupied, eq_ok_of_wp ?_⟩
  simp only [release, wp_bind, wp_get, has, wp_modify, wp_expect, look, subU16, wp_ite,
    wp_panicWith, wp_pure]
  refine ⟨?_, nofun⟩
  rintro _ ⟨rfl⟩
  refine ⟨fun underflow => enough underflow, fun _ => ⟨trivial, ?_⟩⟩
  exact changePriority_of_queued (m := ⟨m.pq, m.allocations.erase worker⟩) look (n - 1)

theorem allocated_insert (fresh : m.allocations.lookup worker = none) (pq : Table Cpu UInt16)
    (cpu : Cpu) :
    (⟨pq, m.allocations.insert worker cpu⟩ : CpuSetManager).allocated = m.allocated + 1 := by
  unfold allocated
  rw [AList.entries_insert_of_notMem (AList.lookup_eq_none.mp fresh), List.length_cons]

theorem Balanced.count_le (h : Balanced cpus m) (look : m.pq.lookup cpu = some n) :
    n.toNat ≤ m.allocated :=
  (h.count cpu n look).trans_le (occupants_le_allocated m cpu)

/-- A call within the bounds. -/
def CpuCall.Fits (checks : Bool) (m : CpuSetManager) (c : CpuCall) : Prop :=
  c.Fresh m ∧ (checks = true ∨ (step checks c m).allocated < 2 ^ 16)

theorem alloc_cases (h : Balanced cpus m) (configured : cpus ≠ [])
    (fits : (CpuCall.alloc worker rank).Fits checks m) :
    (∃ cpu n, m.pq.lookup cpu = some n ∧ (∀ cpu' n', m.pq.lookup cpu' = some n' → n ≤ n') ∧
      n.toNat + 1 < 2 ^ 16 ∧ alloc checks rank worker m =
        .ok cpu ⟨m.pq.insert cpu (n + 1), m.allocations.insert worker cpu⟩) ∨
    2 ^ 16 ≤ m.allocated + 1 ∧
      alloc checks rank worker m = .panic "attempt to add with overflow" m := by
  obtain ⟨fresh, few⟩ := fits
  have ran : wp (alloc checks rank worker)
      { ok := fun cpu t => ∃ n, m.pq.lookup cpu = some n ∧
          (∀ cpu' n', m.pq.lookup cpu' = some n' → n ≤ n') ∧ (checks = true → n.toNat + 1 < 2 ^ 16) ∧
          t = ⟨m.pq.insert cpu (n + 1), m.allocations.insert worker cpu⟩,
        err := fun _ _ => False,
        panic := fun msg t => 2 ^ 16 ≤ m.allocated + 1 ∧ msg = "attempt to add with overflow" ∧
          t = m } m := by
    refine wp_alloc h configured fresh ?_ ?_
    · exact fun cpu n look fewest room => ⟨n, look, fewest, room, rfl⟩
    · exact fun cpu n look _ full => ⟨full.trans (Nat.succ_le_succ (h.count_le look)), rfl, rfl⟩
  unfold wp at ran
  cases ended : alloc checks rank worker m with
  | ok cpu t =>
    rw [ended] at ran
    obtain ⟨n, look, fewest, room, rfl⟩ := ran
    refine .inl ⟨cpu, n, look, fewest, ?_, rfl⟩
    rcases few with isChecked | few
    · exact room isChecked
    · rw [step, ended, Outcome.state, allocated_insert fresh] at few
      have := h.count_le look
      omega
  | err e t => rw [ended] at ran; exact ran.elim
  | panic msg t =>
    rw [ended] at ran
    obtain ⟨full, rfl, rfl⟩ := ran
    exact .inr ⟨full, rfl⟩

theorem step_balances {c : CpuCall} (h : Balanced cpus m) (configured : cpus ≠ [])
    (fits : c.Fits checks m) : Balances checks cpus m c := by
  unfold Balances step
  cases c with
  | alloc worker rank =>
    dsimp only
    rcases alloc_cases h configured fits with ⟨cpu, n, look, fewest, room, ran⟩ | ⟨full, ran⟩
    · rw [ran]
      exact ⟨h.insert fits.1 look room, ⟨n, look, fewest⟩, n, look, room, rfl⟩
    · rw [ran]
      exact ⟨h, full, rfl⟩
  | release worker =>
    dsimp only
    cases has : m.allocations.lookup worker with
    | none =>
      rw [release_of_none has]
      exact ⟨h, rfl⟩
    | some cpu =>
      obtain ⟨n, look, occupied, ran⟩ := release_of_some checks h has
      rw [ran]
      exact ⟨(h.erase has look).2, n, look, occupied, rfl⟩

theorem Level.alloc (level : Level m) (h : Balanced cpus m) (configured : cpus ≠ [])
    (fits : (CpuCall.alloc worker rank).Fits checks m) :
    Level (step checks (.alloc worker rank) m) := by
  unfold step
  dsimp only
  rcases alloc_cases h configured fits with ⟨cpu, n, look, fewest, room, ran⟩ | ⟨-, ran⟩
  · have more : (n + 1).toNat = n.toNat + 1 := by
      rw [UInt16.toNat_add, UInt16.toNat_one, Nat.mod_eq_of_lt room]
    rw [ran]
    intro a i b j lookA lookB
    simp only [Outcome.state, Table.lookup_insert_ite] at lookA lookB
    split at lookA <;> split at lookB
    · cases lookA
      cases lookB
      omega
    · cases lookA
      have := UInt16.le_iff_toNat_le.mp (fewest b j lookB)
      omega
    · cases lookB
      have := level a i cpu n lookA look
      omega
    · exact level a i b j lookA lookB
  · rw [ran]
    exact level

end Calls

section Runs
variable {calls : List CpuCall}

/-- The allocator keeps its counts: a CPU with the fewest occupants is allocated, and its count raised
by one until the worker releases it; a release without an allocation changes nothing, no count
underflows, and with fewer than 2 ^ 16 workers none overflows. As long as nothing is released the CPUs
stay level. -/
theorem cpuset_balances (configured : cpus ≠ [])
    (fresh : AllSteps (step checks) (fun m c => c.Fresh m) calls (ofCpus cpus))
    (few : checks = true ∨
      AllSteps (step checks) (fun m c => (step checks c m).allocated < 2 ^ 16) calls (ofCpus cpus)) :
    AllSteps (step checks) (Balances checks cpus) calls (ofCpus cpus) ∧
      ((∀ c ∈ calls, ∀ worker, c ≠ .release worker) →
        Level (calls.foldl (fun m c => step checks c m) (ofCpus cpus))) := by
  have fits : AllSteps (step checks) (fun m c => c.Fits checks m) calls (ofCpus cpus) := by
    refine fresh.and ?_
    rcases few with isChecked | few
    · exact (allSteps_true ..).mono fun _ _ _ => .inl isChecked
    · exact few.mono fun _ _ => .inr
  constructor
  · refine (allSteps_congr (I := Balanced cpus) (C := fun _ _ => True) ?_ ?_ (ofCpus_balanced cpus)
      fits).mpr (allSteps_true ..)
    · exact fun m c h fits => iff_of_true (step_balances h configured fits) trivial
    · exact fun m c h fits _ => (step_balances h configured fits).1
  · intro allocs
    have init : Level (ofCpus cpus) := by
      intro a i b j lookA lookB
      rw [lookup_ofCpus] at lookA lookB
      split at lookA <;> cases lookA
      exact Nat.zero_le _
    refine ((fits.and_mem allocs).invariant (I := fun m => Balanced cpus m ∧ Level m) ?_
      ⟨ofCpus_balanced cpus, init⟩).2
    rintro m c ⟨h, level⟩ ⟨fits, noRelease⟩
    refine ⟨(step_balances h configured fits).1, ?_⟩
    cases c with
    | alloc worker rank => exact level.alloc h configured fits
    | release worker => exact absurd rfl (noRelease worker)

/-- Two CPUs, one of them configured twice, in a build without overflow checks. -/
theorem cpuset_balances_twice :
    let calls := [.alloc 1 fun _ => 0, .alloc 2 fun _ => 0, .release 1, .release 1,
      .alloc 1 fun _ => 0, .alloc 3 fun _ => 0]
    AllSteps (step false) (Balances false [4, 7, 4]) calls (ofCpus [4, 7, 4]) := by
  intro calls
  exact (cpuset_balances (by decide) (by decide) (.inr (by decide))).1

end Runs

section Pool
variable {m t : CpuSetManager} {p : Pool} {i : Pool.Input}

/-- The Pool's allocator with the same CPUs and workers, and with counts that have no limit. -/
structure Represents (m : CpuSetManager) (cpus : Pool.CpuSetManager) : Prop where
  queued : ∀ k n, cpus.occupants.lookup k = some n ↔
    ∃ cpu occupants, m.pq.lookup cpu = some occupants ∧ cpu.toNat = k ∧ occupants.toNat = n
  allocated : ∀ w, cpus.allocations.lookup w = (m.allocations.lookup w).map UInt16.toNat

/-- A queue that has this CPU before all others. -/
def preferring (k : Nat) (cpu : Nat) : Nat := if cpu = k then 0 else 1

theorem peek_preferring {cpus : Pool.CpuSetManager} {k n : Nat}
    (look : cpus.occupants.lookup k = some n)
    (fewest : ∀ k' n', cpus.occupants.lookup k' = some n' → n ≤ n') :
    cpus.peek (preferring k) = some (k, n) := by
  have mem : (k, n) ∈ cpus.occupants.ordered (preferring k) := Table.mem_ordered.mpr look
  have sorted : (cpus.occupants.ordered (preferring k)).Pairwise
      fun a b => preferring k a.1 ≤ preferring k b.1 := List.pairwise_insertionSort _ _
  refine List.argmin_eq_some_iff.mpr ⟨mem, ?_, ?_⟩
  · rintro ⟨k', n'⟩ mem'
    exact fewest k' n' (Table.mem_ordered.mp mem')
  · intro e _ _
    cases ordered : cpus.occupants.ordered (preferring k) with
    | nil => simp [ordered] at mem
    | cons first rest =>
      rw [ordered] at mem sorted
      rcases List.mem_cons.mp mem with rfl | later
      · simp
      · have front : preferring k first.1 ≤ preferring k k := List.rel_of_pairwise_cons sorted later
        have same : first.1 = k := by
          by_contra other
          simp [preferring, other] at front
        have look' : cpus.occupants.lookup k = some first.2 := by
          have front : (k, first.2) ∈ cpus.occupants.ordered (preferring k) := by
            rw [ordered, ← same]
            simp
          exact Table.mem_ordered.mp front
        obtain rfl : first = (k, n) := Prod.ext same (by simpa [look'] using look)
        simp

theorem Represents.set {cpus : Pool.CpuSetManager} (h : Represents m cpus)
    {allocations : Table WorkerId Cpu} {allocations' : Table WorkerId Nat} (n : UInt16)
    (allocated : ∀ w, allocations'.lookup w = (allocations.lookup w).map UInt16.toNat) :
    Represents ⟨m.pq.insert cpu n, allocations⟩
      ⟨cpus.occupants.insert cpu.toNat n.toNat, allocations'⟩ where
  queued k n' := by
    simp only [Table.lookup_insert_ite]
    split
    next same =>
      subst same
      constructor
      · rintro ⟨rfl⟩
        exact ⟨cpu, n, if_pos rfl, rfl, rfl⟩
      · rintro ⟨cpu', occupants, look, same, rfl⟩
        obtain rfl := UInt16.toNat_inj.mp same
        rw [if_pos rfl] at look
        cases look
        rfl
    next other =>
      rw [h.queued]
      have ne {cpu' : Cpu} (is : cpu'.toNat = k) : cpu' ≠ cpu := by
        rintro rfl
        exact other is.symm
      constructor
      · rintro ⟨cpu', occupants, look, is, rfl⟩
        exact ⟨cpu', occupants, by rw [if_neg (ne is), look], is, rfl⟩
      · rintro ⟨cpu', occupants, look, is, rfl⟩
        rw [if_neg (ne is)] at look
        exact ⟨cpu', occupants, look, is, rfl⟩
  allocated := allocated

/-- The Pool's model covers the allocator: what is allocated here can be allocated there. -/
theorem alloc_represents (balanced : Balanced cpus m) (configured : cpus ≠ [])
    (fits : (CpuCall.alloc worker rank).Fits checks m) (h : Represents m p.cpuset)
    (ran : alloc checks rank worker m = .ok cpu t) :
    ∃ cpuset, Pool.cpuAlloc { i with cpuRank := preferring cpu.toNat } worker p =
        (.ok cpu.toNat { p with cpuset } : Outcome Pool Empty Nat) ∧ Represents t cpuset := by
  rcases alloc_cases balanced configured fits with ⟨cpu', n, look, fewest, room, ran'⟩ | ⟨-, ran'⟩
  · rw [ran] at ran'
    cases ran'
    have fresh : p.cpuset.allocations.lookup worker = none := by
      rw [h.allocated, show m.allocations.lookup worker = none from fits.1]
      rfl
    have first : p.cpuset.peek (preferring cpu.toNat) = some (cpu.toNat, n.toNat) := by
      refine peek_preferring ((h.queued _ _).mpr ⟨cpu, n, look, rfl, rfl⟩) ?_
      intro k' n' look'
      obtain ⟨other, count, queued, rfl, rfl⟩ := (h.queued _ _).mp look'
      exact UInt16.le_iff_toNat_le.mp (fewest other count queued)
    have more : (n + 1).toNat = n.toNat + 1 := by
      rw [UInt16.toNat_add, UInt16.toNat_one, Nat.mod_eq_of_lt room]
    refine ⟨⟨p.cpuset.occupants.insert cpu.toNat (n.toNat + 1),
      p.cpuset.allocations.insert worker cpu.toNat⟩, eq_ok_of_wp ?_, ?_⟩
    · simp [Pool.cpuAlloc, first, fresh]
    · refine more ▸ h.set (n + 1) fun w => ?_
      rw [Table.lookup_insert_ite, Table.lookup_insert_ite, h.allocated]
      split <;> rfl
  · rw [ran] at ran'
    cases ran'

theorem release_represents (balanced : Balanced cpus m) (h : Represents m p.cpuset) :
    match release checks worker m with
    | .ok _ t =>
      ∃ cpuset, Pool.cpuRelease worker p = .ok () { p with cpuset } ∧ Represents t cpuset
    | .err _ t =>
      Pool.cpuRelease worker p = .err (.allocationNotFound worker) p ∧ Represents t p.cpuset
    | .panic _ _ => False := by
  cases has : m.allocations.lookup worker with
  | none =>
    have none : p.cpuset.allocations.lookup worker = none := by rw [h.allocated, has]; rfl
    rw [release_of_none has]
    exact ⟨eq_err_of_wp (by simp [Pool.cpuRelease, none]), h⟩
  | some cpu =>
    obtain ⟨n, look, occupied, ran⟩ := release_of_some checks balanced has
    have has' : p.cpuset.allocations.lookup worker = some cpu.toNat := by rw [h.allocated, has]; rfl
    have look' : p.cpuset.occupants.lookup cpu.toNat = some n.toNat :=
      (h.queued _ _).mpr ⟨cpu, n, look, rfl, rfl⟩
    have less : (n - 1).toNat = n.toNat - 1 := by
      rw [UInt16.toNat_sub_of_le _ _ occupied, UInt16.toNat_one]
    rw [ran]
    refine ⟨⟨p.cpuset.occupants.insert cpu.toNat (n.toNat - 1),
      p.cpuset.allocations.erase worker⟩, eq_ok_of_wp ?_, ?_⟩
    · simp [Pool.cpuRelease, has', look']
    · refine less ▸ h.set (n - 1) fun w => ?_
      rw [Table.lookup_erase_ite, Table.lookup_erase_ite, h.allocated]
      split <;> rfl

end Pool

end CpuSet

end Snaplace
