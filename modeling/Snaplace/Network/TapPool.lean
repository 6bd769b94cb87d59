import Snaplace.Network.Availability

/-!
# Where the subnets of a tap pool are

The pool is run with the taps its users hold. A subnet of the parent is in one of three places: with
the IP pool, which has not issued it yet, in the free list, or with a live tap.
-/
namespace Snaplace
open Foundation

namespace Network

namespace FifoExactIpv4SubnetPool
variable {P : Nat} {pool q : FifoExactIpv4SubnetPool P} {s : Ipv4Net}

/-- Not handed out yet. -/
def Unissued (pool : FifoExactIpv4SubnetPool P) (s : Ipv4Net) : Prop :=
  s ∈ pool.iter ∧ s ∉ pool.taken

instance (pool : FifoExactIpv4SubnetPool P) : DecidablePred pool.Unissued :=
  fun _ => inferInstanceAs (Decidable (_ ∧ _))

theorem popFree_empty (queue : List Ipv4Net) : popFree ∅ queue = (none, []) := by
  induction queue with
  | nil => rfl
  | cons s queue ih => simpa [popFree] using ih

/-- Nothing has been given back to the pool: it issues what is next. -/
theorem getNext_of_freeSet (h : pool.freeSet = ∅) :
    pool.getNext = ((nextUntaken pool.taken pool.iter).1,
      { pool with freeQ := [], iter := (nextUntaken pool.taken pool.iter).2 }) := by
  simp only [getNext, h, popFree_empty]

/-- The subnet handed out has been issued, and no other one. -/
theorem getNext_unissued (h : pool.freeSet = ∅) (ascending : pool.iter.Pairwise (· < ·))
    (next : pool.getNext = (some s, q)) :
    pool.Unissued s ∧ q.freeSet = ∅ ∧ ∀ t, q.Unissued t ↔ pool.Unissued t ∧ t ≠ s := by
  rw [getNext_of_freeSet h] at next
  match ahead : nextUntaken pool.taken pool.iter with
  | (none, rest) => simp [ahead] at next
  | (some first, rest) =>
    simp only [ahead, Prod.mk.injEq, Option.some.injEq] at next
    obtain ⟨rfl, rfl⟩ := next
    obtain ⟨untaken, suffix, kept⟩ := nextUntaken_some ahead
    have sorted := ascending.sublist suffix.sublist
    refine ⟨⟨suffix.subset (by simp), untaken⟩, h, fun t => ?_⟩
    constructor
    · rintro ⟨mem, fresh⟩
      exact ⟨⟨suffix.subset (by simp [mem]), fresh⟩, (List.rel_of_pairwise_cons sorted mem).ne'⟩
    · rintro ⟨⟨mem, fresh⟩, other⟩
      exact ⟨(kept t mem fresh).resolve_left other, fresh⟩

theorem getNext_none_unissued (h : pool.freeSet = ∅) (next : pool.getNext = (none, q)) :
    q.freeSet = ∅ ∧ ∀ t, ¬ pool.Unissued t ∧ ¬ q.Unissued t := by
  rw [getNext_of_freeSet h] at next
  match ahead : nextUntaken pool.taken pool.iter with
  | (some first, rest) => simp [ahead] at next
  | (none, rest) =>
    simp only [ahead, Prod.mk.injEq, true_and] at next
    obtain ⟨rfl, isTaken⟩ := nextUntaken_none ahead
    subst next
    exact ⟨h, fun t => ⟨fun ⟨mem, untaken⟩ => untaken (isTaken t mem), by simp [Unissued]⟩⟩

/-- A subnet that has not been issued is granted, and then it has been. -/
theorem get_unissued (ascending : pool.iter.Pairwise (· < ·)) (fresh : pool.Unissued s) :
    pool.Requestable s ∧ ((pool.get s).2.freeSet = pool.freeSet) ∧
      ∀ t, (pool.get s).2.Unissued t ↔ pool.Unissued t ∧ t ≠ s := by
  obtain ⟨iter, taken, freeQ, freeSet⟩ := pool
  obtain ⟨mem, untaken⟩ := fresh
  cases iter with
  | nil => simp at mem
  | cons next rest =>
    obtain rfl | later := List.mem_cons.mp mem
    · simp only [Requestable, get, Unissued, lt_irrefl, if_false, if_true, true_or, true_and]
      intro t
      constructor
      · rintro ⟨mem, fresh⟩
        exact ⟨⟨by simp [mem], fresh⟩, (List.rel_of_pairwise_cons ascending mem).ne'⟩
      · rintro ⟨⟨mem, fresh⟩, other⟩
        exact ⟨(List.mem_cons.mp mem).resolve_left other, fresh⟩
    · have lt := List.rel_of_pairwise_cons ascending later
      have untaken' : s ∉ taken := untaken
      simp only [Requestable, get, Unissued, lt, untaken', if_true, if_false, Finset.mem_insert,
        not_or, not_false_eq_true, true_and]
      intro t
      tauto

theorem get_freeSet : (pool.get s).2.freeSet ⊆ pool.freeSet := by
  obtain ⟨iter, taken, freeQ, freeSet⟩ := pool
  have erased := Finset.erase_subset s freeSet
  cases iter <;> simp only [get] <;> split_ifs <;> first | exact erased | exact subset_rfl

end FifoExactIpv4SubnetPool

namespace PoolTapDevices
variable {p q : PoolTapDevices} {all : List Ipv4Net} {S : Ipv4Net}
  {pool : FifoExactIpv4SubnetPool PREFIX_LEN}

/-- Nothing is ever given back to the IP pool, and what is in the free list is a device there under
its own subnet. -/
structure Stocked (all : List Ipv4Net) (p : PoolTapDevices) : Prop where
  fit : p.ipPool.Fit all
  unreturned : p.ipPool.freeSet = ∅
  keyed : ∀ t ∈ p.free, ∃ device, t.2 = .device device ∧ device.info.subnet = t.1

theorem reserve_spec (n : Nat) (long : ∀ s ∈ pool.iter, s.prefixLen = PREFIX_LEN)
    (fresh : pool.taken = ∅) (empty : pool.freeQ = []) :
    Handler.wp (reserve n)
      { ok := fun tasks q => pool.iter = tasks.map Prod.fst ++ q.iter ∧
          q = { pool with iter := q.iter } ∧ ∀ t ∈ tasks, t.2 = t.1.tapInfo,
        err := fun _ _ => True } pool := by
  induction n generalizing pool with
  | zero => simp [reserve]
  | succ n ih =>
    obtain ⟨iter, taken, freeQ, freeSet⟩ := pool
    subst fresh empty
    simp only [reserve, nextSubnet, Handler.wp_bind, Handler.wp_modifyGet]
    cases iter with
    | nil => trivial
    | cons s iter =>
      have length := long s (by simp)
      simp only [FifoExactIpv4SubnetPool.getNext, popFree, nextUntaken, Finset.notMem_empty,
        if_false, Handler.wp_bind, subnetInfo_eq length, Handler.wp_pure]
      refine Handler.wp_mono (ih (fun t mem => long t (by simp [mem])) rfl rfl) ?_
        (fun _ _ _ => trivial) fun _ _ => False.elim
      rintro tasks q ⟨ahead, same, taps⟩
      exact ⟨by simpa using ahead, same, by simpa using taps⟩

/-- The results of tasks that all succeed, task by task. -/
theorem forall₂_of_mapM {α β ε : Type} {f : α → Except ε β} {xs : List α} {ys : List β}
    (h : xs.mapM f = .ok ys) : List.Forall₂ (fun x y => f x = .ok y) xs ys := by
  induction xs generalizing ys with
  | nil =>
    cases h
    exact .nil
  | cons x xs ih =>
    rw [List.mapM_cons] at h
    cases one : f x with
    | error err => simp [one, bind, Except.bind] at h
    | ok y =>
      cases rest : xs.mapM f with
      | error err => simp [one, rest, bind, Except.bind] at h
      | ok ys' =>
        simp only [one, rest, bind, Except.bind, pure, Except.pure, Except.ok.injEq] at h
        subst h
        exact .cons one (ih rest)

theorem mapM_built {link : TapInfo → Link} {tasks : List (Ipv4Net × TapInfo)}
    {free : List (Ipv4Net × Tap)}
    (built : tasks.mapM (fun t => (TapBuilder.buildOrAdopt { info := t.2 } (link t.2)).map
      fun tap => (t.1, Tap.device tap)) = .ok free) :
    free.map Prod.fst = tasks.map Prod.fst ∧
      ∀ t ∈ free, ∃ info device, (t.1, info) ∈ tasks ∧ t.2 = .device device ∧
        device.BuiltFrom info := by
  have made := forall₂_of_mapM built
  clear built
  induction made with
  | nil => simp
  | @cons task made tasks free one rest ih =>
    obtain ⟨subnets, devices⟩ := ih
    cases ran : TapBuilder.buildOrAdopt { info := task.2 } (link task.2) with
    | error err => simp [ran, Except.map] at one
    | ok device =>
      obtain rfl : (task.1, Tap.device device) = made := by simpa [ran, Except.map] using one
      refine ⟨by simp [subnets], ?_⟩
      rintro t (_ | ⟨_, mem⟩)
      · exact ⟨task.2, device, by simp, rfl, TapBuilder.buildOrAdopt_builtFrom ran⟩
      · obtain ⟨info, device, mem, same, builtFrom⟩ := devices t mem
        exact ⟨info, device, by simp [mem], same, builtFrom⟩

/-- At the start the free list has devices for the first subnets, in some order. -/
theorem new_spec {subnets : Subnets} {config : PoolTapsConfig} {link : TapInfo → Link}
    {finished : Ipv4Net → Nat} (complete : subnets.Complete)
    (new : new subnets config link finished = .ok p ()) :
    ∃ all, subnets config.subnet PREFIX_LEN = .ok all ∧
      p.ipPool = { iter := p.ipPool.iter, taken := ∅, freeQ := [], freeSet := ∅ } ∧
      (∃ issued, all = issued ++ p.ipPool.iter ∧ (p.free.map Prod.fst).Perm issued) ∧
      ∀ t ∈ p.free, ∃ device, t.2 = .device device ∧ device.BuiltFrom t.1.tapInfo := by
  simp only [PoolTapDevices.new] at new
  match listed : subnets config.subnet PREFIX_LEN with
  | .error err =>
    simp [FifoExactIpv4SubnetPool.new, listed, Except.mapError, bind, Except.bind] at new
  | .ok all =>
    have long : ∀ s ∈ all, s.prefixLen = PREFIX_LEN :=
      fun s mem => ((complete _ _ all listed s).mp mem).length
    simp only [FifoExactIpv4SubnetPool.new, listed, Except.mapError, bind, Except.bind, pure,
      Except.pure] at new
    split at new
    · cases new
    · cases new
    · rename_i tasks ipPool reserved
      have spec := @reserve_spec { iter := all, taken := ∅, freeQ := [], freeSet := ∅ }
        (min (2 ^ (PREFIX_LEN - config.subnet.prefixLen)) (min config.capacity MAX_POOL_SIZE))
        long rfl rfl
      unfold Handler.wp at spec
      rw [reserved] at spec
      obtain ⟨ahead, same, taps⟩ := spec
      split at new
      · cases new
      · rename_i free built
        cases new
        obtain ⟨names, devices⟩ := mapM_built built
        have perm := List.perm_insertionSort (fun a b => finished a.1 ≤ finished b.1) tasks
        refine ⟨all, rfl, same, ⟨_, ahead, names ▸ perm.map Prod.fst⟩, fun t mem => ?_⟩
        obtain ⟨info, device, mem, made, builtFrom⟩ := devices t mem
        obtain rfl : info = t.1.tapInfo := taps _ (perm.mem_iff.mp mem)
        exact ⟨device, made, builtFrom⟩

/-- `alloc` returns a builder: the free list is empty, and the IP pool is not. -/
def Lazy (p : PoolTapDevices) : Prop := p.free = [] ∧ p.ipPool.getNext.1 ≠ none

instance (p : PoolTapDevices) : Decidable p.Lazy := inferInstanceAs (Decidable (_ ∧ _))

theorem takesBack (long : ∀ s ∈ all, s.prefixLen = PREFIX_LEN) :
    TakesBack provider (Stocked all) Lazy Tap.IsDevice where
  alloc p h := by
    apply Handler.wp_mono (alloc_spec long h.fit) _ _ fun _ _ => False.elim
    · rintro tap ⟨ipPool, free⟩ (⟨subnet, front, same⟩ | ⟨empty, after, S, next, made, -⟩)
      · dsimp only at front same
        subst same
        obtain ⟨device, made, -⟩ := h.keyed (subnet, tap) (by simp [front])
        refine ⟨⟨h.fit, h.unreturned, fun t mem => h.keyed t (by simp [front, mem])⟩, ?_⟩
        simp [Lazy, front, show tap = _ from made, Tap.IsDevice]
      · dsimp only at after next
        subst after
        refine ⟨⟨(FifoExactIpv4SubnetPool.getNext_some h.fit next).1, ?_, by simp⟩, ?_⟩
        · rw [FifoExactIpv4SubnetPool.getNext_of_freeSet h.unreturned] at next
          exact (congrArg FifoExactIpv4SubnetPool.freeSet (Prod.mk.inj next).2).symm.trans
            h.unreturned
        · simp [Lazy, empty, next, made, Tap.IsDevice]
    · rintro e ⟨ipPool, free⟩ ⟨-, empty, after, next⟩
      dsimp only at after next
      subst after
      refine ⟨⟨(FifoExactIpv4SubnetPool.getNext_none h.fit next).1, ?_, by simp⟩, ?_⟩
      · exact (FifoExactIpv4SubnetPool.getNext_none_unissued h.unreturned next).1
      · simp [Lazy, next]
  request tapInfo link p h := by
    have unreturned {S : Ipv4Net} : (p.ipPool.get S).2.freeSet = ∅ :=
      Finset.subset_empty.mp (h.unreturned ▸ FifoExactIpv4SubnetPool.get_freeSet)
    apply Handler.wp_mono (request_spec tapInfo link) _ _ fun _ _ => False.elim
    · rintro tap _ (⟨front, back, split, rfl⟩ | ⟨-, device, made, -, -, rfl⟩)
      · obtain ⟨device, made, -⟩ := h.keyed (tapInfo.subnet, tap) (by simp [split])
        obtain rfl : tap = .device device := made
        refine ⟨⟨h.fit, h.unreturned, fun t mem => h.keyed t ?_⟩, trivial⟩
        rw [split]
        simp only [List.mem_append, List.mem_cons] at mem ⊢
        tauto
      · exact ⟨⟨h.fit.get_fit, unreturned, h.keyed⟩, made ▸ trivial⟩
    · rintro e _ ⟨-, -, rfl⟩
      exact ⟨h.fit.get_fit, unreturned, h.keyed⟩
  dealloc destroyed tap p h := by
    cases tap with
    | builder b => exact ⟨h, id⟩
    | device d =>
      exact ⟨⟨h.fit, h.unreturned, List.forall_mem_cons.mpr ⟨⟨d, rfl, rfl⟩, h.keyed⟩⟩, trivial⟩
  shutdown _ p h := ⟨h.fit, h.unreturned, by simp⟩

end PoolTapDevices

/-- A pool with the taps that are in use. -/
structure TapUse where
  pool : PoolTapDevices
  live : List Tap
  deriving DecidableEq

inductive TapEvent where
  | alloc
  | request (tapInfo : TapInfo) (link : Link)
  /-- The holder of a builder builds its device. -/
  | built (builder : TapBuilder) (link : Link)
  | dealloc (tap : Tap)
  deriving DecidableEq, Repr

namespace TapUse

/-- What has been handed out is in use. -/
def hold (live : List Tap) : Outcome PoolTapDevices NetworkError Tap → TapUse
  | .ok tap pool => { pool, live := tap :: live }
  | .err _ pool | .panic _ pool => { pool, live }

def next : TapEvent → TapUse → TapUse
  | .alloc, s => hold s.live (PoolTapDevices.alloc s.pool)
  | .request tapInfo link, s => hold s.live (PoolTapDevices.request tapInfo link s.pool)
  | .built builder link, s =>
    match builder.build link with
    | .ok device => { s with live := .device device :: s.live.erase (.builder builder) }
    | .error _ => s
  | .dealloc tap, s =>
    { pool := (PoolTapDevices.dealloc tap s.pool).state, live := s.live.erase tap }

/-- The subnets of the taps in use. -/
def held (s : TapUse) : List Ipv4Net := s.live.map (·.info.subnet)

/-- The subnets of the taps in the free list. -/
def stored (s : TapUse) : List Ipv4Net := s.pool.free.map Prod.fst

/-- Only devices in use are given back, and a request is for a subnet of the parent that is not in
use, with a device that can be built. -/
def Allowed (parent : Ipv4Net) (s : TapUse) : TapEvent → Prop
  | .alloc => True
  | .request tapInfo link => parent.IsSubnet PREFIX_LEN tapInfo.subnet ∧
      tapInfo.subnet ∉ s.held ∧
      (TapBuilder.buildOrAdopt { info := tapInfo } link).toOption.isSome
  | .built builder _ => .builder builder ∈ s.live
  | .dealloc tap => tap ∈ s.live ∧ ∃ device, tap = .device device

instance (parent : Ipv4Net) (s : TapUse) : (e : TapEvent) → Decidable (Allowed parent s e)
  | .alloc => isTrue trivial
  | .request tapInfo link => inferInstanceAs (Decidable (parent.IsSubnet PREFIX_LEN tapInfo.subnet ∧
      tapInfo.subnet ∉ s.held ∧
      (TapBuilder.buildOrAdopt { info := tapInfo } link).toOption.isSome))
  | .built builder _ => inferInstanceAs (Decidable (Tap.builder builder ∈ s.live))
  | .dealloc (.device device) =>
    decidable_of_iff (Tap.device device ∈ s.live) ⟨fun mem => ⟨mem, device, rfl⟩, And.left⟩
  | .dealloc (.builder _) => isFalse nofun

/-- How often a subnet is found in the three places together. -/
def places (s : TapUse) (S : Ipv4Net) : Nat :=
  (if s.pool.ipPool.Unissued S then 1 else 0) + s.stored.count S + s.held.count S

/-- Every subnet is in one place, and there are no others. -/
structure Sound (all : List Ipv4Net) (s : TapUse) : Prop where
  stocked : s.pool.Stocked all
  conserved : ∀ S ∈ all, s.places S = 1
  inside : ∀ S, S ∈ s.stored ∨ S ∈ s.held → S ∈ all

variable {all : List Ipv4Net} {parent S : Ipv4Net} {s t : TapUse} {p q : PoolTapDevices}
  {live : List Tap} {tap : Tap}

/-- What an event moves from one place to another is conserved. -/
theorem Sound.moved (h : Sound all s) (stocked : t.pool.Stocked all)
    (same : ∀ S ∈ all, t.places S = s.places S)
    (inside : ∀ S, S ∈ t.stored ∨ S ∈ t.held → S ∈ s.stored ∨ S ∈ s.held ∨ S ∈ all) :
    Sound all t where
  stocked := stocked
  conserved S mem := (same S mem).trans (h.conserved S mem)
  inside S mem := by
    obtain old | old | new := inside S mem
    · exact h.inside S (.inl old)
    · exact h.inside S (.inr old)
    · exact new

/-- A tap is taken from the free list. -/
theorem Sound.takeStored {front back : List (Ipv4Net × Tap)} (h : Sound all { pool := p, live })
    (split : p.free = front ++ (S, tap) :: back) :
    Sound all { pool := { p with free := front ++ back }, live := tap :: live } := by
  obtain ⟨device, rfl, named⟩ := h.stocked.keyed (S, tap) (by simp [split])
  apply h.moved
  · refine ⟨h.stocked.fit, h.stocked.unreturned, fun t mem => h.stocked.keyed t ?_⟩
    rw [split]
    simp only [List.mem_append, List.mem_cons] at mem ⊢
    tauto
  · intro N _
    simp only [places, stored, held, split, List.map_append, List.map_cons, List.count_append,
      List.count_cons, Tap.info_device, named]
    omega
  · intro N mem
    simp only [stored, held, split, List.map_append, List.map_cons, List.mem_append, List.mem_cons,
      Tap.info_device, named] at mem ⊢
    tauto

/-- A subnet is issued by the IP pool, with a tap that names it. -/
theorem Sound.issue (tap : Tap) {ipPool : FifoExactIpv4SubnetPool PREFIX_LEN}
    (h : Sound all { pool := p, live }) (fit : ipPool.Fit all) (unreturned : ipPool.freeSet = ∅)
    (fresh : p.ipPool.Unissued tap.info.subnet)
    (issued : ∀ N, ipPool.Unissued N ↔ p.ipPool.Unissued N ∧ N ≠ tap.info.subnet) :
    Sound all { pool := { p with ipPool }, live := tap :: live } := by
  apply h.moved
  · exact ⟨fit, unreturned, h.stocked.keyed⟩
  · intro N _
    simp only [places, stored, held, List.map_cons, List.count_cons, issued, beq_iff_eq]
    by_cases same : tap.info.subnet = N
    · subst same
      simp [fresh]
      omega
    · simp [same, Ne.symm same]
  · intro N mem
    obtain old | new := mem
    · exact .inl old
    · obtain rfl | old := List.mem_cons.mp new
      · exact .inr (.inr (h.stocked.fit.ahead.subset fresh.1))
      · exact .inr (.inl old)

theorem Sound.alloc (h : Sound all s) (ascending : all.Pairwise (· < ·))
    (long : ∀ S ∈ all, S.prefixLen = PREFIX_LEN) (aligned : ∀ S ∈ all, S.network = S) :
    Sound all (next .alloc s) := by
  obtain ⟨p, live⟩ := s
  have fit : p.ipPool.Fit all := h.stocked.fit
  have sorted := ascending.sublist fit.ahead.sublist
  have spec := PoolTapDevices.alloc_spec long fit
  simp only [next]
  unfold Handler.wp at spec
  cases ran : PoolTapDevices.alloc p with
  | ok tap q =>
    rw [ran] at spec
    obtain ⟨ipPool, free⟩ := q
    obtain ⟨subnet, front, same⟩ | ⟨empty, after, S, next, rfl, length⟩ := spec
    · dsimp only at front same
      subst same
      have sound := h.takeStored front
      rwa [List.append_nil] at sound
    · dsimp only at after next
      obtain ⟨fresh, unreturned, issued⟩ :=
        FifoExactIpv4SubnetPool.getNext_unissued h.stocked.unreturned sorted next
      have named : (Tap.builder { info := S.tapInfo }).info.subnet = S :=
        (S.tapInfo_subnet length).trans (aligned S (fit.ahead.subset fresh.1))
      have sound := h.issue (.builder { info := S.tapInfo })
        (FifoExactIpv4SubnetPool.getNext_some fit next).1 unreturned (by rwa [named])
        (by simpa only [named] using issued)
      simpa only [hold, empty, after] using sound
  | err e q =>
    rw [ran] at spec
    obtain ⟨-, empty, after, next⟩ := spec
    obtain ⟨ipPool, free⟩ := q
    obtain ⟨unreturned, none⟩ :=
      FifoExactIpv4SubnetPool.getNext_none_unissued h.stocked.unreturned next
    apply h.moved
    · exact ⟨(FifoExactIpv4SubnetPool.getNext_none fit next).1, unreturned,
        fun t mem => by simp_all [hold]⟩
    · intro N _
      simp_all [places, stored, held, hold]
    · simp_all [stored, held, hold]
  | panic msg q =>
    rw [ran] at spec
    exact spec.elim

/-- A subnet that no live tap has and that is not in the free list has not been issued. -/
theorem Sound.unissued (h : Sound all s) (mem : S ∈ all) (unheld : S ∉ s.held)
    (unstored : S ∉ s.stored) : s.pool.ipPool.Unissued S := by
  have one := h.conserved S mem
  rw [places, List.count_eq_zero.mpr unheld, List.count_eq_zero.mpr unstored] at one
  by_contra issued
  simp [issued] at one

theorem Sound.request {tapInfo : TapInfo} {link : Link} (h : Sound all s)
    (ascending : all.Pairwise (· < ·)) (complete : ∀ S, S ∈ all ↔ parent.IsSubnet PREFIX_LEN S)
    (allowed : Allowed parent s (.request tapInfo link)) :
    Sound all (next (.request tapInfo link) s) := by
  obtain ⟨p, live⟩ := s
  obtain ⟨inside, unheld, built⟩ := allowed
  have mem := (complete tapInfo.subnet).mpr inside
  have sorted := ascending.sublist h.stocked.fit.ahead.sublist
  have spec := PoolTapDevices.request_spec (p := p) tapInfo link
  simp only [next]
  unfold Handler.wp at spec
  cases ran : PoolTapDevices.request tapInfo link p with
  | ok tap q =>
    rw [ran] at spec
    obtain ⟨front, back, split, rfl⟩ | ⟨unstored, device, rfl, made, -, rfl⟩ := spec
    · exact h.takeStored split
    · have fresh := h.unissued mem unheld unstored
      have named : (Tap.device device).info.subnet = tapInfo.subnet := by
        simp only [Tap.info_device, TapInfo.subnet, (TapBuilder.buildOrAdopt_builtFrom made).gateway]
      obtain ⟨-, unchanged, issued⟩ := FifoExactIpv4SubnetPool.get_unissued sorted fresh
      apply h.issue _ h.stocked.fit.get_fit (unchanged.trans h.stocked.unreturned)
      · rwa [named]
      · simpa only [named] using issued
  | err e q =>
    -- The subnet has not been issued, so the request is granted.
    rw [ran] at spec
    obtain ⟨unstored, failed, -⟩ := spec
    have granted :=
      (FifoExactIpv4SubnetPool.get_unissued sorted (h.unissued mem unheld unstored)).1
    have never := failed granted
    cases made : TapBuilder.buildOrAdopt { info := tapInfo } link with
    | ok device => exact absurd made (never device)
    | error err => simp [made, Except.toOption] at built
  | panic msg q =>
    rw [ran] at spec
    exact spec.elim

theorem held_erase_perm (mem : tap ∈ s.live) :
    s.held.Perm (tap.info.subnet :: (s.live.erase tap).map (·.info.subnet)) := by
  simpa [held] using (List.perm_cons_erase mem).map (·.info.subnet)

theorem Sound.built {builder : TapBuilder} {link : Link} (h : Sound all s)
    (mem : .builder builder ∈ s.live) : Sound all (next (.built builder link) s) := by
  simp only [next]
  cases made : builder.build link with
  | error err => exact h
  | ok device =>
    have named : device.info.subnet = builder.info.subnet := by
      simp only [TapInfo.subnet, (TapBuilder.build_builtFrom made).gateway]
    have perm := held_erase_perm mem
    have same : TapUse.held
        { s with live := .device device :: s.live.erase (.builder builder) } =
        builder.info.subnet :: (s.live.erase (.builder builder)).map (·.info.subnet) := by
      simp [held, Tap.info_device, named]
    refine h.moved (t := { s with live := .device device :: s.live.erase (.builder builder) })
      h.stocked (fun N _ => ?_) fun N old => ?_
    · simp only [places, same, perm.count_eq N]
      rfl
    · rw [same] at old
      have inside := perm.mem_iff (a := N)
      simp only [Tap.info_builder] at inside
      tauto

theorem Sound.dealloc {device : TapDevice} (h : Sound all s) (mem : .device device ∈ s.live) :
    Sound all (next (.dealloc (.device device)) s) := by
  have perm := held_erase_perm mem
  have result : next (.dealloc (.device device)) s =
      { pool := { s.pool with free := (device.info.subnet, .device device) :: s.pool.free }
        live := s.live.erase (.device device) } := rfl
  rw [result]
  apply h.moved
  · refine ⟨h.stocked.fit, h.stocked.unreturned, ?_⟩
    rintro t (_ | ⟨_, old⟩)
    · exact ⟨device, rfl, rfl⟩
    · exact h.stocked.keyed t old
  · intro N _
    have counts := perm.count_eq N
    simp only [held, List.count_cons, Tap.info_device] at counts
    simp only [places, stored, held, List.map_cons, List.count_cons, counts]
    omega
  · intro N old
    have inside := perm.mem_iff (a := N)
    simp only [stored, held, List.map_cons, List.mem_cons, Tap.info_device] at old inside ⊢
    tauto

theorem Sound.next (h : Sound all s) (ascending : all.Pairwise (· < ·))
    (complete : ∀ S, S ∈ all ↔ parent.IsSubnet PREFIX_LEN S) (e : TapEvent)
    (allowed : Allowed parent s e) : Sound all (next e s) := by
  cases e with
  | alloc =>
    exact h.alloc ascending (fun S mem => ((complete S).mp mem).length)
      fun S mem => ((complete S).mp mem).network_eq
  | request tapInfo link => exact h.request ascending complete allowed
  | built builder link => exact h.built allowed
  | dealloc tap =>
    obtain ⟨mem, device, rfl⟩ := allowed
    exact h.dealloc mem

/-- All subnets that the pool starts with are ahead of its iterator or in its free list. -/
theorem Sound.start {subnets : Subnets} {config : PoolTapsConfig} {link : TapInfo → Link}
    {finished : Ipv4Net → Nat} (complete : subnets.Complete) (ascending : subnets.Ascending)
    (new : PoolTapDevices.new subnets config link finished = .ok p ()) :
    ∃ all, subnets config.subnet PREFIX_LEN = .ok all ∧ Sound all { pool := p, live := [] } := by
  obtain ⟨all, listed, fresh, ⟨issued, rfl, perm⟩, devices⟩ :=
    PoolTapDevices.new_spec complete new
  have distinct := (ascending _ _ _ listed).imp fun lt => ne_of_lt lt
  have member := complete _ _ _ listed
  obtain ⟨ipPool, free⟩ := p
  dsimp only at fresh perm listed distinct member devices
  generalize ipPool.iter = iter at fresh listed distinct member
  subst fresh
  refine ⟨issued ++ iter, listed, ?_, fun S mem => ?_, fun S mem => ?_⟩
  · refine ⟨⟨List.suffix_append .., by simp, by simp⟩, rfl, fun t mem => ?_⟩
    obtain ⟨device, made, builtFrom⟩ := devices t mem
    have inside : t.1 ∈ issued := perm.mem_iff.mp (List.mem_map_of_mem mem)
    have aligned := ((member t.1).mp (by simp [inside])).network_eq
    refine ⟨device, made, Eq.trans ?_ aligned⟩
    rw [← Ipv4Net.tapInfo_subnet ((member t.1).mp (by simp [inside])).length]
    simp only [TapInfo.subnet, builtFrom.gateway]
  · have one : (issued ++ iter).count S = 1 :=
      List.count_eq_one_of_mem (List.nodup_iff_pairwise_ne.mpr distinct) mem
    have ahead : iter.count S = if S ∈ iter then 1 else 0 := by
      have once : iter.Nodup := distinct.sublist (List.sublist_append_right ..)
      split
      · exact List.count_eq_one_of_mem once ‹_›
      · exact List.count_eq_zero.mpr ‹_›
    rw [List.count_append] at one
    simp only [places, stored, held, perm.count_eq S, FifoExactIpv4SubnetPool.Unissued,
      Finset.notMem_empty, not_false_eq_true, and_true, List.map_nil, List.count_nil]
    omega
  · simp only [stored, held, List.map_nil, List.not_mem_nil, or_false] at mem
    exact List.mem_append_left _ (perm.mem_iff.mp mem)

/-- No two taps in use have the same subnet. -/
theorem Sound.nodup (h : Sound all s) : s.held.Nodup := by
  rw [List.nodup_iff_count_le_one]
  intro S
  by_cases mem : S ∈ s.held
  · have one := h.conserved S (h.inside S (.inr mem))
    rw [places] at one
    omega
  · rw [List.count_eq_zero.mpr mem]
    omega

/-- Nothing is left to be allocated: every subnet is in use. -/
theorem Sound.exhausted {err : NetworkError} (h : Sound all s)
    (long : ∀ S ∈ all, S.prefixLen = PREFIX_LEN)
    (failed : PoolTapDevices.alloc s.pool = .err err q) (mem : S ∈ all) : s.held.count S = 1 := by
  have spec := PoolTapDevices.alloc_spec long h.stocked.fit
  unfold Handler.wp at spec
  rw [failed] at spec
  obtain ⟨-, empty, -, next⟩ := spec
  have none := FifoExactIpv4SubnetPool.getNext_none_unissued h.stocked.unreturned next
  have one := h.conserved S mem
  simpa [places, stored, empty, (none.2 S).1] using one

end TapUse

/-- The VM's address is one of the subnet that the gateway names. -/
def TapInfo.Sits (info : TapInfo) : Prop := info.ipAddr ∈ info.subnet.hosts

def TapInfo.addresses (info : TapInfo) : List Nat := [info.gateway, info.ipAddr]

/-- A /31 has two addresses. -/
theorem TapInfo.sits_iff {info : TapInfo} : info.Sits ↔ info.ipAddr / 2 = info.gateway / 2 := by
  have hosts : info.subnet.hosts = _ := Ipv4Net.hosts_of_length rfl
  have addr : info.subnet.network.addr = info.gateway - info.gateway % 2 :=
    Ipv4Net.network_addr rfl
  rw [Sits, hosts, addr, List.mem_pair]
  omega

theorem Ipv4Net.tapInfo_sits {S : Ipv4Net} (length : S.prefixLen = PREFIX_LEN) :
    S.tapInfo.Sits := by
  rw [TapInfo.sits_iff]
  have addr := network_addr length
  change (S.network.addr + 1) / 2 = S.network.addr / 2
  omega

theorem TapDevice.BuiltFrom.sits {device : TapDevice} {info : TapInfo}
    (built : device.BuiltFrom info) (sits : info.Sits) : device.info.Sits := by
  simpa only [TapInfo.Sits, TapInfo.subnet, built.gateway, built.ipAddr] using sits

theorem TapInfo.even_gateway {info : TapInfo} (aligned : info.subnet.network = info.subnet) :
    info.gateway % 2 = 0 := by
  have same : info.gateway - info.gateway % 2 = info.gateway :=
    (Ipv4Net.network_addr rfl).symm.trans (congrArg Ipv4Net.addr aligned)
  omega

/-- Taps of different subnets have no address in common. -/
theorem addresses_disjoint {a b : TapInfo} (differ : a.subnet ≠ b.subnet)
    (first : a.subnet.network = a.subnet) (second : b.subnet.network = b.subnet) (sits : a.Sits)
    (sits' : b.Sits) : a.addresses.Disjoint b.addresses := by
  have gateways : a.gateway ≠ b.gateway := fun same => differ (by simp [TapInfo.subnet, same])
  have even := TapInfo.even_gateway first
  have even' := TapInfo.even_gateway second
  rw [TapInfo.sits_iff] at sits sits'
  intro x mem mem'
  rw [TapInfo.addresses, List.mem_pair] at mem mem'
  omega

namespace TapUse
variable {all : List Ipv4Net} {parent : Ipv4Net} {s : TapUse}

/-- The taps in the free list and in use have both their addresses in their subnet. -/
def AllSit (s : TapUse) : Prop :=
  (∀ t ∈ s.pool.free, t.2.info.Sits) ∧ ∀ tap ∈ s.live, tap.info.Sits

/-- The VM's address that is requested is one of the subnet requested. -/
def Fitting : TapEvent → Prop
  | .request tapInfo _ => tapInfo.Sits
  | _ => True

theorem AllSit.alloc (h : AllSit s) (sound : Sound all s)
    (long : ∀ S ∈ all, S.prefixLen = PREFIX_LEN) : AllSit (next .alloc s) := by
  obtain ⟨p, live⟩ := s
  obtain ⟨free, inUse⟩ := h
  have spec := PoolTapDevices.alloc_spec long sound.stocked.fit
  simp only [next]
  unfold Handler.wp at spec
  cases ran : PoolTapDevices.alloc p with
  | ok tap q =>
    rw [ran] at spec
    obtain ⟨subnet, front, -⟩ | ⟨-, after, S, -, rfl, length⟩ := spec
    · dsimp only at free inUse
      rw [front, List.forall_mem_append] at free
      exact ⟨free.1, List.forall_mem_cons.mpr ⟨by simpa using free.2, inUse⟩⟩
    · exact ⟨by simp [hold, after], List.forall_mem_cons.mpr ⟨S.tapInfo_sits length, inUse⟩⟩
  | err e q =>
    rw [ran] at spec
    obtain ⟨-, -, after, -⟩ := spec
    exact ⟨by simp [hold, after], inUse⟩
  | panic msg q =>
    rw [ran] at spec
    exact spec.elim

theorem AllSit.request {tapInfo : TapInfo} {link : Link} (h : AllSit s) (sits : tapInfo.Sits) :
    AllSit (next (.request tapInfo link) s) := by
  obtain ⟨p, live⟩ := s
  obtain ⟨free, inUse⟩ := h
  have spec := PoolTapDevices.request_spec (p := p) tapInfo link
  simp only [next]
  unfold Handler.wp at spec
  cases ran : PoolTapDevices.request tapInfo link p with
  | ok tap q =>
    rw [ran] at spec
    obtain ⟨front, back, split, rfl⟩ | ⟨-, device, rfl, made, -, rfl⟩ := spec
    · dsimp only at free inUse
      rw [split, List.forall_mem_append, List.forall_mem_cons] at free
      exact ⟨List.forall_mem_append.mpr ⟨free.1, free.2.2⟩,
        List.forall_mem_cons.mpr ⟨free.2.1, inUse⟩⟩
    · have built := (TapBuilder.buildOrAdopt_builtFrom made).sits sits
      exact ⟨free, List.forall_mem_cons.mpr ⟨built, inUse⟩⟩
  | err e q =>
    rw [ran] at spec
    obtain ⟨-, -, rfl⟩ := spec
    exact ⟨free, inUse⟩
  | panic msg q =>
    rw [ran] at spec
    exact spec.elim

theorem AllSit.next (h : AllSit s) (sound : Sound all s)
    (long : ∀ S ∈ all, S.prefixLen = PREFIX_LEN) (e : TapEvent) (allowed : Allowed parent s e)
    (fitting : Fitting e) : AllSit (next e s) := by
  obtain ⟨free, inUse⟩ := h
  cases e with
  | alloc => exact AllSit.alloc ⟨free, inUse⟩ sound long
  | request tapInfo link => exact AllSit.request ⟨free, inUse⟩ fitting
  | built builder link =>
    simp only [TapUse.next]
    cases made : builder.build link with
    | error err => exact ⟨free, inUse⟩
    | ok device =>
      have built := (TapBuilder.build_builtFrom made).sits (inUse _ allowed)
      exact ⟨free, List.forall_mem_cons.mpr
        ⟨built, fun tap mem => inUse tap (List.mem_of_mem_erase mem)⟩⟩
  | dealloc tap =>
    obtain ⟨mem, device, rfl⟩ := allowed
    exact ⟨List.forall_mem_cons.mpr ⟨inUse _ mem, free⟩,
      fun tap mem => inUse tap (List.mem_of_mem_erase mem)⟩

theorem AllSit.start {subnets : Subnets} {config : PoolTapsConfig} {link : TapInfo → Link}
    {finished : Ipv4Net → Nat} {pool : PoolTapDevices} (complete : subnets.Complete)
    (new : PoolTapDevices.new subnets config link finished = .ok pool ()) :
    AllSit { pool, live := [] } := by
  obtain ⟨all, listed, -, ⟨issued, rfl, perm⟩, devices⟩ := PoolTapDevices.new_spec complete new
  refine ⟨fun t mem => ?_, by simp⟩
  obtain ⟨device, made, built⟩ := devices t mem
  have inside : t.1 ∈ issued := perm.mem_iff.mp (List.mem_map_of_mem mem)
  have length := ((complete _ _ _ listed t.1).mp (by simp [inside])).length
  rw [made]
  exact built.sits (t.1.tapInfo_sits length)

end TapUse

/-- However a tap pool is used, at every moment each of the parent's subnets is in exactly one place.
No two taps in use share a subnet, nor an address if the ones that are requested lie in their subnet,
and `alloc` fails only when all subnets are in use. -/
theorem taps_conserved {subnets : Subnets} (complete : subnets.Complete)
    (ascending : subnets.Ascending) {config : PoolTapsConfig} {link : TapInfo → Link}
    {finished : Ipv4Net → Nat} {start : PoolTapDevices}
    (new : PoolTapDevices.new subnets config link finished = .ok start ()) (events : List TapEvent)
    (allowed : AllSteps TapUse.next (TapUse.Allowed config.subnet) events
      { pool := start, live := [] }) :
    let s := events.foldl (fun s e => TapUse.next e s) { pool := start, live := [] }
    (∀ S, config.subnet.IsSubnet PREFIX_LEN S → s.places S = 1) ∧ s.held.Nodup ∧
      ((∀ e ∈ events, TapUse.Fitting e) →
        s.live.Pairwise fun a b => a.info.addresses.Disjoint b.info.addresses) ∧
      ∀ err q, PoolTapDevices.alloc s.pool = .err err q →
        ∀ S, config.subnet.IsSubnet PREFIX_LEN S → s.held.count S = 1 := by
  obtain ⟨all, listed, init⟩ := TapUse.Sound.start complete ascending new
  have member := complete _ _ _ listed
  have sorted := ascending _ _ _ listed
  have long : ∀ S ∈ all, S.prefixLen = PREFIX_LEN := fun S mem => ((member S).mp mem).length
  have aligned : ∀ S ∈ all, S.network = S := fun S mem => ((member S).mp mem).network_eq
  intro s
  have sound : TapUse.Sound all s :=
    AllSteps.invariant (fun s e h allowed => h.next sorted member e allowed) init allowed
  refine ⟨fun S mem => sound.conserved S ((member S).mpr mem), sound.nodup, fun fitting => ?_,
    fun err q failed S mem => sound.exhausted long failed ((member S).mpr mem)⟩
  have sit : TapUse.Sound all s ∧ TapUse.AllSit s := by
    refine AllSteps.invariant (I := fun s => TapUse.Sound all s ∧ TapUse.AllSit s) ?_
      ⟨init, TapUse.AllSit.start complete new⟩ (allowed.and_mem fitting)
    rintro s e ⟨sound, sit⟩ ⟨allowed, fits⟩
    exact ⟨sound.next sorted member e allowed, sit.next sound long e allowed fits⟩
  have distinct := sound.nodup
  rw [TapUse.held, List.nodup_iff_pairwise_ne, List.pairwise_map] at distinct
  refine distinct.imp_of_mem fun {a b} first second differ => ?_
  have inside {tap : Tap} (mem : tap ∈ s.live) : tap.info.subnet.network = tap.info.subnet :=
    aligned _ (sound.inside _ (.inr (List.mem_map_of_mem mem)))
  exact addresses_disjoint differ (inside first) (inside second) (sit.2.2 a first)
    (sit.2.2 b second)

/-- One device is built at the start. It is used, given back and used again, while the other subnet is
requested. -/
theorem taps_conserved_two :
    let config : PoolTapsConfig := { subnet := tenNet 0 30, capacity := 1 }
    let first : TapDevice := { index := 4, info := { (tenNet 0 31).tapInfo with macAddr := some 5 } }
    let second : TapInfo :=
      { name := "uvm-0a-00-00-03", macAddr := some 6, ipAddr := 10 * 2 ^ 24 + 3, prefixLen := 31,
        gateway := 10 * 2 ^ 24 + 2 }
    let start : PoolTapDevices :=
      { ipPool := { iter := [second.subnet], taken := ∅, freeQ := [], freeSet := ∅ }
        free := [(tenNet 0 31, .device first)] }
    let events := [.alloc, .request second (.busy (some (7, none))), .dealloc (.device first), .alloc]
    let s := events.foldl (fun s e => TapUse.next e s) { pool := start, live := [] }
    PoolTapDevices.new ipv4Subnets config (fun _ => .created 4 5) (fun _ => 0) = .ok start () ∧
      s.places (tenNet 0 31) = 1 ∧ s.held.Nodup ∧
      s.live.Pairwise fun a b => a.info.addresses.Disjoint b.info.addresses := by
  intro config first second start events s
  have new : PoolTapDevices.new ipv4Subnets config (fun _ => .created 4 5) (fun _ => 0) =
      .ok start () := by
    decide +kernel
  have conserved := taps_conserved ipv4Subnets_complete ipv4Subnets_ascending new events
    (by decide +kernel)
  refine ⟨new, conserved.1 _ (by decide), conserved.2.1, conserved.2.2.1 ?_⟩
  simp [events, TapUse.Fitting, TapInfo.sits_iff, second]

/-- The address of the VM is not looked at: one tap is allocated, and the other subnet is requested
with the address of the first tap's VM. -/
theorem address_shared_by_request :
    let config : PoolTapsConfig := { subnet := tenNet 0 30, capacity := 0 }
    let second : TapInfo :=
      { name := "uvm-0a-00-00-03", macAddr := some 6, ipAddr := 10 * 2 ^ 24 + 1, prefixLen := 31,
        gateway := 10 * 2 ^ 24 + 2 }
    let start : PoolTapDevices :=
      { ipPool := { iter := [tenNet 0 31, second.subnet], taken := ∅, freeQ := [], freeSet := ∅ }
        free := [] }
    let events := [.alloc, .request second (.created 7 6)]
    PoolTapDevices.new ipv4Subnets config (fun _ => .failed) (fun _ => 0) = .ok start () ∧
      AllSteps TapUse.next (TapUse.Allowed config.subnet) events { pool := start, live := [] } ∧
      ¬ (events.foldl (fun s e => TapUse.next e s) { pool := start, live := [] }).live.Pairwise
        fun a b => a.info.addresses.Disjoint b.info.addresses := by
  intro config second start events
  refine ⟨by decide +kernel, by decide +kernel, fun apart => ?_⟩
  have live : (events.foldl (fun s e => TapUse.next e s) { pool := start, live := [] }).live =
      [.device { index := 7, info := second }, .builder { info := (tenNet 0 31).tapInfo }] := by
    decide +kernel
  rw [live] at apart
  have disjoint := List.rel_of_pairwise_cons apart (List.mem_singleton_self _)
  -- Both taps have the address 10.0.0.1.
  exact disjoint (a := 10 * 2 ^ 24 + 1) (by decide) (by decide)

end Network
end Snaplace
