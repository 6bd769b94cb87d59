import Snaplace.Network.SubnetPool

/-!
# Subnet pools and their parent network

A pool never asks whether a requested subnet is one of its parent's: it compares it with the subnet
the iterator is at. What is ahead of the iterator is granted, whatever it is, so a pool stays inside
its parent for as long as no network outside it is requested while the iterator is before it.
-/
namespace Snaplace
open Foundation

namespace Network

/-- A network of the given length inside `net`, under its network address. -/
structure Ipv4Net.IsSubnet (net : Ipv4Net) (prefixLen : Nat) (s : Ipv4Net) : Prop where
  length : s.prefixLen = prefixLen
  aligned : 2 ^ (32 - prefixLen) ∣ s.addr
  inside : s.addr / 2 ^ (32 - net.prefixLen) = net.addr / 2 ^ (32 - net.prefixLen)

instance (net : Ipv4Net) (prefixLen : Nat) (s : Ipv4Net) : Decidable (net.IsSubnet prefixLen s) :=
  decidable_of_iff
    (s.prefixLen = prefixLen ∧ 2 ^ (32 - prefixLen) ∣ s.addr ∧
      s.addr / 2 ^ (32 - net.prefixLen) = net.addr / 2 ^ (32 - net.prefixLen))
    ⟨fun ⟨length, aligned, inside⟩ => ⟨length, aligned, inside⟩,
      fun ⟨length, aligned, inside⟩ => ⟨length, aligned, inside⟩⟩

/-- What the pools rely on: the iterator over the subnets of a network comes to all of them, and to
nothing else. -/
def Subnets.Complete (subnets : Subnets) : Prop :=
  ∀ net prefixLen iter, subnets net prefixLen = .ok iter →
    ∀ s, s ∈ iter ↔ net.IsSubnet prefixLen s

theorem ipv4Subnets_complete : Subnets.Complete ipv4Subnets := by
  intro net prefixLen iter listed s
  simp only [ipv4Subnets] at listed
  split at listed
  · rename_i bounds
    cases listed
    obtain ⟨shorter, fits⟩ := bounds
    have block : 2 ^ (32 - net.prefixLen) =
        2 ^ (prefixLen - net.prefixLen) * 2 ^ (32 - prefixLen) := by
      rw [← pow_add]
      congr 1
      omega
    have size : 0 < 2 ^ (32 - prefixLen) := by positivity
    have count : 0 < 2 ^ (prefixLen - net.prefixLen) := by positivity
    have start : net.addr - net.addr % 2 ^ (32 - net.prefixLen) =
        net.addr / 2 ^ (32 - net.prefixLen) * 2 ^ (prefixLen - net.prefixLen) *
          2 ^ (32 - prefixLen) := by
      rw [mul_assoc, ← block]
      have := Nat.div_add_mod' net.addr (2 ^ (32 - net.prefixLen))
      omega
    simp only [List.mem_map, List.mem_range, start, ← add_mul]
    constructor
    · rintro ⟨n, lt, rfl⟩
      refine ⟨rfl, ⟨_, mul_comm ..⟩, ?_⟩
      rw [block, Nat.mul_div_mul_right _ _ size, Nat.add_comm, Nat.add_mul_div_right _ _ count,
        Nat.div_eq_of_lt lt, Nat.zero_add, ← block]
    · rintro ⟨length, ⟨k, aligned⟩, inside⟩
      rw [aligned, block, mul_comm (2 ^ (32 - prefixLen)), Nat.mul_div_mul_right _ _ size,
        ← block] at inside
      refine ⟨k % 2 ^ (prefixLen - net.prefixLen), Nat.mod_lt _ count, ?_⟩
      obtain ⟨addr, _⟩ := s
      cases length
      rw [← inside, Nat.div_add_mod', mul_comm]
      exact congrArg₂ _ aligned.symm rfl
  · cases listed

/-- What a call hands out is the parent's, and a request for anything else is refused. -/
def Contained (member : Ipv4Net → Prop) (c : Call Ipv4Net) (out : Option Ipv4Net) : Prop :=
  (∀ r ∈ out, member r) ∧ ∀ s, c = .get s → ¬ member s → out = none

instance {member : Ipv4Net → Prop} [DecidablePred member] (out : Option Ipv4Net) :
    (c : Call Ipv4Net) → Decidable (Contained member c out)
  | .get s => decidable_of_iff ((∀ r ∈ out, member r) ∧ (¬ member s → out = none))
      (and_congr_right fun _ => by simp)
  | .getNext => decidable_of_iff (∀ r ∈ out, member r) (by simp [Contained])
  | .giveBack _ => decidable_of_iff (∀ r ∈ out, member r) (by simp [Contained])

/-- The call requests a network outside the parent, ahead of the iterator. -/
def OutsideAhead (member : Ipv4Net → Prop) (iter : List Ipv4Net) : Call Ipv4Net → Prop
  | .get s => ¬ member s ∧ ∃ next ∈ iter.head?, next < s
  | _ => False

instance {member : Ipv4Net → Prop} [DecidablePred member] (iter : List Ipv4Net) :
    (c : Call Ipv4Net) → Decidable (OutsideAhead member iter c)
  | .get s => inferInstanceAs (Decidable (¬ member s ∧ ∃ next ∈ iter.head?, next < s))
  | .getNext => isFalse nofun
  | .giveBack _ => isFalse nofun

/-- All that a pool keeps track of is the parent's. -/
structure Within (member : Ipv4Net → Prop) (iter : List Ipv4Net)
    (taken free held : Finset Ipv4Net) : Prop where
  iter : ∀ s ∈ iter, member s
  taken : ∀ s ∈ taken, member s
  free : ∀ s ∈ free, member s
  held : ∀ s ∈ held, member s

namespace Within
variable {member : Ipv4Net → Prop} {iter rest : List Ipv4Net} {taken free held : Finset Ipv4Net}
  {s next : Ipv4Net}

/-- A call that hands out `out`, leaving the pool with these subnets, keeps to the parent. -/
def Serves (member : Ipv4Net → Prop) (held : Finset Ipv4Net) (c : Call Ipv4Net)
    (out : Option Ipv4Net) (iter : List Ipv4Net) (taken free : Finset Ipv4Net) : Prop :=
  Contained member c out ∧ Within member iter taken free (heldAfter held c out)

theorem hold (h : Within member iter taken free held) (inside : member s) :
    Within member iter taken free (insert s held) :=
  { h with held := by simpa [inside] using h.held }

theorem skip (h : Within member (s :: rest) taken free held) :
    Within member rest taken free held :=
  { h with iter := fun t mem => h.iter t (by simp [mem]) }

theorem take (h : Within member iter taken free held) (inside : member s) :
    Within member iter (insert s taken) free held :=
  { h with taken := by simpa [inside] using h.taken }

theorem untake (h : Within member iter taken free held) :
    Within member iter (taken.erase s) free held :=
  { h with taken := fun t mem => h.taken t (Finset.mem_of_mem_erase mem) }

theorem removeFree (h : Within member iter taken free held) :
    Within member iter taken (free.erase s) held :=
  { h with free := fun t mem => h.free t (Finset.mem_of_mem_erase mem) }

theorem addFree (h : Within member iter taken free held) (inside : member s) :
    Within member iter taken (insert s free) held :=
  { h with free := by simpa [inside] using h.free }

theorem release (h : Within member iter taken free held) :
    Within member iter taken free (held.erase s) :=
  { h with held := fun t mem => h.held t (Finset.mem_of_mem_erase mem) }

theorem granted (h : Within member iter taken free held) (inside : member s) :
    Serves member held (.get s) (some s) iter taken free := by
  refine ⟨⟨?_, ?_⟩, h.hold inside⟩
  · rintro r ⟨⟩
    exact inside
  · rintro r ⟨⟩ outside
    exact absurd inside outside

theorem refused (h : Within member iter taken free held) :
    Serves member held (.get s) none iter taken free :=
  ⟨⟨nofun, fun _ _ _ => rfl⟩, h⟩

theorem handedOut (h : Within member iter taken free held) (inside : member s) :
    Serves member held .getNext (some s) iter taken free :=
  ⟨⟨(h.granted inside).1.1, nofun⟩, h.hold inside⟩

theorem returned (h : Within member iter taken free held) :
    Serves member held (.giveBack s) none iter taken free :=
  ⟨⟨nofun, nofun⟩, h.release⟩

theorem nextUntaken (h : Within member iter taken free held) :
    Serves member held .getNext (Network.nextUntaken taken iter).1
      (Network.nextUntaken taken iter).2 taken free := by
  induction iter with
  | nil => exact ⟨⟨nofun, nofun⟩, h⟩
  | cons s rest ih =>
    unfold Network.nextUntaken
    split
    · exact ih h.skip
    · exact h.skip.handedOut (h.iter s (by simp))

/-- What is ahead of the iterator, and not requested from outside, is the parent's. -/
theorem ahead (inside : ¬ OutsideAhead member (next :: rest) (.get s)) (lt : next < s) :
    member s := by
  by_contra outside
  exact inside ⟨outside, next, rfl, lt⟩

/-- A network outside the parent has not been taken, so it is granted. -/
theorem not_taken (h : Within member iter taken free held) (outside : ¬ member s) : s ∉ taken :=
  fun isTaken => outside (h.taken s isTaken)

end Within

namespace ExactIpv4SubnetPool
variable {P : Nat} {member : Ipv4Net → Prop} {held : Finset Ipv4Net} {s : Ipv4Net}
  {c : Call Ipv4Net} {pool : ExactIpv4SubnetPool P}

def Inside (member : Ipv4Net → Prop) (pool : ExactIpv4SubnetPool P) (held : Finset Ipv4Net) :
    Prop :=
  Within member pool.iter pool.taken pool.free held

def Keeps (member : Ipv4Net → Prop) (held : Finset Ipv4Net) (c : Call Ipv4Net)
    (r : Option Ipv4Net × ExactIpv4SubnetPool P) : Prop :=
  Within.Serves member held c r.1 r.2.iter r.2.taken r.2.free

theorem getNext_inside (h : pool.Inside member held) :
    Keeps member held .getNext (serve .getNext pool) := by
  simp only [serve, getNext]
  split
  · rename_i nonempty
    exact h.removeFree.handedOut (h.free _ (pool.free.min'_mem nonempty))
  · exact h.nextUntaken

theorem get_inside (h : pool.Inside member held)
    (inside : ¬ OutsideAhead member pool.iter (.get s)) :
    Keeps member held (.get s) (serve (.get s) pool) := by
  obtain ⟨iter, free, taken⟩ := pool
  cases iter with
  | nil =>
    simp only [serve, get]
    split
    · exact h.removeFree.granted (h.free s ‹_›)
    · exact h.refused
  | cons next rest =>
    simp only [serve, get]
    split_ifs with lt isTaken head isFree
    · exact h.refused
    · have isMember := Within.ahead inside lt
      exact (h.take isMember).granted isMember
    · subst head
      exact h.skip.granted (h.iter s (by simp))
    · exact h.removeFree.granted (h.free s isFree)
    · exact h.refused

theorem giveBack_inside (h : pool.Inside member held) (isHeld : s ∈ held) :
    Keeps member held (.giveBack s) (serve (.giveBack s) pool) := by
  have isMember := h.held s isHeld
  obtain ⟨iter, free, taken⟩ := pool
  simp only [serve, giveBack]
  cases iter with
  | nil => split <;> exact (h.untake.addFree isMember).returned
  | cons next rest =>
    dsimp only
    split_ifs
    · exact h.untake.returned
    · exact (h.untake.addFree isMember).returned
    · exact (h.untake.addFree isMember).returned

theorem serve_inside (h : pool.Inside member held) (proper : c.Proper held)
    (inside : ¬ OutsideAhead member pool.iter c) : Keeps member held c (serve c pool) := by
  cases c with
  | getNext => exact getNext_inside h
  | get s => exact get_inside h inside
  | giveBack s => exact giveBack_inside h proper

/-- A network outside the parent is granted when it is ahead of the iterator. -/
theorem serve_outside (h : pool.Inside member held) (outside : OutsideAhead member pool.iter c) :
    ¬ Contained member c (serve c pool).1 := by
  match c with
  | .get s =>
    obtain ⟨notMember, next, head, lt⟩ := outside
    obtain ⟨rest, iter⟩ := List.head?_eq_some_iff.mp head
    have notTaken := h.not_taken notMember
    intro contained
    have granted : (serve (.get s) pool).1 = some s := by
      simp [serve, get, iter, lt, notTaken, Except.toOption]
    exact notMember (contained.1 s granted)

theorem contained_iff {calls : List (Call Ipv4Net)} (h : pool.Inside member held)
    (proper : Proper serve calls (pool, held)) :
    AllSteps (lend serve) (fun s c => Contained member c (serve c s.1).1) calls (pool, held) ↔
      AllSteps (lend serve) (fun s c => ¬ OutsideAhead member s.1.iter c) calls (pool, held) := by
  refine allSteps_congr (I := fun s => s.1.Inside member s.2) (fun s c inside now => ?_)
    (fun s c inside now meets => (serve_inside inside now meets).2) h proper
  exact ⟨fun contained outside => serve_outside inside outside contained,
    fun meets => (serve_inside inside now meets).1⟩

end ExactIpv4SubnetPool

namespace FifoExactIpv4SubnetPool
variable {P : Nat} {member : Ipv4Net → Prop} {held : Finset Ipv4Net} {s : Ipv4Net}
  {c : Call Ipv4Net} {pool : FifoExactIpv4SubnetPool P}

def Inside (member : Ipv4Net → Prop) (pool : FifoExactIpv4SubnetPool P)
    (held : Finset Ipv4Net) : Prop :=
  Within member pool.iter pool.taken pool.freeSet held

def Keeps (member : Ipv4Net → Prop) (held : Finset Ipv4Net) (c : Call Ipv4Net)
    (r : Option Ipv4Net × FifoExactIpv4SubnetPool P) : Prop :=
  Within.Serves member held c r.1 r.2.iter r.2.taken r.2.freeSet

theorem getNext_inside (h : pool.Inside member held) :
    Keeps member held .getNext (serve .getNext pool) := by
  simp only [serve, getNext]
  split
  · rename_i popped
    exact h.removeFree.handedOut (h.free _ (popFree_free popped))
  · exact h.nextUntaken

theorem get_inside (h : pool.Inside member held)
    (inside : ¬ OutsideAhead member pool.iter (.get s)) :
    Keeps member held (.get s) (serve (.get s) pool) := by
  obtain ⟨iter, taken, freeQ, freeSet⟩ := pool
  cases iter with
  | nil =>
    simp only [serve, get]
    split
    · exact h.removeFree.granted (h.free s ‹_›)
    · exact h.refused
  | cons next rest =>
    simp only [serve, get]
    split_ifs with lt isTaken head isFree
    · exact h.refused
    · have isMember := Within.ahead inside lt
      exact (h.take isMember).granted isMember
    · subst head
      exact h.skip.granted (h.iter s (by simp))
    · exact h.removeFree.granted (h.free s isFree)
    · exact h.refused

/-- A subnet that is free already is not inserted again. -/
theorem giveBack_inside (h : pool.Inside member held) (isHeld : s ∈ held) :
    Keeps member held (.giveBack s) (serve (.giveBack s) pool) := by
  have freed := (h.untake (s := s)).addFree (h.held s isHeld)
  obtain ⟨iter, taken, freeQ, freeSet⟩ := pool
  simp only [serve, giveBack]
  cases iter with
  | nil => split_ifs <;> first | exact h.untake.returned | exact freed.returned
  | cons next rest =>
    dsimp only
    split_ifs <;> first | exact h.untake.returned | exact freed.returned

theorem serve_inside (h : pool.Inside member held) (proper : c.Proper held)
    (inside : ¬ OutsideAhead member pool.iter c) : Keeps member held c (serve c pool) := by
  cases c with
  | getNext => exact getNext_inside h
  | get s => exact get_inside h inside
  | giveBack s => exact giveBack_inside h proper

theorem serve_outside (h : pool.Inside member held) (outside : OutsideAhead member pool.iter c) :
    ¬ Contained member c (serve c pool).1 := by
  match c with
  | .get s =>
    obtain ⟨notMember, next, head, lt⟩ := outside
    obtain ⟨rest, iter⟩ := List.head?_eq_some_iff.mp head
    have notTaken := h.not_taken notMember
    intro contained
    have granted : (serve (.get s) pool).1 = some s := by
      simp [serve, get, iter, lt, notTaken, Except.toOption]
    exact notMember (contained.1 s granted)

theorem contained_iff {calls : List (Call Ipv4Net)} (h : pool.Inside member held)
    (proper : Proper serve calls (pool, held)) :
    AllSteps (lend serve) (fun s c => Contained member c (serve c s.1).1) calls (pool, held) ↔
      AllSteps (lend serve) (fun s c => ¬ OutsideAhead member s.1.iter c) calls (pool, held) := by
  refine allSteps_congr (I := fun s => s.1.Inside member s.2) (fun s c inside now => ?_)
    (fun s c inside now meets => (serve_inside inside now meets).2) h proper
  exact ⟨fun contained outside => serve_outside inside outside contained,
    fun meets => (serve_inside inside now meets).1⟩

end FifoExactIpv4SubnetPool

section Runs
variable {subnets : Subnets} {P : Nat} {parent : Ipv4Net}

theorem ExactIpv4SubnetPool.new_inside {pool : ExactIpv4SubnetPool P} (complete : subnets.Complete)
    (new : ExactIpv4SubnetPool.new subnets parent = .ok pool) :
    pool.Inside (parent.IsSubnet P) ∅ := by
  match listed : subnets parent P with
  | .ok iter =>
    simp only [ExactIpv4SubnetPool.new, listed] at new
    cases new
    exact ⟨fun s mem => (complete parent P iter listed s).mp mem, by simp, by simp, by simp⟩
  | .error _ =>
    simp only [ExactIpv4SubnetPool.new, listed] at new
    cases new

theorem FifoExactIpv4SubnetPool.new_inside {pool : FifoExactIpv4SubnetPool P}
    (complete : subnets.Complete) (new : FifoExactIpv4SubnetPool.new subnets parent = .ok pool) :
    pool.Inside (parent.IsSubnet P) ∅ := by
  match listed : subnets parent P with
  | .ok iter =>
    simp only [FifoExactIpv4SubnetPool.new, listed] at new
    cases new
    exact ⟨fun s mem => (complete parent P iter listed s).mp mem, by simp, by simp, by simp⟩
  | .error _ =>
    simp only [FifoExactIpv4SubnetPool.new, listed] at new
    cases new

/-- For either pool, over any parent network and prefix length, all that is handed out is one of the
parent's subnets, and a request for any other network refused, exactly when no network outside the
parent is requested while it is ahead of the iterator. -/
theorem subnets_contained_iff (complete : subnets.Complete) (calls : List (Call Ipv4Net)) :
    (∀ pool : ExactIpv4SubnetPool P, ExactIpv4SubnetPool.new subnets parent = .ok pool →
      Proper ExactIpv4SubnetPool.serve calls (pool, ∅) →
      (AllSteps (lend ExactIpv4SubnetPool.serve) (fun s c =>
          Contained (parent.IsSubnet P) c (ExactIpv4SubnetPool.serve c s.1).1) calls (pool, ∅) ↔
        AllSteps (lend ExactIpv4SubnetPool.serve)
          (fun s c => ¬ OutsideAhead (parent.IsSubnet P) s.1.iter c) calls (pool, ∅))) ∧
    (∀ pool : FifoExactIpv4SubnetPool P, FifoExactIpv4SubnetPool.new subnets parent = .ok pool →
      Proper FifoExactIpv4SubnetPool.serve calls (pool, ∅) →
      (AllSteps (lend FifoExactIpv4SubnetPool.serve) (fun s c =>
          Contained (parent.IsSubnet P) c (FifoExactIpv4SubnetPool.serve c s.1).1)
          calls (pool, ∅) ↔
        AllSteps (lend FifoExactIpv4SubnetPool.serve)
          (fun s c => ¬ OutsideAhead (parent.IsSubnet P) s.1.iter c) calls (pool, ∅))) :=
  ⟨fun _ new => ExactIpv4SubnetPool.contained_iff (ExactIpv4SubnetPool.new_inside complete new),
    fun _ new =>
      FifoExactIpv4SubnetPool.contained_iff (FifoExactIpv4SubnetPool.new_inside complete new)⟩

/-- Outside the parent, but requested only once the pools have been exhausted. -/
theorem subnets_contained_exhausted :
    let calls := [.getNext, .getNext, .get (tenNet 2 24), .giveBack (tenNet 1 24), .getNext]
    let pool : ExactIpv4SubnetPool 24 :=
      { iter := [tenNet 0 24, tenNet 1 24], free := ∅, taken := ∅ }
    let fifo : FifoExactIpv4SubnetPool 24 :=
      { iter := [tenNet 0 24, tenNet 1 24], taken := ∅, freeQ := [], freeSet := ∅ }
    AllSteps (lend ExactIpv4SubnetPool.serve) (fun s c =>
        Contained ((tenNet 0 23).IsSubnet 24) c (ExactIpv4SubnetPool.serve c s.1).1)
        calls (pool, ∅) ∧
      AllSteps (lend FifoExactIpv4SubnetPool.serve) (fun s c =>
        Contained ((tenNet 0 23).IsSubnet 24) c (FifoExactIpv4SubnetPool.serve c s.1).1)
        calls (fifo, ∅) := by
  intro calls pool fifo
  have both := @subnets_contained_iff ipv4Subnets 24 (tenNet 0 23) ipv4Subnets_complete calls
  exact ⟨(both.1 pool rfl (by decide)).mpr (by decide),
    (both.2 fifo rfl (by decide)).mpr (by decide)⟩

/-- Before they are exhausted, the pools of 10.0.0.0/23 grant 10.0.2.0/24. -/
theorem subnet_outside_granted :
    let calls := [.get (tenNet 2 24)]
    (∃ pool : ExactIpv4SubnetPool 24,
      ExactIpv4SubnetPool.new ipv4Subnets (tenNet 0 23) = .ok pool ∧
        Proper ExactIpv4SubnetPool.serve calls (pool, ∅) ∧
        ¬ AllSteps (lend ExactIpv4SubnetPool.serve) (fun s c =>
          Contained ((tenNet 0 23).IsSubnet 24) c (ExactIpv4SubnetPool.serve c s.1).1)
          calls (pool, ∅)) ∧
    (∃ pool : FifoExactIpv4SubnetPool 24,
      FifoExactIpv4SubnetPool.new ipv4Subnets (tenNet 0 23) = .ok pool ∧
        Proper FifoExactIpv4SubnetPool.serve calls (pool, ∅) ∧
        ¬ AllSteps (lend FifoExactIpv4SubnetPool.serve) (fun s c =>
          Contained ((tenNet 0 23).IsSubnet 24) c (FifoExactIpv4SubnetPool.serve c s.1).1)
          calls (pool, ∅)) :=
  ⟨⟨_, rfl, by decide, by decide⟩, ⟨_, rfl, by decide, by decide⟩⟩

end Runs

end Network
end Snaplace
