import Mathlib.Data.Finset.Max
import Mathlib.Data.Prod.Lex
import Snaplace.Foundation.Leases

/-!
# IPv4 subnet pools

A pool hands out the subnets of a parent network. A subnet is free ahead of the iterator, or in the
free set; `taken` records the ones requested ahead of the iterator, which skips them later. The two
pools differ in how a free subnet is chosen: the smallest one, or the one free for longest.
-/
namespace Snaplace
open Foundation

namespace Network

structure Ipv4Net where
  addr : Nat
  prefixLen : Nat
  deriving DecidableEq, Repr

namespace Ipv4Net

def key (net : Ipv4Net) : ℕ ×ₗ ℕ := toLex (net.addr, net.prefixLen)

theorem key_injective : Function.Injective key := by
  rintro ⟨a, p⟩ ⟨b, q⟩ same
  simpa [key] using same

instance : LinearOrder Ipv4Net := LinearOrder.lift' key key_injective

end Ipv4Net

structure PrefixLenError where
  deriving DecidableEq, Repr

inductive SubnetPoolError where
  | prefixLen (err : PrefixLenError)
  | subnetNotFree (subnet : Ipv4Net)
  deriving DecidableEq, Repr

/-- The iterator over the subnets of a network, of a given prefix length. -/
abbrev Subnets : Type := Ipv4Net → Nat → Except PrefixLenError (List Ipv4Net)

/-- The first subnet that is not taken, and the iterator after it. -/
def nextUntaken (taken : Finset Ipv4Net) : List Ipv4Net → Option Ipv4Net × List Ipv4Net
  | [] => (none, [])
  | subnet :: rest => if subnet ∈ taken then nextUntaken taken rest else (some subnet, rest)

theorem nextUntaken_none {taken : Finset Ipv4Net} {iter rest : List Ipv4Net}
    (h : nextUntaken taken iter = (none, rest)) : rest = [] ∧ ∀ s ∈ iter, s ∈ taken := by
  induction iter with
  | nil => simpa [nextUntaken] using h.symm
  | cons t iter ih =>
    unfold nextUntaken at h
    split at h
    · rename_i isTaken
      obtain ⟨rfl, old⟩ := ih h
      exact ⟨rfl, by simpa [isTaken] using old⟩
    · cases h

/-- What comes next is the first subnet that is not taken. -/
theorem nextUntaken_split {taken : Finset Ipv4Net} {iter rest : List Ipv4Net} {s : Ipv4Net}
    (h : nextUntaken taken iter = (some s, rest)) :
    ∃ skipped, iter = skipped ++ s :: rest ∧ s ∉ taken ∧ ∀ t ∈ skipped, t ∈ taken := by
  induction iter with
  | nil => simp [nextUntaken] at h
  | cons first later ih =>
    unfold nextUntaken at h
    split at h
    next isTaken =>
      obtain ⟨skipped, rfl, fresh, all⟩ := ih h
      refine ⟨first :: skipped, rfl, fresh, ?_⟩
      intro t mem
      rcases List.mem_cons.mp mem with rfl | mem
      · exact isTaken
      · exact all t mem
    next fresh =>
      obtain ⟨rfl, rfl⟩ : first = s ∧ later = rest := by simpa using h
      exact ⟨[], rfl, fresh, by simp⟩

/-- Recycles the smallest free subnet first. -/
structure ExactIpv4SubnetPool (P : Nat) where
  iter : List Ipv4Net
  free : Finset Ipv4Net
  taken : Finset Ipv4Net
  deriving DecidableEq

namespace ExactIpv4SubnetPool
variable {P : Nat}

def new (subnets : Subnets) (subnet : Ipv4Net) :
    Except SubnetPoolError (ExactIpv4SubnetPool P) := do
  let iter ← (subnets subnet P).mapError .prefixLen
  pure { iter, free := ∅, taken := ∅ }

def getNext (pool : ExactIpv4SubnetPool P) : Option Ipv4Net × ExactIpv4SubnetPool P :=
  if h : pool.free.Nonempty then
    let subnet := pool.free.min' h
    (some subnet, { pool with free := pool.free.erase subnet })
  else
    let (subnet, iter) := nextUntaken pool.taken pool.iter
    (subnet, { pool with iter })

/-- A subnet ahead of the iterator becomes free by being taken no more. -/
def giveBack (subnet : Ipv4Net) (pool : ExactIpv4SubnetPool P) : ExactIpv4SubnetPool P :=
  let returned := { pool with taken := pool.taken.erase subnet }
  let freed := { returned with free := insert subnet pool.free }
  if subnet ∈ pool.taken then
    match pool.iter with
    | nextSubnet :: _ => if nextSubnet ≤ subnet then returned else freed
    | [] => freed
  else
    freed

def get (subnet : Ipv4Net) (pool : ExactIpv4SubnetPool P) :
    Except SubnetPoolError Ipv4Net × ExactIpv4SubnetPool P :=
  let fromFree :=
    if subnet ∈ pool.free then (.ok subnet, { pool with free := pool.free.erase subnet })
    else (.error (.subnetNotFree subnet), pool)
  match pool.iter with
  | nextSubnet :: rest =>
    if nextSubnet < subnet then
      if subnet ∈ pool.taken then (.error (.subnetNotFree subnet), pool)
      else (.ok subnet, { pool with taken := insert subnet pool.taken })
    else if subnet = nextSubnet then (.ok subnet, { pool with iter := rest })
    else fromFree
  | [] => fromFree

/-- The three operations as the calls of a client. -/
def serve : Call Ipv4Net → ExactIpv4SubnetPool P → Option Ipv4Net × ExactIpv4SubnetPool P
  | .getNext, pool => pool.getNext
  | .get subnet, pool => ((pool.get subnet).1.toOption, (pool.get subnet).2)
  | .giveBack subnet, pool => (none, pool.giveBack subnet)

end ExactIpv4SubnetPool

/-- Recycles the subnet that has been free for longest. -/
structure FifoExactIpv4SubnetPool (P : Nat) where
  iter : List Ipv4Net
  taken : Finset Ipv4Net
  /-- In order of return; entries that are not in `freeSet` are stale. -/
  freeQ : List Ipv4Net
  freeSet : Finset Ipv4Net
  deriving DecidableEq

/-- The first queued subnet that is still free, and the queue after it. -/
def popFree (freeSet : Finset Ipv4Net) : List Ipv4Net → Option Ipv4Net × List Ipv4Net
  | [] => (none, [])
  | subnet :: rest => if subnet ∈ freeSet then (some subnet, rest) else popFree freeSet rest

theorem popFree_none {freeSet : Finset Ipv4Net} {queue rest : List Ipv4Net}
    (h : popFree freeSet queue = (none, rest)) : rest = [] ∧ ∀ s ∈ queue, s ∉ freeSet := by
  induction queue with
  | nil => simpa [popFree] using h.symm
  | cons t queue ih =>
    unfold popFree at h
    split at h
    · cases h
    · rename_i stale
      obtain ⟨rfl, old⟩ := ih h
      exact ⟨rfl, by simpa [stale] using old⟩

/-- Stale entries are dropped until one is of a free subnet. -/
theorem popFree_split {freeSet : Finset Ipv4Net} {queue rest : List Ipv4Net} {s : Ipv4Net}
    (h : popFree freeSet queue = (some s, rest)) :
    ∃ stale, queue = stale ++ s :: rest ∧ s ∈ freeSet ∧ ∀ t ∈ stale, t ∉ freeSet := by
  induction queue with
  | nil => simp [popFree] at h
  | cons first later ih =>
    unfold popFree at h
    split at h
    next isFree =>
      obtain ⟨rfl, rfl⟩ : first = s ∧ later = rest := by simpa using h
      exact ⟨[], rfl, isFree, by simp⟩
    next old =>
      obtain ⟨stale, rfl, isFree, all⟩ := ih h
      refine ⟨first :: stale, rfl, isFree, ?_⟩
      intro t mem
      rcases List.mem_cons.mp mem with rfl | mem
      · exact old
      · exact all t mem

namespace FifoExactIpv4SubnetPool
variable {P : Nat}

def new (subnets : Subnets) (subnet : Ipv4Net) :
    Except SubnetPoolError (FifoExactIpv4SubnetPool P) := do
  let iter ← (subnets subnet P).mapError .prefixLen
  pure { iter, taken := ∅, freeQ := [], freeSet := ∅ }

def getNext (pool : FifoExactIpv4SubnetPool P) : Option Ipv4Net × FifoExactIpv4SubnetPool P :=
  match popFree pool.freeSet pool.freeQ with
  | (some subnet, freeQ) =>
    (some subnet, { pool with freeQ, freeSet := pool.freeSet.erase subnet })
  | (none, freeQ) =>
    let (subnet, iter) := nextUntaken pool.taken pool.iter
    (subnet, { pool with freeQ, iter })

def giveBack (subnet : Ipv4Net) (pool : FifoExactIpv4SubnetPool P) : FifoExactIpv4SubnetPool P :=
  let returned := { pool with taken := pool.taken.erase subnet }
  let freed :=
    if subnet ∈ pool.freeSet then returned
    else { returned with freeSet := insert subnet pool.freeSet, freeQ := pool.freeQ ++ [subnet] }
  if subnet ∈ pool.taken then
    match pool.iter with
    | nextSubnet :: _ => if nextSubnet ≤ subnet then returned else freed
    | [] => freed
  else
    freed

def get (subnet : Ipv4Net) (pool : FifoExactIpv4SubnetPool P) :
    Except SubnetPoolError Ipv4Net × FifoExactIpv4SubnetPool P :=
  let fromFree :=
    if subnet ∈ pool.freeSet then
      (.ok subnet, { pool with freeSet := pool.freeSet.erase subnet })
    else (.error (.subnetNotFree subnet), pool)
  match pool.iter with
  | nextSubnet :: rest =>
    if nextSubnet < subnet then
      if subnet ∈ pool.taken then (.error (.subnetNotFree subnet), pool)
      else (.ok subnet, { pool with taken := insert subnet pool.taken })
    else if subnet = nextSubnet then (.ok subnet, { pool with iter := rest })
    else fromFree
  | [] => fromFree

/-- The three operations as the calls of a client. -/
def serve : Call Ipv4Net → FifoExactIpv4SubnetPool P → Option Ipv4Net × FifoExactIpv4SubnetPool P
  | .getNext, pool => pool.getNext
  | .get subnet, pool => ((pool.get subnet).1.toOption, (pool.get subnet).2)
  | .giveBack subnet, pool => (none, pool.giveBack subnet)

end FifoExactIpv4SubnetPool

/-- What is free, and where, against what is held. -/
structure Ledger (iter : List Ipv4Net) (taken free held : Finset Ipv4Net) : Prop where
  ascending : iter.Pairwise (· < ·)
  taken_held : taken ⊆ held
  /-- What is held and not recorded as taken is behind the iterator. -/
  held_behind : ∀ s ∈ held, s ∉ taken → ∀ next ∈ iter, s < next
  free_behind : ∀ s ∈ free, ∀ next ∈ iter, s < next
  free_fresh : Disjoint free held

/-- The call requests the subnet the iterator is at, which has been taken. -/
def TakenHead (iter : List Ipv4Net) (taken : Finset Ipv4Net) : Call Ipv4Net → Prop
  | .get subnet => iter.head? = some subnet ∧ subnet ∈ taken
  | _ => False

instance (iter : List Ipv4Net) (taken : Finset Ipv4Net) :
    (c : Call Ipv4Net) → Decidable (TakenHead iter taken c)
  | .get _ => inferInstanceAs (Decidable (_ ∧ _))
  | .getNext => isFalse nofun
  | .giveBack _ => isFalse nofun

namespace Ledger
variable {iter rest : List Ipv4Net} {taken free held : Finset Ipv4Net} {s next : Ipv4Net}

theorem fresh (h : Ledger iter taken free held) (isFree : s ∈ free) : s ∉ held :=
  Finset.disjoint_left.mp h.free_fresh isFree

theorem takeFree (h : Ledger iter taken free held) (isFree : s ∈ free) :
    Ledger iter taken (free.erase s) (insert s held) where
  ascending := h.ascending
  taken_held := h.taken_held.trans (Finset.subset_insert ..)
  held_behind t isHeld notTaken := by
    obtain rfl | old := Finset.mem_insert.mp isHeld
    · exact h.free_behind t isFree
    · exact h.held_behind t old notTaken
  free_behind t isFree := h.free_behind t (Finset.mem_of_mem_erase isFree)
  free_fresh := by
    have old := h.free_fresh
    grind [Finset.disjoint_left]

/-- Dropping the head of the iterator, when it is taken anyway. -/
theorem skip (h : Ledger (s :: rest) taken free held) : Ledger rest taken free held where
  ascending := h.ascending.of_cons
  taken_held := h.taken_held
  held_behind t isHeld notTaken next mem := h.held_behind t isHeld notTaken next (by simp [mem])
  free_behind t isFree next mem := h.free_behind t isFree next (by simp [mem])
  free_fresh := h.free_fresh

theorem head_fresh (h : Ledger (s :: rest) taken free held) (notTaken : s ∉ taken) :
    s ∉ held :=
  fun isHeld => lt_irrefl s (h.held_behind s isHeld notTaken s (by simp))

theorem takeHead (h : Ledger (s :: rest) taken free held) :
    Ledger rest taken free (insert s held) where
  ascending := h.ascending.of_cons
  taken_held := h.taken_held.trans (Finset.subset_insert ..)
  held_behind t isHeld notTaken next mem := by
    obtain rfl | old := Finset.mem_insert.mp isHeld
    · exact List.rel_of_pairwise_cons h.ascending mem
    · exact h.held_behind t old notTaken next (by simp [mem])
  free_behind t isFree next mem := h.free_behind t isFree next (by simp [mem])
  free_fresh := by
    refine Finset.disjoint_insert_right.mpr ⟨fun isFree => ?_, h.free_fresh⟩
    exact lt_irrefl s (h.free_behind s isFree s (by simp))

/-- A call that hands out `out`, leaving the pool with these free and taken subnets, is sound. -/
def Serves (held : Finset Ipv4Net) (c : Call Ipv4Net) (out : Option Ipv4Net)
    (iter : List Ipv4Net) (taken free : Finset Ipv4Net) : Prop :=
  (∀ r ∈ out, r ∉ held) ∧ Ledger iter taken free (heldAfter held c out)

theorem granted (fresh : s ∉ held) (h : Ledger iter taken free (insert s held)) :
    Serves held (.get s) (some s) iter taken free :=
  ⟨fun _ out => Option.some.inj out ▸ fresh, h⟩

theorem refused (h : Ledger iter taken free held) : Serves held (.get s) none iter taken free :=
  ⟨nofun, h⟩

theorem grantFree (h : Ledger iter taken free held) (isFree : s ∈ free) :
    Serves held (.get s) (some s) iter taken (free.erase s) :=
  granted (h.fresh isFree) (h.takeFree isFree)

theorem nextFree (h : Ledger iter taken free held) (isFree : s ∈ free) :
    Serves held .getNext (some s) iter taken (free.erase s) :=
  h.grantFree isFree

theorem nextUntaken (h : Ledger iter taken free held) :
    Serves held .getNext (Network.nextUntaken taken iter).1 (Network.nextUntaken taken iter).2
      taken free := by
  induction iter with
  | nil => exact ⟨nofun, h⟩
  | cons s rest ih =>
    unfold Network.nextUntaken
    split
    · exact ih h.skip
    · rename_i notTaken
      exact granted (h.head_fresh notTaken) h.takeHead

theorem ahead_fresh (h : Ledger (next :: rest) taken free held) (ahead : next < s)
    (notTaken : s ∉ taken) : s ∉ held :=
  fun isHeld => lt_asymm ahead (h.held_behind s isHeld notTaken next (by simp))

theorem takeAhead (h : Ledger (next :: rest) taken free held) (ahead : next < s) :
    Ledger (next :: rest) (insert s taken) free (insert s held) where
  ascending := h.ascending
  taken_held := Finset.insert_subset_insert s h.taken_held
  held_behind t isHeld notTaken := by
    obtain ⟨other, notTaken⟩ : t ≠ s ∧ t ∉ taken := by simpa using notTaken
    exact h.held_behind t (by simpa [other] using isHeld) notTaken
  free_behind := h.free_behind
  free_fresh := by
    refine Finset.disjoint_insert_right.mpr ⟨fun isFree => ?_, h.free_fresh⟩
    exact lt_asymm ahead (h.free_behind s isFree next (by simp))

theorem grantAhead (h : Ledger (next :: rest) taken free held) (ahead : next < s)
    (notTaken : s ∉ taken) : Serves held (.get s) (some s) (next :: rest) (insert s taken) free :=
  granted (h.ahead_fresh ahead notTaken) (h.takeAhead ahead)

theorem grantHead (h : Ledger (s :: rest) taken free held) (notTaken : s ∉ taken) :
    Serves held (.get s) (some s) rest taken free :=
  granted (h.head_fresh notTaken) h.takeHead

theorem behind_of_lt (h : Ledger (next :: rest) taken free held) (lt : s < next) :
    ∀ later ∈ next :: rest, s < later := by
  rintro later (_ | ⟨_, mem⟩)
  · exact lt
  · exact lt.trans (List.rel_of_pairwise_cons h.ascending mem)

theorem returnAhead (h : Ledger iter taken free held) :
    Ledger iter (taken.erase s) free (held.erase s) where
  ascending := h.ascending
  taken_held := Finset.erase_subset_erase s h.taken_held
  held_behind t isHeld notTaken := by
    obtain ⟨other, isHeld⟩ := Finset.mem_erase.mp isHeld
    exact h.held_behind t isHeld (by simpa [other] using notTaken)
  free_behind := h.free_behind
  free_fresh := h.free_fresh.mono_right (Finset.erase_subset ..)

theorem returnBehind (h : Ledger iter taken free held) (behind : ∀ next ∈ iter, s < next) :
    Ledger iter (taken.erase s) (insert s free) (held.erase s) where
  ascending := h.ascending
  taken_held := Finset.erase_subset_erase s h.taken_held
  held_behind := h.returnAhead.held_behind
  free_behind t isFree := by
    obtain rfl | old := Finset.mem_insert.mp isFree
    · exact behind
    · exact h.free_behind t old
  free_fresh := by
    refine Finset.disjoint_insert_left.mpr ⟨by simp, h.returnAhead.free_fresh⟩

end Ledger

namespace ExactIpv4SubnetPool
variable {P : Nat} {held : Finset Ipv4Net} {s : Ipv4Net} {c : Call Ipv4Net}
  {pool : ExactIpv4SubnetPool P}

def Invariant (pool : ExactIpv4SubnetPool P) (held : Finset Ipv4Net) : Prop :=
  Ledger pool.iter pool.taken pool.free held

def Serves (held : Finset Ipv4Net) (c : Call Ipv4Net)
    (r : Option Ipv4Net × ExactIpv4SubnetPool P) : Prop :=
  Ledger.Serves held c r.1 r.2.iter r.2.taken r.2.free

theorem getNext_good (h : pool.Invariant held) : Serves held .getNext (serve .getNext pool) := by
  simp only [serve, getNext]
  split
  · rename_i nonempty
    exact h.nextFree (pool.free.min'_mem nonempty)
  · exact h.nextUntaken

/-- A subnet is granted only if it is free, in one of the three ways to be so. -/
theorem get_good (h : pool.Invariant held)
    (clean : ¬ TakenHead pool.iter pool.taken (.get s)) :
    Serves held (.get s) (serve (.get s) pool) := by
  obtain ⟨iter, free, taken⟩ := pool
  match iter with
  | [] =>
    simp only [serve, get]
    split
    · exact h.grantFree ‹_›
    · exact h.refused
  | next :: rest =>
    simp only [serve, get]
    split_ifs with ahead isTaken head isFree
    · exact h.refused
    · exact h.grantAhead ahead isTaken
    · subst head
      exact h.grantHead (by simpa [TakenHead] using clean)
    · exact h.grantFree isFree
    · exact h.refused

theorem giveBack_good (h : pool.Invariant held) (isHeld : s ∈ held) :
    (pool.giveBack s).Invariant (held.erase s) := by
  obtain ⟨iter, free, taken⟩ := pool
  match iter with
  | [] =>
    simp only [giveBack]
    split <;> exact h.returnBehind nofun
  | next :: rest =>
    simp only [giveBack]
    split_ifs with isTaken ahead
    · exact h.returnAhead
    · exact h.returnBehind (h.behind_of_lt (not_le.mp ahead))
    · exact h.returnBehind (h.held_behind s isHeld isTaken)

theorem serve_good (h : pool.Invariant held) (proper : c.Proper held)
    (clean : ¬ TakenHead pool.iter pool.taken c) : Serves held c (serve c pool) := by
  cases c with
  | getNext => exact getNext_good h
  | get s => exact get_good h clean
  | giveBack s => exact ⟨nofun, giveBack_good h proper⟩

/-- The subnet the iterator is at is granted without asking whether it is taken. -/
theorem serve_bad (h : pool.Invariant held) (bad : TakenHead pool.iter pool.taken c) :
    ∃ r ∈ (serve c pool).1, r ∈ held := by
  match c with
  | .get s =>
    obtain ⟨head, isTaken⟩ := bad
    obtain ⟨rest, iter⟩ := List.head?_eq_some_iff.mp head
    exact ⟨s, by simp [serve, get, iter, Except.toOption], h.taken_held isTaken⟩

theorem exclusive_iff {calls : List (Call Ipv4Net)} (h : pool.Invariant held)
    (proper : Proper serve calls (pool, held)) :
    Exclusive serve calls (pool, held) ↔
      AllSteps (lend serve) (fun s c => ¬ TakenHead s.1.iter s.1.taken c) calls (pool, held) :=
  Foundation.exclusive_iff (C := fun pool c => ¬ TakenHead pool.iter pool.taken c)
    (fun _ _ _ h proper clean => serve_good h proper clean)
    (fun _ _ _ h bad => serve_bad h (not_not.mp bad)) h proper

end ExactIpv4SubnetPool

namespace FifoExactIpv4SubnetPool
variable {P : Nat} {held : Finset Ipv4Net} {s : Ipv4Net} {c : Call Ipv4Net}
  {pool : FifoExactIpv4SubnetPool P}

def Invariant (pool : FifoExactIpv4SubnetPool P) (held : Finset Ipv4Net) : Prop :=
  Ledger pool.iter pool.taken pool.freeSet held

def Serves (held : Finset Ipv4Net) (c : Call Ipv4Net)
    (r : Option Ipv4Net × FifoExactIpv4SubnetPool P) : Prop :=
  Ledger.Serves held c r.1 r.2.iter r.2.taken r.2.freeSet

/-- Stale entries of the queue are never handed out. -/
theorem popFree_free {freeSet : Finset Ipv4Net} {queue rest : List Ipv4Net}
    (h : popFree freeSet queue = (some s, rest)) : s ∈ freeSet := by
  induction queue with
  | nil => simp [popFree] at h
  | cons t queue ih =>
    unfold popFree at h
    split at h
    · grind
    · exact ih h

theorem getNext_good (h : pool.Invariant held) : Serves held .getNext (serve .getNext pool) := by
  simp only [serve, getNext]
  split
  · rename_i popped
    exact h.nextFree (popFree_free popped)
  · exact h.nextUntaken

theorem get_good (h : pool.Invariant held)
    (clean : ¬ TakenHead pool.iter pool.taken (.get s)) :
    Serves held (.get s) (serve (.get s) pool) := by
  obtain ⟨iter, taken, freeQ, freeSet⟩ := pool
  match iter with
  | [] =>
    simp only [serve, get]
    split
    · exact h.grantFree ‹_›
    · exact h.refused
  | next :: rest =>
    simp only [serve, get]
    split_ifs with ahead isTaken head isFree
    · exact h.refused
    · exact h.grantAhead ahead isTaken
    · subst head
      exact h.grantHead (by simpa [TakenHead] using clean)
    · exact h.grantFree isFree
    · exact h.refused

theorem giveBack_good (h : pool.Invariant held) (isHeld : s ∈ held) :
    (pool.giveBack s).Invariant (held.erase s) := by
  obtain ⟨iter, taken, freeQ, freeSet⟩ := pool
  -- What is held is not in the free set, so it is always inserted and queued.
  have notFree : s ∉ freeSet := fun isFree => h.fresh isFree isHeld
  match iter with
  | [] =>
    simp only [giveBack, notFree, if_false]
    split <;> exact h.returnBehind nofun
  | next :: rest =>
    simp only [giveBack, notFree, if_false]
    split_ifs with isTaken ahead
    · exact h.returnAhead
    · exact h.returnBehind (h.behind_of_lt (not_le.mp ahead))
    · exact h.returnBehind (h.held_behind s isHeld isTaken)

theorem serve_good (h : pool.Invariant held) (proper : c.Proper held)
    (clean : ¬ TakenHead pool.iter pool.taken c) : Serves held c (serve c pool) := by
  cases c with
  | getNext => exact getNext_good h
  | get s => exact get_good h clean
  | giveBack s => exact ⟨nofun, giveBack_good h proper⟩

theorem serve_bad (h : pool.Invariant held) (bad : TakenHead pool.iter pool.taken c) :
    ∃ r ∈ (serve c pool).1, r ∈ held := by
  match c with
  | .get s =>
    obtain ⟨head, isTaken⟩ := bad
    obtain ⟨rest, iter⟩ := List.head?_eq_some_iff.mp head
    exact ⟨s, by simp [serve, get, iter, Except.toOption], h.taken_held isTaken⟩

theorem exclusive_iff {calls : List (Call Ipv4Net)} (h : pool.Invariant held)
    (proper : Proper serve calls (pool, held)) :
    Exclusive serve calls (pool, held) ↔
      AllSteps (lend serve) (fun s c => ¬ TakenHead s.1.iter s.1.taken c) calls (pool, held) :=
  Foundation.exclusive_iff (C := fun pool c => ¬ TakenHead pool.iter pool.taken c)
    (fun _ _ _ h proper clean => serve_good h proper clean)
    (fun _ _ _ h bad => serve_bad h (not_not.mp bad)) h proper

end FifoExactIpv4SubnetPool

section Runs
variable {subnets : Subnets} {P : Nat} {parent : Ipv4Net}

/-- What the pools rely on: the subnets of a network come in ascending order. -/
def Subnets.Ascending (subnets : Subnets) : Prop :=
  ∀ net prefixLen iter, subnets net prefixLen = .ok iter → iter.Pairwise (· < ·)

theorem ledger_new {iter : List Ipv4Net} (ascending : iter.Pairwise (· < ·)) :
    Ledger iter ∅ ∅ ∅ :=
  ⟨ascending, by simp, by simp, by simp, by simp⟩

theorem ExactIpv4SubnetPool.new_invariant {pool : ExactIpv4SubnetPool P}
    (ascending : subnets.Ascending) (new : ExactIpv4SubnetPool.new subnets parent = .ok pool) :
    pool.Invariant ∅ := by
  match listed : subnets parent P with
  | .ok iter =>
    simp only [ExactIpv4SubnetPool.new, listed] at new
    cases new
    exact ledger_new (ascending parent P iter listed)
  | .error _ =>
    simp only [ExactIpv4SubnetPool.new, listed] at new
    cases new

theorem FifoExactIpv4SubnetPool.new_invariant {pool : FifoExactIpv4SubnetPool P}
    (ascending : subnets.Ascending) (new : FifoExactIpv4SubnetPool.new subnets parent = .ok pool) :
    pool.Invariant ∅ := by
  match listed : subnets parent P with
  | .ok iter =>
    simp only [FifoExactIpv4SubnetPool.new, listed] at new
    cases new
    exact ledger_new (ascending parent P iter listed)
  | .error _ =>
    simp only [FifoExactIpv4SubnetPool.new, listed] at new
    cases new

/-- For either pool, over any parent network and prefix length, no call hands out a held subnet
exactly when none requests the subnet the iterator is at while it is taken. -/
theorem subnets_exclusive_iff (ascending : subnets.Ascending) (calls : List (Call Ipv4Net)) :
    (∀ pool : ExactIpv4SubnetPool P, ExactIpv4SubnetPool.new subnets parent = .ok pool →
      Proper ExactIpv4SubnetPool.serve calls (pool, ∅) →
      (Exclusive ExactIpv4SubnetPool.serve calls (pool, ∅) ↔
        AllSteps (lend ExactIpv4SubnetPool.serve)
          (fun s c => ¬ TakenHead s.1.iter s.1.taken c) calls (pool, ∅))) ∧
    (∀ pool : FifoExactIpv4SubnetPool P, FifoExactIpv4SubnetPool.new subnets parent = .ok pool →
      Proper FifoExactIpv4SubnetPool.serve calls (pool, ∅) →
      (Exclusive FifoExactIpv4SubnetPool.serve calls (pool, ∅) ↔
        AllSteps (lend FifoExactIpv4SubnetPool.serve)
          (fun s c => ¬ TakenHead s.1.iter s.1.taken c) calls (pool, ∅))) :=
  ⟨fun _ new => ExactIpv4SubnetPool.exclusive_iff
    (ExactIpv4SubnetPool.new_invariant ascending new),
    fun _ new => FifoExactIpv4SubnetPool.exclusive_iff
      (FifoExactIpv4SubnetPool.new_invariant ascending new)⟩

/-- The subnets of a network, in ascending order. -/
def ipv4Subnets : Subnets := fun net prefixLen =>
  if net.prefixLen ≤ prefixLen ∧ prefixLen ≤ 32 then
    let network := net.addr - net.addr % 2 ^ (32 - net.prefixLen)
    .ok ((List.range (2 ^ (prefixLen - net.prefixLen))).map fun n =>
      { addr := network + n * 2 ^ (32 - prefixLen), prefixLen })
  else .error {}

theorem ipv4Subnets_ascending : Subnets.Ascending ipv4Subnets := by
  intro net prefixLen iter listed
  simp only [ipv4Subnets] at listed
  split at listed
  · cases listed
    refine List.pairwise_map.mpr (List.pairwise_lt_range.imp fun {m n} lt => ?_)
    have step : m * 2 ^ (32 - prefixLen) < n * 2 ^ (32 - prefixLen) :=
      Nat.mul_lt_mul_of_pos_right lt (by positivity)
    exact Prod.Lex.toLex_lt_toLex.mpr (.inl (by simpa using step))
  · cases listed

def tenNet (third prefixLen : Nat) : Ipv4Net := { addr := 10 * 2 ^ 24 + third * 2 ^ 8, prefixLen }

theorem subnets_exclusive_calm :
    let calls := [.get (tenNet 2 24), .getNext, .giveBack (tenNet 2 24), .getNext, .getNext]
    let pool : ExactIpv4SubnetPool 24 :=
      { iter := [tenNet 0 24, tenNet 1 24, tenNet 2 24, tenNet 3 24], free := ∅, taken := ∅ }
    let fifo : FifoExactIpv4SubnetPool 24 :=
      { iter := [tenNet 0 24, tenNet 1 24, tenNet 2 24, tenNet 3 24], taken := ∅, freeQ := [],
        freeSet := ∅ }
    Exclusive ExactIpv4SubnetPool.serve calls (pool, ∅) ∧
      Exclusive FifoExactIpv4SubnetPool.serve calls (fifo, ∅) := by
  intro calls pool fifo
  have both := @subnets_exclusive_iff ipv4Subnets 24 (tenNet 0 22) ipv4Subnets_ascending calls
  exact ⟨(both.1 pool rfl (by decide)).mpr (by decide),
    (both.2 fifo rfl (by decide)).mpr (by decide)⟩

/-- A subnet requested ahead of the iterator is granted again once the iterator has come to it. -/
theorem subnet_granted_twice :
    let calls := [.get (tenNet 1 24), .getNext, .get (tenNet 1 24)]
    (∃ pool : ExactIpv4SubnetPool 24,
      ExactIpv4SubnetPool.new ipv4Subnets (tenNet 0 22) = .ok pool ∧
        Proper ExactIpv4SubnetPool.serve calls (pool, ∅) ∧
        ¬ Exclusive ExactIpv4SubnetPool.serve calls (pool, ∅)) ∧
    (∃ pool : FifoExactIpv4SubnetPool 24,
      FifoExactIpv4SubnetPool.new ipv4Subnets (tenNet 0 22) = .ok pool ∧
        Proper FifoExactIpv4SubnetPool.serve calls (pool, ∅) ∧
        ¬ Exclusive FifoExactIpv4SubnetPool.serve calls (pool, ∅)) :=
  ⟨⟨_, rfl, by decide, by decide⟩, ⟨_, rfl, by decide, by decide⟩⟩

end Runs

end Network
end Snaplace
