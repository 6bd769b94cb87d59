import Mathlib.Order.Bounds.Basic
import Snaplace.Network.Containment

/-!
# The order in which subnet pools recycle

A client that requests only free subnets of the parent and gives back only what it holds finds all
that it does not hold: in the free set, or ahead of the iterator and not taken. One pool then hands
out the smallest such subnet. The other hands out the one given back the longest time ago, unless
an old entry of its queue stands for a subnet that was taken and given back since.
-/
namespace Snaplace
open Foundation

namespace Network
variable {P : Nat} {member : Ipv4Net → Prop} {iter rest : List Ipv4Net}
  {taken free held : Finset Ipv4Net} {s t next : Ipv4Net}

/-- The client requests what is the parent's and free, and gives back what it holds. -/
def Asks (member : Ipv4Net → Prop) (held : Finset Ipv4Net) : Call Ipv4Net → Prop
  | .getNext => True
  | .get s => member s ∧ s ∉ held
  | .giveBack s => s ∈ held

instance [DecidablePred member] (held : Finset Ipv4Net) :
    (c : Call Ipv4Net) → Decidable (Asks member held c)
  | .getNext => isTrue trivial
  | .get s => inferInstanceAs (Decidable (member s ∧ s ∉ held))
  | .giveBack s => inferInstanceAs (Decidable (s ∈ held))

/-- A subnet of the parent that is not held. -/
def Free (member : Ipv4Net → Prop) (held : Finset Ipv4Net) (s : Ipv4Net) : Prop :=
  member s ∧ s ∉ held

/-- A subnet that the iterator has passed. -/
def Behind (iter : List Ipv4Net) (s : Ipv4Net) : Prop := ∀ next ∈ iter.head?, s < next

/-- Nothing is lost: the ledger accounts for all subnets of the parent. -/
structure Account (member : Ipv4Net → Prop) (iter : List Ipv4Net)
    (taken free held : Finset Ipv4Net) : Prop where
  ledger : Ledger iter taken free held
  within : Within member iter taken free held
  /-- The iterator has all that follows where it stands. -/
  ahead : ∀ next ∈ iter.head?, ∀ s, member s → next ≤ s → s ∈ iter
  found : ∀ s, Free member held s → s ∈ free ∨ s ∈ iter

namespace Account

theorem head_le (h : Account member (next :: rest) taken free held) (mem : s ∈ next :: rest) :
    next ≤ s := by
  rcases List.mem_cons.mp mem with rfl | mem
  · exact le_rfl
  · exact (List.rel_of_pairwise_cons h.ledger.ascending mem).le

theorem behind_free (h : Account member iter taken free held) (isFree : s ∈ free) :
    Behind iter s :=
  fun next head => h.ledger.free_behind s isFree next (List.mem_of_mem_head? head)

theorem free_of_mem (h : Account member iter taken free held) (isFree : s ∈ free) :
    Free member held s := ⟨h.within.free s isFree, h.ledger.fresh isFree⟩

/-- What is free behind the iterator is in the free set. -/
theorem mem_free_iff (h : Account member iter taken free held) :
    s ∈ free ↔ Free member held s ∧ Behind iter s := by
  constructor
  · exact fun isFree => ⟨h.free_of_mem isFree, h.behind_free isFree⟩
  · rintro ⟨isFree, behind⟩
    rcases h.found s isFree with mem | mem
    · exact mem
    · cases iter with
      | nil => cases mem
      | cons next rest => exact absurd (h.head_le mem) (not_le.mpr (behind next rfl))

/-- What is free ahead of the iterator is in it. -/
theorem mem_iter_of_ahead (h : Account member iter taken free held) (isFree : Free member held s)
    (ahead : ¬ Behind iter s) : s ∈ iter :=
  (h.found s isFree).resolve_left fun mem => ahead (h.behind_free mem)

theorem not_behind (h : Account member iter taken free held) (mem : s ∈ iter) :
    ¬ Behind iter s := by
  cases iter with
  | nil => cases mem
  | cons next rest => exact fun behind => not_lt.mpr (h.head_le mem) (behind next rfl)

/-- The iterator moves past subnets that are held then. -/
theorem advance {skipped : List Ipv4Net} {held' : Finset Ipv4Net}
    (h : Account member (skipped ++ rest) taken free held)
    (ledger : Ledger rest taken free held') (within : Within member rest taken free held')
    (passed : ∀ t ∈ skipped, t ∈ held') (more : held ⊆ held') :
    Account member rest taken free held' where
  ledger := ledger
  within := within
  ahead next head s isMember le := by
    have mem : next ∈ skipped ++ rest := by simp [List.mem_of_mem_head? head]
    cases whole : skipped ++ rest with
    | nil => simp [whole] at mem
    | cons first later =>
      rw [whole] at h mem
      have all := h.ahead first rfl s isMember ((h.head_le mem).trans le)
      rw [← whole] at all h
      rcases List.mem_append.mp all with early | late
      · -- The iterator ascends, so what it has passed is below where it stands.
        have lt := (List.pairwise_append.mp h.ledger.ascending).2.2 s early next
          (List.mem_of_mem_head? head)
        exact absurd le (not_le.mpr lt)
      · exact late
  found s isFree := by
    rcases h.found s ⟨isFree.1, fun isHeld => isFree.2 (more isHeld)⟩ with mem | mem
    · exact .inl mem
    · rcases List.mem_append.mp mem with early | late
      · exact absurd (passed s early) isFree.2
      · exact .inr late

theorem takeFree (h : Account member iter taken free held) (isFree : s ∈ free) :
    Account member iter taken (free.erase s) (insert s held) where
  ledger := h.ledger.takeFree isFree
  within := (h.within.hold (h.within.free s isFree)).removeFree
  ahead := h.ahead
  found t isFree' := by
    obtain ⟨other, notHeld⟩ : t ≠ s ∧ t ∉ held := by simpa using isFree'.2
    rcases h.found t ⟨isFree'.1, notHeld⟩ with mem | mem
    · exact .inl (Finset.mem_erase.mpr ⟨other, mem⟩)
    · exact .inr mem

theorem takeHead (h : Account member (s :: rest) taken free held) :
    Account member rest taken free (insert s held) := by
  have split : Account member ([s] ++ rest) taken free held := h
  exact split.advance h.ledger.takeHead (h.within.hold (h.within.iter s (by simp))).skip (by simp)
    (Finset.subset_insert ..)

theorem takeAhead (h : Account member (next :: rest) taken free held) (lt : next < s)
    (isMember : member s) :
    Account member (next :: rest) (insert s taken) free (insert s held) where
  ledger := h.ledger.takeAhead lt
  within := (h.within.hold isMember).take isMember
  ahead := h.ahead
  found t isFree := by
    refine h.found t ⟨isFree.1, fun isHeld => isFree.2 (Finset.mem_insert_of_mem isHeld)⟩

theorem returnAhead (h : Account member (next :: rest) taken free held) (le : next ≤ s) :
    Account member (next :: rest) (taken.erase s) free (held.erase s) where
  ledger := h.ledger.returnAhead
  within := h.within.release.untake
  ahead := h.ahead
  found t isFree := by
    by_cases same : t = s
    · exact .inr (h.ahead next rfl t isFree.1 (same ▸ le))
    · exact h.found t ⟨isFree.1, fun isHeld => isFree.2 (by simp [same, isHeld])⟩

theorem returnBehind (h : Account member iter taken free held) (isHeld : s ∈ held)
    (behind : ∀ next ∈ iter, s < next) :
    Account member iter (taken.erase s) (insert s free) (held.erase s) where
  ledger := h.ledger.returnBehind behind
  within := (h.within.addFree (h.within.held s isHeld)).release.untake
  ahead := h.ahead
  found t isFree := by
    by_cases same : t = s
    · exact .inl (by simp [same])
    · rcases h.found t ⟨isFree.1, fun isHeld => isFree.2 (by simp [same, isHeld])⟩ with mem | mem
      · exact .inl (Finset.mem_insert_of_mem mem)
      · exact .inr mem

theorem new (ascending : iter.Pairwise (· < ·)) (all : ∀ s, s ∈ iter ↔ member s) :
    Account member iter ∅ ∅ ∅ where
  ledger := ledger_new ascending
  within := ⟨fun s mem => (all s).mp mem, by simp, by simp, by simp⟩
  ahead _ _ s isMember _ := (all s).mpr isMember
  found s isFree := .inr ((all s).mpr isFree.1)

/-- What the iterator comes to next is the smallest free subnet ahead of it. -/
theorem nextUntaken (h : Account member iter taken free held) :
    (∀ s, (Network.nextUntaken taken iter).1 = some s ↔
      IsLeast {r | Free member held r ∧ ¬ Behind iter r} s) ∧
    ((Network.nextUntaken taken iter).1 = none ↔ ∀ s, Free member held s → Behind iter s) ∧
    Account member (Network.nextUntaken taken iter).2 taken free
      (heldAfter held .getNext (Network.nextUntaken taken iter).1) := by
  cases next : Network.nextUntaken taken iter with
  | mk out rest =>
    cases out with
    | none =>
      obtain ⟨rfl, all⟩ := nextUntaken_none next
      have allHeld : ∀ t ∈ iter, t ∈ held := fun t mem => h.ledger.taken_held (all t mem)
      have none : ∀ s, Free member held s → Behind iter s := fun s isFree => by
        by_contra ahead
        exact isFree.2 (allHeld s (h.mem_iter_of_ahead isFree ahead))
      refine ⟨fun s => ⟨nofun, fun least => absurd (none s least.1.1) least.1.2⟩,
        ⟨fun _ => none, fun _ => rfl⟩, ?_⟩
      rw [← List.append_nil iter] at h
      refine h.advance ?_ ?_ allHeld (fun _ mem => mem)
      · exact ⟨by simp, h.ledger.taken_held, by simp, by simp, h.ledger.free_fresh⟩
      · exact { h.within with iter := by simp }
    | some s =>
      obtain ⟨skipped, rfl, fresh, all⟩ := nextUntaken_split next
      have mem : s ∈ skipped ++ s :: rest := by simp
      have ledger := h.ledger.nextUntaken
      rw [next] at ledger
      have notHeld : s ∉ held := ledger.1 s rfl
      have isFree : Free member held s := ⟨h.within.iter s mem, notHeld⟩
      have least : IsLeast {r | Free member held r ∧ ¬ Behind (skipped ++ s :: rest) r} s := by
        refine ⟨⟨isFree, h.not_behind mem⟩, ?_⟩
        rintro t ⟨tFree, ahead⟩
        rcases List.mem_append.mp (h.mem_iter_of_ahead tFree ahead) with early | late
        · exact absurd (h.ledger.taken_held (all t early)) tFree.2
        · rcases List.mem_cons.mp late with rfl | late
          · exact le_rfl
          · have ascending := (List.pairwise_append.mp h.ledger.ascending).2.1
            exact (List.rel_of_pairwise_cons ascending late).le
      refine ⟨fun s' => ?_, ?_, ?_⟩
      · constructor
        · rintro ⟨rfl⟩
          exact least
        · exact fun least' => congrArg some (least.unique least')
      · refine ⟨nofun, fun none => absurd (none s isFree) (h.not_behind mem)⟩
      · rw [List.append_cons] at h
        refine h.advance ledger.2 ?_ ?_ (Finset.subset_insert ..)
        · have inside := h.within.hold (s := s) (h.within.iter s (by simp))
          exact { inside with iter := fun t late => h.within.iter t (by simp [late]) }
        · intro t passed
          change t ∈ insert s held
          rcases List.mem_append.mp passed with early | here
          · exact Finset.mem_insert_of_mem (h.ledger.taken_held (all t early))
          · rw [List.mem_singleton.mp here]
            exact Finset.mem_insert_self ..

end Account

/-- What the answer to a call must be: `getNext` hands out the smallest free subnet as long as there
is one, and a request succeeds. -/
def SmallestFirst (member : Ipv4Net → Prop) (held : Finset Ipv4Net) (c : Call Ipv4Net)
    (out : Option Ipv4Net) : Prop :=
  match c with
  | .getNext => (∀ s, out = some s ↔ IsLeast {r | Free member held r} s) ∧
      (out = none ↔ ∀ s, member s → s ∈ held)
  | .get s => out = some s
  | .giveBack _ => True

namespace ExactIpv4SubnetPool
variable {pool : ExactIpv4SubnetPool P} {c : Call Ipv4Net}

/-- An answer as it must be, with nothing lost. -/
def Recycles (member : Ipv4Net → Prop) (held : Finset Ipv4Net) (c : Call Ipv4Net)
    (r : Option Ipv4Net × ExactIpv4SubnetPool P) : Prop :=
  SmallestFirst member held c r.1 ∧
    Account member r.2.iter r.2.taken r.2.free (heldAfter held c r.1)

theorem getNext_recycles (h : Account member pool.iter pool.taken pool.free held) :
    Recycles member held .getNext (serve .getNext pool) := by
  simp only [serve, getNext]
  split
  next nonempty =>
    have isFree := pool.free.min'_mem nonempty
    have least : IsLeast {r | Free member held r} (pool.free.min' nonempty) := by
      refine ⟨h.free_of_mem isFree, fun r rFree => ?_⟩
      rcases h.found r rFree with mem | mem
      · exact pool.free.min'_le r mem
      · exact (h.ledger.free_behind _ isFree r mem).le
    refine ⟨⟨fun s => ?_, fun none => absurd none (by simp), fun all => ?_⟩, h.takeFree isFree⟩
    · constructor
      · rintro ⟨rfl⟩
        exact least
      · exact fun least' => congrArg some (least.unique least')
    · exact absurd (all _ least.1.1) least.1.2
  next empty =>
    -- With nothing in the free set, all that is free is ahead of the iterator.
    have ahead (s : Ipv4Net) (sFree : Free member held s) : ¬ Behind pool.iter s := fun behind =>
      empty ⟨s, h.mem_free_iff.mpr ⟨sFree, behind⟩⟩
    obtain ⟨next, none, account⟩ := h.nextUntaken
    refine ⟨⟨fun s => (next s).trans ?_, none.trans ?_⟩, account⟩
    · have same : {r | Free member held r ∧ ¬ Behind pool.iter r} = {r | Free member held r} :=
        Set.ext fun r => and_iff_left_of_imp (ahead r)
      rw [same]
    · constructor
      · intro behind s isMember
        by_contra notHeld
        exact ahead s ⟨isMember, notHeld⟩ (behind s ⟨isMember, notHeld⟩)
      · exact fun all s sFree => absurd (all s sFree.1) sFree.2

theorem get_recycles (h : Account member pool.iter pool.taken pool.free held)
    (sFree : Free member held s) : Recycles member held (.get s) (serve (.get s) pool) := by
  have notTaken : s ∉ pool.taken := fun isTaken => sFree.2 (h.ledger.taken_held isTaken)
  have found := h.found s sFree
  obtain ⟨iter, free, taken⟩ := pool
  match iter with
  | [] =>
    have isFree : s ∈ free := by simpa using found
    simp only [serve, get, if_pos isFree]
    exact ⟨rfl, h.takeFree isFree⟩
  | next :: rest =>
    simp only [serve, get]
    split_ifs with ahead head isFree
    · exact ⟨rfl, h.takeAhead ahead sFree.1⟩
    · exact ⟨rfl, (head ▸ h : Account member (s :: rest) taken free held).takeHead⟩
    · exact ⟨rfl, h.takeFree isFree⟩
    · rcases found with mem | mem
      · exact absurd mem isFree
      · exact absurd (lt_of_le_of_ne (h.head_le mem) (Ne.symm head)) ahead

theorem giveBack_recycles (h : Account member pool.iter pool.taken pool.free held)
    (isHeld : s ∈ held) : Recycles member held (.giveBack s) (serve (.giveBack s) pool) := by
  refine ⟨trivial, ?_⟩
  obtain ⟨iter, free, taken⟩ := pool
  match iter with
  | [] =>
    simp only [serve, giveBack]
    split <;> exact h.returnBehind isHeld (by simp)
  | next :: rest =>
    simp only [serve, giveBack]
    split_ifs with isTaken ahead
    · exact h.returnAhead ahead
    · exact h.returnBehind isHeld (h.ledger.behind_of_lt (not_le.mp ahead))
    · exact h.returnBehind isHeld (h.ledger.held_behind s isHeld isTaken)

theorem serve_recycles (h : Account member pool.iter pool.taken pool.free held)
    (asks : Asks member held c) : Recycles member held c (serve c pool) := by
  cases c with
  | getNext => exact getNext_recycles h
  | get s => exact get_recycles h asks
  | giveBack s => exact giveBack_recycles h asks

end ExactIpv4SubnetPool

/-- What the answer to a call must be: `getNext` hands out the free subnet behind the iterator whose
latest return is the oldest, or else the smallest free one, and a request succeeds. `returned` has
the returns so far, the latest first. -/
def OldestFirst (member : Ipv4Net → Prop) (iter : List Ipv4Net) (held : Finset Ipv4Net)
    (returned : List Ipv4Net) (c : Call Ipv4Net) (out : Option Ipv4Net) : Prop :=
  match c with
  | .getNext =>
    ((∃ s, Free member held s ∧ Behind iter s) →
      ∃ s, out = some s ∧ Free member held s ∧ Behind iter s ∧
        ∀ t, Free member held t → Behind iter t → t ≠ s →
          returned.idxOf t < returned.idxOf s) ∧
    ((∀ s, Free member held s → ¬ Behind iter s) →
      ∀ s, out = some s ↔ IsLeast {r | Free member held r ∧ ¬ Behind iter r} s) ∧
    (out = none ↔ ∀ s, member s → s ∈ held)
  | .get s => out = some s
  | .giveBack _ => True

/-- The queue has the free subnets in the order of their latest returns: what counts is the last
entry of a subnet. -/
structure QueueOrder (freeQ : List Ipv4Net) (freeSet : Finset Ipv4Net) (returned : List Ipv4Net) :
    Prop where
  queued : ∀ s ∈ freeSet, s ∈ freeQ
  order : ∀ s ∈ freeSet, ∀ t ∈ freeSet,
    (returned.idxOf s < returned.idxOf t ↔ freeQ.reverse.idxOf s < freeQ.reverse.idxOf t)

theorem popFree_fst (freeSet : Finset Ipv4Net) (queue : List Ipv4Net) :
    (popFree freeSet queue).1 = queue.find? (· ∈ freeSet) := by
  induction queue with
  | nil => rfl
  | cons first later ih =>
    unfold popFree
    by_cases isFree : first ∈ freeSet
    · simp [isFree]
    · simp [isFree, ih]

namespace QueueOrder
variable {freeQ : List Ipv4Net} {freeSet : Finset Ipv4Net} {returned : List Ipv4Net}

theorem empty : QueueOrder [] ∅ [] := ⟨by simp, by simp⟩

theorem take (h : QueueOrder freeQ freeSet returned) :
    QueueOrder freeQ (freeSet.erase s) returned where
  queued t mem := h.queued t (Finset.mem_of_mem_erase mem)
  order t mem u mem' := h.order t (Finset.mem_of_mem_erase mem) u (Finset.mem_of_mem_erase mem')

/-- Entries in front of the first free one are stale, so no last entry of a free subnet is lost. -/
theorem pop {stale : List Ipv4Net} (h : QueueOrder (stale ++ s :: rest) freeSet returned)
    (old : ∀ t ∈ stale, t ∉ freeSet) : QueueOrder rest (freeSet.erase s) returned := by
  have queued : ∀ t ∈ freeSet.erase s, t ∈ rest := by
    intro t mem
    obtain ⟨other, isFree⟩ := Finset.mem_erase.mp mem
    rcases List.mem_append.mp (h.queued t isFree) with early | late
    · exact absurd isFree (old t early)
    · exact (List.mem_cons.mp late).resolve_left other
  refine ⟨queued, fun t mem u mem' => ?_⟩
  rw [h.order t (Finset.mem_of_mem_erase mem) u (Finset.mem_of_mem_erase mem')]
  have split : (stale ++ s :: rest).reverse = rest.reverse ++ (s :: stale.reverse) := by simp
  rw [split, List.idxOf_append_of_mem (by simpa using queued t mem),
    List.idxOf_append_of_mem (by simpa using queued u mem')]

/-- A return that leaves the queue alone is of a subnet that is not free behind the iterator. -/
theorem log (h : QueueOrder freeQ freeSet returned) (absent : s ∉ freeSet) :
    QueueOrder freeQ freeSet (s :: returned) where
  queued := h.queued
  order t mem u mem' := by
    have other : s ≠ t := fun same => absent (same ▸ mem)
    have other' : s ≠ u := fun same => absent (same ▸ mem')
    rw [List.idxOf_cons_ne _ other, List.idxOf_cons_ne _ other', Nat.succ_lt_succ_iff]
    exact h.order t mem u mem'

theorem push (h : QueueOrder freeQ freeSet returned) :
    QueueOrder (freeQ ++ [s]) (insert s freeSet) (s :: returned) where
  queued t mem := by
    rcases Finset.mem_insert.mp mem with rfl | mem
    · simp
    · simp [h.queued t mem]
  order t mem u mem' := by
    rw [List.reverse_append, List.reverse_singleton, List.singleton_append]
    by_cases first : s = t
    · subst first
      by_cases second : s = u
      · simp [second]
      · simp [List.idxOf_cons_ne _ second]
    · by_cases second : s = u
      · subst second
        simp
      · have isFree := (Finset.mem_insert.mp mem).resolve_left (Ne.symm first)
        have isFree' := (Finset.mem_insert.mp mem').resolve_left (Ne.symm second)
        rw [List.idxOf_cons_ne _ first, List.idxOf_cons_ne _ second, List.idxOf_cons_ne _ first,
          List.idxOf_cons_ne _ second, Nat.succ_lt_succ_iff, Nat.succ_lt_succ_iff]
        exact h.order t isFree u isFree'

end QueueOrder

namespace FifoExactIpv4SubnetPool
variable {pool : FifoExactIpv4SubnetPool P} {c : Call Ipv4Net} {returned : List Ipv4Net}

/-- The next subnet is asked for while the first entry of a free subnet in the queue is an old one:
this subnet has been queued again since another free one was queued for the last time. -/
def StaleHead (pool : FifoExactIpv4SubnetPool P) : Call Ipv4Net → Prop
  | .getNext => ∃ s ∈ pool.freeQ.find? (· ∈ pool.freeSet), ∃ t ∈ pool.freeSet,
      pool.freeQ.reverse.idxOf s < pool.freeQ.reverse.idxOf t
  | _ => False

instance (pool : FifoExactIpv4SubnetPool P) : (c : Call Ipv4Net) → Decidable (pool.StaleHead c)
  | .getNext =>
    inferInstanceAs (Decidable (∃ s ∈ pool.freeQ.find? (· ∈ pool.freeSet), ∃ t ∈ pool.freeSet,
      pool.freeQ.reverse.idxOf s < pool.freeQ.reverse.idxOf t))
  | .get _ => isFalse nofun
  | .giveBack _ => isFalse nofun

def Tracked (member : Ipv4Net → Prop) (pool : FifoExactIpv4SubnetPool P) (held : Finset Ipv4Net)
    (returned : List Ipv4Net) : Prop :=
  Account member pool.iter pool.taken pool.freeSet held ∧
    QueueOrder pool.freeQ pool.freeSet returned

theorem getNext_tracked (h : Tracked member pool held returned) :
    (OldestFirst member pool.iter held returned .getNext pool.getNext.1 ↔
      ¬ StaleHead pool .getNext) ∧
    Tracked member pool.getNext.2 (heldAfter held .getNext pool.getNext.1) returned := by
  obtain ⟨account, queue⟩ := h
  obtain ⟨iter, taken, freeQ, freeSet⟩ := pool
  simp only [getNext, StaleHead, Tracked, OldestFirst, ← popFree_fst]
  dsimp only at account queue
  cases popped : popFree freeSet freeQ with
  | mk out later =>
    cases out with
    | none =>
      obtain ⟨rfl, all⟩ := popFree_none popped
      have empty : freeSet = ∅ := Finset.eq_empty_of_forall_notMem fun t mem =>
        all t (queue.queued t mem) mem
      subst empty
      have ahead (s : Ipv4Net) (sFree : Free member held s) : ¬ Behind iter s := fun behind => by
        simpa using account.mem_free_iff.mpr ⟨sFree, behind⟩
      obtain ⟨next, none, account'⟩ := account.nextUntaken
      refine ⟨iff_of_true ⟨?_, fun _ => next, none.trans ?_⟩ (by simp), account', by simp, by simp⟩
      · rintro ⟨s, sFree, behind⟩
        exact absurd behind (ahead s sFree)
      · constructor
        · intro behind s isMember
          by_contra notHeld
          exact ahead s ⟨isMember, notHeld⟩ (behind s ⟨isMember, notHeld⟩)
        · exact fun all s sFree => absurd (all s sFree.1) sFree.2
    | some s =>
      obtain ⟨stale, rfl, isFree, old⟩ := popFree_split popped
      refine ⟨?_, account.takeFree isFree, queue.pop old⟩
      obtain ⟨sFree, sBehind⟩ := account.mem_free_iff.mp isFree
      constructor
      · rintro ⟨oldest, -, -⟩ ⟨_, ⟨rfl⟩, t, mem, later⟩
        obtain ⟨tFree, tBehind⟩ := account.mem_free_iff.mp mem
        obtain ⟨_, ⟨rfl⟩, -, -, all⟩ := oldest ⟨s, sFree, sBehind⟩
        by_cases same : t = s
        · subst same
          exact lt_irrefl _ later
        · have := all t tFree tBehind same
          rw [queue.order t mem s isFree] at this
          exact lt_asymm this later
      · intro fresh
        refine ⟨fun _ => ⟨s, rfl, sFree, sBehind, fun t tFree tBehind other => ?_⟩, ?_, by simp, ?_⟩
        · have mem := account.mem_free_iff.mpr ⟨tFree, tBehind⟩
          rw [queue.order t mem s isFree]
          refine lt_of_le_of_ne ?_ fun same => other ?_
          · by_contra later
            exact fresh ⟨s, rfl, t, mem, not_le.mp later⟩
          · exact (List.idxOf_inj (List.mem_reverse.mpr (queue.queued t mem))).mp same
        · exact fun ahead => absurd sBehind (ahead s sFree)
        · exact fun all => absurd (all s sFree.1) sFree.2

theorem get_tracked (h : Tracked member pool held returned) (sFree : Free member held s) :
    (serve (.get s) pool).1 = some s ∧
      Tracked member (serve (.get s) pool).2 (insert s held) returned := by
  obtain ⟨account, queue⟩ := h
  have notTaken : s ∉ pool.taken := fun isTaken => sFree.2 (account.ledger.taken_held isTaken)
  have found := account.found s sFree
  obtain ⟨iter, taken, freeQ, freeSet⟩ := pool
  match iter with
  | [] =>
    have isFree : s ∈ freeSet := by simpa using found
    simp only [serve, get, if_pos isFree]
    exact ⟨rfl, account.takeFree isFree, queue.take⟩
  | next :: rest =>
    simp only [serve, get]
    split_ifs with ahead head isFree
    · exact ⟨rfl, account.takeAhead ahead sFree.1, queue⟩
    · refine ⟨rfl, ?_, queue⟩
      exact (head ▸ account : Account member (s :: rest) taken freeSet held).takeHead
    · exact ⟨rfl, account.takeFree isFree, queue.take⟩
    · rcases found with mem | mem
      · exact absurd mem isFree
      · exact absurd (lt_of_le_of_ne (account.head_le mem) (Ne.symm head)) ahead

theorem giveBack_tracked (h : Tracked member pool held returned) (isHeld : s ∈ held) :
    Tracked member (pool.giveBack s) (held.erase s) (s :: returned) := by
  obtain ⟨account, queue⟩ := h
  have notFree : s ∉ pool.freeSet := fun isFree => account.ledger.fresh isFree isHeld
  obtain ⟨iter, taken, freeQ, freeSet⟩ := pool
  match iter with
  | [] =>
    simp only [giveBack, if_neg notFree]
    split <;> exact ⟨account.returnBehind isHeld (by simp), queue.push⟩
  | next :: rest =>
    simp only [giveBack, if_neg notFree]
    split_ifs with isTaken ahead
    · exact ⟨account.returnAhead ahead, queue.log notFree⟩
    · exact ⟨account.returnBehind isHeld (account.ledger.behind_of_lt (not_le.mp ahead)), queue.push⟩
    · exact ⟨account.returnBehind isHeld (account.ledger.held_behind s isHeld isTaken), queue.push⟩

theorem serve_tracked (h : Tracked member pool held returned) (asks : Asks member held c) :
    (OldestFirst member pool.iter held returned c (serve c pool).1 ↔ ¬ StaleHead pool c) ∧
      Tracked member (lendLogged serve c ((pool, held), returned)).1.1
        (lendLogged serve c ((pool, held), returned)).1.2
        (lendLogged serve c ((pool, held), returned)).2 := by
  cases c with
  | getNext => exact getNext_tracked h
  | get s =>
    obtain ⟨granted, tracked⟩ := get_tracked h asks
    refine ⟨iff_of_true granted not_false, ?_⟩
    simpa only [lendLogged, lend, granted, heldAfter] using tracked
  | giveBack s => exact ⟨iff_of_true trivial not_false, giveBack_tracked h asks⟩

theorem oldest_first_iff {calls : List (Call Ipv4Net)} (h : Tracked member pool held returned)
    (asks : AllSteps (lendLogged serve) (fun s c => Asks member s.1.2 c) calls
      ((pool, held), returned)) :
    AllSteps (lendLogged serve)
        (fun s c => OldestFirst member s.1.1.iter s.1.2 s.2 c (serve c s.1.1).1) calls
        ((pool, held), returned) ↔
      AllSteps (lendLogged serve) (fun s c => ¬ StaleHead s.1.1 c) calls ((pool, held), returned) :=
  allSteps_congr (I := fun s : (FifoExactIpv4SubnetPool P × Finset Ipv4Net) × List Ipv4Net =>
      Tracked member s.1.1 s.1.2 s.2)
    (fun _ _ tracked asks => (serve_tracked tracked asks).1)
    (fun _ _ tracked asks _ => (serve_tracked tracked asks).2) h asks

end FifoExactIpv4SubnetPool

section Runs
variable {subnets : Subnets} {parent : Ipv4Net}

theorem ExactIpv4SubnetPool.new_account {pool : ExactIpv4SubnetPool P}
    (ascending : subnets.Ascending) (complete : subnets.Complete)
    (new : ExactIpv4SubnetPool.new subnets parent = .ok pool) :
    Account (parent.IsSubnet P) pool.iter pool.taken pool.free ∅ := by
  match listed : subnets parent P with
  | .ok iter =>
    simp only [ExactIpv4SubnetPool.new, listed] at new
    cases new
    exact .new (ascending parent P iter listed) (complete parent P iter listed)
  | .error _ =>
    simp only [ExactIpv4SubnetPool.new, listed] at new
    cases new

/-- The pool that recycles the smallest subnet first loses nothing: in a run in which only free
subnets of the parent are requested and only held ones given back, each call is answered as it must
be. -/
theorem exact_smallest_first (ascending : subnets.Ascending) (complete : subnets.Complete)
    {pool : ExactIpv4SubnetPool P} (new : ExactIpv4SubnetPool.new subnets parent = .ok pool)
    {calls : List (Call Ipv4Net)}
    (asks : AllSteps (lend ExactIpv4SubnetPool.serve)
      (fun s c => Asks (parent.IsSubnet P) s.2 c) calls (pool, ∅)) :
    AllSteps (lend ExactIpv4SubnetPool.serve)
      (fun s c => SmallestFirst (parent.IsSubnet P) s.2 c (ExactIpv4SubnetPool.serve c s.1).1)
      calls (pool, ∅) := by
  refine (allSteps_congr (I := fun s => Account _ s.1.iter s.1.taken s.1.free s.2)
    (C := fun _ _ => True) ?_ ?_ (ExactIpv4SubnetPool.new_account ascending complete new)
    asks).mpr (allSteps_true ..)
  · intro s c account asks
    exact iff_of_true (ExactIpv4SubnetPool.serve_recycles account asks).1 trivial
  · intro s c account asks _
    exact (ExactIpv4SubnetPool.serve_recycles account asks).2

/-- Granted ahead of the iterator, given back ahead of it, and given back behind it. -/
theorem exact_smallest_first_shuffled :
    let calls := [.get (tenNet 2 24), .getNext, .giveBack (tenNet 0 24), .giveBack (tenNet 2 24),
      .get (tenNet 3 24), .getNext, .getNext, .getNext, .getNext]
    let pool : ExactIpv4SubnetPool 24 :=
      { iter := [tenNet 0 24, tenNet 1 24, tenNet 2 24, tenNet 3 24], free := ∅, taken := ∅ }
    AllSteps (lend ExactIpv4SubnetPool.serve)
      (fun s c => SmallestFirst ((tenNet 0 22).IsSubnet 24) s.2 c
        (ExactIpv4SubnetPool.serve c s.1).1)
      calls (pool, ∅) := by
  intro calls pool
  exact @exact_smallest_first 24 ipv4Subnets (tenNet 0 22) ipv4Subnets_ascending
    ipv4Subnets_complete pool rfl calls (by decide)

theorem FifoExactIpv4SubnetPool.new_tracked {pool : FifoExactIpv4SubnetPool P}
    (ascending : subnets.Ascending) (complete : subnets.Complete)
    (new : FifoExactIpv4SubnetPool.new subnets parent = .ok pool) :
    Tracked (parent.IsSubnet P) pool ∅ [] := by
  match listed : subnets parent P with
  | .ok iter =>
    simp only [FifoExactIpv4SubnetPool.new, listed] at new
    cases new
    exact ⟨.new (ascending parent P iter listed) (complete parent P iter listed), .empty⟩
  | .error _ =>
    simp only [FifoExactIpv4SubnetPool.new, listed] at new
    cases new

/-- The pool that recycles the subnet given back first loses nothing, and keeps its order as long as
it comes to no old entry of a subnet that has been queued again: the set that decides which entries
count does not tell a subnet's entries apart. -/
theorem fifo_oldest_first_iff (ascending : subnets.Ascending) (complete : subnets.Complete)
    {pool : FifoExactIpv4SubnetPool P}
    (new : FifoExactIpv4SubnetPool.new subnets parent = .ok pool) {calls : List (Call Ipv4Net)}
    (asks : AllSteps (lendLogged FifoExactIpv4SubnetPool.serve)
      (fun s c => Asks (parent.IsSubnet P) s.1.2 c) calls ((pool, ∅), [])) :
    AllSteps (lendLogged FifoExactIpv4SubnetPool.serve)
        (fun s c => OldestFirst (parent.IsSubnet P) s.1.1.iter s.1.2 s.2 c
          (FifoExactIpv4SubnetPool.serve c s.1.1).1) calls ((pool, ∅), []) ↔
      AllSteps (lendLogged FifoExactIpv4SubnetPool.serve) (fun s c => ¬ s.1.1.StaleHead c) calls
        ((pool, ∅), []) :=
  FifoExactIpv4SubnetPool.oldest_first_iff
    (FifoExactIpv4SubnetPool.new_tracked ascending complete new) asks

/-- A subnet is requested and given back, but the other free ones keep their order. -/
theorem fifo_oldest_first_requested :
    let calls := [.getNext, .getNext, .giveBack (tenNet 0 24), .giveBack (tenNet 1 24),
      .get (tenNet 1 24), .giveBack (tenNet 1 24), .getNext, .getNext, .getNext]
    let pool : FifoExactIpv4SubnetPool 24 :=
      { iter := [tenNet 0 24, tenNet 1 24], taken := ∅, freeQ := [], freeSet := ∅ }
    AllSteps (lendLogged FifoExactIpv4SubnetPool.serve)
      (fun s c => OldestFirst ((tenNet 0 23).IsSubnet 24) s.1.1.iter s.1.2 s.2 c
        (FifoExactIpv4SubnetPool.serve c s.1.1).1) calls ((pool, ∅), []) := by
  intro calls pool
  exact (@fifo_oldest_first_iff 24 ipv4Subnets (tenNet 0 23) ipv4Subnets_ascending
    ipv4Subnets_complete pool rfl calls (by decide)).mpr (by decide)

/-- 10.0.0.0/24 is requested and given back after 10.0.1.0/24, but handed out before it. -/
theorem fifo_newer_first :
    let calls := [.getNext, .getNext, .giveBack (tenNet 0 24), .get (tenNet 0 24),
      .giveBack (tenNet 1 24), .giveBack (tenNet 0 24), .getNext]
    ∃ pool : FifoExactIpv4SubnetPool 24,
      FifoExactIpv4SubnetPool.new ipv4Subnets (tenNet 0 23) = .ok pool ∧
      AllSteps (lendLogged FifoExactIpv4SubnetPool.serve)
        (fun s c => Asks ((tenNet 0 23).IsSubnet 24) s.1.2 c) calls ((pool, ∅), []) ∧
      ¬ AllSteps (lendLogged FifoExactIpv4SubnetPool.serve)
        (fun s c => OldestFirst ((tenNet 0 23).IsSubnet 24) s.1.1.iter s.1.2 s.2 c
          (FifoExactIpv4SubnetPool.serve c s.1.1).1) calls ((pool, ∅), []) := by
  intro calls
  refine ⟨_, rfl, by decide, fun oldest => ?_⟩
  have fresh := (FifoExactIpv4SubnetPool.oldest_first_iff (FifoExactIpv4SubnetPool.new_tracked
    ipv4Subnets_ascending ipv4Subnets_complete rfl) (by decide)).mp oldest
  exact absurd fresh (by decide)

end Runs

end Network
end Snaplace
