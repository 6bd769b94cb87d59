import Snaplace.Network.Availability

/-!
# Giving a plain tap back

A plain tap is handed out under its gateway and given back under its VM's address, which names a
different network to an IP pool that compares addresses and prefix lengths. So what becomes free is
not what has been handed out: `alloc` comes to the same two addresses again, but a request for the
gateway's subnet is granted only if it would have been granted before.
-/
namespace Snaplace
open Foundation

namespace Network

namespace FifoExactIpv4SubnetPool
variable {P : Nat} {pool : FifoExactIpv4SubnetPool P} {s t : Ipv4Net}

/-- Given back, the subnet goes back to the iterator, which is not past it. -/
def Ahead (pool : FifoExactIpv4SubnetPool P) (s : Ipv4Net) : Prop :=
  s ∈ pool.taken ∧ ∃ next ∈ pool.iter.head?, next ≤ s

instance (pool : FifoExactIpv4SubnetPool P) (s : Ipv4Net) : Decidable (pool.Ahead s) :=
  inferInstanceAs (Decidable (_ ∧ ∃ next ∈ pool.iter.head?, next ≤ s))

theorem giveBack_iter (pool : FifoExactIpv4SubnetPool P) (s : Ipv4Net) :
    (pool.giveBack s).iter = pool.iter := by
  obtain ⟨iter, taken, freeQ, freeSet⟩ := pool
  cases iter <;> simp only [giveBack] <;> split_ifs <;> rfl

theorem giveBack_taken : (pool.giveBack s).taken = pool.taken.erase s := by
  obtain ⟨iter, taken, freeQ, freeSet⟩ := pool
  cases iter <;> simp only [giveBack] <;> split_ifs <;> rfl

theorem mem_giveBack_freeSet :
    t ∈ (pool.giveBack s).freeSet ↔ t ∈ pool.freeSet ∨ t = s ∧ ¬ pool.Ahead s := by
  obtain ⟨iter, taken, freeQ, freeSet⟩ := pool
  cases iter <;> simp only [giveBack, Ahead] <;> split_ifs <;> simp_all <;> grind

/-- Giving a subnet back makes no other subnet requestable. -/
theorem requestable_giveBack :
    (pool.giveBack s).Requestable t ↔ s = t ∨ pool.Requestable t := by
  have iter := pool.giveBack_iter s
  simp only [Requestable, iter, giveBack_taken, mem_giveBack_freeSet, Finset.mem_erase]
  by_cases same : t = s
  · subst same
    cases ahead : pool.iter with
    | nil => simp [Ahead, ahead]
    | cons next rest =>
      simp only [Ahead, ahead]
      split_ifs with lt
      · simp
      · obtain eq | gt := (not_lt.mp lt).eq_or_lt
        · simp [eq]
        · simp [gt]
  · simp [same, Ne.symm same]

theorem allocatable_giveBack :
    (pool.giveBack s).Allocatable t ↔
      pool.Allocatable t ∨ t = s ∧ (s ∈ pool.iter ∨ ¬ pool.Ahead s) := by
  simp only [Allocatable, giveBack_iter, giveBack_taken, mem_giveBack_freeSet, Finset.mem_erase]
  by_cases same : t = s
  · subst same
    by_cases isFree : t ∈ pool.freeSet
    · simp [isFree]
    · have := fun ahead : pool.Ahead t => ahead.1
      simp only [isFree, true_and, false_or]
      grind
  · simp [same]

end FifoExactIpv4SubnetPool

/-- The subnet of a plain tap can be had again once the tap has been given back: it is named by the
VM's address too or could be requested before, and `alloc` could come to it before or comes to what
is given back. -/
def RoundTrips (pool : FifoExactIpv4SubnetPool PREFIX_LEN) (tapInfo : TapInfo) : Prop :=
  let returned : Ipv4Net := { addr := tapInfo.ipAddr, prefixLen := PREFIX_LEN }
  (returned = tapInfo.subnet ∨ pool.Requestable tapInfo.subnet) ∧
    (pool.Offers tapInfo.subnet ∨
      returned.network = tapInfo.subnet ∧ (returned ∈ pool.iter ∨ ¬ pool.Ahead returned))

/-- After every history, the subnet of a plain tap that has been given back can be both requested and
allocated exactly when the tap's VM address names it, or when it could be had before. -/
theorem plain_round_trip_iff {subnets : Subnets} (complete : subnets.Complete) {parent : Ipv4Net}
    {start q : PlainTapDevices} (new : PlainTapDevices.new subnets parent = .ok start)
    (calls : List TapCall) (destroyed : Bool) (tap : Tap)
    (done : PlainTapDevices.dealloc destroyed tap
      (PlainTapDevices.provider.after calls start) = .ok () q) :
    (PlainTapDevices.provider.CanRequest q tap.info.subnet ∧
        PlainTapDevices.provider.CanAlloc q tap.info.subnet) ↔
      RoundTrips (PlainTapDevices.provider.after calls start).ipPool tap.info := by
  obtain ⟨all, -, long, fit⟩ := PlainTapDevices.after_fit complete new calls
  generalize PlainTapDevices.provider.after calls start = p at done fit ⊢
  have spec := PlainTapDevices.dealloc_spec (p := p) destroyed tap
  unfold Handler.wp at spec
  rw [done] at spec
  have gave : q.ipPool = p.ipPool.giveBack (PlainTapDevices.returned tap) := spec
  have fit : q.ipPool.Fit all := gave ▸ fit.giveBack_fit rfl
  rw [PlainTapDevices.canRequest_iff rfl, PlainTapDevices.canAlloc_iff long fit, gave,
    FifoExactIpv4SubnetPool.requestable_giveBack]
  refine and_congr_right fun _ => ?_
  simp only [FifoExactIpv4SubnetPool.Offers, FifoExactIpv4SubnetPool.allocatable_giveBack]
  constructor
  · rintro ⟨s, before | ⟨rfl, comes⟩, same⟩
    · exact .inl ⟨s, before, same⟩
    · exact .inr ⟨same, comes⟩
  · rintro (⟨s, before, same⟩ | ⟨same, comes⟩)
    · exact ⟨s, .inl before, same⟩
    · exact ⟨_, .inr ⟨rfl, comes⟩, same⟩

/-- The tap of the second /31 of 10.0.0.0/30. -/
def secondTap : Tap :=
  .device
    { index := 4
      info :=
        { name := "uvm-0a-00-00-03", macAddr := some 5, ipAddr := 10 * 2 ^ 24 + 3, prefixLen := 31,
          gateway := 10 * 2 ^ 24 + 2 } }

/-- The second subnet has been requested, and the iterator has come to it. -/
theorem plain_round_trip_at_head :
    let start : PlainTapDevices :=
      { ipPool :=
          { iter := [tenNet 0 31, secondTap.info.subnet], taken := ∅, freeQ := [], freeSet := ∅ } }
    let p := PlainTapDevices.provider.after
      [.request secondTap.info (.created 4 5), .alloc] start
    PlainTapDevices.new ipv4Subnets (tenNet 0 30) = .ok start ∧
      ∃ q, PlainTapDevices.dealloc true secondTap p = .ok () q ∧
        PlainTapDevices.provider.CanRequest q secondTap.info.subnet ∧
        PlainTapDevices.provider.CanAlloc q secondTap.info.subnet := by
  intro start p
  have new : PlainTapDevices.new ipv4Subnets (tenNet 0 30) = .ok start := rfl
  refine ⟨new, _, rfl, (plain_round_trip_iff ipv4Subnets_complete new
    [.request secondTap.info (.created 4 5), .alloc] true secondTap rfl).mpr ⟨?_, ?_⟩⟩
  · exact .inr (by decide)
  · exact .inr ⟨rfl, .inr (by decide)⟩

/-- The first tap that is ever allocated, once it has been given back. -/
theorem plain_tap_unrequestable :
    ∃ start tap p q, PlainTapDevices.new ipv4Subnets (tenNet 0 30) = .ok start ∧
      PlainTapDevices.alloc start = .ok tap p ∧ PlainTapDevices.dealloc true tap p = .ok () q ∧
      ¬ (PlainTapDevices.provider.CanRequest q tap.info.subnet ∧
        PlainTapDevices.provider.CanAlloc q tap.info.subnet) :=
  ⟨_, _, _, _, rfl, rfl, rfl, fun can =>
    absurd ((PlainTapDevices.canRequest_iff rfl).mp can.1) (by decide)⟩

end Network
end Snaplace
