import Snaplace.Network.TapPool

/-!
# Requests that fail

A request takes its subnet from the IP pool before the device is built, and keeps it when that
fails. The subnets that can be had are then the same only if the IP pool refused the request, or
does not miss what has been taken from it. A request may name any network, not only the subnets of
the parent: the IP pool grants whatever is ahead of its iterator.
-/
namespace Snaplace
open Foundation

namespace Network

/-- A request's gateway can be the address of this subnet. -/
def Ipv4Net.Nameable (s : Ipv4Net) : Prop := s.prefixLen = PREFIX_LEN ∧ s.addr < 2 ^ 32

instance : DecidablePred Ipv4Net.Nameable := fun _ => inferInstanceAs (Decidable (_ ∧ _))

namespace FifoExactIpv4SubnetPool
variable {pool : FifoExactIpv4SubnetPool PREFIX_LEN} {s t N : Ipv4Net}

/-- The subnet's addresses are free, under any of its names. -/
def FreeAs (pool : FifoExactIpv4SubnetPool PREFIX_LEN) (N : Ipv4Net) : Prop :=
  ∃ s ∈ pool.freeSet, s.network = N

/-- What a request for `s` takes is not missed: `s` is free under another name, and where the iterator
moves on from it, it neither comes to a subnet that was taken nor changes what it passes. -/
def Spared (pool : FifoExactIpv4SubnetPool PREFIX_LEN) (s : Ipv4Net) : Prop :=
  let freeOtherwise := ∃ t ∈ pool.freeSet, t ≠ s ∧ t.network = s
  match pool.iter with
  | next :: rest =>
    if next < s then pool.FreeAs s
    else if s = next then
      pool.FreeAs s ∧
        (∀ later ∈ rest.head?, later.Nameable → later ∈ pool.taken → pool.FreeAs later) ∧
        ∀ N, N.Nameable → s < N → (∀ later ∈ rest.head?, N < later) →
          pool.FreeAs N ∨ (N ∈ pool.taken ↔ N ∉ pool.freeSet)
    else freeOtherwise
  | [] => freeOtherwise

section Taken
variable {all : List Ipv4Net} {parent : Ipv4Net}

/-- A subnet can be had if it can be requested or is free. -/
theorem offers_or_requestable (h : pool.Fit all) (ascending : all.Pairwise (· < ·))
    (complete : ∀ s, s ∈ all ↔ parent.IsSubnet PREFIX_LEN s) :
    pool.Offers N ∨ pool.Requestable N ↔ pool.FreeAs N ∨ pool.Requestable N := by
  constructor
  · rintro (⟨s, isFree | ⟨ahead, untaken⟩, rfl⟩ | granted)
    · exact .inl ⟨s, isFree, rfl⟩
    · right
      rw [((complete s).mp (h.ahead.subset ahead)).network_eq]
      have sorted := ascending.sublist h.ahead.sublist
      unfold Requestable
      cases iter : pool.iter with
      | nil => simp [iter] at ahead
      | cons next rest =>
        rw [iter] at ahead sorted
        obtain rfl | later := List.mem_cons.mp ahead
        · simp
        · simp [List.rel_of_pairwise_cons sorted later, untaken]
    · exact .inr granted
  · rintro (⟨s, isFree, same⟩ | granted)
    · exact .inl ⟨s, .inl isFree, same⟩
    · exact .inr granted

/-- The same subnets can be had of two pools, whatever a request names. -/
def SameHad (pool q : FifoExactIpv4SubnetPool PREFIX_LEN) : Prop :=
  ∀ N, N.Nameable → (q.FreeAs N ∨ q.Requestable N ↔ pool.FreeAs N ∨ pool.Requestable N)

/-- Ahead of the iterator only the subnet itself is lost. -/
theorem keeps_takenAhead {next : Ipv4Net} {rest : List Ipv4Net} (iter : pool.iter = next :: rest)
    (named : s.Nameable) (lt : next < s) (untaken : s ∉ pool.taken) :
    SameHad pool { pool with taken := insert s pool.taken } ↔ pool.FreeAs s := by
  constructor
  · intro keeps
    have after := (keeps s named).mpr (.inr (by simp [Requestable, iter, lt, untaken]))
    simpa [Requestable, iter, lt, FreeAs] using after
  · intro spared N _
    by_cases same : N = s
    · subst same
      exact ⟨fun _ => .inl spared, fun _ => .inl spared⟩
    · have requestable : Requestable (P := PREFIX_LEN)
          { pool with taken := insert s pool.taken } N ↔ pool.Requestable N := by
        simp [Requestable, iter, same]
      rw [requestable]
      rfl

/-- Where the iterator has passed, only what is free is granted. -/
theorem requestable_passed (passed : ∀ later ∈ pool.iter.head?, N < later) :
    pool.Requestable N ↔ N ∈ pool.freeSet := by
  unfold Requestable
  cases iter : pool.iter with
  | nil => rfl
  | cons next rest =>
    have lt : N < next := passed next (by simp [iter])
    simp [lt.not_gt, lt.ne]

/-- Behind the iterator the subnet is missed unless it is free under another name. -/
theorem keeps_takenFree (named : s.Nameable) (isFree : s ∈ pool.freeSet)
    (behind : ∀ next ∈ pool.iter.head?, s < next) :
    SameHad pool { pool with freeSet := pool.freeSet.erase s } ↔
      ∃ t ∈ pool.freeSet, t ≠ s ∧ t.network = s := by
  have freeAs (N : Ipv4Net) : FreeAs { pool with freeSet := pool.freeSet.erase s } N ↔
      ∃ t ∈ pool.freeSet, t ≠ s ∧ t.network = N := by
    simp only [FreeAs, Finset.mem_erase]
    exact ⟨fun ⟨t, ⟨ne, mem⟩, same⟩ => ⟨t, mem, ne, same⟩,
      fun ⟨t, mem, ne, same⟩ => ⟨t, ⟨ne, mem⟩, same⟩⟩
  have refused : ¬ Requestable (P := PREFIX_LEN)
      { pool with freeSet := pool.freeSet.erase s } s := by
    intro granted
    have mem : s ∈ pool.freeSet.erase s := (requestable_passed (by exact behind)).mp granted
    simp at mem
  constructor
  · intro keeps
    have granted : pool.Requestable s := (requestable_passed behind).mpr isFree
    exact (freeAs s).mp (((keeps s named).mpr (.inr granted)).resolve_right refused)
  · rintro spared N -
    obtain ⟨t, mem, ne, same⟩ := spared
    rw [freeAs]
    by_cases eq : N = s
    · subst eq
      exact ⟨fun _ => .inl ⟨t, mem, same⟩, fun _ => .inl ⟨t, mem, ne, same⟩⟩
    · have requestable : Requestable (P := PREFIX_LEN)
          { pool with freeSet := pool.freeSet.erase s } N ↔ pool.Requestable N := by
        simp [Requestable, eq]
      rw [requestable]
      refine or_congr_left ⟨fun ⟨u, mem, _, freed⟩ => ⟨u, mem, freed⟩, fun ⟨u, mem, freed⟩ => ?_⟩
      refine ⟨u, mem, ?_, freed⟩
      -- `s` is aligned, so it is free as itself only.
      rintro rfl
      have aligned : u.network = u := by
        rw [← same]
        exact t.network_network
      exact eq (freed.symm.trans aligned)

/-- At the iterator the subnet is missed, what the iterator passes is not granted any more, and what it
comes to is. -/
theorem keeps_takenHead {rest : List Ipv4Net} (h : pool.Fit all) (ascending : all.Pairwise (· < ·))
    (complete : ∀ s, s ∈ all ↔ parent.IsSubnet PREFIX_LEN s) (named : s.Nameable)
    (iter : pool.iter = s :: rest) :
    SameHad pool { pool with iter := rest } ↔
      pool.FreeAs s ∧
        (∀ later ∈ rest.head?, later.Nameable → later ∈ pool.taken → pool.FreeAs later) ∧
        ∀ N, N.Nameable → s < N → (∀ later ∈ rest.head?, N < later) →
          pool.FreeAs N ∨ (N ∈ pool.taken ↔ N ∉ pool.freeSet) := by
  have suffix : s :: rest <:+ all := iter ▸ h.ahead
  have sorted : (s :: rest).Pairwise (· < ·) := ascending.sublist suffix.sublist
  have aligned : s.network = s := ((complete s).mp (suffix.subset (by simp))).network_eq
  have next {later : Ipv4Net} (head : later ∈ rest.head?) : s < later :=
    List.rel_of_pairwise_cons sorted (List.mem_of_mem_head? head)
  have after (N : Ipv4Net) (passed : ∀ later ∈ rest.head?, N < later) :
      Requestable (P := PREFIX_LEN) { pool with iter := rest } N ↔ N ∈ pool.freeSet :=
    requestable_passed passed
  have ahead (N : Ipv4Net) (lt : s < N) : pool.Requestable N ↔ N ∉ pool.taken := by
    simp [Requestable, iter, lt]
  have freeAs (N : Ipv4Net) : FreeAs { pool with iter := rest } N ↔ pool.FreeAs N := Iff.rfl
  constructor
  · intro keeps
    refine ⟨?_, fun later head named isTaken => ?_, fun N named lt passed => ?_⟩
    · have still := (keeps s named).mpr (.inr (by simp [Requestable, iter]))
      rw [after s fun later head => next head] at still
      exact still.elim id fun isFree => ⟨s, isFree, aligned⟩
    · have granted : Requestable (P := PREFIX_LEN) { pool with iter := rest } later := by
        obtain ⟨rest, rfl⟩ := List.head?_eq_some_iff.mp head
        simp [Requestable]
      have before := (keeps later named).mp (.inr granted)
      rw [ahead later (next head)] at before
      exact before.resolve_right (not_not.mpr isTaken)
    · have same := keeps N named
      rw [after N passed, ahead N lt, freeAs] at same
      tauto
  · rintro ⟨kept, comes, passes⟩ N named
    rw [freeAs]
    obtain lt | rfl | gt := lt_trichotomy N s
    · rw [after N fun later head => lt.trans (next head)]
      simp [Requestable, iter, lt.not_gt, lt.ne]
    · exact ⟨fun _ => .inl kept, fun _ => .inl kept⟩
    · rw [ahead N gt]
      by_cases passed : ∀ later ∈ rest.head?, N < later
      · have same := passes N named gt passed
        rw [after N passed]
        tauto
      · push Not at passed
        obtain ⟨later, head, le⟩ := passed
        obtain ⟨rest, rfl⟩ := List.head?_eq_some_iff.mp head
        obtain rfl | lt := le.eq_or_lt
        · have granted : Requestable (P := PREFIX_LEN) { pool with iter := later :: rest } later := by
            simp [Requestable]
          have before := comes later head named
          tauto
        · simp [Requestable, lt]

theorem keeps_iff (h : pool.Fit all) (ascending : all.Pairwise (· < ·))
    (complete : ∀ s, s ∈ all ↔ parent.IsSubnet PREFIX_LEN s) (named : s.Nameable) :
    SameHad pool (pool.get s).2 ↔ ¬ pool.Requestable s ∨ pool.Spared s := by
  obtain ⟨iter, taken, freeQ, freeSet⟩ := pool
  cases iter with
  | nil =>
    simp only [get, Spared, Requestable]
    split
    · rename_i isFree
      refine (keeps_takenFree named isFree (by simp)).trans ?_
      simp [isFree]
    · rename_i refused
      simp [refused, SameHad]
  | cons next rest =>
    simp only [get, Spared, Requestable]
    split_ifs with lt isTaken head isFree
    · simp [isTaken, SameHad]
    · refine (keeps_takenAhead rfl named lt isTaken).trans ?_
      simp [isTaken]
    · subst head
      refine (keeps_takenHead h ascending complete named rfl).trans ?_
      simp
    · have behind : s < next := lt_of_le_of_ne (not_lt.mp lt) head
      refine (keeps_takenFree named isFree (by simpa using behind)).trans ?_
      simp [isFree]
    · simp [head, isFree, SameHad]

/-- A pool that nothing has been given back to misses all that it grants. -/
theorem lost (unreturned : pool.freeSet = ∅) (ascending : pool.iter.Pairwise (· < ·))
    (granted : pool.Requestable s) :
    ¬ (pool.get s).2.FreeAs s ∧ ¬ (pool.get s).2.Requestable s := by
  have unfree (q : FifoExactIpv4SubnetPool PREFIX_LEN) (empty : q.freeSet = ∅) : ¬ q.FreeAs s := by
    simp [FreeAs, empty]
  obtain ⟨iter, taken, freeQ, freeSet⟩ := pool
  obtain rfl : freeSet = ∅ := unreturned
  cases iter with
  | nil => simp [Requestable] at granted
  | cons next rest =>
    simp only [Requestable, Finset.notMem_empty, or_false] at granted
    by_cases lt : next < s
    · rw [if_pos lt] at granted
      simp only [get, lt, granted, if_true, if_false]
      exact ⟨unfree _ rfl, by simp [Requestable, lt]⟩
    · rw [if_neg lt] at granted
      subst granted
      simp only [get, lt_irrefl, if_true, if_false]
      refine ⟨unfree _ rfl, ?_⟩
      rw [requestable_passed fun later head =>
        List.rel_of_pairwise_cons ascending (List.mem_of_mem_head? head)]
      simp

end Taken

end FifoExactIpv4SubnetPool

namespace PlainTapDevices
variable {all : List Ipv4Net} {parent S : Ipv4Net} {p q : PlainTapDevices} {tapInfo : TapInfo}
  {link : Link} {err : NetworkError}

theorem obtainable_iff (long : ∀ s ∈ all, s.prefixLen = PREFIX_LEN) (h : p.ipPool.Fit all)
    (ascending : all.Pairwise (· < ·))
    (complete : ∀ s, s ∈ all ↔ parent.IsSubnet PREFIX_LEN s) (length : S.prefixLen = PREFIX_LEN) :
    provider.Obtainable p S ↔ p.ipPool.FreeAs S ∨ p.ipPool.Requestable S := by
  rw [SandboxNetworkingProvider.Obtainable, canAlloc_iff long h, canRequest_iff length,
    FifoExactIpv4SubnetPool.offers_or_requestable h ascending complete]

theorem failed_request (h : p.ipPool.Fit all) (ascending : all.Pairwise (· < ·))
    (complete : ∀ s, s ∈ all ↔ parent.IsSubnet PREFIX_LEN s) (named : tapInfo.subnet.Nameable)
    (failed : request tapInfo link p = .err err q) :
    (∀ S, S.Nameable → (provider.Obtainable q S ↔ provider.Obtainable p S)) ↔
      ¬ p.ipPool.Requestable tapInfo.subnet ∨ p.ipPool.Spared tapInfo.subnet := by
  have long : ∀ s ∈ all, s.prefixLen = PREFIX_LEN := fun s mem => ((complete s).mp mem).length
  have spec := request_spec (p := p) tapInfo link
  unfold Handler.wp at spec
  rw [failed] at spec
  have taken : q.ipPool = (p.ipPool.get tapInfo.subnet).2 := spec.2
  rw [← FifoExactIpv4SubnetPool.keeps_iff h ascending complete named]
  refine forall₂_congr fun S named => ?_
  rw [obtainable_iff long h ascending complete named.1,
    obtainable_iff long (taken ▸ h.get_fit) ascending complete named.1, taken]

end PlainTapDevices

namespace PoolTapDevices
variable {all : List Ipv4Net} {parent S : Ipv4Net} {p q : PoolTapDevices} {tapInfo : TapInfo}
  {link : Link} {err : NetworkError}

theorem obtainable_iff (long : ∀ s ∈ all, s.prefixLen = PREFIX_LEN) (h : p.Stocked all)
    (ascending : all.Pairwise (· < ·))
    (complete : ∀ s, s ∈ all ↔ parent.IsSubnet PREFIX_LEN s) (length : S.prefixLen = PREFIX_LEN) :
    provider.Obtainable p S ↔
      S ∈ p.free.map Prod.fst ∨ p.ipPool.FreeAs S ∨ p.ipPool.Requestable S := by
  have named : (∃ t ∈ p.free, t.2.info.subnet = S) ↔ S ∈ p.free.map Prod.fst := by
    simp only [List.mem_map]
    refine exists_congr fun t => and_congr_right fun mem => ?_
    obtain ⟨device, made, named⟩ := h.keyed t mem
    rw [made, Tap.info_device, named]
  rw [SandboxNetworkingProvider.Obtainable, canAlloc_iff long h.fit, canRequest_iff length, Offers,
    named, ← FifoExactIpv4SubnetPool.offers_or_requestable h.fit ascending complete]
  tauto

theorem failed_request (h : p.Stocked all) (ascending : all.Pairwise (· < ·))
    (complete : ∀ s, s ∈ all ↔ parent.IsSubnet PREFIX_LEN s) (named : tapInfo.subnet.Nameable)
    (failed : request tapInfo link p = .err err q) :
    (∀ S, S.Nameable → (provider.Obtainable q S ↔ provider.Obtainable p S)) ↔
      ¬ p.ipPool.Requestable tapInfo.subnet := by
  have long : ∀ s ∈ all, s.prefixLen = PREFIX_LEN := fun s mem => ((complete s).mp mem).length
  have stocked := (takesBack long).call_inv (.request tapInfo link) p h
  simp only [SandboxNetworkingProvider.call, provider, failed, Outcome.state_err] at stocked
  have spec := request_spec (p := p) tapInfo link
  unfold Handler.wp at spec
  rw [failed] at spec
  obtain ⟨absent, -, rfl⟩ := spec
  constructor
  · intro same granted
    have before := (obtainable_iff long h ascending complete named.1).mpr (.inr (.inr granted))
    have after := (same _ named).mpr before
    rw [obtainable_iff long stocked ascending complete named.1] at after
    have sorted := ascending.sublist h.fit.ahead.sublist
    obtain ⟨unfree, refused⟩ := FifoExactIpv4SubnetPool.lost h.unreturned sorted granted
    exact after.elim absent fun had => had.elim unfree refused
  · intro refused S named
    have unchanged : (p.ipPool.get tapInfo.subnet).2 = p.ipPool :=
      FifoExactIpv4SubnetPool.get_refused refused
    rw [unchanged]

end PoolTapDevices

/-- For either provider, in every state it can be in, a failed request leaves the subnets that can be
had as they are exactly when the IP pool refused it, or does not miss what was taken from it. A tap
pool misses all that was taken. -/
theorem failed_request_iff {subnets : Subnets} (complete : subnets.Complete)
    (ascending : subnets.Ascending) {parent : Ipv4Net} :
    (∀ start, PlainTapDevices.new subnets parent = .ok start →
      ∀ (calls : List TapCall) (tapInfo : TapInfo) (link : Link) (err : NetworkError)
        (q : PlainTapDevices),
        let provider := PlainTapDevices.provider
        let p := provider.after calls start
        tapInfo.subnet.Nameable → provider.request tapInfo link p = .err err q →
        ((∀ S, S.Nameable → (provider.Obtainable q S ↔ provider.Obtainable p S)) ↔
          ¬ p.ipPool.Requestable tapInfo.subnet ∨ p.ipPool.Spared tapInfo.subnet)) ∧
    (∀ capacity linkOf finished start,
      PoolTapDevices.new subnets { subnet := parent, capacity } linkOf finished = .ok start () →
      ∀ (calls : List TapCall) (tapInfo : TapInfo) (link : Link) (err : NetworkError)
        (q : PoolTapDevices),
        let provider := PoolTapDevices.provider
        let p := provider.after calls start
        tapInfo.subnet.Nameable → provider.request tapInfo link p = .err err q →
        ((∀ S, S.Nameable → (provider.Obtainable q S ↔ provider.Obtainable p S)) ↔
          ¬ p.ipPool.Requestable tapInfo.subnet)) := by
  constructor
  · intro start new calls tapInfo link err q provider p named failed
    obtain ⟨all, listed, long, fit⟩ := PlainTapDevices.after_fit complete new calls
    exact PlainTapDevices.failed_request fit (ascending _ _ _ listed) (complete _ _ _ listed) named
      failed
  · intro capacity linkOf finished start new calls tapInfo link err q provider p named failed
    obtain ⟨all, listed, sound⟩ := TapUse.Sound.start complete ascending new
    have long : ∀ s ∈ all, s.prefixLen = PREFIX_LEN :=
      fun s mem => ((complete _ _ _ listed s).mp mem).length
    have stocked : p.Stocked all :=
      provider.after_invariant (PoolTapDevices.takesBack long).call_inv calls sound.stocked
    exact PoolTapDevices.failed_request stocked (ascending _ _ _ listed) (complete _ _ _ listed)
      named failed

/-- The tap of the first /31 of 10.0.0.0/30. -/
def firstTap : TapInfo := (tenNet 0 31).tapInfo

/-- What an IP pool of 10.0.0.0/30 has to come to. -/
def thirtyNets : List Ipv4Net := [tenNet 0 31, { addr := 10 * 2 ^ 24 + 2, prefixLen := 31 }]

/-- The first subnet is requested while it is allocated. -/
theorem failed_request_spared :
    let plain : PlainTapDevices :=
      { ipPool := { iter := thirtyNets, taken := ∅, freeQ := [], freeSet := ∅ } }
    let pool : PoolTapDevices := { ipPool := plain.ipPool, free := [] }
    let refusal : NetworkError := .subnetPool (.subnetNotFree (tenNet 0 31))
    (∃ q, PlainTapDevices.new ipv4Subnets (tenNet 0 30) = .ok plain ∧
      let p := PlainTapDevices.provider.after [.alloc] plain
      PlainTapDevices.provider.request firstTap (.created 4 5) p = .err refusal q ∧
        ∀ S, S.Nameable →
          (PlainTapDevices.provider.Obtainable q S ↔ PlainTapDevices.provider.Obtainable p S)) ∧
    ∃ q, PoolTapDevices.new ipv4Subnets { subnet := tenNet 0 30, capacity := 0 }
          (fun _ => .failed) (fun _ => 0) = .ok pool () ∧
      let p := PoolTapDevices.provider.after [.alloc] pool
      PoolTapDevices.provider.request firstTap (.created 4 5) p = .err refusal q ∧
        ∀ S, S.Nameable →
          (PoolTapDevices.provider.Obtainable q S ↔ PoolTapDevices.provider.Obtainable p S) := by
  intro plain pool refusal
  obtain ⟨plainly, pooled⟩ :=
    @failed_request_iff ipv4Subnets ipv4Subnets_complete ipv4Subnets_ascending (tenNet 0 30)
  have newPlain : PlainTapDevices.new ipv4Subnets (tenNet 0 30) = .ok plain := rfl
  have newPool : PoolTapDevices.new ipv4Subnets { subnet := tenNet 0 30, capacity := 0 }
      (fun _ => .failed) (fun _ => 0) = .ok pool () := by
    decide +kernel
  refine ⟨⟨_, newPlain, rfl, ?_⟩, _, newPool, rfl, ?_⟩
  · exact (plainly plain newPlain [.alloc] firstTap (.created 4 5) _ _ (by decide) rfl).mpr
      (.inl (by decide +kernel))
  · exact (pooled 0 _ _ pool newPool [.alloc] firstTap (.created 4 5) _ _ (by decide) rfl).mpr
      (by decide +kernel)

/-- The first subnet of a fresh provider, when its device cannot be built. -/
theorem subnet_lost_on_failed_build :
    (∃ start q, PlainTapDevices.new ipv4Subnets (tenNet 0 30) = .ok start ∧
      PlainTapDevices.request firstTap .failed start = .err (.tapBuild (10 * 2 ^ 24 + 1) 31) q ∧
        PlainTapDevices.provider.Obtainable start firstTap.subnet ∧
        ¬ PlainTapDevices.provider.Obtainable q firstTap.subnet) ∧
    ∃ start q, PoolTapDevices.new ipv4Subnets { subnet := tenNet 0 30, capacity := 0 }
          (fun _ => .failed) (fun _ => 0) = .ok start () ∧
      PoolTapDevices.request firstTap .failed start = .err (.tapBuild (10 * 2 ^ 24 + 1) 31) q ∧
        PoolTapDevices.provider.Obtainable start firstTap.subnet ∧
        ¬ PoolTapDevices.provider.Obtainable q firstTap.subnet := by
  let before : FifoExactIpv4SubnetPool PREFIX_LEN :=
    { iter := thirtyNets, taken := ∅, freeQ := [], freeSet := ∅ }
  let after : FifoExactIpv4SubnetPool PREFIX_LEN := { before with iter := thirtyNets.tail }
  have complete : ∀ S, S ∈ thirtyNets ↔ (tenNet 0 30).IsSubnet PREFIX_LEN S :=
    ipv4Subnets_complete (tenNet 0 30) PREFIX_LEN _ rfl
  have ascending : thirtyNets.Pairwise (· < ·) :=
    ipv4Subnets_ascending (tenNet 0 30) PREFIX_LEN _ rfl
  have long : ∀ S ∈ thirtyNets, S.prefixLen = PREFIX_LEN := fun S mem => ((complete S).mp mem).length
  have fit : before.Fit thirtyNets := ⟨List.suffix_rfl, by simp [before], by simp [before]⟩
  have fitAfter : after.Fit thirtyNets :=
    ⟨List.suffix_cons _ _, by simp [after, before], by simp [after, before]⟩
  have granted : before.Requestable firstTap.subnet := by decide
  have refused : ¬ after.Requestable firstTap.subnet := by decide
  have unfree (N : Ipv4Net) : ¬ after.FreeAs N := by
    simp [FifoExactIpv4SubnetPool.FreeAs, after, before]
  refine ⟨⟨{ ipPool := before }, { ipPool := after }, rfl, rfl, ?_, ?_⟩,
    { ipPool := before, free := [] }, { ipPool := after, free := [] }, by decide +kernel, rfl, ?_,
    ?_⟩
  · rw [PlainTapDevices.obtainable_iff long fit ascending complete rfl]
    exact .inr granted
  · rw [PlainTapDevices.obtainable_iff long fitAfter ascending complete rfl]
    exact not_or.mpr ⟨unfree _, refused⟩
  · rw [PoolTapDevices.obtainable_iff long ⟨fit, rfl, by simp⟩ ascending complete rfl]
    exact .inr (.inr granted)
  · rw [PoolTapDevices.obtainable_iff long ⟨fitAfter, rfl, by simp⟩ ascending complete rfl]
    exact not_or.mpr ⟨by simp, not_or.mpr ⟨unfree _, refused⟩⟩

end Network
end Snaplace
