import Snaplace.Network.Containment
import Snaplace.Network.Taps

/-!
# What can be had of a provider

A subnet can be had if a request that names it succeeds, or if calls of `alloc` come to it. Both
are read off the provider's state: a request depends on where the iterator is, `alloc` comes to
all that is free and to what is ahead of the iterator and not taken.
-/
namespace Snaplace
open Foundation

namespace Network
open Handler (expect focus)

/-- The network address in place of the host bits. -/
def Ipv4Net.network (net : Ipv4Net) : Ipv4Net :=
  { net with addr := net.addr - net.addr % 2 ^ (32 - net.prefixLen) }

theorem Ipv4Net.network_addr {net : Ipv4Net} (length : net.prefixLen = PREFIX_LEN) :
    net.network.addr = net.addr - net.addr % 2 := by
  simp [network, length, PREFIX_LEN]

theorem Ipv4Net.network_network (net : Ipv4Net) : net.network.network = net.network := by
  have aligned : (net.addr - net.addr % 2 ^ (32 - net.prefixLen)) % 2 ^ (32 - net.prefixLen) = 0 :=
    Nat.sub_mod_eq_zero_of_mod_eq (Nat.mod_mod _ _).symm
  simp [network, aligned]

theorem Ipv4Net.IsSubnet.network_eq {parent s : Ipv4Net} (h : parent.IsSubnet PREFIX_LEN s) :
    s.network = s := by
  obtain ⟨addr, prefixLen⟩ := s
  obtain ⟨rfl, aligned, -⟩ := h
  simp only [network, Nat.mod_eq_zero_of_dvd aligned, Nat.sub_zero]

namespace SandboxNetworkingProvider
variable {σ : Type} (provider : SandboxNetworkingProvider σ)

/-- The taps that the next calls of `alloc` return. -/
def allocs : Nat → σ → List Tap
  | 0, _ => []
  | n + 1, s =>
    match provider.alloc s with
    | .ok tap t => tap :: allocs n t
    | .err _ t => allocs n t
    | .panic _ _ => []

def CanAlloc (s : σ) (subnet : Ipv4Net) : Prop :=
  ∃ n, ∃ tap ∈ provider.allocs n s, tap.info.subnet = subnet

/-- A request for the subnet succeeds, given that the device can be built. -/
def CanRequest (s : σ) (subnet : Ipv4Net) : Prop :=
  ∀ tapInfo link device, tapInfo.subnet = subnet →
    TapBuilder.buildOrAdopt { info := tapInfo } link = .ok device →
    ∃ tap t, provider.request tapInfo link s = .ok tap t

/-- The subnet can be had by `alloc` or by a request. -/
def Obtainable (s : σ) (subnet : Ipv4Net) : Prop :=
  provider.CanAlloc s subnet ∨ provider.CanRequest s subnet

/-- When `alloc` returns what is available until nothing is, it comes to all of that. -/
theorem canAlloc_iff {I : σ → Prop} (available : σ → Ipv4Net → Prop) (size : σ → Nat)
    (step : ∀ s, I s → Handler.wp provider.alloc
      { ok := fun tap t => I t ∧ size t < size s ∧
          ∀ subnet, available s subnet ↔ tap.info.subnet = subnet ∨ available t subnet,
        err := fun _ t => I t ∧ ∀ subnet, ¬ available s subnet ∧ ¬ available t subnet } s)
    {s : σ} (inv : I s) (subnet : Ipv4Net) :
    provider.CanAlloc s subnet ↔ available s subnet := by
  constructor
  · rintro ⟨n, tap, mem, rfl⟩
    induction n generalizing s with
    | zero => simp [allocs] at mem
    | succ n ih =>
      have one := step s inv
      unfold Handler.wp at one
      unfold allocs at mem
      cases ran : provider.alloc s with
      | ok first t =>
        rw [ran] at one mem
        obtain ⟨next, -, same⟩ := one
        obtain rfl | later := List.mem_cons.mp mem
        · exact (same _).mpr (.inl rfl)
        · exact (same _).mpr (.inr (ih next later))
      | err e t =>
        rw [ran] at one mem
        exact absurd (ih one.1 mem) (one.2 _).2
      | panic msg t =>
        rw [ran] at one
        exact one.elim
  · intro isAvailable
    induction left : size s using Nat.strong_induction_on generalizing s with
    | _ left' ih =>
      have one := step s inv
      unfold Handler.wp at one
      cases ran : provider.alloc s with
      | ok first t =>
        rw [ran] at one
        obtain ⟨next, smaller, same⟩ := one
        obtain head | later := (same subnet).mp isAvailable
        · exact ⟨1, first, by simp [allocs, ran], head⟩
        · obtain ⟨n, tap, mem, named⟩ := ih _ (left ▸ smaller) next later rfl
          exact ⟨n + 1, tap, by simp [allocs, ran, mem], named⟩
      | err e t =>
        rw [ran] at one
        exact absurd isAvailable (one.2 subnet).1
      | panic msg t =>
        rw [ran] at one
        exact one.elim

end SandboxNetworkingProvider

/-- A call of a provider by its network manager. -/
inductive TapCall where
  | alloc
  | request (tapInfo : TapInfo) (link : Link)
  | dealloc (destroyed : Bool) (tap : Tap)
  deriving DecidableEq, Repr

/-- What a provider's user relies on: every call keeps `inv`, what is `accepts` is given back without a
panic, and `alloc` returns something else only in a `lazy` state. -/
structure TakesBack {σ : Type} (provider : SandboxNetworkingProvider σ) (inv lazy : σ → Prop)
    (accepts : Tap → Prop) : Prop where
  alloc : ∀ s, inv s → Handler.wp provider.alloc
    { ok := fun tap t => inv t ∧ (accepts tap ↔ ¬ lazy s), err := fun _ t => inv t ∧ ¬ lazy s } s
  request : ∀ tapInfo link s, inv s → Handler.wp (provider.request tapInfo link)
    { ok := fun tap t => inv t ∧ accepts tap, err := fun _ t => inv t } s
  dealloc : ∀ destroyed tap s, inv s → Handler.wp (provider.dealloc destroyed tap)
    { ok := fun _ t => inv t ∧ accepts tap, err := fun _ t => inv t ∧ accepts tap,
      panic := fun _ t => inv t ∧ ¬ accepts tap } s
  shutdown : ∀ destroyed s, inv s → Handler.wp (provider.shutdown destroyed)
    (Handler.Post.state inv) s

namespace SandboxNetworkingProvider
variable {σ : Type} (provider : SandboxNetworkingProvider σ)

def call : TapCall → σ → σ
  | .alloc, s => (provider.alloc s).state
  | .request tapInfo link, s => (provider.request tapInfo link s).state
  | .dealloc destroyed tap, s => (provider.dealloc destroyed tap s).state

/-- The state after a history of calls. -/
def after (calls : List TapCall) (s : σ) : σ := calls.foldl (fun s c => provider.call c s) s

/-- What every call keeps holds after every history. -/
theorem after_invariant {I : σ → Prop} (keep : ∀ c s, I s → I (provider.call c s))
    (calls : List TapCall) {s : σ} (init : I s) : I (provider.after calls s) := by
  unfold after
  induction calls generalizing s with
  | nil => exact init
  | cons c calls ih => exact ih (keep c s init)

end SandboxNetworkingProvider

section Calls
variable {σ : Type} {provider : SandboxNetworkingProvider σ} {inv lazy : σ → Prop}
  {accepts : Tap → Prop}

theorem TakesBack.call_inv (h : TakesBack provider inv lazy accepts) (c : TapCall) (s : σ)
    (keeps : inv s) : inv (provider.call c s) := by
  have kept {α : Type} {m : Handler σ NetworkError α} (spec : Handler.wp m
      { ok := fun _ => inv, err := fun _ => inv, panic := fun _ => inv } s) : inv (m s).state := by
    unfold Handler.wp at spec
    cases ran : m s <;> rw [ran] at spec <;> exact spec
  cases c with
  | alloc =>
    apply kept
    exact Handler.wp_mono (h.alloc s keeps) (fun _ _ spec => spec.1) (fun _ _ spec => spec.1)
      fun _ _ => False.elim
  | request tapInfo link =>
    apply kept
    exact Handler.wp_mono (h.request tapInfo link s keeps) (fun _ _ spec => spec.1) (fun _ _ => id)
      fun _ _ => False.elim
  | dealloc destroyed tap =>
    apply kept
    exact Handler.wp_mono (h.dealloc destroyed tap s keeps) (fun _ _ spec => spec.1)
      (fun _ _ spec => spec.1) fun _ _ spec => spec.1

end Calls

/-- What is popped was queued and free, and what was so is popped or queued still. -/
theorem popFree_some {freeSet : Finset Ipv4Net} {queue rest : List Ipv4Net} {s : Ipv4Net}
    (h : popFree freeSet queue = (some s, rest)) :
    rest.length < queue.length ∧ s ∈ queue ∧ (∀ t ∈ rest, t ∈ queue) ∧
      ∀ t ∈ queue, t ∈ freeSet → t = s ∨ t ∈ rest := by
  obtain ⟨stale, rfl, -, old⟩ := popFree_split h
  refine ⟨?_, by simp, fun t mem => by simp [mem], ?_⟩
  · simp
    omega
  · intro t mem isFree
    rcases List.mem_append.mp mem with early | late
    · exact absurd isFree (old t early)
    · exact List.mem_cons.mp late

theorem nextUntaken_some {taken : Finset Ipv4Net} {iter rest : List Ipv4Net} {s : Ipv4Net}
    (h : nextUntaken taken iter = (some s, rest)) :
    s ∉ taken ∧ s :: rest <:+ iter ∧ ∀ t ∈ iter, t ∉ taken → t = s ∨ t ∈ rest := by
  obtain ⟨skipped, rfl, untaken, all⟩ := nextUntaken_split h
  refine ⟨untaken, List.suffix_append .., ?_⟩
  intro t mem notTaken
  rcases List.mem_append.mp mem with early | late
  · exact absurd (all t early) notTaken
  · exact List.mem_cons.mp late

namespace FifoExactIpv4SubnetPool
variable {P : Nat} {pool q : FifoExactIpv4SubnetPool P} {s t : Ipv4Net}

/-- The iterator has `all` to come to in the end, and what is free is queued. -/
structure Fit (all : List Ipv4Net) (pool : FifoExactIpv4SubnetPool P) : Prop where
  ahead : pool.iter <:+ all
  queued : ∀ s ∈ pool.freeSet, s ∈ pool.freeQ
  length : ∀ s ∈ pool.freeQ, s.prefixLen = P

/-- What `getNext` comes to in the end. -/
def Allocatable (pool : FifoExactIpv4SubnetPool P) (s : Ipv4Net) : Prop :=
  s ∈ pool.freeSet ∨ (s ∈ pool.iter ∧ s ∉ pool.taken)

/-- What `get` grants. -/
def Requestable (pool : FifoExactIpv4SubnetPool P) (s : Ipv4Net) : Prop :=
  match pool.iter with
  | next :: _ =>
    if next < s then s ∉ pool.taken else s = next ∨ s ∈ pool.freeSet
  | [] => s ∈ pool.freeSet

instance (pool : FifoExactIpv4SubnetPool P) (s : Ipv4Net) : Decidable (pool.Requestable s) := by
  unfold Requestable
  split <;> infer_instance

theorem get_eq_ok_iff : (pool.get s).1 = .ok t ↔ t = s ∧ pool.Requestable s := by
  obtain ⟨iter, taken, freeQ, freeSet⟩ := pool
  cases iter with
  | nil =>
    simp only [get, Requestable]
    split <;> simp_all [eq_comm]
  | cons next rest =>
    simp only [get, Requestable]
    split_ifs <;> simp_all [eq_comm]

theorem get_eq_error_iff {err : SubnetPoolError} :
    (pool.get s).1 = .error err ↔ err = .subnetNotFree s ∧ ¬ pool.Requestable s := by
  obtain ⟨iter, taken, freeQ, freeSet⟩ := pool
  cases iter with
  | nil =>
    simp only [get, Requestable]
    split <;> simp_all [eq_comm]
  | cons next rest =>
    simp only [get, Requestable]
    split_ifs <;> simp_all [eq_comm]

theorem get_refused (refused : ¬ pool.Requestable s) : (pool.get s).2 = pool := by
  obtain ⟨iter, taken, freeQ, freeSet⟩ := pool
  cases iter with
  | nil =>
    simp only [Requestable] at refused
    simp [get, refused]
  | cons next rest =>
    simp only [Requestable] at refused
    simp only [get]
    split_ifs at refused ⊢ <;> simp_all

theorem getNext_none {all : List Ipv4Net} (h : pool.Fit all) (next : pool.getNext = (none, q)) :
    q.Fit all ∧ ∀ s, ¬ pool.Allocatable s ∧ ¬ q.Allocatable s := by
  unfold getNext at next
  split at next
  · cases next
  · rename_i popped
    obtain ⟨rfl, stale⟩ := popFree_none popped
    split at next
    rename_i subnet iter ahead
    cases next
    obtain ⟨rfl, isTaken⟩ := nextUntaken_none ahead
    have empty : ∀ s, s ∉ pool.freeSet := fun s isFree => stale s (h.queued s isFree) isFree
    refine ⟨⟨List.nil_suffix, fun s isFree => absurd isFree (empty s), by simp⟩, fun s => ?_⟩
    simp only [Allocatable, empty, false_or, List.not_mem_nil, false_and, not_false_eq_true,
      and_true]
    rintro ⟨mem, untaken⟩
    exact untaken (isTaken s mem)

theorem getNext_some {all : List Ipv4Net} (h : pool.Fit all)
    (next : pool.getNext = (some s, q)) :
    q.Fit all ∧ q.freeQ.length + q.iter.length < pool.freeQ.length + pool.iter.length ∧
      (s ∈ pool.freeQ ∨ s ∈ pool.iter) ∧
      ∀ t, pool.Allocatable t ↔ t = s ∨ q.Allocatable t := by
  unfold getNext at next
  split at next
  · rename_i popped
    cases next
    obtain ⟨shorter, queued, old, kept⟩ := popFree_some popped
    have isFree := popFree_free popped
    refine ⟨⟨h.ahead, fun t mem => ?_, fun t mem => h.length t (old t mem)⟩, by simpa using shorter,
      .inl queued, fun t => ?_⟩
    · obtain ⟨other, mem⟩ := Finset.mem_erase.mp mem
      exact (kept t (h.queued t mem) mem).resolve_left other
    · simp only [Allocatable, Finset.mem_erase]
      grind
  · rename_i popped
    obtain ⟨rfl, stale⟩ := popFree_none popped
    split at next
    rename_i subnet iter ahead
    cases next
    obtain ⟨untaken, later, kept⟩ := nextUntaken_some ahead
    have empty : ∀ s, s ∉ pool.freeSet := fun s isFree => stale s (h.queued s isFree) isFree
    have shorter := later.length_le
    have mem : s ∈ pool.iter := later.subset (by simp)
    refine ⟨⟨((List.suffix_cons s iter).trans later).trans h.ahead,
      fun s isFree => absurd isFree (empty s), by simp⟩, by simp at *; omega, .inr mem, fun t => ?_⟩
    simp only [Allocatable, empty, false_or]
    refine ⟨fun ⟨mem, untaken⟩ => ?_, ?_⟩
    · exact (kept t mem untaken).imp_right fun mem => ⟨mem, untaken⟩
    · rintro (rfl | ⟨mem, untaken⟩)
      · exact ⟨mem, untaken⟩
      · exact ⟨later.subset (by simp [mem]), untaken⟩

theorem Fit.get_fit {all : List Ipv4Net} (h : pool.Fit all) : (pool.get s).2.Fit all := by
  have taken (freed : Finset Ipv4Net) (less : freed ⊆ pool.freeSet) (taken : Finset Ipv4Net) :
      Fit all { pool with taken, freeSet := freed } :=
    ⟨h.ahead, fun t mem => h.queued t (less mem), h.length⟩
  have erased := taken _ (Finset.erase_subset s pool.freeSet) pool.taken
  obtain ⟨iter, takenSet, freeQ, freeSet⟩ := pool
  cases iter with
  | nil =>
    simp only [get]
    split
    · exact erased
    · exact h
  | cons next rest =>
    simp only [get]
    split_ifs
    · exact h
    · exact taken _ subset_rfl _
    · exact ⟨(List.suffix_cons next rest).trans h.ahead, h.queued, h.length⟩
    · exact erased
    · exact h

theorem Fit.giveBack_fit {all : List Ipv4Net} (h : pool.Fit all) (length : s.prefixLen = P) :
    (pool.giveBack s).Fit all := by
  have returned : Fit all { pool with taken := pool.taken.erase s } :=
    ⟨h.ahead, h.queued, h.length⟩
  have freed : Fit (P := P) all
      { pool with
        taken := pool.taken.erase s
        freeSet := insert s pool.freeSet
        freeQ := pool.freeQ ++ [s] } := by
    refine ⟨h.ahead, fun t mem => ?_, fun t mem => ?_⟩
    · obtain rfl | old := Finset.mem_insert.mp mem
      · simp
      · simp [h.queued t old]
    · obtain old | ⟨rfl⟩ : t ∈ pool.freeQ ∨ t = s := by simpa using mem
      · exact h.length t old
      · exact length
  obtain ⟨iter, takenSet, freeQ, freeSet⟩ := pool
  cases iter <;> simp only [giveBack] <;> split_ifs <;> first | exact returned | exact freed

end FifoExactIpv4SubnetPool

theorem Ipv4Net.hosts_of_length {net : Ipv4Net} (length : net.prefixLen = PREFIX_LEN) :
    net.hosts = [net.network.addr, net.network.addr + 1] := by
  simp [hosts, network, length, PREFIX_LEN, List.range']

/-- The tap in a subnet: the gateway comes first, then the VM. -/
def Ipv4Net.tapInfo (subnet : Ipv4Net) : TapInfo where
  name := resourceName (subnet.network.addr + 1)
  macAddr := none
  ipAddr := subnet.network.addr + 1
  prefixLen := PREFIX_LEN
  gateway := subnet.network.addr

theorem Ipv4Net.tapInfo_subnet {net : Ipv4Net} (length : net.prefixLen = PREFIX_LEN) :
    net.tapInfo.subnet = net.network := by
  simp [tapInfo, TapInfo.subnet, network, length]

theorem subnetInfo_eq {subnet : Ipv4Net} (length : subnet.prefixLen = PREFIX_LEN) :
    subnetInfo subnet = pure subnet.tapInfo := by
  simp only [subnetInfo, Ipv4Net.hosts_of_length length]
  rfl

section Providers
variable {all : List Ipv4Net} {pool : FifoExactIpv4SubnetPool PREFIX_LEN} {S : Ipv4Net}

theorem nextSubnet_spec (long : ∀ s ∈ all, s.prefixLen = PREFIX_LEN) (h : pool.Fit all) :
    Handler.wp nextSubnet
      { ok := fun r q => pool.getNext = (some r.1, q) ∧ r.2 = r.1.tapInfo ∧
          r.1.prefixLen = PREFIX_LEN,
        err := fun e q => e = .noMoreIpv4Subnets ∧ pool.getNext = (none, q) } pool := by
  simp only [nextSubnet, Handler.wp_bind, Handler.wp_modifyGet]
  match next : pool.getNext with
  | (none, q) => exact ⟨rfl, rfl⟩
  | (some subnet, q) =>
    have length : subnet.prefixLen = PREFIX_LEN := by
      obtain ⟨-, -, queued | ahead, -⟩ := FifoExactIpv4SubnetPool.getNext_some h next
      · exact h.length subnet queued
      · exact long subnet (h.ahead.subset ahead)
    simp only [subnetInfo_eq length]
    exact ⟨rfl, rfl, length⟩

/-- What the next subnets of an IP pool have for taps. -/
def FifoExactIpv4SubnetPool.Offers (pool : FifoExactIpv4SubnetPool PREFIX_LEN) (S : Ipv4Net) :
    Prop :=
  ∃ s, pool.Allocatable s ∧ s.network = S

theorem requestSubnet_spec {tapInfo : TapInfo} {link : Link} :
    Handler.wp (requestSubnet tapInfo link)
      { ok := fun tap q => ∃ device, tap = .device device ∧
          TapBuilder.buildOrAdopt { info := tapInfo } link = .ok device ∧
          pool.Requestable tapInfo.subnet ∧ q = (pool.get tapInfo.subnet).2,
        err := fun _ q => (pool.Requestable tapInfo.subnet → ∀ device,
            TapBuilder.buildOrAdopt { info := tapInfo } link ≠ .ok device) ∧
          q = (pool.get tapInfo.subnet).2 } pool := by
  simp only [requestSubnet, Handler.wp_bind, Handler.wp_modifyGet]
  match got : (pool.get tapInfo.subnet).1 with
  | .error err =>
    have refused := (FifoExactIpv4SubnetPool.get_eq_error_iff.mp got).2
    exact ⟨fun granted => absurd granted refused, rfl⟩
  | .ok _ =>
    have granted := (FifoExactIpv4SubnetPool.get_eq_ok_iff.mp got).2
    simp only [Handler.wp_map, Handler.wp_fromExcept]
    refine ⟨fun device built => ⟨device, rfl, built, granted, trivial⟩, fun err failed => ?_⟩
    refine ⟨fun _ device built => ?_, trivial⟩
    cases failed.symm.trans built

/-- What is offered, after the next subnet has been handed out. -/
theorem offers_next {q : FifoExactIpv4SubnetPool PREFIX_LEN} {s : Ipv4Net} (h : pool.Fit all)
    (length : s.prefixLen = PREFIX_LEN) (next : pool.getNext = (some s, q)) :
    pool.Offers S ↔ s.tapInfo.subnet = S ∨ q.Offers S := by
  obtain ⟨-, -, -, same⟩ := FifoExactIpv4SubnetPool.getNext_some h next
  simp only [FifoExactIpv4SubnetPool.Offers, same, Ipv4Net.tapInfo_subnet length]
  constructor
  · rintro ⟨t, rfl | later, rfl⟩
    · exact .inl rfl
    · exact .inr ⟨t, later, rfl⟩
  · rintro (rfl | ⟨t, later, rfl⟩)
    · exact ⟨s, .inl rfl, rfl⟩
    · exact ⟨t, .inr later, rfl⟩

/-- Some tap of the subnet, and an answer with which its device is built. -/
theorem buildable {S : Ipv4Net} (length : S.prefixLen = PREFIX_LEN) :
    ∃ tapInfo link device, tapInfo.subnet = S ∧
      TapBuilder.buildOrAdopt { info := tapInfo } link = .ok device :=
  ⟨{ S.tapInfo with gateway := S.addr }, .created 0 0, _, by simp [TapInfo.subnet, ← length], rfl⟩

namespace PlainTapDevices
variable {p : PlainTapDevices}

theorem alloc_spec (long : ∀ s ∈ all, s.prefixLen = PREFIX_LEN) (h : p.ipPool.Fit all) :
    Handler.wp alloc
      { ok := fun tap q => ∃ s, p.ipPool.getNext = (some s, q.ipPool) ∧
          tap = .builder { info := s.tapInfo } ∧ s.prefixLen = PREFIX_LEN,
        err := fun e q => e = .noMoreIpv4Subnets ∧ p.ipPool.getNext = (none, q.ipPool) } p := by
  simp only [alloc, onPool, Handler.wp_bind, Handler.wp_focus]
  refine Handler.wp_mono (nextSubnet_spec long h) ?_ (fun _ _ ended => ended) fun _ _ => False.elim
  rintro ⟨s, info⟩ q ⟨next, made, length⟩
  obtain rfl : info = s.tapInfo := made
  exact ⟨s, next, rfl, length⟩

theorem canAlloc_iff (long : ∀ s ∈ all, s.prefixLen = PREFIX_LEN) (h : p.ipPool.Fit all) :
    provider.CanAlloc p S ↔ p.ipPool.Offers S := by
  refine provider.canAlloc_iff (I := fun p => p.ipPool.Fit all) (fun p => p.ipPool.Offers)
    (fun p => p.ipPool.freeQ.length + p.ipPool.iter.length) (fun p h => ?_) h S
  refine Handler.wp_mono (alloc_spec long h) ?_ ?_ fun _ _ => False.elim
  · rintro _ q ⟨s, next, rfl, length⟩
    obtain ⟨fit, less, -⟩ := FifoExactIpv4SubnetPool.getNext_some h next
    exact ⟨fit, less, fun S => offers_next h length next⟩
  · rintro e q ⟨-, next⟩
    obtain ⟨fit, none⟩ := FifoExactIpv4SubnetPool.getNext_none h next
    exact ⟨fit, fun S => ⟨fun ⟨s, before, _⟩ => (none s).1 before,
      fun ⟨s, after, _⟩ => (none s).2 after⟩⟩

theorem request_spec (tapInfo : TapInfo) (link : Link) :
    Handler.wp (request tapInfo link)
      { ok := fun tap q => ∃ device, tap = .device device ∧
          TapBuilder.buildOrAdopt { info := tapInfo } link = .ok device ∧
          p.ipPool.Requestable tapInfo.subnet ∧ q.ipPool = (p.ipPool.get tapInfo.subnet).2,
        err := fun _ q => (p.ipPool.Requestable tapInfo.subnet → ∀ device,
            TapBuilder.buildOrAdopt { info := tapInfo } link ≠ .ok device) ∧
          q.ipPool = (p.ipPool.get tapInfo.subnet).2 } p :=
  (Handler.wp_focus ..).mpr requestSubnet_spec

theorem canRequest_iff (length : S.prefixLen = PREFIX_LEN) :
    provider.CanRequest p S ↔ p.ipPool.Requestable S := by
  constructor
  · intro can
    obtain ⟨tapInfo, link, device, rfl, built⟩ := buildable length
    obtain ⟨tap, q, ran⟩ := can tapInfo link device rfl built
    have spec := request_spec (p := p) tapInfo link
    unfold Handler.wp at spec
    rw [show request tapInfo link p = _ from ran] at spec
    obtain ⟨_, -, -, granted, -⟩ := spec
    exact granted
  · rintro granted tapInfo link device rfl built
    have spec := request_spec (p := p) tapInfo link
    unfold Handler.wp at spec
    change ∃ tap q, request tapInfo link p = .ok tap q
    cases ran : request tapInfo link p with
    | ok tap q => exact ⟨tap, q, rfl⟩
    | err e q =>
      rw [ran] at spec
      exact absurd built (spec.1 granted device)
    | panic msg q =>
      rw [ran] at spec
      exact spec.elim

theorem dealloc_spec (destroyed : Bool) (tap : Tap) :
    Handler.wp (dealloc destroyed tap)
      { ok := fun _ q => q.ipPool = p.ipPool.giveBack (returned tap),
        err := fun _ q => q = p } p := by
  cases tap with
  | builder b => exact rfl
  | device d => cases destroyed <;> exact rfl

theorem takesBack (long : ∀ s ∈ all, s.prefixLen = PREFIX_LEN) :
    TakesBack provider (fun p => p.ipPool.Fit all) (fun _ => False) fun _ => True where
  alloc p h := by
    apply Handler.wp_mono (alloc_spec long h) _ _ fun _ _ => False.elim
    · rintro tap q ⟨s, next, -⟩
      exact ⟨(FifoExactIpv4SubnetPool.getNext_some h next).1, by simp⟩
    · rintro _ q ⟨-, next⟩
      exact ⟨(FifoExactIpv4SubnetPool.getNext_none h next).1, id⟩
  request tapInfo link p h := by
    apply Handler.wp_mono (request_spec tapInfo link) _ _ fun _ _ => False.elim
    · rintro tap ⟨ipPool⟩ ⟨_, -, -, -, got⟩
      cases got
      exact ⟨h.get_fit, trivial⟩
    · rintro _ ⟨ipPool⟩ ⟨-, got⟩
      cases got
      exact h.get_fit
  dealloc destroyed tap p h := by
    apply Handler.wp_mono (dealloc_spec destroyed tap) _ _ fun _ _ => False.elim
    · rintro _ ⟨ipPool⟩ gave
      cases gave
      exact ⟨h.giveBack_fit rfl, trivial⟩
    · rintro _ q rfl
      exact ⟨h, trivial⟩
  shutdown _ p h := h

/-- What the IP pool of a provider has to come to, however it has been used. -/
theorem after_fit {subnets : Subnets} {parent : Ipv4Net} (complete : subnets.Complete)
    (new : new subnets parent = .ok p) (calls : List TapCall) :
    ∃ all, subnets parent PREFIX_LEN = .ok all ∧ (∀ s ∈ all, s.prefixLen = PREFIX_LEN) ∧
      (provider.after calls p).ipPool.Fit all := by
  match listed : subnets parent PREFIX_LEN with
  | .ok all =>
    have long : ∀ s ∈ all, s.prefixLen = PREFIX_LEN :=
      fun s mem => ((complete parent PREFIX_LEN all listed s).mp mem).length
    refine ⟨all, rfl, long, ?_⟩
    simp only [PlainTapDevices.new, FifoExactIpv4SubnetPool.new, listed] at new
    cases new
    exact provider.after_invariant (takesBack long).call_inv calls ⟨List.suffix_rfl, by simp, by simp⟩
  | .error _ =>
    simp only [PlainTapDevices.new, FifoExactIpv4SubnetPool.new, listed] at new
    cases new

end PlainTapDevices

namespace PoolTapDevices
variable {p : PoolTapDevices}

theorem alloc_spec (long : ∀ s ∈ all, s.prefixLen = PREFIX_LEN) (h : p.ipPool.Fit all) :
    Handler.wp alloc
      { ok := fun tap q =>
          (∃ subnet, p.free = q.free ++ [(subnet, tap)] ∧ q.ipPool = p.ipPool) ∨
          (p.free = [] ∧ q.free = [] ∧ ∃ s, p.ipPool.getNext = (some s, q.ipPool) ∧
            tap = .builder { info := s.tapInfo } ∧ s.prefixLen = PREFIX_LEN),
        err := fun e q => e = .noMoreIpv4Subnets ∧ p.free = [] ∧ q.free = [] ∧
          p.ipPool.getNext = (none, q.ipPool) } p := by
  simp only [alloc, Handler.wp_bind, Handler.wp_get]
  match last : p.free.getLast? with
  | some (subnet, tap) =>
    obtain ⟨front, back⟩ := List.getLast?_eq_some_iff.mp last
    simp only [Handler.wp_bind, Handler.wp_modify, Handler.wp_pure]
    exact .inl ⟨subnet, by simp [back], trivial⟩
  | none =>
    have empty := List.getLast?_eq_none_iff.mp last
    simp only [onPool, Handler.wp_bind, Handler.wp_focus]
    refine Handler.wp_mono (nextSubnet_spec long h) ?_ ?_ fun _ _ => False.elim
    · rintro ⟨s, info⟩ q ⟨next, made, length⟩
      obtain rfl : info = s.tapInfo := made
      exact .inr ⟨empty, empty, s, next, rfl, length⟩
    · rintro e q ⟨rfl, next⟩
      exact ⟨rfl, empty, empty, next⟩

/-- What the free list or the IP pool has. -/
def Offers (p : PoolTapDevices) (S : Ipv4Net) : Prop :=
  (∃ t ∈ p.free, t.2.info.subnet = S) ∨ p.ipPool.Offers S

theorem canAlloc_iff (long : ∀ s ∈ all, s.prefixLen = PREFIX_LEN) (h : p.ipPool.Fit all) :
    provider.CanAlloc p S ↔ p.Offers S := by
  refine provider.canAlloc_iff (I := fun p => p.ipPool.Fit all) Offers
    (fun p => p.free.length + (p.ipPool.freeQ.length + p.ipPool.iter.length))
    (fun p h => ?_) h S
  refine Handler.wp_mono (alloc_spec long h) ?_ ?_ fun _ _ => False.elim
  · rintro tap q (⟨subnet, front, same⟩ | ⟨empty, after, s, next, rfl, length⟩)
    · refine ⟨same ▸ h, by simp [front, same], fun S => ?_⟩
      simp only [Offers, front, same, List.mem_append, List.mem_singleton]
      grind
    · obtain ⟨fit, less, -⟩ := FifoExactIpv4SubnetPool.getNext_some h next
      refine ⟨fit, by simpa [empty, after] using less, fun S => ?_⟩
      simp only [Offers, empty, after, List.not_mem_nil, false_and, exists_false, false_or]
      exact offers_next h length next
  · rintro e q ⟨-, empty, after, next⟩
    obtain ⟨fit, none⟩ := FifoExactIpv4SubnetPool.getNext_none h next
    refine ⟨fit, fun S => ?_⟩
    simp only [Offers, empty, after, List.not_mem_nil, false_and, exists_false, false_or]
    exact ⟨fun ⟨s, before, _⟩ => (none s).1 before, fun ⟨s, after, _⟩ => (none s).2 after⟩

theorem request_spec (tapInfo : TapInfo) (link : Link) :
    Handler.wp (request tapInfo link)
      { ok := fun tap q =>
          ((∃ front back, p.free = front ++ (tapInfo.subnet, tap) :: back ∧
            q = { p with free := front ++ back }) ∨
          (tapInfo.subnet ∉ p.free.map Prod.fst ∧ ∃ device, tap = .device device ∧
            TapBuilder.buildOrAdopt { info := tapInfo } link = .ok device ∧
            p.ipPool.Requestable tapInfo.subnet ∧
            q = { p with ipPool := (p.ipPool.get tapInfo.subnet).2 })),
        err := fun _ q => tapInfo.subnet ∉ p.free.map Prod.fst ∧
          (p.ipPool.Requestable tapInfo.subnet → ∀ device,
            TapBuilder.buildOrAdopt { info := tapInfo } link ≠ .ok device) ∧
          q = { p with ipPool := (p.ipPool.get tapInfo.subnet).2 } } p := by
  simp only [request, Handler.wp_bind, Handler.wp_get]
  split
  next subnet tap found =>
    obtain ⟨named, front, back, split, before⟩ := List.find?_eq_some_iff_append.mp found
    obtain rfl : subnet = tapInfo.subnet := by simpa using named
    simp only [Handler.wp_bind, Handler.wp_modify, Handler.wp_pure]
    refine .inl ⟨front, back, split, ?_⟩
    rw [split, List.eraseP_append_right _ fun t mem => by simpa using before t mem]
    simp
  next found =>
    have absent : tapInfo.subnet ∉ p.free.map Prod.fst := by
      intro mem
      obtain ⟨t, mem, named⟩ := List.mem_map.mp mem
      exact List.find?_eq_none.mp found t mem (by simpa using named)
    simp only [onPool, Handler.wp_focus]
    refine Handler.wp_mono requestSubnet_spec ?_ ?_ fun _ _ => False.elim
    · rintro tap q ⟨device, made, built, granted, rfl⟩
      exact .inr ⟨absent, device, made, built, granted, rfl⟩
    · rintro e q ⟨failed, rfl⟩
      exact ⟨absent, failed, rfl⟩

theorem canRequest_iff (length : S.prefixLen = PREFIX_LEN) :
    provider.CanRequest p S ↔ S ∈ p.free.map Prod.fst ∨ p.ipPool.Requestable S := by
  constructor
  · intro can
    obtain ⟨tapInfo, link, device, rfl, built⟩ := buildable length
    obtain ⟨tap, q, ran⟩ := can tapInfo link device rfl built
    have spec := request_spec (p := p) tapInfo link
    unfold Handler.wp at spec
    rw [show request tapInfo link p = _ from ran] at spec
    obtain ⟨front, back, split, -⟩ | ⟨-, _, -, -, granted, -⟩ := spec
    · exact .inl (by simp [split])
    · exact .inr granted
  · rintro granted tapInfo link device rfl built
    have spec := request_spec (p := p) tapInfo link
    unfold Handler.wp at spec
    change ∃ tap q, request tapInfo link p = .ok tap q
    cases ran : request tapInfo link p with
    | ok tap q => exact ⟨tap, q, rfl⟩
    | err e q =>
      rw [ran] at spec
      exact absurd built (spec.2.1 (granted.resolve_left spec.1) device)
    | panic msg q =>
      rw [ran] at spec
      exact spec.elim

end PoolTapDevices

end Providers

end Network
end Snaplace
