import Mathlib.Data.Finset.Basic
import Mathlib.Data.List.Sort
import Snaplace.Foundation.Greedy
import Snaplace.Pool.Cap
import Snaplace.Pool.TurnSteps

/-!
# The victims of an eviction

The two eviction policies with their loops, and how the victims they list relate to the order in
which they look at the Idle workers. `Random` checks that something is to be reclaimed before it
picks a victim, `LruWorker` only after it: at the amount zero it still lists one. Whatever they
list, an eviction gets the memory in use down to the low watermark, or leaves no Idle worker.
-/
namespace Snaplace
open Foundation Foundation.Handler

namespace Pool

/-- What a policy is shown: the Idle workers, in the order of the map, and what it may look up. -/
structure PoolContext where
  idle : List (FunctionId × WorkerId)
  distinct : idle.Nodup
  memory : FunctionId → ByteUnit
  deadline : WorkerId → Instant

namespace PoolContext

/-- The Idle workers whose functions are not excluded. -/
def candidates (ctx : PoolContext) (excluded : Finset FunctionId) : List (FunctionId × WorkerId) :=
  ctx.idle.filter fun e => e.1 ∉ excluded

/-- What a victim's function takes. -/
def weight (ctx : PoolContext) (victim : FunctionId × WorkerId) : ByteUnit := ctx.memory victim.1

theorem candidates_empty (ctx : PoolContext) : ctx.candidates ∅ = ctx.idle := by
  simp [candidates]

end PoolContext

section Policies

/-- By their deadlines; those with the same deadline stay in the order of the map. -/
def LruWorker.sorted (ctx : PoolContext) (candidates : List (FunctionId × WorkerId)) :
    List (FunctionId × WorkerId) :=
  candidates.insertionSort fun a b => ctx.deadline a.2 ≤ ctx.deadline b.2

def LruWorker.evict (ctx : PoolContext) (memToReclaim : ByteUnit) :
    List (FunctionId × WorkerId) :=
  takeWhileInclusive ctx.memory memToReclaim (sorted ctx ctx.idle)

def LruWorker.evictExceptSet (ctx : PoolContext) (memToReclaim : ByteUnit)
    (excluded : Finset FunctionId) : List (FunctionId × WorkerId) :=
  takeWhileInclusive ctx.memory memToReclaim (sorted ctx (ctx.candidates excluded))

/-- The loop of the random policy: `draw` says which of the candidates left is chosen in a turn. -/
def Random.victims (memory : FunctionId → ByteUnit) (draw : Nat → Nat) (turn : Nat)
    (memToReclaim : ByteUnit) (candidates : List (FunctionId × WorkerId)) :
    List (FunctionId × WorkerId) :=
  if running : 0 < memToReclaim ∧ candidates ≠ [] then
    have inside : draw turn % candidates.length < candidates.length :=
      Nat.mod_lt _ (List.length_pos_iff.mpr running.2)
    let chosen := candidates[draw turn % candidates.length]
    have fewer : (candidates.filter fun e => e ≠ chosen).length < candidates.length :=
      List.length_filter_lt_length_iff_exists.mpr ⟨chosen, List.getElem_mem inside, by simp⟩
    chosen :: victims memory draw (turn + 1) (memToReclaim.sub (memory chosen.1))
      (candidates.filter fun e => e ≠ chosen)
  else []
termination_by candidates.length

def Random.evict (ctx : PoolContext) (draw : Nat → Nat) (memToReclaim : ByteUnit) :
    List (FunctionId × WorkerId) :=
  victims ctx.memory draw 0 memToReclaim ctx.idle

def Random.evictExceptSet (ctx : PoolContext) (draw : Nat → Nat) (memToReclaim : ByteUnit)
    (excluded : Finset FunctionId) : List (FunctionId × WorkerId) :=
  victims ctx.memory draw 0 memToReclaim (ctx.candidates excluded)

end Policies

section Victims
variable {memory : FunctionId → ByteUnit} {amount : ByteUnit}
  {order victims : List (FunctionId × WorkerId)}

theorem ByteUnit.sub_pos {a b : ByteUnit} : 0 < a.sub b ↔ b < a := Nat.sub_pos_iff_lt

theorem takeWhileInclusive_shortest (wanted : 0 < amount ∨ order = []) :
    ShortestFront (fun e : FunctionId × WorkerId => memory e.1) amount order
      (takeWhileInclusive memory amount order) := by
  induction order generalizing amount with
  | nil => exact .of_nil
  | cons x order ih =>
    have wanted : 0 < amount := wanted.resolve_right (by simp)
    simp only [takeWhileInclusive]
    split
    next more => exact .cons (ByteUnit.sub_pos.mp more) (ih (.inl more))
    next done => exact .single wanted (not_lt.mp fun more => done (ByteUnit.sub_pos.mpr more))

/-- The inclusive iterator always gives the first candidate. -/
theorem takeWhileInclusive_ne_nil (some : order ≠ []) : takeWhileInclusive memory amount order ≠ [] := by
  cases order with
  | nil => exact absurd rfl some
  | cons x order =>
    simp only [takeWhileInclusive]
    split
    · simp
    · simp

theorem takeWhileInclusive_front : takeWhileInclusive memory amount order <+: order := by
  induction order generalizing amount with
  | nil => exact List.nil_prefix
  | cons x order ih =>
    simp only [takeWhileInclusive]
    split
    · exact List.cons_prefix_cons.mpr ⟨rfl, ih⟩
    · exact ⟨order, rfl⟩

@[simp] theorem Random.victims_zero {draw : Nat → Nat} {turn : Nat}
    {candidates : List (FunctionId × WorkerId)} :
    Random.victims memory draw turn 0 candidates = [] := by
  rw [Random.victims, dif_neg (by simp)]

theorem perm_cons_filter {chosen : FunctionId × WorkerId}
    {candidates : List (FunctionId × WorkerId)} (mem : chosen ∈ candidates)
    (distinct : candidates.Nodup) :
    (chosen :: candidates.filter fun e => e ≠ chosen).Perm candidates := by
  have erased : candidates.erase chosen = candidates.filter fun e => e ≠ chosen := by
    rw [distinct.erase_eq_filter chosen]
    refine List.filter_congr fun e _ => ?_
    by_cases same : e = chosen <;> simp [same]
  rw [← erased]
  exact (List.perm_cons_erase mem).symm

/-- Whatever is drawn, the loop takes the shortest front of some order of the candidates. -/
theorem Random.victims_shortest (memory : FunctionId → ByteUnit) (amount : ByteUnit) (draw : Nat → Nat) (turn : Nat)
    (candidates : List (FunctionId × WorkerId)) (distinct : candidates.Nodup) :
    ∃ order, order.Perm candidates ∧
      ShortestFront (fun e : FunctionId × WorkerId => memory e.1) amount order
        (Random.victims memory draw turn amount candidates) := by
  induction turn, amount, candidates using Random.victims.induct memory draw with
  | case1 turn amount candidates running inside chosen fewer ih =>
    obtain ⟨order, perm, shortest⟩ := ih (distinct.filter _)
    have all : (chosen :: order).Perm candidates :=
      (perm.cons chosen).trans (perm_cons_filter (List.getElem_mem inside) distinct)
    refine ⟨chosen :: order, all, ?_⟩
    rw [Random.victims, dif_pos running]
    by_cases enough : amount ≤ memory chosen.1
    · have nothing : ByteUnit.sub amount (memory chosen.1) = 0 := Nat.sub_eq_zero_of_le enough
      simp only [chosen] at nothing
      simp only [nothing, Random.victims_zero]
      exact .single running.1 enough
    · exact .cons (not_le.mp enough) shortest
  | case2 turn amount candidates idle =>
    refine ⟨candidates, .rfl, ?_⟩
    rw [Random.victims, dif_neg idle]
    by_cases wanted : 0 < amount
    · have empty : candidates = [] := by
        by_contra left
        exact idle ⟨wanted, left⟩
      subst empty
      exact .of_nil
    · obtain rfl : amount = 0 := Nat.eq_zero_of_not_pos wanted
      exact ShortestFront.zero_iff.mpr rfl

end Victims

section Trigger
variable {ε : Type} {d : Defect → Prop} {i : Input} {m : Moment} {f : FunctionId} {w : WorkerId}

theorem nodup_iterWorkers {stage : Stage} {p : Pool} : (iterWorkers i stage p).Nodup := by
  have perm := (Table.ordered_perm i.workerRank (p.store.workers stage)).map Prod.fst
  refine perm.nodup_iff.mpr ?_
  rw [List.map_map]
  exact (p.store.workers stage).nodupKeys

/-- What the pool shows a policy. -/
def policyContext (i : Input) (p : Pool) : PoolContext where
  idle := iterWorkers i .idle p
  distinct := nodup_iterWorkers
  memory f := ((p.store.functions.lookup f).map (·.memory)).getD 0
  deadline w := (p.workerDeadlines.lookup w).getD 0

/-- The victims are Idle workers, and enough of them if there are. -/
structure Reclaims (i : Input) (p : Pool) (amount : ByteUnit)
    (victims : List (FunctionId × WorkerId)) : Prop where
  distinct : victims.Nodup
  idle : ∀ e ∈ victims, At p .idle e.1 e.2
  reaches : amount ≤ totalWeight (policyContext i p).weight victims ∨
    ∀ f w, At p .idle f w → (f, w) ∈ victims

theorem reclaims_of_front {p : Pool} {amount : ByteUnit}
    {order victims : List (FunctionId × WorkerId)} (perm : order.Perm (iterWorkers i .idle p))
    (front : victims <+: order)
    (reaches : amount ≤ totalWeight (policyContext i p).weight victims ∨ victims = order) :
    Reclaims i p amount victims where
  distinct := (perm.nodup_iff.mpr nodup_iterWorkers).sublist front.sublist
  idle e mem := mem_iterWorkers.mp (perm.mem_iff.mp (front.subset mem))
  reaches := by
    refine reaches.imp_right fun all f w idle => ?_
    rw [all]
    exact perm.mem_iff.mpr (mem_iterWorkers.mpr idle)

theorem reclaims_inclusive {p : Pool} {amount : ByteUnit}
    {order : List (FunctionId × WorkerId)} (perm : order.Perm (iterWorkers i .idle p)) :
    Reclaims i p amount (takeWhileInclusive (policyContext i p).memory amount order) := by
  refine reclaims_of_front perm takeWhileInclusive_front ?_
  rcases Nat.eq_zero_or_pos amount with rfl | wanted
  · exact .inl (Nat.zero_le _)
  · exact (takeWhileInclusive_shortest (.inl wanted)).reaches

theorem insertionSort_idxOf {order candidates : List (FunctionId × WorkerId)}
    (perm : order.Perm candidates) (distinct : candidates.Nodup) :
    candidates.insertionSort (fun a b => order.idxOf a ≤ order.idxOf b) = order := by
  have total : Std.Total fun a b : FunctionId × WorkerId => order.idxOf a ≤ order.idxOf b :=
    ⟨fun _ _ => le_total _ _⟩
  have trans : IsTrans _ fun a b : FunctionId × WorkerId => order.idxOf a ≤ order.idxOf b :=
    ⟨fun _ _ _ => le_trans⟩
  have distinct := perm.nodup_iff.mpr distinct
  have sorted : order.Pairwise fun a b => order.idxOf a ≤ order.idxOf b := by
    rw [List.pairwise_iff_getElem]
    intro j k inside inside' before
    rw [distinct.idxOf_getElem, distinct.idxOf_getElem]
    exact before.le
  refine List.Perm.eq_of_pairwise ?_ (List.pairwise_insertionSort _ _) sorted
    ((List.perm_insertionSort _ _).trans perm.symm)
  intro a b _ mem le ge
  exact ((List.idxOf_inj mem).mp (Nat.le_antisymm ge le)).symm

/-- Any random draws amount to an order of the Idle workers, which is what the pool's input has. -/
theorem evict_of_draws (h : Partition m) (random : m.pool.config.eviction = .random)
    (draw : Nat → Nat) (amount : ByteUnit) :
    ∃ rank, wp (ε := ε) (evict { i with randomRank := rank } amount)
      { ok := fun victims t => t = m.pool ∧
          victims = Random.evict (policyContext i m.pool) draw amount
        err := fun _ _ => False
        panic := fun _ _ => False } m.pool := by
  obtain ⟨order, perm, shortest⟩ := Random.victims_shortest (policyContext i m.pool).memory
    amount draw 0 (iterWorkers i .idle m.pool) nodup_iterWorkers
  refine ⟨order.idxOf, ?_⟩
  simp only [evict, wp_bind, wp_get, random]
  refine reads_forM ?_ fun candidate mem => ?_
  · have sorted := insertionSort_idxOf perm nodup_iterWorkers
    simp only [wp_ite, wp_pure, true_and]
    refine ⟨fun wanted => ?_, fun nothing => ?_⟩
    · refine Eq.trans ?_ ((takeWhileInclusive_shortest (.inl wanted)).unique shortest)
      exact congrArg (takeWhileInclusive _ amount) sorted
    · obtain rfl : amount = 0 := Nat.eq_zero_of_not_pos nothing
      exact (ShortestFront.zero_iff.mp shortest).symm
  · rw [wp_bind]
    exact wp_of_reads (functionMemory_spec h (mem_iterWorkers.mp mem)) fun _ => rfl

theorem evict_reclaims (h : Partition m) {amount : ByteUnit}
    (evicts : m.pool.config.eviction ≠ .noOp) :
    wp (ε := ε) (evict i amount)
      { ok := fun victims t => t = m.pool ∧ Reclaims i m.pool amount victims
        err := fun _ _ => False
        panic := fun _ _ => False } m.pool := by
  simp only [evict, wp_bind, wp_get]
  cases policy : m.pool.config.eviction with
  | noOp => exact absurd policy evicts
  | random =>
    simp only [wp_bind]
    refine reads_forM ?_ fun candidate mem => ?_
    · simp only [wp_ite, wp_pure]
      refine ⟨fun _ => ⟨trivial, reclaims_inclusive (List.perm_insertionSort _ _)⟩, fun nothing => ?_⟩
      exact ⟨trivial, reclaims_of_front .rfl List.nil_prefix (.inl (not_lt.mp nothing))⟩
    · rw [wp_bind]
      exact wp_of_reads (functionMemory_spec h (mem_iterWorkers.mp mem)) fun _ => rfl
  | lruWorker =>
    simp only [wp_bind]
    refine reads_forM ⟨rfl, reclaims_inclusive (List.perm_insertionSort _ _)⟩
      fun candidate mem => ?_
    have idle : At m.pool .idle candidate.1 candidate.2 := mem_iterWorkers.mp mem
    rw [wp_bind]
    refine wp_of_reads (functionMemory_spec h idle) fun _ => ?_
    simp only [wp_ite, wp_bind, wp_pure]
    exact ⟨fun _ => wp_of_reads (deadlineOf_spec h idle) fun _ => rfl, fun _ => rfl⟩

/-- While the victims are told to go: what they still take will be reclaimed, and only they go. -/
structure Evicting (i : Input) (m : Moment) (victims rest : List (FunctionId × WorkerId))
    (t : Pool) : Prop where
  moved : Moves (fun _ => True) i m { m with pool := t }
  functions : t.store.functions = m.pool.store.functions
  low : t.memory.evictionThresLo = m.pool.memory.evictionThresLo
  inuse : t.memory.inuse - totalWeight (policyContext i m.pool).weight rest =
    m.pool.memory.inuse - totalWeight (policyContext i m.pool).weight victims
  distinct : rest.Nodup
  waiting : ∀ e ∈ rest, At t .idle e.1 e.2
  left : ∀ f w, At t .idle f w → At m.pool .idle f w ∧ ((f, w) ∈ victims → (f, w) ∈ rest)

/-- The step lemma of the loop. -/
theorem Evicting.next {victims rest : List (FunctionId × WorkerId)} {t : Pool} (h : Partition m)
    (evicting : Evicting i m victims ((f, w) :: rest) t) :
    wp (decommissionIdleWorker i w (some f))
      { ok := fun _ u => Evicting i m victims rest u
        err := fun _ u => Evicting i m victims rest u
        panic := fun _ _ => False } t := by
  have parts := h.moves evicting.moved
  have idle : At t .idle f w := evicting.waiting (f, w) (by simp)
  obtain ⟨function, known⟩ := parts.known idle
  have weight : (policyContext i m.pool).weight (f, w) = function.memory := by
    simp [policyContext, PoolContext.weight, ← evicting.functions, known]
  have next {u : Pool} (retired : Retired t u f w)
      (more : Moves (fun _ => True) i { m with pool := t } { m with pool := u })
      (reclaimed : u.memory = t.memory.reclaim function.memory)
      (functions : u.store.functions = t.store.functions) : Evicting i m victims rest u := by
    have distinct := List.nodup_cons.mp evicting.distinct
    refine ⟨evicting.moved.trans more, functions.trans evicting.functions, ?_, ?_, distinct.2, ?_,
      ?_⟩
    · rw [reclaimed, ← evicting.low, MemoryStats.reclaim]
    · have before := evicting.inuse
      rw [totalWeight_cons, weight] at before
      rw [reclaimed, ← before]
      exact Nat.sub_sub _ _ _
    · intro e mem
      have := evicting.waiting e (by simp [mem])
      rw [retired]
      grind
    · intro f' w' idle'
      have := evicting.left f' w'
      rw [retired] at idle'
      grind
  have both := wp_and (decommissionIdleWorker_idle (d := fun _ => True) (i := i) parts idle)
    (decommissionIdleWorker_ends (i := i) parts idle known (.inl rfl))
  refine wp_mono both ?_ ?_ fun _ _ absurd => absurd.2.elim
  · rintro - u ⟨⟨more, -, retired⟩, store, reclaimed⟩
    exact next retired more reclaimed (by rw [store]; rfl)
  · rintro e u ⟨⟨more, -, retired⟩, store, reclaimed⟩
    exact next retired more reclaimed (by rw [store]; rfl)

/-- The memory in use is down to the low watermark, or no Idle worker is left. -/
def Relieved (p : Pool) : Prop :=
  p.memory.inuse ≤ p.memory.evictionThresLo ∨ ∀ f w, ¬At p .idle f w

theorem triggerEvictionPolicy_spec (h : Partition m) (evicts : m.pool.config.eviction ≠ .noOp) :
    wp (ε := ε) (triggerEvictionPolicy i)
      { ok := fun _ t => Relieved t
        err := fun _ _ => False
        panic := fun _ _ => False } m.pool := by
  simp only [triggerEvictionPolicy]
  rw [wp_bind, wp_get]
  refine wp_seq (evict_reclaims h evicts) ?_ (fun _ _ absurd => absurd) fun _ _ absurd => absurd
  rintro victims t ⟨rfl, reclaims⟩
  refine wp_forM_rest (I := Evicting i m victims) ?_ ?_ ?_
  · exact ⟨.refl, rfl, rfl, rfl, reclaims.distinct, reclaims.idle, fun f w idle => ⟨idle, id⟩⟩
  · intro t evicted
    have inuse := evicted.inuse
    simp only [totalWeight_nil, Nat.sub_zero] at inuse
    rcases reclaims.reaches with enough | all
    · left
      rw [inuse, evicted.low]
      exact tsub_le_iff_tsub_le.mp enough
    · right
      intro f w idle
      obtain ⟨before, gone⟩ := evicted.left f w idle
      simpa using gone (all f w before)
  · rintro ⟨f, w⟩ rest t - evicting
    simp only [wp_bind, wp_attempt, wp_pure]
    exact evicting.next h

end Trigger

section PicksRight

/-- What is asked of the two policies for one amount, whatever the random draws. -/
structure PicksRight (ctx : PoolContext) (amount : ByteUnit) : Prop where
  lru : ∃ order, order.Perm ctx.idle ∧ (order.Pairwise fun a b => ctx.deadline a.2 ≤ ctx.deadline b.2) ∧
    ShortestFront ctx.weight amount order (LruWorker.evict ctx amount)
  random : ∀ draw, ∃ order, order.Perm ctx.idle ∧
    ShortestFront ctx.weight amount order (Random.evict ctx draw amount)
  distinct : (LruWorker.evict ctx amount).Nodup ∧ ∀ draw, (Random.evict ctx draw amount).Nodup
  excepted : ∀ excluded : Finset FunctionId,
    (∀ e ∈ LruWorker.evictExceptSet ctx amount excluded, e.1 ∉ excluded) ∧
      ∀ draw, ∀ e ∈ Random.evictExceptSet ctx draw amount excluded, e.1 ∉ excluded
  exceptNone : LruWorker.evictExceptSet ctx amount ∅ = LruWorker.evict ctx amount ∧
    ∀ draw, Random.evictExceptSet ctx draw amount ∅ = Random.evict ctx draw amount

variable (ctx : PoolContext) {amount : ByteUnit}

theorem LruWorker.sorted_perm {candidates : List (FunctionId × WorkerId)} :
    (LruWorker.sorted ctx candidates).Perm candidates :=
  List.perm_insertionSort _ _

theorem LruWorker.sorted_pairwise {candidates : List (FunctionId × WorkerId)} :
    (LruWorker.sorted ctx candidates).Pairwise fun a b => ctx.deadline a.2 ≤ ctx.deadline b.2 := by
  have total : Std.Total fun a b : FunctionId × WorkerId => ctx.deadline a.2 ≤ ctx.deadline b.2 :=
    ⟨fun _ _ => le_total _ _⟩
  have trans : IsTrans _ fun a b : FunctionId × WorkerId => ctx.deadline a.2 ≤ ctx.deadline b.2 :=
    ⟨fun _ _ _ => le_trans⟩
  exact List.pairwise_insertionSort _ _

theorem LruWorker.evict_nodup : (LruWorker.evict ctx amount).Nodup :=
  ((sorted_perm ctx).nodup_iff.mpr ctx.distinct).sublist takeWhileInclusive_front.sublist

theorem LruWorker.mem_evictExceptSet {excluded : Finset FunctionId} {e : FunctionId × WorkerId}
    (mem : e ∈ LruWorker.evictExceptSet ctx amount excluded) : e.1 ∉ excluded := by
  have candidate := (sorted_perm ctx).mem_iff.mp (takeWhileInclusive_front.subset mem)
  simpa [PoolContext.candidates] using (List.mem_filter.mp candidate).2

theorem Random.mem_evictExceptSet {draw : Nat → Nat} {excluded : Finset FunctionId}
    {e : FunctionId × WorkerId} (mem : e ∈ Random.evictExceptSet ctx draw amount excluded) :
    e.1 ∉ excluded := by
  obtain ⟨order, perm, shortest⟩ := Random.victims_shortest ctx.memory amount
    draw 0 (ctx.candidates excluded) (ctx.distinct.filter _)
  have candidate := perm.mem_iff.mp (shortest.isFront.subset mem)
  simpa [PoolContext.candidates] using (List.mem_filter.mp candidate).2

/-- The policies pick the right victims of any set of Idle workers, except that `LruWorker` lists
one even when there is nothing to reclaim. -/
theorem picksRight_iff : PicksRight ctx amount ↔ 0 < amount ∨ ctx.idle = [] := by
  constructor
  · intro right
    obtain ⟨order, perm, -, shortest⟩ := right.lru
    by_contra! neither
    obtain rfl : amount = 0 := Nat.eq_zero_of_not_pos (not_lt.mpr neither.1)
    have some : LruWorker.sorted ctx ctx.idle ≠ [] := fun none =>
      neither.2 (List.perm_nil.mp (none ▸ LruWorker.sorted_perm ctx).symm)
    exact takeWhileInclusive_ne_nil some (ShortestFront.zero_iff.mp shortest)
  · intro wanted
    have wanted : 0 < amount ∨ LruWorker.sorted ctx ctx.idle = [] := by
      refine wanted.imp_right fun none => ?_
      exact List.perm_nil.mp (none ▸ LruWorker.sorted_perm ctx)
    have random (draw : Nat → Nat) := Random.victims_shortest ctx.memory
      amount draw 0 ctx.idle ctx.distinct
    refine ⟨⟨_, LruWorker.sorted_perm ctx, LruWorker.sorted_pairwise ctx,
      takeWhileInclusive_shortest wanted⟩, random, ⟨LruWorker.evict_nodup ctx, fun draw => ?_⟩,
      fun excluded => ⟨fun e => LruWorker.mem_evictExceptSet ctx,
        fun draw e => Random.mem_evictExceptSet ctx⟩, ?_, fun draw => ?_⟩
    · obtain ⟨order, perm, shortest⟩ := random draw
      exact shortest.nodup (perm.nodup_iff.mpr ctx.distinct)
    · rw [LruWorker.evictExceptSet, ctx.candidates_empty, LruWorker.evict]
    · rw [Random.evictExceptSet, ctx.candidates_empty, Random.evict]

/-- One Idle worker, of a function with 128 bytes. -/
def oneIdle : PoolContext where
  idle := [(1, 1)]
  distinct := by decide
  memory _ := 128
  deadline _ := 0

/-- With nothing to reclaim, the one Idle worker is still shut down. -/
theorem lruWorker_evicts_for_nothing :
    LruWorker.evict oneIdle 0 = [(1, 1)] ∧ ¬PicksRight oneIdle 0 := by
  refine ⟨by decide, fun right => ?_⟩
  simpa [oneIdle] using (picksRight_iff oneIdle).mp right

/-- The policies pick right if and only if there is something to reclaim or nothing to pick. In a run
whose workers ask to be reaped in their own function's name, an eviction triggered at any move of any
event relieves the memory. -/
theorem eviction_iff (ctx : PoolContext) (amount : ByteUnit) (config : SandboxPoolConfig)
    (cpus : List Cpu) (memory : MemoryStats) (functions : Table FunctionId RegisteredFunction)
    (snapshots : Table FunctionId (List Sandbox)) (inputs : List Input)
    (honest : Honest inputs (spawn config cpus memory functions snapshots)) :
    (PicksRight ctx amount ↔ 0 < amount ∨ ctx.idle = []) ∧
      AllTurns turn (fun p i => ∀ m, Moves (fun _ => True) i (.top p) m →
          m.pool.config.eviction ≠ .noOp →
          wp (ε := Empty) (triggerEvictionPolicy i)
            { ok := fun _ t => Relieved t
              err := fun _ _ => False
              panic := fun _ _ => False } m.pool)
        inputs (spawn config cpus memory functions snapshots) := by
  refine ⟨picksRight_iff ctx, ?_⟩
  refine (run_partition partition_spawn honest).mono fun p i ⟨parts, _⟩ m moves evicts => ?_
  exact triggerEvictionPolicy_spec (parts.moves moves) evicts

/-- A pool with the memory for one worker below its watermarks. -/
def tight : Pool :=
  spawn
    { retainSnapshots := false, snapshotCreationTime := .never, defaultWorkerCapPerFunc := 4,
      eviction := .lruWorker }
    [0]
    { total := 8, inuse := 0, reclaimed := 0, evictionThresHi := 4, evictionThresLo := 2 }
    (AList.insert 7 { memory := 2, admission := none } ∅) ∅

/-- Two workers are started, and the first of them is parked. -/
def twoStarted : List Input :=
  [(Event.dispatch 7 .reuseIdleOrProvision).smooth 1,
    { (Event.workerMessage (.needWork 1 7)).smooth 2 with assign := fun _ => some 60 },
    (preparation 0).smooth 3]

theorem eviction_twoStarted :
    PicksRight oneIdle 100 ∧
      AllTurns turn (fun p i => ∀ m, Moves (fun _ => True) i (.top p) m →
          m.pool.config.eviction ≠ .noOp →
          wp (ε := Empty) (triggerEvictionPolicy i)
            { ok := fun _ t => Relieved t
              err := fun _ _ => False
              panic := fun _ _ => False } m.pool)
        twoStarted tight := by
  have honest : Honest twoStarted tight := by
    refine AllTurns.of_forall_mem (fun i mem p w f reaped => ?_) _
    simp only [twoStarted, List.mem_cons, List.not_mem_nil, or_false] at mem
    rcases mem with rfl | rfl | rfl
    · exact absurd reaped nofun
    · exact absurd reaped (by simp [Event.smooth])
    · exact absurd reaped nofun
  have both := eviction_iff oneIdle 100 _ _ _ _ _ _ honest
  exact ⟨both.1.mpr (.inl (by decide)), both.2⟩

end PicksRight

end Pool
end Snaplace
