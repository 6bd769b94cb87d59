import Mathlib.Data.Finmap
import Mathlib.Data.List.AList
import Mathlib.Data.List.Dedup
import Mathlib.Data.List.Sort
import Mathlib.Algebra.BigOperators.Group.List.Basic
import Mathlib.Tactic

/-!
# Finite tables

A hash map of the code is an association list with distinct keys. Lookups after an update are
`if`s, and a quantity summed over the entries changes by the entry that changed. The order in which
a hash map is traversed is not specified: `ordered rank` is the traversal in the order of `rank`.
A multimap is a list of pairs.
-/
namespace Foundation

abbrev Table (κ ν : Type) : Type := AList fun _ : κ => ν

namespace Table
variable {κ ν : Type}

/-- The sum of `f` over the entries. -/
def total (f : κ → ν → Nat) (m : Table κ ν) : Nat :=
  (m.entries.map fun e => f e.1 e.2).sum

def mapValues (g : κ → ν → ν) (m : Table κ ν) : Table κ ν where
  entries := m.entries.map fun e => ⟨e.1, g e.1 e.2⟩
  nodupKeys := by
    have := m.nodupKeys
    rw [List.NodupKeys, List.keys] at *
    simpa [Function.comp_def] using this

/-- The entries in the order of `rank`. -/
def ordered (rank : κ → Nat) (m : Table κ ν) : List (κ × ν) :=
  (m.entries.map fun e => (e.1, e.2)).insertionSort fun a b => rank a.1 ≤ rank b.1

/-- The values in the order of `rank`. -/
def values (rank : κ → Nat) (m : Table κ ν) : List ν := (m.ordered rank).map Prod.snd

theorem total_mapValues (f : κ → ν → Nat) (g : κ → ν → ν) (m : Table κ ν) :
    total f (mapValues g m) = total (fun k v => f k (g k v)) m := by
  simp [total, mapValues, Function.comp_def]

theorem total_add (f g : κ → ν → Nat) (m : Table κ ν) :
    total (fun k v => f k v + g k v) m = total f m + total g m := by
  simp [total, List.sum_map_add]

@[simp] theorem total_empty (f : κ → ν → Nat) : total f (∅ : Table κ ν) = 0 := rfl

theorem total_eq_zero {f : κ → ν → Nat} {m : Table κ ν} (h : ∀ k v, f k v = 0) :
    total f m = 0 := by
  simp [total, h]

theorem ordered_perm (rank : κ → Nat) (m : Table κ ν) :
    (m.ordered rank).Perm (m.entries.map fun e => (e.1, e.2)) :=
  List.perm_insertionSort ..

theorem sum_ordered (f : κ → ν → Nat) (rank : κ → Nat) (m : Table κ ν) :
    ((m.ordered rank).map fun e => f e.1 e.2).sum = total f m := by
  rw [((ordered_perm rank m).map _).sum_eq]
  simp [total, Function.comp_def]

theorem sum_values (f : ν → Nat) (rank : κ → Nat) (m : Table κ ν) :
    ((m.values rank).map f).sum = total (fun _ => f) m := by
  rw [← sum_ordered (fun _ => f) rank m]
  simp [values, Function.comp_def]

theorem countP_values (p : ν → Bool) (rank : κ → Nat) (m : Table κ ν) :
    (m.values rank).countP p = total (fun _ v => if p v then 1 else 0) m := by
  rw [← sum_values (fun v => if p v then 1 else 0) rank m]
  induction m.values rank with
  | nil => rfl
  | cons v vs ih => by_cases h : p v <;> simp [h, ih, Nat.add_comm]

variable [DecidableEq κ]

theorem lookup_insert_ite (k k' : κ) (v : ν) (m : Table κ ν) :
    (m.insert k v).lookup k' = if k' = k then some v else m.lookup k' := by
  split
  next h => subst h; exact AList.lookup_insert m
  next h => exact AList.lookup_insert_ne h

theorem lookup_erase_ite (k k' : κ) (m : Table κ ν) :
    (m.erase k).lookup k' = if k' = k then none else m.lookup k' := by
  split
  next h => subst h; exact AList.lookup_erase _ m
  next h => exact AList.lookup_erase_ne h

theorem forall_insert {P : κ → ν → Prop} {k : κ} {v : ν} {m : Table κ ν} :
    (∀ k' v', (m.insert k v).lookup k' = some v' → P k' v') ↔
      P k v ∧ ∀ k' v', k' ≠ k → m.lookup k' = some v' → P k' v' := by
  simp only [lookup_insert_ite]
  constructor
  · refine fun h => ⟨h k v (by simp), fun k' v' other look => h k' v' ?_⟩
    simpa [other] using look
  · rintro ⟨own, others⟩ k' v' look
    split at look
    next same =>
      cases look
      exact same ▸ own
    next other => exact others k' v' other look

theorem forall_erase {P : κ → ν → Prop} {k : κ} {m : Table κ ν}
    (all : ∀ k' v', m.lookup k' = some v' → P k' v') :
    ∀ k' v', (m.erase k).lookup k' = some v' → P k' v' := by
  intro k' v' look
  rw [lookup_erase_ite] at look
  split at look
  next => cases look
  next => exact all k' v' look

theorem erase_of_notMem {k : κ} {m : Table κ ν} (h : k ∉ m) : m.erase k = m := by
  ext1
  exact List.kerase_of_notMem_keys h

theorem erase_insert_self (k : κ) (v : ν) (m : Table κ ν) : (m.insert k v).erase k = m.erase k := by
  ext1
  simp [AList.erase, AList.entries_insert]

theorem insert_erase_self (k : κ) (v : ν) (m : Table κ ν) :
    (m.erase k).insert k v = m.insert k v := by
  have twice : (m.erase k).erase k = m.erase k := erase_of_notMem (by simp)
  ext1
  simpa [AList.entries_insert, AList.erase] using congrArg AList.entries twice

theorem mem_entries_iff {m : Table κ ν} {k : κ} {v : ν} :
    (⟨k, v⟩ : Sigma fun _ : κ => ν) ∈ m.entries ↔ m.lookup k = some v := by
  rw [← Option.mem_def, AList.mem_lookup_iff]

/-- What holds of all entries can be decided. -/
instance decidableForall {P : κ → ν → Prop} [∀ k v, Decidable (P k v)] (m : Table κ ν) :
    Decidable (∀ k v, m.lookup k = some v → P k v) :=
  decidable_of_iff (∀ e ∈ m.entries, P e.1 e.2)
    ⟨fun h k v look => h ⟨k, v⟩ (mem_entries_iff.mpr look),
      fun h e mem => h e.1 e.2 (mem_entries_iff.mp mem)⟩

theorem mem_ordered {m : Table κ ν} {rank : κ → Nat} {k : κ} {v : ν} :
    (k, v) ∈ m.ordered rank ↔ m.lookup k = some v := by
  rw [(ordered_perm rank m).mem_iff, ← mem_entries_iff]
  simp

theorem lookup_mapValues (g : κ → ν → ν) (m : Table κ ν) (k : κ) :
    (mapValues g m).lookup k = (m.lookup k).map (g k) := by
  ext v
  rw [← mem_entries_iff]
  simp only [mapValues, List.mem_map, Option.map_eq_some_iff]
  constructor
  · rintro ⟨⟨k', v'⟩, mem, same⟩
    cases same
    exact ⟨v', mem_entries_iff.mp mem, rfl⟩
  · rintro ⟨v', look, rfl⟩
    exact ⟨⟨k, v'⟩, mem_entries_iff.mpr look, rfl⟩

theorem total_congr {f g : κ → ν → Nat} {m : Table κ ν}
    (h : ∀ k v, m.lookup k = some v → f k v = g k v) : total f m = total g m := by
  unfold total
  congr 1
  exact List.map_congr_left fun e mem => h e.1 e.2 (mem_entries_iff.mp mem)

/-- Inserting under `k` replaces what was there. -/
theorem total_insert (f : κ → ν → Nat) (k : κ) (v : ν) (m : Table κ ν) :
    total f (m.insert k v) = f k v + total f (m.erase k) := by
  simp [total, AList.entries_insert, AList.erase]

theorem entries_perm_erase {k : κ} {v : ν} {m : Table κ ν} (h : m.lookup k = some v) :
    m.entries.Perm (⟨k, v⟩ :: (m.erase k).entries) := by
  have mem : k ∈ m.entries.keys := AList.lookup_isSome.mp (by simp [h])
  obtain ⟨v', before, after, -, split, rest⟩ := List.exists_of_kerase mem
  have look : m.lookup k = some v' := mem_entries_iff.mp (by simp [split])
  obtain rfl : v' = v := by simpa [look] using h
  calc
    m.entries = before ++ ⟨k, v'⟩ :: after := split
    List.Perm _ (⟨k, v'⟩ :: (before ++ after)) := List.perm_middle
    _ = ⟨k, v'⟩ :: (m.erase k).entries := by rw [← rest]; rfl

/-- The entry under `k`, taken out of the sum. -/
theorem total_of_lookup {f : κ → ν → Nat} {k : κ} {v : ν} {m : Table κ ν}
    (h : m.lookup k = some v) : total f m = f k v + total f (m.erase k) := by
  simpa [total] using ((entries_perm_erase h).map fun e => f e.1 e.2).sum_eq

theorem total_of_lookup_none {f : κ → ν → Nat} {m : Table κ ν} (h : ∀ k, m.lookup k = none) :
    total f m = 0 := by
  rw [total_congr (g := fun _ _ => 0) fun k v look => by simp [h k] at look]
  exact total_eq_zero fun _ _ => rfl

theorem le_total {f : κ → ν → Nat} {k : κ} {v : ν} {m : Table κ ν} (h : m.lookup k = some v) :
    f k v ≤ total f m := by
  rw [total_of_lookup h]
  omega

theorem total_erase_of_none {f : κ → ν → Nat} {k : κ} {m : Table κ ν}
    (h : m.lookup k = none) : total f (m.erase k) = total f m := by
  have absent : k ∉ m.entries.keys := AList.lookup_eq_none.mp h
  simp [total, AList.erase, List.kerase_of_notMem_keys absent]

/-- What an insertion adds, with what it replaces on the other side. -/
theorem total_insert_add {f : κ → ν → Nat} {k : κ} {v : ν} {m : Table κ ν} :
    total f (m.insert k v) + ((m.lookup k).elim 0 (f k)) = total f m + f k v := by
  rw [total_insert]
  cases h : m.lookup k with
  | none => simp [total_erase_of_none h, Nat.add_comm]
  | some old => simp [total_of_lookup h]; omega

end Table

/-- Pairs without repetition: a key has the values it is paired with. -/
abbrev Multimap (κ ν : Type) : Type := List (κ × ν)

namespace Multimap
variable {κ ν : Type} [DecidableEq κ] {m : Multimap κ ν} {k l : κ} {v w : ν}

def remove [DecidableEq ν] (k : κ) (v : ν) (m : Multimap κ ν) : Multimap κ ν :=
  m.filter (· ≠ (k, v))

def keys (m : Multimap κ ν) : List κ := (m.map Prod.fst).dedup

/-- The keys in the order of `rank`. -/
def orderedKeys (rank : κ → Nat) (m : Multimap κ ν) : List κ :=
  m.keys.insertionSort fun a b => rank a ≤ rank b

def values (m : Multimap κ ν) (k : κ) : List ν := (m.filter (·.1 = k)).map Prod.snd

@[simp] theorem mem_remove [DecidableEq ν] :
    ((l, w) ∈ m.remove k v) = ((l, w) ∈ m ∧ (l, w) ≠ (k, v)) := by
  simp only [remove, List.mem_filter, decide_eq_true_eq]

@[simp] theorem mem_keys : k ∈ m.keys ↔ ∃ v, (k, v) ∈ m := by
  simp [keys]

@[simp] theorem mem_values : v ∈ m.values k ↔ (k, v) ∈ m := by
  simp [values]

@[simp] theorem mem_orderedKeys {rank : κ → Nat} : k ∈ m.orderedKeys rank ↔ ∃ v, (k, v) ∈ m := by
  simp [orderedKeys]

theorem orderedKeys_nodup {rank : κ → Nat} : (m.orderedKeys rank).Nodup :=
  (List.perm_insertionSort _ _).nodup_iff.mpr (List.nodup_dedup _)

end Multimap

end Foundation
