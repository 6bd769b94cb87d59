import Mathlib.Data.List.Basic
import Mathlib.Data.List.Perm.Basic
import Mathlib.Tactic

/-!
# Shortest fronts

Elements of a list are taken from its front until their weights reach an amount: what is taken is
the shortest front that reaches it, or the whole list if none does, and there is only one such
front. Nothing is taken for the amount zero.
-/
namespace Foundation
variable {α : Type} {weight : α → Nat} {amount : Nat} {order front : List α} {x : α}

def totalWeight (weight : α → Nat) (xs : List α) : Nat := (xs.map weight).sum

@[simp] theorem totalWeight_nil : totalWeight weight [] = 0 := rfl

@[simp] theorem totalWeight_cons : totalWeight weight (x :: order) = weight x + totalWeight weight order :=
  rfl

structure ShortestFront (weight : α → Nat) (amount : Nat) (order front : List α) : Prop where
  isFront : front <+: order
  reaches : amount ≤ totalWeight weight front ∨ front = order
  /-- Without its last element it does not reach the amount. -/
  needed : front ≠ [] → totalWeight weight front.dropLast < amount

namespace ShortestFront

theorem of_nil : ShortestFront weight amount [] [] := ⟨List.nil_prefix, .inr rfl, by simp⟩

theorem zero_iff : ShortestFront weight 0 order front ↔ front = [] := by
  constructor
  · intro h
    by_contra taken
    have := h.needed taken
    omega
  · rintro rfl
    exact ⟨List.nil_prefix, .inl (by simp), by simp⟩

/-- The first element is enough. -/
theorem single (wanted : 0 < amount) (enough : amount ≤ weight x) :
    ShortestFront weight amount (x :: order) [x] := by
  refine ⟨⟨order, rfl⟩, .inl (by simpa using enough), fun _ => ?_⟩
  simpa using wanted

/-- The first element is not enough. -/
theorem cons (short : weight x < amount) (rest : ShortestFront weight (amount - weight x) order front) :
    ShortestFront weight amount (x :: order) (x :: front) := by
  refine ⟨?_, ?_, fun _ => ?_⟩
  · exact List.cons_prefix_cons.mpr ⟨rfl, rest.isFront⟩
  · rcases rest.reaches with enough | all
    · left
      simp only [totalWeight_cons]
      omega
    · exact .inr (by rw [all])
  · cases front with
    | nil => simpa using Nat.lt_of_le_of_lt (Nat.zero_le _) short
    | cons y front =>
      have := rest.needed (by simp)
      simp only [List.dropLast_cons_cons, totalWeight_cons] at *
      omega

theorem nodup (h : ShortestFront weight amount order front) (distinct : order.Nodup) : front.Nodup :=
  distinct.sublist h.isFront.sublist

theorem le_of_front {xs ys : List α} (h : xs <+: ys) :
    totalWeight weight xs ≤ totalWeight weight ys := by
  obtain ⟨rest, rfl⟩ := h
  simp [totalWeight]

/-- A longer front would not need its last element. -/
theorem eq_of_shorter {other : List α} (h : ShortestFront weight amount order front)
    (h' : ShortestFront weight amount order other) (shorter : front <+: other) : front = other := by
  by_contra differ
  rcases h.reaches with enough | all
  · have some : other ≠ [] := by
      rintro rfl
      exact differ (List.prefix_nil.mp shorter)
    have inner : front <+: other.dropLast := by
      obtain ⟨rest, rfl⟩ := shorter
      have left : rest ≠ [] := by
        rintro rfl
        simp at differ
      rw [List.dropLast_append_of_ne_nil left]
      exact List.prefix_append _ _
    have := h'.needed some
    have : totalWeight weight front ≤ totalWeight weight other.dropLast := le_of_front inner
    omega
  · subst all
    exact differ (shorter.eq_of_length_le h'.isFront.length_le)

/-- There is only one such front. -/
theorem unique {other : List α} (h : ShortestFront weight amount order front)
    (h' : ShortestFront weight amount order other) : front = other := by
  rcases Nat.le_total front.length other.length with shorter | longer
  · exact eq_of_shorter h h' (List.prefix_of_prefix_length_le h.isFront h'.isFront shorter)
  · exact (eq_of_shorter h' h (List.prefix_of_prefix_length_le h'.isFront h.isFront longer)).symm

end ShortestFront
end Foundation
