import Mathlib.Tactic

/-!
# Scanning with an index

Loops that walk a sequence with an index, as a scanner written by hand has them. An access outside
the sequence, and an overflow where the build checks for it, ends the scan with a fault.
-/
namespace Foundation

namespace Scan

inductive Fault where
  | bounds
  | overflow
  /-- Not of the program: the loop was not over after the turns that it was given. -/
  | endless
  deriving DecidableEq, Repr

theorem ok_bind {α β : Type} (a : α) (f : α → Except Fault β) : Except.ok a >>= f = f a := rfl

section Accesses
variable {α : Type}

def read (xs : List α) (i : Nat) : Except Fault α :=
  match xs[i]? with
  | some x => .ok x
  | none => .error .bounds

/-- The elements from `first` to before `last`. -/
def slice (xs : List α) (first last : Nat) : Except Fault (List α) :=
  if first ≤ last ∧ last ≤ xs.length then .ok ((xs.drop first).take (last - first))
  else .error .bounds

/-- The first index from `i` on, at which `p` does not hold. -/
def skipWhile (p : α → Bool) (xs : List α) (i : Nat) : Except Fault Nat :=
  if i < xs.length then do
    if p (← read xs i) then skipWhile p xs (i + 1) else pure i
  else pure i
termination_by xs.length - i

variable {p : α → Bool} {xs before run rest : List α} {i first last : Nat}

theorem read_of_lt (h : i < xs.length) : read xs i = .ok xs[i] := by
  rw [read, List.getElem?_eq_getElem h]

theorem slice_of_le (order : first ≤ last) (inside : last ≤ xs.length) :
    slice xs first last = .ok ((xs.drop first).take (last - first)) := by
  rw [slice, if_pos ⟨order, inside⟩]

theorem slice_append (before run rest : List α) :
    slice (before ++ (run ++ rest)) before.length (before ++ run).length = .ok run := by
  rw [slice_of_le (by simp) (by simp)]
  simp

theorem skipWhile_of_le (h : xs.length ≤ i) : skipWhile p xs i = .ok i := by
  rw [skipWhile, if_neg (by omega)]
  rfl

theorem skipWhile_of_lt (h : i < xs.length) :
    skipWhile p xs i = if p xs[i] then skipWhile p xs (i + 1) else .ok i := by
  rw [skipWhile, if_pos h, read_of_lt h]
  rfl

/-- A scan that begins at a run of such elements ends behind it. -/
theorem skipWhile_append (all : ∀ x ∈ run, p x = true) (ends : ∀ x ∈ rest.head?, p x = false) :
    skipWhile p (before ++ (run ++ rest)) before.length = .ok (before ++ run).length := by
  induction run generalizing before with
  | nil =>
    cases rest with
    | nil =>
      simp only [List.append_nil]
      exact skipWhile_of_le le_rfl
    | cons x rest =>
      have off : p x = false := ends x rfl
      rw [skipWhile_of_lt (by simp)]
      simp [off]
  | cons x run ih =>
    have on : p x = true := all x (by simp)
    have shifted := @ih (before ++ [x]) fun y mem => all y (by simp [mem])
    rw [skipWhile_of_lt (by simp)]
    simpa [on] using shifted

/-- A scan ends where it begins if there is no such element there. -/
theorem skipWhile_stays (before : List α) (ends : ∀ x ∈ rest.head?, p x = false) :
    skipWhile p (before ++ rest) before.length = .ok before.length := by
  have none : ∀ x ∈ ([] : List α), p x = true := by simp
  simpa using skipWhile_append none ends

end Accesses

section Arithmetic

/-- The sum of two machine words; `checks` tells whether the build checks for overflow. -/
def add (checks : Bool) (a b : UInt64) : Except Fault UInt64 :=
  if checks ∧ 2 ^ 64 ≤ a.toNat + b.toNat then .error .overflow else .ok (a + b)

def mul (checks : Bool) (a b : UInt64) : Except Fault UInt64 :=
  if checks ∧ 2 ^ 64 ≤ a.toNat * b.toNat then .error .overflow else .ok (a * b)

variable {checks : Bool} {a b : UInt64}

theorem add_of_lt (fits : a.toNat + b.toNat < 2 ^ 64) : add checks a b = .ok (a + b) := by
  rw [add, if_neg (by omega)]

theorem mul_of_lt (fits : a.toNat * b.toNat < 2 ^ 64) : mul checks a b = .ok (a * b) := by
  rw [mul, if_neg (by omega)]

theorem toNat_add_of_lt (fits : a.toNat + b.toNat < 2 ^ 64) :
    (a + b).toNat = a.toNat + b.toNat := by
  rw [UInt64.toNat_add]
  exact Nat.mod_eq_of_lt fits

theorem toNat_mul_of_lt (fits : a.toNat * b.toNat < 2 ^ 64) :
    (a * b).toNat = a.toNat * b.toNat := by
  rw [UInt64.toNat_mul]
  exact Nat.mod_eq_of_lt fits

end Arithmetic

section Loops
variable {σ ω : Type}

/-- What a turn of a loop comes to. -/
inductive Turn (σ ω : Type) where
  | again (s : σ)
  | stop (w : ω)

/-- At most so many turns of a loop. -/
def loop (turn : σ → Except Fault (Turn σ ω)) : Nat → σ → Except Fault ω
  | 0, _ => .error .endless
  | turns + 1, s => do
    match ← turn s with
    | .again s => loop turn turns s
    | .stop w => pure w

/-- No access outside the sequence, and an end in time: only an overflow may be in the way of a result
with `P`. -/
def Bounded {α : Type} (P : α → Prop) : Except Fault α → Prop
  | .ok a => P a
  | .error fault => fault = .overflow

variable {α β : Type} {P : α → Prop} {Q : β → Prop} {turn : σ → Except Fault (Turn σ ω)}

theorem Bounded.bind {m : Except Fault α} {f : α → Except Fault β} (h : Bounded P m)
    (next : ∀ a, P a → Bounded Q (f a)) : Bounded Q (m >>= f) := by
  cases m with
  | ok a => exact next a h
  | error fault => exact h

theorem Bounded.mono {P' : α → Prop} {m : Except Fault α} (h : Bounded P m)
    (weaker : ∀ a, P a → P' a) : Bounded P' m := by
  cases m with
  | ok a => exact weaker a h
  | error fault => exact h

section Sequences
variable {xs : List α} {p : α → Bool} {i first last : Nat}

theorem bounded_read (h : i < xs.length) : Bounded (xs[i]? = some ·) (read xs i) := by
  rw [read_of_lt h]
  exact List.getElem?_eq_getElem h

theorem bounded_slice (order : first ≤ last) (inside : last ≤ xs.length) :
    Bounded (fun _ => True) (slice xs first last) := by
  rw [slice_of_le order inside]
  trivial

/-- The scan is never over the end, stops where `p` does not hold, and goes on where it does. -/
theorem bounded_skipWhile (inside : i ≤ xs.length) :
    Bounded (fun j => i ≤ j ∧ j ≤ xs.length ∧ (∀ x ∈ xs[j]?, p x = false) ∧
      ∀ x ∈ xs[i]?, p x = true → i < j) (skipWhile p xs i) := by
  induction left : xs.length - i generalizing i with
  | zero =>
    have none : xs[i]? = none := List.getElem?_eq_none (by omega)
    rw [skipWhile_of_le (by omega)]
    simp [Bounded, none, inside]
  | succ left ih =>
    rw [skipWhile_of_lt (by omega)]
    split
    next =>
      refine (ih (i := i + 1) (by omega) (by omega)).mono ?_
      intro j ⟨le, inside, stops, _⟩
      exact ⟨by omega, inside, stops, fun _ _ _ => by omega⟩
    next off =>
      have here : xs[i]? = some xs[i] := List.getElem?_eq_getElem (by omega)
      simp [Bounded, here, inside, off]

end Sequences

theorem bounded_add {checks : Bool} {a b : UInt64} : Bounded (fun _ => True) (add checks a b) := by
  unfold add
  split
  · rfl
  · trivial

theorem bounded_mul {checks : Bool} {a b : UInt64} : Bounded (fun _ => True) (mul checks a b) := by
  unfold mul
  split
  · rfl
  · trivial

/-- What a turn must do for the loop to end: the measure goes down whenever there is another one. -/
def Progresses (I : σ → Prop) (measure : σ → Nat) (s : σ) : Turn σ ω → Prop
  | .again t => I t ∧ measure t < measure s
  | .stop _ => True

theorem bounded_loop {I : σ → Prop} {measure : σ → Nat} {turns : Nat} {s : σ}
    (step : ∀ s, I s → Bounded (Progresses I measure s) (turn s)) (holds : I s)
    (enough : measure s < turns) : Bounded (fun _ => True) (loop turn turns s) := by
  induction turns generalizing s with
  | zero => omega
  | succ turns ih =>
    rw [loop]
    refine (step s holds).bind fun next => ?_
    cases next with
    | again t =>
      intro ⟨holds', less⟩
      exact ih holds' (by omega)
    | stop w => exact fun _ => trivial

theorem loop_again {turns : Nat} {s t : σ} (ran : turn s = .ok (.again t)) :
    loop turn (turns + 1) s = loop turn turns t := by
  rw [loop, ran]
  rfl

theorem loop_stop {turns : Nat} {s : σ} {w : ω} (ran : turn s = .ok (.stop w)) :
    loop turn (turns + 1) s = .ok w := by
  rw [loop, ran]
  rfl

end Loops

end Scan

end Foundation
