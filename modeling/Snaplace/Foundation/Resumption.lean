import Snaplace.Foundation.Handler

/-!
# Handlers cut into atomic steps

A resumption is a handler that others can interrupt between its steps. Run without interruption it
is a handler again; `Safe` is its weakest precondition when, before each step, the state may change
as a relation allows, which can depend on what the resumption holds at that step.
-/
namespace Foundation

/-- A handler with the points at which it can be interrupted, and what it holds at each. -/
inductive Resumption (η σ ε α : Type) where
  | ret (a : α)
  | err (e : ε)
  | panic (msg : String)
  | step (held : η) (state : σ → σ) (next : σ → Resumption η σ ε α)

namespace Resumption
variable {η σ ε ε' α β : Type}

protected def bind : Resumption η σ ε α → (α → Resumption η σ ε β) → Resumption η σ ε β
  | ret a, f => f a
  | err e, _ => err e
  | panic msg, _ => panic msg
  | step held state next, f => step held state fun s => (next s).bind f

instance : Monad (Resumption η σ ε) where
  pure := ret
  bind := Resumption.bind

def ofOutcome : Outcome σ ε α → Resumption η σ ε α
  | .ok a _ => ret a
  | .err e _ => err e
  | .panic msg _ => panic msg

/-- A handler that is not interrupted, as one step. -/
def atomic (held : η) (m : Handler σ ε α) : Resumption η σ ε α :=
  step held (fun s => (m s).state) fun s => ofOutcome (m s)

def throw (e : ε) : Resumption η σ ε α := err e

def attempt : Resumption η σ ε α → Resumption η σ ε' (Except ε α)
  | ret a => ret (.ok a)
  | err e => ret (.error e)
  | panic msg => panic msg
  | step held state next => step held state fun s => (next s).attempt

def mapErr (f : ε → ε') : Resumption η σ ε α → Resumption η σ ε' α
  | ret a => ret a
  | err e => err (f e)
  | panic msg => panic msg
  | step held state next => step held state fun s => (next s).mapErr f

/-- What is held at the next step. -/
def held? : Resumption η σ ε α → Option η
  | step held _ _ => some held
  | _ => none

/-! ## Runs without interruption -/

def run : Resumption η σ ε α → Handler σ ε α
  | ret a => fun s => .ok a s
  | err e => fun s => .err e s
  | panic msg => fun s => .panic msg s
  | step _ state next => fun s => (next s).run (state s)

@[simp] theorem run_pure (a : α) : (pure a : Resumption η σ ε α).run = pure a := rfl

@[simp] theorem run_throw (e : ε) :
    (throw e : Resumption η σ ε α).run = MonadExcept.throw e := rfl

@[simp] theorem run_bind (x : Resumption η σ ε α) (f : α → Resumption η σ ε β) :
    (x >>= f).run = x.run >>= fun a => (f a).run := by
  change (x.bind f).run = Handler.bind x.run fun a => (f a).run
  funext s
  induction x generalizing s with
  | ret a => rfl
  | err e => rfl
  | panic msg => rfl
  | step held state next ih => exact ih s (state s)

@[simp] theorem run_atomic (held : η) (m : Handler σ ε α) : (atomic held m).run = m := by
  funext s
  change (ofOutcome (m s) : Resumption η σ ε α).run (m s).state = m s
  cases m s <;> rfl

@[simp] theorem run_attempt (x : Resumption η σ ε α) :
    (x.attempt : Resumption η σ ε' (Except ε α)).run = Handler.attempt x.run := by
  funext s
  induction x generalizing s with
  | ret a => rfl
  | err e => rfl
  | panic msg => rfl
  | step held state next ih => exact ih s (state s)

theorem attempt_atomic (held : η) (m : Handler σ ε α) :
    (atomic held m).attempt = (atomic held (Handler.attempt m) : Resumption η σ ε' _) := by
  have next (s : σ) : (ofOutcome (m s) : Resumption η σ ε α).attempt =
      (ofOutcome (Handler.attempt m s) : Resumption η σ ε' _) := by
    unfold Handler.attempt
    cases m s <;> rfl
  have state (s : σ) : (Handler.attempt m s : Outcome σ ε' _).state = (m s).state := by
    unfold Handler.attempt
    cases m s <;> rfl
  simp only [atomic, attempt, next, state]

@[simp] theorem run_mapErr (f : ε → ε') (x : Resumption η σ ε α) :
    (x.mapErr f).run = Handler.mapErr f x.run := by
  funext s
  induction x generalizing s with
  | ret a => rfl
  | err e => rfl
  | panic msg => rfl
  | step held state next ih => exact ih s (state s)

@[simp] theorem run_forM (xs : List α) (f : α → Resumption η σ ε PUnit) :
    (forM xs f).run = forM xs fun x => (f x).run := by
  induction xs with
  | nil => rfl
  | cons x xs ih =>
    rw [List.forM_cons, List.forM_cons, run_bind]
    congr 1
    funext _
    exact ih

@[simp] theorem run_ite (p : Prop) [Decidable p] (x y : Resumption η σ ε α) :
    (if p then x else y).run = if p then x.run else y.run := by
  split <;> rfl

/-! ## Interference -/

section Safe
variable {R : η → σ → σ → Prop} {G : σ → σ → Prop} {Q : Handler.Post σ ε α} {s : σ}

/-- Started in `s`, with interference as `R` allows before each step, the resumption ends as `Q`
says, and each of its own steps is one of `G`. -/
def Safe (R : η → σ → σ → Prop) (G : σ → σ → Prop) :
    Resumption η σ ε α → Handler.Post σ ε α → σ → Prop
  | ret a, Q, s => Q.ok a s
  | err e, Q, s => Q.err e s
  | panic msg, Q, s => Q.panic msg s
  | step held state next, Q, s =>
    ∀ t, R held s t → G t (state t) ∧ (next t).Safe R G Q (state t)

@[simp] theorem safe_pure (a : α) : (pure a : Resumption η σ ε α).Safe R G Q s ↔ Q.ok a s := Iff.rfl

@[simp] theorem safe_throw (e : ε) : (throw e : Resumption η σ ε α).Safe R G Q s ↔ Q.err e s :=
  Iff.rfl

@[simp] theorem safe_bind (x : Resumption η σ ε α) (f : α → Resumption η σ ε β)
    {Q : Handler.Post σ ε β} :
    (x >>= f).Safe R G Q s ↔
      x.Safe R G
        { ok := fun a t => (f a).Safe R G Q t, err := Q.err, panic := Q.panic } s := by
  change (x.bind f).Safe R G Q s ↔ _
  induction x generalizing s with
  | ret a => rfl
  | err e => rfl
  | panic msg => rfl
  | step held state next ih =>
    exact forall_congr' fun t => imp_congr_right fun _ => and_congr_right fun _ => ih t

@[simp] theorem safe_attempt (x : Resumption η σ ε α) {Q : Handler.Post σ ε' (Except ε α)} :
    x.attempt.Safe R G Q s ↔
      x.Safe R G
        { ok := fun a => Q.ok (.ok a), err := fun e => Q.ok (.error e), panic := Q.panic } s := by
  induction x generalizing s with
  | ret a => rfl
  | err e => rfl
  | panic msg => rfl
  | step held state next ih =>
    exact forall_congr' fun t => imp_congr_right fun _ => and_congr_right fun _ => ih t

@[simp] theorem safe_mapErr (f : ε → ε') (x : Resumption η σ ε α) {Q : Handler.Post σ ε' α} :
    (x.mapErr f).Safe R G Q s ↔
      x.Safe R G { ok := Q.ok, err := fun e => Q.err (f e), panic := Q.panic } s := by
  induction x generalizing s with
  | ret a => rfl
  | err e => rfl
  | panic msg => rfl
  | step held state next ih =>
    exact forall_congr' fun t => imp_congr_right fun _ => and_congr_right fun _ => ih t

/-- One step: the handler's weakest precondition in every state the interference can lead to. -/
theorem safe_atomic {held : η} {m : Handler σ ε α}
    (h : ∀ t, R held s t → Handler.wp m
      { ok := fun a u => G t u ∧ Q.ok a u, err := fun e u => G t u ∧ Q.err e u,
        panic := fun msg u => G t u ∧ Q.panic msg u } t) :
    (atomic held m).Safe R G Q s := by
  intro t interferes
  have one := h t interferes
  unfold Handler.wp at one
  change G t (m t).state ∧ (ofOutcome (m t)).Safe R G Q (m t).state
  cases ran : m t <;> rw [ran] at one <;> exact one

theorem Safe.mono {x : Resumption η σ ε α} {P : Handler.Post σ ε α} (h : x.Safe R G P s)
    (ok : ∀ a t, P.ok a t → Q.ok a t) (err : ∀ e t, P.err e t → Q.err e t)
    (panic : ∀ msg t, P.panic msg t → Q.panic msg t) : x.Safe R G Q s := by
  induction x generalizing s with
  | ret a => exact ok a s h
  | err e => exact err e s h
  | panic msg => exact panic msg s h
  | step held state next ih =>
    intro t interferes
    obtain ⟨own, rest⟩ := h t interferes
    exact ⟨own, ih t rest⟩

/-- The specification of the first of two resumptions in sequence. -/
theorem safe_seq {x : Resumption η σ ε α} {f : α → Resumption η σ ε β}
    {P : Handler.Post σ ε α} {Q : Handler.Post σ ε β} (h : x.Safe R G P s)
    (ok : ∀ a t, P.ok a t → (f a).Safe R G Q t) (err : ∀ e t, P.err e t → Q.err e t)
    (panic : ∀ msg t, P.panic msg t → Q.panic msg t) : (x >>= f).Safe R G Q s :=
  (safe_bind x f).mpr (h.mono ok err panic)

/-- A loop keeps what each turn of its body keeps. -/
theorem safe_forM {I : σ → Prop} {f : α → Resumption η σ ε PUnit} {Q : Handler.Post σ ε PUnit}
    {xs : List α} (init : I s) (done : ∀ t, I t → Q.ok ⟨⟩ t)
    (turn : ∀ x ∈ xs, ∀ t, I t →
      (f x).Safe R G { ok := fun _ => I, err := Q.err, panic := Q.panic } t) :
    (forM xs f).Safe R G Q s := by
  induction xs generalizing s with
  | nil => exact done s init
  | cons x xs ih =>
    rw [List.forM_cons]
    refine safe_seq (turn x (by simp) s init) ?_ (fun _ _ h => h) (fun _ _ h => h)
    intro _ t kept
    exact ih kept fun y mem => turn y (by simp [mem])

/-- Interference at the point that a resumption has come to leaves it safe. -/
theorem Safe.interfered {held : η} {state : σ → σ} {next : σ → Resumption η σ ε α} {t : σ}
    (trans : ∀ t u, R held s t → R held t u → R held s u)
    (h : (step held state next).Safe R G Q s) (interferes : R held s t) :
    (step held state next).Safe R G Q t :=
  fun u later => h u (trans t u interferes later)

end Safe

end Resumption
end Foundation
