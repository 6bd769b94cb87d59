import Snaplace.Foundation.Run

/-!
# Implementations of one specification

A specification says of a call, from an abstract state, which answers and which next abstract states
it allows. Two implementations of a specification that allows one answer to each call they meet
answer a sequence of calls alike.

Two handlers of different states end alike if related states lead to related states, and to the same
answer but for what is related of the values.
-/
namespace Foundation

/-- What the caller sees of a call. -/
inductive Answer (ε α : Type) where
  | returned (a : α)
  | failed (e : ε)
  | panicked (msg : String)
  deriving DecidableEq, Repr

variable {σ τ ε α ι A : Type}

def Outcome.answer : Outcome σ ε α → Answer ε α
  | .ok a _ => .returned a
  | .err e _ => .failed e
  | .panic msg _ => .panicked msg

namespace Handler

/-- What the caller sees and what the state stands for are as `P` says. -/
def Post.seen (abs : σ → A) (P : Answer ε α → A → Prop) : Post σ ε α where
  ok a s := P (.returned a) (abs s)
  err e s := P (.failed e) (abs s)
  panic msg s := P (.panicked msg) (abs s)

theorem wp_seen_iff {m : Handler σ ε α} {abs : σ → A} {P : Answer ε α → A → Prop} {s : σ} :
    wp m (Post.seen abs P) s ↔ P (m s).answer (abs (m s).state) := by
  unfold wp
  cases m s <;> rfl

end Handler

/-- The answers of a sequence of calls; a caller that panics does not stop the others. -/
def answers (call : ι → Handler σ ε α) : List ι → σ → List (Answer ε α)
  | [], _ => []
  | i :: rest, s => (call i s).answer :: answers call rest (call i s).state

/-- The state after a sequence of calls. -/
def afterCalls (call : ι → Handler σ ε α) (calls : List ι) (s : σ) : σ :=
  calls.foldl (fun s i => (call i s).state) s

variable {first : ι → Handler σ ε α} {second : ι → Handler τ ε α} {abs : σ → A} {abs' : τ → A}
  {Spec : A → ι → Answer ε α → A → Prop} {C : σ → ι → Prop}

/-- The calls of `call` from `s` are among those that `Spec` allows. -/
def Implements (Spec : A → ι → Answer ε α → A → Prop) (call : ι → Handler σ ε α) (abs : σ → A)
    (s : σ) (i : ι) : Prop :=
  Spec (abs s) i (call i s).answer (abs (call i s).state)

/-- The calls that meet `C` leave no choice, so both implementations answer them alike. -/
theorem answers_eq (one : ∀ s i, C s i → Implements Spec first abs s i)
    (other : ∀ t i, Implements Spec second abs' t i)
    (determined : ∀ s i r a r' a', C s i → Spec (abs s) i r a → Spec (abs s) i r' a' →
      r = r' ∧ a = a') {calls : List ι} {s : σ} {t : τ} (same : abs s = abs' t)
    (all : AllSteps (fun i s => (first i s).state) C calls s) :
    answers first calls s = answers second calls t ∧
      abs (afterCalls first calls s) = abs' (afterCalls second calls t) := by
  induction calls generalizing s t with
  | nil => exact ⟨rfl, same⟩
  | cons i rest ih =>
    obtain ⟨now, later⟩ := all
    have here : Spec (abs s) i _ _ := one s i now
    have there : Spec (abs' t) i _ _ := other t i
    rw [← same] at there
    obtain ⟨answer, next⟩ := determined s i _ _ _ _ now here there
    obtain ⟨rest, last⟩ := ih next later
    exact ⟨congrArg₂ List.cons answer rest, last⟩

/-- Two ends of the same kind, with values and states that are related. -/
inductive Outcome.Alike (R : σ → τ → Prop) {β : Type} (P : α → β → Prop) :
    Outcome σ ε α → Outcome τ ε β → Prop where
  | ok {a : α} {b : β} {s : σ} {t : τ} (values : P a b) (states : R s t) :
      Alike R P (.ok a s) (.ok b t)
  | err (e : ε) {s : σ} {t : τ} (states : R s t) : Alike R P (.err e s) (.err e t)
  | panic (msg : String) {s : σ} {t : τ} (states : R s t) : Alike R P (.panic msg s) (.panic msg t)

namespace Handler

/-- `m` from `s` and `n` from `t` end alike. -/
def Alike (R : σ → τ → Prop) {β : Type} (P : α → β → Prop) (m : Handler σ ε α) (s : σ)
    (n : Handler τ ε β) (t : τ) : Prop :=
  Outcome.Alike R P (m s) (n t)

theorem transaction_eq {ρ : Type} {view : σ → ρ} {restore : ρ → σ → σ} {commit : Handler σ ε Unit}
    {body : Handler σ ε α} {s : σ} :
    transaction view restore commit body s =
      match (do let a ← body; commit; pure a : Handler σ ε α) s with
      | .ok a t => .ok a t
      | .err e t => .err e (restore (view s) t)
      | .panic msg t => .panic msg t := by
  change Handler.bind (attempt _) _ s = _
  unfold Handler.bind attempt
  cases (do let a ← body; commit; pure a : Handler σ ε α) s <;> rfl

namespace Alike
variable {R : σ → τ → Prop} {ε' β α' β' : Type} {P : α → β → Prop} {P' : α' → β' → Prop}
  {m : Handler σ ε α} {n : Handler τ ε β} {f : α → Handler σ ε α'} {g : β → Handler τ ε β'}
  {s : σ} {t : τ}

theorem pure {a : α} {b : β} (values : P a b) (states : R s t) :
    Alike R P (pure a : Handler σ ε α) s (pure b) t :=
  .ok values states

theorem throw (e : ε) (states : R s t) :
    Alike R P (throw e : Handler σ ε α) s (throw e : Handler τ ε β) t :=
  .err e states

theorem modify {h : σ → σ} {k : τ → τ} (states : R (h s) (k t)) :
    Alike R Eq (modify h : Handler σ ε PUnit) s (modify k) t :=
  .ok rfl states

theorem bind (first : Alike R P m s n t)
    (rest : ∀ a b s t, P a b → R s t → Alike R P' (f a) s (g b) t) :
    Alike R P' (m >>= f) s (n >>= g) t := by
  change Outcome.Alike R P' (Handler.bind m f s) (Handler.bind n g t)
  unfold Handler.bind
  unfold Alike at first
  generalize m s = o, n t = o' at first ⊢
  cases first with
  | ok values states => exact rest _ _ _ _ values states
  | err e states => exact .err e states
  | panic msg states => exact .panic msg states

theorem get_bind {f : σ → Handler σ ε α} {g : τ → Handler τ ε β} (rest : Alike R P (f s) s (g t) t) :
    Alike R P (get >>= f) s (get >>= g) t :=
  rest

theorem mapErr (h : ε → ε') (inner : Alike R P m s n t) :
    Alike R P (mapErr h m) s (mapErr h n) t := by
  unfold Alike Handler.mapErr
  unfold Alike at inner
  generalize m s = o, n t = o' at inner ⊢
  cases inner with
  | ok values states => exact .ok values states
  | err e states => exact .err (h e) states
  | panic msg states => exact .panic msg states

theorem fromExcept {r : Except ε α} (states : R s t) :
    Alike R (fun a b => r = .ok a ∧ a = b) (fromExcept r : Handler σ ε α) s (fromExcept r) t := by
  cases r with
  | ok a => exact .ok ⟨rfl, rfl⟩ states
  | error e => exact .err e states

/-- The views that are put back may be of different types. -/
theorem transaction {ρ π : Type} {view : σ → ρ} {restore : ρ → σ → σ} {view' : τ → π}
    {restore' : π → τ → τ} {commit : Handler σ ε Unit} {commit' : Handler τ ε Unit}
    (body : Alike R P m s n t) (commits : ∀ s t, R s t → Alike R Eq commit s commit' t)
    (back : ∀ s' t', R s' t' → R (restore (view s) s') (restore' (view' t) t')) :
    Alike R P (transaction view restore commit m) s (transaction view' restore' commit' n) t := by
  have inner : Alike R P (do let a ← m; commit; Pure.pure a) s
      (do let b ← n; commit'; Pure.pure b) t :=
    body.bind fun a b s t values states =>
      (commits s t states).bind fun _ _ s t _ states => .pure values states
  unfold Alike at inner ⊢
  rw [transaction_eq, transaction_eq]
  generalize (do let a ← m; commit; Pure.pure a : Handler σ ε α) s = o at inner ⊢
  generalize (do let b ← n; commit'; Pure.pure b : Handler τ ε β) t = o' at inner ⊢
  cases inner with
  | ok values states => exact .ok values states
  | err e states => exact .err e (back _ _ states)
  | panic msg states => exact .panic msg states

theorem ite {p : Prop} [Decidable p] {m' : Handler σ ε α} {n' : Handler τ ε β}
    (yes : p → Alike R P m s n t) (no : ¬p → Alike R P m' s n' t) :
    Alike R P (if p then m else m') s (if p then n else n') t := by
  split
  next holds => exact yes holds
  next fails => exact no fails

end Alike

end Handler

end Foundation
