import Mathlib.Tactic

/-!
# Fallible handlers and their weakest preconditions

A handler runs on a state and either returns a value, returns a recoverable error, or panics.
An error keeps the state it was raised in: nothing is rolled back unless the code does so.
`wp` pushes a postcondition through a handler; loops over a list are met by an invariant rule.
-/
namespace Foundation

/-- How a handler ends, always with the state it left behind. -/
inductive Outcome (σ ε α : Type) where
  | ok (a : α) (s : σ)
  | err (e : ε) (s : σ)
  | panic (msg : String) (s : σ)
  deriving DecidableEq, Repr

namespace Outcome
variable {σ ε α : Type}

/-- The state left behind, however the handler ended. -/
def state : Outcome σ ε α → σ
  | .ok _ s => s
  | .err _ s => s
  | .panic _ s => s

@[simp] theorem state_ok (a : α) (s : σ) : (ok a s : Outcome σ ε α).state = s := rfl
@[simp] theorem state_err (e : ε) (s : σ) : (err e s : Outcome σ ε α).state = s := rfl
@[simp] theorem state_panic (m : String) (s : σ) : (panic m s : Outcome σ ε α).state = s := rfl

end Outcome

def Handler (σ ε α : Type) : Type := σ → Outcome σ ε α

@[simp] theorem mapError_eq_ok {ε ε' α : Type} (f : ε → ε') (r : Except ε α) (a : α) :
    (r.mapError f = .ok a) = (r = .ok a) := by
  cases r <;> simp [Except.mapError]

@[simp] theorem mapError_eq_error {ε ε' α : Type} (f : ε → ε') (r : Except ε α) (e : ε') :
    (r.mapError f = .error e) = ∃ source, r = .error source ∧ f source = e := by
  cases r <;> simp [Except.mapError]

@[simp] theorem exceptMap_eq_ok {ε α β : Type} (f : α → β) (r : Except ε α) (b : β) :
    (r.map f = .ok b) = ∃ a, r = .ok a ∧ f a = b := by
  cases r <;> simp [Except.map]

theorem exceptBind_eq_ok {ε α β : Type} (f : α → Except ε β) (r : Except ε α) (b : β) :
    r >>= f = .ok b ↔ ∃ a, r = .ok a ∧ f a = .ok b := by
  cases r <;> simp [bind, Except.bind]

namespace Handler
variable {σ ε ε' α β : Type}

protected def bind (m : Handler σ ε α) (f : α → Handler σ ε β) : Handler σ ε β := fun s =>
  match m s with
  | .ok a s => f a s
  | .err e s => .err e s
  | .panic msg s => .panic msg s

instance : Monad (Handler σ ε) where
  pure a := fun s => .ok a s
  bind := Handler.bind

instance : LawfulMonad (Handler σ ε) :=
  have id_map {α : Type} (m : Handler σ ε α) : id <$> m = m := by
    funext s
    change Handler.bind m _ s = m s
    unfold Handler.bind
    cases m s <;> rfl
  have bind_assoc {α β γ : Type} (m : Handler σ ε α) (f : α → Handler σ ε β)
      (g : β → Handler σ ε γ) : m >>= f >>= g = m >>= fun a => f a >>= g := by
    funext s
    change Handler.bind (Handler.bind m f) g s = Handler.bind m (fun a => Handler.bind (f a) g) s
    unfold Handler.bind
    cases m s <;> rfl
  .mk' _ id_map (fun _ _ => rfl) bind_assoc

instance : MonadStateOf σ (Handler σ ε) where
  get := fun s => .ok s s
  set t := fun _ => .ok () t
  modifyGet f := fun s => .ok (f s).1 (f s).2

instance : MonadExceptOf ε (Handler σ ε) where
  throw e := fun s => .err e s
  tryCatch m f := fun s =>
    match m s with
    | .err e s => f e s
    | r => r

/-- A failed assertion or an `unreachable!`: not recoverable by the caller. -/
def panicWith (msg : String) : Handler σ ε α := fun s => .panic msg s

/-- Run a handler and hand its error to the caller as a value. -/
def attempt (m : Handler σ ε α) : Handler σ ε' (Except ε α) := fun s =>
  match m s with
  | .ok a s => .ok (.ok a) s
  | .err e s => .ok (.error e) s
  | .panic msg s => .panic msg s

def mapErr (f : ε → ε') (m : Handler σ ε α) : Handler σ ε' α := fun s =>
  match m s with
  | .ok a s => .ok a s
  | .err e s => .err (f e) s
  | .panic msg s => .panic msg s

def fromExcept : Except ε α → Handler σ ε α
  | .ok a => pure a
  | .error e => throw e

def expect (msg : String) : Option α → Handler σ ε α
  | some a => pure a
  | none => panicWith msg

def require (p : Prop) [Decidable p] (msg : String) : Handler σ ε Unit :=
  if p then pure () else panicWith msg

/-- Fail if there is an error. -/
def refuse (wrap : ε → ε') : Option ε → Handler σ ε' Unit
  | none => pure ()
  | some e => throw (wrap e)

/-- Undo what was done before, if the step fails. -/
def orUndo (wrap : ε → ε') (undo : Handler σ ε' Unit) (step : Handler σ ε α) : Handler σ ε' α := do
  match ← attempt step with
  | .ok a => pure a
  | .error e =>
    undo
    throw (wrap e)

/-- That the step fails is of no consequence, and only logged. -/
def logged (step : Handler σ ε Unit) : Handler σ ε' Unit := do
  let _ ← attempt step
  pure ()

/-- Run a handler on a part of the state. -/
def focus {τ : Type} (part : τ → σ) (put : σ → τ → τ) (m : Handler σ ε α) : Handler τ ε α := fun t =>
  match m (part t) with
  | .ok a s => .ok a (put s t)
  | .err e s => .err e (put s t)
  | .panic msg s => .panic msg (put s t)

/-- A postcondition: one predicate for each way of ending. -/
structure Post (σ ε α : Type) where
  ok : α → σ → Prop
  err : ε → σ → Prop
  panic : String → σ → Prop := fun _ _ => False

def Post.holds (Q : Post σ ε α) : Outcome σ ε α → Prop
  | .ok a s => Q.ok a s
  | .err e s => Q.err e s
  | .panic msg s => Q.panic msg s

/-- The same predicate on the final state, however the handler ends, and no panic. -/
def Post.state (P : σ → Prop) : Post σ ε α := { ok := fun _ => P, err := fun _ => P }

/-- From `s` the handler ends as `Q` says. -/
def wp (m : Handler σ ε α) (Q : Post σ ε α) (s : σ) : Prop := Q.holds (m s)

/-- The handler panics. -/
def Post.panics : Post σ ε α where
  ok _ _ := False
  err _ _ := False
  panic _ _ := True

theorem wp_panics_iff (m : Handler σ ε α) (s : σ) : wp m Post.panics s ↔ ∃ msg t, m s = .panic msg t := by
  unfold wp
  cases m s <;> simp [Post.holds, Post.panics]

/-- What holds if the handler returns a value; nothing is said of an error or a panic. -/
def Post.onOk (P : α → σ → Prop) : Post σ ε α where
  ok := P
  err _ _ := True
  panic _ _ := True

theorem wp_onOk_iff {m : Handler σ ε α} {P : α → σ → Prop} {s : σ} :
    wp m (Post.onOk P) s ↔ ∀ a t, m s = .ok a t → P a t := by
  unfold wp
  cases m s <;> simp [Post.holds, Post.onOk]

-- The rules are equations, but not by `rfl`: as definitional ones they would be used inside the
-- values that handlers compute as well.
@[simp] theorem wp_pure (a : α) (Q : Post σ ε α) (s : σ) : wp (pure a) Q s = Q.ok a s :=
  propext Iff.rfl

@[simp] theorem wp_bind (m : Handler σ ε α) (f : α → Handler σ ε β) (Q : Post σ ε β) (s : σ) :
    wp (m >>= f) Q s =
      wp m { ok := fun a t => wp (f a) Q t, err := Q.err, panic := Q.panic } s := by
  change Q.holds (Handler.bind m f s) = _
  unfold wp Handler.bind
  cases m s <;> rfl

@[simp] theorem wp_map (g : α → β) (m : Handler σ ε α) (Q : Post σ ε β) (s : σ) :
    wp (g <$> m) Q s =
      wp m { ok := fun a t => Q.ok (g a) t, err := Q.err, panic := Q.panic } s :=
  wp_bind m (fun a => pure (g a)) Q s

@[simp] theorem wp_get (Q : Post σ ε σ) (s : σ) : wp get Q s = Q.ok s s := propext Iff.rfl

@[simp] theorem wp_set (t : σ) (Q : Post σ ε PUnit) (s : σ) : wp (set t) Q s = Q.ok ⟨⟩ t :=
  propext Iff.rfl

@[simp] theorem wp_modify (f : σ → σ) (Q : Post σ ε PUnit) (s : σ) :
    wp (modify f) Q s = Q.ok ⟨⟩ (f s) := propext Iff.rfl

@[simp] theorem wp_modifyGet (f : σ → α × σ) (Q : Post σ ε α) (s : σ) :
    wp (modifyGet f) Q s = Q.ok (f s).1 (f s).2 := propext Iff.rfl

@[simp] theorem wp_throw (e : ε) (Q : Post σ ε α) (s : σ) : wp (throw e) Q s = Q.err e s :=
  propext Iff.rfl

@[simp] theorem wp_panicWith (msg : String) (Q : Post σ ε α) (s : σ) :
    wp (panicWith msg) Q s = Q.panic msg s := propext Iff.rfl

@[simp] theorem wp_attempt (m : Handler σ ε α) (Q : Post σ ε' (Except ε α)) (s : σ) :
    wp (attempt m) Q s =
      wp m { ok := fun a => Q.ok (.ok a), err := fun e => Q.ok (.error e), panic := Q.panic } s := by
  unfold wp attempt
  cases m s <;> rfl

@[simp] theorem wp_mapErr (f : ε → ε') (m : Handler σ ε α) (Q : Post σ ε' α) (s : σ) :
    wp (mapErr f m) Q s =
      wp m { ok := Q.ok, err := fun e => Q.err (f e), panic := Q.panic } s := by
  unfold wp mapErr
  cases m s <;> rfl

@[simp] theorem wp_refuse (wrap : ε → ε') (o : Option ε) (Q : Post σ ε' Unit) (s : σ) :
    wp (refuse wrap o) Q s = ((o = none → Q.ok () s) ∧ ∀ e, o = some e → Q.err (wrap e) s) := by
  cases o <;> simp [refuse]

@[simp] theorem wp_orUndo (wrap : ε → ε') (undo : Handler σ ε' Unit) (step : Handler σ ε α)
    (Q : Post σ ε' α) (s : σ) :
    wp (orUndo wrap undo step) Q s =
      wp step
        { ok := Q.ok
          err := fun e => wp undo { ok := fun _ => Q.err (wrap e), err := Q.err, panic := Q.panic }
          panic := Q.panic } s := by
  unfold orUndo
  rw [wp_bind, wp_attempt]
  unfold wp
  cases step s with
  | ok a t => rfl
  | err e t => exact wp_bind undo (fun _ => throw (wrap e)) Q t
  | panic msg t => rfl

@[simp] theorem wp_logged (step : Handler σ ε Unit) (Q : Post σ ε' Unit) (s : σ) :
    wp (logged step) Q s =
      wp step { ok := fun _ => Q.ok (), err := fun _ => Q.ok (), panic := Q.panic } s := by
  unfold logged
  rw [wp_bind, wp_attempt]
  rfl

@[simp] theorem wp_focus {τ : Type} (part : τ → σ) (put : σ → τ → τ) (m : Handler σ ε α)
    (Q : Post τ ε α) (t : τ) :
    wp (focus part put m) Q t =
      wp m { ok := fun a s => Q.ok a (put s t), err := fun e s => Q.err e (put s t),
             panic := fun msg s => Q.panic msg (put s t) } (part t) := by
  unfold wp focus
  cases m (part t) <;> rfl

@[simp] theorem wp_fromExcept (r : Except ε α) (Q : Post σ ε α) (s : σ) :
    wp (fromExcept r) Q s =
      ((∀ a, r = .ok a → Q.ok a s) ∧ ∀ e, r = .error e → Q.err e s) := by
  cases r <;> simp [fromExcept]

@[simp] theorem wp_expect (msg : String) (o : Option α) (Q : Post σ ε α) (s : σ) :
    wp (expect msg o) Q s = ((∀ a, o = some a → Q.ok a s) ∧ (o = none → Q.panic msg s)) := by
  cases o <;> simp [expect]

@[simp] theorem wp_require (p : Prop) [Decidable p] (msg : String) (Q : Post σ ε Unit) (s : σ) :
    wp (require p msg) Q s = ((p → Q.ok () s) ∧ (¬p → Q.panic msg s)) := by
  unfold require
  split <;> simp_all

@[simp] theorem wp_ite (p : Prop) [Decidable p] (m n : Handler σ ε α) (Q : Post σ ε α) (s : σ) :
    wp (if p then m else n) Q s = ((p → wp m Q s) ∧ (¬p → wp n Q s)) := by
  split <;> simp_all

theorem mapErr_bind (g : ε → ε') (m : Handler σ ε α) (f : α → Handler σ ε β) :
    mapErr g (m >>= f) = mapErr g m >>= fun a => mapErr g (f a) := by
  funext s
  change mapErr g (Handler.bind m f) s = Handler.bind (mapErr g m) (fun a => mapErr g (f a)) s
  unfold Handler.bind mapErr
  dsimp only
  cases m s <;> rfl

theorem mapErr_pure (g : ε → ε') (a : α) : mapErr g (pure a : Handler σ ε α) = pure a := rfl

theorem fromExcept_bind (r : Except ε α) (f : α → Except ε β) :
    (fromExcept (r >>= f) : Handler σ ε β) = fromExcept r >>= fun a => fromExcept (f a) := by
  cases r <;> rfl

theorem fromExcept_pure (a : α) : (fromExcept (pure a) : Handler σ ε α) = pure a := rfl

theorem bind_of_ok {m : Handler σ ε α} {f : α → Handler σ ε β} {a : α} {s t : σ}
    (h : m s = .ok a t) : (m >>= f) s = f a t := by
  change Handler.bind m f s = f a t
  unfold Handler.bind
  rw [h]

/-- Two continuations that agree on whatever the first handler returns. -/
theorem bind_congr_of_wp {m : Handler σ ε α} {f g : α → Handler σ ε β} {s : σ}
    (h : wp m { ok := fun a t => f a t = g a t, err := fun _ _ => True, panic := fun _ _ => True } s) :
    (m >>= f) s = (m >>= g) s := by
  change Handler.bind m f s = Handler.bind m g s
  unfold wp at h
  unfold Handler.bind
  cases ran : m s with
  | ok a t =>
    rw [ran] at h
    exact h
  | err e t => rfl
  | panic msg t => rfl

/-- What holds of the final state however the handler ends. -/
theorem state_of_wp {m : Handler σ ε α} {P : σ → Prop} {s : σ} (h : wp m (Post.state P) s) :
    P (m s).state := by
  unfold wp at h
  cases ran : m s <;> rw [ran] at h
  · exact h
  · exact h
  · exact h.elim

theorem state_eq_of_wp {m : Handler σ ε α} {s t : σ} (h : wp m (Post.state (· = t)) s) :
    (m s).state = t :=
  state_of_wp h

theorem ok_of_wp {m : Handler σ ε α} {Q : Post σ ε α} {a : α} {s t : σ} (h : wp m Q s)
    (ran : m s = .ok a t) : Q.ok a t := by
  unfold wp at h
  rwa [ran] at h

theorem err_of_wp {m : Handler σ ε α} {Q : Post σ ε α} {e : ε} {s t : σ} (h : wp m Q s)
    (ran : m s = .err e t) : Q.err e t := by
  unfold wp at h
  rwa [ran] at h

theorem eq_ok_of_wp {m : Handler σ ε α} {a : α} {s t : σ}
    (h : wp m { ok := fun b u => b = a ∧ u = t, err := fun _ _ => False } s) : m s = .ok a t := by
  unfold wp at h
  cases ran : m s <;> rw [ran] at h
  · obtain ⟨rfl, rfl⟩ := h
    rfl
  · exact h.elim
  · exact h.elim

theorem eq_err_of_wp {m : Handler σ ε α} {e : ε} {s t : σ}
    (h : wp m { ok := fun _ _ => False, err := fun f u => f = e ∧ u = t } s) : m s = .err e t := by
  unfold wp at h
  cases ran : m s <;> rw [ran] at h
  · exact h.elim
  · obtain ⟨rfl, rfl⟩ := h
    rfl
  · exact h.elim

/-- Weaken a postcondition. -/
theorem wp_mono {m : Handler σ ε α} {P Q : Post σ ε α} {s : σ} (h : wp m P s)
    (ok : ∀ a t, P.ok a t → Q.ok a t) (err : ∀ e t, P.err e t → Q.err e t)
    (panic : ∀ msg t, P.panic msg t → Q.panic msg t) : wp m Q s := by
  unfold wp at *
  cases hm : m s with
  | ok a t => rw [hm] at h; exact ok a t h
  | err e t => rw [hm] at h; exact err e t h
  | panic msg t => rw [hm] at h; exact panic msg t h

/-- Use the specification of the first of two handlers run in sequence. -/
theorem wp_seq {m : Handler σ ε α} {f : α → Handler σ ε β} {P : Post σ ε α} {Q : Post σ ε β}
    {s : σ} (h : wp m P s) (ok : ∀ a t, P.ok a t → wp (f a) Q t)
    (err : ∀ e t, P.err e t → Q.err e t) (panic : ∀ msg t, P.panic msg t → Q.panic msg t) :
    wp (m >>= f) Q s :=
  (wp_bind m f Q s).mpr (wp_mono h ok err panic)

theorem wp_and {m : Handler σ ε α} {P Q : Post σ ε α} {s : σ} (hp : wp m P s) (hq : wp m Q s) :
    wp m { ok := fun a t => P.ok a t ∧ Q.ok a t, err := fun e t => P.err e t ∧ Q.err e t,
           panic := fun msg t => P.panic msg t ∧ Q.panic msg t } s := by
  unfold wp at *
  cases hm : m s <;> rw [hm] at hp hq <;> exact ⟨hp, hq⟩

/-- A loop over a list, by an invariant of what is left of it. -/
theorem wp_forM_rest {I : List α → σ → Prop} {Q : Post σ ε PUnit} {f : α → Handler σ ε PUnit}
    {xs : List α} {s : σ} (init : I xs s) (done : ∀ t, I [] t → Q.ok ⟨⟩ t)
    (turn : ∀ x rest t, x ∈ xs → I (x :: rest) t →
      wp (f x) { ok := fun _ => I rest, err := Q.err, panic := Q.panic } t) :
    wp (forM xs f) Q s := by
  induction xs generalizing s with
  | nil => exact done s init
  | cons x xs ih =>
    rw [List.forM_cons]
    refine wp_seq (turn x xs s (by simp) init) ?_ (fun _ _ h => h) (fun _ _ h => h)
    intro _ t ht
    exact ih ht fun y rest u mem => turn y rest u (by simp [mem])

/-- A loop over a list keeps what each turn of its body keeps. -/
theorem wp_forM {I : σ → Prop} {Q : Post σ ε PUnit} {f : α → Handler σ ε PUnit} {xs : List α}
    {s : σ} (init : I s) (done : ∀ t, I t → Q.ok ⟨⟩ t)
    (turn : ∀ x ∈ xs, ∀ t, I t →
      wp (f x) { ok := fun _ => I, err := Q.err, panic := Q.panic } t) :
    wp (forM xs f) Q s :=
  wp_forM_rest (I := fun _ => I) init done fun x _ t mem => turn x mem t

/-- A write transaction over a part of the state, its view: run `body` and then `commit`; after an
error of either, put the view back. -/
def transaction {τ : Type} (view : σ → τ) (restore : τ → σ → σ) (commit : Handler σ ε Unit)
    (body : Handler σ ε α) : Handler σ ε α := do
  let before := view (← get)
  match ← attempt (do
    let a ← body
    commit
    pure a) with
  | .ok a => pure a
  | .error e => do
    modify (restore before)
    throw e

@[simp] theorem wp_transaction {τ : Type} {view : σ → τ} {restore : τ → σ → σ}
    {commit : Handler σ ε Unit} {body : Handler σ ε α} {Q : Post σ ε α} {s : σ} :
    wp (transaction view restore commit body) Q s =
      wp body
        { ok := fun a => wp commit
            { ok := fun _ => Q.ok a, err := fun e t => Q.err e (restore (view s) t),
              panic := Q.panic }
          err := fun e t => Q.err e (restore (view s) t)
          panic := Q.panic } s := by
  simp [transaction]

end Handler
end Foundation
