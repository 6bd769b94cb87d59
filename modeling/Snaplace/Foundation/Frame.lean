import Snaplace.Foundation.Run

/-!
# Frames of handlers

What a handler leaves as it was, or changes in one direction only, is a preorder between the state
before it and the state after it. A handler keeps the preorder if all its parts do. In the same way
it keeps an invariant, and stays clear of one panic, if all its parts do from states with the
invariant.
-/
namespace Foundation.Handler
variable {σ ε ε' α β : Type} {R S T : σ → σ → Prop}

/-- The same predicate on the final state, however the handler ends. -/
def Post.all (P : σ → Prop) : Post σ ε α where
  ok _ := P
  err _ := P
  panic _ := P

theorem wp_all_iff {m : Handler σ ε α} {P : σ → Prop} {s : σ} :
    wp m (Post.all P) s ↔ P (m s).state := by
  unfold wp
  cases m s <;> rfl

/-- However the handler ends, the state it leaves is related to the one it started in. -/
def Keeps (R : σ → σ → Prop) (m : Handler σ ε α) : Prop := ∀ s, R s (m s).state

namespace Keeps
variable {m : Handler σ ε α} {f : α → Handler σ ε β}

theorem of_wp (h : ∀ s, wp m (Post.all (R s)) s) : Keeps R m := fun s => wp_all_iff.mp (h s)

theorem wp (h : Keeps R m) (s : σ) : wp m (Post.all (R s)) s := wp_all_iff.mpr (h s)

theorem mono (h : Keeps R m) (weaker : ∀ s t, R s t → S s t) : Keeps S m :=
  fun s => weaker s _ (h s)

/-- One frame after another. -/
theorem comp [Std.Refl S] (then_ : ∀ s t u, R s t → S t u → T s u) (first : Keeps R m)
    (rest : ∀ a, Keeps S (f a)) : Keeps T (m >>= f) := by
  apply of_wp
  intro s
  have alone (t : σ) (related : R s t) : T s t := then_ s t t related (Std.Refl.refl t)
  apply wp_seq (first.wp s)
  · intro a t related
    exact wp_mono ((rest a).wp t) (fun _ u => then_ s t u related) (fun _ u => then_ s t u related)
      fun _ u => then_ s t u related
  · exact fun _ => alone
  · exact fun _ => alone

section Preorder
variable [IsPreorder σ R]

theorem pure (a : α) : Keeps R (Pure.pure a : Handler σ ε α) := fun s => refl_of R s

theorem throw (e : ε) : Keeps R (MonadExcept.throw e : Handler σ ε α) := fun s => refl_of R s

theorem panicWith (msg : String) : Keeps R (Handler.panicWith msg : Handler σ ε α) :=
  fun s => refl_of R s

theorem get : Keeps R (MonadState.get : Handler σ ε σ) := fun s => refl_of R s

theorem fromExcept (r : Except ε α) : Keeps R (Handler.fromExcept r) := by
  cases r with
  | ok a => exact pure a
  | error e => exact throw e

theorem expect (msg : String) (o : Option α) : Keeps R (Handler.expect msg o : Handler σ ε α) := by
  cases o with
  | some a => exact pure a
  | none => exact panicWith msg

theorem require (p : Prop) [Decidable p] (msg : String) :
    Keeps R (Handler.require p msg : Handler σ ε Unit) := by
  unfold Handler.require
  split
  · exact pure ()
  · exact panicWith msg

theorem bind (first : Keeps R m) (rest : ∀ a, Keeps R (f a)) : Keeps R (m >>= f) :=
  comp (S := R) (fun _ _ _ before after => trans_of R before after) first rest

theorem forM {f : β → Handler σ ε PUnit} {xs : List β} (each : ∀ x ∈ xs, Keeps R (f x)) :
    Keeps R (xs.forM f) := by
  induction xs with
  | nil => exact pure _
  | cons x xs ih =>
    exact bind (each x (by simp)) fun _ => ih fun y mem => each y (by simp [mem])

end Preorder

/-- A handler that looks at the state first: from each state, what it does there. -/
theorem inspect {f : σ → Handler σ ε α} (h : ∀ s, Handler.wp (f s) (Post.all (R s)) s) :
    Keeps R (MonadState.get >>= f) := fun s => wp_all_iff.mp (h s)

theorem modify {f : σ → σ} (h : ∀ s, R s (f s)) : Keeps R (modify f : Handler σ ε PUnit) := h

theorem modifyGet {f : σ → α × σ} (h : ∀ s, R s (f s).2) :
    Keeps R (modifyGet f : Handler σ ε α) := h

theorem attempt (h : Keeps R m) : Keeps R (Handler.attempt m : Handler σ ε' (Except ε α)) := by
  intro s
  have related := h s
  unfold Handler.attempt
  cases ran : m s <;> rw [ran] at related <;> exact related

theorem mapErr {g : ε → ε'} (h : Keeps R m) : Keeps R (Handler.mapErr g m) := by
  intro s
  have related := h s
  unfold Handler.mapErr
  cases ran : m s <;> rw [ran] at related <;> exact related

theorem map [IsPreorder σ R] {g : α → β} (h : Keeps R m) : Keeps R (g <$> m) :=
  bind h fun a => pure (g a)

theorem ite {p : Prop} [Decidable p] {m n : Handler σ ε α} (yes : p → Keeps R m)
    (no : ¬p → Keeps R n) : Keeps R (if p then m else n) := by
  split
  next holds => exact yes holds
  next fails => exact no fails

end Keeps

/-- What a handler that keeps an invariant ends with: the invariant, or another panic. -/
def Post.sustain (I : σ → Prop) (msg : String) : Post σ ε α where
  ok _ := I
  err _ := I
  panic text _ := text ≠ msg

/-- From a state with the invariant the handler comes to one, unless it panics, and it never ends in
this panic. -/
def Sustains (I : σ → Prop) (msg : String) (m : Handler σ ε α) : Prop :=
  ∀ s, I s → wp m (Post.sustain I msg) s

namespace Sustains
variable {I : σ → Prop} {msg : String} {m : Handler σ ε α} {f : α → Handler σ ε β}

theorem pure (a : α) : Sustains I msg (Pure.pure a : Handler σ ε α) := fun _ holds => holds

theorem throw (e : ε) : Sustains I msg (MonadExcept.throw e : Handler σ ε α) := fun _ holds => holds

theorem modify {g : σ → σ} (keeps : ∀ s, I s → I (g s)) :
    Sustains I msg (modify g : Handler σ ε PUnit) := keeps

theorem panicWith {text : String} (other : text ≠ msg) :
    Sustains I msg (Handler.panicWith text : Handler σ ε α) := fun _ _ => other

theorem fromExcept (r : Except ε α) : Sustains I msg (Handler.fromExcept r : Handler σ ε α) := by
  cases r with
  | ok a => exact pure a
  | error e => exact throw e

theorem expect {text : String} (other : text ≠ msg) (o : Option α) :
    Sustains I msg (Handler.expect text o : Handler σ ε α) := by
  cases o with
  | some a => exact pure a
  | none => exact panicWith other

theorem require {text : String} (p : Prop) [Decidable p] (other : p ∨ text ≠ msg) :
    Sustains I msg (Handler.require p text : Handler σ ε Unit) := by
  unfold Handler.require
  split
  next => exact pure ()
  next fails => exact panicWith (other.resolve_left fails)

theorem bind (first : Sustains I msg m) (rest : ∀ a, Sustains I msg (f a)) :
    Sustains I msg (m >>= f) := by
  intro s holds
  apply wp_seq (first s holds)
  · exact fun a t holds => rest a t holds
  · exact fun _ _ holds => holds
  · exact fun _ _ other => other

/-- A handler that looks at the state first: what it does in a state with the invariant. -/
theorem inspect {f : σ → Handler σ ε α} (rest : ∀ s, I s → Sustains I msg (f s)) :
    Sustains I msg (get >>= f) := fun s holds => rest s holds s holds

theorem modifyGet {g : σ → α × σ} (keeps : ∀ s, I s → I (g s).2) :
    Sustains I msg (modifyGet g : Handler σ ε α) := keeps

/-- What is taken out of a state with the invariant can be relied on. -/
theorem take {g : σ → α × σ} (keeps : ∀ s, I s → I (g s).2)
    (rest : ∀ s, I s → Sustains I msg (f (g s).1)) :
    Sustains I msg (MonadStateOf.modifyGet g >>= f) :=
  fun s holds => rest s holds (g s).2 (keeps s holds)

/-- What is expected is there from then on. -/
theorem expecting {text : String} {o : Option α} (other : text ≠ msg)
    (rest : ∀ a, o = some a → Sustains I msg (f a)) :
    Sustains I msg (Handler.expect text o >>= f) := by
  cases o with
  | some a => exact rest a rfl
  | none => exact fun _ _ => other

theorem attempt (h : Sustains I msg m) :
    Sustains I msg (Handler.attempt m : Handler σ ε' (Except ε α)) := by
  intro s holds
  rw [wp_attempt]
  exact h s holds

theorem mapErr {g : ε → ε'} (h : Sustains I msg m) : Sustains I msg (Handler.mapErr g m) := by
  intro s holds
  rw [wp_mapErr]
  exact h s holds

theorem map {g : α → β} (h : Sustains I msg m) : Sustains I msg (g <$> m) :=
  bind h fun a => pure (g a)

theorem ite {p : Prop} [Decidable p] {m n : Handler σ ε α} (yes : p → Sustains I msg m)
    (no : ¬p → Sustains I msg n) : Sustains I msg (if p then m else n) := by
  split
  next holds => exact yes holds
  next fails => exact no fails

theorem forM {g : β → Handler σ ε PUnit} {xs : List β} (each : ∀ x ∈ xs, Sustains I msg (g x)) :
    Sustains I msg (xs.forM g) := by
  induction xs with
  | nil => exact pure _
  | cons x xs ih =>
    exact bind (each x (by simp)) fun _ => ih fun y mem => each y (by simp [mem])

end Sustains

/-- A main loop, by an invariant of the state and of the inputs that are left. -/
theorem iterate_sustains {ι ρ : Type} {turn : ι → Handler σ Empty (Option ρ)} {msg : String}
    {I : List ι → σ → Prop}
    (turns : ∀ i rest s, I (i :: rest) s → wp (turn i) (Post.sustain (I rest) msg) s)
    {inputs : List ι} {s : σ} (init : I inputs s) :
    (∀ t, iterate turn inputs s = .running t → I [] t) ∧
      ∀ t, iterate turn inputs s ≠ .panicked msg t := by
  induction inputs generalizing s with
  | nil =>
    refine ⟨?_, by simp [iterate]⟩
    intro t ran
    cases ran
    exact init
  | cons i rest ih =>
    have one := turns i rest s init
    unfold wp at one
    unfold iterate
    cases ended : turn i s with
    | ok r t =>
      rw [ended] at one
      cases r with
      | none => exact ih one
      | some r => simp [Outcome.andThen]
    | err e t => exact e.elim
    | panic text t =>
      rw [ended] at one
      simp only [Outcome.andThen, reduceCtorEq, false_implies, implies_true, true_and]
      intro u ran
      cases ran
      exact one rfl

end Foundation.Handler
