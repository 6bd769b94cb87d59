import Snaplace.Foundation.Handler

/-!
# Runs of a main loop

A main loop takes one input a turn until a turn produces an exit value or panics. `iterate` runs it
over a list of inputs; `AllTurns` says that every turn actually taken meets a condition on the
state at the top of the loop and the input. Where each input has one next state, `AllSteps` says the
same of a plain sequence of steps.
-/
namespace Foundation

/-- Where a main loop stands after a list of inputs. -/
inductive Progress (σ ρ : Type) where
  | running (s : σ)
  | exited (r : ρ) (s : σ)
  | panicked (msg : String) (s : σ)
  deriving DecidableEq, Repr

variable {σ ι ρ : Type}

/-- The state a run has come to. -/
def Progress.state : Progress σ ρ → σ
  | .running s => s
  | .exited _ s => s
  | .panicked _ s => s

/-- Continue with `next` if the turn neither exited nor panicked. -/
def Outcome.andThen (next : σ → Progress σ ρ) : Outcome σ Empty (Option ρ) → Progress σ ρ
  | .ok none s => next s
  | .ok (some r) s => .exited r s
  | .panic msg s => .panicked msg s

def iterate (turn : ι → Handler σ Empty (Option ρ)) : List ι → σ → Progress σ ρ
  | [], s => .running s
  | i :: rest, s => (turn i s).andThen (iterate turn rest)

def AllTurns (turn : ι → Handler σ Empty (Option ρ)) (C : σ → ι → Prop) : List ι → σ → Prop
  | [], _ => True
  | i :: rest, s => C s i ∧ ∀ t, turn i s = .ok none t → AllTurns turn C rest t

variable {turn : ι → Handler σ Empty (Option ρ)} {C D : σ → ι → Prop}

theorem AllTurns.mono (h : ∀ s i, C s i → D s i) {inputs : List ι} {s : σ}
    (all : AllTurns turn C inputs s) : AllTurns turn D inputs s := by
  induction inputs generalizing s with
  | nil => trivial
  | cons i rest ih => exact ⟨h s i all.1, fun t ht => ih (all.2 t ht)⟩

/-- A turn that stays in the loop is followed by the rest of the run. -/
theorem AllTurns.cons_stay {i : ι} {rest : List ι} {s t : σ} (h : turn i s = .ok none t) :
    AllTurns turn C (i :: rest) s ↔ C s i ∧ AllTurns turn C rest t := by
  refine and_congr_right fun _ => ⟨fun all => all t h, fun all u hu => ?_⟩
  obtain rfl : t = u := by simpa [h] using hu
  exact all

/-- A turn that leaves the loop is the last one. -/
theorem AllTurns.cons_leave {i : ι} {rest : List ι} {s : σ} (h : ∀ t, turn i s ≠ .ok none t) :
    AllTurns turn C (i :: rest) s ↔ C s i :=
  ⟨fun all => all.1, fun c => ⟨c, fun t ht => absurd ht (h t)⟩⟩

instance AllTurns.decidable [∀ s i, Decidable (C s i)] :
    (inputs : List ι) → (s : σ) → Decidable (AllTurns turn C inputs s)
  | [], _ => isTrue trivial
  | i :: rest, s =>
    match h : turn i s with
    | .ok none t =>
      have := AllTurns.decidable rest t
      decidable_of_iff' _ (cons_stay h)
    | .ok (some _) _ => decidable_of_iff' _ (cons_leave fun _ => by simp [h])
    | .panic _ _ => decidable_of_iff' _ (cons_leave fun _ => by simp [h])

theorem AllTurns.of_forall_mem {inputs : List ι} (h : ∀ i ∈ inputs, ∀ s, C s i) (s : σ) :
    AllTurns turn C inputs s := by
  induction inputs generalizing s with
  | nil => trivial
  | cons i rest ih =>
    exact ⟨h i (by simp) s, fun t _ => ih (fun j hj => h j (by simp [hj])) t⟩

theorem AllTurns.of_front {taken inputs : List ι} {s : σ} (all : AllTurns turn C inputs s)
    (before : taken <+: inputs) : AllTurns turn C taken s := by
  induction taken generalizing inputs s with
  | nil => trivial
  | cons i taken ih =>
    obtain ⟨rest, rfl⟩ := before
    exact ⟨all.1, fun t ht => ih (all.2 t ht) (List.prefix_append ..)⟩

/-- What is met by a whole run is met by the rest of it, from where its first part has come to. -/
theorem AllTurns.rest {before rest : List ι} {s t : σ} (all : AllTurns turn C (before ++ rest) s)
    (ran : iterate turn before s = .running t) : AllTurns turn C rest t := by
  induction before generalizing s with
  | nil =>
    cases ran
    exact all
  | cons i before ih =>
    unfold iterate at ran
    cases one : turn i s with
    | ok r u =>
      rw [one] at ran
      cases r with
      | none => exact ih (all.2 u one) ran
      | some r => cases ran
    | err e _ => exact e.elim
    | panic msg u =>
      rw [one] at ran
      cases ran

/-- An invariant of the loop top holds at every top reached. -/
theorem AllTurns.strengthen {I : σ → Prop}
    (step : ∀ s i t, I s → C s i → turn i s = .ok none t → I t) {inputs : List ι} {s : σ}
    (init : I s) (all : AllTurns turn C inputs s) :
    AllTurns turn (fun s i => I s ∧ C s i) inputs s := by
  induction inputs generalizing s with
  | nil => trivial
  | cons i rest ih =>
    exact ⟨⟨init, all.1⟩, fun t ht => ih (step s i t init all.1 ht) (all.2 t ht)⟩

/-- Two conditions on a turn that agree under an invariant of the loop top agree on whole runs. -/
theorem allTurns_congr {I : σ → Prop} {inputs : List ι} (one : ∀ s, ∀ i ∈ inputs, I s → (C s i ↔ D s i))
    (step : ∀ s i t, I s → turn i s = .ok none t → I t) {s : σ} (init : I s) :
    AllTurns turn C inputs s ↔ AllTurns turn D inputs s := by
  induction inputs generalizing s with
  | nil => exact Iff.rfl
  | cons i rest ih =>
    refine and_congr (one s i (by simp) init) (forall₂_congr fun t stays => ?_)
    exact ih (fun s j mem => one s j (by simp [mem])) (step s i t init stays)

/-- Two conditions on a turn that agree where a third is met agree on runs that meet the third. -/
theorem AllTurns.congr {A : σ → ι → Prop} (one : ∀ s i, A s i → (C s i ↔ D s i)) {inputs : List ι}
    {s : σ} (all : AllTurns turn A inputs s) :
    AllTurns turn C inputs s ↔ AllTurns turn D inputs s := by
  induction inputs generalizing s with
  | nil => exact Iff.rfl
  | cons i rest ih =>
    exact and_congr (one s i all.1) (forall₂_congr fun t stays => ih (all.2 t stays))

/-- A run that stays in the loop, backwards: what a turn cannot mend was not broken before. -/
theorem AllTurns.back {B : σ → Prop} (back : ∀ s i t, C s i → turn i s = .ok none t → B t → B s)
    {inputs : List ι} {s t : σ} (all : AllTurns turn C inputs s)
    (ran : iterate turn inputs s = .running t) (holds : B t) : B s := by
  induction inputs generalizing s with
  | nil =>
    cases ran
    exact holds
  | cons i rest ih =>
    unfold iterate at ran
    cases one : turn i s with
    | ok r u =>
      rw [one] at ran
      cases r with
      | none => exact back s i u all.1 one (ih (all.2 u one) ran)
      | some r => cases ran
    | err e _ => exact e.elim
    | panic msg u =>
      rw [one] at ran
      cases ran

/-- An invariant of the loop top holds where a run that stays in the loop has come to; a step may use
what is found unbroken there. -/
theorem AllTurns.reaches_while {I B : σ → Prop}
    (back : ∀ s i t, C s i → turn i s = .ok none t → B t → B s)
    (step : ∀ s i t, I s → C s i → B t → turn i s = .ok none t → I t) {inputs : List ι} {s t : σ}
    (init : I s) (all : AllTurns turn C inputs s) (ran : iterate turn inputs s = .running t)
    (holds : B t) : I t := by
  induction inputs generalizing s with
  | nil =>
    cases ran
    exact init
  | cons i rest ih =>
    unfold iterate at ran
    cases one : turn i s with
    | ok r u =>
      rw [one] at ran
      cases r with
      | none =>
        have unbroken := (all.2 u one).back back ran holds
        exact ih (step s i u init all.1 unbroken one) (all.2 u one) ran
      | some r => cases ran
    | err e _ => exact e.elim
    | panic msg u =>
      rw [one] at ran
      cases ran

theorem AllTurns.reaches {I : σ → Prop}
    (step : ∀ s i t, I s → C s i → turn i s = .ok none t → I t) {inputs : List ι} {s t : σ}
    (init : I s) (all : AllTurns turn C inputs s) (ran : iterate turn inputs s = .running t) :
    I t :=
  all.reaches_while (B := fun _ => True) (fun _ _ _ _ _ _ => trivial)
    (fun s i t holds meets _ stays => step s i t holds meets stays) init ran trivial

/-- What a loop with invariant `I` can end in, when every turn taken meets `C`. -/
theorem iterate_invariant {I : σ → Prop} {E : ρ → σ → Prop} {P : String → σ → Prop}
    (step : ∀ s i, I s → C s i → Handler.wp (turn i)
      { ok := fun r t => match r with | none => I t | some r => E r t,
        err := fun _ _ => True, panic := P } s)
    {inputs : List ι} {s : σ} (init : I s) (all : AllTurns turn C inputs s) :
    match iterate turn inputs s with
    | .running t => I t
    | .exited r t => E r t
    | .panicked msg t => P msg t := by
  induction inputs generalizing s with
  | nil => exact init
  | cons i rest ih =>
    have one := step s i init all.1
    unfold Handler.wp at one
    unfold iterate
    match h : turn i s with
    | .ok none t => rw [h] at one; exact ih one (all.2 t h)
    | .ok (some r) t => rw [h] at one; exact one
    | .panic msg t => rw [h] at one; exact one

/-- A loop never panics exactly when its turns meet `C`, which decides that for one turn. -/
theorem iterate_ne_panicked_iff {I : σ → Prop}
    (one : ∀ s i, I s → Handler.wp (turn i)
      { ok := fun r t => C s i ∧ (r = none → I t),
        err := fun _ _ => True, panic := fun _ _ => ¬ C s i } s)
    {inputs : List ι} {s : σ} (init : I s) :
    (∀ msg t, iterate turn inputs s ≠ .panicked msg t) ↔ AllTurns turn C inputs s := by
  induction inputs generalizing s with
  | nil => exact ⟨fun _ => trivial, fun _ msg t h => by cases h⟩
  | cons i rest ih =>
    have first := one s i init
    unfold Handler.wp at first
    unfold iterate
    cases ran : turn i s with
    | ok r t =>
      rw [ran] at first
      cases r with
      | none => rw [AllTurns.cons_stay ran, ← ih (first.2 rfl)]; exact (and_iff_right first.1).symm
      | some r =>
        rw [AllTurns.cons_leave fun t => by simp [ran]]
        exact ⟨fun _ => first.1, fun _ msg t h => by cases h⟩
    | err e _ => exact e.elim
    | panic msg t =>
      rw [ran] at first
      rw [AllTurns.cons_leave fun t => by simp [ran]]
      exact ⟨fun never => absurd rfl (never msg t), fun meets => absurd meets first⟩

/-- A loop that has ended was left by one turn, from the top that the turns before it came to. -/
theorem iterate_exited {inputs : List ι} {s t : σ} {r : ρ}
    (ran : iterate turn inputs s = .exited r t) : ∃ taken i p, taken ++ [i] <+: inputs ∧
      iterate turn taken s = .running p ∧ turn i p = .ok (some r) t := by
  induction inputs generalizing s with
  | nil => cases ran
  | cons i rest ih =>
    unfold iterate at ran
    cases one : turn i s with
    | ok r' u =>
      rw [one] at ran
      cases r' with
      | none =>
        obtain ⟨taken, j, p, before, came, left⟩ := ih ran
        refine ⟨i :: taken, j, p, List.cons_prefix_cons.mpr ⟨rfl, before⟩, ?_, left⟩
        rw [iterate, one]
        exact came
      | some r' =>
        cases ran
        exact ⟨[], i, s, by simp, rfl, one⟩
    | err e _ => exact e.elim
    | panic msg u =>
      rw [one] at ran
      cases ran

/-- What holds of the inputs taken and the state they lead to, at every loop top. -/
theorem iterate_history {P : List ι → σ → Prop}
    (step : ∀ taken i s t, P taken s → turn i s = .ok none t → P (taken ++ [i]) t)
    {inputs : List ι} {s t : σ} (init : P [] s) (ran : iterate turn inputs s = .running t) :
    P inputs t := by
  suffices ∀ taken rest s, P taken s → iterate turn rest s = .running t → P (taken ++ rest) t from
    this [] inputs s init ran
  intro taken rest
  induction rest generalizing taken with
  | nil =>
    rintro s holds ⟨⟩
    simpa using holds
  | cons i rest ih =>
    intro s holds ran
    unfold iterate at ran
    cases one : turn i s with
    | ok r u =>
      cases r with
      | none =>
        rw [one] at ran
        simpa using ih (taken ++ [i]) u (step taken i s u holds one) ran
      | some r => rw [one] at ran; cases ran
    | err e _ => exact e.elim
    | panic msg u => rw [one] at ran; cases ran

/-- `P` holds of every state that a run comes to exactly when its turns meet `C`, which decides `P`
after one turn. -/
theorem prefixes_iff {I P : σ → Prop} {inputs : List ι}
    (one : ∀ s, ∀ i ∈ inputs, I s → P s → Handler.wp (turn i)
      { ok := fun r t => (P t ↔ C s i) ∧ (r = none → I t),
        err := fun _ _ => True, panic := fun _ t => P t ↔ C s i } s)
    {s : σ} (init : I s) (holds : P s) :
    (∀ taken, taken <+: inputs → P (iterate turn taken s).state) ↔ AllTurns turn C inputs s := by
  induction inputs generalizing s with
  | nil =>
    refine ⟨fun _ => trivial, fun _ taken before => ?_⟩
    obtain rfl := List.prefix_nil.mp before
    exact holds
  | cons i rest ih =>
    have first := one s i (by simp) init holds
    have later := fun t => ih (s := t) fun s j mem => one s j (by simp [mem])
    unfold Handler.wp at first
    constructor
    · intro always
      have now := always [i] (by simp)
      unfold iterate at now
      refine ⟨?_, fun t stays => ?_⟩
      · cases ran : turn i s with
        | ok r t =>
          rw [ran] at first now
          refine first.1.mp ?_
          cases r <;> exact now
        | err e _ => exact e.elim
        | panic msg t => rw [ran] at first now; exact first.mp now
      · rw [stays] at first now
        refine (later t (first.2 rfl) now).mp fun taken before => ?_
        have := always (i :: taken) (by simpa using before)
        unfold iterate at this
        rwa [stays] at this
    · rintro ⟨meets, rest_meets⟩ taken before
      cases taken with
      | nil => exact holds
      | cons j taken =>
        obtain ⟨rfl, shorter⟩ := List.cons_prefix_cons.mp before
        unfold iterate
        cases ran : turn j s with
        | ok r t =>
          rw [ran] at first
          cases r with
          | none =>
            exact (later t (first.2 rfl) (first.1.mpr meets)).mpr (rest_meets t ran) taken shorter
          | some r => exact first.1.mpr meets
        | err e _ => exact e.elim
        | panic msg t => rw [ran] at first; exact first.mpr meets

section Steps
variable {next : ι → σ → σ} {A B C : σ → ι → Prop} {I : σ → Prop}

/-- Every step of a run meets `C`, in the state before it. -/
def AllSteps (next : ι → σ → σ) (C : σ → ι → Prop) : List ι → σ → Prop
  | [], _ => True
  | i :: rest, s => C s i ∧ AllSteps next C rest (next i s)

instance AllSteps.decidable [∀ s i, Decidable (C s i)] :
    (inputs : List ι) → (s : σ) → Decidable (AllSteps next C inputs s)
  | [], _ => isTrue trivial
  | i :: rest, s =>
    have := AllSteps.decidable rest (next i s)
    inferInstanceAs (Decidable (_ ∧ _))

/-- What is known of the inputs is known of every step. -/
theorem AllSteps.and_mem {D : ι → Prop} {inputs : List ι} {s : σ} (all : AllSteps next C inputs s)
    (known : ∀ i ∈ inputs, D i) : AllSteps next (fun s i => C s i ∧ D i) inputs s := by
  induction inputs generalizing s with
  | nil => trivial
  | cons i rest ih =>
    exact ⟨⟨all.1, known i (by simp)⟩, ih all.2 fun j mem => known j (by simp [mem])⟩

theorem AllSteps.mono {D : σ → ι → Prop} (h : ∀ s i, C s i → D s i) {inputs : List ι} {s : σ}
    (all : AllSteps next C inputs s) : AllSteps next D inputs s := by
  induction inputs generalizing s with
  | nil => trivial
  | cons i rest ih => exact ⟨h s i all.1, ih all.2⟩

theorem AllSteps.and {D : σ → ι → Prop} {inputs : List ι} {s : σ} (all : AllSteps next C inputs s)
    (all' : AllSteps next D inputs s) : AllSteps next (fun s i => C s i ∧ D s i) inputs s := by
  induction inputs generalizing s with
  | nil => trivial
  | cons i rest ih => exact ⟨⟨all.1, all'.1⟩, ih all.2 all'.2⟩

/-- What every step that meets `C` keeps holds at the end of a run of such steps. -/
theorem AllSteps.invariant (keep : ∀ s i, I s → C s i → I (next i s)) {inputs : List ι} {s : σ}
    (init : I s) (all : AllSteps next C inputs s) : I (inputs.foldl (fun s i => next i s) s) := by
  induction inputs generalizing s with
  | nil => exact init
  | cons i rest ih => exact ih (keep s i init all.1) all.2

/-- Two conditions that agree under an invariant, which either keeps, agree on whole runs. -/
theorem allSteps_congr (one : ∀ s i, I s → A s i → (B s i ↔ C s i))
    (keep : ∀ s i, I s → A s i → C s i → I (next i s)) {inputs : List ι} {s : σ} (init : I s)
    (all : AllSteps next A inputs s) : AllSteps next B inputs s ↔ AllSteps next C inputs s := by
  induction inputs generalizing s with
  | nil => exact Iff.rfl
  | cons i rest ih =>
    obtain ⟨now, later⟩ := all
    exact (and_congr_left' (one s i init now)).trans
      (and_congr_right fun meets => ih (keep s i init now meets) later)

theorem allSteps_true (inputs : List ι) (s : σ) : AllSteps next (fun _ _ => True) inputs s := by
  induction inputs generalizing s with
  | nil => trivial
  | cons i rest ih => exact ⟨trivial, ih _⟩

end Steps

end Foundation
