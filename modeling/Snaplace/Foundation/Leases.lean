import Mathlib.Data.Finset.Insert
import Snaplace.Foundation.Run

/-!
# Leases of exclusive resources

A provider hands out resources, either one of its choice or a given one, and takes them back. The
client's side is a set: what has been handed out and not given back. A provider is exclusive in a
run if it never hands out a resource that is held.
-/
namespace Foundation

/-- What a client asks of a provider. -/
inductive Call (ρ : Type) where
  | getNext
  | get (r : ρ)
  | giveBack (r : ρ)
  deriving DecidableEq, Repr

variable {σ ρ : Type} [DecidableEq ρ]

/-- What is held after a call that handed out `out`. -/
def heldAfter (held : Finset ρ) : Call ρ → Option ρ → Finset ρ
  | .giveBack r, _ => held.erase r
  | _, some r => insert r held
  | _, none => held

/-- One call, of a provider and a client. -/
def lend (serve : Call ρ → σ → Option ρ × σ) (c : Call ρ) (s : σ × Finset ρ) : σ × Finset ρ :=
  ((serve c s.1).2, heldAfter s.2 c (serve c s.1).1)

/-- One call, with what has been given back so far, the latest first. -/
def lendLogged (serve : Call ρ → σ → Option ρ × σ) (c : Call ρ) (s : (σ × Finset ρ) × List ρ) :
    (σ × Finset ρ) × List ρ :=
  (lend serve c s.1, match c with | .giveBack r => r :: s.2 | _ => s.2)

/-- Only what is held is given back. -/
def Call.Proper (held : Finset ρ) : Call ρ → Prop
  | .giveBack r => r ∈ held
  | _ => True

instance (held : Finset ρ) : (c : Call ρ) → Decidable (c.Proper held)
  | .giveBack r => inferInstanceAs (Decidable (r ∈ held))
  | .getNext => isTrue trivial
  | .get _ => isTrue trivial

abbrev Proper (serve : Call ρ → σ → Option ρ × σ) : List (Call ρ) → σ × Finset ρ → Prop :=
  AllSteps (lend serve) fun s c => c.Proper s.2

abbrev Exclusive (serve : Call ρ → σ → Option ρ × σ) : List (Call ρ) → σ × Finset ρ → Prop :=
  AllSteps (lend serve) fun s c => ∀ r ∈ (serve c s.1).1, r ∉ s.2

/-- When a call meeting `C` is exclusive and keeps an invariant, and one that does not meet it hands
out what is held, a proper run is exclusive exactly when all its calls meet `C`. -/
theorem exclusive_iff {serve : Call ρ → σ → Option ρ × σ} {I : σ → Finset ρ → Prop}
    {C : σ → Call ρ → Prop}
    (good : ∀ s held c, I s held → c.Proper held → C s c →
      (∀ r ∈ (serve c s).1, r ∉ held) ∧ I (serve c s).2 (heldAfter held c (serve c s).1))
    (bad : ∀ s held c, I s held → ¬ C s c → ∃ r ∈ (serve c s).1, r ∈ held)
    {calls : List (Call ρ)} {s : σ × Finset ρ} (init : I s.1 s.2) (proper : Proper serve calls s) :
    Exclusive serve calls s ↔ AllSteps (lend serve) (fun s c => C s.1 c) calls s := by
  refine allSteps_congr (I := fun s => I s.1 s.2) (fun s c holds now => ?_)
    (fun s c holds now meets => (good s.1 s.2 c holds now meets).2) init proper
  refine ⟨fun fresh => ?_, fun meets => (good s.1 s.2 c holds now meets).1⟩
  by_contra not
  obtain ⟨r, out, isHeld⟩ := bad s.1 s.2 c holds not
  exact fresh r out isHeld

end Foundation
