import Snaplace.Foundation.Handler

/-!
# Read-write locks that panics poison

A value behind a lock that one caller at a time works on. A panic under the write lock poisons the
lock: whoever locks it after that panics in turn. A panic under the read lock leaves it as it is.
-/
namespace Foundation
open Handler

structure RwLock (σ : Type) where
  value : σ
  poisoned : Bool
  deriving DecidableEq, Repr

namespace RwLock
variable {σ ε α : Type}

def new (value : σ) : RwLock σ := ⟨value, false⟩

/-- Work under the read lock; `msg` is the panic of whoever finds the lock poisoned. -/
def read (msg : String) (body : Handler σ ε α) : Handler (RwLock σ) ε α := fun l =>
  if l.poisoned then
    .panic msg l
  else
    focus RwLock.value (fun value l => { l with value }) body l

/-- Work under the write lock. -/
def write (msg : String) (body : Handler σ ε α) : Handler (RwLock σ) ε α := fun l =>
  if l.poisoned then
    .panic msg l
  else
    match body l.value with
    | .ok a value => .ok a { l with value }
    | .err e value => .err e { l with value }
    | .panic panicked value => .panic panicked { value, poisoned := true }

variable {msg : String} {body : Handler σ ε α} {Q : Post (RwLock σ) ε α} {value : σ}

@[simp] theorem wp_read :
    wp (read msg body) Q ⟨value, false⟩ =
      wp body
        { ok := fun a v => Q.ok a ⟨v, false⟩, err := fun e v => Q.err e ⟨v, false⟩,
          panic := fun panicked v => Q.panic panicked ⟨v, false⟩ } value := by
  unfold wp read focus
  cases ran : body value <;> simp [Post.holds]

@[simp] theorem wp_write :
    wp (write msg body) Q ⟨value, false⟩ =
      wp body
        { ok := fun a v => Q.ok a ⟨v, false⟩, err := fun e v => Q.err e ⟨v, false⟩,
          panic := fun panicked v => Q.panic panicked ⟨v, true⟩ } value := by
  unfold wp write
  cases ran : body value <;> simp [Post.holds]

@[simp] theorem wp_read_poisoned :
    wp (read msg body) Q ⟨value, true⟩ ↔ Q.panic msg ⟨value, true⟩ := Iff.rfl

@[simp] theorem wp_write_poisoned :
    wp (write msg body) Q ⟨value, true⟩ ↔ Q.panic msg ⟨value, true⟩ := Iff.rfl

end RwLock
end Foundation
