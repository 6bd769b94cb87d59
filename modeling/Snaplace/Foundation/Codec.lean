import Mathlib.Logic.Equiv.Prod
import Mathlib.Tactic

/-!
# Codecs that are derived from the fields of a type

A codec writes a value of a type as a value of a self-describing format and reads it back. A record
is written as the sequence of its fields; it is read from such a sequence or from a map of names.
`Recovers` says of one value that it is read as it was written, `Yields` of all that is read.
-/
namespace Foundation

/-- A value of a format that tells its reader what it holds. -/
inductive Value where
  | nil
  | bool (b : Bool)
  | uint (n : UInt64)
  /-- A negative integer. -/
  | int (n : Int64)
  | float (text : String)
  | str (s : String)
  | seq (elems : List Value)
  | map (entries : List (String × Value))

structure Codec (α : Type) where
  serialize : α → Value
  deserialize : Value → Option α

namespace Codec
variable {α β : Type}

def Recovers (c : Codec α) (a : α) : Prop := c.deserialize (c.serialize a) = some a

def Yields (c : Codec α) (P : α → Prop) : Prop := ∀ v a, c.deserialize v = some a → P a

/-! ## Leaves -/

def str : Codec String where
  serialize := .str
  deserialize
    | .str s => some s
    | _ => none

/-- Unsigned integers below `bound`, which is at most `2 ^ 64`. -/
def uint (bound : Nat) : Codec Nat where
  serialize n := .uint (.ofNat n)
  deserialize
    | .uint n => if n.toNat < bound then some n.toNat else none
    | _ => none

theorem str_recovers (s : String) : str.Recovers s := rfl

theorem uint_recovers {bound n : Nat} (fits : n < bound) (small : bound ≤ 2 ^ 64) :
    (uint bound).Recovers n := by
  have same : (UInt64.ofNat n).toNat = n := by
    rw [UInt64.toNat_ofNat']
    exact Nat.mod_eq_of_lt (by omega)
  simp only [Recovers, uint, same, if_pos fits]

theorem uint_yields {bound : Nat} : (uint bound).Yields (· < bound) := by
  intro v n read
  cases v with
  | uint m => grind [uint]
  | _ => simp [uint] at read

/-! ## Combinators -/

/-- An absent value is written as nothing, a present one as it is. -/
def option (c : Codec α) : Codec (Option α) where
  serialize
    | none => .nil
    | some a => c.serialize a
  deserialize
    | .nil => some none
    | v => (c.deserialize v).map some

/-- A value that is written as one of another type. -/
def via (c : Codec β) (write : α → β) (read : β → Option α) : Codec α where
  serialize a := c.serialize (write a)
  deserialize v := (c.deserialize v).bind read

/-- Read by a function of its own on top of what is written. -/
def readWith (c : Codec α) (f : α → α) : Codec α where
  serialize := c.serialize
  deserialize v := (c.deserialize v).map f

theorem option_recovers {c : Codec α} {a : Option α} (written : ∀ a, c.serialize a ≠ .nil)
    (h : ∀ b, a = some b → c.Recovers b) : c.option.Recovers a := by
  cases a with
  | none => rfl
  | some b =>
    have back : c.deserialize (c.serialize b) = some b := h b rfl
    have present : c.serialize b ≠ .nil := written b
    simp only [Recovers, option, back, Option.map_some]

theorem via_recovers {c : Codec β} {write : α → β} {read : β → Option α} {a : α}
    (h : c.Recovers (write a)) (back : read (write a) = some a) :
    (c.via write read).Recovers a := by
  unfold Recovers at h
  simp [Recovers, via, h, back]

theorem readWith_recovers_iff {c : Codec α} {f : α → α} {a : α} (h : c.Recovers a) :
    (c.readWith f).Recovers a ↔ f a = a := by
  unfold Recovers at h
  simp [Recovers, readWith, h]

theorem readWith_yields {c : Codec α} {f : α → α} : (c.readWith f).Yields fun a => ∃ b, a = f b := by
  intro v a read
  obtain ⟨b, -, rfl⟩ := Option.map_eq_some_iff.mp read
  exact ⟨b, rfl⟩

end Codec

/-! ## Records -/

/-- A field of a record: its name, first of the names it is read under, and what stands for it in a
map and in a sequence that end without it. -/
structure Field (α : Type) where
  names : List String
  codec : Codec α
  absent : Option α
  short : Option α

namespace Field
variable {α : Type}

def required (names : List String) (codec : Codec α) : Field α := ⟨names, codec, none, none⟩

/-- An optional value; a map may leave it out. -/
def optional (name : String) (codec : Codec α) : Field (Option α) :=
  ⟨[name], codec.option, some none, none⟩

def withDefault (name : String) (codec : Codec α) (default : α) : Field α :=
  ⟨[name], codec, some default, some default⟩

/-- The field's value in a map; a field that is given twice is an error. -/
def find (field : Field α) (entries : List (String × Value)) : Option α :=
  match entries.filter (·.1 ∈ field.names) with
  | [] => field.absent
  | [(_, v)] => field.codec.deserialize v
  | _ => none

/-- What stands for the field where it is left out is as `P` says. -/
def Defaults (field : Field α) (P : α → Prop) : Prop :=
  (∀ a, field.absent = some a → P a) ∧ ∀ a, field.short = some a → P a

theorem required_defaults {names : List String} {codec : Codec α} {P : α → Prop} :
    (required names codec).Defaults P := by
  constructor <;> intro a left <;> cases left

end Field

/-- The fields of a record, in the order they are written in. -/
structure Fields (α : Type) where
  serialize : α → List Value
  ofSeq : List Value → Option α
  ofMap : List (String × Value) → Option α

namespace Fields
variable {α β : Type}

def nil : Fields Unit where
  serialize _ := []
  ofSeq
    | [] => some ()
    | _ => none
  ofMap _ := some ()

def cons (field : Field α) (rest : Fields β) : Fields (α × β) where
  serialize a := field.codec.serialize a.1 :: rest.serialize a.2
  ofSeq
    | [] => do
      let a ← field.short
      let b ← rest.ofSeq []
      pure (a, b)
    | v :: vs => do
      let a ← field.codec.deserialize v
      let b ← rest.ofSeq vs
      pure (a, b)
  ofMap entries := do
    let a ← field.find entries
    let b ← rest.ofMap entries
    pure (a, b)

def Recovers (fields : Fields α) (a : α) : Prop := fields.ofSeq (fields.serialize a) = some a

def Yields (fields : Fields α) (P : α → Prop) : Prop :=
  (∀ vs a, fields.ofSeq vs = some a → P a) ∧ ∀ entries a, fields.ofMap entries = some a → P a

theorem nil_recovers : nil.Recovers () := rfl

theorem nil_yields : nil.Yields fun _ => True := ⟨fun _ _ _ => trivial, fun _ _ _ => trivial⟩

theorem cons_recovers_iff {field : Field α} {rest : Fields β} {a : α} {b : β} :
    (cons field rest).Recovers (a, b) ↔ field.codec.Recovers a ∧ rest.Recovers b := by
  cases first : field.codec.deserialize (field.codec.serialize a) <;>
    cases others : rest.ofSeq (rest.serialize b) <;>
    simp [Recovers, Codec.Recovers, cons, first, others]

theorem cons_yields {field : Field α} {rest : Fields β} {P : α → Prop} {Q : β → Prop}
    (read : field.codec.Yields P) (defaults : field.Defaults P) (others : rest.Yields Q) :
    (cons field rest).Yields fun r => P r.1 ∧ Q r.2 := by
  have bind {first : Option α} {second : Option β} {r : α × β}
      (both : (do let a ← first; let b ← second; pure (a, b)) = some r) :
      first = some r.1 ∧ second = some r.2 := by
    cases first <;> cases second <;> simp_all [Prod.ext_iff]
  constructor
  · intro vs r both
    cases vs with
    | nil =>
      obtain ⟨left, right⟩ := bind both
      exact ⟨defaults.2 r.1 left, others.1 [] r.2 right⟩
    | cons v vs =>
      obtain ⟨left, right⟩ := bind both
      exact ⟨read v r.1 left, others.1 vs r.2 right⟩
  · intro entries r both
    obtain ⟨left, right⟩ := bind both
    refine ⟨?_, others.2 entries r.2 right⟩
    unfold Field.find at left
    split at left
    · exact defaults.1 r.1 left
    · exact read _ r.1 left
    · contradiction

end Fields

/-- A record, as its fields. -/
def Codec.record {α β : Type} (fields : Fields β) (e : α ≃ β) : Codec α where
  serialize a := .seq (fields.serialize (e a))
  deserialize
    | .seq vs => (fields.ofSeq vs).map e.symm
    | .map entries => (fields.ofMap entries).map e.symm
    | _ => none

namespace Codec
variable {α β : Type} {fields : Fields β} {e : α ≃ β}

theorem record_recovers_iff {a : α} : (record fields e).Recovers a ↔ fields.Recovers (e a) := by
  simp [Recovers, Fields.Recovers, record, Option.map_eq_some_iff, Equiv.symm_apply_eq]

theorem record_yields {P : β → Prop} (h : fields.Yields P) :
    (record fields e).Yields fun a => P (e a) := by
  intro v a read
  cases v with
  | seq vs =>
    obtain ⟨b, found, rfl⟩ := Option.map_eq_some_iff.mp read
    simpa using h.1 vs b found
  | map entries =>
    obtain ⟨b, found, rfl⟩ := Option.map_eq_some_iff.mp read
    simpa using h.2 entries b found
  | _ => simp [record] at read

end Codec
end Foundation
