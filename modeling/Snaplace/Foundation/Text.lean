import Mathlib.Data.List.DropRight
import Mathlib.Data.Nat.Digits.Defs
import Mathlib.Tactic

/-!
# Plain text

Text as a list of characters, with the operations that hand-written parsers are made of: splitting
at a separator, cutting the blanks at both ends, and reading a number below a limit.
-/
namespace Foundation

namespace Text

/-- By looking at the characters of the text only, not at every character there is. -/
instance decidableForallMem (p : Char → Prop) [DecidablePred p] (s : List Char) :
    Decidable (∀ c ∈ s, p c) :=
  List.decidableBAll p s

section Blanks

/-- A character with the Unicode property `White_Space`. -/
def isBlank (c : Char) : Bool :=
  let n := c.toNat
  (9 ≤ n && n ≤ 13) || n = 0x20 || n = 0x85 || n = 0xA0 || n = 0x1680 ||
    (0x2000 ≤ n && n ≤ 0x200A) || n = 0x2028 || n = 0x2029 || n = 0x202F || n = 0x205F ||
    n = 0x3000

def Blank (s : List Char) : Prop := ∀ c ∈ s, isBlank c = true

/-- Without the blanks at both ends. -/
def trim (s : List Char) : List Char := (s.dropWhile isBlank).rdropWhile isBlank

variable {s before core after : List Char}

theorem Blank.nil : Blank [] := nofun

theorem Blank.append (h : Blank before) (h' : Blank after) : Blank (before ++ after) :=
  fun c mem => (List.mem_append.mp mem).elim (h c) (h' c)

theorem exists_trim (s : List Char) :
    ∃ before after, Blank before ∧ Blank after ∧ s = before ++ (trim s ++ after) := by
  refine ⟨s.takeWhile isBlank, (s.dropWhile isBlank).rtakeWhile isBlank, ?_, ?_, ?_⟩
  · intro c mem
    exact List.mem_takeWhile_imp mem
  · intro c mem
    exact List.mem_rtakeWhile_imp mem
  · rw [trim, List.rdropWhile_append_rtakeWhile, List.takeWhile_append_dropWhile]

theorem trim_eq_nil_iff : trim s = [] ↔ Blank s := by
  constructor
  · intro empty
    obtain ⟨before, after, first, last, split⟩ := exists_trim s
    rw [split, empty]
    exact first.append last
  · intro blank
    rw [trim, List.dropWhile_eq_nil_iff.mpr blank, List.rdropWhile_nil]

/-- Padding goes, and nothing else does. -/
theorem trim_padded (first : Blank before) (last : Blank after)
    (head : ∀ c ∈ core.head?, isBlank c = false) (tail : ∀ c ∈ core.getLast?, isBlank c = false) :
    trim (before ++ (core ++ after)) = core := by
  rcases core.eq_nil_or_concat' with rfl | ⟨start, c, rfl⟩
  · exact trim_eq_nil_iff.mpr (first.append (by simpa using last))
  · have begins : (start ++ [c] ++ after).dropWhile isBlank = start ++ [c] ++ after := by
      cases start with
      | nil => simpa using head
      | cons d start => simpa using head
    rw [trim, List.dropWhile_append_of_pos first, begins, List.rdropWhile]
    rw [List.reverse_append, List.dropWhile_append_of_pos fun c mem => last c (List.mem_reverse.mp mem)]
    have ends : isBlank c = false := tail c (by simp)
    simp [ends]

end Blanks

section Splitting

theorem forall_mem_of_mem_splitOnP {α : Type} {p : α → Bool} {s piece : List α}
    (mem : piece ∈ s.splitOnP p) : ∀ x ∈ piece, p x = false := by
  induction s generalizing piece with
  | nil => simp_all
  | cons y s ih =>
    rw [List.splitOnP_cons_eq_if_modifyHead] at mem
    split at mem
    next isSep =>
      rcases List.mem_cons.mp mem with rfl | mem
      · simp
      · exact ih mem
    next other =>
      cases pieces : s.splitOnP p with
      | nil => exact absurd pieces (List.splitOnP_ne_nil p s)
      | cons first rest =>
        rw [pieces, List.modifyHead_cons] at mem
        rcases List.mem_cons.mp mem with rfl | mem
        · intro x here
          rcases List.mem_cons.mp here with rfl | here
          · simpa using other
          · exact ih (by simp [pieces]) x here
        · exact ih (by simp [pieces, mem])

theorem notMem_of_mem_splitOn {α : Type} [DecidableEq α] {sep : α} {s piece : List α}
    (mem : piece ∈ s.splitOn sep) : sep ∉ piece := by
  intro here
  rw [List.splitOn_eq_splitOnP] at mem
  simpa using forall_mem_of_mem_splitOnP mem sep here

/-- The words between the blanks. -/
def words (s : List Char) : List (List Char) := (s.splitOnP isBlank).filter (· ≠ [])

variable {s word rest : List Char}

theorem not_blank_of_mem_words (mem : word ∈ words s) {c : Char} (here : c ∈ word) :
    isBlank c = false :=
  forall_mem_of_mem_splitOnP (List.mem_of_mem_filter mem) c here

/-- The word up to the first blank, and the others. -/
theorem words_append {c : Char} (some : word ≠ []) (solid : ∀ c ∈ word, isBlank c = false)
    (blank : isBlank c = true) : words (word ++ c :: rest) = word :: words rest := by
  rw [words, List.splitOnP_append_cons_of_forall_mem solid c blank]
  simp [words, some]

end Splitting

section Numbers

/-- The value of a decimal digit. -/
def digit (c : Char) : Option Nat := if c.isDigit then some (c.toNat - '0'.toNat) else none

inductive ParseIntError where
  | empty
  | invalidDigit
  | posOverflow
  deriving DecidableEq, Repr

/-- Read on, with `n` read so far. -/
def readDigits (limit : Nat) (n : Nat) : List Char → Except ParseIntError Nat
  | [] => .ok n
  | c :: rest =>
    match digit c with
    | none => .error .invalidDigit
    | some d =>
      if n * 10 + d < limit then readDigits limit (n * 10 + d) rest else .error .posOverflow

/-- An unsigned number below `limit`, in decimal and possibly with a plus sign. -/
def parseNat (limit : Nat) : List Char → Except ParseIntError Nat
  | [] => .error .empty
  | ['+'] => .error .invalidDigit
  | ['-'] => .error .invalidDigit
  | '+' :: digits => readDigits limit 0 digits
  | digits => readDigits limit 0 digits

/-- The number that a text of digits writes. -/
def value (digits : List Char) : Nat :=
  Nat.ofDigits 10 (digits.reverse.map fun c => c.toNat - '0'.toNat)

/-- The text writes the number: one digit or more, with a plus sign or without. -/
def Writes (s : List Char) (n : Nat) : Prop :=
  ∃ digits : List Char, digits ≠ [] ∧ (∀ c ∈ digits, c.isDigit = true) ∧ value digits = n ∧
    (s = digits ∨ s = '+' :: digits)

variable {limit n : Nat} {s : List Char}

theorem digit_eq_some_iff {c : Char} {d : Nat} :
    digit c = some d ↔ c.isDigit = true ∧ c.toNat - '0'.toNat = d := by
  unfold digit
  split <;> simp_all

theorem digit_eq_none_iff {c : Char} : digit c = none ↔ c.isDigit = false := by
  simp [digit]

theorem value_cons (c : Char) (digits : List Char) :
    value (c :: digits) = (c.toNat - '0'.toNat) * 10 ^ digits.length + value digits := by
  simp [value, Nat.ofDigits_append, Nat.add_comm, Nat.mul_comm]

/-- Each number read on the way is at most the last one, so only this one must be below the
limit. -/
theorem readDigits_eq_ok {start : Nat} (below : start < limit) :
    readDigits limit start s = .ok n ↔
      (∀ c ∈ s, c.isDigit = true) ∧ start * 10 ^ s.length + value s = n ∧ n < limit := by
  induction s generalizing start with
  | nil =>
    simp only [readDigits, value, Except.ok.injEq]
    constructor
    · rintro rfl
      simp [below]
    · rintro ⟨-, rfl, -⟩
      simp
  | cons c rest ih =>
    unfold readDigits
    cases digit? : digit c with
    | none =>
      have noDigit := digit_eq_none_iff.mp digit?
      simp [noDigit]
    | some d =>
      obtain ⟨isDigit, rfl⟩ := digit_eq_some_iff.mp digit?
      have total : start * 10 ^ (c :: rest).length + value (c :: rest) =
          (start * 10 + (c.toNat - '0'.toNat)) * 10 ^ rest.length + value rest := by
        rw [value_cons, List.length_cons, pow_succ]
        ring
      rw [total]
      dsimp only
      split
      next fits =>
        rw [ih fits]
        simp [isDigit]
      next exceeds =>
        have grows : start * 10 + (c.toNat - '0'.toNat) ≤
            (start * 10 + (c.toNat - '0'.toNat)) * 10 ^ rest.length :=
          Nat.le_mul_of_pos_right _ (by positivity)
        refine iff_of_false nofun ?_
        rintro ⟨-, rfl, fits⟩
        omega

theorem parseNat_eq_ok (positive : 0 < limit) :
    parseNat limit s = .ok n ↔ Writes s n ∧ n < limit := by
  have read (digits : List Char) : readDigits limit 0 digits = .ok n ↔
      (∀ c ∈ digits, c.isDigit = true) ∧ value digits = n ∧ n < limit := by
    simpa using readDigits_eq_ok (s := digits) positive
  unfold parseNat Writes
  split
  · simp
  · refine iff_of_false nofun ?_
    rintro ⟨⟨digits, some, all, -, plain | signed⟩, -⟩
    · subst plain
      simpa using all '+' (by simp)
    · simp_all
  · refine iff_of_false nofun ?_
    rintro ⟨⟨digits, some, all, -, plain | signed⟩, -⟩
    · subst plain
      simpa using all '-' (by simp)
    · simp at signed
  · rename_i digits other
    rw [read]
    constructor
    · rintro ⟨all, written, below⟩
      refine ⟨⟨digits, fun empty => other (by simp [empty]), all, written, .inr rfl⟩, below⟩
    · rintro ⟨⟨digits', some, all, written, plain | signed⟩, below⟩
      · have := all '+' (by simp [← plain])
        simp at this
      · obtain rfl : digits = digits' := by simpa using signed
        exact ⟨all, written, below⟩
  · rename_i empty _ _ unsigned
    rw [read]
    constructor
    · rintro ⟨all, written, below⟩
      exact ⟨⟨s, fun none => empty none, all, written, .inl rfl⟩, below⟩
    · rintro ⟨⟨digits, some, all, written, plain | signed⟩, below⟩
      · subst plain
        exact ⟨all, written, below⟩
      · exact absurd signed (unsigned digits)

namespace Writes
variable {before after : List Char}

theorem ne_nil (h : Writes s n) : s ≠ [] := by
  obtain ⟨digits, some, -, -, rfl | rfl⟩ := h
  · exact some
  · simp

theorem solid (h : Writes s n) {c : Char} (mem : c ∈ s) : c = '+' ∨ c.isDigit = true := by
  obtain ⟨digits, -, all, -, rfl | rfl⟩ := h
  · exact .inr (all c mem)
  · rcases List.mem_cons.mp mem with rfl | mem
    · exact .inl rfl
    · exact .inr (all c mem)

theorem notMem (h : Writes s n) {sep : Char} (noPlus : sep ≠ '+') (noDigit : sep.isDigit = false) :
    sep ∉ s := by
  intro mem
  rcases h.solid mem with plus | isDigit
  · exact noPlus plus
  · simp [noDigit] at isDigit

theorem not_blank (h : Writes s n) {c : Char} (mem : c ∈ s) : isBlank c = false := by
  rcases h.solid mem with rfl | isDigit
  · decide
  · have bounds : 48 ≤ c.toNat ∧ c.toNat ≤ 57 := by
      simpa [Char.isDigit, UInt32.le_iff_toNat_le] using isDigit
    simp only [isBlank, Bool.or_eq_false_iff, Bool.and_eq_false_iff, decide_eq_false_iff_not]
    omega

theorem trim_padded (h : Writes s n) (first : Blank before) (last : Blank after) :
    trim (before ++ (s ++ after)) = s :=
  Text.trim_padded first last (fun _ head => h.not_blank (List.mem_of_mem_head? head))
    fun _ tail => h.not_blank (List.mem_of_getLast? tail)

theorem trim_left (h : Writes s n) (blank : Blank before) : trim (before ++ s) = s := by
  simpa using h.trim_padded blank Blank.nil

theorem trim_right (h : Writes s n) (blank : Blank after) : trim (s ++ after) = s :=
  h.trim_padded Blank.nil blank

theorem trim_eq (h : Writes s n) : trim s = s := h.trim_left Blank.nil

end Writes

end Numbers

section Numerals

/-- The number in decimal. -/
def decimal (n : Nat) : List Char := Nat.toDigits 10 n

theorem value_eq_ofDigitChars (digits : List Char) :
    value digits = Nat.ofDigitChars 10 digits 0 := by
  induction digits with
  | nil => rfl
  | cons c digits ih =>
    have shifted : Nat.ofDigitChars 10 digits (c.toNat - '0'.toNat) =
        10 ^ digits.length * (c.toNat - '0'.toNat) + Nat.ofDigitChars 10 digits 0 :=
      Nat.ofDigitChars_eq_ofDigitChars_zero
    rw [value_cons, ih, Nat.ofDigitChars_cons, Nat.mul_zero, Nat.zero_add, shifted, Nat.mul_comm]

theorem decimal_isDigit {n : Nat} : ∀ c ∈ decimal n, c.isDigit = true := fun _ mem =>
  Nat.isDigit_of_mem_toDigits (by omega) (by omega) mem

theorem value_decimal (n : Nat) : value (decimal n) = n := by
  rw [value_eq_ofDigitChars]
  exact Nat.ofDigitChars_toDigits (by omega) (by omega)

theorem writes_decimal (n : Nat) : Writes (decimal n) n :=
  ⟨decimal n, Nat.toDigits_ne_nil, decimal_isDigit, value_decimal n, .inl rfl⟩

/-- A numeral has no leading zeros. -/
theorem decimal_head (n : Nat) : decimal n = ['0'] ∨ (decimal n).head? ≠ some '0' := by
  induction n using Nat.strong_induction_on with
  | _ n ih =>
    by_cases small : n < 10
    · rw [decimal, Nat.toDigits_of_lt_base small]
      interval_cases n <;> decide
    · have shorter : n / 10 < n := by omega
      have split : decimal n = decimal (n / 10) ++ [(n % 10).digitChar] :=
        Nat.toDigits_of_base_le (by omega) (by omega)
      have nonempty : decimal (n / 10) ≠ [] := Nat.toDigits_ne_nil
      rw [split, List.head?_append_of_ne_nil _ nonempty]
      rcases ih (n / 10) shorter with zero | other
      · have value := value_decimal (n / 10)
        rw [zero] at value
        have : n / 10 = 0 := value.symm.trans (by decide)
        omega
      · exact .inr other

end Numerals

section Replacing

/-- Replace every left-most match of a pattern; `skip` characters of the last one are still ahead. -/
def replaceFrom (rules : List (List Char × List Char)) : Nat → List Char → List Char
  | _, [] => []
  | skip + 1, _ :: text => replaceFrom rules skip text
  | 0, c :: text =>
    match rules.find? (·.1.isPrefixOf (c :: text)) with
    | some rule => rule.2 ++ replaceFrom rules (rule.1.length - 1) text
    | none => c :: replaceFrom rules 0 text

def replaceAll (rules : List (List Char × List Char)) (text : List Char) : List Char :=
  replaceFrom rules 0 text

/-- Replacing may be done in two rounds, of which the second replaces characters that are new. -/
theorem replaceAll_map {σ : Char → List Char} {rules : List (List Char × List Char)}
    {text : List Char} (fixed : ∀ c ∈ text, σ c = [c]) :
    replaceAll (rules.map fun rule => (rule.1, rule.2.flatMap σ)) text =
      (replaceAll rules text).flatMap σ := by
  unfold replaceAll
  generalize 0 = skip
  induction text generalizing skip with
  | nil => simp [replaceFrom]
  | cons c text ih =>
    have rest := ih fun d mem => fixed d (by simp [mem])
    cases skip with
    | succ skip => simpa [replaceFrom] using rest skip
    | zero =>
      simp only [replaceFrom, List.find?_map, Function.comp_def]
      cases rules.find? (·.1.isPrefixOf (c :: text)) with
      | none => simp [rest, fixed c (by simp)]
      | some rule => simp [rest]

/-- No pattern occurs in the text, or begins in it. -/
def untouched (patterns : List (List Char)) : List Char → Bool
  | [] => true
  | c :: text =>
    patterns.all (fun pattern => !pattern.isPrefixOf (c :: text) && !(c :: text).isPrefixOf pattern) &&
      untouched patterns text

variable {rules : List (List Char × List Char)} {text pattern replacement rest : List Char}

theorem replaceAll_append (untouched : untouched (rules.map Prod.fst) text = true) :
    replaceAll rules (text ++ rest) = text ++ replaceAll rules rest := by
  unfold replaceAll
  induction text with
  | nil => rfl
  | cons c text ih =>
    simp only [Text.untouched, Bool.and_eq_true, List.all_eq_true] at untouched
    obtain ⟨here, there⟩ := untouched
    have none : rules.find? (·.1.isPrefixOf (c :: (text ++ rest))) = none := by
      rw [List.find?_eq_none]
      intro rule mem isPrefix
      have isPrefix : rule.1 <+: c :: text ++ rest := List.isPrefixOf_iff_prefix.mp isPrefix
      have other := here rule.1 (List.mem_map_of_mem mem)
      rcases List.prefix_or_prefix_of_prefix isPrefix (List.prefix_append _ rest) with before | after
      · simp [List.isPrefixOf_iff_prefix.mpr before] at other
      · simp [List.isPrefixOf_iff_prefix.mpr after] at other
    rw [List.cons_append, replaceFrom, none, ih there]
    rfl

theorem replaceFrom_append (text rest : List Char) :
    replaceFrom rules text.length (text ++ rest) = replaceFrom rules 0 rest := by
  induction text with
  | nil => rfl
  | cons c text ih => exact ih

theorem replaceAll_pattern (some : pattern ≠ [])
    (found : rules.find? (·.1.isPrefixOf (pattern ++ rest)) = .some (pattern, replacement)) :
    replaceAll rules (pattern ++ rest) = replacement ++ replaceAll rules rest := by
  cases pattern with
  | nil => contradiction
  | cons c pattern =>
    simp only [List.cons_append] at found
    rw [replaceAll, List.cons_append, replaceFrom, found]
    exact congrArg (replacement ++ ·) (replaceFrom_append pattern rest)

end Replacing

section Slices

/-- Cut after `n` bytes of UTF-8, if a character ends there. -/
def splitAtByte : List Char → Nat → Option (List Char × List Char)
  | s, 0 => some ([], s)
  | [], _ + 1 => none
  | c :: s, n + 1 =>
    if c.utf8Size ≤ n + 1 then
      (splitAtByte s (n + 1 - c.utf8Size)).map fun (before, after) => (c :: before, after)
    else none

def byteLength (s : List Char) : Nat := (s.map Char.utf8Size).sum

/-- The bytes from `first` to before `last`; none where the slice operator panics. -/
def slice (s : List Char) (first last : Nat) : Option (List Char) :=
  if first ≤ last then do
    let (_, tail) ← splitAtByte s first
    let (core, _) ← splitAtByte tail (last - first)
    some core
  else none

variable {s before after core : List Char} {n first last : Nat}

theorem append_of_splitAtByte (split : splitAtByte s n = some (before, after)) :
    s = before ++ after := by
  induction s generalizing n before with
  | nil => cases n <;> simp_all [splitAtByte]
  | cons c s ih =>
    cases n with
    | zero => simp_all [splitAtByte]
    | succ n =>
      simp only [splitAtByte] at split
      split at split
      next fits =>
        obtain ⟨⟨start, rest⟩, there, same⟩ := Option.map_eq_some_iff.mp split
        obtain ⟨rfl, rfl⟩ := Prod.mk.inj same
        rw [ih there, List.cons_append]
      next => cases split

theorem splitAtByte_append (before after : List Char) :
    splitAtByte (before ++ after) (byteLength before) = some (before, after) := by
  induction before with
  | nil =>
    simp only [List.nil_append, byteLength, List.map_nil, List.sum_nil]
    unfold splitAtByte
    rfl
  | cons c before ih =>
    have positive := c.utf8Size_pos
    obtain ⟨n, size⟩ : ∃ n, byteLength (c :: before) = n + 1 :=
      ⟨byteLength (c :: before) - 1, by simp [byteLength]; omega⟩
    have rest : n + 1 - c.utf8Size = byteLength before := by
      simp [byteLength] at size ⊢
      omega
    have fits : c.utf8Size ≤ n + 1 := by
      simp [byteLength] at size
      omega
    rw [size, List.cons_append, splitAtByte, if_pos fits, rest, ih]
    rfl

theorem subset_of_slice (h : slice s first last = some core) : core ⊆ s := by
  unfold slice at h
  split at h
  next =>
    simp only [bind, Option.bind_eq_some_iff, Option.some.injEq] at h
    obtain ⟨⟨start, tail⟩, cut, ⟨core', rest⟩, cut', rfl⟩ := h
    have cut' : splitAtByte tail (last - first) = some (core', rest) := cut'
    rw [append_of_splitAtByte cut, append_of_splitAtByte cut']
    intro c mem
    simp [show c ∈ core' from mem]
  next => cases h

/-- The slice between two texts. -/
theorem slice_append (before core after : List Char) :
    slice (before ++ (core ++ after)) (byteLength before) (byteLength before + byteLength core) =
      some core := by
  simp [slice, splitAtByte_append]

end Slices

end Text

end Foundation
