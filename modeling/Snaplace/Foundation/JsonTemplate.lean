import Snaplace.Foundation.Json

/-!
# Templates of JSON texts

A text with characters that stand for other texts. What is put into a string must be plain, or the text
is not that of the value with these texts in it.
-/
namespace Foundation

namespace Json

section Filling

/-- Put texts in the places of characters of strings, and values in the places of words. -/
structure Filling where
  text : Char → List Char
  value : List Char → Json

def Token.fill (σ : Filling) : Token → List Token
  | .punct c => [.punct c]
  | .word text => (σ.value text).tokens
  | .str s => [.str (s.flatMap σ.text)]

mutual

def fill (σ : Filling) : Json → Json
  | .word text => σ.value text
  | .str s => .str (s.flatMap σ.text)
  | .arr elems => .arr (fillElems σ elems)
  | .obj members => .obj (fillMembers σ members)

def fillElems (σ : Filling) : List Json → List Json
  | [] => []
  | v :: vs => v.fill σ :: fillElems σ vs

def fillMembers (σ : Filling) : List (List Char × Json) → List (List Char × Json)
  | [] => []
  | m :: ms => fillMember σ m :: fillMembers σ ms

def fillMember (σ : Filling) : List Char × Json → List Char × Json
  | (key, v) => (key.flatMap σ.text, v.fill σ)

end

variable {σ : Filling}

theorem closed_flatMap (bracket : Char) (items : List (List Token)) :
    (closed bracket items).flatMap (Token.fill σ) =
      closed bracket (items.map (List.flatMap (Token.fill σ))) := by
  match items with
  | [] => rfl
  | [item] => simp [closed, Token.fill]
  | item :: item' :: items =>
    have rest := closed_flatMap bracket (item' :: items)
    rw [closed, List.flatMap_append, List.flatMap_cons, rest]
    · simp [closed, Token.fill]
    · simp

mutual

theorem tokens_fill : ∀ v : Json, (v.fill σ).tokens = v.tokens.flatMap (Token.fill σ)
  | .word text => by simp [fill, tokens, Token.fill]
  | .str s => by simp [fill, tokens, Token.fill]
  | .arr elems => by
    simp [fill, tokens, closed_flatMap, Token.fill, elemsTokens_fill elems]
  | .obj members => by
    simp [fill, tokens, closed_flatMap, Token.fill, membersTokens_fill members]

theorem elemsTokens_fill : ∀ vs : List Json,
    elemsTokens (fillElems σ vs) = (elemsTokens vs).map (List.flatMap (Token.fill σ))
  | [] => rfl
  | v :: vs => by
    simp only [fillElems, elemsTokens, List.map_cons, tokens_fill v, elemsTokens_fill vs]

theorem membersTokens_fill : ∀ ms : List (List Char × Json),
    membersTokens (fillMembers σ ms) = (membersTokens ms).map (List.flatMap (Token.fill σ))
  | [] => rfl
  | m :: ms => by
    simp only [fillMembers, membersTokens, List.map_cons, memberTokens_fill m,
      membersTokens_fill ms]

theorem memberTokens_fill : ∀ m : List Char × Json,
    memberTokens (fillMember σ m) = (memberTokens m).flatMap (Token.fill σ)
  | (key, v) => by
    simp [fillMember, memberTokens, Token.fill, tokens_fill v]

end

end Filling

section Literals

/-- What a string has come to, where one is read. -/
def Mode.acc? : Mode → Option (List Char)
  | .str acc => some acc
  | .escape acc => some acc
  | .hex _ _ _ acc => some acc
  | .low _ acc => some acc
  | .lowEscape _ acc => some acc
  | _ => none

/-- The steps within strings. -/
inductive StringStep : Char → Mode → Mode → List Token → Prop where
  | quote (acc) : StringStep '"' (.str acc) .top [.str acc.reverse]
  | plain {c} (acc) (isPlain : isPlain c = true) : StringStep c (.str acc) (.str (c :: acc)) []
  | backslash (acc) : StringStep '\\' (.str acc) (.escape acc) []
  | simple {c d} (acc) (escape : simpleEscape c = some d) :
    StringStep c (.escape acc) (.str (d :: acc)) []
  | unicode (acc) : StringStep 'u' (.escape acc) (.hex none 4 0 acc) []
  | digit {c high left code left' code'} (acc) (isDigit : (hexDigit c).isSome = true) :
    StringStep c (.hex high left code acc) (.hex high left' code' acc) []
  | unit {c high left code d} (acc) (isDigit : (hexDigit c).isSome = true) :
    StringStep c (.hex high left code acc) (.str (d :: acc)) []
  | surrogate {c high left code code'} (acc) (isDigit : (hexDigit c).isSome = true) :
    StringStep c (.hex high left code acc) (.low code' acc) []
  | lowBackslash (high acc) : StringStep '\\' (.low high acc) (.lowEscape high acc) []
  | lowUnicode (high acc) : StringStep 'u' (.lowEscape high acc) (.hex (some high) 4 0 acc) []

variable {m m' : Mode} {c : Char} {acc s text x y : List Char} {ts : List Token}

theorem codeUnit_eq_some {high : Option Nat} {code : Nat} (h : codeUnit high code acc = some m') :
    (∃ d, m' = .str (d :: acc)) ∨ ∃ code', m' = .low code' acc := by
  unfold codeUnit at h
  split at h <;> split at h
  · exact .inr ⟨_, (Option.some.inj h).symm⟩
  · split at h
    · cases h
    · exact .inl ⟨_, (Option.some.inj h).symm⟩
  · exact .inl ⟨_, (Option.some.inj h).symm⟩
  · cases h

theorem stringStep_of_step (inside : m.acc? = some acc) (stepped : step c m = some (m', ts)) :
    StringStep c m m' ts := by
  cases m with
  | top => cases inside
  | word _ => cases inside
  | str acc =>
    simp only [step] at stepped
    split at stepped
    next isQuote =>
      obtain ⟨rfl, rfl⟩ := by simpa using stepped
      subst isQuote
      exact .quote acc
    next =>
      split at stepped
      next isBackslash =>
        obtain ⟨rfl, rfl⟩ := by simpa using stepped
        subst isBackslash
        exact .backslash acc
      next =>
        split at stepped
        next isPlain =>
          obtain ⟨rfl, rfl⟩ := by simpa using stepped
          exact .plain acc isPlain
        next => cases stepped
  | escape acc =>
    simp only [step] at stepped
    split at stepped
    next isU =>
      obtain ⟨rfl, rfl⟩ := by simpa using stepped
      subst isU
      exact .unicode acc
    next =>
      obtain ⟨d, escape, same⟩ := Option.map_eq_some_iff.mp stepped
      obtain ⟨rfl, rfl⟩ := by simpa using same
      exact .simple acc escape
  | hex high left code acc =>
    simp only [step, bind, Option.bind_eq_some_iff] at stepped
    obtain ⟨digit, isDigit, stepped⟩ := stepped
    have isDigit : (hexDigit c).isSome = true := by simp [isDigit]
    split at stepped
    next =>
      obtain ⟨mode, unit, same⟩ := Option.bind_eq_some_iff.mp stepped
      obtain ⟨rfl, rfl⟩ := by simpa using same
      obtain ⟨d, rfl⟩ | ⟨code', rfl⟩ := codeUnit_eq_some unit
      · exact .unit acc isDigit
      · exact .surrogate acc isDigit
    next =>
      obtain ⟨rfl, rfl⟩ := by simpa using stepped
      exact .digit acc isDigit
  | low high acc =>
    simp only [step] at stepped
    split at stepped
    next isBackslash =>
      obtain ⟨rfl, rfl⟩ := by simpa using stepped
      subst isBackslash
      exact .lowBackslash high acc
    next => cases stepped
  | lowEscape high acc =>
    simp only [step] at stepped
    split at stepped
    next isU =>
      obtain ⟨rfl, rfl⟩ := by simpa using stepped
      subst isU
      exact .lowUnicode high acc
    next => cases stepped

theorem hexDigit_quote : hexDigit '"' = none := by decide

/-- A step ends the string, goes on with an escape, or reads one character of the string. -/
theorem StringStep.cases_acc (h : StringStep c m m' ts) (inside : m.acc? = some acc) :
    (m = .str acc ∧ c = '"' ∧ ts = [.str acc.reverse]) ∨
      (ts = [] ∧ c ≠ '"' ∧ m'.acc? = some acc) ∨
      (ts = [] ∧ ∃ d, m' = .str (d :: acc) ∧ (c = '"' → d = '"') ∧
        (m = .str acc → d = c ∧ isPlain c = true)) := by
  cases h <;> obtain rfl := Option.some.inj inside
  case quote => exact .inl ⟨rfl, rfl, rfl⟩
  case plain isPlain => exact .inr (.inr ⟨rfl, c, rfl, id, fun _ => ⟨rfl, isPlain⟩⟩)
  case simple d _ escape =>
    refine .inr (.inr ⟨rfl, d, rfl, ?_, nofun⟩)
    rintro rfl
    simpa [simpleEscape] using escape.symm
  case unit isDigit =>
    refine .inr (.inr ⟨rfl, _, rfl, ?_, nofun⟩)
    rintro rfl
    simp [hexDigit_quote] at isDigit
  case backslash => exact .inr (.inl ⟨rfl, by decide, rfl⟩)
  case unicode => exact .inr (.inl ⟨rfl, by decide, rfl⟩)
  case lowBackslash => exact .inr (.inl ⟨rfl, by decide, rfl⟩)
  case lowUnicode => exact .inr (.inl ⟨rfl, by decide, rfl⟩)
  all_goals
    rename_i isDigit
    refine .inr (.inl ⟨rfl, ?_, rfl⟩)
    rintro rfl
    simp [hexDigit_quote] at isDigit

/-- What has been read of a string is the beginning of it. -/
theorem exists_of_run_string (inside : m.acc? = some acc)
    (ran : run m text = some (m', .str s :: ts)) : ∃ e, s = acc.reverse ++ e := by
  induction text generalizing m acc with
  | nil => simp [run] at ran
  | cons c text ih =>
    obtain ⟨next, first, rest, stepped, ran, split⟩ := run_cons.mp ran
    obtain ⟨-, -, rfl⟩ | ⟨rfl, -, inside'⟩ | ⟨rfl, d, rfl, -, -⟩ :=
      (stringStep_of_step inside stepped).cases_acc inside
    · exact ⟨[], by simp_all⟩
    · rw [List.nil_append] at split
      exact ih inside' (split ▸ ran)
    · rw [List.nil_append] at split
      obtain ⟨e, same⟩ := ih rfl (split ▸ ran)
      exact ⟨d :: e, by simpa using same⟩

/-- A string that is behind its text never comes to say what the text says: every step reads at most as
much as it says, and at the end of the text the string ends, or has a quote that the text lacks. -/
theorem run_lagging {z e : List Char} (inside : m.acc? = some acc) (behind : z ≠ [])
    (noQuote : '"' ∉ z) (whole : e = z ++ x) :
    run m (x ++ '"' :: y) ≠ some (m', .str (acc.reverse ++ e) :: ts) := by
  intro ran
  induction x generalizing m acc z e with
  | nil =>
    obtain ⟨next, first, rest, stepped, ran, split⟩ := run_cons.mp ran
    obtain ⟨-, -, rfl⟩ | ⟨-, other, -⟩ | ⟨rfl, d, rfl, isQuote, -⟩ :=
      (stringStep_of_step inside stepped).cases_acc inside
    · simp_all
    · exact other rfl
    · obtain rfl := isQuote rfl
      rw [List.nil_append] at split
      obtain ⟨e', same⟩ := exists_of_run_string rfl (split ▸ ran)
      obtain ⟨z, rfl⟩ : ∃ z', z = '"' :: z' := ⟨e', by simp_all⟩
      simp at noQuote
  | cons c x ih =>
    obtain ⟨next, first, rest, stepped, ran, split⟩ := run_cons.mp ran
    obtain ⟨-, -, rfl⟩ | ⟨rfl, other, inside'⟩ | ⟨rfl, d, rfl, isQuote, -⟩ :=
      (stringStep_of_step inside stepped).cases_acc inside
    · simp_all
    · rw [List.nil_append] at split
      exact ih (z := z ++ [c]) inside' (by simp) (by simp [noQuote, other.symm])
        (by simp [whole]) (split ▸ ran)
    · rw [List.nil_append] at split
      have inside : (Mode.str (d :: acc)).acc? = some (d :: acc) := rfl
      obtain ⟨e', same⟩ := exists_of_run_string inside (split ▸ ran)
      have shorter : e = d :: e' := by simpa using same
      obtain ⟨z, rfl⟩ : ∃ z', z = d :: z' := by
        cases z with
        | nil => contradiction
        | cons d' z => exact ⟨z, by simp_all⟩
      have other : c ≠ '"' := by
        rintro rfl
        simp [isQuote rfl] at noQuote
      simp only [List.mem_cons, not_or] at noQuote
      refine ih (m := .str (d :: acc)) (z := z ++ [c]) (e := e') rfl (by simp)
        (by simp [noQuote.2, other.symm]) ?_ ?_
      · simpa [shorter] using whole
      · rw [← split] at ran
        simpa [shorter] using ran

/-- A string that says its text is plain. -/
theorem plain_of_run_string
    (ran : run (.str acc) (x ++ '"' :: y) = some (m', .str (acc.reverse ++ x) :: ts)) :
    ∀ c ∈ x, isPlain c = true := by
  induction x generalizing acc with
  | nil => simp
  | cons c x ih =>
    obtain ⟨next, first, rest, stepped, ran', split⟩ := run_cons.mp ran
    obtain ⟨-, rfl, rfl⟩ | ⟨rfl, other, inside⟩ | ⟨rfl, d, rfl, -, same⟩ :=
      (stringStep_of_step rfl stepped).cases_acc rfl
    · simp at split
    · rw [List.nil_append] at split
      exact absurd (split ▸ ran') (run_lagging (z := [c]) inside (by simp) (by simpa using other.symm) rfl)
    · obtain ⟨rfl, isPlain⟩ := same rfl
      rw [List.nil_append] at split
      have rest := @ih (d :: acc) (by simpa [split] using ran')
      simpa [isPlain] using rest

/-- In which no string goes on. -/
def Blocks (y : List Char) : Prop := ∀ acc, run (.str acc) y = none

/-- Characters of an escape that have been read. -/
def Mode.pending : Mode → Nat
  | .str _ => 0
  | .escape _ => 1
  | _ => 2

/-- What makes up escapes. -/
def escapeChars : List Char := ['\\', 'u', 'b', 'f', 'n', 'r', 't']

theorem simpleEscape_eq_some {d : Char} (h : simpleEscape c = some d) : d = c ∨ c ∈ escapeChars := by
  unfold simpleEscape at h
  split_ifs at h with self <;> simp_all [escapeChars]

theorem isPlain_quote : isPlain '"' = false := by decide

/-- A text without quotes is a string up to where it ends. -/
theorem exists_of_run_unquoted (inside : m.acc? = some acc) (noQuote : '"' ∉ x) (blocks : Blocks y)
    (ran : run m (x ++ '"' :: y) = some (m', ts)) :
    ∃ s us, ts = .str s :: us ∧ run .top y = some (m', us) := by
  induction x generalizing m acc ts with
  | nil =>
    obtain ⟨next, first, rest, stepped, ran', rfl⟩ := run_cons.mp ran
    cases stringStep_of_step inside stepped with
    | quote acc => exact ⟨acc.reverse, rest, by simp, ran'⟩
    | plain _ isPlain => simp [isPlain_quote] at isPlain
    | simple _ escape => simp [blocks _] at ran'
    | digit _ isDigit | unit _ isDigit | surrogate _ isDigit => simp [hexDigit_quote] at isDigit
  | cons c x ih =>
    obtain ⟨next, first, rest, stepped, ran', rfl⟩ := run_cons.mp ran
    simp only [List.mem_cons, not_or] at noQuote
    obtain ⟨-, isQuote, -⟩ | ⟨rfl, -, inside'⟩ | ⟨rfl, d, rfl, -, -⟩ :=
      (stringStep_of_step inside stepped).cases_acc inside
    · exact absurd isQuote.symm noQuote.1
    · exact ih inside' noQuote.2 ran'
    · exact ih rfl noQuote.2 ran'

variable {p : Char → Bool}

theorem countP_of_run_string (inside : m.acc? = some acc) (escapes : ∀ c ∈ escapeChars, p c = true)
    (noQuote : '"' ∉ x) (blocks : Blocks y)
    (ran : run m (x ++ '"' :: y) = some (m', .str s :: ts)) :
    s.countP p + min 1 m.pending ≤ acc.countP p + m.pending + x.countP p := by
  induction x generalizing m acc with
  | nil =>
    obtain ⟨next, first, rest, stepped, ran', split⟩ := run_cons.mp ran
    cases stringStep_of_step inside stepped with
    | quote acc =>
      obtain rfl := Option.some.inj inside
      obtain rfl : s = acc.reverse := by simp_all
      simp [Mode.pending]
    | plain _ isPlain => simp [isPlain_quote] at isPlain
    | simple _ escape => simp [blocks _] at ran'
    | digit _ isDigit | unit _ isDigit | surrogate _ isDigit => simp [hexDigit_quote] at isDigit
  | cons c x ih =>
    simp only [List.mem_cons, not_or] at noQuote
    obtain ⟨next, first, rest, stepped, ran', split⟩ := run_cons.mp ran
    have more {next : Mode} {acc : List Char} {rest : List Token}
        (ran' : run next (x ++ '"' :: y) = some (m', rest)) (split : .str s :: ts = [] ++ rest)
        (inside : next.acc? = some acc) := ih inside noQuote.2 (split ▸ ran')
    have backslash := escapes '\\' (by simp [escapeChars])
    have letterU := escapes 'u' (by simp [escapeChars])
    have step := stringStep_of_step inside stepped
    cases step <;> obtain rfl := Option.some.inj inside
    case quote => simp at noQuote
    case plain isPlain =>
      have rest := more ran' split rfl
      simp only [Mode.pending, List.countP_cons] at rest ⊢
      omega
    case simple d _ escape =>
      have rest := more ran' split rfl
      have le : (if p d = true then 1 else 0) ≤ (if p c = true then 1 else 0) := by
        rcases simpleEscape_eq_some escape with rfl | mem
        · exact le_rfl
        · simp only [escapes c mem, if_true]
          split <;> omega
      simp only [Mode.pending, List.countP_cons] at rest ⊢
      omega
    case unit d _ _ =>
      have rest := more ran' split rfl
      have le : (if p d = true then 1 else 0) ≤ 1 := by split <;> omega
      simp only [Mode.pending, List.countP_cons] at rest ⊢
      omega
    all_goals
      have rest := more ran' split rfl
      simp only [Mode.pending, List.countP_cons, backslash, letterU, if_true] at rest ⊢
      omega

/-- A string with as many characters as its text has no escapes. -/
theorem plain_of_countP {acc : List Char} (escapes : ∀ c ∈ escapeChars, p c = true)
    (noQuote : '"' ∉ x) (blocks : Blocks y)
    (ran : run (.str acc) (x ++ '"' :: y) = some (m', .str s :: ts))
    (whole : s.countP p = acc.countP p + x.countP p) : ∀ c ∈ x, isPlain c = true := by
  induction x generalizing acc with
  | nil => simp
  | cons c x ih =>
    simp only [List.mem_cons, not_or] at noQuote
    obtain ⟨next, first, rest, stepped, ran', split⟩ := run_cons.mp ran
    cases stringStep_of_step rfl stepped with
    | quote => simp at noQuote
    | plain _ isPlain =>
      obtain rfl : rest = .str s :: ts := by simpa using split.symm
      have rest := ih noQuote.2 ran' (by simp only [List.countP_cons] at whole ⊢; omega)
      simpa [isPlain] using rest
    | backslash =>
      obtain rfl : rest = .str s :: ts := by simpa using split.symm
      have less := countP_of_run_string rfl escapes noQuote.2 blocks ran'
      have backslash := escapes '\\' (by simp [escapeChars])
      simp only [List.countP_cons, backslash, if_true, Mode.pending] at whole less
      omega

/-- Whether the text comes to a quote behind which there is nothing to be read. -/
def blocked : List Char → Bool
  | [] => false
  | c :: text => if c = '"' then (run .top text).isNone else isPlain c && blocked text

theorem blocks_of_blocked (h : blocked y = true) : Blocks (y ++ x) := by
  intro acc
  rw [Option.eq_none_iff_forall_ne_some]
  rintro ⟨m, ts⟩ ran
  induction y generalizing acc ts with
  | nil => simp [blocked] at h
  | cons c y ih =>
    obtain ⟨next, first, rest, stepped, ran', rfl⟩ := run_cons.mp ran
    cases stringStep_of_step rfl stepped with
    | quote =>
      obtain ⟨mid, first, last, before, -, -⟩ := run_append.mp ran'
      simp [blocked, before] at h
    | plain _ isPlain =>
      have other : c ≠ '"' := by
        rintro rfl
        simp [isPlain_quote] at isPlain
      exact ih (by simpa [blocked, other, isPlain] using h) (c :: acc) rest ran'
    | backslash => simp [blocked, isPlain] at h

end Literals

section Weights

/-- Characters that a string has for an escape only. -/
def weight (s : List Char) : Nat := s.countP fun c => c = '"' || c = '\\'

def Token.weight : Token → Nat
  | .str s => Json.weight s
  | _ => 0

def totalWeight (ts : List Token) : Nat := (ts.map Token.weight).sum

def Mode.weight : Mode → Nat
  | .top => 0
  | .word _ => 0
  | .str acc => Json.weight acc
  | .escape acc => Json.weight acc + 1
  | .hex _ _ _ acc => Json.weight acc + 1
  | .low _ acc => Json.weight acc + 1
  | .lowEscape _ acc => Json.weight acc + 1

variable {m m' : Mode} {c d : Char} {acc s text : List Char} {ts us : List Token}

@[simp] theorem weight_reverse : weight s.reverse = weight s := List.countP_reverse

theorem weight_cons_le (d : Char) (acc : List Char) : weight (d :: acc) ≤ weight acc + 1 := by
  simp only [weight, List.countP_cons]
  split <;> omega

theorem weight_cons_of_isPlain (isPlain : isPlain c = true) : weight (c :: acc) = weight acc := by
  simp_all [weight, Json.isPlain]

@[simp] theorem totalWeight_append :
    totalWeight (ts ++ us) = totalWeight ts + totalWeight us := by
  simp [totalWeight]

theorem totalWeight_eq_sum (ts : List Token) :
    totalWeight ts = ((ts.filterMap Token.str?).map weight).sum := by
  induction ts with
  | nil => rfl
  | cons t ts ih =>
    have split : totalWeight (t :: ts) = t.weight + totalWeight ts := by simp [totalWeight]
    cases t <;> simp [split, ih, Token.weight, List.filterMap_cons, Token.str?]

theorem weight_eq_count (s : List Char) : weight s = s.count '"' + s.count '\\' := by
  induction s with
  | nil => rfl
  | cons c s ih =>
    simp only [weight, List.countP_cons, List.count_cons] at ih ⊢
    grind

theorem weight_start (c : Char) : totalWeight (start c).2 = 0 ∧ (start c).1.weight = 0 := by
  unfold start
  split_ifs <;> exact ⟨rfl, rfl⟩

theorem weight_step (stepped : step c m = some (m', ts)) :
    totalWeight ts + m'.weight ≤ m.weight + [c].count '\\' := by
  have outside := weight_start c
  cases inside : m.acc? with
  | some acc =>
    cases stringStep_of_step inside stepped with
    | quote acc => simp [totalWeight, Token.weight, Mode.weight]
    | plain acc isPlain => simp [totalWeight, Mode.weight, weight_cons_of_isPlain isPlain]
    | @simple _ d acc | @unit _ _ _ _ d acc =>
      have here := weight_cons_le d acc
      simp only [totalWeight, Mode.weight, List.map_nil, List.sum_nil]
      omega
    | _ => simp [totalWeight, Mode.weight]
  | none =>
    cases m with
    | top =>
      have same : start c = (m', ts) := by simpa [step] using stepped
      simp only [same] at outside
      omega
    | word acc =>
      simp only [step] at stepped
      split at stepped
      · obtain ⟨rfl, rfl⟩ := by simpa using stepped
        simp [totalWeight, Mode.weight]
      · split at stepped
        · obtain ⟨rfl, rfl⟩ := by simpa using stepped
          have word : totalWeight (.word acc.reverse :: (start c).2) = totalWeight (start c).2 := by
            simp [totalWeight, Token.weight]
          omega
        · cases stepped
    | _ => simp [Mode.acc?] at inside

/-- Each such character has a backslash of its own in the text. -/
theorem weight_run (ran : run m text = some (m', ts)) :
    totalWeight ts + m'.weight ≤ m.weight + text.count '\\' := by
  induction text generalizing m ts with
  | nil =>
    obtain ⟨rfl, rfl⟩ := by simpa [run] using ran
    simp [totalWeight]
  | cons c text ih =>
    obtain ⟨next, first, rest, stepped, ran', rfl⟩ := run_cons.mp ran
    have here := weight_step stepped
    have there := ih ran'
    have split : (c :: text).count '\\' = [c].count '\\' + text.count '\\' := by
      rw [← List.count_append, List.singleton_append]
    rw [totalWeight_append]
    omega

end Weights

section Exactness
variable {σ : Filling} {text : List Char} {ts us : List Token} {m : Mode} {c : Char}

/-- The text up to the quote that ends a string, if it is free of escapes. -/
theorem exists_of_run_str {acc : List Char} (noEscape : '\\' ∉ text)
    (ran : run (.str acc) text = some (.top, ts)) :
    ∃ x rest us, text = x ++ '"' :: rest ∧ (∀ c ∈ x, isPlain c = true) ∧
      run .top rest = some (.top, us) ∧ ts = .str (acc.reverse ++ x) :: us := by
  induction text generalizing acc ts with
  | nil => simp [run] at ran
  | cons c text ih =>
    obtain ⟨next, first, rest, stepped, ran', rfl⟩ := run_cons.mp ran
    cases stringStep_of_step rfl stepped with
    | quote => exact ⟨[], text, rest, rfl, by simp, ran', by simp⟩
    | plain _ isPlain =>
      obtain ⟨x, rest', us, rfl, plain, last, rfl⟩ := ih (fun mem => noEscape (by simp [mem])) ran'
      refine ⟨c :: x, rest', us, rfl, ?_, last, by simp⟩
      simpa [isPlain] using plain
    | backslash => simp at noEscape

/-- The text up to the character that ends a word. -/
theorem exists_of_run_word {acc : List Char} (ran : run (.word acc) text = some (.top, ts)) :
    ∃ x d rest us, text = x ++ d :: rest ∧ (∀ c ∈ x, isWordChar c = true) ∧
      isWordChar d = false ∧ isWord (acc.reverse ++ x) = true ∧
      run .top (d :: rest) = some (.top, us) ∧ ts = .word (acc.reverse ++ x) :: us := by
  induction text generalizing acc ts with
  | nil => simp [run] at ran
  | cons c text ih =>
    obtain ⟨next, first, rest, stepped, ran', rfl⟩ := run_cons.mp ran
    simp only [step] at stepped
    split at stepped
    next wordChar =>
      obtain ⟨rfl, rfl⟩ := by simpa using stepped
      obtain ⟨x, d, rest', us, rfl, chars, other, word, last, rfl⟩ := ih ran'
      refine ⟨c :: x, d, rest', us, rfl, ?_, other, by simpa using word, last, by simp⟩
      simpa [wordChar] using chars
    next other =>
      split at stepped
      next word =>
        obtain ⟨rfl, rfl⟩ := by simpa using stepped
        refine ⟨[], c, text, (start c).2 ++ rest, rfl, by simp, by simpa using other,
          by simpa using word, ?_, by simp⟩
        exact run_cons.mpr ⟨_, _, rest, rfl, ran', rfl⟩
      next => cases stepped

theorem run_wordChars (acc : List Char) {x : List Char} (chars : ∀ c ∈ x, isWordChar c = true) :
    run (.word acc) x = some (.word (x.reverse ++ acc), []) := by
  induction x generalizing acc with
  | nil => rfl
  | cons c x ih =>
    have here : step c (.word acc) = some (.word (c :: acc), []) := by
      simp [step, chars c (by simp)]
    have rest := @ih (c :: acc) fun d mem => chars d (by simp [mem])
    rw [run, here]
    simp [rest]

/-- A text may stand where a word stands, and comes to these tokens. -/
def StandsFor (x : List Char) (us : List Token) : Prop :=
  ∀ ⦃rest m ts d⦄, isWordChar d = false → (run .top (x ++ d :: rest) = some (m, ts) ↔
    ∃ vs, run .top (d :: rest) = some (m, vs) ∧ ts = us ++ vs)

/-- A text that is a word of its own. -/
structure IsWordText (x : List Char) : Prop where
  nonempty : x ≠ []
  chars : ∀ c ∈ x, isWordChar c = true
  word : isWord x = true

theorem start_of_isWordChar (h : isWordChar c = true) : start c = (.word [c], []) := by
  simp only [isWordChar, Bool.and_eq_true, Bool.not_eq_true', decide_eq_true_eq] at h
  simp [start, h]

/-- A character between two tokens. -/
theorem start_of_not_isWordChar (h : isWordChar c = false) (other : c ≠ '"') :
    start c = (.top, if isSpace c then [] else [.punct c]) := by
  unfold start
  split
  · rfl
  · have punct : isPunct c = true := by simp_all [isWordChar]
    simp [punct]

theorem IsWordText.run_top {x : List Char} (h : IsWordText x) :
    run .top x = some (.word x.reverse, []) := by
  obtain ⟨nonempty, chars, -⟩ := h
  cases x with
  | nil => contradiction
  | cons c x =>
    have first : step c .top = some (start c) := rfl
    have rest := run_wordChars [c] fun d mem => chars d (List.mem_cons_of_mem c mem)
    simp [run, first, start_of_isWordChar (chars c (by simp)), rest]

theorem run_top_cons : run .top (c :: text) = some (m, ts) ↔
    ∃ rest, run (start c).1 text = some (m, rest) ∧ ts = (start c).2 ++ rest := by
  rw [run_cons, show step c .top = some (start c) from rfl]
  constructor
  · rintro ⟨_, _, rest, stepped, last, rfl⟩
    obtain ⟨rfl, rfl⟩ := Prod.mk.inj (Option.some.inj stepped)
    exact ⟨rest, last, rfl⟩
  · rintro ⟨rest, last, rfl⟩
    exact ⟨_, _, rest, rfl, last, rfl⟩

/-- A word is read as a token if a character follows that is not of it. -/
theorem IsWordText.standsFor {x : List Char} (h : IsWordText x) : StandsFor x [.word x] := by
  intro rest m ts d other
  have flush : step d (.word x.reverse) = some ((start d).1, .word x :: (start d).2) := by
    simp [step, other, h.word]
  rw [run_append, h.run_top]
  simp [run_top_cons, run_cons (m := .word x.reverse), flush]

/-- A text that is complete may stand anywhere. -/
theorem standsFor_of_run {x : List Char} {us : List Token} (ran : run .top x = some (.top, us)) :
    StandsFor x us := by
  intro rest m ts d _
  simp [run_append, ran]

theorem getLast?_closed (bracket : Char) (items : List (List Token)) :
    (closed bracket items).getLast? = some (.punct bracket) := by
  match items with
  | [] => rfl
  | [item] => simp [closed]
  | item :: item' :: items =>
    have rest := getLast?_closed bracket (item' :: items)
    rw [closed, List.getLast?_append, List.getLast?_cons, rest]
    · rfl
    · simp

/-- A list is complete at its bracket. -/
theorem Denotes.run_arr {x : List Char} {vs : List Json} (denotes : Denotes x (.arr vs)) :
    run .top x = some (.top, (arr vs).tokens) := by
  obtain ⟨mid, first, rest, ran, last, split⟩ := run_append.mp (lex_eq_some.mp denotes)
  obtain ⟨next, ts, us, stepped, ends, rfl⟩ := run_cons.mp last
  obtain ⟨rfl, rfl⟩ : next = .top ∧ us = [] := by simpa [run, eq_comm] using ends
  have closes : (arr vs).tokens.getLast? = some (.punct ']') := by
    simp [tokens, List.getLast?_cons, getLast?_closed]
  have space : start ' ' = (.top, []) := by decide
  cases inside : mid.acc? with
  | some acc => cases stringStep_of_step inside stepped
  | none =>
    cases mid with
    | top =>
      obtain rfl : ts = [] := by simp_all [step]
      simpa [split] using ran
    | word acc =>
      have other : isWordChar ' ' = false := by decide
      simp only [step, other, space, Bool.false_eq_true, if_false] at stepped
      split at stepped
      · obtain rfl : ts = [.word acc.reverse] := by simpa [eq_comm] using stepped
        simp [split] at closes
      · cases stepped
    | _ => simp [Mode.acc?] at inside

/-- Plain text in quotes is read as a token. -/
theorem run_str_append {acc x rest : List Char} (plain : ∀ c ∈ x, isPlain c = true) :
    run (.str acc) (x ++ '"' :: rest) = some (m, ts) ↔
      ∃ us, run .top rest = some (m, us) ∧ ts = .str (acc.reverse ++ x) :: us := by
  have close : step '"' (.str (x.reverse ++ acc)) = some (.top, [.str (acc.reverse ++ x)]) := by
    simp [step]
  simp [run_append_of (run_plain plain), run_cons, close]

theorem run_quoted_append {x rest : List Char} (plain : ∀ c ∈ x, isPlain c = true) :
    run (.str []) (x ++ '"' :: rest) = some (m, ts) ↔
      ∃ us, run .top rest = some (m, us) ∧ ts = .str x :: us :=
  run_str_append plain

/-- A template gives the value with the texts put in, if and only if those in strings are plain. -/
theorem run_flatMap_iff (fixed : ∀ c, isWordChar c = false → σ.text c = [c]) (noEscape : '\\' ∉ text)
    (ran : run .top text = some (.top, ts)) 
    (words : ∀ w, .word w ∈ ts → StandsFor (w.flatMap σ.text) (σ.value w).tokens) :
    run .top (text.flatMap σ.text) = some (.top, ts.flatMap (Token.fill σ)) ↔
      ∀ s, .str s ∈ ts → ∀ c ∈ s.flatMap σ.text, isPlain c = true := by
  induction size : text.length using Nat.strong_induction_on generalizing text ts with
  | _ size ih =>
  cases text with
  | nil =>
    obtain rfl : ts = [] := by simpa [run] using ran.symm
    simp [run]
  | cons c text =>
    subst size
    obtain ⟨rest, last, rfl⟩ := run_top_cons.mp ran
    by_cases wordChar : isWordChar c = true
    · rw [start_of_isWordChar wordChar] at last words ⊢
      obtain ⟨x, d, more, us, rfl, -, other, -, tail, rfl⟩ := exists_of_run_word last
      have tail := ih _ (by simp) (fun mem => noEscape (by simp at mem ⊢; tauto)) tail
        (fun w mem => words w (by simp [mem])) rfl
      have shape : (c :: (x ++ d :: more)).flatMap σ.text =
          (c :: x).flatMap σ.text ++ d :: more.flatMap σ.text := by simp [fixed d other]
      have word := words (c :: x) (by simp)
      rw [List.flatMap_cons, fixed d other, List.singleton_append] at tail
      rw [shape, word other]
      simpa [Token.fill] using tail
    · have self := fixed c (by simpa using wordChar)
      by_cases quote : c = '"'
      · subst quote
        have opens : start '"' = (.str [], []) := by decide
        rw [opens] at last words ⊢
        obtain ⟨x, more, us, rfl, -, tail, rfl⟩ :=
          exists_of_run_str (fun mem => noEscape (by simp [mem])) last
        have tail := ih _ (by simp; omega) (fun mem => noEscape (by simp [mem])) tail
          (fun w mem => words w (by simp [mem])) rfl
        have shape : ('"' :: (x ++ '"' :: more)).flatMap σ.text =
            '"' :: (x.flatMap σ.text ++ '"' :: more.flatMap σ.text) := by simp [self]
        rw [shape, run_top_cons, opens]
        constructor
        · rintro ⟨rest, filled, same⟩
          obtain rfl : rest = .str (x.flatMap σ.text) :: us.flatMap (Token.fill σ) := by
            simpa [Token.fill] using same.symm
          have plain := plain_of_run_string filled
          obtain ⟨us', filled, same⟩ := (run_quoted_append plain).mp filled
          obtain rfl := (List.cons.inj same).2
          have others := tail.mp filled
          simpa using ⟨by simpa using plain, by simpa using others⟩
        · intro all
          have filled := tail.mpr fun s mem => all s (by simp [mem])
          exact ⟨_, (run_quoted_append (all x (by simp))).mpr ⟨_, filled, rfl⟩, by simp [Token.fill]⟩
      · have between := start_of_not_isWordChar (by simpa using wordChar) quote
        rw [between] at last words ⊢
        have tail := ih _ (by simp) (fun mem => noEscape (by simp [mem])) last
          (fun w mem => words w (by simp [mem])) rfl
        rw [List.flatMap_cons, self, List.singleton_append, run_top_cons, between]
        split <;> simpa [Token.fill] using tail

/-- A template denotes the value with all the texts put in, if and only if those in strings are
plain. -/
theorem denotes_fill_iff {v : Json} (fixed : ∀ c, isWordChar c = false → σ.text c = [c])
    (noEscape : '\\' ∉ text) (denotes : Denotes text v)
    (words : ∀ w, .word w ∈ v.tokens → StandsFor (w.flatMap σ.text) (σ.value w).tokens) :
    Denotes (text.flatMap σ.text) (v.fill σ) ↔
      ∀ s, .str s ∈ v.tokens → ∀ c ∈ s.flatMap σ.text, isPlain c = true := by
  have space : [' '].flatMap σ.text = [' '] := by simp [fixed ' ' (by decide)]
  rw [Denotes, lex_eq_some, tokens_fill, ← space, ← List.flatMap_append]
  refine run_flatMap_iff fixed ?_ (lex_eq_some.mp denotes) words
  simpa using noEscape

end Exactness

end Json

end Foundation
