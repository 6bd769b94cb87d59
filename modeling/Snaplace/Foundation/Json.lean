import Mathlib.Tactic

/-!
# JSON texts

A text is cut into tokens by a machine that takes a character at a time, and denotes the value of which
these are the tokens.
-/
namespace Foundation

/-- A word is `null`, `true`, `false` or a number, as it is written. -/
inductive Json where
  | word (text : List Char)
  | str (s : List Char)
  | arr (elems : List Json)
  | obj (members : List (List Char × Json))

namespace Json

inductive Token where
  | punct (c : Char)
  | word (text : List Char)
  | str (s : List Char)
  deriving DecidableEq, Repr

section Values

/-- Items, the commas between them, and the bracket behind them. -/
def closed (bracket : Char) : List (List Token) → List Token
  | [] => [.punct bracket]
  | [item] => item ++ [.punct bracket]
  | item :: items => item ++ .punct ',' :: closed bracket items

mutual

def tokens : Json → List Token
  | .word text => [.word text]
  | .str s => [.str s]
  | .arr elems => .punct '[' :: closed ']' (elemsTokens elems)
  | .obj members => .punct '{' :: closed '}' (membersTokens members)

def elemsTokens : List Json → List (List Token)
  | [] => []
  | v :: vs => tokens v :: elemsTokens vs

def membersTokens : List (List Char × Json) → List (List Token)
  | [] => []
  | m :: ms => memberTokens m :: membersTokens ms

def memberTokens : List Char × Json → List Token
  | (key, v) => .str key :: .punct ':' :: tokens v

end

theorem elemsTokens_eq_map (vs : List Json) : elemsTokens vs = vs.map tokens := by
  induction vs with
  | nil => rfl
  | cons v vs ih => rw [elemsTokens, ih, List.map_cons]

theorem membersTokens_eq_map (ms : List (List Char × Json)) :
    membersTokens ms = ms.map memberTokens := by
  induction ms with
  | nil => rfl
  | cons m ms ih => rw [membersTokens, ih, List.map_cons]

/-- The tokens of a thing tell where it ends. -/
def Delimited {α : Type} (f : α → List Token) (x : α) : Prop :=
  ∀ y rest rest', f x ++ rest = f y ++ rest' → x = y ∧ rest = rest'

/-- A thing does not begin like the end of a list. -/
def Begins {α : Type} (f : α → List Token) : Prop :=
  ∀ x rest rest' bracket, bracket = ']' ∨ bracket = '}' → f x ++ rest ≠ .punct bracket :: rest'

theorem begins_tokens : Begins tokens := by
  intro v rest rest' bracket closing
  cases v <;> simp [tokens] <;> rintro rfl <;> simp at closing

theorem begins_memberTokens : Begins memberTokens := by
  intro (key, v) rest rest' bracket closing
  simp [memberTokens]

theorem closed_append_inj {α : Type} {f : α → List Token} {bracket : Char} {xs ys : List α}
    {rest rest' : List Token} (closing : bracket = ']' ∨ bracket = '}') (begins : Begins f)
    (delimited : ∀ x ∈ xs, Delimited f x)
    (h : closed bracket (xs.map f) ++ rest = closed bracket (ys.map f) ++ rest') :
    xs = ys ∧ rest = rest' := by
  have comma : bracket ≠ ',' := by rcases closing with rfl | rfl <;> decide
  induction xs generalizing ys with
  | nil =>
    match ys with
    | [] => exact ⟨rfl, by simpa [closed] using h⟩
    | [y] => exact absurd (by simpa [closed] using h.symm) (begins y _ rest bracket closing)
    | y :: z :: ys => exact absurd (by simpa [closed] using h.symm) (begins y _ rest bracket closing)
  | cons x xs ih =>
    have first := delimited x (by simp)
    match xs, ys with
    | [], [] => exact absurd (by simpa [closed] using h) (begins x _ rest' bracket closing)
    | _ :: _, [] => exact absurd (by simpa [closed] using h) (begins x _ rest' bracket closing)
    | [], [y] =>
      obtain ⟨rfl, same⟩ := first y _ _ (by simpa [closed] using h)
      exact ⟨rfl, by simpa using same⟩
    | [], y :: z :: ys =>
      obtain ⟨rfl, same⟩ := first y _ _ (by simpa [closed] using h)
      simp [comma] at same
    | x' :: xs, [y] =>
      obtain ⟨rfl, same⟩ := first y _ _ (by simpa [closed] using h)
      simp [comma.symm] at same
    | x' :: xs, y :: z :: ys =>
      obtain ⟨rfl, same⟩ := first y _ _ (by simpa [closed] using h)
      obtain ⟨more, same⟩ := @ih (z :: ys) (fun w mem => delimited w (by simp [mem]))
        (by simpa using same)
      exact ⟨by rw [more], same⟩

mutual

theorem delimited_tokens : ∀ v, Delimited tokens v
  | .word text => by
    intro w rest rest' h
    cases w <;> simp_all [tokens]
  | .str s => by
    intro w rest rest' h
    cases w <;> simp_all [tokens]
  | .arr vs => by
    intro w rest rest' h
    cases w with
    | arr ws =>
      simp only [tokens, elemsTokens_eq_map, List.cons_append, List.cons.injEq, true_and] at h
      obtain ⟨rfl, same⟩ := closed_append_inj (.inl rfl) begins_tokens (delimited_elems vs) h
      exact ⟨rfl, same⟩
    | _ => simp [tokens] at h
  | .obj ms => by
    intro w rest rest' h
    cases w with
    | obj ns =>
      simp only [tokens, membersTokens_eq_map, List.cons_append, List.cons.injEq, true_and] at h
      obtain ⟨rfl, same⟩ := closed_append_inj (.inr rfl) begins_memberTokens (delimited_members ms) h
      exact ⟨rfl, same⟩
    | _ => simp [tokens] at h

theorem delimited_elems : ∀ vs : List Json, ∀ v ∈ vs, Delimited tokens v
  | [], _, mem => by simp at mem
  | w :: ws, v, mem => by
    rcases List.mem_cons.mp mem with same | mem
    · exact same ▸ delimited_tokens w
    · exact delimited_elems ws v mem

theorem delimited_members : ∀ ms : List (List Char × Json), ∀ m ∈ ms, Delimited memberTokens m
  | [], _, mem => by simp at mem
  | n :: ns, m, mem => by
    rcases List.mem_cons.mp mem with same | mem
    · exact same ▸ delimited_member n
    · exact delimited_members ns m mem

theorem delimited_member : ∀ m, Delimited memberTokens m
  | (key, v) => by
    intro (key', w) rest rest' h
    simp only [memberTokens, List.cons_append, List.cons.injEq, Token.str.injEq, true_and] at h
    obtain ⟨rfl, same⟩ := delimited_tokens v w rest rest' h.2
    exact ⟨by rw [h.1], same⟩

end

/-- A value is known by its tokens. -/
theorem tokens_injective : Function.Injective tokens := fun v w same =>
  (delimited_tokens v w [] [] (by rw [same])).1

section Strings

def Token.str? : Token → Option (List Char)
  | .str s => some s
  | _ => none

/-- The strings of a value, those that name members too. -/
def strings (v : Json) : List (List Char) := v.tokens.filterMap Token.str?

theorem strings_closed (bracket : Char) (items : List (List Token)) :
    (closed bracket items).filterMap Token.str? = (items.map (·.filterMap Token.str?)).flatten := by
  match items with
  | [] => rfl
  | [item] => simp [closed, Token.str?]
  | item :: item' :: items =>
    have rest := strings_closed bracket (item' :: items)
    rw [closed, List.filterMap_append, List.filterMap_cons, rest]
    · rfl
    · simp

theorem strings_arr_str (ss : List (List Char)) : (arr (ss.map str)).strings = ss := by
  simp only [strings, tokens, elemsTokens_eq_map, List.filterMap_cons, Token.str?, strings_closed,
    List.map_map]
  induction ss with
  | nil => rfl
  | cons s ss ih => simpa [tokens, Token.str?] using ih

end Strings

section Members

/-- The value of a member. -/
def member? (key : List Char) : Json → Option Json
  | .obj members => (members.find? (·.1 = key)).map (·.2)
  | _ => none

def asString : Json → Option (List Char)
  | .str s => some s
  | _ => none

def asStrings : Json → Option (List (List Char))
  | .arr elems => elems.mapM asString
  | _ => none

variable {v w : Json} {key s : List Char} {ss : List (List Char)}

theorem asString_eq_some : v.asString = some s ↔ v = .str s := by
  cases v <;> simp [asString]

theorem asStrings_eq_some : v.asStrings = some ss ↔ v = .arr (ss.map .str) := by
  have elems (vs : List Json) : vs.mapM asString = some ss ↔ vs = ss.map .str := by
    induction vs generalizing ss with
    | nil => cases ss <;> simp
    | cons v vs ih => cases ss <;> simp [asString_eq_some, ih, Option.bind_eq_some_iff]
  cases v <;> simp [asStrings, elems]

theorem strings_obj (members : List (List Char × Json)) :
    (obj members).strings = members.flatMap fun m => m.1 :: m.2.strings := by
  have member (m : List Char × Json) :
      (memberTokens m).filterMap Token.str? = m.1 :: m.2.strings := by
    obtain ⟨key, v⟩ := m
    simp [memberTokens, strings, List.filterMap_cons, Token.str?]
  simp only [strings, tokens, membersTokens_eq_map, List.filterMap_cons, Token.str?,
    strings_closed, List.map_map, List.flatMap_def]
  congr 1
  exact List.map_congr_left fun m _ => member m

theorem mem_of_member? {members : List (List Char × Json)}
    (found : (obj members).member? key = some w) : (key, w) ∈ members := by
  simp only [member?, Option.map_eq_some_iff] at found
  obtain ⟨⟨key', w⟩, found, rfl⟩ := found
  have same : key' = key := by simpa using List.find?_some found
  exact same ▸ List.mem_of_find?_eq_some found

/-- The strings of members with different keys are such of the value, each of its own. -/
theorem strings_subperm (v : Json) (found : List (List Char × Json)) (keys : (found.map Prod.fst).Nodup)
    (all : ∀ m ∈ found, v.member? m.1 = some m.2) (some : found ≠ []) :
    (found.flatMap fun m => m.2.strings).Subperm v.strings := by
  obtain ⟨m, mem⟩ := List.exists_mem_of_ne_nil found some
  cases v with
  | obj members =>
    have distinct : found.Nodup := keys.of_map Prod.fst
    obtain ⟨inner, perm, sub⟩ := List.subperm_of_subset distinct fun m mem =>
      mem_of_member? (all m mem)
    have values : (found.flatMap fun m => m.2.strings).Sublist
        (found.flatMap fun m => m.1 :: m.2.strings) :=
      List.Sublist.flatMap_right found fun m _ => List.sublist_cons_self m.1 m.2.strings
    have within : (found.flatMap fun m => m.1 :: m.2.strings).Subperm (obj members).strings := by
      rw [strings_obj]
      exact ⟨_, perm.flatMap_right _, sub.flatMap _⟩
    exact values.subperm.trans within
  | _ => simpa [member?] using all m mem
end Members

end Values

section Lexer

def isSpace (c : Char) : Bool := c = ' ' || c = '\t' || c = '\n' || c = '\r'

def isPunct (c : Char) : Bool :=
  c = '{' || c = '}' || c = '[' || c = ']' || c = ':' || c = ','

def isWordChar (c : Char) : Bool := !isSpace c && !isPunct c && c ≠ '"'

/-- May stand in a string as it is. -/
def isPlain (c : Char) : Bool := c ≠ '"' && c ≠ '\\' && 0x20 ≤ c.toNat

def isExponent : List Char → Bool
  | [] => true
  | c :: s =>
    let digits := match s with
      | '+' :: s => s
      | '-' :: s => s
      | s => s
    (c = 'e' || c = 'E') && !digits.isEmpty && digits.all Char.isDigit

def isFraction : List Char → Bool
  | '.' :: s => !(s.takeWhile Char.isDigit).isEmpty && isExponent (s.dropWhile Char.isDigit)
  | s => isExponent s

/-- An integer without leading zeros, and possibly a fraction and an exponent. -/
def isUnsigned (s : List Char) : Bool :=
  let int := s.takeWhile Char.isDigit
  (int = ['0'] || (!int.isEmpty && int.head? ≠ some '0')) && isFraction (s.dropWhile Char.isDigit)

def isWord (s : List Char) : Bool :=
  s = ['n', 'u', 'l', 'l'] || s = ['t', 'r', 'u', 'e'] || s = ['f', 'a', 'l', 's', 'e'] ||
    match s with
    | '-' :: s => isUnsigned s
    | s => isUnsigned s

/-- What the characters read since the last token belong to, the last of them first. -/
inductive Mode where
  | top
  | word (acc : List Char)
  | str (acc : List Char)
  | escape (acc : List Char)
  /-- Hexadecimal digits are left to read; after a high surrogate, of the low one. -/
  | hex (high : Option Nat) (left code : Nat) (acc : List Char)
  | low (high : Nat) (acc : List Char)
  | lowEscape (high : Nat) (acc : List Char)
  deriving DecidableEq, Repr

def hexDigit (c : Char) : Option Nat :=
  if c.isDigit then some (c.toNat - '0'.toNat)
  else if 'a' ≤ c ∧ c ≤ 'f' then some (c.toNat - 'a'.toNat + 10)
  else if 'A' ≤ c ∧ c ≤ 'F' then some (c.toNat - 'A'.toNat + 10)
  else none

def simpleEscape (c : Char) : Option Char :=
  if c = '"' ∨ c = '\\' ∨ c = '/' then some c
  else if c = 'b' then some (Char.ofNat 8)
  else if c = 'f' then some (Char.ofNat 12)
  else if c = 'n' then some '\n'
  else if c = 'r' then some '\r'
  else if c = 't' then some '\t'
  else none

def isHighSurrogate (code : Nat) : Bool := 0xD800 ≤ code && code < 0xDC00

def isLowSurrogate (code : Nat) : Bool := 0xDC00 ≤ code && code < 0xE000

/-- The character of a code, or of a pair of surrogates; neither may stand alone. -/
def codeUnit (high : Option Nat) (code : Nat) (acc : List Char) : Option Mode :=
  match high with
  | none =>
    if isHighSurrogate code then some (.low code acc)
    else if isLowSurrogate code then none
    else some (.str (Char.ofNat code :: acc))
  | some high =>
    if isLowSurrogate code then
      some (.str (Char.ofNat (0x10000 + (high - 0xD800) * 0x400 + (code - 0xDC00)) :: acc))
    else none

/-- A character outside of words and strings. -/
def start (c : Char) : Mode × List Token :=
  if isSpace c then (.top, [])
  else if isPunct c then (.top, [.punct c])
  else if c = '"' then (.str [], [])
  else (.word [c], [])

def step (c : Char) : Mode → Option (Mode × List Token)
  | .top => some (start c)
  | .word acc =>
    if isWordChar c then some (.word (c :: acc), [])
    else if isWord acc.reverse then some ((start c).1, .word acc.reverse :: (start c).2)
    else none
  | .str acc =>
    if c = '"' then some (.top, [.str acc.reverse])
    else if c = '\\' then some (.escape acc, [])
    else if isPlain c then some (.str (c :: acc), [])
    else none
  | .escape acc =>
    if c = 'u' then some (.hex none 4 0 acc, [])
    else (simpleEscape c).map fun d => (.str (d :: acc), [])
  | .hex high left code acc => do
    let digit ← hexDigit c
    if left ≤ 1 then
      let mode ← codeUnit high (code * 16 + digit) acc
      some (mode, [])
    else some (.hex high (left - 1) (code * 16 + digit) acc, [])
  | .low high acc => if c = '\\' then some (.lowEscape high acc, []) else none
  | .lowEscape high acc => if c = 'u' then some (.hex (some high) 4 0 acc, []) else none

/-- The mode after a text, and the tokens that end in it. -/
def run (m : Mode) : List Char → Option (Mode × List Token)
  | [] => some (m, [])
  | c :: text => do
    let (next, ts) ← step c m
    let (last, us) ← run next text
    some (last, ts ++ us)

/-- A space behind the text ends its last word, but no string. -/
def lex (text : List Char) : Option (List Token) :=
  match run .top (text ++ [' ']) with
  | some (.top, ts) => some ts
  | _ => none

/-- The text is valid, and this is its value. -/
def Denotes (text : List Char) (v : Json) : Prop := lex text = some v.tokens

instance (text : List Char) (v : Json) : Decidable (Denotes text v) :=
  inferInstanceAs (Decidable (_ = _))

variable {m m' : Mode} {text text' : List Char} {ts : List Token}

theorem Denotes.unique {v w : Json} (h : Denotes text v) (h' : Denotes text w) : v = w :=
  tokens_injective (Option.some.inj (h.symm.trans h'))

theorem run_cons {c : Char} : run m (c :: text) = some (m', ts) ↔
    ∃ next first rest, step c m = some (next, first) ∧ run next text = some (m', rest) ∧
      ts = first ++ rest := by
  simp only [run, bind, Option.bind_eq_some_iff, Option.some.injEq, Prod.mk.injEq, Prod.exists]
  constructor
  · rintro ⟨next, first, stepped, last, rest, ran, rfl, rfl⟩
    exact ⟨next, first, rest, stepped, ran, rfl⟩
  · rintro ⟨next, first, rest, stepped, ran, rfl⟩
    exact ⟨next, first, stepped, m', rest, ran, rfl, rfl⟩

theorem run_append : run m (text ++ text') = some (m', ts) ↔
    ∃ mid first rest, run m text = some (mid, first) ∧ run mid text' = some (m', rest) ∧
      ts = first ++ rest := by
  induction text generalizing m ts with
  | nil => simp [run]
  | cons c text ih =>
    simp only [List.cons_append, run_cons, ih]
    constructor
    · rintro ⟨next, first, _, stepped, ⟨mid, more, rest, ran, ran', rfl⟩, rfl⟩
      exact ⟨mid, first ++ more, rest, ⟨next, first, more, stepped, ran, rfl⟩, ran', by simp⟩
    · rintro ⟨mid, _, rest, ⟨next, first, more, stepped, ran, rfl⟩, ran', rfl⟩
      exact ⟨next, first, more ++ rest, stepped, ⟨mid, more, rest, ran, ran', rfl⟩, by simp⟩

theorem run_append_of {mid : Mode} {first : List Token} (ran : run m text = some (mid, first)) :
    run m (text ++ text') = some (m', ts) ↔
      ∃ rest, run mid text' = some (m', rest) ∧ ts = first ++ rest := by
  simp [run_append, ran]

theorem lex_eq_some : lex text = some ts ↔ run .top (text ++ [' ']) = some (.top, ts) := by
  unfold lex
  split
  next ts' ran => simp [ran]
  next other => simpa using fun ran => other ts ran

/-- Plain text in a string is what it says. -/
theorem run_plain {acc : List Char} (plain : ∀ c ∈ text, isPlain c = true) :
    run (.str acc) text = some (.str (text.reverse ++ acc), []) := by
  induction text generalizing acc with
  | nil => rfl
  | cons c text ih =>
    have here : step c (.str acc) = some (.str (c :: acc), []) := by
      have isPlain := plain c (by simp)
      have quote : c ≠ '"' ∧ c ≠ '\\' := by simp_all [Json.isPlain]
      simp [step, quote, isPlain]
    rw [run, here]
    have rest := @ih (c :: acc) fun d mem => plain d (by simp [mem])
    simp [rest]

end Lexer

end Json

end Foundation
