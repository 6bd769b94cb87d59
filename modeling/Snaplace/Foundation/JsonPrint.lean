import Snaplace.Foundation.JsonTemplate
import Snaplace.Foundation.Text

/-!
# Printing JSON

The compact text of a value, which denotes the value again.
-/
namespace Foundation

namespace Json

section Printing

def hexChar (n : Nat) : Char := if n < 10 then Char.ofNat (48 + n) else Char.ofNat (87 + n)

def escapeChar (c : Char) : List Char :=
  if c = '"' then ['\\', '"']
  else if c = '\\' then ['\\', '\\']
  else if c.toNat = 8 then ['\\', 'b']
  else if c.toNat = 9 then ['\\', 't']
  else if c.toNat = 10 then ['\\', 'n']
  else if c.toNat = 12 then ['\\', 'f']
  else if c.toNat = 13 then ['\\', 'r']
  else if c.toNat < 0x20 then ['\\', 'u', '0', '0', hexChar (c.toNat / 16), hexChar (c.toNat % 16)]
  else [c]

def printString (s : List Char) : List Char := '"' :: (s.flatMap escapeChar ++ ['"'])

/-- Items, the commas between them, and the bracket behind them. -/
def closedText (bracket : Char) : List (List Char) → List Char
  | [] => [bracket]
  | [item] => item ++ [bracket]
  | item :: items => item ++ ',' :: closedText bracket items

mutual

def print : Json → List Char
  | .word text => text
  | .str s => printString s
  | .arr elems => '[' :: closedText ']' (printElems elems)
  | .obj members => '{' :: closedText '}' (printMembers members)

def printElems : List Json → List (List Char)
  | [] => []
  | v :: vs => print v :: printElems vs

def printMembers : List (List Char × Json) → List (List Char)
  | [] => []
  | m :: ms => printMember m :: printMembers ms

def printMember : List Char × Json → List Char
  | (key, v) => printString key ++ ':' :: print v

end

variable {acc s : List Char}

theorem run_escapeChar (c : Char) :
    run (.str acc) (escapeChar c) = some (.str (c :: acc), []) := by
  by_cases control : c.toNat < 0x20
  · have escaped : ∀ n < 0x20, run (.str acc) (escapeChar (Char.ofNat n)) =
        some (.str (Char.ofNat n :: acc), []) := by
      intro n small
      interval_cases n <;> rfl
    simpa using escaped c.toNat control
  · by_cases quote : c = '"'
    · subst quote
      rfl
    · by_cases backslash : c = '\\'
      · subst backslash
        rfl
      · have unescaped : escapeChar c = [c] := by
          unfold escapeChar
          split_ifs <;> first | rfl | omega
        have plain : isPlain c = true := by
          simpa [isPlain, quote, backslash] using control
        rw [unescaped]
        exact run_plain (by simpa using plain)

theorem run_escaped : run (.str acc) (s.flatMap escapeChar) = some (.str (s.reverse ++ acc), []) := by
  induction s generalizing acc with
  | nil => rfl
  | cons c s ih =>
    rw [List.flatMap_cons, List.reverse_cons, List.append_assoc]
    exact run_append.mpr ⟨_, [], [], run_escapeChar c, @ih (c :: acc), rfl⟩

theorem run_printString : run .top (printString s) = some (.top, [.str s]) := by
  refine run_top_cons.mpr ⟨[.str s], ?_, rfl⟩
  refine run_append.mpr ⟨_, [], [.str s], run_escaped, ?_, rfl⟩
  simp [run, step]

/-- The texts of the items may be put together. -/
theorem run_closedText {α : Type} {f : α → List Char} {g : α → List Token} {bracket : Char}
    (closing : bracket = ']' ∨ bracket = '}') {items : List α}
    (stand : ∀ i ∈ items, StandsFor (f i) (g i)) :
    run .top (closedText bracket (items.map f)) =
      some (.top, closed bracket (items.map g)) := by
  have last : run .top [bracket] = some (.top, [.punct bracket]) := by
    rcases closing with rfl | rfl <;> decide
  have other : isWordChar bracket = false := by rcases closing with rfl | rfl <;> decide
  match items with
  | [] => exact last
  | [i] => exact (stand i (by simp) other).mpr ⟨_, last, rfl⟩
  | i :: j :: items =>
    have others : ∀ k ∈ j :: items, StandsFor (f k) (g k) := fun k mem => stand k (by simp [mem])
    have rest := run_closedText closing others
    exact (stand i (by simp) (by decide)).mpr ⟨_, run_top_cons.mpr ⟨_, rest, rfl⟩, rfl⟩

theorem mem_closed (bracket : Char) {items : List (List Token)} {item : List Token} {t : Token}
    (mem : item ∈ items) (here : t ∈ item) : t ∈ closed bracket items := by
  match items with
  | [i] => simp_all [closed]
  | i :: j :: items =>
    change t ∈ i ++ .punct ',' :: closed bracket (j :: items)
    rcases List.mem_cons.mp mem with rfl | mem
    · simp [here]
    · have rest := mem_closed bracket mem here
      simp [rest]

theorem of_mem_closed {bracket : Char} {items : List (List Token)} {t : Token}
    (mem : t ∈ closed bracket items) : (∃ c, t = .punct c) ∨ ∃ item ∈ items, t ∈ item := by
  match items with
  | [] => exact .inl ⟨bracket, by simpa [closed] using mem⟩
  | [item] =>
    rcases List.mem_append.mp mem with here | punct
    · exact .inr ⟨item, by simp, here⟩
    · exact .inl ⟨bracket, by simpa using punct⟩
  | item :: item' :: items =>
    change t ∈ item ++ .punct ',' :: closed bracket (item' :: items) at mem
    rcases List.mem_append.mp mem with here | there
    · exact .inr ⟨item, by simp, here⟩
    · rcases List.mem_cons.mp there with rfl | there
      · exact .inl ⟨',', rfl⟩
      · rcases of_mem_closed there with punct | ⟨other, among, here⟩
        · exact .inl punct
        · exact .inr ⟨other, List.mem_cons_of_mem item among, here⟩

theorem StandsFor.after {x y : List Char} {us vs : List Token} (h : StandsFor y vs)
    (ran : run .top x = some (.top, us)) : StandsFor (x ++ y) (us ++ vs) := by
  intro rest m ts d other
  rw [List.append_assoc, run_append, ran]
  simp [h other]

/-- All words of the value are such. -/
def Proper (v : Json) : Prop := ∀ w, .word w ∈ v.tokens → IsWordText w

/-- A list of strings has no words. -/
theorem proper_strings (ss : List (List Char)) : (arr (ss.map str)).Proper := by
  intro w here
  simp only [tokens, elemsTokens_eq_map, List.mem_cons, reduceCtorEq, false_or] at here
  obtain ⟨c, punct⟩ | ⟨item, among, here⟩ := of_mem_closed here
  · cases punct
  · obtain ⟨v, mem, rfl⟩ := List.mem_map.mp among
    obtain ⟨s, -, rfl⟩ := List.mem_map.mp mem
    simp [tokens] at here

theorem Proper.elem {elems : List Json} {v : Json} (h : (arr elems).Proper) (mem : v ∈ elems) :
    v.Proper := by
  intro w here
  refine h w (List.mem_cons_of_mem _ (mem_closed _ ?_ here))
  rw [elemsTokens_eq_map]
  exact List.mem_map_of_mem mem

theorem Proper.member {members : List (List Char × Json)} {m : List Char × Json}
    (h : (obj members).Proper) (mem : m ∈ members) : m.2.Proper := by
  obtain ⟨key, v⟩ := m
  intro w here
  refine h w (List.mem_cons_of_mem _ (mem_closed _ (?_ : memberTokens (key, v) ∈ _) ?_))
  · rw [membersTokens_eq_map]
    exact List.mem_map_of_mem mem
  · exact List.mem_cons_of_mem _ (List.mem_cons_of_mem _ here)

theorem printElems_eq_map (vs : List Json) : printElems vs = vs.map print := by
  induction vs with
  | nil => rfl
  | cons v vs ih => rw [printElems, ih, List.map_cons]

theorem printMembers_eq_map (ms : List (List Char × Json)) :
    printMembers ms = ms.map printMember := by
  induction ms with
  | nil => rfl
  | cons m ms ih => rw [printMembers, ih, List.map_cons]

mutual

theorem standsFor_print : ∀ v : Json, v.Proper → StandsFor v.print v.tokens
  | .word text, proper => (proper text (by simp [tokens])).standsFor
  | .str s, _ => standsFor_of_run run_printString
  | .arr elems, proper => by
    have items := run_closedText (.inl rfl)
      (standsFor_printElems elems fun v mem => proper.elem mem)
    rw [← printElems_eq_map, ← elemsTokens_eq_map] at items
    exact standsFor_of_run (run_top_cons.mpr ⟨_, items, rfl⟩)
  | .obj members, proper => by
    have items := run_closedText (.inr rfl)
      (standsFor_printMembers members fun m mem => proper.member mem)
    rw [← printMembers_eq_map, ← membersTokens_eq_map] at items
    exact standsFor_of_run (run_top_cons.mpr ⟨_, items, rfl⟩)

theorem standsFor_printElems : ∀ vs : List Json, (∀ v ∈ vs, v.Proper) →
    ∀ v ∈ vs, StandsFor v.print v.tokens
  | [], _, _, mem => by simp at mem
  | w :: ws, proper, v, mem => by
    rcases List.mem_cons.mp mem with same | mem
    · exact same ▸ standsFor_print w (proper w (by simp))
    · exact standsFor_printElems ws (fun v mem => proper v (by simp [mem])) v mem

theorem standsFor_printMembers : ∀ ms : List (List Char × Json), (∀ m ∈ ms, m.2.Proper) →
    ∀ m ∈ ms, StandsFor (printMember m) (memberTokens m)
  | [], _, _, mem => by simp at mem
  | n :: ns, proper, m, mem => by
    rcases List.mem_cons.mp mem with same | mem
    · exact same ▸ standsFor_printMember n (proper n (by simp))
    · exact standsFor_printMembers ns (fun m mem => proper m (by simp [mem])) m mem

theorem standsFor_printMember : ∀ m : List Char × Json, m.2.Proper →
    StandsFor (printMember m) (memberTokens m)
  | (key, v), proper => by
    have name : run .top (printString key ++ [':']) = some (.top, [.str key, .punct ':']) :=
      run_append.mpr ⟨_, _, [.punct ':'], run_printString, by decide, rfl⟩
    have whole := (standsFor_print v proper).after name
    simpa [printMember, memberTokens] using whole

end

/-- What is printed denotes what was to be printed. -/
theorem denotes_print {v : Json} (proper : v.Proper) : Denotes v.print v := by
  rw [Denotes, lex_eq_some]
  have space : run .top [' '] = some (.top, []) := by decide
  exact (standsFor_print v proper (by decide)).mpr ⟨[], space, by simp⟩

end Printing

section Numbers

theorem isWordChar_of_isDigit {c : Char} (digit : c.isDigit = true) : isWordChar c = true := by
  have range : 48 ≤ c.toNat ∧ c.toNat ≤ 57 := by
    simpa [Char.isDigit, UInt32.le_iff_toNat_le] using digit
  have other (d : Char) (outside : d.toNat < 48 ∨ 57 < d.toNat) : c ≠ d := by
    rintro rfl
    omega
  simp [isWordChar, isSpace, isPunct, other]

theorem isPlain_of_isDigit {c : Char} (digit : c.isDigit = true) : isPlain c = true := by
  have range : 48 ≤ c.toNat ∧ c.toNat ≤ 57 := by
    simpa [Char.isDigit, UInt32.le_iff_toNat_le] using digit
  have other (d : Char) (outside : d.toNat < 48 ∨ 57 < d.toNat) : c ≠ d := by
    rintro rfl
    omega
  simp [isPlain, other]
  omega

theorem isWord_of_isUnsigned {s : List Char} (h : isUnsigned s = true)
    (digits : ∀ c ∈ s, c.isDigit = true) : isWord s = true := by
  cases s with
  | nil => simp [isUnsigned] at h
  | cons c s =>
    have digit := digits c (by simp)
    have positive : c ≠ '-' := by
      rintro rfl
      simp at digit
    simp [isWord, positive, h]

/-- A natural number in decimal is a word. -/
theorem isWordText_decimal (n : Nat) : IsWordText (Text.decimal n) := by
  have digits := Text.decimal_isDigit (n := n)
  have nonempty := (Text.writes_decimal n).ne_nil
  have all : (Text.decimal n).takeWhile Char.isDigit = Text.decimal n :=
    List.takeWhile_eq_self_iff.mpr digits
  have nothing : (Text.decimal n).dropWhile Char.isDigit = [] :=
    List.dropWhile_eq_nil_iff.mpr digits
  have unsigned : isUnsigned (Text.decimal n) = true := by
    have head := Text.decimal_head n
    simp only [isUnsigned, all, nothing, isFraction, isExponent]
    rcases head with zero | other
    · simp [zero]
    · simp [other, nonempty]
  exact ⟨nonempty, fun c mem => isWordChar_of_isDigit (digits c mem),
    isWord_of_isUnsigned unsigned digits⟩

end Numbers

end Json

end Foundation
