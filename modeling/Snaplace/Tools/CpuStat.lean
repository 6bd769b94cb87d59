import Snaplace.Foundation.Scan
import Snaplace.Foundation.Text

/-!
# The CPU times of a control group

The scanner of `cpu.stat` of `quick-cginfo`: one index over the bytes of the file, advanced by nested
loops, and numbers that are accumulated without a check of their own.
-/
namespace Snaplace
open Foundation Foundation.Scan

namespace CpuStat

inductive Error where
  | parse (name : String)
  deriving DecidableEq, Repr

/-- The counters, in microseconds. -/
structure CpuTimes where
  usageUsec : UInt64 := 0
  userUsec : UInt64 := 0
  systemUsec : UInt64 := 0
  throttledUsec : UInt64 := 0
  deriving DecidableEq, Repr

def newline : UInt8 := 10

def isWs (b : UInt8) : Bool := b = 32 || b = newline || b = 13 || b = 9

def isAsciiDigit (b : UInt8) : Bool := 48 ≤ b && b ≤ 57

def ascii (s : String) : List UInt8 := s.toList.map Char.toUInt8

/-- The loop of `parse_u64_trim`, from an index on. -/
def readDigits (checks : Bool) (bytes : List UInt8) (i : Nat) (v : UInt64) (any : Bool) :
    Except Fault (UInt64 × Bool) :=
  if i < bytes.length then do
    let b ← read bytes i
    if isAsciiDigit b then
      let v ← add checks (← mul checks v 10) (b - 48).toUInt64
      readDigits checks bytes (i + 1) v true
    else pure (v, any)
  else pure (v, any)
termination_by bytes.length - i

/-- A number after blanks. -/
def parseU64Trim (checks : Bool) (bytes : List UInt8) : Except Fault (Option UInt64) := do
  let i ← skipWhile isWs bytes 0
  let (v, any) ← readDigits checks bytes i 0 false
  pure (if any then some v else none)

def CpuTimes.assign (times : CpuTimes) (key : List UInt8) (val : UInt64) : CpuTimes :=
  if key = ascii "usage_usec" then { times with usageUsec := val }
  else if key = ascii "user_usec" then { times with userUsec := val }
  else if key = ascii "system_usec" then { times with systemUsec := val }
  else if key = ascii "throttled_usec" then { times with throttledUsec := val }
  else times

/-- The index behind the end of the line. -/
def nextLine (bytes : List UInt8) (i : Nat) : Except Fault Nat := do
  let i ← skipWhile (· ≠ newline) bytes i
  if i < bytes.length then
    if (← read bytes i) = newline then pure (i + 1) else pure i
  else pure i

abbrev Position := Nat × CpuTimes

/-- One turn of the main loop: a key, its value and the rest of the line. -/
def turn (checks : Bool) (bytes : List UInt8) :
    Position → Except Fault (Turn Position (Except Error CpuTimes))
  | (i, times) =>
    if i < bytes.length then do
      let keyStart ← skipWhile isWs bytes i
      if bytes.length ≤ keyStart then return .stop (.ok times)
      let keyEnd ← skipWhile (!isWs ·) bytes keyStart
      let key ← slice bytes keyStart keyEnd
      let valStart ← skipWhile isWs bytes keyEnd
      if bytes.length ≤ valStart then return .stop (.ok times)
      let valEnd ← skipWhile isAsciiDigit bytes valStart
      match ← parseU64Trim checks (← slice bytes valStart valEnd) with
      | none => pure (.stop (.error (.parse "cpu.stat")))
      | some val => pure (.again (← nextLine bytes valEnd, times.assign key val))
    else pure (.stop (.ok times))

/-- The times in the bytes of `cpu.stat`; `checks` tells whether the build checks for overflow. -/
def parseCpuStatTimes (checks : Bool) (bytes : List UInt8) : Except Fault (Except Error CpuTimes) :=
  loop (turn checks bytes) (bytes.length + 1) (0, {})

section Bounds
variable {checks : Bool} {bytes : List UInt8} {i : Nat}

theorem bounded_readDigits {v : UInt64} {any : Bool} :
    Bounded (fun _ => True) (readDigits checks bytes i v any) := by
  induction left : bytes.length - i generalizing i v any with
  | zero =>
    rw [readDigits, if_neg (by omega)]
    trivial
  | succ left ih =>
    rw [readDigits, if_pos (by omega)]
    refine (bounded_read (by omega)).bind fun b _ => ?_
    split
    · refine bounded_mul.bind fun tens _ => bounded_add.bind fun v _ => ?_
      exact ih (by omega)
    · trivial

theorem bounded_parseU64Trim : Bounded (fun _ => True) (parseU64Trim checks bytes) := by
  refine (bounded_skipWhile (Nat.zero_le _)).bind fun i _ => ?_
  exact bounded_readDigits.bind fun _ _ => trivial

theorem bounded_nextLine (inside : i ≤ bytes.length) :
    Bounded (fun j => i ≤ j ∧ j ≤ bytes.length) (nextLine bytes i) := by
  refine (bounded_skipWhile inside).bind fun j ⟨le, inside, _⟩ => ?_
  split
  next more =>
    refine (bounded_read more).bind fun b _ => ?_
    split
    · exact ⟨by omega, by omega⟩
    · exact ⟨by omega, by omega⟩
  next => exact ⟨by omega, by omega⟩

/-- A turn that is not the last one reads a key, so that the index goes on. -/
theorem turn_progresses {s : Position} (inside : s.1 ≤ bytes.length) :
    Bounded (Progresses (·.1 ≤ bytes.length) (bytes.length - ·.1) s) (turn checks bytes s) := by
  obtain ⟨i, times⟩ := s
  change i ≤ bytes.length at inside
  rw [turn]
  split
  next more =>
    refine (bounded_skipWhile inside).bind fun keyStart ⟨from_i, inside, solid, _⟩ => ?_
    split
    next => trivial
    next some =>
      refine (bounded_skipWhile inside).bind fun keyEnd ⟨_, inside', _, goesOn⟩ => ?_
      have longer : keyStart < keyEnd := by
        have here : bytes[keyStart]? = .some bytes[keyStart] := List.getElem?_eq_getElem (by omega)
        exact goesOn _ here (by simp [solid _ here])
      refine (bounded_slice (by omega) inside').bind fun key _ => ?_
      refine (bounded_skipWhile inside').bind fun valStart ⟨from_keyEnd, inside, _⟩ => ?_
      split
      next => trivial
      next =>
        refine (bounded_skipWhile inside).bind fun valEnd ⟨_, inside', _⟩ => ?_
        refine (bounded_slice (by omega) inside').bind fun digits _ => ?_
        refine bounded_parseU64Trim.bind fun val _ => ?_
        cases val with
        | none => trivial
        | some val =>
          refine (bounded_nextLine inside').bind fun next ⟨_, inside⟩ => ?_
          exact ⟨inside, show bytes.length - next < bytes.length - i by omega⟩
  next => trivial

/-- No bytes at all lead the scanner outside of them, or into a loop without an end. -/
theorem bounded_parseCpuStatTimes (checks : Bool) (bytes : List UInt8) :
    Bounded (fun _ => True) (parseCpuStatTimes checks bytes) :=
  bounded_loop (fun _ => turn_progresses) (Nat.zero_le _) (by simp)

end Bounds

section Numbers
variable {checks : Bool} {before digits rest : List UInt8}

/-- The number that a text of digits writes. -/
def value (digits : List UInt8) : Nat := Text.value (digits.map Char.ofUInt8)

theorem value_cons (b : UInt8) (digits : List UInt8) :
    value (b :: digits) = (b.toNat - 48) * 10 ^ digits.length + value digits := by
  have split := Text.value_cons (Char.ofUInt8 b) (digits.map Char.ofUInt8)
  rwa [List.length_map] at split

theorem toNat_of_isAsciiDigit {b : UInt8} (isDigit : isAsciiDigit b = true) :
    48 ≤ b.toNat ∧ (b - 48).toUInt64.toNat = b.toNat - 48 := by
  have range : 48 ≤ b ∧ b ≤ 57 := by simpa [isAsciiDigit] using isDigit
  have low : 48 ≤ b.toNat := UInt8.le_iff_toNat_le.mp range.1
  refine ⟨low, ?_⟩
  rw [UInt8.toNat_toUInt64, UInt8.toNat_sub_of_le _ _ range.1]
  rfl

/-- The number on the way is at most the last one, and so fits if this one does. -/
theorem readDigits_append (checks : Bool) (before : List UInt8) (v : UInt64) (any : Bool)
    (decimal : ∀ b ∈ digits, isAsciiDigit b = true)
    (fits : v.toNat * 10 ^ digits.length + value digits < 2 ^ 64) :
    readDigits checks (before ++ digits) before.length v any =
      .ok (UInt64.ofNat (v.toNat * 10 ^ digits.length + value digits), any || !digits.isEmpty) := by
  induction digits generalizing before v any with
  | nil =>
    rw [readDigits, if_neg (by simp)]
    simp [value, Text.value]
    rfl
  | cons b digits ih =>
    have isDigit := decimal b (by simp)
    obtain ⟨low, digit⟩ := toNat_of_isAsciiDigit isDigit
    have total : v.toNat * 10 ^ (b :: digits).length + value (b :: digits) =
        (v.toNat * 10 + (b.toNat - 48)) * 10 ^ digits.length + value digits := by
      rw [value_cons, List.length_cons, pow_succ]
      ring
    have grows : v.toNat * 10 + (b.toNat - 48) ≤
        (v.toNat * 10 + (b.toNat - 48)) * 10 ^ digits.length :=
      Nat.le_mul_of_pos_right _ (by positivity)
    rw [total] at fits ⊢
    have small : v.toNat * (10 : UInt64).toNat < 2 ^ 64 := by
      change v.toNat * 10 < 2 ^ 64
      omega
    have tens : (v * 10).toNat = v.toNat * 10 := toNat_mul_of_lt small
    have below : (v * 10).toNat + (b - 48).toUInt64.toNat < 2 ^ 64 := by omega
    have next : (v * 10 + (b - 48).toUInt64).toNat = v.toNat * 10 + (b.toNat - 48) := by
      rw [toNat_add_of_lt below, tens, digit]
    have here : read (before ++ b :: digits) before.length = .ok b := by simp [Scan.read]
    have shifted := ih (before ++ [b]) (v * 10 + (b - 48).toUInt64) true
      (fun c mem => decimal c (by simp [mem])) (by rw [next]; exact fits)
    have same : before ++ [b] ++ digits = before ++ b :: digits := by simp
    rw [next, same, List.length_append] at shifted
    rw [readDigits, if_pos (by simp), here]
    change (if isAsciiDigit b = true then _ else _) = _
    rw [if_pos isDigit, mul_of_lt small]
    change (add checks (v * 10) (b - 48).toUInt64 >>= _) = _
    rw [add_of_lt below, List.isEmpty_cons, Bool.not_false, Bool.or_true]
    exact shifted

theorem not_isWs_of_isAsciiDigit {b : UInt8} (isDigit : isAsciiDigit b = true) :
    isWs b = false := by
  have low := (toNat_of_isAsciiDigit isDigit).1
  have other (c : UInt8) (small : c.toNat < 48) : decide (b = c) = false := by
    refine decide_eq_false ?_
    intro same
    subst same
    omega
  simp only [isWs, newline, Bool.or_eq_false_iff]
  exact ⟨⟨⟨other 32 (by decide), other 10 (by decide)⟩, other 13 (by decide)⟩, other 9 (by decide)⟩

theorem parseU64Trim_digits (some : digits ≠ []) (decimal : ∀ b ∈ digits, isAsciiDigit b = true)
    (fits : value digits < 2 ^ 64) :
    parseU64Trim checks digits = .ok (.some (UInt64.ofNat (value digits))) := by
  have first : skipWhile isWs digits 0 = .ok 0 := by
    have ends : ∀ b ∈ digits.head?, isWs b = false := fun b head =>
      not_isWs_of_isAsciiDigit (decimal b (List.mem_of_mem_head? head))
    exact skipWhile_stays [] ends
  have read : readDigits checks digits 0 0 false = .ok (UInt64.ofNat (value digits), true) := by
    have ran := readDigits_append checks [] 0 false decimal (by simpa using fits)
    have more : digits.isEmpty = false := by simpa using some
    simpa [more] using ran
  rw [parseU64Trim, first]
  change (readDigits checks digits 0 0 false >>= _) = _
  rw [read]
  rfl

end Numbers

/-- A key and its value. -/
structure StatLine where
  key : List UInt8
  digits : List UInt8
  some_key : key ≠ []
  solid_key : ∀ b ∈ key, isWs b = false
  some_digits : digits ≠ []
  decimal : ∀ b ∈ digits, isAsciiDigit b = true
  fits : value digits < 2 ^ 64

namespace StatLine

def bytes (line : StatLine) : List UInt8 := line.key ++ 32 :: line.digits

def val (line : StatLine) : UInt64 := UInt64.ofNat (value line.digits)

end StatLine

/-- The lines, of which the last may be without its end. -/
def text (ended : Bool) : List StatLine → List UInt8
  | [] => []
  | [line] => line.bytes ++ if ended then [newline] else []
  | line :: lines => line.bytes ++ newline :: text ended lines

/-- The value of the last line with a key. -/
def lastValue (key : List UInt8) (lines : List StatLine) : UInt64 :=
  match (lines.filter (·.key = key)).getLast? with
  | some line => line.val
  | none => 0

section Lines
variable {checks ended : Bool} {line : StatLine} {lines : List StatLine}
  {before tail bytes : List UInt8} {times : CpuTimes}

theorem nextLine_append (ends : ∀ b ∈ tail.head?, b = newline) :
    nextLine (before ++ tail) before.length = .ok (before ++ tail.take 1).length := by
  have stays : skipWhile (· ≠ newline) (before ++ tail) before.length = .ok before.length := by
    exact skipWhile_stays before (by simpa using ends)
  rw [nextLine, stays]
  cases tail with
  | nil =>
    change (if _ then _ else _) = _
    rw [if_neg (by simp)]
    simp
    rfl
  | cons b rest =>
    obtain rfl : b = newline := ends b rfl
    have here : read (before ++ newline :: rest) before.length = .ok newline := by simp [Scan.read]
    change (if _ then _ else _) = _
    rw [if_pos (by simp), here]
    simp
    rfl

/-- A turn at the beginning of a line reads this line. -/
theorem turn_line (checks : Bool) (line : StatLine) (before tail : List UInt8) (times : CpuTimes)
    (ends : ∀ b ∈ tail.head?, b = newline) :
    turn checks (before ++ (line.bytes ++ tail)) (before.length, times) =
      .ok (.again ((before ++ (line.bytes ++ tail.take 1)).length,
        times.assign line.key line.val)) := by
  obtain ⟨key, digits, some_key, solid_key, some_digits, decimal, fits⟩ := line
  let rest := [32] ++ (digits ++ tail)
  have toKey : skipWhile isWs (before ++ (key ++ rest)) before.length = .ok before.length := by
    refine skipWhile_stays before ?_
    cases key with
    | nil => contradiction
    | cons b key => simpa using solid_key b (by simp)
  have overKey : skipWhile (!isWs ·) (before ++ (key ++ rest)) before.length =
      .ok (before ++ key).length :=
    skipWhile_append (fun b mem => by simp [solid_key b mem]) (by simp [rest, isWs])
  have toValue : skipWhile isWs (before ++ (key ++ rest)) (before ++ key).length =
      .ok (before ++ key ++ [32]).length := by
    rw [← List.append_assoc]
    refine skipWhile_append (by simp [isWs]) ?_
    cases digits with
    | nil => contradiction
    | cons b digits => simpa using not_isWs_of_isAsciiDigit (decimal b (by simp))
  have split : before ++ (key ++ rest) = before ++ key ++ [32] ++ (digits ++ tail) := by
    simp [rest]
  have overValue : skipWhile isAsciiDigit (before ++ (key ++ rest))
      (before ++ key ++ [32]).length = .ok (before ++ key ++ [32] ++ digits).length := by
    rw [split]
    refine skipWhile_append decimal fun b head => ?_
    rw [ends b head]
    rfl
  have cut : slice (before ++ (key ++ rest)) (before ++ key ++ [32]).length
      (before ++ key ++ [32] ++ digits).length = .ok digits := by
    rw [split]
    exact slice_append _ _ _
  have toNext : nextLine (before ++ (key ++ rest)) (before ++ key ++ [32] ++ digits).length =
      .ok (before ++ key ++ [32] ++ digits ++ tail.take 1).length := by
    rw [split, ← List.append_assoc]
    exact nextLine_append ends
  have shape : before ++ (StatLine.bytes ⟨key, digits, some_key, solid_key, some_digits, decimal,
      fits⟩ ++ tail) = before ++ (key ++ rest) := by
    simp [StatLine.bytes, rest]
  have longer : before.length < (before ++ (key ++ rest)).length := by simp [rest]
  have longer' : (before ++ key ++ [32]).length < (before ++ (key ++ rest)).length := by
    have := List.length_pos_iff.mpr some_digits
    simp [rest]
    omega
  rw [shape, turn, if_pos longer, toKey, ok_bind, if_neg (by omega), overKey, ok_bind,
    slice_append, ok_bind, toValue, ok_bind, if_neg (by omega), overValue, ok_bind, cut, ok_bind,
    parseU64Trim_digits some_digits decimal fits, ok_bind]
  change (nextLine _ _ >>= _) = _
  rw [toNext, ok_bind]
  simp [StatLine.bytes, StatLine.val]
  rfl

theorem text_cons (ended : Bool) (line : StatLine) (lines : List StatLine) :
    ∃ tail, text ended (line :: lines) = line.bytes ++ tail ∧
      (tail = newline :: text ended lines ∨ tail = [] ∧ lines = []) := by
  cases lines with
  | nil =>
    cases ended with
    | true => exact ⟨_, rfl, .inl rfl⟩
    | false => exact ⟨_, rfl, .inr ⟨rfl, rfl⟩⟩
  | cons next lines => exact ⟨_, rfl, .inl rfl⟩

theorem turn_end (h : bytes.length ≤ before.length) :
    turn checks bytes (before.length, times) = .ok (.stop (.ok times)) := by
  rw [turn, if_neg (by omega)]
  rfl

/-- A line takes a turn, and the end takes another one. -/
theorem loop_lines {turns : Nat} (enough : lines.length < turns) :
    loop (turn checks (before ++ text ended lines)) turns (before.length, times) =
      .ok (.ok (lines.foldl (fun times line => times.assign line.key line.val) times)) := by
  induction lines generalizing before times turns with
  | nil =>
    obtain ⟨turns, rfl⟩ := Nat.exists_eq_add_one.mpr enough
    exact loop_stop (turn_end (by simp [text]))
  | cons line lines ih =>
    obtain ⟨turns, rfl⟩ : ∃ more, turns = more + 1 := ⟨turns - 1, by omega⟩
    obtain ⟨tail, shape, more | ⟨rfl, rfl⟩⟩ := text_cons ended line lines
    · have read := turn_line checks line before tail times (by simp [more])
      have next := @ih (before ++ (line.bytes ++ tail.take 1))
        (times.assign line.key line.val) turns (by simp at enough; omega)
      have same : before ++ (line.bytes ++ tail.take 1) ++ text ended lines =
          before ++ (line.bytes ++ tail) := by simp [more]
      rw [same] at next
      rw [shape, loop_again read, next, List.foldl_cons]
    · have read := turn_line checks line before [] times (by simp)
      obtain ⟨turns, rfl⟩ : ∃ more, turns = more + 1 := ⟨turns - 1, by simp at enough; omega⟩
      rw [shape, loop_again read, List.take_nil]
      exact loop_stop (turn_end le_rfl)

theorem length_le_text : lines.length ≤ (text ended lines).length := by
  induction lines with
  | nil => simp
  | cons line lines ih =>
    obtain ⟨tail, shape, rfl | ⟨rfl, rfl⟩⟩ := text_cons ended line lines
    · rw [shape]
      simp
      omega
    · rw [shape]
      simp [StatLine.bytes]
      omega

section Keys
variable (times : CpuTimes) (key : List UInt8) (val : UInt64)

/-- The keys differ, so that each of them sets one counter only. -/
theorem assign_usageUsec : (times.assign key val).usageUsec =
    if key = ascii "usage_usec" then val else times.usageUsec := by
  unfold CpuTimes.assign
  split_ifs <;> rfl

theorem assign_userUsec : (times.assign key val).userUsec =
    if key = ascii "user_usec" then val else times.userUsec := by
  have other : ascii "user_usec" ≠ ascii "usage_usec" := by decide
  unfold CpuTimes.assign
  split_ifs <;> simp_all

theorem assign_systemUsec : (times.assign key val).systemUsec =
    if key = ascii "system_usec" then val else times.systemUsec := by
  have other : ascii "system_usec" ≠ ascii "usage_usec" ∧ ascii "system_usec" ≠ ascii "user_usec" := by
    decide
  unfold CpuTimes.assign
  split_ifs <;> simp_all

theorem assign_throttledUsec : (times.assign key val).throttledUsec =
    if key = ascii "throttled_usec" then val else times.throttledUsec := by
  have other : ascii "throttled_usec" ≠ ascii "usage_usec" ∧
      ascii "throttled_usec" ≠ ascii "user_usec" ∧ ascii "throttled_usec" ≠ ascii "system_usec" := by
    decide
  unfold CpuTimes.assign
  split_ifs <;> simp_all

end Keys

/-- A counter that each line with its key sets is that of the last such line. -/
theorem foldl_assign (get : CpuTimes → UInt64) {key : List UInt8} (start : get {} = 0)
    (assigned : ∀ times key' val, get (times.assign key' val) = if key' = key then val else get times) :
    get (lines.foldl (fun times line => times.assign line.key line.val) {}) = lastValue key lines := by
  induction lines using List.reverseRecOn with
  | nil => exact start
  | append_singleton lines line ih =>
    rw [List.foldl_concat, assigned, ih]
    by_cases same : line.key = key <;> simp [same, lastValue]

/-- The bytes of `cpu.stat` are read without an access outside of them and to an end, and from its
lines come the last value of each counter, in a build with checks for overflow and in one without. -/
theorem parseCpuStatTimes_reads (checks : Bool) :
    (∀ bytes fault, parseCpuStatTimes checks bytes = .error fault → fault = .overflow) ∧
      ∀ ended lines, parseCpuStatTimes checks (text ended lines) =
        .ok (.ok {
          usageUsec := lastValue (ascii "usage_usec") lines
          userUsec := lastValue (ascii "user_usec") lines
          systemUsec := lastValue (ascii "system_usec") lines
          throttledUsec := lastValue (ascii "throttled_usec") lines }) := by
  constructor
  · intro bytes fault failed
    have bounded := bounded_parseCpuStatTimes checks bytes
    rwa [failed] at bounded
  · intro ended lines
    have read := @loop_lines checks ended lines [] {} ((text ended lines).length + 1)
      (Nat.lt_succ_of_le length_le_text)
    rw [← foldl_assign (·.usageUsec) rfl assign_usageUsec,
      ← foldl_assign (·.userUsec) rfl assign_userUsec,
      ← foldl_assign (·.systemUsec) rfl assign_systemUsec,
      ← foldl_assign (·.throttledUsec) rfl assign_throttledUsec]
    exact read

end Lines

end CpuStat
end Snaplace
