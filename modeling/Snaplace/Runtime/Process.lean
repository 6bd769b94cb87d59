import Mathlib
import Snaplace.Foundation.Handler
import Snaplace.Foundation.Text

/-!
# Looking up a process

A process is looked up in its `stat` file, of which the text is split at all blanks. The second field
is the command in parentheses, which a process may choose itself: a blank in it shifts all the fields
that follow.
-/
namespace Snaplace
open Foundation Foundation.Handler
open Text (ParseIntError isBlank words slice byteLength parseNat decimal)

structure Process where
  pid : UInt32
  comm : List Char
  state : UInt8
  ppid : UInt32
  pgrp : UInt32
  procfsPath : String
  deriving DecidableEq, Repr

namespace Process

inductive Error where
  | io (msg source : String)
  | parseInt (msg : String) (source : ParseIntError)
  deriving DecidableEq, Repr

/-- The text of each process's `stat` file, or why it cannot be read. -/
abbrev ProcFs := UInt32 → Except String (List Char)

def boundsPanic : String := "index out of bounds"

def slicePanic : String := "slice out of range or not at a character boundary"

def pidPanic : String := "assertion `left == right` failed"

def parseU32 (s : List Char) : Except ParseIntError UInt32 :=
  (parseNat (2 ^ 32) s).map UInt32.ofNat

def stat (pid : UInt32) : Handler ProcFs Error Process := do
  let text ← fromExcept (((← get) pid).mapError fun err =>
    .io s!"failed to read \"/proc/{pid}/stat\"" err)
  let stat := words text
  let field idx := expect boundsPanic stat[idx]?
  require (parseU32 (← field 0) = .ok pid) pidPanic
  -- Without the parentheses.
  let second ← field 1
  let comm ← expect slicePanic (slice second 1 (byteLength second - 1))
  let third ← field 2
  let state ← expect boundsPanic (third.flatMap String.utf8EncodeChar)[0]?
  let ppid ← fromExcept ((parseU32 (← field 3)).mapError (.parseInt "failed to parse PPID as u32"))
  let pgrp ← fromExcept ((parseU32 (← field 4)).mapError (.parseInt "failed to parse PGID as u32"))
  pure { pid, comm, state, ppid, pgrp, procfsPath := s!"/proc/{pid}" }

def fcComm : List Char := "firecracker".toList

def fcctrdShimComm : List Char := "containerd-shim".toList

def fcCommPanic : String := "uvm.vm.pid is expected to refer to a firecracker process"

/-- Why the process of a microVM is not known: the second is a panic of the thread that looks. -/
inductive LookupError where
  | stat (err : Error)
  | join (msg : String)
  deriving DecidableEq, Repr

/-- `Process::stat` in a thread of its own, of which a panic is an error. -/
def spawnStat (pid : UInt32) : Handler ProcFs LookupError Process := fun fs =>
  match stat pid fs with
  | .ok process fs => .ok process fs
  | .err err fs => .err (.stat err) fs
  | .panic msg fs => .err (.join msg) fs

/-- The process of a microVM that is to be destroyed. -/
def vmProcess (pid : UInt32) : Handler ProcFs LookupError Process := do
  let fcProc ← spawnStat pid
  require (fcProc.comm = fcComm) fcCommPanic
  pure fcProc

/-- The process group that is killed as the last means of destroying a microVM. -/
def shimGroup (ppid : UInt32) : Handler ProcFs LookupError (Option UInt32) := do
  match ← attempt (spawnStat ppid) with
  | .ok shim => pure (if shim.comm = fcctrdShimComm then some shim.pgrp else none)
  | .error _ => pure none

/-- The group that `destroy_idle_microvm` kills, when all other means have failed. -/
def groupToKill (pid : UInt32) : Handler ProcFs LookupError (Option UInt32) := do
  let fcProc ← vmProcess pid
  shimGroup fcProc.ppid

/-- The line of the kernel: five fields, of which the second is in parentheses, and more of them. -/
def statLine (pid : UInt32) (comm : List Char) (state : Char) (ppid pgrp : UInt32)
    (fields : List (List Char)) : List Char :=
  decimal pid.toNat ++ ' ' :: ('(' :: (comm ++ [')']) ++ ' ' :: ([state] ++ ' ' ::
    (decimal ppid.toNat ++ ' ' :: (decimal pgrp.toNat ++
      (fields.flatMap (' ' :: ·) ++ ['\n'])))))

variable {pid ppid pgrp : UInt32} {comm : List Char} {state : Char} {fields : List (List Char)}
  {fs : ProcFs}

theorem parseU32_decimal (n : UInt32) : parseU32 (decimal n.toNat) = .ok n := by
  have parsed : parseNat (2 ^ 32) (decimal n.toNat) = .ok n.toNat :=
    (Text.parseNat_eq_ok (by decide)).mpr ⟨Text.writes_decimal _, n.toNat_lt⟩
  rw [parseU32, parsed]
  simp [Except.map]

theorem words_decimal {n : Nat} {rest : List Char} {c : Char} (blank : isBlank c = true) :
    words (decimal n ++ c :: rest) = decimal n :: words rest :=
  Text.words_append (Text.writes_decimal n).ne_nil
    (fun _ mem => (Text.writes_decimal n).not_blank mem) blank

/-- A command without blanks is one field. -/
theorem words_statLine (pid ppid pgrp : UInt32) (fields : List (List Char))
    (solid : ∀ c ∈ comm, isBlank c = false) (letter : isBlank state = false) :
    ∃ rest, words (statLine pid comm state ppid pgrp fields) =
      decimal pid.toNat :: ('(' :: (comm ++ [')'])) :: [state] :: decimal ppid.toNat ::
        decimal pgrp.toNat :: rest := by
  have space : isBlank ' ' = true := by decide
  obtain ⟨c, rest, blank, ends⟩ : ∃ c rest, isBlank c = true ∧
      fields.flatMap (' ' :: ·) ++ ['\n'] = c :: rest := by
    cases fields with
    | nil => exact ⟨'\n', [], by decide, rfl⟩
    | cons field fields => exact ⟨' ', _, space, rfl⟩
  have command : ∀ d ∈ '(' :: (comm ++ [')']), isBlank d = false := by
    intro d mem
    rcases List.mem_cons.mp mem with rfl | mem
    · decide
    · rcases List.mem_append.mp mem with mem | mem
      · exact solid d mem
      · obtain rfl := List.mem_singleton.mp mem
        decide
  have third : ∀ d ∈ [state], isBlank d = false := by simpa using letter
  refine ⟨words rest, ?_⟩
  rw [statLine, ends, words_decimal space, Text.words_append (by simp) command space,
    Text.words_append (by simp) third space, words_decimal space, words_decimal blank]

/-- What stands between the parentheses. -/
theorem slice_parentheses (comm : List Char) :
    slice ('(' :: (comm ++ [')'])) 1 (byteLength ('(' :: (comm ++ [')'])) - 1) = some comm := by
  have inner := Text.slice_append ['('] comm [')']
  have size : byteLength ('(' :: (comm ++ [')'])) - 1 = byteLength ['('] + byteLength comm := by
    simp [byteLength, Char.utf8Size]
    omega
  rw [size]
  exact inner

theorem toNat_of_isAlpha {c : Char} (letter : c.isAlpha = true) :
    65 ≤ c.toNat ∧ c.toNat ≤ 122 := by
  simp only [Char.isAlpha, Char.isUpper, Char.isLower, Bool.or_eq_true, Bool.and_eq_true,
    decide_eq_true_eq, ge_iff_le, UInt32.le_iff_toNat_le] at letter
  change (65 ≤ c.toNat ∧ c.toNat ≤ 90) ∨ (97 ≤ c.toNat ∧ c.toNat ≤ 122) at letter
  omega

theorem not_blank_of_isAlpha {c : Char} (letter : c.isAlpha = true) : isBlank c = false := by
  have range := toNat_of_isAlpha letter
  simp only [isBlank, Bool.or_eq_false_iff, Bool.and_eq_false_iff, decide_eq_false_iff_not]
  omega

theorem utf8Size_letter {c : Char} (letter : c.isAlpha = true) : c.utf8Size = 1 := by
  have range := toNat_of_isAlpha letter
  rw [Char.utf8Size_eq_one_iff, UInt32.le_iff_toNat_le]
  change c.toNat ≤ 127
  omega

theorem utf8_letter {c : Char} (letter : c.isAlpha = true) :
    String.utf8EncodeChar c = [c.toUInt8] :=
  String.utf8EncodeChar_eq_singleton (utf8Size_letter letter)

/-- The fields are those of the line if the command has no blank. -/
theorem stat_of_solid (holds : fs pid = .ok (statLine pid comm state ppid pgrp fields))
    (letter : state.isAlpha = true) (solid : ∀ c ∈ comm, isBlank c = false) :
    stat pid fs =
      .ok { pid, comm, state := state.toUInt8, ppid, pgrp, procfsPath := s!"/proc/{pid}" } fs := by
  obtain ⟨rest, split⟩ := words_statLine pid ppid pgrp fields solid (not_blank_of_isAlpha letter)
  refine eq_ok_of_wp ?_
  simp [stat, holds, split, parseU32_decimal, slice_parentheses, utf8_letter letter,
    utf8Size_letter letter]

/-- No command with a blank is ever returned. -/
theorem comm_solid {process : Process} {gs : ProcFs} (ran : stat pid fs = .ok process gs) :
    ∀ c ∈ process.comm, isBlank c = false := by
  have spec : wp (stat pid) (.onOk fun process _ => ∀ c ∈ process.comm, isBlank c = false) fs := by
    simp only [stat, Post.onOk, wp_bind, wp_get, wp_fromExcept, wp_expect, wp_require, wp_pure,
      implies_true, and_true]
    intro text _ first _ _ second here comm cut third _ letter _ _ _ _ _ _ _ _ _ c mem
    exact Text.not_blank_of_mem_words (List.mem_of_getElem? here) (Text.subset_of_slice cut mem)
  exact wp_onOk_iff.mp spec process gs ran

/-- The process is found, with the fields that the line was made of. -/
def Found (fs : ProcFs) (pid : UInt32) (comm : List Char) (state : Char) (ppid pgrp : UInt32) :
    Prop :=
  ∃ process gs, stat pid fs = .ok process gs ∧ process.comm = comm ∧
    process.state = state.toUInt8 ∧ process.ppid = ppid ∧ process.pgrp = pgrp

/-- A process is found if and only if it has no blank in its name. -/
theorem found_iff (holds : fs pid = .ok (statLine pid comm state ppid pgrp fields))
    (letter : state.isAlpha = true) :
    Found fs pid comm state ppid pgrp ↔ ∀ c ∈ comm, isBlank c = false := by
  constructor
  · intro ⟨process, gs, ran, same, _⟩
    rw [← same]
    exact comm_solid ran
  · intro solid
    exact ⟨_, fs, stat_of_solid holds letter solid, rfl, rfl, rfl, rfl⟩

def shimLine : List Char := statLine 7 fcctrdShimComm 'S' 1 7 [['0']]

theorem found_shim : Found (fun _ => .ok shimLine) 7 fcctrdShimComm 'S' 1 7 :=
  (found_iff (by rfl) (by decide)).mpr (by decide)

def tmuxLine : List Char := statLine 7 "tmux: server".toList 'S' 1 7 [['0']]

/-- The second word of the name is taken for the state, and the state for the parent. -/
theorem tmux_not_found :
    ¬ Found (fun _ => .ok tmuxLine) 7 "tmux: server".toList 'S' 1 7 ∧
      stat 7 (fun _ => .ok tmuxLine) = .err (.parseInt "failed to parse PPID as u32" .invalidDigit)
        fun _ => .ok tmuxLine := by
  have failed : stat 7 (fun _ => .ok tmuxLine) =
      .err (.parseInt "failed to parse PPID as u32" .invalidDigit) fun _ => .ok tmuxLine := rfl
  refine ⟨?_, failed⟩
  intro ⟨process, gs, ran, _⟩
  rw [failed] at ran
  cases ran

/-- The group of a microVM's shim is the true one, or none if it is another process by now. -/
theorem shimGroup_of_solid (holds : fs ppid = .ok (statLine ppid comm state pid pgrp fields))
    (letter : state.isAlpha = true) (solid : ∀ c ∈ comm, isBlank c = false) :
    shimGroup ppid fs = .ok (if comm = fcctrdShimComm then some pgrp else none) fs := by
  have found : attempt (spawnStat ppid) fs =
      .ok (ε := LookupError) (.ok ⟨ppid, comm, state.toUInt8, pid, pgrp, s!"/proc/{ppid}"⟩) fs := by
    rw [attempt, spawnStat, stat_of_solid holds letter solid]
  exact bind_of_ok found

/-- The names of both programs are without blanks, so that the group killed is the shim's. -/
theorem groupToKill_shim {init group : UInt32} {others : List (List Char)}
    (vm : fs pid = .ok (statLine pid fcComm 'S' ppid pgrp fields))
    (shim : fs ppid = .ok (statLine ppid fcctrdShimComm 'S' init group others)) :
    groupToKill pid fs = .ok (some group) fs := by
  have found : vmProcess pid fs =
      .ok ⟨pid, fcComm, Char.toUInt8 'S', ppid, pgrp, s!"/proc/{pid}"⟩ fs := by
    have read : spawnStat pid fs =
        .ok ⟨pid, fcComm, Char.toUInt8 'S', ppid, pgrp, s!"/proc/{pid}"⟩ fs := by
      rw [spawnStat, stat_of_solid vm (by decide) (by decide)]
    rw [vmProcess, bind_of_ok read]
    rfl
  rw [groupToKill, bind_of_ok found, shimGroup_of_solid shim (by decide) (by decide)]
  rfl

end Process
end Snaplace
