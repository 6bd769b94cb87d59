import Snaplace.Foundation.Handler
import Snaplace.Foundation.Text
import Snaplace.Worker.Types

/-!
# Lists of CPUs

The configured CPUs are text: numbers and ranges, separated by commas. The parser splits an item at
its dashes, reads the first two pieces and looks at no other. It makes a range half-open by adding
one to its end, which the largest end has no room for.
-/
namespace Snaplace
open Foundation Text Handler

namespace CpuSet
variable {σ ε : Type}

abbrev Cpu : Type := UInt16

inductive CpuSetError where
  | parseCpuRange (msg : String) (source : Option ParseIntError)
  | allocationNotFound (worker : WorkerId)
  deriving DecidableEq, Repr

section Arithmetic

/-- Where a sum does not fit, a build with overflow checks panics and one without wraps around. -/
def addU16 (checks : Bool) (a b : UInt16) : Handler σ ε UInt16 :=
  if checks = true ∧ 2 ^ 16 ≤ a.toNat + b.toNat then panicWith "attempt to add with overflow"
  else pure (a + b)

def subU16 (checks : Bool) (a b : UInt16) : Handler σ ε UInt16 :=
  if checks = true ∧ a < b then panicWith "attempt to subtract with overflow" else pure (a - b)

def parseU16 (s : List Char) : Except ParseIntError UInt16 := (parseNat (2 ^ 16) s).map .ofNat

/-- The range without its end. -/
def exclusive (start stop : UInt16) : List UInt16 :=
  (List.range' start.toNat (stop.toNat - start.toNat)).map .ofNat

end Arithmetic

section Parser

def parseIndex (s : List Char) : Handler σ CpuSetError UInt16 :=
  fromExcept ((parseU16 s).mapError fun err =>
    .parseCpuRange ("failed to parse '" ++ String.ofList s ++ "'") (some err))

/-- One item, added to the CPUs read so far. -/
def parseItem (checks : Bool) (item : List Char) : Handler (List UInt16) CpuSetError Unit :=
  let cpuset := trim item
  if cpuset = [] then pure ()
  else match (cpuset.splitOn '-').map trim with
    | [] => panicWith "index out of bounds"
    | [index] => do
      let cpuIndex ← parseIndex index
      modify (· ++ [cpuIndex])
    | first :: second :: _ => do
      let start ← parseIndex first
      let stop ← parseIndex second
      if stop < start then
        throw (.parseCpuRange
          ("(start) " ++ toString start ++ " > " ++ toString stop ++ " (end)") none)
      else do
        let pastStop ← addU16 checks stop 1
        modify (· ++ exclusive start pastStop)

/-- Rust's `split_terminator`: no empty piece after a last separator. -/
def splitTerminator (sep : Char) (s : List Char) : List (List Char) :=
  let pieces := s.splitOn sep
  if pieces.getLast? = some [] then pieces.dropLast else pieces

def parseCpuset (checks : Bool) (cpusets : List Char) : Outcome (List UInt16) CpuSetError Unit :=
  (forM (splitTerminator ',' cpusets) (parseItem checks) : Handler _ _ Unit) []

/-- `status` is what reading `/proc/self/status` gives. -/
def allAllowedCpus (checks : Bool) (status : Except String (List Char)) :
    Outcome (List UInt16) CpuSetError Unit :=
  match status with
  | .error err => .panic ("failed to open /proc/self/status: " ++ err) []
  | .ok status =>
    match (status.splitOn '\n').reverse.find? fun line =>
        "Cpus_allowed_list".toList.isPrefixOf (trim line) with
    | some line => parseCpuset checks (trim ((line.splitOn ':').getLast?.getD []))
    | none => .panic "failed to find and parse all available CPUs from '/proc/self/status'" []

end Parser

section Grammar

/-- The range with both its ends. -/
def inclusive (first last : Nat) : List UInt16 := (List.range' first (last + 1 - first)).map .ofNat

/-- What an item of a list says. -/
inductive Item : List Char → List UInt16 → Prop
  | blank {text : List Char} (blank : Blank text) : Item text []
  | number {before s after : List Char} {n : Nat} (blank : Blank before) (written : Writes s n)
      (fits : n < 2 ^ 16) (blank' : Blank after) : Item (before ++ (s ++ after)) [.ofNat n]
  | range {before s left right t after : List Char} {a b : Nat} (blank : Blank before)
      (first : Writes s a) (blanks : Blank left) (blanks' : Blank right) (last : Writes t b)
      (blank' : Blank after) (le : a ≤ b) (fits : b < 2 ^ 16) :
      Item (before ++ ((s ++ left ++ '-' :: (right ++ t)) ++ after)) (inclusive a b)

/-- The text lists the CPUs: items separated by commas, each CPU in the order of the items. -/
def Lists (text : List Char) (cpus : List UInt16) : Prop :=
  ∃ items : List (List Char × List UInt16), text = [','].intercalate (items.map Prod.fst) ∧
    (∀ item ∈ items, Item item.1 item.2) ∧ cpus = (items.map Prod.snd).flatten

end Grammar

section Reading

/-- What the parser makes of an item: of a range, also whether anything follows it. -/
inductive Reading where
  | blank
  | number (n : UInt16)
  | range (start stop : UInt16) (more : Bool)
  deriving DecidableEq, Repr

/-- The item as the parser reads it, or nothing where it stops. -/
def reading (item : List Char) : Option Reading :=
  let cpuset := trim item
  if cpuset = [] then some .blank
  else match (cpuset.splitOn '-').map trim with
    | [] => none
    | [index] => (parseU16 index).toOption.map .number
    | first :: second :: rest =>
      match parseU16 first, parseU16 second with
      | .ok start, .ok stop =>
        if stop < start then none else some (.range start stop (!rest.isEmpty))
      | _, _ => none

/-- What the item should add to the list. -/
def Reading.cpus : Reading → List UInt16
  | .blank => []
  | .number n => [n]
  | .range start stop _ => inclusive start.toNat stop.toNat

/-- What the parser adds: a range up to the largest number ends before it begins. -/
def Reading.pushed : Reading → List UInt16
  | .range start stop _ => exclusive start (stop + 1)
  | r => r.cpus

def Reading.EndsTop : Reading → Prop
  | .range _ stop _ => stop.toNat + 1 = 2 ^ 16
  | _ => False

instance : (r : Reading) → Decidable r.EndsTop
  | .range _ stop _ => inferInstanceAs (Decidable (stop.toNat + 1 = 2 ^ 16))
  | .blank => isFalse nofun
  | .number _ => isFalse nofun

/-- Something follows the second piece. -/
def Reading.More : Reading → Prop
  | .range _ _ more => more = true
  | _ => False

theorem parseU16_eq_ok {s : List Char} {n : UInt16} :
    parseU16 s = .ok n ↔ Writes s n.toNat := by
  simp only [parseU16, exceptMap_eq_ok, parseNat_eq_ok (by norm_num : 0 < 2 ^ 16)]
  constructor
  · rintro ⟨m, ⟨written, fits⟩, rfl⟩
    rwa [UInt16.toNat_ofNat_of_lt' fits]
  · intro written
    exact ⟨n.toNat, ⟨written, n.toNat_lt⟩, UInt16.ofNat_toNat⟩

theorem Reading.pushed_eq {r : Reading} (h : ¬ r.EndsTop) : r.pushed = r.cpus := by
  cases r with
  | range start stop more =>
    have room : stop.toNat + 1 < 2 ^ 16 := by
      have := stop.toNat_lt
      have : stop.toNat + 1 ≠ 2 ^ 16 := h
      omega
    have next : (stop + 1).toNat = stop.toNat + 1 := by
      rw [UInt16.toNat_add, UInt16.toNat_one, Nat.mod_eq_of_lt room]
    rw [pushed, cpus, exclusive, inclusive, next]
  | _ => rfl

theorem Reading.pushed_top {r : Reading} (h : r.EndsTop) : r.pushed = [] := by
  cases r with
  | range start stop more =>
    have wraps : (stop + 1).toNat = 0 := by
      have : stop.toNat + 1 = 2 ^ 16 := h
      rw [UInt16.toNat_add, UInt16.toNat_one, this, Nat.mod_self]
    rw [pushed, exclusive, wraps]
    simp
  | _ => exact h.elim

theorem splitOn_eq_singleton_iff {s p : List Char} :
    s.splitOn '-' = [p] ↔ s = p ∧ '-' ∉ p := by
  constructor
  · intro one
    have joined : ['-'].intercalate (s.splitOn '-') = s := List.intercalate_splitOn '-'
    rw [one, List.intercalate_singleton] at joined
    exact ⟨joined.symm, notMem_of_mem_splitOn (show p ∈ s.splitOn '-' by simp [one])⟩
  · rintro ⟨rfl, absent⟩
    exact List.splitOn_eq_singleton absent

theorem splitOn_eq_pair_iff {s p q : List Char} :
    s.splitOn '-' = [p, q] ↔ s = p ++ '-' :: q ∧ '-' ∉ p ∧ '-' ∉ q := by
  constructor
  · intro two
    have joined : ['-'].intercalate (s.splitOn '-') = s := List.intercalate_splitOn '-'
    rw [two, List.intercalate_cons_cons, List.intercalate_singleton] at joined
    exact ⟨by simpa using joined.symm, notMem_of_mem_splitOn (show p ∈ s.splitOn '-' by simp [two]),
      notMem_of_mem_splitOn (show q ∈ s.splitOn '-' by simp [two])⟩
  · rintro ⟨rfl, first, second⟩
    rw [List.splitOn_append_cons_self_of_not_mem first, List.splitOn_eq_singleton second]

theorem Item.reading {item : List Char} {cpus : List UInt16} (h : Item item cpus) :
    ∃ r, reading item = some r ∧ ¬ r.More ∧ r.cpus = cpus := by
  cases h with
  | blank blank => exact ⟨.blank, by simp [CpuSet.reading, trim_eq_nil_iff.mpr blank], fun more => (by cases more), rfl⟩
  | @number before s after n blank written fits blank' =>
    have one : s.splitOn '-' = [s] :=
      splitOn_eq_singleton_iff.mpr ⟨rfl, written.notMem (by decide) (by decide)⟩
    have read : parseU16 s = .ok (.ofNat n) :=
      parseU16_eq_ok.mpr (by rwa [UInt16.toNat_ofNat_of_lt' fits])
    refine ⟨.number (.ofNat n), ?_, fun more => (by cases more), rfl⟩
    simp [CpuSet.reading, written.trim_padded blank blank', written.ne_nil, one, written.trim_eq, read,
      Except.toOption]
  | @range before s left right t after a b blank first blanks blanks' last blank' le fits =>
    have dash {text : List Char} (spaces : Blank text) : '-' ∉ text := by
      intro mem
      have := spaces '-' mem
      simp [isBlank] at this
    have noDash : '-' ∉ s := first.notMem (by decide) (by decide)
    have noDash' : '-' ∉ t := last.notMem (by decide) (by decide)
    have two : (s ++ left ++ '-' :: (right ++ t)).splitOn '-' = [s ++ left, right ++ t] :=
      splitOn_eq_pair_iff.mpr ⟨rfl, by simp [noDash, dash blanks], by simp [noDash', dash blanks']⟩
    have cut : trim (before ++ ((s ++ left ++ '-' :: (right ++ t)) ++ after)) =
        s ++ left ++ '-' :: (right ++ t) := by
      refine trim_padded blank blank' (fun c head => ?_) fun c tail => ?_
      · rw [List.append_assoc, List.head?_append_of_ne_nil _ first.ne_nil] at head
        exact first.not_blank (List.mem_of_mem_head? head)
      · rw [← List.cons_append, ← List.append_assoc,
          List.getLast?_append_of_ne_nil _ last.ne_nil] at tail
        exact last.not_blank (List.mem_of_getLast? tail)
    have ofA : (UInt16.ofNat a).toNat = a := UInt16.toNat_ofNat_of_lt' (le.trans_lt fits)
    have ofB : (UInt16.ofNat b).toNat = b := UInt16.toNat_ofNat_of_lt' fits
    have read : parseU16 s = .ok (.ofNat a) := parseU16_eq_ok.mpr (ofA.symm ▸ first)
    have read' : parseU16 t = .ok (.ofNat b) := parseU16_eq_ok.mpr (ofB.symm ▸ last)
    have ordered : ¬ UInt16.ofNat b < UInt16.ofNat a := by
      rw [UInt16.lt_iff_toNat_lt, ofA, ofB]
      omega
    refine ⟨.range (.ofNat a) (.ofNat b) false, ?_, fun more => (by cases more), by rw [Reading.cpus, ofA, ofB]⟩
    simp only [CpuSet.reading, cut, two]
    simp [first.ne_nil, first.trim_right blanks, last.trim_left blanks', read, read', ordered]

theorem item_of_reading {item : List Char} {r : Reading} (h : reading item = some r)
    (alone : ¬ r.More) : Item item r.cpus := by
  obtain ⟨before, after, blank, blank', split⟩ := exists_trim item
  unfold reading at h
  dsimp only at h
  split_ifs at h with empty
  · cases h
    exact .blank (trim_eq_nil_iff.mp empty)
  · split at h
    next => cases h
    next index pieces =>
      obtain ⟨p, one, rfl⟩ := List.map_eq_singleton_iff.mp pieces
      obtain ⟨rfl, -⟩ := splitOn_eq_singleton_iff.mp one
      obtain ⟨left, right, blanks, blanks', padded⟩ := exists_trim (trim item)
      obtain ⟨n, read, rfl⟩ : ∃ n, parseU16 (trim (trim item)) = .ok n ∧ .number n = r := by
        cases read : parseU16 (trim (trim item)) with
        | ok n => exact ⟨n, rfl, by simpa [read, Except.toOption] using h⟩
        | error err => simp [read, Except.toOption] at h
      have written := parseU16_eq_ok.mp read
      rw [split, padded]
      have := Item.number (blank.append blanks) written n.toNat_lt (blanks'.append blank')
      simpa [Reading.cpus] using this
    next first second rest pieces =>
      split at h
      next start stop read read' =>
        split_ifs at h with reversed
        cases h
        have done : rest = [] := by simpa [Reading.More] using alone
        subst done
        obtain ⟨p, q, two, rfl, rfl⟩ : ∃ p q, (trim item).splitOn '-' = [p, q] ∧
            trim p = first ∧ trim q = second := by
          obtain ⟨p, ps, cons, first, tail⟩ := List.map_eq_cons_iff.mp pieces
          obtain ⟨q, one, second⟩ := List.map_eq_singleton_iff.mp tail
          exact ⟨p, q, one ▸ cons, first, second⟩
        obtain ⟨joined, -, -⟩ := splitOn_eq_pair_iff.mp two
        obtain ⟨left, right, blanks, blanks', padded⟩ := exists_trim p
        obtain ⟨left', right', inner, inner', padded'⟩ := exists_trim q
        have le : start.toNat ≤ stop.toNat := by
          rw [UInt16.lt_iff_toNat_lt] at reversed
          omega
        rw [split, joined, padded, padded']
        have := Item.range (blank.append blanks) (parseU16_eq_ok.mp read) blanks' inner
          (parseU16_eq_ok.mp read') (inner'.append blank') le stop.toNat_lt
        simpa [Reading.cpus] using this
      next => cases h

theorem Item.noComma {item : List Char} {cpus : List UInt16} (h : Item item cpus) : ',' ∉ item := by
  have comma {text : List Char} (spaces : Blank text) : ',' ∉ text := by
    intro mem
    have := spaces ',' mem
    simp [isBlank] at this
  have written {s : List Char} {n : Nat} (h : Writes s n) : ',' ∉ s :=
    h.notMem (by decide) (by decide)
  cases h with
  | blank blank => exact comma blank
  | number blank number _ blank' => simp [comma blank, comma blank', written number]
  | range blank first blanks blanks' last blank' =>
    simp [comma blank, comma blanks, comma blanks', comma blank', written first, written last]

/-- What an item should add, if it is one. -/
def listed (item : List Char) : List UInt16 := (reading item).elim [] Reading.cpus

/-- The text is a list exactly when the parser can read all its items and none goes on after its
second piece. -/
theorem lists_iff {text : List Char} {cpus : List UInt16} :
    Lists text cpus ↔ (∀ item ∈ text.splitOn ',', ∃ r, reading item = some r ∧ ¬ r.More) ∧
      cpus = (text.splitOn ',').flatMap listed := by
  constructor
  · rintro ⟨items, rfl, all, rfl⟩
    have read (item) (mem : item ∈ items) :
        (∃ r, reading item.1 = some r ∧ ¬ r.More) ∧ item.2 = listed item.1 := by
      obtain ⟨r, read, alone, same⟩ := (all item mem).reading
      exact ⟨⟨r, read, alone⟩, by simp [listed, read, same]⟩
    cases items with
    | nil =>
      have empty : reading [] = some .blank := rfl
      simp [List.splitOn_nil, listed, empty, Reading.More, Reading.cpus]
    | cons first rest =>
      have noComma : ∀ text ∈ (first :: rest).map Prod.fst, ',' ∉ text := by
        intro text mem
        obtain ⟨item, isItem, rfl⟩ := List.mem_map.mp mem
        exact (all item isItem).noComma
      rw [List.splitOn_intercalate ',' noComma (by simp)]
      refine ⟨?_, ?_⟩
      · intro text mem
        obtain ⟨item, isItem, rfl⟩ := List.mem_map.mp mem
        exact (read item isItem).1
      · rw [List.flatMap_map, List.flatMap_def]
        exact congrArg _ (List.map_congr_left fun item mem => (read item mem).2)
  · rintro ⟨all, rfl⟩
    refine ⟨(text.splitOn ',').map fun item => (item, listed item), ?_, ?_, ?_⟩
    · simp [Function.comp_def, List.intercalate_splitOn]
    · intro item mem
      obtain ⟨item, isPiece, rfl⟩ := List.mem_map.mp mem
      obtain ⟨r, read, alone⟩ := all item isPiece
      simpa [listed, read] using item_of_reading read alone
    · simp [List.flatMap_def, Function.comp_def]

end Reading

section Runs
variable {checks : Bool} {item : List Char} {items : List (List Char)} {cpus out : List UInt16}

/-- What the parser adds for an item that it reads. -/
def pushed (item : List Char) : List UInt16 := (reading item).elim [] Reading.pushed

/-- The item is read as a range up to the largest number. -/
def EndsTop (item : List Char) : Prop := ∃ r ∈ reading item, r.EndsTop

/-- The item is read as a range, but goes on. -/
def GoesOn (item : List Char) : Prop := ∃ r ∈ reading item, r.More

theorem wp_parseIndex {s : List Char} {Q : Post (List UInt16) CpuSetError UInt16} :
    wp (parseIndex s) Q cpus ↔ (∀ n, parseU16 s = .ok n → Q.ok n cpus) ∧
      ∀ err, parseU16 s = .error err → Q.err (.parseCpuRange
        ("failed to parse '" ++ String.ofList s ++ "'") (some err)) cpus := by
  unfold parseIndex
  cases parseU16 s <;> simp [Except.mapError]

/-- One item: what it adds, an error where it cannot be read, and a panic where its range has no
end. -/
theorem wp_parseItem : wp (parseItem checks item)
    { ok := fun _ t => reading item ≠ none ∧ ¬ (checks = true ∧ EndsTop item) ∧
        t = cpus ++ pushed item,
      err := fun _ t => reading item = none ∧ t = cpus,
      panic := fun _ _ => checks = true ∧ EndsTop item } cpus := by
  unfold parseItem EndsTop pushed reading
  dsimp only
  split_ifs with empty
  · simp [Reading.EndsTop, Reading.pushed, Reading.cpus]
  · cases pieces : ((trim item).splitOn '-').map trim with
    | nil => exact absurd (List.map_eq_nil_iff.mp pieces) (List.splitOn_ne_nil '-' _)
    | cons first rest =>
      cases rest with
      | nil =>
        simp only [wp_bind, wp_parseIndex, wp_modify]
        refine ⟨fun n read => ?_, fun err failed => ?_⟩
        · simp [read, Except.toOption, Reading.EndsTop, Reading.pushed, Reading.cpus]
        · simp [failed, Except.toOption]
      | cons second rest =>
        simp only [wp_bind, wp_parseIndex]
        refine ⟨fun start read => ⟨fun stop read' => ?_, fun err failed => ?_⟩,
          fun err failed => ?_⟩
        · have top : 2 ^ 16 ≤ stop.toNat + (1 : UInt16).toNat ↔ stop.toNat + 1 = 2 ^ 16 := by
            have := stop.toNat_lt
            rw [UInt16.toNat_one]
            omega
          simp only [read, read', wp_ite, wp_throw, wp_bind, addU16, wp_panicWith, wp_pure,
            wp_modify, top]
          refine ⟨fun reversed => by simp [reversed], fun ordered => ⟨fun overflow => ?_,
            fun fits => ?_⟩⟩
          · simpa [ordered, Reading.EndsTop] using overflow
          · simpa [ordered, Reading.EndsTop, Reading.pushed] using fits
        · simp [read, failed]
        · simp [failed]

theorem parseItem_nil (cpus : List UInt16) : parseItem checks [] cpus = .ok () cpus := rfl

/-- The piece that `split_terminator` leaves out adds nothing. -/
theorem parseCpuset_eq (checks : Bool) (text : List Char) :
    parseCpuset checks text = (forM (text.splitOn ',') (parseItem checks) : Handler _ _ Unit) [] := by
  unfold parseCpuset splitTerminator
  dsimp only
  split
  next last =>
    obtain ⟨before, same⟩ := List.getLast?_eq_some_iff.mp last
    rw [same, List.dropLast_concat, List.forM_append]
    have ends : (forM [[]] (parseItem checks) : Handler _ _ Unit) = pure () :=
      funext fun cpus => by rw [List.forM_cons, bind_of_ok (parseItem_nil cpus), List.forM_nil]
    rw [ends]
    exact (congrFun (bind_pure _) []).symm
  next => rfl

theorem wp_parseItems (checks : Bool) (items : List (List Char)) (cpus : List UInt16) :
    wp (forM items (parseItem checks))
    { ok := fun _ t => (∀ item ∈ items, reading item ≠ none ∧ ¬ (checks = true ∧ EndsTop item)) ∧
        t = cpus ++ items.flatMap pushed,
      err := fun _ _ => ∃ before item after, items = before ++ item :: after ∧
        reading item = none ∧ ∀ m ∈ before, ¬ (checks = true ∧ EndsTop m),
      panic := fun _ _ => checks = true ∧ ∃ before item after, items = before ++ item :: after ∧
        EndsTop item ∧ ∀ m ∈ before, reading m ≠ none } cpus := by
  induction items generalizing cpus with
  | nil => simp
  | cons item items ih =>
    rw [List.forM_cons]
    refine wp_seq wp_parseItem ?_ ?_ ?_
    · rintro _ _ ⟨read, fits, rfl⟩
      refine wp_mono (ih _) ?_ ?_ ?_
      · rintro _ _ ⟨all, rfl⟩
        simpa [read] using ⟨not_and.mp fits, fun m mem => by simpa using all m mem⟩
      · rintro _ _ ⟨before, m, after, rfl, unread, all⟩
        refine ⟨item :: before, m, after, rfl, unread, ?_⟩
        simpa using ⟨not_and.mp fits, fun m mem => by simpa using all m mem⟩
      · rintro _ _ ⟨isChecked, before, m, after, rfl, top, all⟩
        refine ⟨isChecked, item :: before, m, after, rfl, top, ?_⟩
        simpa [read] using all
    · rintro _ _ ⟨unread, -⟩
      exact ⟨[], item, items, rfl, unread, by simp⟩
    · rintro _ _ ⟨isChecked, top⟩
      exact ⟨isChecked, [], item, items, rfl, top, by simp⟩

/-- The parser returns, and what it returns is what the text lists. -/
def Faithful (checks : Bool) (text : List Char) : Prop :=
  (∀ msg t, parseCpuset checks text ≠ .panic msg t) ∧
    ∀ cpus, parseCpuset checks text = .ok () cpus ↔ Lists text cpus

/-- The parser can do without what it misses: if it reads all items then no range ends at the
largest number and none goes on, and if sums are checked then it stops before such a range. -/
structure Parsable (checks : Bool) (items : List (List Char)) : Prop where
  checked : checks = true → ∀ before item after, items = before ++ item :: after → EndsTop item →
    ∃ m ∈ before, reading m = none
  whole : (∀ item ∈ items, reading item ≠ none) → ∀ item ∈ items, ¬ EndsTop item ∧ ¬ GoesOn item

theorem listed_length (item : List Char) :
    (pushed item).length ≤ (listed item).length ∧
      (EndsTop item → (pushed item).length < (listed item).length) := by
  unfold pushed listed EndsTop
  cases reading item with
  | none => simp
  | some r =>
    by_cases top : r.EndsTop
    · have longer : r.pushed.length < r.cpus.length := by
        cases r with
        | range start stop more =>
          have : stop.toNat + 1 = 2 ^ 16 := top
          have := start.toNat_lt
          rw [Reading.pushed_top top]
          simp only [Reading.cpus, inclusive, List.length_map, List.length_range', List.length_nil]
          omega
        | _ => exact top.elim
      exact ⟨longer.le, fun _ => longer⟩
    · simp [Reading.pushed_eq top, top]

/-- An item before which nothing ends a range at the top comes before all ranges that end there. -/
theorem mem_of_split {before before' after after' : List (List Char)} {m : List Char}
    (same : before ++ m :: after = before' ++ item :: after') (top : EndsTop item)
    (unread : reading m = none) (none : ∀ b ∈ before, ¬ EndsTop b) : m ∈ before' := by
  rcases List.append_eq_append_iff.mp same with ⟨between, rfl, later⟩ | ⟨between, rfl, later⟩
  · cases between with
    | nil =>
      obtain ⟨rfl, -⟩ : m = item ∧ after = after' := by simpa using later
      obtain ⟨r, read, -⟩ := top
      simp [unread] at read
    | cons first between =>
      obtain ⟨rfl, -⟩ : m = first ∧ after = between ++ item :: after' := by simpa using later
      simp
  · cases between with
    | nil =>
      obtain ⟨rfl, -⟩ : item = m ∧ after' = after := by simpa using later
      obtain ⟨r, read, -⟩ := top
      simp [unread] at read
    | cons first between =>
      obtain ⟨rfl, -⟩ : item = first ∧ after' = between ++ m :: after := by simpa using later
      exact absurd top (none item (by simp))

/-- All items read: what was pushed is the list unless an item is read wrongly. -/
theorem pushed_iff (read : ∀ item ∈ items, reading item ≠ none) :
    (∀ cpus, items.flatMap pushed = cpus ↔
        (∀ item ∈ items, ∃ r, reading item = some r ∧ ¬ r.More) ∧ cpus = items.flatMap listed) ↔
      ∀ item ∈ items, ¬ EndsTop item ∧ ¬ GoesOn item := by
  constructor
  · intro same
    obtain ⟨alone, equal⟩ := (same _).mp rfl
    intro item mem
    refine ⟨fun top => ?_, ?_⟩
    · have longer : (items.flatMap pushed).length < (items.flatMap listed).length := by
        rw [List.length_flatMap, List.length_flatMap]
        exact List.sum_lt_sum _ _ (fun i _ => (listed_length i).1)
          ⟨item, mem, (listed_length item).2 top⟩
      exact longer.ne (congrArg List.length equal)
    · rintro ⟨r, isRead, more⟩
      obtain ⟨r', isRead', only⟩ := alone item mem
      obtain rfl : r = r' := by simpa [isRead'] using isRead.symm
      exact only more
  · intro good cpus
    have same : items.flatMap pushed = items.flatMap listed := by
      refine List.flatMap_congr fun item mem => ?_
      obtain ⟨r, isRead⟩ := Option.ne_none_iff_exists'.mp (read item mem)
      simp only [pushed, listed, isRead, Option.elim_some]
      exact Reading.pushed_eq fun top => (good item mem).1 ⟨r, isRead, top⟩
    rw [same]
    refine ⟨fun equal => ⟨fun item mem => ?_, equal.symm⟩, fun h => h.2.symm⟩
    obtain ⟨r, isRead⟩ := Option.ne_none_iff_exists'.mp (read item mem)
    exact ⟨r, isRead, fun more => (good item mem).2 ⟨r, isRead, more⟩⟩

/-- The parser is right about exactly the texts that do not come to a range up to the largest number
or to one with more than two ends. -/
theorem parse_cpuset_iff (checks : Bool) (text : List Char) :
    Faithful checks text ↔ Parsable checks (text.splitOn ',') := by
  have run := wp_parseItems checks (text.splitOn ',') []
  unfold Faithful
  rw [parseCpuset_eq]
  simp only [lists_iff]
  unfold wp at run
  generalize text.splitOn ',' = items at run ⊢
  cases ended : (forM items (parseItem checks) : Handler _ _ Unit) [] with
  | ok _ t =>
    rw [ended] at run
    obtain ⟨all, rfl⟩ := run
    have read : ∀ item ∈ items, reading item ≠ none := fun item mem => (all item mem).1
    have parsable : Parsable checks items ↔ ∀ item ∈ items, ¬ EndsTop item ∧ ¬ GoesOn item := by
      refine ⟨fun h => h.whole read, fun good => ⟨?_, fun _ => good⟩⟩
      rintro - before item after rfl top
      exact absurd top (good item (by simp)).1
    rw [parsable, ← pushed_iff read]
    simp
  | err _ t =>
    rw [ended] at run
    obtain ⟨before, m, after, rfl, unread, early⟩ := run
    refine iff_of_true ⟨nofun, fun cpus => iff_of_false nofun ?_⟩ ⟨?_, fun all => ?_⟩
    · rintro ⟨all, -⟩
      obtain ⟨r, isRead, -⟩ := all m (by simp)
      simp [unread] at isRead
    · intro isChecked before' item after' same top
      refine ⟨m, mem_of_split same top unread fun b mem => ?_, unread⟩
      exact fun endsTop => early b mem ⟨isChecked, endsTop⟩
    · exact absurd unread (all m (by simp))
  | panic msg t =>
    rw [ended] at run
    obtain ⟨isChecked, before, item, after, same, top, all⟩ := run
    refine iff_of_false (fun h => h.1 msg t rfl) fun h => ?_
    obtain ⟨m, mem, unread⟩ := h.checked isChecked before item after same top
    exact all m mem unread

/-- The end of 65535-65535 has no successor, so the parser panics or misses CPU 65535. It takes
1-2-3 for the range 1-2. -/
theorem parse_cpuset_unfaithful :
    ¬ Faithful true "65535-65535".toList ∧ ¬ Faithful false "65535-65535".toList ∧
      ¬ Faithful true "1-2-3".toList ∧ ¬ Faithful false "1-2-3".toList := by
  have panics : parseCpuset true "65535-65535".toList =
      .panic "attempt to add with overflow" [] := by decide +kernel
  have misses : parseCpuset false "65535-65535".toList = .ok () [] := by decide +kernel
  have top : Lists "65535-65535".toList [65535] := by
    have one : "65535-65535".toList.splitOn ',' = ["65535-65535".toList] := by decide +kernel
    have read : reading "65535-65535".toList = some (.range 65535 65535 false) := by decide +kernel
    rw [lists_iff, one]
    refine ⟨fun item mem => ?_, by decide +kernel⟩
    obtain rfl := List.mem_singleton.mp mem
    exact ⟨_, read, nofun⟩
  have three : ¬ Lists "1-2-3".toList [1, 2] := by
    have one : "1-2-3".toList.splitOn ',' = ["1-2-3".toList] := by decide +kernel
    have read : reading "1-2-3".toList = some (.range 1 2 true) := by decide +kernel
    rw [lists_iff, one]
    rintro ⟨all, -⟩
    obtain ⟨r, isRead, alone⟩ := all "1-2-3".toList (List.mem_singleton.mpr rfl)
    rw [read] at isRead
    cases isRead
    exact alone rfl
  refine ⟨fun h => h.1 _ _ panics, fun h => ?_, fun h => three ?_, fun h => three ?_⟩
  · have : parseCpuset false "65535-65535".toList = .ok () [65535] := (h.2 _).mpr top
    rw [misses] at this
    simp at this
  · exact (h.2 _).mp (by decide +kernel)
  · exact (h.2 _).mp (by decide +kernel)

end Runs

end CpuSet

end Snaplace
