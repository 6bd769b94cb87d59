import Snaplace.Foundation.JsonPrint
import Snaplace.Network.Taps

/-!
# The configuration of a microVM

Firecracker is given its configuration as a JSON text, which is a template with placeholders. What is
put in for them is not escaped.
-/
namespace Snaplace
open Foundation
open Json (Denotes Token isPlain)
open Text (decimal replaceAll)

namespace UvmConfig

/-- A text of the operating system: its characters, and none for a piece that is not UTF-8. -/
abbrev OsText := List (Option Char)

def toStringLossy (s : OsText) : List Char := s.map (·.getD '\uFFFD')

/-- `Utf8Path::join` of a relative path. -/
def join (dir base : List Char) : List Char :=
  if dir = [] ∨ dir.getLast? = some '/' then dir ++ base else dir ++ '/' :: base

inductive KernelVerbosity where
  | silent
  | minimal
  | verbose
  deriving DecidableEq, Repr

inductive TargetArch where
  | x86_64
  | aarch64
  deriving DecidableEq, Repr

def baseKernelBootParams : TargetArch → String
  | .x86_64 =>
    "i8042.nokbd i8042.noaux i8042.nomux ipv6.disable=1 reboot=k panic=1 swiotlb=noforce nomodule random.trust_cpu=on tsc=reliable ro init=/sbin/overlay-init"
  | .aarch64 =>
    "ipv6.disable=1 reboot=k panic=1 swiotlb=noforce nomodule random.trust_cpu=on ro init=/sbin/overlay-init"

/-- What a profile adds to the parameters of them all. -/
def KernelVerbosity.params : TargetArch → KernelVerbosity → String
  | _, .silent => " 8250.nr_uarts=0"
  | .x86_64, .minimal =>
    " 8250.nr_uarts=1 console=ttyS0,115200n8 systemd.journald.forward_to_console=no systemd.getty_auto=no"
  | .aarch64, .minimal =>
    " keep_bootcon 8250.nr_uarts=1 console=ttyS0,115200n8 systemd.journald.forward_to_console=no systemd.getty_auto=no"
  | .x86_64, .verbose =>
    " 8250.nr_uarts=1 console=ttyS0,115200n8 systemd.journald.forward_to_console=yes"
  | .aarch64, .verbose =>
    " keep_bootcon 8250.nr_uarts=1 console=ttyS0,115200n8 systemd.journald.forward_to_console=yes"

def KernelVerbosity.bootParams (arch : TargetArch) (verbosity : KernelVerbosity) : List Char :=
  (baseKernelBootParams arch).toList ++ (verbosity.params arch).toList

/-- An IPv4 address in dotted decimal. -/
def ipText (addr : Nat) : List Char :=
  decimal (addr / 2 ^ 24 % 256) ++ '.' :: decimal (addr / 2 ^ 16 % 256) ++
    '.' :: decimal (addr / 2 ^ 8 % 256) ++ '.' :: decimal (addr % 256)

/-- None where the assertion on the prefix length fails. -/
def prefixToMask (prefixLen : Nat) : Option Nat :=
  if prefixLen ≤ 32 then some (2 ^ 32 - 2 ^ (32 - prefixLen)) else none

def ipBootParam (info : Network.TapInfo) : Option (List Char) := do
  let netmask ← prefixToMask info.prefixLen
  some ("ip=".toList ++ ipText info.ipAddr ++ "::".toList ++ ipText info.gateway ++ ':' ::
    ipText netmask ++ "::eth0:off:1.1.1.1:1.0.0.1:".toList)

structure FcFunctionInfo where
  memory : Nat
  vcpuCount : UInt8
  deriving DecidableEq, Repr

structure Firecracker where
  kernelImg : OsText
  kernelVerbosity : KernelVerbosity
  functionInfo : FcFunctionInfo
  arch : TargetArch
  /-- The hash that the guest's CID is made of. -/
  hashOne : List Char → UInt64

def vsockGuestCid (hash : UInt64) : Nat := 3 + hash.toNat % 2 ^ 32 % (2 ^ 32 - 1 - 3)

/-- What is put in the places of the placeholders. -/
structure Replacements where
  vcpuCount : List Char
  memSizeMib : List Char
  vsockGuestCid : List Char
  kernelImgPath : List Char
  kernelBootArgs : List Char
  uvmRootfs : List Char
  hostTapName : List Char
  vsockUdsPath : List Char
  vmmLogLvl : List Char
  vmmLogPath : List Char
  vmmMetricsPath : List Char

/-- The placeholders of numbers are replaced with the quotes around them. -/
def Replacements.rules (r : Replacements) : List (List Char × List Char) :=
  [("\"$SNAPLACE_VCPU_COUNT\"".toList, r.vcpuCount),
    ("\"$SNAPLACE_MEM_SIZE_MIB\"".toList, r.memSizeMib),
    ("\"$SNAPLACE_VSOCK_GUEST_CID\"".toList, r.vsockGuestCid),
    ("$SNAPLACE_KERNEL_IMG_PATH".toList, r.kernelImgPath),
    ("$SNAPLACE_KERNEL_BOOT_ARGS".toList, r.kernelBootArgs),
    ("$SNAPLACE_UVM_ROOTFS".toList, r.uvmRootfs),
    ("$SNAPLACE_HOST_TAP_NAME".toList, r.hostTapName),
    ("$SNAPLACE_VSOCK_UDS_PATH".toList, r.vsockUdsPath),
    ("$SNAPLACE_VMM_LOG_LVL".toList, r.vmmLogLvl),
    ("$SNAPLACE_VMM_LOG_PATH".toList, r.vmmLogPath),
    ("$SNAPLACE_VMM_METRICS_PATH".toList, r.vmmMetricsPath)]

def uvmConfigTemplate : List Char :=
  ["\x7b\n",
    "\t\"boot-source\": \x7b\n",
    "\t\t\"kernel_image_path\": \"$SNAPLACE_KERNEL_IMG_PATH\",\n",
    "\t\t\"boot_args\": \"$SNAPLACE_KERNEL_BOOT_ARGS\",\n",
    "\t\t\"initrd_path\": null\n",
    "\t\x7d,\n",
    "\t\"drives\": [\n",
    "\t \t\x7b\n",
    "\t \t\t\"drive_id\": \"rootfs\",\n",
    "\t \t\t\"is_root_device\": true,\n",
    "\t \t\t\"path_on_host\": \"$SNAPLACE_UVM_ROOTFS\",\n",
    "\t \t\t\"partuuid\": null,\n",
    "\t\t\t\"is_read_only\": true,\n",
    "\t \t\t\"cache_type\": \"Unsafe\",\n",
    "\t \t\t\"io_engine\": \"Sync\",\n",
    "\t \t\t\"rate_limiter\": null\n",
    "\t \t\x7d\n",
    "\t],\n",
    "\t\"machine-config\": \x7b\n",
    "\t\t\"vcpu_count\": \"$SNAPLACE_VCPU_COUNT\",\n",
    "\t\t\"mem_size_mib\": \"$SNAPLACE_MEM_SIZE_MIB\",\n",
    "\t\t\"smt\": false,\n",
    "\t\t\"track_dirty_pages\": false\n",
    "\t\x7d,\n",
    "\t\"cpu-config\": null,\n",
    "\t\"balloon\": null,\n",
    "\t\"network-interfaces\": [\n",
    "\t \t\x7b\n",
    "\t \t\t\"iface_id\": \"eth0\",\n",
    "\t \t\t\"host_dev_name\": \"$SNAPLACE_HOST_TAP_NAME\"\n",
    "\t \t\x7d\n",
    "\t],\n",
    "\t\"vsock\": \x7b\n",
    "\t\t\"guest_cid\": \"$SNAPLACE_VSOCK_GUEST_CID\",\n",
    "\t\t\"uds_path\": \"$SNAPLACE_VSOCK_UDS_PATH\"\n",
    "\t\x7d,\n",
    "\t\"entropy\": \x7b\x7d,\n",
    "\t\"logger\": \x7b\n",
    "\t\t\"level\": \"$SNAPLACE_VMM_LOG_LVL\",\n",
    "\t\t\"log_path\": \"$SNAPLACE_VMM_LOG_PATH\",\n",
    "\t\t\"show_level\": true,\n",
    "\t\t\"show_log_origin\": true\n",
    "\t\x7d,\n",
    "\t\"metrics\": \x7b\n",
    "\t\t\"metrics_path\": \"$SNAPLACE_VMM_METRICS_PATH\"\n",
    "\t\x7d,\n",
    "\t\"mmds-config\": null\n",
    "\x7d\n"].flatMap String.toList

/-- The replacements, of which the two paths are as the caller of `render_uvm_config` reads them. -/
def replacements (fc : Firecracker) (kernelImg rootfsPath : List Char) (tap : Network.TapDevice)
    (uvmDirPath vmId : List Char) : Option Replacements := do
  let ip ← ipBootParam tap.info
  some {
    vcpuCount := decimal fc.functionInfo.vcpuCount.toNat
    memSizeMib := decimal (fc.functionInfo.memory / 2 ^ 20)
    vsockGuestCid := decimal (vsockGuestCid (fc.hashOne vmId))
    kernelImgPath := kernelImg
    kernelBootArgs := fc.kernelVerbosity.bootParams fc.arch ++ ' ' :: ip
    uvmRootfs := rootfsPath
    hostTapName := tap.info.name.toList
    vsockUdsPath := join uvmDirPath "v.sock".toList
    vmmLogLvl := "Warning".toList
    vmmLogPath := join uvmDirPath "log.fifo".toList
    vmmMetricsPath := join uvmDirPath "mtr.fifo".toList }

def renderUvmConfig (fc : Firecracker) (rootfsPath : OsText) (tap : Network.TapDevice)
    (uvmDirPath vmId : List Char) : Option (List Char) := do
  let r ← replacements fc (toStringLossy fc.kernelImg) (toStringLossy rootfsPath) tap uvmDirPath vmId
  some (replaceAll r.rules uvmConfigTemplate)

/-- The value of the template with each placeholder replaced. -/
def Replacements.json (r : Replacements) : Json :=
  let str (s : String) : Json := .str s.toList
  let word (s : String) : Json := .word s.toList
  let obj (members : List (String × Json)) : Json := .obj (members.map fun m => (m.1.toList, m.2))
  obj [
    ("boot-source", obj [
      ("kernel_image_path", .str r.kernelImgPath),
      ("boot_args", .str r.kernelBootArgs),
      ("initrd_path", word "null")]),
    ("drives", .arr [obj [
      ("drive_id", str "rootfs"),
      ("is_root_device", word "true"),
      ("path_on_host", .str r.uvmRootfs),
      ("partuuid", word "null"),
      ("is_read_only", word "true"),
      ("cache_type", str "Unsafe"),
      ("io_engine", str "Sync"),
      ("rate_limiter", word "null")]]),
    ("machine-config", obj [
      ("vcpu_count", .word r.vcpuCount),
      ("mem_size_mib", .word r.memSizeMib),
      ("smt", word "false"),
      ("track_dirty_pages", word "false")]),
    ("cpu-config", word "null"),
    ("balloon", word "null"),
    ("network-interfaces", .arr [obj [
      ("iface_id", str "eth0"),
      ("host_dev_name", .str r.hostTapName)]]),
    ("vsock", obj [
      ("guest_cid", .word r.vsockGuestCid),
      ("uds_path", .str r.vsockUdsPath)]),
    ("entropy", obj []),
    ("logger", obj [
      ("level", .str r.vmmLogLvl),
      ("log_path", .str r.vmmLogPath),
      ("show_level", word "true"),
      ("show_log_origin", word "true")]),
    ("metrics", obj [("metrics_path", .str r.vmmMetricsPath)]),
    ("mmds-config", word "null")]

/-- Characters that do not occur in the template, in the places of the replacements. -/
def marks : Replacements where
  vcpuCount := ['1']
  memSizeMib := ['2']
  vsockGuestCid := ['3']
  kernelImgPath := ['κ']
  kernelBootArgs := ['β']
  uvmRootfs := ['ρ']
  hostTapName := ['τ']
  vsockUdsPath := ['υ']
  vmmLogLvl := ['ν']
  vmmLogPath := ['λ']
  vmmMetricsPath := ['μ']

def Replacements.filling (r : Replacements) : Json.Filling where
  text c :=
    if c = '1' then r.vcpuCount
    else if c = '2' then r.memSizeMib
    else if c = '3' then r.vsockGuestCid
    else if c = 'κ' then r.kernelImgPath
    else if c = 'β' then r.kernelBootArgs
    else if c = 'ρ' then r.uvmRootfs
    else if c = 'τ' then r.hostTapName
    else if c = 'υ' then r.vsockUdsPath
    else if c = 'ν' then r.vmmLogLvl
    else if c = 'λ' then r.vmmLogPath
    else if c = 'μ' then r.vmmMetricsPath
    else [c]
  value w :=
    .word (if w = ['1'] then r.vcpuCount
      else if w = ['2'] then r.memSizeMib
      else if w = ['3'] then r.vsockGuestCid
      else w)

theorem marked_rules (r : Replacements) :
    r.rules = marks.rules.map fun rule => (rule.1, rule.2.flatMap r.filling.text) := by
  simp [Replacements.rules, marks, Replacements.filling]

theorem fill_marks (r : Replacements) : marks.json.fill r.filling = r.json := by
  simp [Replacements.json, marks, Json.fill, Json.fillElems, Json.fillMembers, Json.fillMember,
    Replacements.filling]

/-- The template with a mark in the place of each placeholder. -/
def template : List Char := replaceAll marks.rules uvmConfigTemplate

def numberMarks : List (List Char) := [['1'], ['2'], ['3']]

def stringMarks : List (List Char) := [['κ'], ['β'], ['ρ'], ['τ'], ['υ'], ['ν'], ['λ'], ['μ']]

def words : List (List Char) := ["null".toList, "true".toList, "false".toList]

set_option maxRecDepth 10000 in
/-- The marked template is a JSON text without escapes, of the value with these marks. -/
theorem template_denotes : Denotes template marks.json ∧ '\\' ∉ template ∧
    ∀ c ∈ uvmConfigTemplate, [c] ∉ numberMarks ++ stringMarks := by
  unfold template
  simp only [uvmConfigTemplate, List.flatMap_cons, List.flatMap_nil]
  repeat rw [String.toList_ofList]
  simp only [marks, Replacements.rules, Replacements.json, List.map_cons, List.map_nil,
    String.reduceToList]
  decide +kernel

/-- Whether a token is a mark of its own, or has no marks in it. -/
def separates : Token → Bool
  | .punct _ => true
  | .word w => w ∈ numberMarks || w ∈ words
  | .str s => s ∈ stringMarks || s.all fun c => isPlain c && !((numberMarks ++ stringMarks).contains [c])

theorem tokens_separate : marks.json.tokens.all separates = true := by
  simp only [marks, Replacements.json, List.map_cons, List.map_nil, String.reduceToList]
  decide +kernel

theorem marks_occur : ∀ m ∈ stringMarks, .str m ∈ marks.json.tokens := by
  simp only [marks, Replacements.json, List.map_cons, List.map_nil, String.reduceToList]
  decide +kernel

variable {r : Replacements}

/-- What is put in the places of numbers is such. -/
structure Replacements.Numbers (r : Replacements) : Prop where
  vcpuCount : Json.IsWordText r.vcpuCount
  memSizeMib : Json.IsWordText r.memSizeMib
  vsockGuestCid : Json.IsWordText r.vsockGuestCid

def Replacements.strings (r : Replacements) : List (List Char) :=
  [r.kernelImgPath, r.kernelBootArgs, r.uvmRootfs, r.hostTapName, r.vsockUdsPath, r.vmmLogLvl,
    r.vmmLogPath, r.vmmMetricsPath]

theorem strings_eq : r.strings = stringMarks.map fun m => m.flatMap r.filling.text := by
  simp [Replacements.strings, stringMarks, Replacements.filling]

theorem fixed_of_not_mark {c : Char} (other : [c] ∉ numberMarks ++ stringMarks) :
    r.filling.text c = [c] := by
  simp only [numberMarks, stringMarks, List.cons_append, List.nil_append, List.mem_cons,
    List.cons.injEq, and_true, List.not_mem_nil, or_false, not_or] at other
  simp [Replacements.filling, other]

theorem flatMap_of_no_mark {s : List Char} (other : ∀ c ∈ s, [c] ∉ numberMarks ++ stringMarks) :
    s.flatMap r.filling.text = s := by
  induction s with
  | nil => rfl
  | cons c s ih =>
    rw [List.flatMap_cons, fixed_of_not_mark (other c (by simp)),
      ih fun d mem => other d (by simp [mem]), List.singleton_append]

theorem word_of_words {w : List Char} (mem : w ∈ words) :
    Json.IsWordText w ∧ ∀ c ∈ w, [c] ∉ numberMarks ++ stringMarks := by
  simp only [words, List.mem_cons, List.not_mem_nil, or_false] at mem
  rcases mem with rfl | rfl | rfl
  all_goals exact ⟨⟨by decide, by decide, by decide⟩, by decide⟩

theorem standsFor_word (numbers : r.Numbers) {w : List Char} (mem : .word w ∈ marks.json.tokens) :
    Json.StandsFor (w.flatMap r.filling.text) (r.filling.value w).tokens := by
  have separate : w ∈ numberMarks ∨ w ∈ words := by
    simpa [separates] using List.all_eq_true.mp tokens_separate _ mem
  rcases separate with number | fixed
  · simp only [numberMarks, List.mem_cons, List.not_mem_nil, or_false] at number
    rcases number with rfl | rfl | rfl
    · simpa [Replacements.filling, Json.tokens] using numbers.vcpuCount.standsFor
    · simpa [Replacements.filling, Json.tokens] using numbers.memSizeMib.standsFor
    · simpa [Replacements.filling, Json.tokens] using numbers.vsockGuestCid.standsFor
  · obtain ⟨word, other⟩ := word_of_words fixed
    have same : (r.filling.value w).tokens = [.word w] := by
      simp only [words, List.mem_cons, List.not_mem_nil, or_false] at fixed
      rcases fixed with rfl | rfl | rfl <;> simp [Replacements.filling, Json.tokens]
    rw [flatMap_of_no_mark other, same]
    exact word.standsFor

/-- The text denotes the template's value with the replacements, if and only if all strings put in are
plain. -/
theorem denotes_iff (numbers : r.Numbers) :
    Denotes (replaceAll r.rules uvmConfigTemplate) r.json ↔
      ∀ s ∈ r.strings, ∀ c ∈ s, isPlain c = true := by
  obtain ⟨denotes, noEscape, noMark⟩ := template_denotes
  have fixed : ∀ c, Json.isWordChar c = false → r.filling.text c = [c] := by
    intro c other
    refine fixed_of_not_mark fun mark => ?_
    have word : ∀ m ∈ numberMarks ++ stringMarks, m.all Json.isWordChar = true := by decide
    simpa [other] using word _ mark
  rw [marked_rules, Text.replaceAll_map fun c mem => fixed_of_not_mark (noMark c mem), ← fill_marks]
  change Denotes (template.flatMap _) _ ↔ _
  rw [Json.denotes_fill_iff fixed noEscape denotes fun w mem => standsFor_word numbers mem,
    strings_eq]
  constructor
  · intro plain s mem
    obtain ⟨m, mark, rfl⟩ := List.mem_map.mp mem
    exact plain m (marks_occur m mark)
  · intro plain s mem
    have separate : s ∈ stringMarks ∨
        ∀ c ∈ s, isPlain c = true ∧ [c] ∉ numberMarks ++ stringMarks := by
      simpa [separates] using List.all_eq_true.mp tokens_separate _ mem
    rcases separate with mark | other
    · exact plain _ (List.mem_map_of_mem mark)
    · rw [flatMap_of_no_mark fun c mem => (other c mem).2]
      exact fun c mem => (other c mem).1

/-- Only plain characters, as a JSON string has them. -/
def Plain (s : List Char) : Prop := ∀ c ∈ s, isPlain c = true

instance (s : List Char) : Decidable (Plain s) :=
  inferInstanceAs (Decidable (∀ c ∈ s, isPlain c = true))

/-- UTF-8 throughout, and plain. -/
def Clean (s : OsText) : Prop := ∀ piece ∈ s, ∃ c, piece = some c ∧ isPlain c = true

theorem Plain.append {s t : List Char} (h : Plain s) (h' : Plain t) : Plain (s ++ t) := by
  intro c mem
  exact (List.mem_append.mp mem).elim (h c) (h' c)

theorem plain_decimal (n : Nat) : Plain (decimal n) := fun c mem =>
  Json.isPlain_of_isDigit (Text.decimal_isDigit c mem)

theorem plain_cons {c : Char} {s : List Char} (isPlain : isPlain c = true) (h : Plain s) :
    Plain (c :: s) := by
  intro d mem
  rcases List.mem_cons.mp mem with rfl | mem
  · exact isPlain
  · exact h d mem

theorem plain_ipText (addr : Nat) : Plain (ipText addr) :=
  (((plain_decimal _).append (plain_cons (by decide) (plain_decimal _))).append
    (plain_cons (by decide) (plain_decimal _))).append (plain_cons (by decide) (plain_decimal _))

theorem plain_literal {s : String} {l : List Char} (literal : s = String.ofList l)
    (plain : l.all isPlain = true) : Plain s.toList := by
  rw [literal, String.toList_ofList]
  simpa [Plain] using plain

theorem plain_ipBootParam {info : Network.TapInfo} {ip : List Char}
    (made : ipBootParam info = some ip) : Plain ip := by
  simp only [ipBootParam, bind, Option.bind_eq_some_iff, Option.some.injEq] at made
  obtain ⟨netmask, -, rfl⟩ := made
  have label : Plain "ip=".toList := plain_literal rfl (by decide)
  have colons : Plain "::".toList := plain_literal rfl (by decide)
  have others : Plain "::eth0:off:1.1.1.1:1.0.0.1:".toList := plain_literal rfl (by decide)
  have mask : Plain (':' :: ipText netmask) := plain_cons (by decide) (plain_ipText netmask)
  exact ((((label.append (plain_ipText _)).append colons).append (plain_ipText _)).append
    mask).append others

set_option maxRecDepth 4000 in
theorem plain_bootParams (arch : TargetArch) (verbosity : KernelVerbosity) :
    Plain (verbosity.bootParams arch) := by
  refine Plain.append ?_ ?_
  · cases arch <;> exact plain_literal rfl (by decide +kernel)
  · cases arch <;> cases verbosity <;> exact plain_literal rfl (by decide +kernel)

theorem plain_join {dir base : List Char} (h : Plain base) : Plain (join dir base) ↔ Plain dir := by
  unfold join
  constructor
  · intro joined c mem
    split at joined <;> exact joined c (by simp [mem])
  · intro plain
    split
    · exact plain.append h
    · exact plain.append (plain_cons (by decide) h)

theorem clean_iff {s : OsText} : Clean s ↔ ∃ text, s = text.map some ∧ Plain text := by
  constructor
  · intro clean
    induction s with
    | nil => exact ⟨[], rfl, by simp [Plain]⟩
    | cons piece s ih =>
      obtain ⟨c, rfl, isPlain⟩ := clean piece (by simp)
      obtain ⟨text, rfl, plain⟩ := ih fun p mem => clean p (by simp [mem])
      exact ⟨c :: text, rfl, plain_cons isPlain plain⟩
  · rintro ⟨text, rfl, plain⟩ piece mem
    obtain ⟨c, here, rfl⟩ := List.mem_map.mp mem
    exact ⟨c, rfl, plain c here⟩

theorem toStringLossy_map (text : List Char) : toStringLossy (text.map some) = text := by
  simp [toStringLossy]

/-- The text that is rendered denotes the template's value, in which the placeholders are replaced with
exactly what is given. -/
def Exact (fc : Firecracker) (rootfsPath : OsText) (tap : Network.TapDevice)
    (uvmDirPath vmId : List Char) : Prop :=
  ∃ kernelImg rootfs r text, fc.kernelImg = kernelImg.map some ∧ rootfsPath = rootfs.map some ∧
    replacements fc kernelImg rootfs tap uvmDirPath vmId = some r ∧
    renderUvmConfig fc rootfsPath tap uvmDirPath vmId = some text ∧ Denotes text r.json

variable {fc : Firecracker} {rootfsPath : OsText} {tap : Network.TapDevice}
  {kernelImg rootfs uvmDirPath vmId : List Char}

theorem exists_replacements (fc : Firecracker) (kernelImg rootfs uvmDirPath vmId : List Char)
    (bounded : tap.info.prefixLen ≤ 32) :
    ∃ r, replacements fc kernelImg rootfs tap uvmDirPath vmId = some r := by
  simp [replacements, ipBootParam, prefixToMask, bounded]

theorem prefixLen_le_of_replacements
    (made : replacements fc kernelImg rootfs tap uvmDirPath vmId = some r) :
    tap.info.prefixLen ≤ 32 := by
  by_contra exceeds
  simp [replacements, ipBootParam, prefixToMask, exceeds] at made

theorem numbers_of_replacements
    (made : replacements fc kernelImg rootfs tap uvmDirPath vmId = some r) : r.Numbers := by
  simp only [replacements, bind, Option.bind_eq_some_iff, Option.some.injEq] at made
  obtain ⟨ip, -, rfl⟩ := made
  exact ⟨Json.isWordText_decimal _, Json.isWordText_decimal _, Json.isWordText_decimal _⟩

/-- Of what is put in, only the given names and paths may not be plain. -/
theorem plain_replacements_iff
    (made : replacements fc kernelImg rootfs tap uvmDirPath vmId = some r) :
    (∀ s ∈ r.strings, Plain s) ↔
      Plain kernelImg ∧ Plain rootfs ∧ Plain tap.info.name.toList ∧ Plain uvmDirPath := by
  simp only [replacements, bind, Option.bind_eq_some_iff, Option.some.injEq] at made
  obtain ⟨ip, ipMade, rfl⟩ := made
  have bootArgs : Plain (fc.kernelVerbosity.bootParams fc.arch ++ ' ' :: ip) :=
    (plain_bootParams _ _).append (plain_cons (by decide) (plain_ipBootParam ipMade))
  have level : Plain "Warning".toList := plain_literal rfl (by decide)
  have socket : Plain "v.sock".toList := plain_literal rfl (by decide)
  have log : Plain "log.fifo".toList := plain_literal rfl (by decide)
  have metrics : Plain "mtr.fifo".toList := plain_literal rfl (by decide)
  simp only [Replacements.strings, List.forall_mem_cons, List.not_mem_nil, false_implies,
    implies_true, and_true, bootArgs, level, plain_join socket, plain_join log, plain_join metrics]
  tauto

/-- The configuration is rendered right if and only if the paths and the tap's name need no escapes. -/
theorem exact_iff : Exact fc rootfsPath tap uvmDirPath vmId ↔
    tap.info.prefixLen ≤ 32 ∧ Clean fc.kernelImg ∧ Clean rootfsPath ∧
      Plain tap.info.name.toList ∧ Plain uvmDirPath := by
  constructor
  · rintro ⟨kernelImg, rootfs, r, text, kernel, root, made, rendered, denotes⟩
    simp only [renderUvmConfig, kernel, root, toStringLossy_map, made] at rendered
    obtain rfl := Option.some.inj rendered
    have plain := (plain_replacements_iff made).mp
      ((denotes_iff (numbers_of_replacements made)).mp denotes)
    exact ⟨prefixLen_le_of_replacements made, clean_iff.mpr ⟨_, kernel, plain.1⟩,
      clean_iff.mpr ⟨_, root, plain.2.1⟩, plain.2.2⟩
  · rintro ⟨bounded, kernel, root, rest⟩
    obtain ⟨kernelImg, kernel, plainKernel⟩ := clean_iff.mp kernel
    obtain ⟨rootfs, root, plainRoot⟩ := clean_iff.mp root
    obtain ⟨r, made⟩ := exists_replacements fc kernelImg rootfs uvmDirPath vmId bounded
    refine ⟨kernelImg, rootfs, r, _, kernel, root, made, ?_, (denotes_iff
      (numbers_of_replacements made)).mpr ((plain_replacements_iff made).mpr
        ⟨plainKernel, plainRoot, rest⟩)⟩
    simp [renderUvmConfig, kernel, root, toStringLossy_map, made]

end UvmConfig
end Snaplace
