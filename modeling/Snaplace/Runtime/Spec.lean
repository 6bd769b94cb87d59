import Snaplace.Runtime.UvmConfig

/-!
# The spec of a container

The OCI runtime spec of a container is built and serialized, or is a template with placeholders. In the
template the arguments of the container's process are escaped, and the other texts are not.
-/
namespace Snaplace
open Foundation
open Json (Denotes Mode Token isPlain run)
open Text (replaceAll replaceAll_append replaceAll_pattern)
open UvmConfig (Plain join)

namespace Spec

def processArgsPattern : String := "[\"$SNAPLACE_PROCESS_ARGS\"]"

def containerdNamespacePattern : String := "$SNAPLACE_CONTAINERD_NAMESPACE"

def vmIdPattern : String := "$SNAPLACE_VMID"

def text (chunks : List String) : List Char := chunks.flatMap String.toList

/-- The template up to the arguments. -/
def templateHead : List String :=
  ["\x7b\"ociVersion\":\"1.0.2-dev\",\"root\":\x7b\"path\":\"rootfs\",\"readonly\":false\x7d,",
    "\"mounts\":[\x7b\"destination\":\"/proc\",\"type\":\"proc\",\"source\":\"proc\",\"options\":[",
    "\"nosuid\",\"noexec\",\"nodev\"]\x7d,\x7b\"destination\":\"/dev\",\"type\":\"tmpfs\",",
    "\"source\":\"tmpfs\",\"options\":[\"nosuid\",\"strictatime\",\"mode=755\",\"size=65536k\"]\x7d,",
    "\x7b\"destination\":\"/dev/pts\",\"type\":\"devpts\",\"source\":\"devpts\",\"options\":[",
    "\"nosuid\",\"noexec\",\"newinstance\",\"ptmxmode=0666\",\"mode=0620\",\"gid=5\"]\x7d,",
    "\x7b\"destination\":\"/dev/shm\",\"type\":\"tmpfs\",\"source\":\"shm\",\"options\":[\"nosuid\",",
    "\"noexec\",\"nodev\",\"mode=1777\",\"size=65536k\"]\x7d,\x7b\"destination\":\"/dev/mqueue\",",
    "\"type\":\"mqueue\",\"source\":\"mqueue\",\"options\":[\"nosuid\",\"noexec\",\"nodev\"]\x7d,",
    "\x7b\"destination\":\"/sys\",\"type\":\"sysfs\",\"source\":\"sysfs\",\"options\":[\"nosuid\",",
    "\"noexec\",\"nodev\",\"ro\"]\x7d,\x7b\"destination\":\"/run\",\"type\":\"tmpfs\",",
    "\"source\":\"tmpfs\",\"options\":[\"nosuid\",\"strictatime\",\"mode=755\",\"size=65536k\"]\x7d,",
    "\x7b\"destination\":\"/etc/resolv.conf\",\"type\":\"bind\",\"source\":\"/etc/resolv.conf\",",
    "\"options\":[\"rbind\",\"ro\"]\x7d,\x7b\"destination\":\"/etc/hosts\",\"type\":\"bind\",",
    "\"source\":\"/etc/hosts\",\"options\":[\"rbind\",\"ro\"]\x7d],\"process\":\x7b",
    "\"terminal\":false,\"user\":\x7b\"uid\":0,\"gid\":0\x7d,\"args\":"]

/-- Up to the id of the VM in the annotations. -/
def templateProcess : List String :=
  [",\"env\":[\"PATH=/usr/local/sbin:/usr/local/bin:/usr/sbin:/usr/bin:/sbin:/bin\"],\"cwd\":\"/\",",
    "\"capabilities\":\x7b\"bounding\":[\"CAP_SETPCAP\",\"CAP_NET_BIND_SERVICE\",\"CAP_FSETID\",",
    "\"CAP_SETUID\",\"CAP_DAC_OVERRIDE\",\"CAP_SETFCAP\",\"CAP_KILL\",\"CAP_AUDIT_WRITE\",",
    "\"CAP_SYS_CHROOT\",\"CAP_NET_RAW\",\"CAP_SETGID\",\"CAP_FOWNER\",\"CAP_CHOWN\",",
    "\"CAP_SYS_TIME\",\"CAP_MKNOD\"],\"effective\":[\"CAP_SETPCAP\",\"CAP_NET_BIND_SERVICE\",",
    "\"CAP_FSETID\",\"CAP_SETUID\",\"CAP_DAC_OVERRIDE\",\"CAP_SETFCAP\",\"CAP_KILL\",",
    "\"CAP_AUDIT_WRITE\",\"CAP_SYS_CHROOT\",\"CAP_NET_RAW\",\"CAP_SETGID\",\"CAP_FOWNER\",",
    "\"CAP_CHOWN\",\"CAP_SYS_TIME\",\"CAP_MKNOD\"],\"inheritable\":[\"CAP_AUDIT_WRITE\",",
    "\"CAP_KILL\",\"CAP_NET_BIND_SERVICE\"],\"permitted\":[\"CAP_SETPCAP\",\"CAP_NET_BIND_SERVICE\",",
    "\"CAP_FSETID\",\"CAP_SETUID\",\"CAP_DAC_OVERRIDE\",\"CAP_SETFCAP\",\"CAP_KILL\",",
    "\"CAP_AUDIT_WRITE\",\"CAP_SYS_CHROOT\",\"CAP_NET_RAW\",\"CAP_SETGID\",\"CAP_FOWNER\",",
    "\"CAP_CHOWN\",\"CAP_SYS_TIME\",\"CAP_MKNOD\"],\"ambient\":[\"CAP_AUDIT_WRITE\",\"CAP_KILL\",",
    "\"CAP_NET_BIND_SERVICE\"]\x7d,\"rlimits\":[\x7b\"type\":\"RLIMIT_NOFILE\",\"hard\":1024,",
    "\"soft\":1024\x7d],\"noNewPrivileges\":true\x7d,\"hostname\":\"\",\"annotations\":\x7b",
    "\"aws.firecracker.vm.id\":\""]

/-- Between the quote behind this id and the path of the control group. -/
def templateLinux : List String :=
  ["\x7d,\"linux\":\x7b\"resources\":\x7b\"devices\":[\x7b\"allow\":false,\"access\":\"rwm\"\x7d,",
    "\x7b\"allow\":true,\"type\":\"c\",\"major\":253,\"minor\":0,\"access\":\"rwm\"\x7d]\x7d,",
    "\"cgroupsPath\":\"/"]

/-- Behind the quote at the end of this path. -/
def templateTail : List String :=
  [",\"namespaces\":[\x7b\"type\":\"pid\"\x7d,\x7b\"type\":\"ipc\"\x7d,\x7b\"type\":\"mount\"\x7d],",
    "\"devices\":[\x7b\"path\":\"/dev/ptp0\",\"type\":\"c\",\"major\":253,\"minor\":0,",
    "\"fileMode\":444,\"uid\":0,\"gid\":0\x7d],\"maskedPaths\":[\"/proc/acpi\",\"/proc/asound\",",
    "\"/proc/kcore\",\"/proc/keys\",\"/proc/latency_stats\",\"/proc/timer_list\",",
    "\"/proc/timer_stats\",\"/proc/sched_debug\",\"/sys/firmware\",\"/proc/scsi\"],",
    "\"readonlyPaths\":[\"/proc/bus\",\"/proc/fs\",\"/proc/irq\",\"/proc/sys\",",
    "\"/proc/sysrq-trigger\"]\x7d\x7d"]

def ociRtSpecTemplate : List Char :=
  text templateHead ++ (processArgsPattern.toList ++ (text templateProcess ++ (vmIdPattern.toList ++
    '"' :: (text templateLinux ++ (containerdNamespacePattern.toList ++ '/' :: (vmIdPattern.toList ++
      '"' :: text templateTail))))))

def ociVersion : String := "1.0.2-dev"

def vmIdKey : String := "aws.firecracker.vm.id"

def defaultCaps : List String :=
  ["CAP_CHOWN", "CAP_DAC_OVERRIDE", "CAP_FSETID", "CAP_FOWNER", "CAP_MKNOD", "CAP_NET_RAW",
    "CAP_SETGID", "CAP_SETUID", "CAP_SETFCAP", "CAP_SETPCAP", "CAP_NET_BIND_SERVICE",
    "CAP_SYS_CHROOT", "CAP_KILL", "CAP_AUDIT_WRITE"]

def caps : List String := defaultCaps ++ ["CAP_SYS_TIME"]

/-- Of the sets that are not given, by default. -/
def builderCaps : List String := ["CAP_AUDIT_WRITE", "CAP_KILL", "CAP_NET_BIND_SERVICE"]

/-- The sets of capabilities, each in the order in which it is serialized. -/
structure Capabilities where
  bounding : List String
  effective : List String
  inheritable : List String
  permitted : List String
  ambient : List String
  bounding_perm : bounding.Perm caps
  effective_perm : effective.Perm caps
  inheritable_perm : inheritable.Perm builderCaps
  permitted_perm : permitted.Perm caps
  ambient_perm : ambient.Perm builderCaps

def strings (ss : List String) : Json := .arr (ss.map fun s => .str s.toList)

def object (members : List (String × Json)) : Json :=
  .obj (members.map fun m => (m.1.toList, m.2))

def ptpKvmMajor : Json := .word ['2', '5', '3']

def ptpKvmMinor : Json := .word ['0']

def mount (destination type source : String) (options : List String) : Json :=
  object [("destination", .str destination.toList), ("type", .str type.toList),
    ("source", .str source.toList), ("options", strings options)]

/-- A spec as it is serialized. -/
def json (capabilities : Capabilities) (args : Json) (cgroupsPath id : List Char) : Json :=
  let str (s : String) : Json := .str s.toList
  let word (s : String) : Json := .word s.toList
  object [
    ("ociVersion", str ociVersion),
    ("root", object [("path", str "rootfs"), ("readonly", word "false")]),
    ("mounts", .arr [
      mount "/proc" "proc" "proc" ["nosuid", "noexec", "nodev"],
      mount "/dev" "tmpfs" "tmpfs" ["nosuid", "strictatime", "mode=755", "size=65536k"],
      mount "/dev/pts" "devpts" "devpts"
        ["nosuid", "noexec", "newinstance", "ptmxmode=0666", "mode=0620", "gid=5"],
      mount "/dev/shm" "tmpfs" "shm" ["nosuid", "noexec", "nodev", "mode=1777", "size=65536k"],
      mount "/dev/mqueue" "mqueue" "mqueue" ["nosuid", "noexec", "nodev"],
      mount "/sys" "sysfs" "sysfs" ["nosuid", "noexec", "nodev", "ro"],
      mount "/run" "tmpfs" "tmpfs" ["nosuid", "strictatime", "mode=755", "size=65536k"],
      mount "/etc/resolv.conf" "bind" "/etc/resolv.conf" ["rbind", "ro"],
      mount "/etc/hosts" "bind" "/etc/hosts" ["rbind", "ro"]]),
    ("process", object [
      ("terminal", word "false"),
      ("user", object [("uid", word "0"), ("gid", word "0")]),
      ("args", args),
      ("env", strings ["PATH=/usr/local/sbin:/usr/local/bin:/usr/sbin:/usr/bin:/sbin:/bin"]),
      ("cwd", str "/"),
      ("capabilities", object [
        ("bounding", strings capabilities.bounding),
        ("effective", strings capabilities.effective),
        ("inheritable", strings capabilities.inheritable),
        ("permitted", strings capabilities.permitted),
        ("ambient", strings capabilities.ambient)]),
      ("rlimits", .arr [object [
        ("type", str "RLIMIT_NOFILE"), ("hard", word "1024"), ("soft", word "1024")]]),
      ("noNewPrivileges", word "true")]),
    ("hostname", str ""),
    ("annotations", object [(vmIdKey, .str id)]),
    ("linux", object [
      ("resources", object [("devices", .arr [
        object [("allow", word "false"), ("access", str "rwm")],
        object [("allow", word "true"), ("type", str "c"), ("major", ptpKvmMajor),
          ("minor", ptpKvmMinor), ("access", str "rwm")]])]),
      ("cgroupsPath", .str cgroupsPath),
      ("namespaces", .arr [object [("type", str "pid")], object [("type", str "ipc")],
        object [("type", str "mount")]]),
      ("devices", .arr [object [
        ("path", str "/dev/ptp0"), ("type", str "c"), ("major", ptpKvmMajor),
        ("minor", ptpKvmMinor), ("fileMode", word "444"), ("uid", word "0"), ("gid", word "0")]]),
      ("maskedPaths", strings ["/proc/acpi", "/proc/asound", "/proc/kcore", "/proc/keys",
        "/proc/latency_stats", "/proc/timer_list", "/proc/timer_stats", "/proc/sched_debug",
        "/sys/firmware", "/proc/scsi"]),
      ("readonlyPaths", strings ["/proc/bus", "/proc/fs", "/proc/irq", "/proc/sys",
        "/proc/sysrq-trigger"])])]

/-- In the order that the template has. -/
def templateCaps : List String :=
  ["CAP_SETPCAP", "CAP_NET_BIND_SERVICE", "CAP_FSETID", "CAP_SETUID", "CAP_DAC_OVERRIDE",
    "CAP_SETFCAP", "CAP_KILL", "CAP_AUDIT_WRITE", "CAP_SYS_CHROOT", "CAP_NET_RAW", "CAP_SETGID",
    "CAP_FOWNER", "CAP_CHOWN", "CAP_SYS_TIME", "CAP_MKNOD"]

theorem templateCaps_perm : templateCaps.Perm caps := by decide +kernel

def templateCapabilities : Capabilities where
  bounding := templateCaps
  effective := templateCaps
  inheritable := builderCaps
  permitted := templateCaps
  ambient := builderCaps
  bounding_perm := templateCaps_perm
  effective_perm := templateCaps_perm
  inheritable_perm := .refl _
  permitted_perm := templateCaps_perm
  ambient_perm := .refl _

def argsJson (processArgs : List Char) : Json := .arr ((processArgs.splitOn ' ').map .str)

/-- `Path::join`, which an absolute path replaces. -/
def pathJoin (dir path : List Char) : List Char := if path.head? = some '/' then path else join dir path

/-- The spec that is built, with the orders its sets have got. -/
def generateFcctrdSpec (capabilities : Capabilities) (processArgs ns id : List Char) : Json :=
  json capabilities (argsJson processArgs) (pathJoin (pathJoin ['/'] ns) id) id

/-- The serializer of JSON texts, of which is relied on that they denote what is serialized. -/
structure SerdeJson where
  toString : List (List Char) → List Char
  denotes : ∀ ss, Denotes (toString ss) (.arr (ss.map .str))

def SerdeJson.compact : SerdeJson where
  toString ss := Json.print (.arr (ss.map .str))
  denotes ss := Json.denotes_print (Json.proper_strings ss)

def replacements (serde : SerdeJson) (processArgs ns id : List Char) :
    List (List Char × List Char) :=
  [(processArgsPattern.toList, serde.toString (processArgs.splitOn ' ')),
    (containerdNamespacePattern.toList, ns), (vmIdPattern.toList, id)]

def fillTemplate (serde : SerdeJson) (haystack processArgs ns id : List Char) : List Char :=
  replaceAll (replacements serde processArgs ns id) haystack

section Template

def patterns : List (List Char) :=
  [processArgsPattern.toList, containerdNamespacePattern.toList, vmIdPattern.toList]

/-- Characters that do not occur in the template, in the places of what is put in. -/
def marks : Json := json templateCapabilities (.word ['α']) ['π'] ['ι']

def filling (args : Json) (cgroupsPath id : List Char) : Json.Filling where
  text c := if c = 'π' then cgroupsPath else if c = 'ι' then id else [c]
  value w := if w = ['α'] then args else .word w

def unmarked : Token → Bool
  | .punct _ => true
  | .word w => w ≠ ['α']
  | .str s => s.all fun c => c ≠ 'π' && c ≠ 'ι'

/-- The tokens that end in a text. -/
def endTokens (text : List Char) : List Token := ((run .top text).map (·.2)).getD []

/-- A part of the template's text between two placeholders, at the end of which a string may have
begun. -/
structure Piece (piece : List String) (last : Mode) : Prop where
  untouched : Text.untouched patterns (text piece) = true
  ran : run .top (text piece) = some (last, endTokens (text piece))
  unmarked : ∀ t ∈ endTokens (text piece), unmarked t = true
  noEscape : '\\' ∉ text piece

def isPiece (text : List Char) (last : Mode) : Bool :=
  Text.untouched patterns text && run .top text = some (last, endTokens text) &&
    (endTokens text).all unmarked && !text.contains '\\'

theorem Piece.of_isPiece {piece : List String} {last : Mode}
    (checked : isPiece (text piece) last = true) : Piece piece last := by
  rw [isPiece, Bool.and_eq_true, Bool.and_eq_true, Bool.and_eq_true, decide_eq_true_eq,
    List.all_eq_true] at checked
  exact ⟨checked.1.1.1, checked.1.1.2, checked.1.2, by simpa using checked.2⟩

theorem templateHead_piece : Piece templateHead .top := by
  apply Piece.of_isPiece
  simp only [text, templateHead, List.flatMap_cons, List.flatMap_nil]
  repeat rw [String.toList_ofList]
  decide +kernel

theorem templateProcess_piece : Piece templateProcess (.str []) := by
  apply Piece.of_isPiece
  simp only [text, templateProcess, List.flatMap_cons, List.flatMap_nil]
  repeat rw [String.toList_ofList]
  decide +kernel

theorem templateLinux_piece : Piece templateLinux (.str ['/']) := by
  apply Piece.of_isPiece
  simp only [text, templateLinux, List.flatMap_cons, List.flatMap_nil]
  repeat rw [String.toList_ofList]
  decide +kernel

theorem templateTail_piece : Piece templateTail .top := by
  apply Piece.of_isPiece
  simp only [text, templateTail, List.flatMap_cons, List.flatMap_nil]
  repeat rw [String.toList_ofList]
  decide +kernel

theorem tokens_marks : marks.tokens =
    endTokens (text templateHead) ++ .word ['α'] :: (endTokens (text templateProcess) ++
      .str ['ι'] :: (endTokens (text templateLinux) ++ .str ['π'] ::
        endTokens (text templateTail))) := by
  simp only [text, templateHead, templateProcess, templateLinux, templateTail, List.flatMap_cons,
    List.flatMap_nil]
  repeat rw [String.toList_ofList]
  simp only [marks, json, object, strings, mount, templateCapabilities, templateCaps, builderCaps,
    ptpKvmMajor, ptpKvmMinor, ociVersion, vmIdKey, List.map_cons, List.map_nil, String.reduceToList]
  decide +kernel

variable {args : Json} {cgroupsPath id ns processArgs : List Char} {serde : SerdeJson}

theorem fill_marks : marks.fill (filling args cgroupsPath id) =
    json templateCapabilities args cgroupsPath id := by
  simp [marks, json, object, strings, mount, templateCapabilities, templateCaps, builderCaps,
    ptpKvmMajor, ptpKvmMinor, ociVersion, vmIdKey, Json.fill, Json.fillElems, Json.fillMembers,
    Json.fillMember, filling]

theorem fill_of_unmarked {t : Token} (h : unmarked t = true) :
    t.fill (filling args cgroupsPath id) = [t] := by
  cases t with
  | punct c => rfl
  | word w =>
    have other : w ≠ ['α'] := by simpa [unmarked] using h
    simp [Token.fill, filling, other, Json.tokens]
  | str s =>
    have same : s.flatMap (filling args cgroupsPath id).text = s := by
      induction s with
      | nil => rfl
      | cons c s ih =>
        simp only [unmarked, List.all_cons, Bool.and_eq_true, decide_eq_true_eq] at h
        rw [List.flatMap_cons, ih (by simpa [unmarked] using h.2)]
        simp [filling, h.1]
    simp [Token.fill, same]

theorem Piece.fill {piece : List String} {last : Mode} (h : Piece piece last) :
    (endTokens (text piece)).flatMap (Token.fill (filling args cgroupsPath id)) =
      endTokens (text piece) := by
  have unmarked := h.unmarked
  revert unmarked
  induction endTokens (text piece) with
  | nil => simp
  | cons t ts ih =>
    intro unmarked
    rw [List.flatMap_cons, fill_of_unmarked (unmarked t (by simp)),
      ih fun u mem => unmarked u (by simp [mem]), List.singleton_append]

/-- Between what is put in, the tokens of a spec are those of the template. -/
theorem tokens_json : (json templateCapabilities args cgroupsPath id).tokens =
    endTokens (text templateHead) ++ (args.tokens ++ (endTokens (text templateProcess) ++
      .str id :: (endTokens (text templateLinux) ++ .str cgroupsPath ::
        endTokens (text templateTail)))) := by
  rw [← fill_marks, Json.tokens_fill, tokens_marks]
  simp only [List.flatMap_append, List.flatMap_cons, templateHead_piece.fill,
    templateProcess_piece.fill, templateLinux_piece.fill, templateTail_piece.fill]
  simp [Token.fill, filling]

theorem untouched_replacements {text : List Char} (h : Text.untouched patterns text = true) :
    Text.untouched ((replacements serde processArgs ns id).map Prod.fst) text = true := h

theorem find?_replacements (serde : SerdeJson) (processArgs ns id rest : List Char) :
    (replacements serde processArgs ns id).find?
        (·.1.isPrefixOf (processArgsPattern.toList ++ rest)) =
      some (processArgsPattern.toList, serde.toString (processArgs.splitOn ' ')) ∧
    (replacements serde processArgs ns id).find?
        (·.1.isPrefixOf (containerdNamespacePattern.toList ++ rest)) =
      some (containerdNamespacePattern.toList, ns) ∧
    (replacements serde processArgs ns id).find? (·.1.isPrefixOf (vmIdPattern.toList ++ rest)) =
      some (vmIdPattern.toList, id) := by
  simp [replacements, processArgsPattern, containerdNamespacePattern, vmIdPattern]

theorem fillTemplate_eq : fillTemplate serde ociRtSpecTemplate processArgs ns id =
    text templateHead ++ (serde.toString (processArgs.splitOn ' ') ++
      (text templateProcess ++ (id ++ '"' :: (text templateLinux ++ (ns ++ '/' :: (id ++
        '"' :: text templateTail)))))) := by
  have piece {piece : List String} {last : Mode} (h : Piece piece last) (rest : List Char) :
      replaceAll (replacements serde processArgs ns id) (text piece ++ rest) =
        text piece ++ replaceAll (replacements serde processArgs ns id) rest :=
    replaceAll_append (untouched_replacements h.untouched)
  have between {c : Char} (other : Text.untouched patterns [c] = true) (rest : List Char) :
      replaceAll (replacements serde processArgs ns id) (c :: rest) =
        c :: replaceAll (replacements serde processArgs ns id) rest :=
    replaceAll_append (untouched_replacements other)
  have quote := between (c := '"') (by decide +kernel)
  have slash := between (c := '/') (by decide +kernel)
  have tail : replaceAll (replacements serde processArgs ns id) (text templateTail) =
      text templateTail := by
    simpa [replaceAll, Text.replaceFrom] using piece templateTail_piece []
  have pattern := find?_replacements serde processArgs ns id
  rw [fillTemplate, ociRtSpecTemplate, piece templateHead_piece,
    replaceAll_pattern (by simp [processArgsPattern]) (pattern _).1, piece templateProcess_piece,
    replaceAll_pattern (by simp [vmIdPattern]) (pattern _).2.2, quote, piece templateLinux_piece,
    replaceAll_pattern (by simp [containerdNamespacePattern]) (pattern _).2.1, slash,
    replaceAll_pattern (by simp [vmIdPattern]) (pattern _).2.2, quote, tail]

end Template

/-- The texts of a template between what is put in: the arguments, the id, the namespace and the id
again, with the tokens that end in them. -/
structure Pieces where
  head : List Char
  process : List Char
  linux : List Char
  tail : List Char
  headTokens : List Token
  processTokens : List Token
  linuxTokens : List Token
  tailTokens : List Token
  run_head : run .top head = some (.top, headTokens)
  run_process : run .top process = some (.str [], processTokens)
  run_linux : run .top linux = some (.str ['/'], linuxTokens)
  run_tail : run .top tail = some (.top, tailTokens)
  noEscape : '\\' ∉ head ∧ '\\' ∉ process ∧ '\\' ∉ linux ∧ '\\' ∉ tail
  linux_blocked : Json.blocked linux = true
  tail_blocked : Json.blocked tail = true
  tokens_json : ∀ args cgroupsPath id, (json templateCapabilities args cgroupsPath id).tokens =
    headTokens ++ (args.tokens ++ (processTokens ++ .str id :: (linuxTokens ++
      .str cgroupsPath :: tailTokens)))

namespace Pieces
variable (P : Pieces) {args : Json} {argsText ns id : List Char} {j : Json} {ts : List Token}

/-- The text behind the quote before the first id, and a space. -/
def rest (ns id : List Char) : List Char :=
  id ++ '"' :: (P.linux ++ (ns ++ '/' :: (id ++ '"' :: (P.tail ++ [' ']))))

def text (argsText ns id : List Char) : List Char :=
  P.head ++ (argsText ++ (P.process ++ (id ++ '"' :: (P.linux ++ (ns ++ '/' :: (id ++ '"' ::
    P.tail))))))

variable {P}

theorem denotes_iff (denotes : run .top argsText = some (.top, args.tokens)) :
    Denotes (P.text argsText ns id) j ↔ ∃ ts, run (.str []) (P.rest ns id) = some (.top, ts) ∧
      j.tokens = P.headTokens ++ (args.tokens ++ (P.processTokens ++ ts)) := by
  have shape : P.text argsText ns id ++ [' '] =
      P.head ++ (argsText ++ (P.process ++ P.rest ns id)) := by
    simp [text, rest]
  rw [Denotes, Json.lex_eq_some, shape, Json.run_append_of P.run_head]
  simp only [Json.run_append_of denotes, Json.run_append_of P.run_process]
  constructor
  · rintro ⟨_, ⟨_, ⟨ts, ran, rfl⟩, rfl⟩, same⟩
    exact ⟨ts, ran, same⟩
  · rintro ⟨ts, ran, same⟩
    exact ⟨_, ⟨_, ⟨ts, ran, rfl⟩, rfl⟩, same⟩

theorem run_tail_space : run .top (P.tail ++ [' ']) = some (.top, ts) ↔ ts = P.tailTokens := by
  have space : run .top [' '] = some (.top, []) := by decide
  simp [Json.run_append_of P.run_tail, space, eq_comm]

/-- Plain texts are put in right. -/
theorem denotes_text (denotes : run .top argsText = some (.top, args.tokens)) (plainNs : Plain ns)
    (plainId : Plain id) : Denotes (P.text argsText ns id)
      (json templateCapabilities args ('/' :: (ns ++ '/' :: id)) id) := by
  have plainPath : Plain (ns ++ '/' :: id) :=
    plainNs.append (UvmConfig.plain_cons (by decide) plainId)
  have path : run (.str ['/']) (ns ++ '/' :: (id ++ '"' :: (P.tail ++ [' ']))) =
      some (.top, .str ('/' :: (ns ++ '/' :: id)) :: P.tailTokens) := by
    have last : run .top (P.tail ++ [' ']) = some (.top, P.tailTokens) := run_tail_space.mpr rfl
    have quoted : run (.str ['/']) (ns ++ '/' :: id ++ '"' :: (P.tail ++ [' '])) =
        some (.top, .str (['/'].reverse ++ (ns ++ '/' :: id)) :: P.tailTokens) :=
      (Json.run_str_append plainPath).mpr ⟨_, last, rfl⟩
    simpa using quoted
  refine (denotes_iff denotes).mpr ⟨_, ?_, P.tokens_json _ _ _⟩
  refine (Json.run_quoted_append plainId).mpr ⟨_, ?_, rfl⟩
  exact (Json.run_append_of P.run_linux).mpr ⟨_, path, rfl⟩

end Pieces

section Template

theorem templateLinux_blocked : Json.blocked (text templateLinux) = true := by
  simp only [text, templateLinux, List.flatMap_cons, List.flatMap_nil]
  repeat rw [String.toList_ofList]
  decide +kernel

theorem templateTail_blocked : Json.blocked (text templateTail) = true := by
  simp only [text, templateTail, List.flatMap_cons, List.flatMap_nil]
  repeat rw [String.toList_ofList]
  decide +kernel

def template : Pieces where
  head := text templateHead
  process := text templateProcess
  linux := text templateLinux
  tail := text templateTail
  headTokens := endTokens (text templateHead)
  processTokens := endTokens (text templateProcess)
  linuxTokens := endTokens (text templateLinux)
  tailTokens := endTokens (text templateTail)
  run_head := templateHead_piece.ran
  run_process := templateProcess_piece.ran
  run_linux := templateLinux_piece.ran
  run_tail := templateTail_piece.ran
  noEscape := ⟨templateHead_piece.noEscape, templateProcess_piece.noEscape,
    templateLinux_piece.noEscape, templateTail_piece.noEscape⟩
  linux_blocked := templateLinux_blocked
  tail_blocked := templateTail_blocked
  tokens_json _ _ _ := tokens_json

variable {serde : SerdeJson} {processArgs ns id : List Char}

/-- The template's pieces, and what is put in between them. -/
theorem fillTemplate_text : fillTemplate serde ociRtSpecTemplate processArgs ns id =
    template.text (serde.toString (processArgs.splitOn ' ')) ns id := by
  rw [fillTemplate_eq, Pieces.text]
  simp only [template]

end Template

section Paths

/-- The names on a path. -/
def names (path : List Char) : List (List Char) :=
  (path.splitOn '/').filter fun piece => piece ≠ [] ∧ piece ≠ ['.']

/-- The components of a path, by which paths are compared: whether it is absolute, whether it begins
with a dot, and the names on it. -/
def components (path : List Char) : Bool × Bool × List (List Char) :=
  (path.head? = some '/', (path.splitOn '/').head? = some ['.'], names path)

variable {p : Char → Bool} {path dir base : List Char}

theorem countP_splitOn (slash : p '/' = false) :
    ((path.splitOn '/').map (List.countP p)).sum = path.countP p := by
  induction path with
  | nil => rfl
  | cons c path ih =>
    rw [List.splitOn_cons_eq_if_modifyHead]
    split
    next isSlash =>
      obtain rfl : c = '/' := by simpa using isSlash
      simpa [slash] using ih
    next =>
      cases split : path.splitOn '/' with
      | nil => exact absurd split (List.splitOn_ne_nil '/' path)
      | cons first pieces =>
        simp only [split, List.map_cons, List.sum_cons] at ih
        simp only [List.modifyHead_cons, List.map_cons, List.sum_cons, List.countP_cons]
        omega

/-- The names on a path have its characters, but for slashes and dots. -/
theorem countP_names (slash : p '/' = false) (dot : p '.' = false) :
    ((names path).map (List.countP p)).sum = path.countP p := by
  rw [← countP_splitOn slash, names]
  induction path.splitOn '/' with
  | nil => rfl
  | cons piece pieces ih =>
    by_cases named : piece ≠ [] ∧ piece ≠ ['.']
    · simpa [List.filter_cons, named] using ih
    · have nothing : piece.countP p = 0 := by
        simp only [ne_eq, not_and_or, not_not] at named
        rcases named with rfl | rfl <;> simp [dot]
      simpa [List.filter_cons, named, nothing] using ih

theorem names_append (dir base : List Char) : names (dir ++ '/' :: base) = names dir ++ names base := by
  rw [names, List.splitOn_append_cons_self, List.filter_append]
  rfl

theorem names_slash : names ('/' :: path) = names path := names_append [] path

theorem components_slash : components ('/' :: path) = (true, false, names path) := by
  have split : ('/' :: path).splitOn '/' = [] :: path.splitOn '/' :=
    List.splitOn_append_cons_self [] path
  simp [components, names_slash, split]

theorem components_join : components (join ('/' :: dir) base) =
    (true, false, names dir ++ names base) := by
  unfold join
  split
  next slash =>
    have last : ('/' :: dir).getLast? = some '/' := by simpa using slash
    obtain ⟨start, same⟩ := List.getLast?_eq_some_iff.mp last
    cases start with
    | nil =>
      obtain rfl : dir = [] := by simpa using same
      exact components_slash
    | cons c start =>
      obtain ⟨rfl, rfl⟩ : '/' = c ∧ dir = start ++ ['/'] := by simpa using same
      have shape : '/' :: (start ++ ['/']) ++ base = '/' :: (start ++ '/' :: base) := by simp
      rw [shape, components_slash, names_append, names_append start []]
      simp [names]
  next => rw [List.cons_append, components_slash, names_append]

/-- The path that is built is the one of the template but for an id that is an absolute path. -/
theorem components_pathJoin_iff (ns id : List Char) :
    components ('/' :: (ns ++ '/' :: id)) = components (pathJoin (pathJoin ['/'] ns) id) ↔
      id.head? ≠ some '/' ∨ names ns = [] := by
  have path : components ('/' :: (ns ++ '/' :: id)) = (true, false, names ns ++ names id) := by
    rw [components_slash, names_append]
  rw [path]
  by_cases absolute : id.head? = some '/'
  · obtain ⟨id, rfl⟩ : ∃ id', id = '/' :: id' := List.head?_eq_some_iff.mp absolute
    have same : pathJoin (pathJoin ['/'] ns) ('/' :: id) = '/' :: id := by simp [pathJoin]
    simp [same, components_slash, names_slash]
  · have relative : pathJoin (pathJoin ['/'] ns) id = join (pathJoin ['/'] ns) id := by
      simp [pathJoin, absolute]
    obtain ⟨dir, rooted, same⟩ : ∃ dir, pathJoin ['/'] ns = '/' :: dir ∧ names dir = names ns := by
      by_cases rooted : ns.head? = some '/'
      · obtain ⟨dir, rfl⟩ : ∃ dir, ns = '/' :: dir := List.head?_eq_some_iff.mp rooted
        exact ⟨dir, by simp [pathJoin], names_slash.symm⟩
      · exact ⟨ns, by simp [pathJoin, rooted, join], rfl⟩
    rw [relative, rooted, components_join, same]
    simp [absolute]

end Paths

/-- What is relied on of the type of specs, and of how they are read from JSON. -/
structure OciSpec where
  Value : Type
  parse : Json → Option Value
  /-- What is built can be read. -/
  builds : ∀ capabilities (args : List (List Char)) cgroupsPath id,
    (parse (json capabilities (.arr (args.map .str)) cgroupsPath id)).isSome = true
  /-- The sets have no order, and paths are compared by their components. -/
  same : ∀ {capabilities capabilities'} {args : List (List Char)} {cgroupsPath cgroupsPath' id},
    components cgroupsPath = components cgroupsPath' →
      parse (json capabilities (.arr (args.map .str)) cgroupsPath id) =
        parse (json capabilities' (.arr (args.map .str)) cgroupsPath' id)
  tells : ∀ {capabilities capabilities'} {args args' : List (List Char)} {cgroupsPath cgroupsPath' id id'},
    parse (json capabilities (.arr (args.map .str)) cgroupsPath id) =
        parse (json capabilities' (.arr (args'.map .str)) cgroupsPath' id') →
      args = args' ∧ components cgroupsPath = components cgroupsPath' ∧ id = id'
  /-- The texts of a spec are strings of its own in the value that it is read from. -/
  strings : ∀ {v capabilities} {args : List (List Char)} {cgroupsPath id},
    parse v = parse (json capabilities (.arr (args.map .str)) cgroupsPath id) →
      ∃ path, components path = components cgroupsPath ∧
        (args ++ [id, path]).Subperm v.strings

/-- The template gives a valid text, and the same spec as is built. -/
def Agrees (serde : SerdeJson) (oci : OciSpec) (processArgs ns id : List Char) : Prop :=
  ∃ v, Denotes (fillTemplate serde ociRtSpecTemplate processArgs ns id) v ∧
    ∀ capabilities, oci.parse v = oci.parse (generateFcctrdSpec capabilities processArgs ns id)

section Necessity
variable {P : Pieces} {oci : OciSpec} {args : List (List Char)} {ns id path : List Char}
  {v : Json} {ts : List Token} {capabilities : Capabilities}

theorem weight_eq {path path' : List Char} (same : components path = components path') :
    Json.weight path = Json.weight path' := by
  have names : names path = names path' := by simpa [components] using congrArg (·.2.2) same
  have slash : (decide ('/' = '"') || decide ('/' = '\\')) = false := by decide
  have dot : (decide ('.' = '"') || decide ('.' = '\\')) = false := by decide
  rw [Json.weight, Json.weight, ← countP_names slash dot, names, countP_names slash dot]

theorem weight_le_of_subperm {l l' : List (List Char)} (h : l.Subperm l') :
    (l.map Json.weight).sum ≤ (l'.map Json.weight).sum := by
  obtain ⟨m, perm, sub⟩ := h
  rw [← (perm.map _).sum_eq]
  exact (sub.map _).sum_le_sum fun _ _ => Nat.zero_le _

theorem totalWeight_strings : Json.totalWeight v.tokens = (v.strings.map Json.weight).sum :=
  Json.totalWeight_eq_sum v.tokens

/-- A quote in the id or the namespace would be lost: it has no backslash in the template, and it is in
the spec. -/
theorem no_quotes (ran : run (.str []) (P.rest ns id) = some (.top, ts))
    (tokens : v.tokens =
      P.headTokens ++ ((Json.arr (args.map .str)).tokens ++ (P.processTokens ++ ts)))
    (same : components path = components ('/' :: (ns ++ '/' :: id)))
    (here : (args ++ [id, path]).Subperm v.strings) : '"' ∉ id ∧ '"' ∉ ns := by
  have head := Json.weight_run P.run_head
  have process := Json.weight_run P.run_process
  have escaped := Json.weight_run ran
  have lower := weight_le_of_subperm here
  have whole : Json.weight path = Json.weight ns + Json.weight id := by
    rw [weight_eq same]
    simp [Json.weight]
  have backslashes : (P.rest ns id).count '\\' = id.count '\\' + (ns.count '\\' + id.count '\\') := by
    have others := P.noEscape
    simp [Pieces.rest, List.count_append, List.count_eq_zero_of_not_mem others.2.2.1,
      List.count_eq_zero_of_not_mem others.2.2.2]
  have weights : (v.strings.map Json.weight).sum = Json.totalWeight P.headTokens +
      ((args.map Json.weight).sum + (Json.totalWeight P.processTokens + Json.totalWeight ts)) := by
    rw [← totalWeight_strings, tokens]
    simp only [Json.totalWeight_append, totalWeight_strings, Json.strings_arr_str]
  simp only [List.count_eq_zero_of_not_mem P.noEscape.1, Json.Mode.weight] at head
  simp only [List.count_eq_zero_of_not_mem P.noEscape.2.1, Json.Mode.weight] at process
  simp only [Json.Mode.weight, backslashes] at escaped
  simp only [List.map_append, List.map_cons, List.map_nil, List.sum_append, List.sum_cons,
    List.sum_nil, whole] at lower
  have emptyWeight : Json.weight [] = 0 := rfl
  rw [weights, Json.weight_eq_count id, Json.weight_eq_count ns] at lower
  constructor <;> rw [← List.count_eq_zero] <;> omega

/-- Without quotes the template has the structure of a spec, of which the id and the path may be other
texts. -/
theorem exists_of_unquoted (ran : run (.str []) (P.rest ns id) = some (.top, ts))
    (tokens : v.tokens =
      P.headTokens ++ ((Json.arr (args.map .str)).tokens ++ (P.processTokens ++ ts)))
    (noQuotes : '"' ∉ id ∧ '"' ∉ ns) :
    ∃ id' path us vs, v = json templateCapabilities (.arr (args.map .str)) path id' ∧
      run (.str []) (P.rest ns id) = some (.top, .str id' :: us) ∧
      run (.str ['/']) (ns ++ '/' :: id ++ '"' :: (P.tail ++ [' '])) =
        some (.top, .str path :: vs) := by
  obtain ⟨id', us, rfl, linux⟩ := Json.exists_of_run_unquoted rfl noQuotes.1
    (Json.blocks_of_blocked P.linux_blocked) ran
  obtain ⟨us', cgroups, rfl⟩ := (Json.run_append_of P.run_linux).mp linux
  have shape : ns ++ '/' :: (id ++ '"' :: (P.tail ++ [' '])) =
      ns ++ '/' :: id ++ '"' :: (P.tail ++ [' ']) := by simp
  rw [shape] at cgroups
  obtain ⟨path, vs, rfl, tail⟩ := Json.exists_of_run_unquoted rfl (by simp [noQuotes])
    (Json.blocks_of_blocked P.tail_blocked) cgroups
  obtain rfl := Pieces.run_tail_space.mp tail
  refine ⟨id', path, _, _, Json.tokens_injective ?_, ran, cgroups⟩
  rw [tokens, P.tokens_json]

theorem plain_of_parse (ran : run (.str []) (P.rest ns id) = some (.top, ts))
    (tokens : v.tokens =
      P.headTokens ++ ((Json.arr (args.map .str)).tokens ++ (P.processTokens ++ ts)))
    (same : components path = components ('/' :: (ns ++ '/' :: id)))
    (parsed : oci.parse v = oci.parse (json capabilities (.arr (args.map .str)) path id)) :
    Plain ns ∧ Plain id := by
  obtain ⟨path', same', here⟩ := oci.strings parsed
  obtain ⟨id', cgroupsPath, us, vs, rfl, annotation, cgroups⟩ :=
    exists_of_unquoted ran tokens (no_quotes ran tokens (same'.trans same) here)
  obtain ⟨-, read, rfl⟩ := oci.tells parsed
  have plainId : Plain id' := Json.plain_of_run_string annotation
  refine ⟨?_, plainId⟩
  let p (c : Char) : Bool := c ≠ '/' && c ≠ '.'
  have count {path path' : List Char} (same : components path = components path') :
      path.countP p = path'.countP p := by
    have names : names path = names path' := by simpa [components] using congrArg (·.2.2) same
    rw [← countP_names (p := p) rfl rfl, names, countP_names rfl rfl]
  have whole : cgroupsPath.countP p = ['/'].countP p + (ns ++ '/' :: id').countP p := by
    rw [count (read.trans same)]
    simp [p]
  have noQuotes := no_quotes ran tokens (same'.trans same) here
  have plain := Json.plain_of_countP (by decide) (by simp [noQuotes])
    (Json.blocks_of_blocked P.tail_blocked) cgroups whole
  exact fun c mem => plain c (by simp [mem])

end Necessity

variable {serde : SerdeJson} {oci : OciSpec} {processArgs ns id : List Char}

theorem agrees_iff_of_plain (plainNs : Plain ns) (plainId : Plain id) :
    Agrees serde oci processArgs ns id ↔ id.head? ≠ some '/' ∨ names ns = [] := by
  have text := Pieces.denotes_text (P := template) (serde.denotes (processArgs.splitOn ' ')).run_arr
    plainNs plainId
  rw [← fillTemplate_text] at text
  rw [← components_pathJoin_iff]
  constructor
  · rintro ⟨v, denotes, parsed⟩
    obtain rfl := denotes.unique text
    exact (oci.tells (parsed templateCapabilities)).2.1
  · intro same
    exact ⟨_, text, fun capabilities => oci.same same⟩

theorem agrees_iff_of_relative (relative : id.head? ≠ some '/') :
    Agrees serde oci processArgs ns id ↔ Plain ns ∧ Plain id := by
  have same := (components_pathJoin_iff ns id).mpr (.inl relative)
  constructor
  · rintro ⟨v, denotes, parsed⟩
    rw [fillTemplate_text] at denotes
    obtain ⟨ts, ran, tokens⟩ :=
      (Pieces.denotes_iff (serde.denotes (processArgs.splitOn ' ')).run_arr).mp denotes
    exact plain_of_parse ran tokens same.symm (parsed templateCapabilities)
  · rintro ⟨plainNs, plainId⟩
    exact (agrees_iff_of_plain plainNs plainId).mpr (.inl relative)

section Reader

/-- The arguments of the process in a spec. -/
def processArgs? (v : Json) : Option (List (List Char)) := do
  (← (← v.member? "process".toList).member? "args".toList).asStrings

/-- The id of the VM in a spec. -/
def vmId? (v : Json) : Option (List Char) := do
  (← (← v.member? "annotations".toList).member? vmIdKey.toList).asString

def cgroupsPath? (v : Json) : Option (List Char) := do
  (← (← v.member? "linux".toList).member? "cgroupsPath".toList).asString

theorem member?_object {members : List (String × Json)} (key : String) :
    (object members).member? key.toList = (members.find? (·.1 = key)).map (·.2) := by
  simp [object, Json.member?, List.find?_map, Function.comp_def, String.toList_inj]

variable {capabilities : Capabilities} {args : Json} {cgroupsPath id : List Char}

theorem processArgs?_json : processArgs? (json capabilities args cgroupsPath id) = args.asStrings := by
  simp [processArgs?, json, member?_object, -String.reduceToList]

theorem vmId?_json : vmId? (json capabilities args cgroupsPath id) = some id := by
  simp [vmId?, json, member?_object, Json.asString, -String.reduceToList]

theorem cgroupsPath?_json :
    cgroupsPath? (json capabilities args cgroupsPath id) = some cgroupsPath := by
  simp [cgroupsPath?, json, member?_object, Json.asString, -String.reduceToList]

/-- Each text is a string of its own. -/
theorem subperm_strings {v : Json} {args : List (List Char)} (hasArgs : processArgs? v = some args)
    (hasId : vmId? v = some id) (hasPath : cgroupsPath? v = some cgroupsPath) :
    (args ++ [id, cgroupsPath]).Subperm v.strings := by
  simp only [processArgs?, bind, Option.bind_eq_some_iff, Json.asStrings_eq_some] at hasArgs
  simp only [vmId?, bind, Option.bind_eq_some_iff, Json.asString_eq_some] at hasId
  simp only [cgroupsPath?, bind, Option.bind_eq_some_iff, Json.asString_eq_some] at hasPath
  obtain ⟨process, hasProcess, _, hasArgs, rfl⟩ := hasArgs
  obtain ⟨annotations, hasAnnotations, _, hasId, rfl⟩ := hasId
  obtain ⟨linux, hasLinux, _, hasPath, rfl⟩ := hasPath
  have argsIn : args.Subperm process.strings := by
    have inner := Json.strings_subperm process [("args".toList, .arr (args.map .str))] (by simp)
      (by simpa using hasArgs) (by simp)
    simpa [Json.strings_arr_str] using inner
  have strIn {w : Json} {key s : List Char} (found : w.member? key = some (.str s)) :
      [s].Subperm w.strings := by
    have inner := Json.strings_subperm w [(key, .str s)] (by simp)
      (by simpa using found) (by simp)
    simpa [Json.strings, Json.tokens, Token.str?] using inner
  have keys : ["process".toList, "annotations".toList, "linux".toList].Nodup := by
    simp [String.toList_inj, -String.reduceToList]
  have outer := Json.strings_subperm v [("process".toList, process),
    ("annotations".toList, annotations), ("linux".toList, linux)] keys
    (by simp [hasProcess, hasAnnotations, hasLinux, -String.reduceToList]) (by simp)
  simp only [List.flatMap_cons, List.flatMap_nil, List.append_nil] at outer
  exact (argsIn.append ((strIn hasId).append (strIn hasPath))).trans outer

/-- What is read from a value is among its strings. -/
theorem strings_of_parts {v : Json} {args : List (List Char)} {cgroupsPath id : List Char}
    (read : (do some (← processArgs? v, components (← cgroupsPath? v), ← vmId? v)) =
      some (args, components cgroupsPath, id)) :
    ∃ path, components path = components cgroupsPath ∧
      (args ++ [id, path]).Subperm v.strings := by
  simp only [bind, Option.bind_eq_some_iff, Option.some.injEq, Prod.mk.injEq] at read
  obtain ⟨_, hasArgs, path, hasPath, _, hasId, rfl, same, rfl⟩ := read
  exact ⟨path, same, subperm_strings hasArgs hasId hasPath⟩

/-- A reader of what is put into a spec. -/
def OciSpec.reader : OciSpec where
  Value := List (List Char) × (Bool × Bool × List (List Char)) × List Char
  parse v := do some (← processArgs? v, components (← cgroupsPath? v), ← vmId? v)
  builds _ args cgroupsPath id := by
    simp [processArgs?_json, vmId?_json, cgroupsPath?_json, Json.asStrings_eq_some.mpr rfl]
  same := by
    intro _ _ args cgroupsPath cgroupsPath' id same
    simp [processArgs?_json, vmId?_json, cgroupsPath?_json, same]
  tells := by
    intro _ _ args args' cgroupsPath cgroupsPath' id id' same
    simpa [processArgs?_json, vmId?_json, cgroupsPath?_json, Json.asStrings_eq_some.mpr rfl]
      using same
  strings := by
    intro v _ args cgroupsPath id same
    refine strings_of_parts (same.trans ?_)
    simp [processArgs?_json, vmId?_json, cgroupsPath?_json, Json.asStrings_eq_some.mpr rfl]

/-- The texts may be put into the template as they are, and the path is the one that is built. -/
def Renderable (ns id : List Char) : Prop :=
  Plain ns ∧ Plain id ∧ (id.head? ≠ some '/' ∨ names ns = [])

/-- Both templates are filled as if the values were built, for texts that need no escapes. Other texts
are rendered wrong, but that an id may be such an absolute path that the namespace makes up for it. -/
theorem rendering_agrees (serde : SerdeJson) (oci : OciSpec) (processArgs ns id : List Char)
    (fc : UvmConfig.Firecracker) (rootfsPath : UvmConfig.OsText) (tap : Network.TapDevice)
    (uvmDirPath vmId : List Char) :
    ((Renderable ns id → Agrees serde oci processArgs ns id) ∧
      (Agrees serde oci processArgs ns id → Renderable ns id ∨
        id.head? = some '/' ∧ ¬(Plain ns ∧ Plain id))) ∧
      (UvmConfig.Exact fc rootfsPath tap uvmDirPath vmId ↔
        tap.info.prefixLen ≤ 32 ∧ UvmConfig.Clean fc.kernelImg ∧ UvmConfig.Clean rootfsPath ∧
          Plain tap.info.name.toList ∧ Plain uvmDirPath) := by
  refine ⟨⟨?_, ?_⟩, UvmConfig.exact_iff⟩
  · rintro ⟨plainNs, plainId, path⟩
    exact (agrees_iff_of_plain plainNs plainId).mpr path
  · intro agrees
    by_cases relative : id.head? ≠ some '/'
    · obtain ⟨plainNs, plainId⟩ := (agrees_iff_of_relative relative).mp agrees
      exact .inl ⟨plainNs, plainId, .inl relative⟩
    · by_cases plain : Plain ns ∧ Plain id
      · exact .inl ⟨plain.1, plain.2, (agrees_iff_of_plain plain.1 plain.2).mp agrees⟩
      · exact .inr ⟨by simpa using relative, plain⟩

theorem template_agrees_sample :
    Agrees SerdeJson.compact OciSpec.reader "/bin/sh -c true".toList ['n', 's'] ['v', 'm', '1'] := by
  have renderable : Renderable ['n', 's'] ['v', 'm', '1'] := ⟨by decide, by decide, by decide⟩
  exact (rendering_agrees SerdeJson.compact OciSpec.reader _ _ _
    ⟨[], .silent, ⟨2 ^ 27, 1⟩, .x86_64, fun _ => 0⟩ [] ⟨4, "tap0", none, 1, 31, 0⟩ [] []).1.1 renderable

/-- A quote in the id, behind which there is a word that JSON does not have. -/
theorem template_quoted_id : ¬∃ v, Denotes (fillTemplate SerdeJson.compact
    ociRtSpecTemplate ['s', 'h'] ['n', 's'] ['a', '"', 'b']) v := by
  rintro ⟨v, denotes⟩
  rw [fillTemplate_text] at denotes
  obtain ⟨ts, ran, -⟩ := (Pieces.denotes_iff (SerdeJson.compact.denotes _).run_arr).mp denotes
  have stuck : run (.str []) (template.rest ['n', 's'] ['a', '"', 'b']) = none := rfl
  simp [stuck] at ran

end Reader

end Spec

end Snaplace
