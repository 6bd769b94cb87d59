import Snaplace.Foundation.Refinement
import Snaplace.Metadata.Persistence
import Snaplace.Runtime.Spec

/-!
# The arguments of a container's process

The command line of an image is joined to one text when a function is registered, and is split again
when a container is created.
-/
namespace Snaplace
open Foundation Foundation.Handler
open Json (Denotes)
open Spec (SerdeJson Capabilities fillTemplate generateFcctrdSpec ociRtSpecTemplate processArgs?)
open Text (byteLength)
open UvmConfig (Plain)

namespace ProcessArgs

structure Config where
  entrypoint : Option (List (List Char))
  cmd : Option (List (List Char))
  deriving DecidableEq, Repr

structure ImageConfiguration where
  config : Option Config
  deriving DecidableEq, Repr

inductive Error where
  | ociImageConfigMissingField (field : String)
  deriving DecidableEq, Repr

/-- The strings of the entrypoint, and behind them those of the command. -/
def Config.strs (cfg : Config) : List (List Char) := cfg.entrypoint.getD [] ++ cfg.cmd.getD []

def overflowPanic : String := "attempt to subtract with overflow"

def assertPanic : String := "assertion failed"

def formProcessArgs (imgConfig : ImageConfiguration) : Handler Unit Error (List Char) := do
  let some cfg := imgConfig.config | throw (.ociImageConfigMissingField ".config")
  if cfg.entrypoint = none ∧ cfg.cmd = none then
    throw (.ociImageConfigMissingField "`.config.entrypoint` nor `.config.cmd`")
  let (numStrs, totalStrLen) := cfg.strs.foldl
    (fun (num, totalLen) s => (num + 1, totalLen + byteLength s)) (0, 0)
  -- The capacity, of which the assertion is left out: it is about the allocator.
  require (1 ≤ totalStrLen + numStrs) overflowPanic
  require (1 ≤ numStrs) overflowPanic
  let front := (cfg.strs.take (numStrs - 1)).flatMap (· ++ [' '])
  let last ← expect "exactly 1 String should remain" (cfg.strs.drop (numStrs - 1)).head?
  require ((cfg.strs.drop numStrs).head? = none) assertPanic
  require (byteLength (front ++ last) = totalStrLen + numStrs - 1) assertPanic
  pure (front ++ last)

section Joining
variable {strs : List (List Char)} {s : List Char}

theorem foldl_lengths (strs : List (List Char)) (num total : Nat) :
    strs.foldl (fun (num, totalLen) s => (num + 1, totalLen + byteLength s)) (num, total) =
      (num + strs.length, total + (strs.map byteLength).sum) := by
  induction strs generalizing num total with
  | nil => rfl
  | cons s strs ih =>
    rw [List.foldl_cons, ih]
    simp only [List.length_cons, List.map_cons, List.sum_cons, Prod.mk.injEq]
    omega

theorem byteLength_append (s t : List Char) : byteLength (s ++ t) = byteLength s + byteLength t := by
  simp [byteLength]

/-- All strings but the last one get a space. -/
theorem front_append (last : strs.getLast? = some s) :
    (strs.take (strs.length - 1)).flatMap (· ++ [' ']) ++ s = [' '].intercalate strs := by
  obtain ⟨start, rfl⟩ := List.getLast?_eq_some_iff.mp last
  have front : (start ++ [s]).take ((start ++ [s]).length - 1) = start := by simp
  rw [front]
  clear last front
  induction start with
  | nil => simp [List.intercalate]
  | cons t start ih =>
    rw [List.flatMap_cons, List.append_assoc, ih]
    cases start <;> simp [List.intercalate]

theorem byteLength_front_append (front : List (List Char)) :
    byteLength (front.flatMap (· ++ [' '])) = (front.map byteLength).sum + front.length := by
  induction front with
  | nil => rfl
  | cons s front ih =>
    have space : byteLength [' '] = 1 := by decide
    simp only [List.flatMap_cons, byteLength_append, ih, space, List.map_cons, List.sum_cons,
      List.length_cons]
    omega

end Joining

section Command
variable {cfg : Config} {serde : SerdeJson} {processArgs : List Char}

/-- The strings are joined with spaces, if there are any. -/
theorem formProcessArgs_eq (nonempty : cfg.strs ≠ []) :
    formProcessArgs ⟨cfg⟩ () = .ok ([' '].intercalate cfg.strs) () := by
  obtain ⟨start, last, split⟩ := cfg.strs.eq_nil_or_concat'.resolve_left nonempty
  have present : ¬(cfg.entrypoint = none ∧ cfg.cmd = none) := by
    rintro ⟨noEntrypoint, noCmd⟩
    simp [Config.strs, noEntrypoint, noCmd] at nonempty
  have ends : cfg.strs.getLast? = some last := by simp [split]
  have joined := front_append ends
  have front : cfg.strs.take (cfg.strs.length - 1) = start := by simp [split]
  have next : (cfg.strs.drop (cfg.strs.length - 1)).head? = some last := by simp [split]
  have length : byteLength ([' '].intercalate cfg.strs) =
      (cfg.strs.map byteLength).sum + cfg.strs.length - 1 := by
    rw [← joined, byteLength_append, byteLength_front_append, front]
    simp [split]
    omega
  have positive : 1 ≤ cfg.strs.length := List.length_pos_iff.mpr nonempty
  apply eq_ok_of_wp
  have total := foldl_lengths cfg.strs 0 0
  simp only [Nat.zero_add] at total
  simp only [formProcessArgs, wp_bind, wp_ite, wp_throw, wp_pure, wp_require, wp_expect, total,
    present, false_implies, not_false_eq_true, true_implies, true_and, next, Option.some.injEq,
    List.drop_length, List.head?_nil, not_true_eq_false, reduceCtorEq, and_true]
  refine ⟨fun _ => ⟨?_, by omega⟩, by omega⟩
  rintro - _ rfl
  rw [joined]
  exact ⟨fun _ => rfl, fun other => other length⟩

/-- Without strings the capacity underflows, or there is no command at all. -/
theorem not_ok_of_nil (empty : cfg.strs = []) :
    formProcessArgs ⟨cfg⟩ () ≠ .ok processArgs () := by
  intro ran
  have fails : wp (formProcessArgs ⟨cfg⟩)
      { ok := fun _ _ => False, err := fun _ _ => True, panic := fun _ _ => True } () := by
    simp [formProcessArgs, empty]
  exact ok_of_wp fails ran

/-- A command line in the spec, by the template and by the builder. -/
def InSpec (serde : SerdeJson) (processArgs : List Char) (strs : List (List Char)) : Prop :=
  Denotes (serde.toString (processArgs.splitOn ' ')) (.arr (strs.map .str)) ∧ ∀ ns id,
    (∀ capabilities, processArgs? (generateFcctrdSpec capabilities processArgs ns id) = some strs) ∧
      (Plain ns → Plain id → ∃ v, processArgs? v = some strs ∧
        Denotes (fillTemplate serde ociRtSpecTemplate processArgs ns id) v)

theorem inSpec_iff {strs : List (List Char)} :
    InSpec serde processArgs strs ↔ processArgs.splitOn ' ' = strs := by
  have args := serde.denotes (processArgs.splitOn ' ')
  constructor
  · rintro ⟨denotes, -⟩
    have same := denotes.unique args
    simpa [List.map_inj_right, eq_comm] using same
  · rintro rfl
    refine ⟨args, fun ns id => ⟨fun capabilities => ?_, fun plainNs plainId => ?_⟩⟩
    · rw [generateFcctrdSpec, Spec.processArgs?_json, Spec.argsJson, Json.asStrings_eq_some]
    · rw [Spec.fillTemplate_text]
      refine ⟨_, ?_, Spec.Pieces.denotes_text args.run_arr plainNs plainId⟩
      rw [Spec.processArgs?_json, Json.asStrings_eq_some]

/-- The image's own command line is run. -/
def RunsCommand (serde : SerdeJson) (cfg : Config) : Prop :=
  ∃ processArgs, formProcessArgs ⟨cfg⟩ () = .ok processArgs () ∧ InSpec serde processArgs cfg.strs

/-- The splitting undoes the joining if and only if there is a string, and no space in one. -/
theorem runsCommand_iff (serde : SerdeJson) (cfg : Config) :
    RunsCommand serde cfg ↔ cfg.strs ≠ [] ∧ ∀ s ∈ cfg.strs, ' ' ∉ s := by
  constructor
  · rintro ⟨processArgs, formed, inSpec⟩
    have split := inSpec_iff.mp inSpec
    refine ⟨fun empty => not_ok_of_nil empty formed, fun s mem => ?_⟩
    exact Text.notMem_of_mem_splitOn (split ▸ mem)
  · rintro ⟨nonempty, noSpace⟩
    refine ⟨_, formProcessArgs_eq nonempty, inSpec_iff.mpr ?_⟩
    exact List.splitOn_intercalate ' ' noSpace nonempty

def nginx : Config where
  entrypoint := some ["/docker-entrypoint.sh".toList]
  cmd := some ["nginx".toList, "-g".toList, "daemon off;".toList]

theorem nginx_not_run : ¬RunsCommand SerdeJson.compact nginx := by
  rintro ⟨processArgs, formed, inSpec⟩
  have split := inSpec_iff.mp inSpec
  have arg : "daemon off;".toList ∈ processArgs.splitOn ' ' := by
    rw [split]
    simp [Config.strs, nginx]
  have noSpace := Text.notMem_of_mem_splitOn arg
  simp at noSpace

end Command

/-! ## At registration

The function info of a registration has the same arguments as strings, and its errors as texts.
-/

section Registration
open Persistence (FirecrackerContainerd.ImageConfiguration)

def ImageConfiguration.ofStrings (image : FirecrackerContainerd.ImageConfiguration) :
    ImageConfiguration where
  config := image.config.map fun (entrypoint, cmd) =>
    ⟨entrypoint.map (·.map String.toList), cmd.map (·.map String.toList)⟩

def Error.display : Error → String
  | ociImageConfigMissingField field => s!"no '{field}' field found in OCI Image Configuration"

theorem formProcessArgs_nil {cfg : Config} (present : ¬(cfg.entrypoint = none ∧ cfg.cmd = none))
    (empty : cfg.strs = []) : formProcessArgs ⟨cfg⟩ () = .panic overflowPanic () := by
  unfold formProcessArgs
  dsimp only
  rw [if_neg present, empty]
  rfl

theorem strs_map_toList {image : FirecrackerContainerd.ImageConfiguration}
    {entrypoint cmd : Option (List String)} (configured : image.config = some (entrypoint, cmd)) :
    (Config.mk (entrypoint.map (·.map String.toList)) (cmd.map (·.map String.toList))).strs =
      image.args.map String.toList := by
  unfold FirecrackerContainerd.ImageConfiguration.args
  rw [configured]
  cases entrypoint <;> cases cmd <;> simp [Config.strs]

theorem formProcessArgs_alike {σ : Type} (image : FirecrackerContainerd.ImageConfiguration) (s : σ) :
    Alike (fun _ _ => True) (fun text chars => text.toList = chars)
      (Persistence.FirecrackerContainerd.formProcessArgs image) s
      (mapErr Error.display (formProcessArgs (.ofStrings image))) () := by
  unfold Persistence.FirecrackerContainerd.formProcessArgs ImageConfiguration.ofStrings
  cases configured : image.config with
  | none => exact .err _ trivial
  | some config =>
    obtain ⟨entrypoint, cmd⟩ := config
    have strs := strs_map_toList configured
    simp only [Option.map_some]
    by_cases absent : entrypoint.isNone && cmd.isNone
    · obtain ⟨rfl, rfl⟩ : entrypoint = none ∧ cmd = none := by simpa using absent
      exact .err _ trivial
    rw [if_neg absent]
    have present : ¬(entrypoint.map (·.map String.toList) = none ∧
        cmd.map (·.map String.toList) = none) := by
      simpa using absent
    by_cases empty : image.args.isEmpty
    · rw [if_pos empty]
      unfold Alike mapErr
      rw [formProcessArgs_nil present (by simpa [strs] using empty)]
      exact .panic _ trivial
    · rw [if_neg empty]
      unfold Alike mapErr
      rw [formProcessArgs_eq (by simpa [strs] using empty), strs]
      exact .ok String.toList_intercalate trivial

end Registration

end ProcessArgs

end Snaplace
