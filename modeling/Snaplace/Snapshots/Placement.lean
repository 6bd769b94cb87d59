import Snaplace.Foundation.Table
import Snaplace.Worker.Actor

/-!
# Where snapshots are placed

What the two placement algorithms answer to a path query: paths, or that no snapshot is to be made.
How a function gets its destination out of measured slowdowns is left out; the table is given.
-/
namespace Snaplace
open Foundation

namespace Snapshots
open Worker (SnapshotPaths)

inductive SnapshotDestination where
  /-- Sandboxes always boot anew. -/
  | none
  /-- Sandboxes stay warm, by the keep-alive policy in place. -/
  | keepAlive
  | optaneDCPM
  | optaneNVMe
  | flashSSD
  deriving DecidableEq, Repr

namespace SnapshotDestination

def IsDevice : SnapshotDestination → Prop
  | none | keepAlive => False
  | optaneDCPM | optaneNVMe | flashSSD => True

instance : DecidablePred IsDevice
  | none | keepAlive => isFalse not_false
  | optaneDCPM | optaneNVMe | flashSSD => isTrue trivial

end SnapshotDestination

/-- The algorithm that places a function's snapshots by its slowdown on each device. -/
structure SlowdownsStatic where
  /-- The mountpoint of each device. -/
  devices : SnapshotDestination → Option String
  slowdowns : Table FunctionId SnapshotDestination
  warmDevice : SnapshotDestination
  /-- A missing device is refused at initialization. -/
  present : ∀ dst, dst.IsDevice → (devices dst).isSome

namespace SlowdownsStatic
variable {s : SlowdownsStatic} {function : FunctionId}

def pathsOn (s : SlowdownsStatic) (dst : SnapshotDestination) (device : dst.IsDevice) :
    SnapshotPaths :=
  let mountpoint := (s.devices dst).get (s.present dst device)
  { state := mountpoint, memory := mountpoint }

/-- Paths on a device; none on a destination that is no device. -/
def pathsIfDevice (s : SlowdownsStatic) (dst : SnapshotDestination) : Option SnapshotPaths :=
  if device : dst.IsDevice then some (s.pathsOn dst device) else none

def queryPath (s : SlowdownsStatic) (function : FunctionId) :
    Except SourceError (Option SnapshotPaths) :=
  match s.slowdowns.lookup function with
  | some .none => .ok none
  | some .keepAlive => .ok (s.pathsIfDevice s.warmDevice)
  | some dst => .ok (s.pathsIfDevice dst)
  -- An unknown function is stored on the Optane NVMe device.
  | none => .ok (some (s.pathsOn .optaneNVMe trivial))

theorem pathsIfDevice_eq_none {dst : SnapshotDestination} :
    s.pathsIfDevice dst = none ↔ ¬dst.IsDevice := by
  unfold pathsIfDevice
  split <;> simp_all

/-- A snapshot is skipped for a function that always boots anew, and for one kept alive when warm
functions have no device. -/
theorem queryPath_skips_iff : s.queryPath function = .ok none ↔
    s.slowdowns.lookup function = some .none ∨
      s.slowdowns.lookup function = some .keepAlive ∧ ¬s.warmDevice.IsDevice := by
  unfold queryPath
  split
  next always => simp [always]
  next warm => simp [warm, pathsIfDevice_eq_none]
  next dst never_none never_warm found =>
    have device : dst.IsDevice := by
      cases dst with
      | none => exact absurd rfl never_none
      | keepAlive => exact absurd rfl never_warm
      | optaneDCPM | optaneNVMe | flashSSD => trivial
    simp [found, pathsIfDevice_eq_none, device]
    simp_all
  next unknown => simp [unknown]

end SlowdownsStatic

/-- The algorithm that places every snapshot under one path, if it has one. -/
structure Fixed where
  path : Option String

def Fixed.queryPath (f : Fixed) (_function : FunctionId) :
    Except SourceError (Option SnapshotPaths) :=
  .ok (f.path.map fun path => { state := path, memory := path })

end Snapshots
end Snaplace
