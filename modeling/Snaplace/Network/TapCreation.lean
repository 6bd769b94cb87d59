import Snaplace.Foundation.Handler
import Snaplace.Foundation.Text
import Snaplace.Network.Taps

/-!
# Creating a TAP device

A device is created by a request to the tun driver, which is then asked to keep it when the file that
it belongs to is closed. From there on the device is set up over rtnetlink: every change of it is
followed by a look-up, and either may fail. The kernel is the state; what it and the runtime answer is
a parameter of the handlers, so that a theorem speaks of every pattern of failures.
-/
namespace Snaplace
open Foundation

namespace Network.TapCreation
open Handler (attempt mapErr refuse orUndo logged fromExcept)

abbrev Errno : Type := Nat

def ENODEV : Errno := 19
@[match_pattern] def EBUSY : Errno := 16
def ENFILE : Errno := 23
def ERANGE : Errno := 34

def IFNAMSIZ : Nat := 16

def DEVGROUP : Nat := 0xFAA5CE11

inductive JoinError where
  | cancelled
  | panic (msg : String)
  deriving DecidableEq, Repr

inductive Error where
  | io (msg : String) (source : Errno)
  | tapInit (source : Error)
  | tunSetIff (source : Errno)
  | tunSetPersist (source : Errno)
  | joinTask (source : JoinError)
  | linkNotFound
  | routeNetlink (source : Errno)
  | parseMacAddr (src : String)
  | missingNla (about : String)
  | tapBuild (ipAddr prefixLen : Nat) (source : Error)
  | tapAdopt (name : String) (ipAddr prefixLen : Nat) (source : Error)
  deriving DecidableEq, Repr

/-! ## The kernel -/

structure IpAddr where
  addr : Nat
  prefixLen : Nat
  broadcast : Bool
  deriving DecidableEq, Repr

/-- What can be changed of a device. -/
structure Setup where
  macAddr : List UInt8
  addrs : List IpAddr
  group : Nat
  up : Bool
  /-- It outlives the file that it was created for. -/
  persistent : Bool
  deriving DecidableEq, Repr

structure Device where
  index : Nat
  name : List UInt8
  setup : Setup
  deriving DecidableEq, Repr

/-- A name that the kernel takes as it is: of an empty one, and of one with a percent sign, it makes
another. -/
def Literal (name : List UInt8) : Prop := name ≠ [] ∧ 37 ∉ name

instance : DecidablePred Literal := fun name => inferInstanceAs (Decidable (name ≠ [] ∧ 37 ∉ name))

structure Kernel where
  devices : List Device
  nextIndex : Nat
  fresh : ∀ d ∈ devices, d.index < nextIndex
  literal : ∀ d ∈ devices, Literal d.name

namespace Kernel

def Taken (k : Kernel) (name : List UInt8) : Prop := ∃ d ∈ k.devices, d.name = name

instance (k : Kernel) : DecidablePred k.Taken := fun name =>
  inferInstanceAs (Decidable (∃ d ∈ k.devices, d.name = name))

def add (k : Kernel) (name : List UInt8) (literal : Literal name) (setup : Setup) : Kernel where
  devices := k.devices ++ [{ index := k.nextIndex, name, setup }]
  nextIndex := k.nextIndex + 1
  fresh := by
    intro d mem
    rcases List.mem_append.mp mem with old | new
    · exact Nat.lt_succ_of_lt (k.fresh d old)
    · simp_all
  literal := by
    intro d mem
    rcases List.mem_append.mp mem with old | new
    · exact k.literal d old
    · simp_all

def update (k : Kernel) (index : Nat) (change : Setup → Setup) : Kernel where
  devices := k.devices.map fun d =>
    if d.index = index then { d with setup := change d.setup } else d
  nextIndex := k.nextIndex
  fresh := by
    intro d mem
    obtain ⟨d, old, rfl⟩ := List.mem_map.mp mem
    have below := k.fresh d old
    split <;> exact below
  literal := by
    intro d mem
    obtain ⟨d, old, rfl⟩ := List.mem_map.mp mem
    have literal := k.literal d old
    split <;> exact literal

def keep (k : Kernel) (p : Device → Bool) : Kernel where
  devices := k.devices.filter p
  nextIndex := k.nextIndex
  fresh d mem := k.fresh d (List.mem_of_mem_filter mem)
  literal d mem := k.literal d (List.mem_of_mem_filter mem)

/-- The device is the only one that has come since. -/
structure Adds (s t : Kernel) (d : Device) : Prop where
  devices : t.devices = s.devices ++ [d]
  index : d.index = s.nextIndex

variable {s t : Kernel} {d : Device}

theorem adds_add (k : Kernel) {name : List UInt8} (literal : Literal name) (setup : Setup) :
    Adds k (k.add name literal setup) { index := k.nextIndex, name, setup } :=
  ⟨rfl, rfl⟩

theorem other_index (h : Adds s t d) {e : Device} (old : e ∈ s.devices) : e.index ≠ d.index := by
  have below := s.fresh e old
  have index := h.index
  omega

theorem Adds.update (h : Adds s t d) (change : Setup → Setup) :
    Adds s (t.update d.index change) { d with setup := change d.setup } := by
  refine ⟨?_, h.index⟩
  have others : s.devices.map (fun e =>
      if e.index = d.index then { e with setup := change e.setup } else e) = s.devices := by
    conv_rhs => rw [← List.map_id s.devices]
    apply List.map_congr_left
    intro e old
    exact if_neg (other_index h old)
  simp [Kernel.update, h.devices, others]

theorem Adds.keep_old (h : Adds s t d) {p : Device → Bool}
    (others : ∀ e, e.index ≠ d.index → p e = true) (gone : p d = false) :
    (t.keep p).devices = s.devices := by
  have all : s.devices.filter p = s.devices :=
    List.filter_eq_self.mpr fun e old => others e (other_index h old)
  simp [keep, h.devices, all, gone]

theorem Adds.keep_all (h : Adds s t d) {p : Device → Bool}
    (others : ∀ e, e.index ≠ d.index → p e = true) (stays : p d = true) :
    Adds s (t.keep p) d := by
  refine ⟨?_, h.index⟩
  have all : s.devices.filter p = s.devices :=
    List.filter_eq_self.mpr fun e old => others e (other_index h old)
  simp [keep, h.devices, all, stays]

theorem Adds.find_index (h : Adds s t d) :
    t.devices.find? (·.index = d.index) = some d := by
  have none : s.devices.find? (·.index = d.index) = none := by
    rw [List.find?_eq_none]
    intro e old
    simpa using other_index h old
  simp [h.devices, List.find?_append, none]

theorem Adds.find_name (h : Adds s t d) (free : ¬s.Taken d.name) :
    t.devices.find? (·.name = d.name) = some d := by
  have none : s.devices.find? (·.name = d.name) = none := by
    rw [List.find?_eq_none]
    intro e old
    simpa using fun same => free ⟨e, old, same⟩
  simp [h.devices, List.find?_append, none]

end Kernel

/-! ## Requests to the kernel -/

/-- Why a look-up over rtnetlink gives no link. -/
inductive Missed where
  | refused (source : Errno)
  | nothing
  deriving DecidableEq, Repr

def Missed.error : Missed → Error
  | .refused source => .routeNetlink source
  | .nothing => .linkNotFound

/-- How a change of a link goes, and the look-up after it. -/
structure Answer where
  request : Option Errno
  lookup : Option Missed
  deriving DecidableEq, Repr

/-- What the runtime and the kernel answer, in the order of the steps. -/
structure Answers where
  /-- The runtime shuts down before the thread has begun. -/
  cancelled : Bool
  openTun : Option Errno
  tunSetIff : Option Errno
  /-- The name that the kernel makes where it does not take the one asked for. -/
  named : List UInt8
  /-- The MAC address that it assigns. -/
  assigned : List UInt8
  tunSetPersist : Option Errno
  byName : Option Missed
  /-- Links are told with their MAC address. -/
  tellsAddress : Bool
  setAddress : Answer
  addAddr : Answer
  setGroup : Answer
  setUp : Answer
  delete : Option Errno
  adopt : Option Missed
  deriving DecidableEq, Repr

structure Link where
  index : Nat
  address : Option (List UInt8)
  deriving DecidableEq, Repr

/-- The bytes that a text is made of. -/
def encode (s : String) : List UInt8 := s.toList.flatMap String.utf8EncodeChar

/-- The kernel reads a name up to its first NUL. -/
def cstr (bytes : List UInt8) : List UInt8 := bytes.takeWhile (· ≠ 0)

def linkOf (tellsAddress : Bool) (device : Device) : Link where
  index := device.index
  address := if tellsAddress then some device.setup.macAddr else none

/-- The first link that a look-up finds. -/
def lookUp (missed : Option Missed) (tellsAddress : Bool) (p : Device → Bool) :
    Handler Kernel Error Link := do
  refuse Missed.error missed
  match (← get).devices.find? p with
  | some device => pure (linkOf tellsAddress device)
  | none => throw (.routeNetlink ENODEV)

def byName (missed : Option Missed) (tellsAddress : Bool) (name : String) :
    Handler Kernel Error Link := do
  if IFNAMSIZ ≤ (encode name).length then throw (.routeNetlink ERANGE)
  lookUp missed tellsAddress (·.name = cstr (encode name))

def byIndex (missed : Option Missed) (tellsAddress : Bool) (index : Nat) :
    Handler Kernel Error Link :=
  lookUp missed tellsAddress (·.index = index)

/-- The six bytes of a MAC address. -/
def macBytes (mac : MacAddress) : List UInt8 :=
  [40, 32, 24, 16, 8, 0].map fun shift => UInt8.ofNat (mac / 2 ^ shift)

def macOf (bytes : List UInt8) : MacAddress := bytes.foldl (fun mac b => mac * 256 + b.toNat) 0

def Link.macAddr (link : Link) : Except Error MacAddress :=
  match link.address with
  | some bytes =>
    if bytes.length = 6 then .ok (macOf bytes)
    else .error (.parseMacAddr "TryFromSliceError(())")
  | none => .error (.missingNla "interface group")

/-- Change the link and look it up. -/
def setLink (answer : Answer) (tellsAddress : Bool) (link : Link) (change : Setup → Setup) :
    Handler Kernel Error Link := do
  refuse .routeNetlink answer.request
  modify (·.update link.index change)
  byIndex answer.lookup tellsAddress link.index

section Changes
variable (answers : Answers)

def setLinkAddress (link : Link) (address : MacAddress) : Handler Kernel Error Link :=
  setLink answers.setAddress answers.tellsAddress link fun s => { s with macAddr := macBytes address }

/-- There is no broadcast address in a /31 and a /32. -/
def ipAddrAdd (link : Link) (ipAddr prefixLen : Nat) : Handler Kernel Error Link :=
  setLink answers.addAddr answers.tellsAddress link fun s =>
    { s with addrs := s.addrs ++ [{ addr := ipAddr, prefixLen, broadcast := prefixLen ≤ 30 }] }

def setLinkGroup (link : Link) : Handler Kernel Error Link :=
  setLink answers.setGroup answers.tellsAddress link fun s => { s with group := DEVGROUP }

def setLinkUp (link : Link) : Handler Kernel Error Link :=
  setLink answers.setUp answers.tellsAddress link fun s => { s with up := true }

end Changes

/-! ## The source's functions -/

/-- At most `IFNAMSIZ - 1` bytes of the name, so that the last one of the field is NUL. -/
def prepareIfreq (name : String) : List UInt8 := (encode name).take (IFNAMSIZ - 1)

/-- The name as it was cut, if that is UTF-8. -/
def adjustName (name : String) : Option String :=
  (Text.splitAtByte name.toList (min (Text.byteLength name.toList) (IFNAMSIZ - 1))).map fun cut =>
    String.ofList cut.1

/-- The kernel makes the device, which goes when its file is closed. -/
def tunSetIff (answers : Answers) (ifr : List UInt8) : Handler Kernel Error Nat := do
  refuse .tunSetIff answers.tunSetIff
  let k ← get
  if k.Taken (cstr ifr) then throw (.tunSetIff EBUSY)
  let name := if Literal (cstr ifr) then cstr ifr else answers.named
  if named : Literal name ∧ ¬k.Taken name then
    set (k.add name named.1
      { macAddr := answers.assigned, addrs := [], group := 0, up := false, persistent := false })
    pure k.nextIndex
  else throw (.tunSetIff ENFILE)

def tunSetPersist (answers : Answers) (index : Nat) : Handler Kernel Error Unit := do
  refuse .tunSetPersist answers.tunSetPersist
  modify (·.update index fun s => { s with persistent := true })

/-- The file is dropped. -/
def closeTun (index : Nat) : Handler Kernel Error Unit :=
  modify (·.keep fun d => d.index ≠ index || d.setup.persistent)

def createTapDevice (answers : Answers) (ifr : List UInt8) : Handler Kernel Error Unit := do
  refuse (fun source => .tapInit (.io "error opening '/dev/net/tun'" source)) answers.openTun
  -- Without a device the file has nothing to take along.
  let index ← tunSetIff answers ifr
  let persistent ← attempt (tunSetPersist answers index)
  closeTun index
  fromExcept persistent

def deleteTap (answers : Answers) (index : Nat) : Handler Kernel Error Unit := do
  refuse .routeNetlink answers.delete
  modify (·.keep fun d => d.index ≠ index)

/-- Wait for a task on a thread of its own. -/
def spawnBlocking {α : Type} (cancelled : Bool) (task : Handler Kernel Error α) :
    Handler Kernel Error α := fun k =>
  if cancelled then .err (.joinTask .cancelled) k
  else
    match task k with
    | .panic msg k => .err (.joinTask (.panic msg)) k
    | ended => ended

/-- Delete the tap if the step fails. That the deletion fails is only logged. -/
def orDelete {α : Type} (answers : Answers) (link : Link) (step : Handler Kernel Error α) :
    Handler Kernel Error α :=
  orUndo .tapInit (logged (deleteTap answers link.index)) step

/-- Give the tap its MAC address, or look up the one it has. -/
def settleMac (answers : Answers) (link : Link) :
    Option MacAddress → Handler Kernel Error (Link × MacAddress)
  | some address => orDelete answers link do pure (← setLinkAddress answers link address, address)
  | none => orDelete answers link do pure (link, ← fromExcept link.macAddr)

/-- The ioctls, apart from the runtime's own threads. -/
def makeTap (answers : Answers) (name : String) : Handler Kernel Error String :=
  spawnBlocking answers.cancelled do
    mapErr .tapInit (createTapDevice answers (prepareIfreq name))
    Handler.expect "tap name is valid UTF-8" (adjustName name)

def newTap (answers : Answers) (name : String) (ipAddr prefixLen gateway : Nat)
    (macAddr : Option MacAddress) : Handler Kernel Error TapDevice := do
  let name ← makeTap answers name
  let link ← byName answers.byName answers.tellsAddress name
  let (link, macAddr) ← settleMac answers link macAddr
  let link ← orDelete answers link (ipAddrAdd answers link gateway prefixLen)
  let link ← orDelete answers link (setLinkGroup answers link)
  let link ← orDelete answers link (setLinkUp answers link)
  pure
    { index := link.index
      info := { name, macAddr := some macAddr, ipAddr, prefixLen, gateway } }

def newTapOf (answers : Answers) (info : TapInfo) : Handler Kernel Error TapDevice :=
  newTap answers info.name info.ipAddr info.prefixLen info.gateway info.macAddr

def build (answers : Answers) (builder : TapBuilder) : Handler Kernel Error TapDevice :=
  mapErr (.tapBuild builder.info.ipAddr builder.info.prefixLen) (newTapOf answers builder.info)

/-- A device that is there already is taken as it is. -/
def buildOrAdopt (answers : Answers) (builder : TapBuilder) : Handler Kernel Error TapDevice := do
  let info := builder.info
  match ← attempt (newTapOf answers info) with
  | .ok tap => pure tap
  | .error (.tapInit (.tunSetIff EBUSY)) =>
    let link ← mapErr (.tapAdopt info.name info.ipAddr info.prefixLen)
      (byName answers.adopt answers.tellsAddress info.name)
    match info.macAddr with
    | some _ => pure { index := link.index, info }
    | none =>
      let macAddr ← fromExcept link.macAddr
      pure { index := link.index, info := { info with macAddr := some macAddr } }
  | .error err => throw (.tapBuild info.ipAddr info.prefixLen err)

end Network.TapCreation
end Snaplace
