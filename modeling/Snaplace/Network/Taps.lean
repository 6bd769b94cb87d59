import Mathlib.Data.List.Sort
import Snaplace.Network.SubnetPool

/-!
# TAP devices and their providers

A tap has a /31 to itself: the gateway is the address of the host's end, the other one the VM's. A
tap is handed out as a builder, which the worker turns into a device, or as a device. One provider
builds and destroys every device; the other one keeps the devices it has built in a free list, and
takes subnets from its IP pool only when that is empty. Assertions are those of a release build, so
giving a tap back does not check its prefix length.
-/
namespace Snaplace
open Foundation

namespace Network
open Handler (expect focus panicWith)

abbrev MacAddress : Type := Nat

/-- The prefix length of a tap's subnet. -/
abbrev PREFIX_LEN : Nat := 31

/-- The addresses for hosts. A /31 has no network and broadcast addresses apart from these. -/
def Ipv4Net.hosts (net : Ipv4Net) : List Nat :=
  let size := 2 ^ (32 - net.prefixLen)
  let network := net.addr - net.addr % size
  if net.prefixLen < 31 then List.range' (network + 1) (size - 2) else List.range' network size

structure TapInfo where
  name : String
  macAddr : Option MacAddress
  ipAddr : Nat
  prefixLen : Nat
  gateway : Nat
  deriving DecidableEq, Repr

structure TapDevice where
  index : Nat
  info : TapInfo
  deriving DecidableEq, Repr

structure TapBuilder where
  info : TapInfo
  deriving DecidableEq, Repr

inductive Tap where
  | builder (builder : TapBuilder)
  | device (device : TapDevice)
  deriving DecidableEq, Repr

def Tap.info : Tap → TapInfo
  | .builder b => b.info
  | .device d => d.info

/-- The tap is a device already. -/
def Tap.IsDevice : Tap → Prop
  | .device _ => True
  | .builder _ => False

instance : DecidablePred Tap.IsDevice
  | .device _ => inferInstanceAs (Decidable True)
  | .builder _ => inferInstanceAs (Decidable False)

@[simp] theorem Tap.info_builder (b : TapBuilder) : (builder b).info = b.info := rfl

@[simp] theorem Tap.info_device (d : TapDevice) : (device d).info = d.info := rfl

inductive NetworkError where
  | subnetPool (source : SubnetPoolError)
  | missingNla
  | routeNetlink
  | noMoreIpv4Subnets
  | tapBuild (ipAddr : Nat) (prefixLen : Nat)
  | tapAdopt (name : String) (ipAddr : Nat) (prefixLen : Nat)
  | shuttingDown
  | unexpectedShutDown
  deriving DecidableEq, Repr

/-- What the kernel answers when a device is to be created. -/
inductive Link where
  | created (index : Nat) (macAddr : MacAddress)
  /-- There is a device of this name; `link` is what rtnetlink then tells of it. -/
  | busy (link : Option (Nat × Option MacAddress))
  | failed
  deriving DecidableEq, Repr

namespace TapBuilder

/-- The kernel cuts the name of an interface to 15 characters. -/
def created (builder : TapBuilder) (index : Nat) (macAddr : MacAddress) : TapDevice :=
  { index
    info :=
      { builder.info with
        name := String.ofList (builder.info.name.toList.take 15)
        macAddr := some (builder.info.macAddr.getD macAddr) } }

def buildError (builder : TapBuilder) : NetworkError :=
  .tapBuild builder.info.ipAddr builder.info.prefixLen

def build (builder : TapBuilder) : Link → Except NetworkError TapDevice
  | .created index macAddr => .ok (builder.created index macAddr)
  | .busy _ | .failed => .error builder.buildError

def buildOrAdopt (builder : TapBuilder) : Link → Except NetworkError TapDevice
  | .created index macAddr => .ok (builder.created index macAddr)
  | .busy none =>
    .error (.tapAdopt builder.info.name builder.info.ipAddr builder.info.prefixLen)
  | .busy (some (index, macAddr)) =>
    match builder.info.macAddr, macAddr with
    | some _, _ => .ok { index, info := builder.info }
    | none, some macAddr => .ok { index, info := { builder.info with macAddr := some macAddr } }
    | none, none => .error .missingNla
  | .failed => .error builder.buildError

end TapBuilder

/-- A device that a builder may have become. -/
structure TapDevice.BuiltFrom (device : TapDevice) (info : TapInfo) : Prop where
  ipAddr : device.info.ipAddr = info.ipAddr
  prefixLen : device.info.prefixLen = info.prefixLen
  gateway : device.info.gateway = info.gateway

theorem TapBuilder.build_builtFrom {builder : TapBuilder} {link : Link} {device : TapDevice}
    (built : builder.build link = .ok device) : device.BuiltFrom builder.info := by
  unfold build at built
  split at built <;> cases built
  exact ⟨rfl, rfl, rfl⟩

theorem TapBuilder.buildOrAdopt_builtFrom {builder : TapBuilder} {link : Link}
    {device : TapDevice} (built : builder.buildOrAdopt link = .ok device) :
    device.BuiltFrom builder.info := by
  unfold buildOrAdopt at built
  split at built
  · cases built
    exact ⟨rfl, rfl, rfl⟩
  · cases built
  · split at built <;> cases built <;> exact ⟨rfl, rfl, rfl⟩
  · cases built

def hexOctet (octet : Nat) : List Char :=
  [Nat.digitChar (octet / 16), Nat.digitChar (octet % 16)]

/-- The name of the tap of a VM's address. -/
def resourceName (ipAddr : Nat) : String :=
  let octet (shift : Nat) := hexOctet (ipAddr / 2 ^ shift % 256)
  String.ofList (['u', 'v', 'm', '-'] ++ octet 24 ++ '-' :: octet 16 ++ '-' :: octet 8 ++
    '-' :: octet 0)

/-- The tap of a subnet. -/
def subnetInfo (subnet : Ipv4Net) :
    Handler (FifoExactIpv4SubnetPool PREFIX_LEN) NetworkError TapInfo := do
  let gw ← expect "subnet's first host" subnet.hosts[0]?
  let vmIp ← expect "subnet's last host" subnet.hosts[1]?
  pure
    { name := resourceName vmIp, macAddr := none, ipAddr := vmIp, prefixLen := PREFIX_LEN,
      gateway := gw }

/-- The next subnet of an IP pool, with the tap in it. -/
def nextSubnet :
    Handler (FifoExactIpv4SubnetPool PREFIX_LEN) NetworkError (Ipv4Net × TapInfo) := do
  match ← modifyGet FifoExactIpv4SubnetPool.getNext with
  | none => throw .noMoreIpv4Subnets
  | some subnet => pure (subnet, ← subnetInfo subnet)

/-- The subnet of a tap, as `request` names it. -/
def TapInfo.subnet (info : TapInfo) : Ipv4Net := { addr := info.gateway, prefixLen := PREFIX_LEN }

/-- A device for a subnet taken from an IP pool by name. -/
def requestSubnet (tapInfo : TapInfo) (link : Link) :
    Handler (FifoExactIpv4SubnetPool PREFIX_LEN) NetworkError Tap := do
  match ← modifyGet fun ipPool => ipPool.get tapInfo.subnet with
  | .error err => throw (.subnetPool err)
  | .ok _ => Tap.device <$> Handler.fromExcept (TapBuilder.buildOrAdopt { info := tapInfo } link)

/-- What a network manager asks of the provider it runs. `destroyed` tells whether a device could be
deleted. -/
structure SandboxNetworkingProvider (σ : Type) where
  alloc : Handler σ NetworkError Tap
  request : TapInfo → Link → Handler σ NetworkError Tap
  dealloc : (destroyed : Bool) → Tap → Handler σ NetworkError Unit
  shutdown : (destroyed : Tap → Bool) → Handler σ NetworkError Unit

/-- Builds a device for every tap and destroys it when it is given back. -/
structure PlainTapDevices where
  ipPool : FifoExactIpv4SubnetPool PREFIX_LEN
  deriving DecidableEq

namespace PlainTapDevices

def new (subnets : Subnets) (subnet : Ipv4Net) : Except NetworkError PlainTapDevices := do
  let ipPool ← (FifoExactIpv4SubnetPool.new subnets subnet).mapError .subnetPool
  pure { ipPool }

def onPool {α : Type} (m : Handler (FifoExactIpv4SubnetPool PREFIX_LEN) NetworkError α) :
    Handler PlainTapDevices NetworkError α :=
  focus ipPool (fun ipPool p => { p with ipPool }) m

def alloc : Handler PlainTapDevices NetworkError Tap := do
  let (_, info) ← onPool nextSubnet
  pure (.builder { info })

def request (tapInfo : TapInfo) (link : Link) : Handler PlainTapDevices NetworkError Tap :=
  onPool (requestSubnet tapInfo link)

/-- The subnet given back is the one named by the VM's address. -/
def returned (tap : Tap) : Ipv4Net := { addr := tap.info.ipAddr, prefixLen := PREFIX_LEN }

def dealloc (destroyed : Bool) (tap : Tap) : Handler PlainTapDevices NetworkError Unit := do
  match tap with
  | .device _ => if destroyed then pure () else throw .routeNetlink
  | .builder _ => pure ()
  onPool (modify fun ipPool => ipPool.giveBack (returned tap))

def provider : SandboxNetworkingProvider PlainTapDevices where
  alloc := alloc
  request := request
  dealloc := dealloc
  shutdown _ := pure ()

end PlainTapDevices

structure PoolTapsConfig where
  subnet : Ipv4Net
  capacity : Nat
  deriving DecidableEq, Repr

/-- Keeps the devices given back in a free list. -/
structure PoolTapDevices where
  ipPool : FifoExactIpv4SubnetPool PREFIX_LEN
  /-- By subnet; `alloc` takes from the back. -/
  free : List (Ipv4Net × Tap)
  deriving DecidableEq

namespace PoolTapDevices

def MAX_POOL_SIZE : Nat := 65535

def onPool {α : Type} (m : Handler (FifoExactIpv4SubnetPool PREFIX_LEN) NetworkError α) :
    Handler PoolTapDevices NetworkError α :=
  focus ipPool (fun ipPool p => { p with ipPool }) m

/-- The subnets of the devices built at the start. -/
def reserve : Nat → Handler (FifoExactIpv4SubnetPool PREFIX_LEN) NetworkError
    (List (Ipv4Net × TapInfo))
  | 0 => pure []
  | n + 1 => do
    let task ← nextSubnet
    pure (task :: (← reserve n))

/-- The devices are built concurrently; `finished` tells when each of the tasks is done. -/
def new (subnets : Subnets) (config : PoolTapsConfig) (link : TapInfo → Link)
    (finished : Ipv4Net → Nat) : Outcome Unit NetworkError PoolTapDevices :=
  match (FifoExactIpv4SubnetPool.new subnets config.subnet).mapError .subnetPool with
  | .error err => .err err ()
  | .ok ipPool =>
    let poolSize := min (2 ^ (PREFIX_LEN - config.subnet.prefixLen))
      (min config.capacity MAX_POOL_SIZE)
    match reserve poolSize ipPool with
    | .panic msg _ => .panic msg ()
    | .err err _ => .err err ()
    | .ok tasks ipPool =>
      let joined := tasks.insertionSort fun a b => finished a.1 ≤ finished b.1
      let built := joined.mapM fun (subnet, info) =>
        (TapBuilder.buildOrAdopt { info } (link info)).map fun tap => (subnet, Tap.device tap)
      match built with
      | .error err => .err err ()
      | .ok free => .ok { ipPool, free } ()

def alloc : Handler PoolTapDevices NetworkError Tap := do
  match (← get).free.getLast? with
  | some (_, tap) =>
    modify fun p => { p with free := p.free.dropLast }
    pure tap
  | none =>
    let (_, info) ← onPool nextSubnet
    pure (.builder { info })

def request (tapInfo : TapInfo) (link : Link) : Handler PoolTapDevices NetworkError Tap := do
  match (← get).free.find? fun t => t.1 = tapInfo.subnet with
  | some (_, tap) =>
    modify fun p => { p with free := p.free.eraseP fun t => t.1 = tapInfo.subnet }
    pure tap
  | none => onPool (requestSubnet tapInfo link)

def dealloc (tap : Tap) : Handler PoolTapDevices NetworkError Unit := do
  match tap with
  | .device device =>
    modify fun p => { p with free := (device.info.subnet, tap) :: p.free }
  | .builder _ =>
    panicWith "internal error: entered unreachable code: TODO: Add proper error handling"

/-- The task that destroys a tap of the free list when the provider shuts down. -/
def destroyTask (destroyed : Bool) : Tap → Outcome Unit NetworkError Unit
  | .device _ => if destroyed then .ok () () else .err .routeNetlink ()
  | .builder _ => .panic "not yet implemented: Is this even reachable?" ()

/-- How the tasks end, which `shutdown` only logs. -/
def drain (destroyed : Tap → Bool) :
    Handler PoolTapDevices NetworkError (List (Outcome Unit NetworkError Unit)) :=
  modifyGet fun p => (p.free.map fun t => destroyTask (destroyed t.2) t.2, { p with free := [] })

def shutdown (destroyed : Tap → Bool) : Handler PoolTapDevices NetworkError Unit := do
  let _ ← drain destroyed
  pure ()

def provider : SandboxNetworkingProvider PoolTapDevices where
  alloc := alloc
  request := request
  dealloc _ := dealloc
  shutdown := shutdown

end PoolTapDevices

end Network
end Snaplace
