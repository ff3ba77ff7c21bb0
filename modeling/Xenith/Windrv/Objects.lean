import Xenith.Lib.SlotTable
import Xenith.Lib.Word

/-!
# Driver and device objects

The registry of `user/windrv-core/src/objects.rs`.  Callbacks and dispatch
tables of a driver are left out.  A call returns its result together with the
registry.
-/

namespace Xenith.Windrv

open SlotTable

def indexBits : Nat := 8

def generationMask : Nat := 1 <<< (32 - indexBits) - 1

def maxIssuedGeneration : Nat := generationMask - 1

def maxDriverObjects : Nat := 64

def maxDeviceObjects : Nat := 1 <<< indexBits - 1

def maxDeviceStackDepth : Nat := 8

def maxDriverImageBytes : Nat := 64 * 1024 * 1024

def runtimeUserAddressLimit : Nat := 0x800000000000

abbrev DriverId := Nat

abbrev DeviceId := Nat

inductive RegistryError where
  | invalidCapacity (capacity maximum : Nat)
  | tableFull
  | invalidDriver
  | invalidDevice
  | invalidImageRange
  | addressOutsideImage (address : Nat)
  | driverBusy
  | deviceBusy
  | alreadyAttached
  | attachmentCycle
  | stackTooDeep
deriving DecidableEq

structure DriverObject where
  imageBase : Nat
  imageSize : Nat
  driverEntry : Nat
deriving DecidableEq

def DriverObject.empty : DriverObject where
  imageBase := 0
  imageSize := 0
  driverEntry := 0

def DriverObject.validateAddress (object : DriverObject) (address : Nat)
    (isOptional : Bool) : Except RegistryError Unit :=
  if isOptional ∧ address = 0 then .ok ()
  else if object.imageBase = 0 ∨ runtimeUserAddressLimit ≤ object.imageBase ∨
      object.imageSize = 0 ∨ maxDriverImageBytes < object.imageSize then
    .error .invalidImageRange
  else
    match checkedAdd object.imageBase object.imageSize with
    | none => .error .invalidImageRange
    | some last =>
      if runtimeUserAddressLimit < last then .error .invalidImageRange
      else if address < object.imageBase ∨ last ≤ address then .error (.addressOutsideImage address)
      else .ok ()

structure DeviceObject where
  owner : DriverId
  lowerDevice : Option DeviceId
  deviceType : Nat
  characteristics : Nat
deriving DecidableEq

def DeviceObject.empty : DeviceObject where
  owner := 0
  lowerDevice := none
  deviceType := 0
  characteristics := 0

def decode (raw : Nat) : Option Key :=
  (SlotTable.decode indexBits raw).filter (fun key => decide (key.generation ≤ maxIssuedGeneration))

structure DriverRegistry where
  drivers : List (Slot DriverObject)
  devices : List (Slot DeviceObject)
  driverCount : Nat
  deviceCount : Nat
deriving DecidableEq

namespace DriverRegistry

def empty (drivers devices : Nat) : DriverRegistry where
  drivers := List.replicate drivers (Slot.fresh DriverObject.empty)
  devices := List.replicate devices (Slot.fresh DeviceObject.empty)
  driverCount := 0
  deviceCount := 0

def tryNew (drivers devices : Nat) : Except RegistryError DriverRegistry :=
  if drivers = 0 ∨ maxDriverObjects < drivers then
    .error (.invalidCapacity drivers maxDriverObjects)
  else if devices = 0 ∨ maxDeviceObjects < devices then
    .error (.invalidCapacity devices maxDeviceObjects)
  else .ok (empty drivers devices)

def findDriver (registry : DriverRegistry) (id : DriverId) : Option DriverObject :=
  (decode id).bind (lookup registry.drivers)

def findDevice (registry : DriverRegistry) (id : DeviceId) : Option DeviceObject :=
  (decode id).bind (lookup registry.devices)

def driver (registry : DriverRegistry) (id : DriverId) : Except RegistryError DriverObject :=
  match registry.findDriver id with
  | none => .error .invalidDriver
  | some object => .ok object

def device (registry : DriverRegistry) (id : DeviceId) : Except RegistryError DeviceObject :=
  match registry.findDevice id with
  | none => .error .invalidDevice
  | some object => .ok object

def registerDriver (registry : DriverRegistry) (object : DriverObject) :
    Except RegistryError DriverId × DriverRegistry :=
  match object.validateAddress object.driverEntry false with
  | .error error => (.error error, registry)
  | .ok () =>
    match freeKey registry.drivers with
    | none => (.error .tableFull, registry)
    | some key =>
      (.ok (encode indexBits key),
        { registry with
          drivers := insert registry.drivers key object
          driverCount := registry.driverCount + 1 })

def unregisterDriver (registry : DriverRegistry) (id : DriverId) :
    Except RegistryError DriverObject × DriverRegistry :=
  match registry.driver id with
  | .error error => (.error error, registry)
  | .ok object =>
    if registry.devices.any (fun slot => slot.occupied && decide (slot.entry.owner = id)) then
      (.error .driverBusy, registry)
    else
      -- The second comparison of the generations repeats that of `driver`.
      match decode id with
      | none => (.error .invalidDriver, registry)
      | some key =>
        (.ok object,
          { registry with
            drivers := remove maxIssuedGeneration .empty registry.drivers key
            driverCount := registry.driverCount - 1 })

def hasUpperAttachment (registry : DriverRegistry) (lower : DeviceId) : Bool :=
  registry.devices.any (fun slot => slot.occupied && decide (slot.entry.lowerDevice = some lower))

/-- The loop of `stack_depth`, `plan_stack` and `attach_device`: down from a
device, with the number of turns that are left and the devices already
visited. -/
def walk (registry : DriverRegistry) (forbidden : Option DeviceId) :
    Nat → List DeviceId → Option DeviceId → Except RegistryError (List DeviceId)
  | _, visited, none => .ok visited
  | 0, visited, some current =>
    if forbidden = some current then .error .attachmentCycle
    else if current ∈ visited then .error .attachmentCycle
    else .error .stackTooDeep
  | turns + 1, visited, some current =>
    if forbidden = some current then .error .attachmentCycle
    else if current ∈ visited then .error .attachmentCycle
    else
      match registry.device current with
      | .error error => .error error
      | .ok object => walk registry forbidden turns (visited ++ [current]) object.lowerDevice

def planStack (registry : DriverRegistry) (top : DeviceId) : Except RegistryError (List DeviceId) :=
  registry.walk none maxDeviceStackDepth [] (some top)

def stackDepth (registry : DriverRegistry) (top : DeviceId) : Except RegistryError Nat :=
  (registry.walk none maxDeviceStackDepth [] (some top)).map List.length

/-- What `create_device` checks of the device below. -/
def checkLower (registry : DriverRegistry) : Option DeviceId → Except RegistryError Unit
  | none => .ok ()
  | some lower =>
    match registry.device lower with
    | .error error => .error error
    | .ok _ =>
      if registry.hasUpperAttachment lower then .error .deviceBusy
      else
        match registry.stackDepth lower with
        | .error error => .error error
        | .ok depth =>
          if maxDeviceStackDepth ≤ depth then .error .stackTooDeep
          else .ok ()

def createDevice (registry : DriverRegistry) (owner : DriverId)
    (lowerDevice : Option DeviceId) (deviceType characteristics : Nat) :
    Except RegistryError DeviceId × DriverRegistry :=
  match registry.driver owner with
  | .error error => (.error error, registry)
  | .ok _ =>
    match registry.checkLower lowerDevice with
    | .error error => (.error error, registry)
    | .ok () =>
      match freeKey registry.devices with
      | none => (.error .tableFull, registry)
      | some key =>
        (.ok (encode indexBits key),
          { registry with
            devices :=
              insert registry.devices key { owner, lowerDevice, deviceType, characteristics }
            deviceCount := registry.deviceCount + 1 })

def setLower (registry : DriverRegistry) (key : Key)
    (lowerDevice : Option DeviceId) : DriverRegistry :=
  { registry with
    devices :=
      update registry.devices key (fun object => { object with lowerDevice := lowerDevice }) }

def attachDevice (registry : DriverRegistry) (upper lower : DeviceId) :
    Except RegistryError Unit × DriverRegistry :=
  match registry.device upper, registry.device lower with
  | .error error, _ => (.error error, registry)
  | .ok _, .error error => (.error error, registry)
  | .ok object, .ok _ =>
    if object.lowerDevice.isSome then (.error .alreadyAttached, registry)
    else if registry.hasUpperAttachment lower then (.error .deviceBusy, registry)
    else
      -- The loop counts from one, the depth of the upper device alone.
      match registry.walk (some upper) (maxDeviceStackDepth - 1) [] (some lower) with
      | .error error => (.error error, registry)
      | .ok _ =>
        match decode upper with
        | none => (.error .invalidDevice, registry)
        | some key => (.ok (), registry.setLower key (some lower))

def detachDevice (registry : DriverRegistry) (upper : DeviceId) :
    Except RegistryError (Option DeviceId) × DriverRegistry :=
  match registry.device upper with
  | .error error => (.error error, registry)
  | .ok object =>
    match decode upper with
    | none => (.error .invalidDevice, registry)
    | some key => (.ok object.lowerDevice, registry.setLower key none)

def removeDevice (registry : DriverRegistry) (id : DeviceId) :
    Except RegistryError DeviceObject × DriverRegistry :=
  match registry.device id with
  | .error error => (.error error, registry)
  | .ok object =>
    if registry.hasUpperAttachment id then (.error .deviceBusy, registry)
    else
      match decode id with
      | none => (.error .invalidDevice, registry)
      | some key =>
        (.ok object,
          { registry with
            devices := remove maxIssuedGeneration .empty registry.devices key
            deviceCount := registry.deviceCount - 1 })

inductive Call where
  | registerDriver (object : DriverObject)
  | unregisterDriver (id : DriverId)
  | createDevice (owner : DriverId) (lowerDevice : Option DeviceId)
      (deviceType characteristics : Nat)
  | attachDevice (upper lower : DeviceId)
  | detachDevice (upper : DeviceId)
  | removeDevice (id : DeviceId)
deriving DecidableEq

inductive Value where
  | driver (id : DriverId)
  | driverObject (object : DriverObject)
  | device (id : DeviceId)
  | attached
  | detached (lower : Option DeviceId)
  | deviceObject (object : DeviceObject)
deriving DecidableEq

def call (registry : DriverRegistry) : Call → Except RegistryError Value × DriverRegistry
  | .registerDriver object =>
    let (result, next) := registry.registerDriver object
    (result.map .driver, next)
  | .unregisterDriver id =>
    let (result, next) := registry.unregisterDriver id
    (result.map .driverObject, next)
  | .createDevice owner lowerDevice deviceType characteristics =>
    let (result, next) := registry.createDevice owner lowerDevice deviceType characteristics
    (result.map .device, next)
  | .attachDevice upper lower =>
    let (result, next) := registry.attachDevice upper lower
    (result.map (fun _ => .attached), next)
  | .detachDevice upper =>
    let (result, next) := registry.detachDevice upper
    (result.map .detached, next)
  | .removeDevice id =>
    let (result, next) := registry.removeDevice id
    (result.map .deviceObject, next)

def step (registry : DriverRegistry) (requested : Call) : Option DriverRegistry :=
  some (registry.call requested).2

end DriverRegistry

end Xenith.Windrv
