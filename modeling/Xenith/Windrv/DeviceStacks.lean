import Xenith.Lib.Chain
import Xenith.Lib.Execution
import Xenith.Windrv.Objects

/-!
# Bounded device stacks

The depth that `attach_device` checks does not count the devices above the
upper one, so two stacks can be joined to one that is too deep.
-/

namespace Xenith.Windrv

open SlotTable
open Execution

/-! ## Identifiers -/

/-- A table whose keys have identifiers. -/
def Encodable {α : Type} (slots : List (Slot α)) : Prop :=
  ∃ capacity ≤ maxDeviceObjects, WellFormed maxIssuedGeneration capacity slots

section Identifiers

variable {α : Type} {slots : List (Slot α)} {key : Key} {entry : α} {id other : Nat}

theorem decode_injective (left : decode id = some key) (right : decode other = some key) :
    id = other :=
  decodeIssued_injective left right

/-- A table that was changed under one key, read by identifiers. -/
theorem find_changed {changed : List (Slot α)} {value : Option α} (decoded : decode id = some key)
    (lookups : ∀ other, lookup changed other = if other = key then value else lookup slots other) :
    (decode other).bind (lookup changed) =
      if other = id then value else (decode other).bind (lookup slots) := by
  rw [← Function.update_apply (fun other => (decode other).bind (lookup slots))]
  exact congrFun (find_of_lookup decode_injective decoded lookups) other

section Encodable

variable (encodable : Encodable slots)

include encodable

theorem Encodable.decode_key {slot : Slot α} (present : slots[key.index]? = some slot)
    (generation : slot.generation = key.generation) :
    decode (encode indexBits key) = some key := by
  obtain ⟨_, bound, wellFormed⟩ := encodable
  exact wellFormed.decodeIssued_encode (Nat.lt_succ_of_le bound) present generation

theorem Encodable.decode_encode (free : freeKey slots = some key) :
    decode (encode indexBits key) = some key := by
  obtain ⟨_, present, _, _, generation⟩ := freeKey_eq_some free
  exact encodable.decode_key present generation

theorem Encodable.insert (free : freeKey slots = some key) :
    Encodable (insert slots key entry) := by
  obtain ⟨capacity, bound, wellFormed⟩ := encodable
  exact ⟨capacity, bound, wellFormed.insert free⟩

theorem Encodable.remove {empty : α} : Encodable (remove maxIssuedGeneration empty slots key) := by
  obtain ⟨capacity, bound, wellFormed⟩ := encodable
  exact ⟨capacity, bound, wellFormed.remove⟩

theorem Encodable.update {change : α → α} : Encodable (update slots key change) := by
  obtain ⟨capacity, bound, wellFormed⟩ := encodable
  exact ⟨capacity, bound, wellFormed.update⟩

theorem find_insert (free : freeKey slots = some key) :
    (decode other).bind (lookup (insert slots key entry)) =
      if other = encode indexBits key then some entry
      else (decode other).bind (lookup slots) :=
  find_changed (encodable.decode_encode free) fun _ => lookup_insert free

end Encodable

theorem find_remove
    {empty : α} (decoded : decode id = some key) (found : lookup slots key = some entry) :
    (decode other).bind (lookup (remove maxIssuedGeneration empty slots key)) =
      if other = id then none else (decode other).bind (lookup slots) :=
  find_changed decoded fun _ => lookup_remove found

theorem find_update
    {change : α → α} (decoded : decode id = some key) (found : lookup slots key = some entry) :
    (decode other).bind (lookup (update slots key change)) =
      if other = id then some (change entry)
      else (decode other).bind (lookup slots) :=
  find_changed decoded fun _ => lookup_update found

theorem find_of_spent (decoded : decode id = some key) (spent : Spent slots key) :
    (decode id).bind (lookup slots) = none := by
  simp [decoded, spent.lookup_eq_none]

theorem Encodable.any_occupied_iff (encodable : Encodable slots) (test : α → Bool) :
    slots.any (fun slot => slot.occupied && test slot.entry) = true ↔
      ∃ id entry, (decode id).bind (lookup slots) = some entry ∧ test entry = true := by
  have ⟨_, _, wellFormed⟩ := encodable
  rw [SlotTable.any_occupied_iff wellFormed]
  constructor
  · rintro ⟨key, entry, found, holds⟩
    obtain ⟨slot, present, _, _, generation, _⟩ := lookup_eq_some.mp found
    have decoded := encodable.decode_key present generation
    exact ⟨encode indexBits key, entry, by simp [decoded, found], holds⟩
  · rintro ⟨id, entry, found, holds⟩
    obtain ⟨key, _, found⟩ := Option.bind_eq_some_iff.mp found
    exact ⟨key, entry, found, holds⟩

theorem Encodable.mem_ids
    (encodable : Encodable slots) (found : (decode id).bind (lookup slots) = some entry) :
    id ∈ (keys slots).map (encode indexBits) := by
  obtain ⟨_, decoded, found⟩ := Option.bind_eq_some_iff.mp found
  obtain ⟨_, present, _, _, generation, _⟩ := lookup_eq_some.mp found
  have encoded := encodable.decode_key present generation
  rw [decode_injective decoded encoded]
  exact List.mem_map_of_mem (mem_keys.mpr ⟨entry, found⟩)

end Identifiers

namespace DriverRegistry

variable {registry next : DriverRegistry} {id upper lower top : DeviceId} {items : List DeviceId}

/-! ## Walking down -/

/-- The device below, `some none` for the lowest one. -/
def successor (registry : DriverRegistry) (id : DeviceId) : Option (Option DeviceId) :=
  (registry.findDevice id).map DeviceObject.lowerDevice

variable {object : DeviceObject}

theorem device_eq_ok : registry.device id = .ok object ↔ registry.findDevice id = some object := by
  unfold device
  cases registry.findDevice id <;> simp

theorem driver_eq_ok {object : DriverObject} :
    registry.driver id = .ok object ↔ registry.findDriver id = some object := by
  unfold driver
  cases registry.findDriver id <;> simp

/-- A walk that ends has listed the chain. -/
theorem chain_of_walk {forbidden : Option DeviceId} {turns : Nat} {visited result : List DeviceId}
    (walked : registry.walk forbidden turns visited (some top) = .ok result) :
    ∃ items, Chain registry.successor top items ∧
      result = visited ++ items ∧ items.length ≤ turns ∧
      ∀ id ∈ items, forbidden ≠ some id := by
  generalize isTop : some top = current at walked
  fun_induction walk registry forbidden turns visited current generalizing top with
  | case1 => cases isTop
  | case8 turns visited top allowed _ object isDevice ih =>
    cases isTop
    have found := device_eq_ok.mp isDevice
    cases below : object.lowerDevice with
    | none =>
      rw [below, walk] at walked
      cases walked
      refine ⟨[top], .last ?_, rfl, by simp, by simpa using allowed⟩
      simp [successor, found, below]
    | some =>
      obtain ⟨items, chain, isResult, bound, free⟩ := ih below.symm walked
      refine ⟨top :: items, .link ?_ chain, ?_, Nat.succ_le_succ bound, ?_⟩
      · simp [successor, found, below]
      · rw [isResult, List.append_assoc]
        rfl
      · exact List.forall_mem_cons.mpr ⟨allowed, free⟩
  | _ => cases walked

section Chain

variable (chain : Chain registry.successor top items)

include chain

theorem findDevice_of_chain : (registry.findDevice top).isSome := by
  have live := chain.present chain.top_mem
  rwa [successor, Option.isSome_map] at live

/-- A walk along a chain that is short enough ends. -/
theorem walk_of_chain {turns : Nat} {visited : List DeviceId} (bound : items.length ≤ turns)
    (apart : ∀ id ∈ items, id ∉ visited) :
    registry.walk none turns visited (some top) = .ok (visited ++ items) := by
  have distinct := chain.nodup
  induction chain generalizing turns visited with
  | @last top isLast =>
    obtain ⟨object, found, below⟩ := Option.map_eq_some_iff.mp isLast
    obtain ⟨rest, rfl⟩ := Nat.exists_eq_add_of_le' bound
    have unvisited : top ∉ visited := apart top (List.mem_cons_self ..)
    rw [List.length_singleton, walk, if_neg (by simp), if_neg unvisited, device_eq_ok.mpr found]
    simp only [below]
    rw [walk]
  | @link top _ rest isLinked chain ih =>
    obtain ⟨object, found, below⟩ := Option.map_eq_some_iff.mp isLinked
    obtain ⟨_, rfl⟩ := Nat.exists_eq_add_of_le' bound
    obtain ⟨notBelow, distinct⟩ := List.nodup_cons.mp distinct
    have unvisited : top ∉ visited := apart top (List.mem_cons_self ..)
    rw [List.length_cons, ← Nat.add_assoc, walk, if_neg (by simp),
      if_neg unvisited, device_eq_ok.mpr found]
    simp only [below]
    rw [ih (Nat.le_add_left ..) ?_ distinct]
    · rw [List.append_assoc]
      rfl
    · intro id member seen
      rcases List.mem_append.mp seen with seen | isTop
      · exact apart id (List.mem_cons_of_mem _ member) seen
      · rw [List.mem_singleton.mp isTop] at member
        exact notBelow member

theorem planStack_of_chain (bound : items.length ≤ maxDeviceStackDepth) :
    registry.planStack top = .ok items :=
  walk_of_chain chain bound (by simp)

end Chain

theorem stackDepth_cases {depth : Nat} (measured : registry.stackDepth top = .ok depth) :
    ∃ result, registry.walk none maxDeviceStackDepth [] (some top) = .ok result ∧
      result.length = depth := by
  unfold stackDepth at measured
  cases walked : registry.walk none maxDeviceStackDepth [] (some top) with
  | error error =>
    rw [walked] at measured
    cases measured
  | ok result =>
    rw [walked] at measured
    cases measured
    exact ⟨result, rfl, rfl⟩

/-! ## What a call does -/

/-- A call fails and changes nothing, or is one of six edits. -/
inductive Effect (registry : DriverRegistry) :
    Call → Except RegistryError Value → DriverRegistry → Prop
  | failed {requested : Call} {error : RegistryError} :
      Effect registry requested (.error error) registry
  | registered {object : DriverObject} {key : Key} (free : freeKey registry.drivers = some key) :
      Effect registry (.registerDriver object)
        (.ok (.driver (encode indexBits key))) { registry with
          drivers := insert registry.drivers key object
          driverCount := registry.driverCount + 1 }
  | unregistered {id : DriverId} {object : DriverObject} {key : Key}
      (decoded : decode id = some key) (found : lookup registry.drivers key = some object)
      (unused : registry.devices.any
        (fun slot => slot.occupied && decide (slot.entry.owner = id)) =
        false) :
      Effect registry (.unregisterDriver id) (.ok (.driverObject object))
        { registry with
          drivers := remove maxIssuedGeneration .empty registry.drivers key
          driverCount := registry.driverCount - 1 }
  | created {object : DeviceObject} {owner : DriverObject} {key : Key}
      (owned : registry.findDriver object.owner = some owner)
      (checked : registry.checkLower object.lowerDevice = .ok ())
      (free : freeKey registry.devices = some key) :
      Effect registry
        (.createDevice object.owner object.lowerDevice object.deviceType object.characteristics)
        (.ok (.device (encode indexBits key))) { registry with
          devices := insert registry.devices key object
          deviceCount := registry.deviceCount + 1 }
  | attached {upper lower : DeviceId} {object : DeviceObject} {key : Key} {below : List DeviceId}
      (decoded : decode upper = some key) (found : lookup registry.devices key = some object)
      (isLowest : object.lowerDevice = none) (free : registry.hasUpperAttachment lower = false)
      (walked : registry.walk (some upper) (maxDeviceStackDepth - 1) [] (some lower) = .ok below) :
      Effect registry (.attachDevice upper lower) (.ok .attached)
        (registry.setLower key (some lower))
  | detached {upper : DeviceId} {object : DeviceObject} {key : Key}
      (decoded : decode upper = some key) (found : lookup registry.devices key = some object) :
      Effect registry (.detachDevice upper)
        (.ok (.detached object.lowerDevice)) (registry.setLower key none)
  | removed {id : DeviceId} {object : DeviceObject} {key : Key} (decoded : decode id = some key)
      (found : lookup registry.devices key = some object)
      (free : registry.hasUpperAttachment id = false) :
      Effect registry (.removeDevice id) (.ok (.deviceObject object))
        { registry with
          devices := remove maxIssuedGeneration .empty registry.devices key
          deviceCount := registry.deviceCount - 1 }

theorem lookup_of_device
    {key : Key} (found : registry.device id = .ok object) (decoded : decode id = some key) :
    lookup registry.devices key = some object := by
  simpa [findDevice, decoded] using device_eq_ok.mp found

theorem effect_createDevice (object : DeviceObject) :
    let called :=
      registry.createDevice object.owner object.lowerDevice object.deviceType object.characteristics
    Effect registry
      (.createDevice object.owner object.lowerDevice object.deviceType object.characteristics)
      (called.1.map .device) called.2 := by
  fun_cases createDevice with
  | case4 _ isDriver checked _ free => exact .created (driver_eq_ok.mp isDriver) checked free
  | _ => exact .failed

variable {requested : Call}

/-- A call that fails changes nothing; any other has the one effect of its kind. -/
theorem effect_call
    {result : Except RegistryError Value} (called : registry.call requested = (result, next)) :
    Effect registry requested result next := by
  obtain ⟨rfl, rfl⟩ := Prod.ext_iff.mp called
  cases requested with
  | registerDriver =>
    rw [call]
    fun_cases registerDriver with
    | case3 _ _ free => exact .registered free
    | _ => exact .failed
  | unregisterDriver =>
    rw [call]
    fun_cases unregisterDriver with
    | case4 _ isDriver unused _ decoded =>
      have found := driver_eq_ok.mp isDriver
      rw [findDriver, decoded, Option.bind_some] at found
      exact .unregistered decoded found (by simpa using unused)
    | _ => exact .failed
  | createDevice owner lowerDevice deviceType characteristics =>
    exact effect_createDevice ⟨owner, lowerDevice, deviceType, characteristics⟩
  | attachDevice =>
    rw [call]
    fun_cases attachDevice with
    | case7 _ _ _ isUpper isLowest free _ walked _ decoded =>
      exact .attached decoded (lookup_of_device isUpper decoded)
        (by simpa using isLowest) (by simpa using free) walked
    | _ => exact .failed
  | detachDevice =>
    rw [call]
    fun_cases detachDevice with
    | case3 _ isUpper _ decoded => exact .detached decoded (lookup_of_device isUpper decoded)
    | _ => exact .failed
  | removeDevice =>
    rw [call]
    fun_cases removeDevice with
    | case4 _ isDevice free _ decoded =>
      exact .removed decoded (lookup_of_device isDevice decoded) (by simpa using free)
    | _ => exact .failed

theorem effect_step (taken : registry.step requested = some next) :
    ∃ result, Effect registry requested result next := by
  cases taken
  exact ⟨_, effect_call rfl⟩

/-! ## The invariant -/

structure Invariant (registry : DriverRegistry) : Prop where
  drivers : Encodable registry.drivers
  devices : Encodable registry.devices
  owner :
    ∀ id object, registry.findDevice id = some object → (registry.findDriver object.owner).isSome
  single : ∀ left right lower, registry.successor left = some (some lower) →
    registry.successor right = some (some lower) → left = right
  stack : ∀ id, (registry.findDevice id).isSome →
    ∃ items, Chain registry.successor id items ∧ items.length ≤ maxDeviceStackDepth

theorem hasUpperAttachment_eq_false (encodable : Encodable registry.devices)
    (free : registry.hasUpperAttachment lower = false) (id : DeviceId) :
    registry.successor id ≠ some (some lower) := by
  intro below
  obtain ⟨object, found, isLower⟩ := Option.map_eq_some_iff.mp below
  have attached : registry.hasUpperAttachment lower = true := by
    exact (encodable.any_occupied_iff
      (fun object => decide (object.lowerDevice = some lower))).mpr
      ⟨id, object, found, by simpa using isLower⟩
  rw [free] at attached
  cases attached

variable {key : Key}

theorem Invariant.registered (invariant : Invariant registry) {object : DriverObject}
    (free : freeKey registry.drivers = some key) :
    Invariant
      { registry with
        drivers := insert registry.drivers key object
        driverCount := registry.driverCount + 1 } := by
  refine ⟨invariant.drivers.insert free, invariant.devices, ?_, invariant.single, invariant.stack⟩
  intro id device found
  have owned := invariant.owner id device found
  unfold findDriver at owned ⊢
  rw [find_insert invariant.drivers free]
  split
  · rfl
  · exact owned

theorem Invariant.unregistered (invariant : Invariant registry) {id : DriverId}
    {object : DriverObject} (decoded : decode id = some key)
    (found : lookup registry.drivers key = some object)
    (unused : registry.devices.any
      (fun slot => slot.occupied && decide (slot.entry.owner = id)) =
      false) :
    Invariant
      { registry with
        drivers := remove maxIssuedGeneration .empty registry.drivers key
        driverCount := registry.driverCount - 1 } := by
  refine ⟨invariant.drivers.remove, invariant.devices, ?_, invariant.single, invariant.stack⟩
  intro device record isDevice
  have owned := invariant.owner device record isDevice
  unfold findDriver at owned ⊢
  rw [find_remove decoded found]
  split
  · next isOwner =>
    have busy := (invariant.devices.any_occupied_iff
      (fun record => decide (record.owner = id))).mpr
      ⟨device, record, isDevice, by simpa using isOwner⟩
    rw [unused] at busy
    cases busy
  · exact owned

theorem checkLower_cases
    (encodable : Encodable registry.devices) (checked : registry.checkLower (some lower) = .ok ()) :
    (∀ id, registry.successor id ≠ some (some lower)) ∧
      ∃ items, Chain registry.successor lower items ∧ items.length < maxDeviceStackDepth := by
  generalize isLower : some lower = below at checked
  revert checked
  fun_cases checkLower with
  | case1 => cases isLower
  | case6 lower _ _ free _ isDepth shallow =>
    intro _
    cases isLower
    refine ⟨hasUpperAttachment_eq_false encodable (by simpa using free), ?_⟩
    obtain ⟨_, walked, rfl⟩ := stackDepth_cases isDepth
    obtain ⟨items, chain, isResult, _⟩ := chain_of_walk walked
    rw [isResult] at shallow
    exact ⟨items, chain, by simpa using shallow⟩
  | _ => nofun

def Stacked (registry : DriverRegistry) (top : DeviceId) : Prop :=
  ∃ items, Chain registry.successor top items ∧ items.length ≤ maxDeviceStackDepth

section Invariant

variable (invariant : Invariant registry)

include invariant

theorem Invariant.edit (drivers : next.drivers = registry.drivers)
    (devices : Encodable next.devices) {value : Option DeviceObject}
    (finds :
      ∀ other, next.findDevice other = if other = id then value else registry.findDevice other)
    (owned : ∀ object, value = some object → (registry.findDriver object.owner).isSome)
    (unattached : ∀ object lower, value = some object → object.lowerDevice = some lower →
      ∀ other, registry.successor other ≠ some (some lower))
    (stacked :
      next.successor id = value.map DeviceObject.lowerDevice →
      (∀ other, other ≠ id →
        next.successor other = registry.successor other) →
        (value.isSome → Stacked next id) ∧
          ∀ top, top ≠ id → Stacked registry top → Stacked next top) :
    Invariant next := by
  have changed (other : DeviceId) :
      next.successor other =
        if other = id then value.map DeviceObject.lowerDevice
        else registry.successor other := by
    rw [successor, finds]
    split <;> rfl
  have taken {lower : DeviceId} (other : DeviceId)
      (isLower : value.map DeviceObject.lowerDevice = some (some lower)) :
      registry.successor other ≠ some (some lower) := by
    obtain ⟨object, isValue, isLower⟩ := Option.map_eq_some_iff.mp isLower
    exact unattached object lower isValue isLower other
  obtain ⟨here, elsewhere⟩ :=
    stacked (by rw [changed, if_pos rfl]) (fun other different => by rw [changed, if_neg different])
  refine ⟨by rw [drivers]; exact invariant.drivers, devices, ?_, ?_, ?_⟩
  · intro other record present
    rw [finds] at present
    rw [findDriver, drivers]
    split at present
    · exact owned record present
    · exact invariant.owner other record present
  · intro left right lower isLeft isRight
    rw [changed] at isLeft isRight
    split at isLeft <;> split at isRight
    · next isId same => rw [isId, same]
    · exact absurd isRight (taken right isLeft)
    · exact absurd isLeft (taken left isRight)
    · exact invariant.single left right lower isLeft isRight
  · intro top live
    rw [finds] at live
    split at live
    · next same =>
      rw [same]
      exact here live
    · next different => exact elsewhere top different (invariant.stack top live)

theorem Invariant.created
    {owner : DriverObject} (owned : registry.findDriver object.owner = some owner)
    (checked : registry.checkLower object.lowerDevice = .ok ())
    (free : freeKey registry.devices = some key) :
    Invariant
      { registry with
        devices := insert registry.devices key object
        deviceCount := registry.deviceCount + 1 } := by
  have missing : registry.successor (encode indexBits key) = none := by
    rw [successor, findDevice, invariant.devices.decode_encode free]
    exact congrArg (Option.map _) (lookup_freeKey free)
  -- An old chain does not meet the new device.
  have apart {top : DeviceId} {items : List DeviceId}
      (chain : Chain registry.successor top items) :
      encode indexBits key ∉ items := by
    intro member
    have present := chain.present member
    rw [missing] at present
    cases present
  refine invariant.edit rfl (invariant.devices.insert free)
    (fun _ => find_insert invariant.devices free) ?_ ?_ ?_
  · rintro _ ⟨⟩
    exact Option.isSome_iff_exists.mpr ⟨owner, owned⟩
  · rintro _ lower ⟨⟩ isLower
    rw [isLower] at checked
    exact (checkLower_cases invariant.devices checked).1
  · intro here others
    refine ⟨fun _ => ?_, ?_⟩
    · cases below : object.lowerDevice with
      | none =>
        rw [Option.map_some, below] at here
        exact ⟨_, .last here, by simp [maxDeviceStackDepth]⟩
      | some lower =>
        rw [Option.map_some, below] at here
        rw [below] at checked
        obtain ⟨_, items, chain, shallow⟩ := checkLower_cases invariant.devices checked
        exact ⟨_, .link here (chain.avoid (apart chain) others), shallow⟩
    · rintro top _ ⟨items, chain, bound⟩
      exact ⟨items, chain.avoid (apart chain) others, bound⟩

theorem Invariant.relink {lowerDevice : Option DeviceId} (decoded : decode id = some key)
    (found : lookup registry.devices key = some object)
    (unattached :
      ∀ lower, lowerDevice = some lower → ∀ other, registry.successor other ≠ some (some lower))
    (stacked :
      (registry.setLower key lowerDevice).successor id = some lowerDevice →
      (∀ other, other ≠ id →
        (registry.setLower key lowerDevice).successor other = registry.successor other) →
        ∀ top, Stacked registry top → Stacked (registry.setLower key lowerDevice) top) :
    Invariant (registry.setLower key lowerDevice) := by
  have isDevice : registry.findDevice id = some object := by
    simp [findDevice, decoded, found]
  refine invariant.edit rfl invariant.devices.update (fun _ => find_update decoded found) ?_ ?_ ?_
  · rintro _ ⟨⟩
    exact invariant.owner id object isDevice
  · rintro _ lower ⟨⟩
    exact unattached lower
  · intro here others
    have all := stacked here others
    refine ⟨fun _ => all id (invariant.stack id ?_), fun top _ => all top⟩
    rw [isDevice]
    rfl

theorem Invariant.attached
    (decoded : decode upper = some key) (found : lookup registry.devices key = some object)
    (isLowest : object.lowerDevice = none) (free : registry.hasUpperAttachment lower = false)
    {below : List DeviceId} (chain : Chain registry.successor lower below) (apart : upper ∉ below)
    (fits : ∀ top items, Chain registry.successor top items → upper ∈ items →
      items.length + below.length ≤ maxDeviceStackDepth) :
    Invariant (registry.setLower key (some lower)) := by
  refine invariant.relink decoded found ?_ ?_
  · rintro _ ⟨⟩
    exact hasUpperAttachment_eq_false invariant.devices free
  · rintro here others top ⟨items, topChain, bound⟩
    by_cases member : upper ∈ items
    · refine ⟨items ++ below, ?_, ?_⟩
      · refine topChain.join member ?_ chain apart here others
        simp [successor, findDevice, decoded, found, isLowest]
      · rw [List.length_append]
        exact fits top items topChain member
    · exact ⟨items, topChain.avoid member others, bound⟩

theorem Invariant.detached
    (decoded : decode upper = some key) (found : lookup registry.devices key = some object) :
    Invariant (registry.setLower key none) := by
  refine invariant.relink decoded found nofun ?_
  rintro here others _ ⟨_, chain, bound⟩
  obtain ⟨shorter, cutChain, shorterBound⟩ := chain.cut here others
  exact ⟨shorter, cutChain, Nat.le_trans shorterBound bound⟩

theorem Invariant.removed
    (decoded : decode id = some key) (found : lookup registry.devices key = some object)
    (free : registry.hasUpperAttachment id = false) :
    Invariant
      { registry with
        devices := remove maxIssuedGeneration .empty registry.devices key
        deviceCount := registry.deviceCount - 1 } := by
  refine invariant.edit rfl invariant.devices.remove
    (fun _ => find_remove decoded found) nofun nofun ?_
  intro _ others
  refine ⟨nofun, ?_⟩
  rintro _ different ⟨items, chain, bound⟩
  refine ⟨items, chain.avoid ?_ others, bound⟩
  intro member
  obtain ⟨above, isAbove⟩ := chain.linked_of_mem member (Ne.symm different)
  exact hasUpperAttachment_eq_false invariant.devices free above isAbove

end Invariant

/-! ## Runs -/

def deviceIds (registry : DriverRegistry) : List DeviceId :=
  (keys registry.devices).map (encode indexBits)

/-- If the stack of the device holds the upper one, it fits onto that of the
lower one. -/
def FitsBelow (registry : DriverRegistry) (upper lower top : DeviceId) : Prop :=
  match registry.planStack top, registry.planStack lower with
  | .ok devices, .ok below => upper ∈ devices → devices.length + below.length ≤ maxDeviceStackDepth
  | _, _ => True

instance (registry : DriverRegistry) (upper lower top : DeviceId) :
    Decidable (registry.FitsBelow upper lower top) := by
  unfold FitsBelow
  split <;> infer_instance

/-- The devices from the top of the upper stack to the upper device and those
from the lower device on are not too many. -/
def Joinable (registry : DriverRegistry) : Call → Prop
  | .attachDevice upper lower => ∀ top ∈ registry.deviceIds, registry.FitsBelow upper lower top
  | _ => True

instance (registry : DriverRegistry) (requested : Call) :
    Decidable (registry.Joinable requested) := by
  cases requested <;> unfold Joinable <;> infer_instance

theorem Invariant.step (invariant : Invariant registry) (joinable : registry.Joinable requested)
    (taken : registry.step requested = some next) : Invariant next := by
  obtain ⟨result, effect⟩ := effect_step taken
  cases effect with
  | failed => exact invariant
  | registered free => exact invariant.registered free
  | unregistered decoded found unused => exact invariant.unregistered decoded found unused
  | created owned checked free => exact invariant.created owned checked free
  | detached decoded found => exact invariant.detached decoded found
  | removed decoded found free => exact invariant.removed decoded found free
  | @attached upper lower object key result decoded found isLowest free walked =>
    obtain ⟨below, chain, _, bound, allowed⟩ := chain_of_walk walked
    have apart : upper ∉ below := fun member => allowed upper member rfl
    refine invariant.attached decoded found isLowest free chain apart ?_
    intro top items topChain member
    have live := findDevice_of_chain topChain
    obtain ⟨_, isDevice⟩ := Option.isSome_iff_exists.mp live
    obtain ⟨_, otherChain, short⟩ := invariant.stack top live
    rw [← topChain.unique otherChain] at short
    have fits := joinable top (invariant.devices.mem_ids isDevice)
    rw [FitsBelow, planStack_of_chain topChain short,
      planStack_of_chain chain (Nat.le_trans bound (Nat.sub_le ..))] at fits
    exact fits member

theorem findDevice_empty {drivers devices : Nat} : (empty drivers devices).findDevice id = none :=
  bind_lookup_replicate_fresh

theorem invariant_tryNew {drivers devices : Nat} (created : tryNew drivers devices = .ok registry) :
    Invariant registry := by
  revert created
  fun_cases tryNew with
  | case3 driverBound deviceBound =>
    rintro ⟨⟩
    rw [not_or] at driverBound deviceBound
    refine ⟨⟨drivers, ?_, wellFormed_replicate (by decide)⟩,
      ⟨devices, Nat.le_of_not_lt deviceBound.2, wellFormed_replicate (by decide)⟩, ?_, ?_, ?_⟩
    · exact Nat.le_trans (Nat.le_of_not_lt driverBound.2) (by decide)
    · intro id object found
      rw [findDevice_empty] at found
      cases found
    · intro left right lower isLeft
      rw [successor, findDevice_empty] at isLeft
      cases isLeft
    · intro id live
      rw [findDevice_empty] at live
      cases live
  | _ => nofun

theorem spent_step (taken : registry.step requested = some next) :
    (Spent registry.drivers key → Spent next.drivers key) ∧
      (Spent registry.devices key → Spent next.devices key) := by
  obtain ⟨_, effect⟩ := effect_step taken
  cases effect with
  | failed => exact ⟨fun spent => spent, fun spent => spent⟩
  | registered => exact ⟨fun spent => spent.insert, fun spent => spent⟩
  | unregistered => exact ⟨fun spent => spent.remove, fun spent => spent⟩
  | created => exact ⟨fun spent => spent, fun spent => spent.insert⟩
  | attached => exact ⟨fun spent => spent, fun spent => spent.update⟩
  | detached => exact ⟨fun spent => spent, fun spent => spent.update⟩
  | removed => exact ⟨fun spent => spent, fun spent => spent.remove⟩

theorem driver_of_spent
    (decoded : decode id = some key) (spent : Spent registry.drivers key) (object : DriverObject) :
    registry.driver id ≠ .ok object := by
  rw [Ne, driver_eq_ok, findDriver, find_of_spent decoded spent]
  nofun

theorem device_of_spent
    (decoded : decode id = some key) (spent : Spent registry.devices key) (object : DeviceObject) :
    registry.device id ≠ .ok object := by
  rw [Ne, device_eq_ok, findDevice, find_of_spent decoded spent]
  nofun

/-- The identifier that the call removes is not accepted after any further
calls. -/
def Forgets (next : DriverRegistry) : Call → Prop
  | .unregisterDriver id =>
    ∀ later final, exec step next later = some final → ∀ object, final.driver id ≠ .ok object
  | .removeDevice id =>
    ∀ later final, exec step next later = some final → ∀ object, final.device id ≠ .ok object
  | _ => True

theorem forgets_of_call {value : Value} (called : registry.call requested = (.ok value, next)) :
    next.Forgets requested := by
  have effect := effect_call called
  cases effect with
  | registered => trivial
  | created => trivial
  | attached => trivial
  | detached => trivial
  | unregistered decoded found =>
    intro later final reached
    have spent := invariant_of_exec
      (fun _ _ _ spent taken => (spent_step taken).1 spent) (spent_remove found) reached
    exact driver_of_spent decoded spent
  | removed decoded found =>
    intro later final reached
    have spent := invariant_of_exec
      (fun _ _ _ spent taken => (spent_step taken).2 spent) (spent_remove found) reached
    exact device_of_spent decoded spent

/-! ## Bounded stacks -/

structure Bounded (registry : DriverRegistry) : Prop where
  owner : ∀ id object, registry.device id = .ok object →
    ∃ driver, registry.driver object.owner = .ok driver
  lower : ∀ id object lower, registry.device id = .ok object →
    object.lowerDevice = some lower → ∃ below, registry.device lower = .ok below
  single : ∀ left right leftObject rightObject lower,
    registry.device left = .ok leftObject →
    registry.device right = .ok rightObject →
    leftObject.lowerDevice = some lower →
    rightObject.lowerDevice = some lower → left = right
  stack : ∀ id object, registry.device id = .ok object →
    ∃ devices, Chain registry.successor id devices ∧ devices.Nodup ∧
      registry.planStack id = .ok devices ∧
      registry.stackDepth id = .ok devices.length ∧
      devices.length ≤ maxDeviceStackDepth

theorem Invariant.bounded (invariant : Invariant registry) : Bounded registry := by
  have live {id : DeviceId} {object : DeviceObject}
      (found : registry.device id = .ok object) :
      (registry.findDevice id).isSome :=
    Option.isSome_iff_exists.mpr ⟨object, device_eq_ok.mp found⟩
  have below {id : DeviceId} {object : DeviceObject}
      (found : registry.device id = .ok object) :
      registry.successor id = some object.lowerDevice := by
    simp [successor, device_eq_ok.mp found]
  refine ⟨?_, ?_, ?_, ?_⟩
  · intro id object found
    obtain ⟨driver, isDriver⟩ :=
      Option.isSome_iff_exists.mp (invariant.owner id object (device_eq_ok.mp found))
    exact ⟨driver, driver_eq_ok.mpr isDriver⟩
  · intro id object lower found isLower
    obtain ⟨items, chain, _⟩ := invariant.stack id (live found)
    have isLinked := below found
    rw [isLower] at isLinked
    cases chain with
    | last isLast =>
      rw [isLinked] at isLast
      cases isLast
    | link isNext chain =>
      rw [isLinked] at isNext
      cases isNext
      obtain ⟨record, isDevice⟩ := Option.isSome_iff_exists.mp (findDevice_of_chain chain)
      exact ⟨record, device_eq_ok.mpr isDevice⟩
  · intro left right leftObject rightObject lower isLeft isRight leftLower rightLower
    exact invariant.single left right lower
      ((below isLeft).trans (congrArg some leftLower))
      ((below isRight).trans (congrArg some rightLower))
  · intro id object found
    obtain ⟨items, chain, bound⟩ := invariant.stack id (live found)
    have planned := planStack_of_chain chain bound
    refine ⟨items, chain, chain.nodup, planned, ?_, bound⟩
    unfold planStack at planned
    rw [stackDepth, planned]
    rfl

/-- In every run in which stacks are joined only when they fit, the stacks
are bounded chains. -/
theorem device_stacks_bounded {drivers devices : Nat} {start registry : DriverRegistry}
    {calls : List Call} (created : tryNew drivers devices = .ok start)
    (guarded : Guarded step Joinable start calls)
    (reached : exec step start calls = some registry) :
    Bounded registry ∧
      (∀ requested error next, registry.call requested = (.error error, next) → next = registry) ∧
      (∀ requested value next,
        registry.call requested = (.ok value, next) → next.Forgets requested) := by
  have invariant : Invariant registry := invariant_of_guarded
    (fun _ _ _ invariant joinable taken => invariant.step joinable taken)
    (invariant_tryNew created) guarded reached
  refine ⟨invariant.bounded, ?_, ?_⟩
  · intro requested error next called
    have effect := effect_call called
    cases effect
    rfl
  · intro requested value next called
    exact forgets_of_call called

/-- A driver with a stack of the given number of devices, the lowest of which
has the identifier 257. -/
def stacked (depth : Nat) : List Call :=
  .registerDriver ⟨0x100000, 0x2000, 0x100100⟩ ::
    .createDevice 257 none 1 0 ::
    (List.range (depth - 1)).map (fun index => .createDevice 257 (some (257 + index)) 1 0)

/-- The fourth device of a stack is replaced by a stack of two. -/
def joiningRun : List Call :=
  stacked 4 ++ [.removeDevice 260, .createDevice 257 none 1 0,
    .createDevice 257 (some 516) 1 0, .attachDevice 516 259]

theorem joiningRun_bounded :
    ∃ registry,
      tryNew 1 8 = .ok (empty 1 8) ∧
      exec step (empty 1 8) joiningRun = some registry ∧
      registry.planStack 261 = .ok [261, 516, 259, 258, 257] ∧
      Bounded registry := by
  have runs :
      ∃ registry, exec step (empty 1 8) joiningRun = some registry ∧
        registry.planStack 261 = .ok [261, 516, 259, 258, 257] := by
    decide +kernel
  obtain ⟨registry, reached, planned⟩ := runs
  have created : tryNew 1 8 = .ok (empty 1 8) := rfl
  obtain ⟨bounded, _⟩ := device_stacks_bounded created (by decide +kernel) reached
  exact ⟨registry, created, reached, planned, bounded⟩

/-- A stack of two devices is attached to one of seven: the top of the upper
one is then nine devices above the bottom. -/
theorem joined_stack_too_deep :
    ∃ registry object,
      tryNew 1 16 = .ok (empty 1 16) ∧
      exec step (empty 1 16)
          (stacked 7 ++
            [.createDevice 257 none 1 0, .createDevice 257 (some 264) 1 0, .attachDevice 264 263]) =
        some registry ∧
      registry.device 265 = .ok object ∧
      registry.planStack 265 = .error .stackTooDeep ∧
      registry.stackDepth 265 = .error .stackTooDeep := by
  have runs :
      ∃ registry,
        exec step (empty 1 16)
            (stacked 7 ++ [.createDevice 257 none 1 0, .createDevice 257 (some 264) 1 0,
              .attachDevice 264 263]) =
          some registry ∧
        registry.device 265 = .ok ⟨257, some 264, 1, 0⟩ ∧
        registry.planStack 265 = .error .stackTooDeep ∧
        registry.stackDepth 265 = .error .stackTooDeep := by
    decide +kernel
  obtain ⟨registry, reached, deep⟩ := runs
  exact ⟨registry, _, rfl, reached, deep⟩

end DriverRegistry

end Xenith.Windrv
