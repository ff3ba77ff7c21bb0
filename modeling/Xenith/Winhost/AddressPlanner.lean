import Xenith.Pe.Relocation

/-!
# The virtual-address planner

`user/winhost-core/src/vm.rs`.  The reservations of the fixed array are a
list, sorted by their start.
-/

namespace Xenith.Winhost

open Fallible Pe

def vmPageSize : Nat := 4096

def peImageAlignment : Nat := 65536

def maxAddressReservations : Nat := 4096

inductive AddressError where
  | invalidCapacity (capacity maximum : Nat)
  | invalidBounds
  | invalidSize
  | invalidAlignment
  | misalignedAddress
  | addressOverflow
  | outsideAddressSpace
  | overlap
  | outOfAddressSpace
  | reservationTableFull
  | writableExecutable
  | preferredAddressUnavailable
  | pe (error : PeError)
deriving DecidableEq

/-- A page protection, never writable and executable. -/
structure VmProtection where
  read : Bool
  write : Bool
  execute : Bool
  exclusive : ¬ (write = true ∧ execute = true)
deriving DecidableEq

namespace VmProtection

def none : VmProtection where
  read := false
  write := false
  execute := false
  exclusive := by simp

def readOnly : VmProtection where
  read := true
  write := false
  execute := false
  exclusive := by simp

def tryNew (read write execute : Bool) : Except AddressError VmProtection :=
  if both : write = true ∧ execute = true then .error .writableExecutable
  else .ok { read, write, execute, exclusive := both }

def fromPe (value : LoadPermissions) : Except AddressError VmProtection :=
  tryNew value.read value.write value.execute

end VmProtection

inductive ReservationKind where
  | hostRuntime
  | peImage
  | stack
  | heap
  | shared
  | guard
  | other (code : Nat)
deriving DecidableEq

structure Reservation where
  start : Nat
  size : Nat
  protection : VmProtection
  kind : ReservationKind
deriving DecidableEq

inductive ImagePlacement where
  | preferredOnly
  | preferredOrFirstFit
deriving DecidableEq

structure PeSectionMapping where
  name : List UInt8
  rva : Nat
  size : Nat
  address : Nat
  protection : VmProtection
deriving DecidableEq

structure PeImageLayout where
  reservation : Reservation
  preferredBase : Nat
  actualBase : Nat
  relocated : Bool
  entryAddress : Option Nat
  headers : PeSectionMapping
  sections : List PeSectionMapping
deriving DecidableEq

structure VirtualAddressPlanner where
  capacity : Nat
  floor : Nat
  ceiling : Nat
  reservations : List Reservation
deriving DecidableEq

def addressAdd (left right : Nat) : Except AddressError Nat :=
  expect (checkedAdd left right) .addressOverflow

def validateSize (size : Nat) : Except AddressError Unit :=
  require (size ≠ 0 ∧ size % vmPageSize = 0) .invalidSize

def validateAlignment (alignment : Nat) : Except AddressError Unit :=
  require (vmPageSize ≤ alignment ∧ IsPowerOfTwo alignment) .invalidAlignment

def alignUpAddress (value alignment : Nat) : Except AddressError Nat := do
  let mask := alignment - 1
  let sum ← addressAdd value mask
  pure (sum - (sum &&& mask))

def validateImageSubrange (imageBase imageSize rangeStart rangeSize : Nat) :
    Except AddressError Unit := do
  let imageEnd ← addressAdd imageBase imageSize
  let rangeEnd ← addressAdd rangeStart rangeSize
  require (rangeSize ≠ 0 ∧ imageBase ≤ rangeStart ∧ rangeEnd ≤ imageEnd) .outsideAddressSpace

/-- The reservation goes before the first one with a higher start. -/
def placeSorted (reservation : Reservation) : List Reservation → List Reservation
  | [] => [reservation]
  | existing :: rest =>
    if reservation.start < existing.start then reservation :: existing :: rest
    else existing :: placeSorted reservation rest

def overlapsNone (start stop : Nat) : List Reservation → Except AddressError Unit
  | [] => pure ()
  | reservation :: rest => do
      let reservationEnd ← addressAdd reservation.start reservation.size
      require (¬ (start < reservationEnd ∧ reservation.start < stop)) .overlap
      overlapsNone start stop rest

namespace VirtualAddressPlanner

def empty (capacity floor ceiling : Nat) : VirtualAddressPlanner where
  capacity := capacity
  floor := floor
  ceiling := ceiling
  reservations := []

def tryNew (capacity floor ceiling : Nat) : Except AddressError VirtualAddressPlanner := do
  require (capacity ≠ 0 ∧ capacity ≤ maxAddressReservations)
    (.invalidCapacity capacity maxAddressReservations)
  require (floor < ceiling ∧ floor % vmPageSize = 0 ∧ ceiling % vmPageSize = 0) .invalidBounds
  pure (empty capacity floor ceiling)

def validateAvailable (planner : VirtualAddressPlanner) (start size : Nat) :
    Except AddressError Unit := do
  let stop ← addressAdd start size
  require (planner.floor ≤ start ∧ stop ≤ planner.ceiling) .outsideAddressSpace
  overlapsNone start stop planner.reservations

/-- The lowest gap behind a candidate, before or behind the reservations. -/
def searchGap (planner : VirtualAddressPlanner) (size alignment : Nat) :
    List Reservation → Nat → Except AddressError Nat
  | [], candidate => do
      let stop ← addressAdd candidate size
      require (planner.floor ≤ candidate ∧ stop ≤ planner.ceiling) .outOfAddressSpace
      pure candidate
  | reservation :: rest, candidate => do
      let reservationEnd ← addressAdd reservation.start reservation.size
      let candidateEnd ← addressAdd candidate size
      if candidateEnd ≤ reservation.start then pure candidate
      else if candidate < reservationEnd then do
        let raised ← alignUpAddress reservationEnd alignment
        searchGap planner size alignment rest raised
      else searchGap planner size alignment rest candidate

def findFirstFit (planner : VirtualAddressPlanner) (size alignment : Nat) :
    Except AddressError Nat := do
  let candidate ← alignUpAddress planner.floor alignment
  planner.searchGap size alignment planner.reservations candidate

def insertSorted (planner : VirtualAddressPlanner) (reservation : Reservation) :
    Except AddressError Unit × VirtualAddressPlanner :=
  if planner.reservations.length = planner.capacity then (.error .reservationTableFull, planner)
  else (.ok (), { planner with reservations := placeSorted reservation planner.reservations })

def reserve {α : Type} (planner : VirtualAddressPlanner)
    (planned : Except AddressError (Reservation × α)) :
    Except AddressError α × VirtualAddressPlanner :=
  match planned with
  | .error error => (.error error, planner)
  | .ok (reservation, value) =>
    match planner.insertSorted reservation with
    | (.error error, next) => (.error error, next)
    | (.ok (), next) => (.ok value, next)

def planExact (planner : VirtualAddressPlanner) (start size : Nat)
    (protection : VmProtection) (kind : ReservationKind) :
    Except AddressError (Reservation × Reservation) := do
  validateSize size
  require (start % vmPageSize = 0) .misalignedAddress
  planner.validateAvailable start size
  let reservation : Reservation := { start, size, protection, kind }
  pure (reservation, reservation)

def reserveExact (planner : VirtualAddressPlanner) (start size : Nat)
    (protection : VmProtection) (kind : ReservationKind) :
    Except AddressError Reservation × VirtualAddressPlanner :=
  planner.reserve (planner.planExact start size protection kind)

def planFirstFit (planner : VirtualAddressPlanner)
    (size alignment : Nat) (protection : VmProtection) (kind : ReservationKind) :
    Except AddressError (Reservation × Reservation) := do
  validateSize size
  validateAlignment alignment
  let start ← planner.findFirstFit size alignment
  let reservation : Reservation := { start, size, protection, kind }
  pure (reservation, reservation)

def reserveFirstFit (planner : VirtualAddressPlanner)
    (size alignment : Nat) (protection : VmProtection) (kind : ReservationKind) :
    Except AddressError Reservation × VirtualAddressPlanner :=
  planner.reserve (planner.planFirstFit size alignment protection kind)

def peResult {α : Type} (result : Except PeError α) : Except AddressError α :=
  result.mapError .pe

def placeImage (planner : VirtualAddressPlanner) (loader : LoaderPlan)
    (placement : ImagePlacement) : Except AddressError Nat :=
  if loader.imageBase % peImageAlignment = 0 ∧
      (planner.validateAvailable loader.imageBase loader.sizeOfImage).isOk = true then
    pure loader.imageBase
  else
    match placement with
    | .preferredOnly => .error .preferredAddressUnavailable
    | .preferredOrFirstFit => planner.findFirstFit loader.sizeOfImage peImageAlignment

def mapHeaders (actualBase size headersSize : Nat) : Except AddressError PeSectionMapping := do
  let address ← addressAdd actualBase 0
  validateImageSubrange actualBase size address headersSize
  pure
    { name := List.replicate 8 0
      rva := 0
      size := headersSize
      address := address
      protection := VmProtection.readOnly }

def mapSection (actualBase size : Nat) (load : SectionLoad) :
    Except AddressError PeSectionMapping := do
  let address ← addressAdd actualBase load.rva
  let protection ← VmProtection.fromPe load.permissions
  validateImageSubrange actualBase size address load.size
  pure
    { name := load.name
      rva := load.rva
      size := load.size
      address := address
      protection := protection }

def mapSections (actualBase size : Nat) :
    List SectionLoad → Except AddressError (List PeSectionMapping)
  | [] => pure []
  | load :: rest => do
      let mapping ← mapSection actualBase size load
      let later ← mapSections actualBase size rest
      pure (mapping :: later)

def entryAddressOf (actualBase entryRva : Nat) : Except AddressError (Option Nat) :=
  if entryRva = 0 then pure Option.none
  else some <$> addressAdd actualBase entryRva

def checkRelocations (image : PeImage) (loader : LoaderPlan)
    (actualBase : Nat) : Except AddressError Unit :=
  if actualBase = loader.imageBase then pure ()
  else do
    let _ ← peResult (image.baseRelocationPlan actualBase)
    pure ()

/-- The reservation and the layout of an image. -/
def planPeImage (planner : VirtualAddressPlanner) (image : PeImage) (placement : ImagePlacement) :
    Except AddressError (Reservation × PeImageLayout) := do
  let loader ← peResult image.loaderPlan
  let size := loader.sizeOfImage
  validateSize size
  let actualBase ← planner.placeImage loader placement
  checkRelocations image loader actualBase
  let headers ← mapHeaders actualBase size loader.headersSize
  let sections ← mapSections actualBase size loader.sections
  let entryAddress ← entryAddressOf actualBase loader.entryRva
  let reservation : Reservation :=
    { start := actualBase, size := size, protection := VmProtection.none, kind := .peImage }
  pure
    (reservation,
      { reservation := reservation
        preferredBase := loader.imageBase
        actualBase := actualBase
        relocated := decide (actualBase ≠ loader.imageBase)
        entryAddress := entryAddress
        headers := headers
        sections := sections })

def reservePeImage (planner : VirtualAddressPlanner) (image : PeImage)
    (placement : ImagePlacement) :
    Except AddressError PeImageLayout × VirtualAddressPlanner :=
  planner.reserve (planner.planPeImage image placement)

inductive Operation where
  | reserveExact (start size : Nat) (protection : VmProtection) (kind : ReservationKind)
  | reserveFirstFit (size alignment : Nat) (protection : VmProtection) (kind : ReservationKind)
  | reservePeImage (image : PeImage) (placement : ImagePlacement)
deriving DecidableEq

def step (planner : VirtualAddressPlanner) (operation : Operation) : Option VirtualAddressPlanner :=
  match operation with
  | .reserveExact start size protection kind =>
    some (planner.reserveExact start size protection kind).2
  | .reserveFirstFit size alignment protection kind =>
    some (planner.reserveFirstFit size alignment protection kind).2
  | .reservePeImage image placement => some (planner.reservePeImage image placement).2

end VirtualAddressPlanner

end Xenith.Winhost
