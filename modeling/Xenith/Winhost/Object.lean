import Xenith.Winhost.Handle

/-!
# Runtime objects

The object table of `user/winhost-core/src/object.rs`.  An object carries the
number of its references.
-/

namespace Xenith.Winhost

open SlotTable

namespace ObjectTable

def objectIndexBits : Nat := 16

def objectGenerationMask : Nat := 1 <<< (64 - objectIndexBits) - 1

def maxIssuedObjectGeneration : Nat := objectGenerationMask - 1

def maxObjectEntries : Nat := 1 <<< objectIndexBits - 1

end ObjectTable

abbrev ObjectId := Nat

inductive ObjectError where
  | invalidCapacity (capacity maximum : Nat)
  | tableFull
  | invalidObject
  | invalidObjectId
  | typeMismatch (expected actual : ObjectType)
  | referenceOverflow
deriving DecidableEq

def ObjectError.status : ObjectError → NtStatus
  | .invalidCapacity _ _ => .invalidParameter
  | .invalidObject => .invalidParameter
  | .tableFull => .insufficientResources
  | .referenceOverflow => .insufficientResources
  | .invalidObjectId => .invalidHandle
  | .typeMismatch _ _ => .objectTypeMismatch

structure ConsoleObject where
  descriptor : Int
  readable : Bool
  writable : Bool
deriving DecidableEq

def ConsoleObject.tryNew (descriptor : Int) (readable writable : Bool) :
    Except ObjectError ConsoleObject :=
  if descriptor < 0 ∨ (readable = false ∧ writable = false) then .error .invalidObject
  else .ok { descriptor, readable, writable }

inductive RuntimeObject where
  | invalid
  | event (state : EventState)
  | mutant (state : MutantState)
  | semaphore (state : SemaphoreState)
  | timer (state : TimerState)
  | console (object : ConsoleObject)
deriving DecidableEq

def RuntimeObject.objectType : RuntimeObject → ObjectType
  | .invalid => .invalid
  | .event _ => .event
  | .mutant _ => .mutant
  | .semaphore _ => .semaphore
  | .timer _ => .timer
  | .console _ => .console

structure Counted where
  references : Nat
  object : RuntimeObject
deriving DecidableEq

def Counted.empty : Counted where
  references := 0
  object := .invalid

structure ObjectTable where
  slots : List (Slot Counted)
  len : Nat
deriving DecidableEq

def decodeObject (id : ObjectId) : Option Key :=
  (decode ObjectTable.objectIndexBits id).filter
    (fun key => decide (key.generation ≤ ObjectTable.maxIssuedObjectGeneration))

def validateType (object : RuntimeObject) (expected : Option ObjectType) :
    Except ObjectError Unit :=
  match expected.filter (fun expected => decide (object.objectType ≠ expected)) with
  | some expected => .error (.typeMismatch expected object.objectType)
  | none => .ok ()

namespace ObjectTable

def empty (capacity : Nat) : ObjectTable where
  slots := List.replicate capacity (Slot.fresh Counted.empty)
  len := 0

def tryNew (capacity : Nat) : Except ObjectError ObjectTable :=
  if capacity = 0 ∨ maxObjectEntries < capacity then
    .error (.invalidCapacity capacity maxObjectEntries)
  else .ok (empty capacity)

def insert (table : ObjectTable) (object : RuntimeObject) :
    Except ObjectError ObjectId × ObjectTable :=
  if object.objectType = .invalid then (.error .invalidObject, table)
  else
    match freeKey table.slots with
    | none => (.error .tableFull, table)
    | some key =>
      (.ok (encode objectIndexBits key),
        { slots := SlotTable.insert table.slots key { references := 1, object := object }
          len := table.len + 1 })

def liveSlot (table : ObjectTable) (id : ObjectId) : Except ObjectError (Key × Counted) :=
  match decodeObject id with
  | none => .error .invalidObjectId
  | some key =>
    match lookup table.slots key with
    | none => .error .invalidObjectId
    | some counted =>
      if counted.references = 0 then .error .invalidObjectId
      else .ok (key, counted)

def reference (table : ObjectTable) (id : ObjectId)
    (expected : Option ObjectType) : Except ObjectError RuntimeObject :=
  match table.liveSlot id with
  | .error error => .error error
  | .ok (_, counted) => (validateType counted.object expected).map (fun _ => counted.object)

/-- The object behind a mutable reference is overwritten. -/
def store (table : ObjectTable) (id : ObjectId) (object : RuntimeObject) : ObjectTable :=
  match table.liveSlot id with
  | .error _ => table
  | .ok (key, _) =>
    { table with
      slots := update table.slots key (fun counted => { counted with object := object }) }

def retain (table : ObjectTable) (id : ObjectId) : Except ObjectError Nat × ObjectTable :=
  match table.liveSlot id with
  | .error error => (.error error, table)
  | .ok (key, counted) =>
    match checkedAdd32 counted.references 1 with
    | none => (.error .referenceOverflow, table)
    | some references =>
      (.ok references,
        { table with
          slots :=
            update table.slots key (fun counted => { counted with references := references }) })

def release (table : ObjectTable) (id : ObjectId) :
    Except ObjectError (Option RuntimeObject) × ObjectTable :=
  match table.liveSlot id with
  | .error error => (.error error, table)
  | .ok (key, counted) =>
    let references := counted.references - 1
    if references ≠ 0 then
      (.ok none,
        { table with
          slots :=
            update table.slots key (fun counted => { counted with references := references }) })
    else
      (.ok (some counted.object),
        { slots := remove maxIssuedObjectGeneration .empty table.slots key, len := table.len - 1 })

/-- What the end of a thread makes of an object, and whether it changes. -/
def abandonObject (thread : NtThreadId) (counted : Counted) : Bool × Counted :=
  match counted.object with
  | .mutant mutant =>
    let (changed, mutant) := mutant.abandonIfOwned thread
    (changed, { counted with object := .mutant mutant })
  | _ => (false, counted)

def abandonSlot (thread : NtThreadId) (slot : Slot Counted) : Slot Counted :=
  if slot.occupied then slot.edit (fun counted => (abandonObject thread counted).2)
  else slot

def abandonMutants (table : ObjectTable) (thread : NtThreadId) : Nat × ObjectTable :=
  (table.slots.countP (fun slot => slot.occupied && (abandonObject thread slot.entry).1),
    { table with slots := table.slots.map (abandonSlot thread) })

end ObjectTable

end Xenith.Winhost
