import Xenith.Lib.SlotTable
import Xenith.Winhost.Sync

/-!
# Guest handles

The handle table of `user/winhost-core/src/handle.rs`.
-/

namespace Xenith.Winhost

open SlotTable

namespace HandleTable

def indexBits : Nat := 12

def generationMask : Nat := 1 <<< (32 - indexBits) - 1

def maxIssuedGeneration : Nat := generationMask - 1

def maxHandleEntries : Nat := 1 <<< indexBits - 1

end HandleTable

abbrev GuestHandle := Nat

inductive ObjectType where
  | invalid
  | file
  | directory
  | event
  | semaphore
  | mutant
  | «section»
  | process
  | thread
  | console
  | registryKey
  | token
  | timer
deriving DecidableEq

/-- The rights granted to a handle, one bit each. -/
abbrev AccessMask := Nat

namespace AccessMask

def none : AccessMask := 0

def synchronize : AccessMask := 0x00100000

def genericWrite : AccessMask := 0x40000000

def genericRead : AccessMask := 0x80000000

def eventQueryState : AccessMask := 0x00000001

def eventModifyState : AccessMask := 0x00000002

def mutantQueryState : AccessMask := 0x00000001

def semaphoreQueryState : AccessMask := 0x00000001

def semaphoreModifyState : AccessMask := 0x00000002

def timerQueryState : AccessMask := 0x00000001

def timerModifyState : AccessMask := 0x00000002

def contains (granted requested : AccessMask) : Bool :=
  granted &&& requested == requested

def union (left right : AccessMask) : AccessMask :=
  left ||| right

end AccessMask

structure HandleEntry where
  objectId : Nat
  objectType : ObjectType
  access : AccessMask
  inheritable : Bool
deriving DecidableEq

def HandleEntry.empty : HandleEntry where
  objectId := 0
  objectType := .invalid
  access := AccessMask.none
  inheritable := false

inductive HandleError where
  | invalidCapacity (capacity maximum : Nat)
  | tableFull
  | invalidObjectType
  | invalidObjectId
  | invalidHandle
  | typeMismatch (expected actual : ObjectType)
  | accessDenied (requested granted : AccessMask)
deriving DecidableEq

def HandleError.status : HandleError → NtStatus
  | .invalidCapacity _ _ => .invalidParameter
  | .invalidObjectType => .invalidParameter
  | .invalidObjectId => .invalidParameter
  | .tableFull => .insufficientResources
  | .invalidHandle => .invalidHandle
  | .typeMismatch _ _ => .objectTypeMismatch
  | .accessDenied _ _ => .accessDenied

structure HandleTable where
  slots : List (Slot HandleEntry)
  len : Nat
deriving DecidableEq

namespace HandleTable

def empty (capacity : Nat) : HandleTable where
  slots := List.replicate capacity (Slot.fresh HandleEntry.empty)
  len := 0

def tryNew (capacity : Nat) : Except HandleError HandleTable :=
  if capacity = 0 ∨ maxHandleEntries < capacity then
    .error (.invalidCapacity capacity maxHandleEntries)
  else .ok (empty capacity)

def find (table : HandleTable) (handle : GuestHandle) : Option HandleEntry :=
  (decode indexBits handle).bind (lookup table.slots)

def insert (table : HandleTable) (entry : HandleEntry) :
    Except HandleError GuestHandle × HandleTable :=
  if entry.objectType = .invalid then (.error .invalidObjectType, table)
  else if entry.objectId = 0 then (.error .invalidObjectId, table)
  else
    match freeKey table.slots with
    | none => (.error .tableFull, table)
    | some key =>
      (.ok (encode indexBits key),
        { slots := SlotTable.insert table.slots key entry, len := table.len + 1 })

def reference (table : HandleTable) (handle : GuestHandle)
    (expectedType : Option ObjectType) (requestedAccess : AccessMask) :
    Except HandleError HandleEntry :=
  match table.find handle with
  | none => .error .invalidHandle
  | some entry =>
    match expectedType.filter (fun expected => decide (entry.objectType ≠ expected)) with
    | some expected => .error (.typeMismatch expected entry.objectType)
    | none =>
      if AccessMask.contains entry.access requestedAccess then .ok entry
      else .error (.accessDenied requestedAccess entry.access)

def close (table : HandleTable) (handle : GuestHandle) :
    Except HandleError HandleEntry × HandleTable :=
  match decode indexBits handle with
  | none => (.error .invalidHandle, table)
  | some key =>
    match lookup table.slots key with
    | none => (.error .invalidHandle, table)
    | some entry =>
      (.ok entry,
        { slots := remove maxIssuedGeneration .empty table.slots key, len := table.len - 1 })

def narrow (entry : HandleEntry) (desiredAccess : Option AccessMask)
    (inheritable : Option Bool) : HandleEntry :=
  { entry with
    access := desiredAccess.getD entry.access
    inheritable := inheritable.getD entry.inheritable }

def duplicate (table : HandleTable) (source : GuestHandle)
    (desiredAccess : Option AccessMask) (inheritable : Option Bool) :
    Except HandleError GuestHandle × HandleTable :=
  match table.reference source none AccessMask.none with
  | .error error => (.error error, table)
  | .ok entry =>
    match desiredAccess.filter (fun desired => !AccessMask.contains entry.access desired) with
    | some desired => (.error (.accessDenied desired entry.access), table)
    | none => table.insert (narrow entry desiredAccess inheritable)

end HandleTable

end Xenith.Winhost
