import Xenith.Winhost.Object

/-!
# The NT runtime

`user/winhost-core/src/runtime.rs` with the service table of `service.rs`.  A
call returns its reply and the runtime behind it; the branch of `wait_single`
that the source marks as unreachable has no reply.
-/

namespace Xenith.Winhost

/-! ## Services -/

inductive NtService where
  | close
  | duplicateObject
  | createEvent
  | setEvent
  | resetEvent
  | createMutant
  | releaseMutant
  | createSemaphore
  | releaseSemaphore
  | createTimer
  | setTimer
  | cancelTimer
  | waitForSingleObject
  | unknown
deriving DecidableEq

inductive NtWaitMode where
  | poll
  | blocking
deriving DecidableEq

inductive NtServiceCall where
  | close (handle : GuestHandle)
  | duplicateObject (source : GuestHandle)
      (desiredAccess : Option AccessMask) (inheritable : Option Bool)
  | createEvent (kind : EventKind) (initialState : Bool) (access : AccessMask) (inheritable : Bool)
  | setEvent (handle : GuestHandle)
  | resetEvent (handle : GuestHandle)
  | createMutant (initialOwner : Option NtThreadId) (access : AccessMask) (inheritable : Bool)
  | releaseMutant (handle : GuestHandle) (thread : NtThreadId)
  | createSemaphore (initial limit : Nat) (access : AccessMask) (inheritable : Bool)
  | releaseSemaphore (handle : GuestHandle) (releaseCount : Nat)
  | createTimer (kind : TimerKind) (access : AccessMask) (inheritable : Bool)
  | setTimer (handle : GuestHandle) (nowTicks delayTicks periodTicks : Nat)
  | cancelTimer (handle : GuestHandle)
  | waitForSingleObject (handle : GuestHandle) (thread : NtThreadId)
      (nowTicks : Nat) (mode : NtWaitMode)
deriving DecidableEq

def NtServiceCall.service : NtServiceCall → NtService
  | .close _ => .close
  | .duplicateObject _ _ _ => .duplicateObject
  | .createEvent _ _ _ _ => .createEvent
  | .setEvent _ => .setEvent
  | .resetEvent _ => .resetEvent
  | .createMutant _ _ _ => .createMutant
  | .releaseMutant _ _ => .releaseMutant
  | .createSemaphore _ _ _ _ => .createSemaphore
  | .releaseSemaphore _ _ => .releaseSemaphore
  | .createTimer _ _ _ => .createTimer
  | .setTimer _ _ _ _ => .setTimer
  | .cancelTimer _ => .cancelTimer
  | .waitForSingleObject _ _ _ _ => .waitForSingleObject

def maxImportNameBytes : Nat := 256

def isModuleByte (byte : UInt8) : Bool :=
  (48 ≤ byte && byte ≤ 57) || (65 ≤ byte && byte ≤ 90) ||
    (97 ≤ byte && byte ≤ 122) || byte == 46 || byte == 95 || byte == 45

def toAsciiUppercase (byte : UInt8) : UInt8 :=
  if 97 ≤ byte ∧ byte ≤ 122 then byte - 32 else byte

/-- `ModuleName::parse`: the name in upper case. -/
def parseModuleName (value : List UInt8) : Option (List UInt8) :=
  if value = [] ∨ maxImportNameBytes < value.length then none
  else if value.all isModuleByte then some (value.map toAsciiUppercase)
  else none

/-- `SymbolName::parse`. -/
def parseSymbolName (value : List UInt8) : Option (List UInt8) :=
  if value = [] ∨ maxImportNameBytes < value.length then none
  else if value.all (fun byte => 0x20 ≤ byte && byte ≤ 0x7e) then some value
  else none

def asciiBytes (text : String) : List UInt8 :=
  text.toList.map (fun character => character.toNat.toUInt8)

def serviceSymbols : List (String × NtService) :=
  [("NtClose", .close), ("NtDuplicateObject", .duplicateObject),
    ("NtCreateEvent", .createEvent), ("NtSetEvent", .setEvent),
    ("NtResetEvent", .resetEvent), ("NtCreateMutant", .createMutant),
    ("NtReleaseMutant", .releaseMutant), ("NtCreateSemaphore", .createSemaphore),
    ("NtReleaseSemaphore", .releaseSemaphore),
    ("NtCreateTimer", .createTimer), ("NtSetTimer", .setTimer), ("NtCancelTimer", .cancelTimer),
    ("NtWaitForSingleObject", .waitForSingleObject)]

def resolveNtService (moduleName symbol : List UInt8) : NtService :=
  match parseModuleName moduleName, parseSymbolName symbol with
  | some moduleName, some symbol =>
    if moduleName = asciiBytes "NTDLL.DLL" then
      match serviceSymbols.find? (fun known => asciiBytes known.1 == symbol) with
      | some (_, service) => service
      | none => .unknown
    else .unknown
  | _, _ => .unknown

inductive NtServiceValue where
  | none
  | handle (handle : GuestHandle)
  | boolean (previous : Bool)
  | count (previous : Nat)
deriving DecidableEq

structure NtServiceReply where
  status : NtStatus
  value : NtServiceValue
deriving DecidableEq

namespace NtServiceReply

def ofStatus (status : NtStatus) : NtServiceReply where
  status := status
  value := .none

def ofHandle (handle : GuestHandle) : NtServiceReply where
  status := .success
  value := .handle handle

def boolean (previous : Bool) : NtServiceReply where
  status := .success
  value := .boolean previous

def count (previous : Nat) : NtServiceReply where
  status := .success
  value := .count previous

end NtServiceReply

/-! ## The runtime -/

structure NtRuntime where
  handles : HandleTable
  objects : ObjectTable
deriving DecidableEq

open AccessMask in
def eventAllowedAccess : AccessMask :=
  union (union eventQueryState eventModifyState) synchronize

open AccessMask in
def mutantAllowedAccess : AccessMask :=
  union mutantQueryState synchronize

open AccessMask in
def semaphoreAllowedAccess : AccessMask :=
  union (union semaphoreQueryState semaphoreModifyState) synchronize

open AccessMask in
def timerAllowedAccess : AccessMask :=
  union (union timerQueryState timerModifyState) synchronize

/-- No bit outside of the allowed ones is requested. -/
def validateAccess (access allowed : AccessMask) : Except NtStatus Unit :=
  if access &&& ((2 ^ 32 - 1) ^^^ allowed) = 0 then .ok ()
  else .error .accessDenied

namespace NtRuntime

def empty (handles objects : Nat) : NtRuntime where
  handles := .empty handles
  objects := .empty objects

def tryNew (handles objects : Nat) : Except NtStatus NtRuntime :=
  match HandleTable.tryNew handles, ObjectTable.tryNew objects with
  | .error error, _ => .error error.status
  | .ok _, .error error => .error error.status
  | .ok handles, .ok objects => .ok { handles, objects }

/-- A new object and its first handle, or neither. -/
def insertObjectHandle (runtime : NtRuntime) (object : RuntimeObject)
    (access : AccessMask) (inheritable : Bool) :
    Except NtStatus GuestHandle × NtRuntime :=
  match runtime.objects.insert object with
  | (.error error, objects) => (.error error.status, { runtime with objects := objects })
  | (.ok id, objects) =>
    match runtime.handles.insert
        { objectId := id
          objectType := object.objectType
          access := access
          inheritable := inheritable } with
    | (.ok handle, handles) => (.ok handle, { handles, objects })
    | (.error error, handles) =>
      (.error error.status, { handles := handles, objects := (objects.release id).2 })

def insertConsole (runtime : NtRuntime) (descriptor : Int) (readable writable inheritable : Bool) :
    Except NtStatus GuestHandle × NtRuntime :=
  match ConsoleObject.tryNew descriptor readable writable with
  | .error error => (.error error.status, runtime)
  | .ok console =>
    let readAccess := if readable then AccessMask.genericRead else .none
    let access :=
      if writable then AccessMask.union readAccess AccessMask.genericWrite
      else readAccess
    runtime.insertObjectHandle (.console console) access inheritable

def close (runtime : NtRuntime) (handle : GuestHandle) :
    Except NtStatus (Option RuntimeObject) × NtRuntime :=
  match runtime.handles.reference handle none AccessMask.none with
  | .error error => (.error error.status, runtime)
  | .ok entry =>
    match runtime.objects.reference entry.objectId (some entry.objectType) with
    | .error error => (.error error.status, runtime)
    | .ok _ =>
      match runtime.handles.close handle with
      | (.error error, handles) => (.error error.status, { runtime with handles := handles })
      | (.ok _, handles) =>
        match runtime.objects.release entry.objectId with
        | (.error error, objects) => (.error error.status, { handles, objects })
        | (.ok retired, objects) => (.ok retired, { handles, objects })

def duplicate (runtime : NtRuntime) (source : GuestHandle)
    (desiredAccess : Option AccessMask) (inheritable : Option Bool) :
    Except NtStatus GuestHandle × NtRuntime :=
  match runtime.handles.reference source none AccessMask.none with
  | .error error => (.error error.status, runtime)
  | .ok entry =>
    if desiredAccess.any (fun desired => !AccessMask.contains entry.access desired) then
      (.error .accessDenied, runtime)
    else
      match runtime.objects.reference entry.objectId (some entry.objectType) with
      | .error error => (.error error.status, runtime)
      | .ok _ =>
        match runtime.objects.retain entry.objectId with
        | (.error error, objects) => (.error error.status, { runtime with objects := objects })
        | (.ok _, objects) =>
          match runtime.handles.duplicate source desiredAccess inheritable with
          | (.ok handle, handles) => (.ok handle, { handles, objects })
          | (.error error, handles) =>
            (.error error.status,
              { handles := handles, objects := (objects.release entry.objectId).2 })

/-- The object that a handle names, if the handle has the type and the
access; the type `invalid` stands for any type. -/
def objectMut (runtime : NtRuntime) (handle : GuestHandle)
    (expected : ObjectType) (access : AccessMask) :
    Except NtStatus (ObjectId × RuntimeObject) :=
  let expectedHandle := if expected = .invalid then none else some expected
  match runtime.handles.reference handle expectedHandle access with
  | .error error => .error error.status
  | .ok entry =>
    match runtime.objects.reference entry.objectId (expectedHandle.or (some entry.objectType)) with
    | .error error => .error error.status
    | .ok object => .ok (entry.objectId, object)

def store (runtime : NtRuntime) (id : ObjectId) (object : RuntimeObject) : NtRuntime :=
  { runtime with objects := runtime.objects.store id object }

def handleReply (outcome : Except NtStatus GuestHandle × NtRuntime) : NtServiceReply × NtRuntime :=
  match outcome with
  | (.ok handle, runtime) => (.ofHandle handle, runtime)
  | (.error status, runtime) => (.ofStatus status, runtime)

/-- The services that create an object check the access first. -/
def createObject (runtime : NtRuntime) (object : RuntimeObject)
    (access allowed : AccessMask) (inheritable : Bool) :
    NtServiceReply × NtRuntime :=
  match validateAccess access allowed with
  | .error status => (.ofStatus status, runtime)
  | .ok () => handleReply (runtime.insertObjectHandle object access inheritable)

def createEvent (runtime : NtRuntime) (kind : EventKind) (initial : Bool)
    (access : AccessMask) (inheritable : Bool) :
    NtServiceReply × NtRuntime :=
  runtime.createObject (.event ⟨kind, initial⟩) access eventAllowedAccess inheritable

def createMutant (runtime : NtRuntime) (owner : Option NtThreadId)
    (access : AccessMask) (inheritable : Bool) :
    NtServiceReply × NtRuntime :=
  runtime.createObject (.mutant (.new owner)) access mutantAllowedAccess inheritable

def createSemaphore (runtime : NtRuntime) (initial limit : Nat)
    (access : AccessMask) (inheritable : Bool) :
    NtServiceReply × NtRuntime :=
  match validateAccess access semaphoreAllowedAccess with
  | .error status => (.ofStatus status, runtime)
  | .ok () =>
    match SemaphoreState.tryNew initial limit with
    | .error error => (.ofStatus error.status, runtime)
    | .ok semaphore =>
      handleReply (runtime.insertObjectHandle (.semaphore semaphore) access inheritable)

def createTimer (runtime : NtRuntime) (kind : TimerKind)
    (access : AccessMask) (inheritable : Bool) :
    NtServiceReply × NtRuntime :=
  runtime.createObject (.timer (.new kind)) access timerAllowedAccess inheritable

/-- The services that change an object through a handle of its type. -/
def withObject (runtime : NtRuntime) (handle : GuestHandle)
    (expected : ObjectType) (access : AccessMask)
    (operation : RuntimeObject → NtServiceReply × RuntimeObject) :
    NtServiceReply × NtRuntime :=
  match runtime.objectMut handle expected access with
  | .error status => (.ofStatus status, runtime)
  | .ok (id, object) =>
    let (reply, changed) := operation object
    (reply, runtime.store id changed)

def countReply {α : Type} (outcome : Except SyncError Nat × α) : NtServiceReply :=
  match outcome.1 with
  | .ok previous => .count previous
  | .error error => .ofStatus error.status

def setEvent (runtime : NtRuntime) (handle : GuestHandle)
    (signaled : Bool) : NtServiceReply × NtRuntime :=
  runtime.withObject handle .event AccessMask.eventModifyState fun object =>
    match object with
    | .event event =>
      let (previous, event) := if signaled then event.set else event.reset
      (.boolean previous, .event event)
    | _ => (.ofStatus .objectTypeMismatch, object)

def releaseMutant (runtime : NtRuntime) (handle : GuestHandle)
    (thread : NtThreadId) : NtServiceReply × NtRuntime :=
  runtime.withObject handle .mutant AccessMask.mutantQueryState fun object =>
    match object with
    | .mutant mutant =>
      let outcome := mutant.release thread
      (countReply outcome, .mutant outcome.2)
    | _ => (.ofStatus .objectTypeMismatch, object)

def releaseSemaphore (runtime : NtRuntime) (handle : GuestHandle)
    (count : Nat) : NtServiceReply × NtRuntime :=
  runtime.withObject handle .semaphore AccessMask.semaphoreModifyState
    fun object =>
      match object with
      | .semaphore semaphore =>
        let outcome := semaphore.release count
        (countReply outcome, .semaphore outcome.2)
      | _ => (.ofStatus .objectTypeMismatch, object)

def setTimer (runtime : NtRuntime) (handle : GuestHandle)
    (now delay period : Nat) : NtServiceReply × NtRuntime :=
  runtime.withObject handle .timer AccessMask.timerModifyState fun object =>
    match object with
    | .timer timer =>
      match timer.setRelative now delay period with
      | (.ok previous, timer) => (.boolean previous, .timer timer)
      | (.error error, timer) => (.ofStatus error.status, .timer timer)
    | _ => (.ofStatus .objectTypeMismatch, object)

def cancelTimer (runtime : NtRuntime) (handle : GuestHandle) : NtServiceReply × NtRuntime :=
  runtime.withObject handle .timer AccessMask.timerModifyState fun object =>
    match object with
    | .timer timer =>
      let (previous, timer) := timer.cancel
      (.boolean previous, .timer timer)
    | _ => (.ofStatus .objectTypeMismatch, object)

/-- One wait on an object, and the object behind it. -/
def waitObject (object : RuntimeObject) (thread : NtThreadId) (now : Nat) :
    Option (Except SyncError WaitSatisfaction) × RuntimeObject :=
  match object with
  | .event event =>
    let (result, event) := event.tryWait
    (some (.ok result), .event event)
  | .mutant mutant =>
    let (result, mutant) := mutant.tryWait thread
    (some result, .mutant mutant)
  | .semaphore semaphore =>
    let (result, semaphore) := semaphore.tryWait
    (some (.ok result), .semaphore semaphore)
  | .timer timer =>
    let (result, timer) := timer.tryWait now
    (some result, .timer timer)
  | _ => (none, object)

def waitReply (mode : NtWaitMode) : Option (Except SyncError WaitSatisfaction) → NtServiceReply
  | none => .ofStatus .objectTypeMismatch
  | some (.ok .satisfied) => .ofStatus .success
  | some (.ok .abandoned) => .ofStatus .abandoned
  | some (.ok .wouldBlock) => if mode = .poll then .ofStatus .timeout else .ofStatus .notImplemented
  | some (.error error) => .ofStatus error.status

/-- There is no reply in the branch that the source marks as unreachable. -/
def waitSingle (runtime : NtRuntime) (handle : GuestHandle)
    (thread : NtThreadId) (now : Nat) (mode : NtWaitMode) :
    Option NtServiceReply × NtRuntime :=
  match runtime.objectMut handle .invalid AccessMask.synchronize with
  | .error .objectTypeMismatch => (none, runtime)
  | .error status => (some (.ofStatus status), runtime)
  | .ok (id, object) =>
    let (result, changed) := waitObject object thread now
    (some (waitReply mode result), runtime.store id changed)

def answer (outcome : NtServiceReply × NtRuntime) : Option NtServiceReply × NtRuntime :=
  (some outcome.1, outcome.2)

def dispatch (runtime : NtRuntime) : NtServiceCall → Option NtServiceReply × NtRuntime
  | .close handle =>
    match runtime.close handle with
    | (.ok _, next) => (some (.ofStatus .success), next)
    | (.error status, next) => (some (.ofStatus status), next)
  | .duplicateObject source desiredAccess inheritable =>
    answer (handleReply (runtime.duplicate source desiredAccess inheritable))
  | .createEvent kind initialState access inheritable =>
    answer (runtime.createEvent kind initialState access inheritable)
  | .setEvent handle => answer (runtime.setEvent handle true)
  | .resetEvent handle => answer (runtime.setEvent handle false)
  | .createMutant initialOwner access inheritable =>
    answer (runtime.createMutant initialOwner access inheritable)
  | .releaseMutant handle thread => answer (runtime.releaseMutant handle thread)
  | .createSemaphore initial limit access inheritable =>
    answer (runtime.createSemaphore initial limit access inheritable)
  | .releaseSemaphore handle releaseCount => answer (runtime.releaseSemaphore handle releaseCount)
  | .createTimer kind access inheritable => answer (runtime.createTimer kind access inheritable)
  | .setTimer handle nowTicks delayTicks periodTicks =>
    answer (runtime.setTimer handle nowTicks delayTicks periodTicks)
  | .cancelTimer handle => answer (runtime.cancelTimer handle)
  | .waitForSingleObject handle thread nowTicks mode =>
    runtime.waitSingle handle thread nowTicks mode

def dispatchSymbol (runtime : NtRuntime) (moduleName symbol : List UInt8)
    (call : NtServiceCall) : Option NtServiceReply × NtRuntime :=
  let service := resolveNtService moduleName symbol
  if service = .unknown then (some (.ofStatus .notImplemented), runtime)
  else if service ≠ call.service then (some (.ofStatus .invalidParameter), runtime)
  else runtime.dispatch call

def abandonThread (runtime : NtRuntime) (thread : NtThreadId) : Nat × NtRuntime :=
  let (changed, objects) := runtime.objects.abandonMutants thread
  (changed, { runtime with objects := objects })

/-! ## Runs -/

inductive Operation where
  | insertConsole (descriptor : Int) (readable writable inheritable : Bool)
  | dispatch (call : NtServiceCall)
  | dispatchSymbol (moduleName symbol : List UInt8) (call : NtServiceCall)
  | duplicate (source : GuestHandle) (desiredAccess : Option AccessMask) (inheritable : Option Bool)
  | close (handle : GuestHandle)
  | abandonThread (thread : NtThreadId)
deriving DecidableEq

inductive Result where
  | handle (result : Except NtStatus GuestHandle)
  | closed (result : Except NtStatus (Option RuntimeObject))
  | reply (reply : NtServiceReply)
  | abandoned (changed : Nat)
deriving DecidableEq

/-- No result stands for the panic of the unreachable branch. -/
def perform (runtime : NtRuntime) : Operation → Option Result × NtRuntime
  | .insertConsole descriptor readable writable inheritable =>
    let (result, next) := runtime.insertConsole descriptor readable writable inheritable
    (some (.handle result), next)
  | .dispatch call =>
    let (reply, next) := runtime.dispatch call
    (reply.map .reply, next)
  | .dispatchSymbol moduleName symbol call =>
    let (reply, next) := runtime.dispatchSymbol moduleName symbol call
    (reply.map .reply, next)
  | .duplicate source desiredAccess inheritable =>
    let (result, next) := runtime.duplicate source desiredAccess inheritable
    (some (.handle result), next)
  | .close handle =>
    let (result, next) := runtime.close handle
    (some (.closed result), next)
  | .abandonThread thread =>
    let (changed, next) := runtime.abandonThread thread
    (some (.abandoned changed), next)

def step (runtime : NtRuntime) (operation : Operation) : Option NtRuntime :=
  match runtime.perform operation with
  | (some _, next) => some next
  | (none, _) => none

end NtRuntime

end Xenith.Winhost
