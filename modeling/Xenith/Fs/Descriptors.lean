import Xenith.Ipc.Channel

/-!
# Descriptor tables

The open-file descriptions and descriptor tables of `kernel/src/fs/fd.rs`.
Only the kind of the backend of a file and its open flags matter for the
rights, so the state of the backend is left out.
-/

namespace Xenith.Fs

open Xenith.Ipc

inductive FsError where
  | io
  | notFound
  | alreadyExists
  | notDirectory
  | isDirectory
  | notEmpty
  | invalidInput
  | nameTooLong
  | badFileDescriptor
  | interrupted
  | wouldBlock
  | brokenPipe
  | notSeekable
  | tooManyOpenFiles
  | permissionDenied
  | readOnly
  | noSpace
  | unsupported
  | loop
  | overflow
  | corrupt
  | busy
  | notMounted
deriving DecidableEq, Repr

def ipcTransferRightRead : Rights := 1#32

def ipcTransferRightWrite : Rights := 2#32

def ipcTransferRightMap : Rights := 4#32

def ipcTransferRightTransfer : Rights := 8#32

def ipcTransferRightsAll : Rights :=
  ipcTransferRightRead ||| ipcTransferRightWrite ||| ipcTransferRightMap |||
    ipcTransferRightTransfer

def channelDescriptorRights : Rights :=
  ipcTransferRightRead ||| ipcTransferRightWrite

def sharedMemoryDescriptorRights : Rights :=
  ipcTransferRightRead ||| ipcTransferRightWrite ||| ipcTransferRightMap |||
    ipcTransferRightTransfer

def validDescriptorRights (rights : Rights) : Bool :=
  decide (rights ≠ 0) && decide (rights &&& ~~~ipcTransferRightsAll = 0)

/-! ## Files -/

abbrev OpenFlags := BitVec 32

namespace OpenFlags

def writeOnly : OpenFlags := 0x0001#32

def readWrite : OpenFlags := 0x0002#32

def accessMode : OpenFlags := 0x0003#32

def closeOnExec : OpenFlags := 0x80000#32

def canRead (flags : OpenFlags) : Bool :=
  decide (flags &&& accessMode ≠ writeOnly)

def canWrite (flags : OpenFlags) : Bool :=
  decide (flags &&& accessMode = writeOnly) || decide (flags &&& accessMode = readWrite)

def contains (flags wanted : OpenFlags) : Bool :=
  decide (flags &&& wanted = wanted)

end OpenFlags

inductive FileBackend where
  | vfs
  | console
  | pipe
  | pty
  | channel
  | sharedMemory
deriving DecidableEq, Repr

/-- An open-file description.  The identifier stands for the address of the
shared object. -/
structure FileObject where
  id : Nat
  backend : FileBackend
  flags : OpenFlags
deriving DecidableEq

namespace FileObject

def newConsole (id : Nat) (flags : OpenFlags) : FileObject :=
  ⟨id, .console, flags⟩

def isChannel (file : FileObject) : Bool :=
  decide (file.backend = .channel)

def initialDescriptorRights (file : FileObject) : Rights :=
  match file.backend with
  | .channel => channelDescriptorRights
  | .sharedMemory => sharedMemoryDescriptorRights
  | _ =>
    ipcTransferRightTransfer |||
      (if file.flags.canRead then ipcTransferRightRead else 0) |||
      (if file.flags.canWrite then ipcTransferRightWrite else 0)

end FileObject

abbrev Transfers := ChannelTransfers FileObject

structure FdEntry where
  file : FileObject
  closeOnExec : Bool
  rights : Rights
deriving DecidableEq

def FdEntry.fromFile (file : FileObject) : FdEntry where
  file := file
  closeOnExec := file.flags.contains OpenFlags.closeOnExec
  rights := file.initialDescriptorRights

structure IpcSendTransfer where
  sourceFd : Int
  rights : Rights
  tag : BitVec 64
deriving DecidableEq

namespace IpcSendTransfer

def isValid (request : IpcSendTransfer) : Bool :=
  decide (0 ≤ request.sourceFd) && decide (request.rights ≠ 0) &&
    decide (request.rights &&& ~~~ipcTransferRightsAll = 0)

def isZero (request : IpcSendTransfer) : Bool :=
  decide (request.sourceFd = 0) && decide (request.rights = 0) && decide (request.tag = 0)

end IpcSendTransfer

structure IpcReceiveTransfer where
  installedFd : Int
  rights : Rights
  tag : BitVec 64
deriving DecidableEq

abbrev spawnRestrictedMaxFileActions : Nat := 16

structure SpawnFileAction where
  sourceFd : Int
  targetFd : Int
  rights : Rights
  flags : BitVec 32
deriving DecidableEq

namespace SpawnFileAction

def isValid (action : SpawnFileAction) : Bool :=
  decide (0 ≤ action.sourceFd) && decide (0 ≤ action.targetFd) &&
    decide (action.rights ≠ 0) &&
    decide (action.rights &&& ~~~ipcTransferRightsAll = 0) &&
    decide (action.flags = 0)

def isZero (action : SpawnFileAction) : Bool :=
  decide (action.sourceFd = 0) && decide (action.targetFd = 0) &&
    decide (action.rights = 0) && decide (action.flags = 0)

end SpawnFileAction

/-! ## Tables -/

abbrev maxFds : Nat := 256

structure FdTable where
  slots : Fin maxFds → Option FdEntry := fun _ => none
  firstDynamic : Nat := 0

def slotOf (fd : Int) : Option (Fin maxFds) :=
  if fd < 0 then none
  else if bounded : fd.toNat < maxFds then some ⟨fd.toNat, bounded⟩
  else none

namespace FdTable

def new : FdTable :=
  {}

def set (table : FdTable) (slot : Fin maxFds) (entry : Option FdEntry) : FdTable :=
  { table with slots := Function.update table.slots slot entry }

/-- A table with the three terminal descriptors. -/
def newProcess (input output error : Nat) : FdTable :=
  let console (id : Nat) (flags : OpenFlags) :=
    some (FdEntry.fromFile (FileObject.newConsole id flags))
  ((new.set 0 (console input 0)).set 1
    (console output OpenFlags.writeOnly)).set 2
    (console error OpenFlags.writeOnly)

def entry? (table : FdTable) (fd : Int) : Option FdEntry :=
  (slotOf fd).bind table.slots

/-- The free slots from `start` on, in their order. -/
def freeSlots (table : FdTable) (start : Nat) : List (Fin maxFds) :=
  (List.finRange maxFds).filter fun slot => decide (start ≤ slot.val) && (table.slots slot).isNone

def allocFdFrom (table : FdTable) (file : FileObject) (minimum : Nat) :
    Except FsError (Fin maxFds × FdTable) :=
  match table.freeSlots (max minimum table.firstDynamic) with
  | [] => .error .tooManyOpenFiles
  | slot :: _ => .ok (slot, table.set slot (some (FdEntry.fromFile file)))

def allocFd (table : FdTable) (file : FileObject) : Except FsError (Fin maxFds × FdTable) :=
  table.allocFdFrom file table.firstDynamic

def allocPair (table : FdTable) (first second : FileObject) :
    Except FsError (Fin maxFds × Fin maxFds × FdTable) :=
  match table.freeSlots table.firstDynamic with
  | firstFd :: secondFd :: _ =>
    .ok (firstFd, secondFd,
      (table.set firstFd (some (FdEntry.fromFile first))).set secondFd
        (some (FdEntry.fromFile second)))
  | _ => .error .tooManyOpenFiles

def close (table : FdTable) (fd : Int) : Except FsError (FileObject × FdTable) :=
  match slotOf fd with
  | none => .error .badFileDescriptor
  | some slot =>
    match table.slots slot with
    | none => .error .badFileDescriptor
    | some entry => .ok (entry.file, table.set slot none)

def dup (table : FdTable) (fd : Int) : Except FsError (Fin maxFds × FdTable) :=
  match table.entry? fd with
  | none => .error .badFileDescriptor
  | some source =>
    match table.freeSlots table.firstDynamic with
    | [] => .error .tooManyOpenFiles
    | target :: _ =>
      .ok
        (target,
          table.set target
            (some
              { file := source.file, closeOnExec := false, rights := source.rights }))

/-- The result carries the displaced file. -/
def dup2 (table : FdTable) (oldFd newFd : Int) : Except FsError (Option FileObject × FdTable) :=
  match table.entry? oldFd with
  | none => .error .badFileDescriptor
  | some source =>
    match slotOf newFd with
    | none => .error .badFileDescriptor
    | some target =>
      if oldFd = newFd then .ok (none, table)
      else
        .ok
          ((table.slots target).map FdEntry.file,
            table.set target
              (some
                { file := source.file, closeOnExec := false, rights := source.rights }))

def setAll (table : FdTable) : List (Fin maxFds × FdEntry) → FdTable
  | [] => table
  | (slot, entry) :: rest => (table.set slot (some entry)).setAll rest

/-- The validation loop of `clone_restricted`, with the entries that its second
loop writes.  `taken` are the targets of the earlier actions. -/
def planActions (table : FdTable) (taken : List (Fin maxFds)) :
    List SpawnFileAction → Except FsError (List (Fin maxFds × FdEntry))
  | [] => .ok []
  | action :: rest =>
    match slotOf action.targetFd with
    | none => .error .badFileDescriptor
    | some target =>
      if target ∈ taken then .error .invalidInput
      else
        match table.entry? action.sourceFd with
        | none => .error .badFileDescriptor
        | some entry =>
          if action.rights &&& ~~~entry.rights ≠ 0 ∨
              (entry.rights &&& ipcTransferRightTransfer = 0 ∧ entry.file.isChannel = false) then
            .error .permissionDenied
          else
            match table.planActions (target :: taken) rest with
            | .error error => .error error
            | .ok plan =>
              .ok
                ((target,
                  { file := entry.file, closeOnExec := false, rights := action.rights }) :: plan)

def cloneRestricted
    (table : FdTable) (actions : Fin spawnRestrictedMaxFileActions → SpawnFileAction)
    (count : Nat) : Except FsError FdTable :=
  let listed := List.ofFn actions
  if spawnRestrictedMaxFileActions < count ∨
      (listed.take count).any (fun action => !action.isValid) = true ∨
      (listed.drop count).any (fun action => !action.isZero) = true then
    .error .invalidInput
  else
    match table.planActions [] (listed.take count) with
    | .error error => .error error
    | .ok plan => .ok (new.setAll plan)

/-- The validation loop of `snapshot_channel_transfers`. -/
def checkRequests (table : FdTable) : List IpcSendTransfer → Except FsError Unit
  | [] => .ok ()
  | request :: rest =>
    match table.entry? request.sourceFd with
    | none => .error .badFileDescriptor
    | some entry =>
      if entry.rights &&& ipcTransferRightTransfer = 0 ∨ request.rights &&& ~~~entry.rights ≠ 0 then
        .error .permissionDenied
      else table.checkRequests rest

def snapshotChannelTransfers
    (table : FdTable) (requests : Fin channelTransferCapacity → IpcSendTransfer)
    (count : Nat) : Except FsError Transfers :=
  let listed := List.ofFn requests
  if channelTransferCapacity < count ∨
      (listed.take count).any (fun request => !request.isValid) = true ∨
      (listed.drop count).any (fun request => !request.isZero) = true then
    .error .invalidInput
  else
    match table.checkRequests (listed.take count) with
    | .error error => .error error
    | .ok () =>
      .ok fun index =>
        if index.val < count then
          (table.entry? (requests index).sourceFd).map fun entry =>
            { file := entry.file, rights := (requests index).rights, tag := (requests index).tag }
        else none

/-- The validation loop of `install_channel_transfers`: the transfers in front
of the first empty place. -/
def checkTransfers (sawEmpty : Bool) :
    List (Option (ChannelTransfer FileObject)) → Except FsError (List (ChannelTransfer FileObject))
  | [] => .ok []
  | none :: rest => checkTransfers true rest
  | some transfer :: rest =>
    if sawEmpty then .error .invalidInput
    else if validDescriptorRights transfer.rights = false ∨
        transfer.rights &&& ~~~transfer.file.initialDescriptorRights ≠ 0 then
      .error .permissionDenied
    else
      match checkTransfers sawEmpty rest with
      | .error error => .error error
      | .ok active => .ok (transfer :: active)

def installedEntry (transfer : ChannelTransfer FileObject) : FdEntry where
  file := transfer.file
  closeOnExec := false
  rights := transfer.rights

def installChannelTransfers (table : FdTable) (transfers : Transfers) :
    Except FsError (List IpcReceiveTransfer × FdTable) :=
  match checkTransfers false (List.ofFn transfers) with
  | .error error => .error error
  | .ok active =>
    let free := (table.freeSlots table.firstDynamic).take active.length
    if free.length ≠ active.length then .error .tooManyOpenFiles
    else
      .ok
        ((free.zip active).map fun (slot, transfer) =>
          { installedFd := slot.val, rights := transfer.rights, tag := transfer.tag },
          table.setAll (free.zip (active.map installedEntry)))

def rollbackChannelTransfers (table : FdTable) : List IpcReceiveTransfer → FdTable
  | [] => table
  | record :: rest =>
    match slotOf record.installedFd with
    | none => table.rollbackChannelTransfers rest
    | some slot => (table.set slot none).rollbackChannelTransfers rest

def closeAll (table : FdTable) : FdTable :=
  { table with slots := fun _ => none }

def closeOnExec (table : FdTable) : FdTable :=
  { table with slots := fun slot => (table.slots slot).filter fun entry => !entry.closeOnExec }

end FdTable

/-! ## Processes and channel queues -/

abbrev ProcessId := Nat

/-- The descriptor tables of all processes and the channel directions, with the
transfer batches that are on their way: taken from a table and not yet sent, or
handed out by a receive. -/
structure World where
  tables : ProcessId → FdTable := fun _ => FdTable.new
  directions : Nat → DirectionState FileObject := fun _ => {}
  batches : List Transfers := []
  issued : List Transfers := []

inductive Operation where
  | spawn (process : ProcessId) (input output error : Nat)
  | allocFd (process : ProcessId) (file : FileObject)
  | allocFdFrom (process : ProcessId) (file : FileObject) (minimum : Nat)
  | allocPair (process : ProcessId) (first second : FileObject)
  | dup (process : ProcessId) (fd : Int)
  | dup2 (process : ProcessId) (oldFd newFd : Int)
  | close (process : ProcessId) (fd : Int)
  | closeAll (process : ProcessId)
  | closeOnExec (process : ProcessId)
  | fork (parent child : ProcessId)
  | cloneRestricted (parent child : ProcessId)
      (actions : Fin spawnRestrictedMaxFileActions → SpawnFileAction) (count : Nat)
  | snapshot (process : ProcessId) (requests : Fin channelTransferCapacity → IpcSendTransfer)
      (count : Nat)
  | act (channel : Nat) (action : Action FileObject)
  | install (process : ProcessId) (batch : Nat)
  | rollback (process : ProcessId) (records : List IpcReceiveTransfer)

namespace World

def setTable (world : World) (process : ProcessId) (table : FdTable) : World :=
  { world with tables := Function.update world.tables process table }

/-- The transfers that a section hands to its caller. -/
def handedOut : Reply FileObject → List Transfers
  | .received pending => [pending.transfers]
  | _ => []

/-- A send carries no transfers or a batch taken from a table. -/
def Admits (world : World) : Action FileObject → Prop
  | .send _ request _ => request.transfers = noTransfers ∨ request.transfers ∈ world.batches
  | _ => True

instance (world : World) : (action : Action FileObject) → Decidable (world.Admits action)
  | .send _ request _ =>
    inferInstanceAs
      (Decidable (request.transfers = noTransfers ∨ request.transfers ∈ world.batches))
  | .beginReceive .. | .copyReceive .. | .finishReceive _ | .cancelReceive _ | .armRead _
  | .armWrite _ | .disarmRead _ | .disarmWrite _ | .closeReceiver | .closeSender => isTrue trivial

/-- A failed operation leaves the world as it is. -/
def setTableOr {Result : Type} (world : World) (process : ProcessId)
    (table : Result → FdTable) : Except FsError Result → World
  | .error _ => world
  | .ok result => world.setTable process (table result)

def step (world : World) : Operation → Option World
  | .spawn process input output error =>
    some (world.setTable process (FdTable.newProcess input output error))
  | .allocFd process file =>
    some (world.setTableOr process Prod.snd ((world.tables process).allocFd file))
  | .allocFdFrom process file minimum =>
    some (world.setTableOr process Prod.snd ((world.tables process).allocFdFrom file minimum))
  | .allocPair process first second =>
    some (world.setTableOr process (fun result => result.2.2)
      ((world.tables process).allocPair first second))
  | .dup process fd => some (world.setTableOr process Prod.snd ((world.tables process).dup fd))
  | .dup2 process oldFd newFd =>
    some (world.setTableOr process Prod.snd ((world.tables process).dup2 oldFd newFd))
  | .close process fd => some (world.setTableOr process Prod.snd ((world.tables process).close fd))
  | .closeAll process => some (world.setTable process (world.tables process).closeAll)
  | .closeOnExec process => some (world.setTable process (world.tables process).closeOnExec)
  | .fork parent child => some (world.setTable child (world.tables parent))
  | .cloneRestricted parent child actions count =>
    some (world.setTableOr child id ((world.tables parent).cloneRestricted actions count))
  | .snapshot process requests count =>
    match (world.tables process).snapshotChannelTransfers requests count with
    | .error _ => some world
    | .ok transfers => some { world with batches := world.batches ++ [transfers] }
  | .act channel action =>
    if world.Admits action then
      let performed := (world.directions channel).perform action
      some
        { world with
          directions := Function.update world.directions channel performed.direction
          issued := world.issued ++ handedOut performed.reply }
    else none
  | .install process batch =>
    world.issued[batch]?.map fun transfers =>
      world.setTableOr process Prod.snd ((world.tables process).installChannelTransfers transfers)
  | .rollback process records =>
    some (world.setTable process ((world.tables process).rollbackChannelTransfers records))

end World

end Xenith.Fs
