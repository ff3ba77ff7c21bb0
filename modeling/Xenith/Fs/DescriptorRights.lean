import Xenith.Fs.Descriptors
import Xenith.Ipc.ChannelFifo

/-!
# Descriptor rights never grow

Rights are held in descriptor entries and in transfers.  Every operation leaves
a holder as it is, opens a file with its initial rights, or derives a holder
from another one of the same file with no more rights.
-/

namespace Xenith.Fs

open Xenith.Ipc
open Function
open World

def Within (rights bound : Rights) : Prop :=
  rights &&& ~~~bound = 0

theorem within_refl (rights : Rights) : Within rights rights := by
  unfold Within
  simp

theorem Within.trans {first second third : Rights} (firstWithin : Within first second)
    (secondWithin : Within second third) : Within first third := by
  ext index bounded
  have firstBit := congrArg (fun rights => rights.getLsbD index) firstWithin
  have secondBit := congrArg (fun rights => rights.getLsbD index) secondWithin
  simp [bounded] at firstBit secondBit ⊢
  intro inFirst
  exact secondBit (firstBit inFirst)

theorem initialDescriptorRights_ne_zero (file : FileObject) : file.initialDescriptorRights ≠ 0 := by
  unfold FileObject.initialDescriptorRights
  split
  · decide
  · decide
  · split <;> split <;> decide

variable {file : FileObject} {transfers : Transfers}

theorem not_transferable_of_channel {rights : Rights} (isChannel : file.isChannel = true)
    (within : Within rights file.initialDescriptorRights) :
    rights &&& ipcTransferRightTransfer = 0 := by
  have backend : file.backend = .channel := by
    simpa [FileObject.isChannel] using isChannel
  have small : Within rights channelDescriptorRights := by
    simpa [FileObject.initialDescriptorRights, backend] using within
  have disjoint :
      ipcTransferRightTransfer = ipcTransferRightTransfer &&& ~~~channelDescriptorRights := by
    decide
  rw [disjoint, BitVec.and_comm ipcTransferRightTransfer, ← BitVec.and_assoc]
  rw [small]
  decide

/-! ## Holders -/

inductive Place where
  | slot (process : ProcessId) (fd : Fin maxFds)
  | batch (number : Nat) (index : Fin channelTransferCapacity)
  | queued (channel : Nat) (cell : Fin channelQueueDepth) (index : Fin channelTransferCapacity)
  | issued (number : Nat) (index : Fin channelTransferCapacity)

def Place.isTransfer : Place → Bool
  | .slot _ _ => false
  | _ => true

structure Held where
  file : FileObject
  rights : Rights
deriving DecidableEq

def FdEntry.held (entry : FdEntry) : Held :=
  ⟨entry.file, entry.rights⟩

def transferHeld (transfer : ChannelTransfer FileObject) : Held :=
  ⟨transfer.file, transfer.rights⟩

def World.holder? (world : World) : Place → Option Held
  | .slot process fd => ((world.tables process).slots fd).map FdEntry.held
  | .batch number index =>
    (world.batches[number]?.bind fun transfers => transfers index).map transferHeld
  | .queued channel cell index =>
    (((world.directions channel).slots cell).transfers index).map transferHeld
  | .issued number index =>
    (world.issued[number]?.bind fun transfers => transfers index).map transferHeld

inductive Opens : Operation → FileObject → Prop where
  | spawn {process input output error id flags} :
      Opens (.spawn process input output error) (FileObject.newConsole id flags)
  | allocFd {process file} : Opens (.allocFd process file) file
  | allocFdFrom {process file minimum} : Opens (.allocFdFrom process file minimum) file
  | allocFirst {process first second} : Opens (.allocPair process first second) first
  | allocSecond {process first second} : Opens (.allocPair process first second) second

/-- The place from which an operation derives what it writes to another
place. -/
inductive Origin (world : World) : Operation → Place → Place → Prop where
  | dup {process fd source target} (named : slotOf fd = some source) :
      Origin world (.dup process fd) (.slot process target) (.slot process source)
  | dup2 {process oldFd newFd source target} (namedOld : slotOf oldFd = some source)
      (namedNew : slotOf newFd = some target) :
      Origin world (.dup2 process oldFd newFd) (.slot process target) (.slot process source)
  | fork {parent child fd} : Origin world (.fork parent child) (.slot child fd) (.slot parent fd)
  | cloneRestricted {parent child actions count} {index : Fin spawnRestrictedMaxFileActions}
      {source target} (active : index.val < count)
      (namedSource : slotOf (actions index).sourceFd = some source)
      (namedTarget : slotOf (actions index).targetFd = some target) :
      Origin world (.cloneRestricted parent child actions count)
        (.slot child target) (.slot parent source)
  | snapshot {process requests count number} {index : Fin channelTransferCapacity} {source}
      (active : index.val < count) (named : slotOf (requests index).sourceFd = some source) :
      Origin world (.snapshot process requests count) (.batch number index) (.slot process source)
  | send {channel task} {request : SendRequest FileObject} {moment cell number index}
      (taken : world.batches[number]? = some request.transfers) :
      Origin world (.act channel (.send task request moment))
        (.queued channel cell index) (.batch number index)
  | receive {channel task nonblocking deadline moment number index} :
      Origin world
        (.act channel (.beginReceive task nonblocking deadline moment)) (.issued number index)
        (.queued channel (world.directions channel).head index)
  | install {process number fd} {index : Fin channelTransferCapacity}
      (free : ((world.tables process).freeSlots
        (world.tables process).firstDynamic)[index.val]? = some fd) :
      Origin world (.install process number) (.slot process fd) (.issued number index)

/-- How an operation accounts for a holder of the world it leaves. -/
inductive Derives (world : World) (operation : Operation) (place : Place) (held : Held) : Prop where
  | kept (same : world.holder? place = some held)
  | opened (opens : Opens operation held.file)
      (initial : held.rights = held.file.initialDescriptorRights)
      (inTable : place.isTransfer = false)
  | derived (source : Place) (earlier : Held) (origin : Origin world operation place source)
      (found : world.holder? source = some earlier) (sameFile : held.file = earlier.file)
      (within : Within held.rights earlier.rights) (nonempty : earlier.rights ≠ 0 → held.rights ≠ 0)
      (transferable : place.isTransfer = true → source.isTransfer = false →
        earlier.rights &&& ipcTransferRightTransfer ≠ 0)

/-! ## The operations on a table -/

theorem slotOf_eq_some
    {table : FdTable} {fd : Int} {entry : FdEntry} (found : table.entry? fd = some entry) :
    ∃ slot, slotOf fd = some slot ∧ table.slots slot = some entry := by
  exact Option.bind_eq_some_iff.mp found

namespace FdTable

variable {table : FdTable} {entry : FdEntry}

theorem planActions_mem {taken : List (Fin maxFds)} {actions : List SpawnFileAction}
    {plan : List (Fin maxFds × FdEntry)} {fd : Fin maxFds}
    (planned : table.planActions taken actions = .ok plan) (member : (fd, entry) ∈ plan) :
    ∃ action ∈ actions, slotOf action.targetFd = some fd ∧
      ∃ source, table.entry? action.sourceFd = some source ∧
        entry.file = source.file ∧ entry.rights = action.rights ∧
        Within action.rights source.rights := by
  fun_induction planActions table taken actions generalizing plan with
  | case1 =>
    cases planned
    cases member
  | case7 taken action rest target named _ source found permitted remaining restPlanned ih =>
    cases planned
    rcases List.mem_cons.mp member with first | later
    · cases first
      refine ⟨action, List.mem_cons_self .., named, source, found, rfl, rfl, ?_⟩
      by_contra exceeding
      exact permitted (Or.inl exceeding)
    · obtain ⟨other, inRest, described⟩ := ih restPlanned later
      exact ⟨other, List.mem_cons_of_mem _ inRest, described⟩
  | _ => cases planned

theorem checkRequests_mem {requests : List IpcSendTransfer} {request : IpcSendTransfer}
    (checked : table.checkRequests requests = .ok ()) (member : request ∈ requests) :
    ∃ source, table.entry? request.sourceFd = some source ∧
      source.rights &&& ipcTransferRightTransfer ≠ 0 ∧
      Within request.rights source.rights := by
  fun_induction checkRequests table requests with
  | case1 => cases member
  | case4 _ _ source found permitted ih =>
    rcases List.mem_cons.mp member with isFirst | later
    · subst isFirst
      obtain ⟨transferable, within⟩ := not_or.mp permitted
      exact ⟨source, found, transferable, of_not_not within⟩
    · exact ih checked later
  | _ => cases checked

variable {transfers : List (Option (ChannelTransfer FileObject))}

variable {active : List (ChannelTransfer FileObject)}

/-- Nothing is active behind an empty place. -/
theorem checkTransfers_true (checked : checkTransfers true transfers = .ok active) :
    active = [] := by
  induction transfers generalizing active with
  | nil =>
    cases checked
    rfl
  | cons first _ ih =>
    cases first with
    | none => exact ih checked
    | some => cases checked

/-- The active transfers stand in front, with valid rights. -/
theorem checkTransfers_getElem? (checked : checkTransfers false transfers = .ok active)
    {position : Nat} {transfer : ChannelTransfer FileObject}
    (found : active[position]? = some transfer) :
    transfers[position]? = some (some transfer) := by
  induction transfers generalizing active position with
  | nil =>
    cases checked
    cases found
  | cons first _ ih =>
    cases first with
    | none =>
      rw [checkTransfers_true checked] at found
      cases found
    | some =>
      simp only [checkTransfers, Bool.false_eq_true, if_false] at checked
      split at checked
      · cases checked
      · split at checked
        · cases checked
        · next remaining restChecked =>
          cases checked
          cases position with
          | zero =>
            cases found
            rfl
          | succ position => exact ih restChecked found

end FdTable

/-! ## The operations on a direction -/

variable {direction : DirectionState FileObject} {action : Action FileObject}

/-- A section leaves transfers in their slots, clears them, or writes those of
the message it sends. -/
theorem transfers_perform {cell : Fin channelQueueDepth} {index : Fin channelTransferCapacity}
    {transfer : ChannelTransfer FileObject}
    (found : ((direction.perform action).direction.slots cell).transfers index = some transfer) :
    (direction.slots cell).transfers index = some transfer ∨
      ∃ task request moment, action = .send task request moment ∧
        request.transfers index = some transfer := by
  generalize performed : direction.perform action = result at found
  cases DirectionState.outcome performed with
  | @published task request moment _ _ _ _ _ =>
    simp only at found
    by_cases same : cell = direction.tail
    · rw [same, update_self] at found
      exact Or.inr ⟨task, request, moment, rfl, found⟩
    · rw [update_of_ne same] at found
      exact Or.inl found
  | finished =>
    simp only [DirectionState.retireFront, DirectionState.clearSlot] at found
    by_cases same : cell = direction.head
    · rw [same, update_self] at found
      cases found
    · rw [update_of_ne same] at found
      exact Or.inl found
  | receiverClosed =>
    simp only [DirectionState.closeReceiver] at found
    rcases direction.clearQueued_slots direction.len cell with
      cleared | ⟨_, kept⟩
    · rw [cleared] at found
      cases found
    · rw [kept] at found
      exact Or.inl found
  | _ => exact Or.inl found

/-- A receive hands out the transfers of the first slot. -/
theorem transfers_handedOut (member : transfers ∈ handedOut (direction.perform action).reply) :
    transfers = (direction.slots direction.head).transfers ∧ ∃ task nonblocking deadline moment,
      action = .beginReceive task nonblocking deadline moment := by
  generalize performed : direction.perform action = result at member
  cases DirectionState.outcome performed with
  | reserved => exact ⟨List.mem_singleton.mp member, _, _, _, _, rfl⟩
  | @readUnarmed task reply signal | @writeUnarmed task reply signal =>
    cases reply <;> cases signal <;> cases member
  | _ => cases member

/-! ## Every operation derives its holders -/

section Steps

variable {world : World} {operation : Operation} {process : ProcessId} {place : Place} {held : Held}

/-- Every entry of a table that an operation writes is accounted for. -/
def Accounts (world : World) (operation : Operation) (process : ProcessId)
    (table : FdTable) : Prop :=
  ∀ fd entry, table.slots fd = some entry → Derives world operation (.slot process fd) entry.held

/-- An operation that writes one table leaves every other place alone. -/
theorem derives_setTable {table : FdTable} (accounts : Accounts world operation process table)
    (found : (world.setTable process table).holder? place = some held) :
    Derives world operation place held := by
  cases place with
  | slot owner fd =>
    by_cases same : owner = process
    · subst same
      simp only [holder?, setTable, update_self] at found
      obtain ⟨entry, inSlot, isHeld⟩ := Option.map_eq_some_iff.mp found
      rw [← isHeld]
      exact accounts fd entry inSlot
    · simp only [holder?, setTable, update_of_ne same] at found
      exact .kept found
  | batch number index | queued channel cell index | issued number index => exact .kept found

theorem derives_setTableOr
    {Result : Type} {table : Result → FdTable} {outcome : Except FsError Result}
    (accounts : ∀ result, outcome = .ok result → Accounts world operation process (table result))
    (found : (world.setTableOr process table outcome).holder? place = some held) :
    Derives world operation place held := by
  cases outcome with
  | error error => exact .kept found
  | ok result => exact derives_setTable (accounts result rfl) found

theorem holder_of_entry
    {fd : Fin maxFds} {entry : FdEntry} (found : (world.tables process).slots fd = some entry) :
    world.holder? (.slot process fd) = some entry.held := by
  simp [holder?, found]

theorem accounts_kept : Accounts world operation process (world.tables process) :=
  fun _ _ found => Derives.kept (holder_of_entry found)

theorem accounts_new : Accounts world operation process FdTable.new := by
  intro fd entry found
  cases found

section Accounts

variable {table : FdTable}

variable (accounts : Accounts world operation process table)

include accounts

theorem Accounts.set {slot : Fin maxFds} {written : Option FdEntry}
    (new :
      ∀ entry, written = some entry → Derives world operation (.slot process slot) entry.held) :
    Accounts world operation process (table.set slot written) := by
  intro fd entry found
  simp only [FdTable.set] at found
  by_cases same : fd = slot
  · subst same
    rw [update_self] at found
    exact new entry found
  · rw [update_of_ne same] at found
    exact accounts fd entry found

theorem Accounts.open {slot : Fin maxFds} (opens : Opens operation file) :
    Accounts world operation process (table.set slot (some (FdEntry.fromFile file))) := by
  apply accounts.set
  rintro _ ⟨⟩
  exact .opened opens rfl rfl

theorem Accounts.setAll {plan : List (Fin maxFds × FdEntry)}
    (new : ∀ fd entry, (fd, entry) ∈ plan → Derives world operation (.slot process fd) entry.held) :
    Accounts world operation process (table.setAll plan) := by
  induction plan generalizing table with
  | nil => exact accounts
  | cons _ _ ih =>
    apply ih
    · apply accounts.set
      rintro _ ⟨⟩
      exact new _ _ (List.mem_cons_self ..)
    · intro fd entry member
      exact new fd entry (List.mem_cons_of_mem _ member)

theorem Accounts.rollback (records : List IpcReceiveTransfer) :
    Accounts world operation process (table.rollbackChannelTransfers records) := by
  fun_induction FdTable.rollbackChannelTransfers with
  | case1 => exact accounts
  | case2 table record rest _ ih => exact ih accounts
  | case3 table record rest _ _ ih => exact ih (accounts.set nofun)

end Accounts

theorem copied_slot {owner process : ProcessId} {source target : Fin maxFds} {entry copy : FdEntry}
    (origin : Origin world operation (.slot process target) (.slot owner source))
    (found : (world.tables owner).slots source = some entry) (sameFile : copy.file = entry.file)
    (sameRights : copy.rights = entry.rights) :
    Derives world operation (.slot process target) copy.held := by
  refine .derived _ _ origin (holder_of_entry found) sameFile ?_ ?_ nofun
  · simp only [FdEntry.held, sameRights]
    exact within_refl _
  · intro nonempty
    simp only [FdEntry.held, sameRights]
    exact nonempty

variable {result : Fin maxFds × FdTable}

theorem accounts_allocFdFrom {minimum : Nat} (opens : Opens operation file)
    (allocated : (world.tables process).allocFdFrom file minimum = .ok result) :
    Accounts world operation process result.2 := by
  revert allocated
  fun_cases FdTable.allocFdFrom with
  | case1 => nofun
  | case2 =>
    rintro ⟨⟩
    exact accounts_kept.open opens

theorem accounts_allocPair {first second : FileObject} {result : Fin maxFds × Fin maxFds × FdTable}
    (allocated : (world.tables process).allocPair first second = .ok result) :
    Accounts world (.allocPair process first second) process result.2.2 := by
  revert allocated
  fun_cases FdTable.allocPair with
  | case1 =>
    rintro ⟨⟩
    exact (accounts_kept.open Opens.allocFirst).open Opens.allocSecond
  | case2 => nofun

theorem accounts_dup {number : Int} (duplicated : (world.tables process).dup number = .ok result) :
    Accounts world (.dup process number) process result.2 := by
  revert duplicated
  fun_cases FdTable.dup with
  | case3 _ isSource =>
    rintro ⟨⟩
    obtain ⟨_, named, inSlot⟩ := slotOf_eq_some isSource
    apply accounts_kept.set
    rintro _ ⟨⟩
    exact copied_slot (Origin.dup named) inSlot rfl rfl
  | _ => nofun

theorem accounts_dup2 {oldFd newFd : Int} {result : Option FileObject × FdTable}
    (duplicated : (world.tables process).dup2 oldFd newFd = .ok result) :
    Accounts world (.dup2 process oldFd newFd) process result.2 := by
  revert duplicated
  fun_cases FdTable.dup2 with
  | case3 =>
    rintro ⟨⟩
    exact accounts_kept
  | case4 _ isSource _ namedTarget =>
    rintro ⟨⟩
    obtain ⟨_, named, inSlot⟩ := slotOf_eq_some isSource
    apply accounts_kept.set
    rintro _ ⟨⟩
    exact copied_slot (Origin.dup2 named namedTarget) inSlot rfl rfl
  | _ => nofun

theorem accounts_close {number : Int} {result : FileObject × FdTable}
    (closed : (world.tables process).close number = .ok result) :
    Accounts world operation process result.2 := by
  revert closed
  fun_cases FdTable.close with
  | case3 =>
    rintro ⟨⟩
    exact accounts_kept.set nofun
  | _ => nofun

variable {count number channel : Nat} {next : World}

theorem exists_index_of_mem_take {Item : Type} {size : Nat} {items : Fin size → Item} {item : Item}
    (member : item ∈ (List.ofFn items).take count) :
    ∃ index : Fin size, index.val < count ∧ items index = item := by
  obtain ⟨position, bounded, isItem⟩ := List.mem_take_iff_getElem.mp member
  obtain ⟨active, inside⟩ := lt_min_iff.mp bounded
  rw [List.length_ofFn] at inside
  refine ⟨⟨position, inside⟩, active, ?_⟩
  simpa using isItem

/-- What the checks of a batch leave of its items. -/
theorem valid_of_mem
    {Item : Type} {isValid : Item → Bool} {items : List Item} {item : Item} {early late : Prop}
    (passed : ¬ (early ∨ items.any (fun item => !isValid item) = true ∨ late))
    (member : item ∈ items) : isValid item = true := by
  by_contra invalid
  apply passed
  refine Or.inr (Or.inl (List.any_eq_true.mpr ⟨item, member, ?_⟩))
  simpa using invalid

theorem accounts_cloneRestricted
    {parent child : ProcessId} {actions : Fin spawnRestrictedMaxFileActions → SpawnFileAction}
    {result : FdTable} (cloned : (world.tables parent).cloneRestricted actions count = .ok result) :
    Accounts world (.cloneRestricted parent child actions count) child result := by
  revert cloned
  fun_cases FdTable.cloneRestricted with
  | case3 _ valid _ planned =>
    rintro ⟨⟩
    apply accounts_new.setAll
    intro fd entry inPlan
    obtain ⟨action, member, namedTarget, source, isSource, sameFile,
      sameRights, within⟩ := FdTable.planActions_mem planned inPlan
    obtain ⟨_, namedSource, inSlot⟩ := slotOf_eq_some isSource
    obtain ⟨index, active, isAction⟩ := exists_index_of_mem_take member
    subst isAction
    have isValid := valid_of_mem valid member
    have nonempty : (actions index).rights ≠ 0 := by
      simp only [SpawnFileAction.isValid, Bool.and_eq_true, decide_eq_true_eq] at isValid
      exact isValid.1.1.2
    refine .derived _ _
      (Origin.cloneRestricted active namedSource namedTarget)
      (holder_of_entry inSlot) sameFile ?_ ?_ nofun
    · simp only [FdEntry.held, sameRights]
      exact within
    · intro _
      simp only [FdEntry.held, sameRights]
      exact nonempty
  | _ => nofun

theorem passed_on {source : Place} (origin : Origin world operation place source)
    (found : world.holder? source = some held) (fromTransfer : source.isTransfer = true) :
    Derives world operation place held := by
  refine .derived _ _ origin found rfl (within_refl _) (fun nonempty => nonempty) ?_
  rw [fromTransfer]
  exact fun _ => nofun

theorem accounts_install
    (issued : world.issued[number]? = some transfers) {result : List IpcReceiveTransfer × FdTable}
    (installed : (world.tables process).installChannelTransfers transfers = .ok result) :
    Accounts world (.install process number) process result.2 := by
  revert installed
  fun_cases FdTable.installChannelTransfers with
  | case3 _ checked =>
    rintro ⟨⟩
    apply accounts_kept.setAll
    intro fd entry inPlan
    obtain ⟨position, isPair⟩ := List.mem_iff_getElem?.mp inPlan
    obtain ⟨isFree, isEntry⟩ := List.getElem?_zip_eq_some.mp isPair
    rw [List.getElem?_map] at isEntry
    obtain ⟨transfer, isActive, isInstalled⟩ := Option.map_eq_some_iff.mp isEntry
    have isTransfer := FdTable.checkTransfers_getElem? checked isActive
    obtain ⟨bounded, atPosition⟩ := List.getElem?_eq_some_iff.mp isTransfer
    rw [List.getElem_ofFn] at atPosition
    have isHolder :
        world.holder? (.issued number ⟨position, bounded⟩) = some (transferHeld transfer) := by
      simp only [holder?, issued, Option.bind_some]
      rw [atPosition, Option.map_some]
    have free :
        ((world.tables process).freeSlots
          (world.tables process).firstDynamic)[position]? = some fd := by
      rw [List.getElem?_take] at isFree
      split at isFree
      · exact isFree
      · cases isFree
    subst isInstalled
    exact passed_on (Origin.install free) isHolder rfl
  | _ => nofun

variable {transfer : ChannelTransfer FileObject} {index : Fin channelTransferCapacity}

variable {requests : Fin channelTransferCapacity → IpcSendTransfer}

theorem derives_snapshot
    (taken : (world.tables process).snapshotChannelTransfers requests count = .ok transfers)
    (found : transfers index = some transfer) :
    Derives world (.snapshot process requests count) (.batch number index)
      (transferHeld transfer) := by
  revert taken
  fun_cases FdTable.snapshotChannelTransfers with
  | case3 _ valid checked =>
    rintro ⟨⟩
    simp only at found
    split at found
    · next active =>
      have member : requests index ∈ (List.ofFn requests).take count := by
        rw [List.mem_take_iff_getElem]
        refine ⟨index.val, ?_, List.getElem_ofFn _⟩
        exact lt_min active index.isLt
      obtain ⟨_, isSource, transferable, within⟩ := FdTable.checkRequests_mem checked member
      obtain ⟨_, named, inSlot⟩ := slotOf_eq_some isSource
      rw [isSource] at found
      obtain rfl := Option.some.inj found
      have isValid := valid_of_mem valid member
      have nonempty : (requests index).rights ≠ 0 := by
        simp only [IpcSendTransfer.isValid, Bool.and_eq_true, decide_eq_true_eq] at isValid
        exact isValid.1.2
      exact .derived _ _ (Origin.snapshot active named)
        (holder_of_entry inSlot) rfl within (fun _ => nonempty)
        (fun _ _ => transferable)
    · cases found
  | _ => nofun

variable {action : Action FileObject}

theorem derives_queued {owner : Nat} (admitted : world.Admits action) {cell : Fin channelQueueDepth}
    (found : ((update world.directions channel
      ((world.directions channel).perform action).direction owner).slots
        cell).transfers index = some transfer) :
    Derives world (.act channel action) (.queued owner cell index) (transferHeld transfer) := by
  by_cases same : owner = channel
  · subst same
    rw [update_self] at found
    rcases transfers_perform found with
      kept | ⟨task, request, moment, isSend, isTransfer⟩
    · apply Derives.kept
      simp [holder?, kept]
    · subst isSend
      rcases admitted with none | fromBatch
      · rw [none] at isTransfer
        cases isTransfer
      · obtain ⟨number, isBatch⟩ := List.mem_iff_getElem?.mp fromBatch
        have isHolder : world.holder? (.batch number index) = some (transferHeld transfer) := by
          simp [holder?, isBatch, isTransfer]
        exact passed_on (Origin.send isBatch) isHolder rfl
  · rw [update_of_ne same] at found
    apply Derives.kept
    simp [holder?, found]

theorem derives_issued
    (issued : (world.issued ++
      handedOut ((world.directions channel).perform action).reply)[number]? =
      some transfers)
    (found : transfers index = some transfer) :
    Derives world (.act channel action) (.issued number index) (transferHeld transfer) := by
  rw [List.getElem?_append] at issued
  split at issued
  · apply Derives.kept
    simp [holder?, issued, found]
  · obtain ⟨isFront, _, _, _, _, isReceive⟩ := transfers_handedOut (List.mem_of_getElem? issued)
    subst isReceive
    have isHolder :
        world.holder? (.queued channel (world.directions channel).head index) =
          some (transferHeld transfer) := by
      simp only [holder?]
      rw [← isFront, found, Option.map_some]
    exact passed_on Origin.receive isHolder rfl

theorem derives_act (taken : world.step (.act channel action) = some next)
    (found : next.holder? place = some held) :
    Derives world (.act channel action) place held := by
  simp only [step] at taken
  split at taken
  · next admitted =>
    cases taken
    cases place with
    | slot process fd | batch number index => exact .kept found
    | queued _ _ index =>
      obtain ⟨transfer, inSlot, isHeld⟩ := Option.map_eq_some_iff.mp found
      rw [← isHeld]
      exact derives_queued admitted inSlot
    | issued number index =>
      obtain ⟨transfer, inBatch, isHeld⟩ := Option.map_eq_some_iff.mp found
      obtain ⟨_, isIssued, isTransfer⟩ := Option.bind_eq_some_iff.mp inBatch
      rw [← isHeld]
      exact derives_issued isIssued isTransfer
  · cases taken

theorem derives_snapshot_step (taken : world.step (.snapshot process requests count) = some next)
    (found : next.holder? place = some held) :
    Derives world (.snapshot process requests count) place held := by
  simp only [step] at taken
  split at taken
  · cases taken
    exact .kept found
  · next transfers snapshot =>
    cases taken
    cases place with
    | slot process fd | queued channel cell index
    | issued number index => exact .kept found
    | batch number index =>
      obtain ⟨_, inBatch, isHeld⟩ := Option.map_eq_some_iff.mp found
      obtain ⟨batch, isBatch, isTransfer⟩ := Option.bind_eq_some_iff.mp inBatch
      rw [← isHeld]
      rw [List.getElem?_append] at isBatch
      split at isBatch
      · apply Derives.kept
        simp [holder?, isBatch, isTransfer]
      · have isNew := List.mem_singleton.mp (List.mem_of_getElem? isBatch)
        subst isNew
        exact derives_snapshot snapshot isTransfer

/-- What a place holds after an operation derives from what was held before. -/
theorem derives_step
    (taken : world.step operation = some next) (found : next.holder? place = some held) :
    Derives world operation place held := by
  cases operation with
  | spawn process input output error =>
    cases taken
    have opened {id : Nat} {flags : OpenFlags} :
        Opens (.spawn process input output error) (FileObject.newConsole id flags) :=
      Opens.spawn
    exact derives_setTable (((accounts_new.open opened).open opened).open opened) found
  | allocFd process file =>
    cases taken
    exact derives_setTableOr (fun _ => accounts_allocFdFrom Opens.allocFd) found
  | allocFdFrom process file =>
    cases taken
    exact derives_setTableOr (fun _ => accounts_allocFdFrom Opens.allocFdFrom) found
  | allocPair process =>
    cases taken
    exact derives_setTableOr (fun _ => accounts_allocPair) found
  | dup process fd =>
    cases taken
    exact derives_setTableOr (fun _ => accounts_dup) found
  | dup2 process =>
    cases taken
    exact derives_setTableOr (fun _ => accounts_dup2) found
  | close process fd =>
    cases taken
    exact derives_setTableOr (fun _ => accounts_close) found
  | closeAll process =>
    cases taken
    refine derives_setTable ?_ found
    intro fd entry inSlot
    cases inSlot
  | closeOnExec process =>
    cases taken
    refine derives_setTable ?_ found
    intro fd entry inSlot
    exact accounts_kept fd entry (Option.filter_eq_some_iff.mp inSlot).1
  | fork parent child =>
    cases taken
    refine derives_setTable ?_ found
    intro fd entry inSlot
    exact copied_slot Origin.fork inSlot rfl rfl
  | cloneRestricted parent child _ count =>
    cases taken
    exact derives_setTableOr (fun _ => accounts_cloneRestricted) found
  | snapshot process _ count => exact derives_snapshot_step taken found
  | act => exact derives_act taken found
  | install process =>
    obtain ⟨_, issued, same⟩ := Option.map_eq_some_iff.mp taken
    subst same
    exact derives_setTableOr (fun _ => accounts_install issued) found
  | rollback process records =>
    cases taken
    exact derives_setTable (accounts_kept.rollback records) found

end Steps

/-! ## The theorem -/

/-- What holds of every holder: its rights are not empty, they are initial
rights of its file, and a transfer does not refer to a channel. -/
structure Held.Sound (held : Held) (place : Place) : Prop where
  nonempty : held.rights ≠ 0
  initial : Within held.rights held.file.initialDescriptorRights
  noChannel : place.isTransfer = true → held.file.isChannel = false

def World.Sound (world : World) : Prop :=
  ∀ place held, world.holder? place = some held → held.Sound place

theorem sound_initial : ({} : World).Sound := by
  intro place held found
  cases place <;> cases found

theorem World.Sound.of_derives
    {world : World} (sound : world.Sound) {operation : Operation} {place : Place} {held : Held}
    (derives : Derives world operation place held) : held.Sound place := by
  cases derives with
  | kept same => exact sound place held same
  | opened _ initial inTable =>
    refine ⟨?_, ?_, ?_⟩
    · rw [initial]
      exact initialDescriptorRights_ne_zero _
    · rw [initial]
      exact within_refl _
    · intro isTransfer
      rw [inTable] at isTransfer
      cases isTransfer
  | derived source earlier _ found sameFile within nonempty transferable =>
    have sourceSound := sound source earlier found
    refine ⟨nonempty sourceSound.nonempty, ?_, ?_⟩
    · rw [sameFile]
      exact within.trans sourceSound.initial
    · intro isTransfer
      rw [sameFile]
      cases fromTransfer : source.isTransfer with
      | true => exact sourceSound.noChannel fromTransfer
      | false =>
        by_contra notChannel
        have isChannel : earlier.file.isChannel = true := by
          simpa using notChannel
        exact transferable isTransfer fromTransfer
          (not_transferable_of_channel isChannel sourceSound.initial)

/-- **Descriptor rights never grow.**  After every sequence of operations, every
descriptor entry and every transfer has a nonempty set of rights among the
initial rights of its file; no channel endpoint has the right to be
transferred, and no transfer refers to a channel.  Every further operation
keeps a holder, opens a file with its initial rights, or derives a holder from
its origin with no more rights. -/
theorem descriptor_rights_never_grow (operations : List Operation) (final : World)
    (reached : Execution.exec step {} operations = some final) :
    (∀ place held, final.holder? place = some held →
      held.rights ≠ 0 ∧
        Within held.rights held.file.initialDescriptorRights ∧
        (held.file.isChannel = true → held.rights &&& ipcTransferRightTransfer = 0) ∧
        (place.isTransfer = true → held.file.isChannel = false)) ∧
      ∀ operation next, final.step operation = some next →
        ∀ place held, next.holder? place = some held → Derives final operation place held := by
  have sound : final.Sound := by
    refine Execution.invariant_of_exec ?_ sound_initial reached
    intro world operation next sound taken place held found
    exact sound.of_derives (derives_step taken found)
  constructor
  · intro place held found
    have heldSound := sound place held found
    refine ⟨heldSound.nonempty, heldSound.initial, ?_, heldSound.noChannel⟩
    intro isChannel
    exact not_transferable_of_channel isChannel heldSound.initial
  · intro operation next taken place held found
    exact derives_step taken found

def sharedFile : FileObject where
  id := 7
  backend := .sharedMemory
  flags := OpenFlags.readWrite

def channelFile : FileObject where
  id := 8
  backend := .channel
  flags := OpenFlags.readWrite

/-- Descriptor 0 with the rights to read and to transfer. -/
def readOnlyRequest (index : Fin channelTransferCapacity) : IpcSendTransfer :=
  if index = 0 then ⟨0, 9#32, 5⟩ else ⟨0, 0, 0⟩

def readOnlyTransfers : Transfers := fun index =>
  if index = 0 then some ⟨sharedFile, 9#32, 5⟩ else none

def carrier : SendRequest FileObject where
  length := 0
  transfers := readOnlyTransfers
  nonblocking := true
  deadline := none
  copy := fun payload => (payload, .ok ())

/-- Descriptor 1, a channel endpoint, for writing only. -/
def writeEndpoint (index : Fin spawnRestrictedMaxFileActions) : SpawnFileAction :=
  if index = 0 then ⟨1, 4, 2#32, 0⟩ else ⟨0, 0, 0, 0⟩

def crossing : List Operation :=
  [ .allocFd 1 sharedFile, .allocFd 1 channelFile,
    .snapshot 1 readOnlyRequest 1, .act 0 (.send 1 carrier ⟨false, 0⟩),
    .act 0 (.beginReceive 2 true none ⟨false, 0⟩),
    .install 2 0, .dup 2 0, .cloneRestricted 1 3 writeEndpoint 1 ]

theorem crossing_never_grows :
    ∃ final, Execution.exec step {} crossing = some final ∧
      final.holder? (.slot 2 1) = some ⟨sharedFile, 9#32⟩ ∧
      final.holder? (.slot 3 4) = some ⟨channelFile, 2#32⟩ ∧
      Within 9#32 sharedFile.initialDescriptorRights ∧
      2#32 &&& ipcTransferRightTransfer = 0 := by
  refine Execution.exists_reached (by decide +kernel) fun final reached => ?_
  have installed : final.holder? (.slot 2 1) = some ⟨sharedFile, 9#32⟩ :=
    Execution.of_reached reached (by decide +kernel)
  have granted : final.holder? (.slot 3 4) = some ⟨channelFile, 2#32⟩ :=
    Execution.of_reached reached (by decide +kernel)
  obtain ⟨sound, _⟩ := descriptor_rights_never_grow crossing final reached
  exact ⟨installed, granted, (sound _ _ installed).2.1, (sound _ _ granted).2.2.1 rfl⟩

end Xenith.Fs
