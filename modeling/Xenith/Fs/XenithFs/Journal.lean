import Xenith.Fs.Format.Journal
import Xenith.Lib.BlockProgram

/-!
# The redo journal of XenithFS

`commit_updates` and `replay_journal` of `kernel/src/fs/xenithfs/mod.rs` as
programs over the block device.
-/

namespace Xenith.Fs.XenithFs

open Xenith.BlockProgram
open Xenith.Bytes
open Xenith.Fs.Format

inductive XenithFsError where
  | io
  | badSuperblock (error : SuperblockError)
  | badJournal
  | checksum
  | corruptInode
  | corruptExtent
  | corruptDirectory
  | invalidInode (number : Nat)
  | noSpace
  | transactionTooLarge
  | overflow
  | unsupported
deriving DecidableEq, Repr

def XenithFsError.ofJournal : JournalError → XenithFsError
  | .badChecksum => .checksum
  | .tooManyDescriptors => .transactionTooLarge
  | .badMagic => .badJournal
  | .badState => .badJournal
  | .invalidTarget => .badJournal

/-- A program over blocks that ends with a value or an error. -/
def Store (Value : Type) : Type :=
  Program Block (Except XenithFsError Value)

namespace Store

variable {Value Next : Type}

def andThen (first : Store Value) (next : Value → Store Next) : Store Next :=
  Program.bind first fun result =>
    match result with
    | .error error => Program.done (.error error)
    | .ok value => next value

instance : Monad Store where
  pure value := Program.done (.ok value)
  bind := andThen

def fail (error : XenithFsError) : Store Value :=
  Program.done (.error error)

def ofExcept (result : Except XenithFsError Value) : Store Value :=
  Program.done result

end Store

/-- Sectors of 512 bytes in a block. -/
def sectorsPerBlock : Nat := 8

def readDevice (block : Nat) : Store Block :=
  Program.read block fun data => Program.done (.ok data)

def writeDevice (block : Nat) (data : Block) : Store Unit :=
  Program.write block data fun succeeded => Program.done (if succeeded then .ok () else .error .io)

def readBlock (block : Nat) : Store Block :=
  if block * sectorsPerBlock < 2 ^ 64 then readDevice block
  else Store.fail .overflow

def writeBlock (block : Nat) (data : Block) : Store Unit :=
  if block * sectorsPerBlock < 2 ^ 64 then writeDevice block data
  else Store.fail .overflow

def flushDevice : Store Unit :=
  Program.flush fun succeeded => Program.done (if succeeded then .ok () else .error .io)

structure BlockUpdate where
  target : Nat
  data : Block

def badTarget (superblock : Superblock) (target : Nat) : Bool :=
  decide (target = 0) || decide (superblock.totalBlocks ≤ target) ||
    superblock.containsJournalBlock target

def encodeHeader (header : JournalHeader) : Except XenithFsError Block :=
  header.encode.mapError XenithFsError.ofJournal

def descriptorOf (update : BlockUpdate) : JournalDescriptor where
  targetBlock := update.target
  checksum := crc32 (window update.data 0 blockSize)

/-- Copy the updates to the journal, from the payload block `block` on. -/
def writePayload : Nat → List BlockUpdate → Store Unit
  | _, [] => pure ()
  | block, update :: rest => do
      writeBlock block update.data
      writePayload (block + 1) rest

def writeHome : List BlockUpdate → Store Unit
  | [] => pure ()
  | update :: rest => do
      writeBlock update.target update.data
      writeHome rest

/-- Commit the updates and return the sequence number of the state. -/
def commitUpdates (superblock : Superblock) (stateSequence : UInt64)
    (updates : List BlockUpdate) : Store UInt64 :=
  if updates = [] then pure stateSequence
  else if superblock.journalBlocks ≤ updates.length then Store.fail .transactionTooLarge
  else if updates.any (fun update => badTarget superblock update.target) then Store.fail .badJournal
  else do
    let sequence := stateSequence + 1
    writePayload (superblock.journalStart + 1) updates
    flushDevice
    let prepared ← Store.ofExcept (encodeHeader ⟨true, sequence, updates.map descriptorOf⟩)
    writeBlock superblock.journalStart prepared
    flushDevice
    writeHome updates
    flushDevice
    let clean ← Store.ofExcept (encodeHeader (JournalHeader.clean sequence))
    writeBlock superblock.journalStart clean
    flushDevice
    pure sequence

/-- Copy the payload to the home blocks, from the payload block `block` on. -/
def replayPayload (superblock : Superblock) : Nat → List JournalDescriptor → Store Unit
  | _, [] => pure ()
  | block, descriptor :: rest =>
    if badTarget superblock descriptor.targetBlock then Store.fail .badJournal
    else do
      let payload ← readBlock block
      if crc32 (window payload 0 blockSize) ≠ descriptor.checksum then Store.fail .checksum
      else do
        writeBlock descriptor.targetBlock payload
        replayPayload superblock (block + 1) rest

/-- The replay from a parsed header on. -/
def replayHeader (superblock : Superblock) (header : JournalHeader) : Store UInt64 :=
  if superblock.journalBlocks ≤ header.descriptors.length then Store.fail .badJournal
  else if header.prepared then do
    replayPayload superblock (superblock.journalStart + 1) header.descriptors
    flushDevice
    let clean ← Store.ofExcept (encodeHeader (JournalHeader.clean header.sequence))
    writeBlock superblock.journalStart clean
    flushDevice
    pure (max header.sequence (UInt64.ofNat superblock.sequence))
  else pure (max header.sequence (UInt64.ofNat superblock.sequence))

def replayJournal (superblock : Superblock) : Store UInt64 := do
  let block ← readBlock superblock.journalStart
  let header ← Store.ofExcept ((JournalHeader.parse block).mapError XenithFsError.ofJournal)
  replayHeader superblock header

variable {post : Unit → Disk Block → Prop}

namespace Store

variable {Value Next : Type} {faulty : Prop} {crash : Disk Block → Prop} {disk : Disk Block}

/-- The disk meets `crash` throughout; the program ends with a value that
meets `post`, or with an error in a state that meets `failed`. -/
def Meets (faulty : Prop) (crash : Disk Block → Prop)
    (post : Value → Disk Block → Prop) (failed : XenithFsError → Disk Block → Prop)
    (program : Store Value) (disk : Disk Block) : Prop :=
  Program.Meets faulty crash
    (fun result disk =>
      match result with
      | .ok value => post value disk
      | .error error => failed error disk)
    program disk

variable {failed : XenithFsError → Disk Block → Prop}

theorem Meets.mono {weakerCrash : Disk Block → Prop} {post weakerPost : Value → Disk Block → Prop}
    {weakerFailed : XenithFsError → Disk Block → Prop} {program : Store Value}
    (meets : Meets faulty crash post failed program disk)
    (weakenCrash : ∀ disk, crash disk → weakerCrash disk)
    (weakenPost : ∀ value disk, crash disk → post value disk → weakerPost value disk)
    (weakenFailed : ∀ error disk, crash disk → failed error disk → weakerFailed error disk) :
    Meets faulty weakerCrash weakerPost weakerFailed program disk := by
  apply Program.Meets.mono meets weakenCrash
  intro result after crashes holds
  cases result with
  | ok value => exact weakenPost value after crashes holds
  | error error => exact weakenFailed error after crashes holds

theorem meets_pure {post : Value → Disk Block → Prop} {value : Value}
    (crashes : crash disk) (holds : post value disk) :
    Meets faulty crash post failed (pure value) disk :=
  ⟨crashes, holds⟩

theorem meets_ofExcept_ok {post : Value → Disk Block → Prop} {result : Except XenithFsError Value}
    {value : Value} (isOk : result = .ok value) (crashes : crash disk) (holds : post value disk) :
    Meets faulty crash post failed (ofExcept result) disk := by
  rw [isOk]
  exact ⟨crashes, holds⟩

theorem meets_bind
    {first : Store Value} {next : Value → Store Next} {post : Next → Disk Block → Prop}
    (meets : Meets faulty crash
      (fun value disk => Meets faulty crash post failed (next value) disk) failed first disk) :
    Meets faulty crash post failed (first >>= next) disk := by
  apply Program.Meets.bind
  apply Program.Meets.mono meets (fun _ crashes => crashes)
  intro result after crashes holds
  cases result with
  | ok value => exact holds
  | error error => exact ⟨crashes, holds⟩

theorem meets_readBlock
    {post : Block → Disk Block → Prop} {block : Nat} (inside : block * sectorsPerBlock < 2 ^ 64)
    (crashes : crash disk) (holds : post (disk.view block) disk) :
    Meets faulty crash post failed (readBlock block) disk := by
  rw [readBlock, if_pos inside]
  exact ⟨crashes, crashes, holds⟩

theorem meets_writeBlock {block : Nat} {data : Block} (inside : block * sectorsPerBlock < 2 ^ 64)
    (crashes : crash disk) (after : crash (disk.write block data))
    (holds : post () (disk.write block data))
    (onFailure : faulty → failed .io disk ∧ failed .io (disk.write block data)) :
    Meets faulty crash post failed (writeBlock block data) disk := by
  rw [writeBlock, if_pos inside]
  refine ⟨crashes, ⟨after, holds⟩, ?_⟩
  intro isFaulty
  exact ⟨⟨crashes, (onFailure isFaulty).1⟩, after, (onFailure isFaulty).2⟩

theorem meets_flush (crashes : crash disk) (after : crash disk.flush)
    (holds : post () disk.flush) (onFailure : faulty → failed .io disk) :
    Meets faulty crash post failed flushDevice disk := by
  refine ⟨crashes, ⟨after, holds⟩, ?_⟩
  intro isFaulty
  exact ⟨crashes, onFailure isFaulty⟩

end Store

def payloadWrites : Nat → List BlockUpdate → List (Nat × Block)
  | _, [] => []
  | block, update :: rest => (block, update.data) :: payloadWrites (block + 1) rest

def homeWrites (updates : List BlockUpdate) : List (Nat × Block) :=
  updates.map fun update => (update.target, update.data)

def writeAll : List (Nat × Block) → Store Unit
  | [] => pure ()
  | change :: rest => do
      writeBlock change.1 change.2
      writeAll rest

theorem writePayload_eq (block : Nat) (updates : List BlockUpdate) :
    writePayload block updates = writeAll (payloadWrites block updates) := by
  induction updates generalizing block with
  | nil => rfl
  | cons _ _ ih => rw [writePayload, payloadWrites, writeAll, ih]

theorem writeHome_eq (updates : List BlockUpdate) :
    writeHome updates = writeAll (homeWrites updates) := by
  induction updates with
  | nil => rfl
  | cons _ _ ih =>
    rw [writeHome, ih]
    rfl

/-- A list of writes is cut at any point. -/
theorem Store.meets_writeAll
    {faulty : Prop} {crash : Disk Block → Prop} {failed : XenithFsError → Disk Block → Prop}
    {changes : List (Nat × Block)} {disk : Disk Block}
    (inside : ∀ change ∈ changes, change.1 * sectorsPerBlock < 2 ^ 64)
    (crashes : ∀ front, front <+: changes → crash (disk.writes front))
    (holds : post () (disk.writes changes))
    (onFailure : faulty → ∀ front, front <+: changes → failed .io (disk.writes front)) :
    Meets faulty crash post failed (writeAll changes) disk := by
  induction changes generalizing disk with
  | nil =>
    have same := disk.writes_nil
    rw [same] at holds
    have crashesHere := crashes [] List.prefix_rfl
    rw [same] at crashesHere
    exact meets_pure crashesHere holds
  | cons change rest ih =>
    have here :
        ∀ property : Disk Block → Prop, (∀ front, front <+: change :: rest →
          property (disk.writes front)) →
          property disk ∧ property (disk.write change.1 change.2) := by
      intro property cut
      have initially := cut [] (List.nil_prefix ..)
      have written := cut [change] ⟨rest, rfl⟩
      rw [disk.writes_nil] at initially
      exact ⟨initially, written⟩
    have later :
        ∀ property : Disk Block → Prop, (∀ front, front <+: change :: rest →
          property (disk.writes front)) →
          ∀ front, front <+: rest → property ((disk.write change.1 change.2).writes front) := by
      intro property cut front isFront
      rw [disk.writes_write]
      apply cut
      rw [List.cons_prefix_cons]
      exact ⟨rfl, isFront⟩
    apply meets_bind
    apply meets_writeBlock (inside change (List.mem_cons_self ..))
    · exact (here crash crashes).1
    · exact (here crash crashes).2
    · apply ih
      · intro other member
        exact inside other (List.mem_cons_of_mem _ member)
      · exact later crash crashes
      · rw [disk.writes_write]
        exact holds
      · intro isFaulty
        exact later (failed .io) (onFailure isFaulty)
    · intro isFaulty
      exact here (failed .io) (onFailure isFaulty)

end Xenith.Fs.XenithFs
