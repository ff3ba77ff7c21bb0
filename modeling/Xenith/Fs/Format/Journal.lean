import Xenith.Fs.Format.Superblock

/-!
# The journal header of XenithFS

The header of the redo journal of `xenith-fs-format`.  A header that was
encoded is parsed again.
-/

namespace Xenith.Fs.Format

open Xenith.Bytes

/-- The bytes of `XNJRNL01`. -/
def journalMagic : List UInt8 :=
  [0x58, 0x4e, 0x4a, 0x52, 0x4e, 0x4c, 0x30, 0x31]

def journalHeaderBytes : Nat := 32

def journalDescriptorBytes : Nat := 16

/-- The descriptors that fit a header block. -/
def maxDescriptors : Nat :=
  (blockSize - journalHeaderBytes) / journalDescriptorBytes

structure JournalDescriptor where
  targetBlock : Nat
  checksum : UInt32
deriving DecidableEq

structure JournalHeader where
  prepared : Bool
  sequence : UInt64
  descriptors : List JournalDescriptor
deriving DecidableEq

inductive JournalError where
  | badMagic
  | badState
  | tooManyDescriptors
  | badChecksum
  | invalidTarget
deriving DecidableEq, Repr

namespace JournalHeader

def clean (sequence : UInt64) : JournalHeader :=
  ⟨false, sequence, []⟩

def descriptorOffset (index : Nat) : Nat :=
  journalHeaderBytes + index * journalDescriptorBytes

def readDescriptor (block : Block) (index : Nat) : JournalDescriptor where
  targetBlock := readU64 block (descriptorOffset index)
  checksum := UInt32.ofNat (readU32 block (descriptorOffset index + 8))

/-- The fields of a header block. -/
def ofRecord (block : Block) : JournalHeader where
  prepared := decide (block 8 = 1)
  sequence := UInt64.ofNat (readU64 block 16)
  descriptors := (List.range (readU16 block 10)).map (readDescriptor block)

def parse (block : Block) : Except JournalError JournalHeader :=
  let checked := splice block 24 [0, 0, 0, 0]
  if (window block 0 blockSize).all (fun byte => byte = 0) then .ok (clean 0)
  else if window block 0 8 ≠ journalMagic then .error .badMagic
  else if 1 < block 8 then .error .badState
  else if maxDescriptors < readU16 block 10 then .error .tooManyDescriptors
  else if (crc32 (window checked 0 blockSize)).toNat ≠ readU32 block 24 then .error .badChecksum
  else if block 8 = 0 ∧ readU16 block 10 ≠ 0 then .error .badState
  else .ok (ofRecord block)

def writeDescriptors (block : Block) : Nat → List JournalDescriptor → Block
  | _, [] => block
  | index, descriptor :: rest =>
    let block := splice block (descriptorOffset index) (encodeLE 8 descriptor.targetBlock)
    let block := splice block (descriptorOffset index + 8) (encodeLE 4 descriptor.checksum.toNat)
    writeDescriptors block (index + 1) rest

/-- The header block before its checksum is filled in. -/
def toRecord (header : JournalHeader) : Block :=
  let block := splice zeroRecord 0 journalMagic
  let block := splice block 8 [if header.prepared then 1 else 0]
  let block := splice block 10 (encodeLE 2 header.descriptors.length)
  let block := splice block 16 (encodeLE 8 header.sequence.toNat)
  writeDescriptors block 0 header.descriptors

def encode (header : JournalHeader) : Except JournalError Block :=
  if maxDescriptors < header.descriptors.length then .error .tooManyDescriptors
  else if header.prepared = false ∧ header.descriptors ≠ [] then .error .badState
  else
    .ok (splice header.toRecord 24 (encodeLE 4 (crc32 (window header.toRecord 0 blockSize)).toNat))

def validateFor (header : JournalHeader) (superblock : Superblock) : Except JournalError Unit :=
  if superblock.journalBlocks ≤ header.descriptors.length then .error .tooManyDescriptors
  else if header.descriptors.any (fun descriptor =>
    decide (descriptor.targetBlock = 0) ||
      decide (superblock.totalBlocks ≤ descriptor.targetBlock) ||
      superblock.containsJournalBlock descriptor.targetBlock) then
    .error .invalidTarget
  else .ok ()

theorem window_writeDescriptors_below
    (descriptors : List JournalDescriptor) (block : Block) (index : Nat)
    {offset len : Nat} (below : offset + len ≤ descriptorOffset index) :
    window (writeDescriptors block index descriptors) offset len = window block offset len := by
  induction descriptors generalizing block index with
  | nil => rfl
  | cons _ _ ih =>
    have next : descriptorOffset (index + 1) = descriptorOffset index + 16 := by
      simp only [descriptorOffset, journalDescriptorBytes]
      omega
    rw [writeDescriptors, ih _ _ (by omega),
      window_splice_of_apart _ (Or.inr (by omega)), window_splice_of_apart _ (Or.inr (by omega))]

theorem readDescriptor_congr {first second : Block} {index : Nat}
    (same : window first (descriptorOffset index) 16 = window second (descriptorOffset index) 16) :
    readDescriptor first index = readDescriptor second index := by
  have part :
      ∀ (block : Block) (start len : Nat), start + len ≤ 16 →
        window block (descriptorOffset index + start) len =
          ((window block (descriptorOffset index) 16).drop start).take len := by
    intro block start len fits
    apply List.ext_getElem
    · simp
      omega
    · intro position _ _
      simp [window, Nat.add_assoc]
  unfold readDescriptor readU64 readU32
  have firstPart := part first 0 8 (by decide)
  have secondPart := part second 0 8 (by decide)
  rw [part first 8 4 (by decide), part second 8 4 (by decide)]
  rw [Nat.add_zero] at firstPart secondPart
  rw [firstPart, secondPart, same]

/-- Targets fit a word. -/
def Fits (header : JournalHeader) : Prop :=
  ∀ descriptor ∈ header.descriptors, descriptor.targetBlock < 2 ^ 64

theorem readDescriptor_writeDescriptors {descriptors : List JournalDescriptor}
    (fits : ∀ descriptor ∈ descriptors, descriptor.targetBlock < 2 ^ 64)
    (block : Block) (index : Nat) {position : Nat} (inside : position < descriptors.length) :
    readDescriptor (writeDescriptors block index descriptors)
        (index + position) = descriptors[position] := by
  induction descriptors generalizing block index position with
  | nil => cases inside
  | cons descriptor _ ih =>
    cases position with
    | zero =>
      have next : descriptorOffset (index + 1) = descriptorOffset index + 16 := by
        simp only [descriptorOffset, journalDescriptorBytes]
        omega
      have target : descriptor.targetBlock < 256 ^ 8 := by
        have bounded := fits descriptor (List.mem_cons_self ..)
        omega
      have checksum : descriptor.checksum.toNat < 256 ^ 4 := descriptor.checksum.toNat_lt
      rw [writeDescriptors]
      unfold readDescriptor readU64 readU32
      simp only [Nat.add_zero, List.getElem_cons_zero]
      rw [window_writeDescriptors_below _ _ _ (by omega),
        window_writeDescriptors_below _ _ _ (by omega),
        window_splice_self _ _ _ (length_encodeLE ..), window_splice_of_apart _ (Or.inr (by omega)),
        window_splice_self _ _ _ (length_encodeLE ..),
        decodeLE_encodeLE target, decodeLE_encodeLE checksum, UInt32.ofNat_toNat]
    | succ position =>
      have shifted : index + (position + 1) = index + 1 + position := by
        omega
      rw [shifted]
      apply ih
      intro other member
      exact fits other (List.mem_cons_of_mem _ member)

section RoundTrip

variable {header : JournalHeader}

theorem window_toRecord_below {offset len : Nat} (below : offset + len ≤ 32) :
    window header.toRecord offset len = window
      (splice
        (splice
          (splice (splice zeroRecord 0 journalMagic) 8 [if header.prepared then 1 else 0])
          10 (encodeLE 2 header.descriptors.length))
        16 (encodeLE 8 header.sequence.toNat))
      offset len := by
  unfold toRecord
  rw [window_writeDescriptors_below]
  simp only [descriptorOffset, journalHeaderBytes]
  omega

theorem window_toRecord_magic : window header.toRecord 0 8 = journalMagic := by
  rw [window_toRecord_below (by decide)]
  simp (disch := simp) only [window_splice_of_apart]
  exact window_splice_self _ _ _ rfl

theorem window_toRecord_state :
    window header.toRecord 8 1 = [if header.prepared then 1 else 0] := by
  rw [window_toRecord_below (by decide)]
  simp (disch := simp) only [window_splice_of_apart]
  exact window_splice_self _ _ _ rfl

theorem window_toRecord_count :
    window header.toRecord 10 2 = encodeLE 2 header.descriptors.length := by
  rw [window_toRecord_below (by decide),
    window_splice_of_apart _ (Or.inr (by decide)), window_splice_self _ _ _ (length_encodeLE ..)]

theorem window_toRecord_sequence :
    window header.toRecord 16 8 = encodeLE 8 header.sequence.toNat := by
  rw [window_toRecord_below (by decide), window_splice_self _ _ _ (length_encodeLE ..)]

theorem window_toRecord_checksum : window header.toRecord 24 4 = [0, 0, 0, 0] := by
  rw [window_toRecord_below (by decide)]
  simp (disch := simp) only [window_splice_of_apart]
  rfl

/-- The block that `encode` returns. -/
def sealed (header : JournalHeader) : Block :=
  splice header.toRecord 24 (encodeLE 4 (crc32 (window header.toRecord 0 blockSize)).toNat)

theorem window_sealed {offset len : Nat} (apart : offset + len ≤ 24 ∨ 28 ≤ offset) :
    window header.sealed offset len = window header.toRecord offset len := by
  apply window_splice_of_apart
  rw [length_encodeLE]
  omega

theorem unsealed : splice header.sealed 24 [0, 0, 0, 0] = header.toRecord :=
  splice_splice_window window_toRecord_checksum

theorem sealed_state : header.sealed 8 = if header.prepared then 1 else 0 := by
  have state : window header.toRecord 8 1 = [if header.prepared then 1 else 0] :=
    window_toRecord_state
  exact List.singleton_inj.mp state

theorem readU16_sealed_count (few : header.descriptors.length ≤ maxDescriptors) :
    readU16 header.sealed 10 = header.descriptors.length := by
  have small : maxDescriptors < 256 ^ 2 := by decide
  rw [readU16, window_sealed (by decide), window_toRecord_count, decodeLE_encodeLE (by omega)]

theorem readU64_sealed_sequence : readU64 header.sealed 16 = header.sequence.toNat := by
  rw [readU64, window_sealed (by decide), window_toRecord_sequence,
    decodeLE_encodeLE header.sequence.toNat_lt]

theorem readU32_sealed_checksum :
    readU32 header.sealed 24 = (crc32 (window header.toRecord 0 blockSize)).toNat :=
  readU32_splice ..

theorem readDescriptor_sealed
    (fits : header.Fits) {position : Nat} (inside : position < header.descriptors.length) :
    readDescriptor header.sealed position = header.descriptors[position] := by
  have same : readDescriptor header.sealed position = readDescriptor header.toRecord position := by
    apply readDescriptor_congr
    apply window_sealed
    simp only [descriptorOffset, journalHeaderBytes]
    omega
  rw [same]
  have written : readDescriptor header.toRecord (0 + position) = _ :=
    readDescriptor_writeDescriptors fits _ 0 inside
  rw [Nat.zero_add] at written
  exact written

theorem ofRecord_sealed (fits : header.Fits) (few : header.descriptors.length ≤ maxDescriptors) :
    ofRecord header.sealed = header := by
  have descriptors :
      (List.range header.descriptors.length).map
        (readDescriptor header.sealed) = header.descriptors := by
    apply List.ext_getElem
    · simp
    · intro position _ inside
      simp only [List.getElem_map, List.getElem_range]
      exact readDescriptor_sealed fits inside
  have prepared : decide (header.sealed 8 = 1) = header.prepared := by
    rw [sealed_state]
    cases header.prepared <;> decide
  rw [ofRecord, readU16_sealed_count few, readU64_sealed_sequence, descriptors,
    prepared, UInt64.ofNat_toNat]

theorem sealed_not_zero :
    (window header.sealed 0 blockSize).all (fun byte => byte = 0) = false := by
  have magic : window header.toRecord 0 8 = journalMagic := window_toRecord_magic
  have first : header.sealed 0 = 0x58 := (List.cons.inj magic).1
  exact window_not_zero (by decide) (by rw [first]; decide)

theorem parse_encode (fits : header.Fits) {block : Block} (encoded : header.encode = .ok block) :
    parse block = .ok header := by
  unfold encode at encoded
  split at encoded
  · cases encoded
  · next few =>
    split at encoded
    · cases encoded
    · next consistent =>
      have few := not_lt.mp few
      have magic : window header.sealed 0 8 = journalMagic := by
        rw [window_sealed (by decide), window_toRecord_magic]
      have state : ¬ 1 < header.sealed 8 := by
        rw [sealed_state]
        cases header.prepared <;> decide
      have settled : ¬ (header.sealed 8 = 0 ∧ readU16 header.sealed 10 ≠ 0) := by
        rw [sealed_state, readU16_sealed_count few]
        rintro ⟨unprepared, nonempty⟩
        apply consistent
        cases isPrepared : header.prepared with
        | true =>
          rw [isPrepared] at unprepared
          exact absurd unprepared (by decide)
        | false => exact ⟨rfl, fun empty => nonempty (by rw [empty]; rfl)⟩
      obtain rfl := Except.ok.inj encoded
      change parse header.sealed = .ok header
      unfold parse
      rw [sealed_not_zero, if_neg (by decide), if_neg (not_not.mpr magic),
        if_neg state, readU16_sealed_count few, if_neg (not_lt.mpr few),
        unsealed, readU32_sealed_checksum, if_neg (not_not.mpr rfl)]
      rw [readU16_sealed_count few] at settled
      rw [if_neg settled, ofRecord_sealed fits few]

end RoundTrip

theorem clean_fits (sequence : UInt64) : (clean sequence).Fits := by
  intro descriptor member
  cases member

theorem encode_clean (sequence : UInt64) : (clean sequence).encode = .ok (clean sequence).sealed :=
  rfl

theorem encode_prepared {header : JournalHeader} (prepared : header.prepared = true)
    (few : header.descriptors.length ≤ maxDescriptors) :
    header.encode = .ok header.sealed := by
  unfold encode
  rw [if_neg (not_lt.mpr few), if_neg (by simp [prepared])]
  rfl

theorem parse_of_zero
    {block : Block} (zero : (window block 0 blockSize).all (fun byte => byte = 0) = true) :
    parse block = .ok (clean 0) := by
  unfold parse
  rw [if_pos zero]

attribute [irreducible] parse encode

end JournalHeader

end Xenith.Fs.Format
