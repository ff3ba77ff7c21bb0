import Xenith.Fs.Format.Extent
import Xenith.Fs.Format.Superblock

/-!
# Inode records of XenithFS

The fixed-size inode records of `xenith-fs-format`.  A valid inode is parsed
from its encoding.
-/

namespace Xenith.Fs.Format

open Xenith.Bytes

def maxExtents : Nat := 6

def inlineSymlinkBytes : Nat := 28

/-- The bytes of `XINO`, as a number. -/
def inodeMagic : Nat := 0x4f4e4958

def inodeVersion : Nat := 1

def inodeChecksumOffset : Nat := 252

inductive InodeKind where
  | regular
  | directory
  | symlink
deriving DecidableEq, Repr

inductive InodeError where
  | badHeader
  | badChecksum
  | wrongNumber
  | invalidKind
  | invalidMetadata
  | tooManyExtents
  | inlineSymlinkTooLong
  | extent (error : ExtentError)
deriving DecidableEq, Repr

namespace InodeKind

def toDisk : InodeKind → UInt8
  | regular => 1
  | directory => 2
  | symlink => 3

def fromDisk (value : UInt8) : Except InodeError InodeKind :=
  if value = 1 then .ok regular
  else if value = 2 then .ok directory
  else if value = 3 then .ok symlink
  else .error .invalidKind

theorem fromDisk_toDisk (kind : InodeKind) : fromDisk kind.toDisk = .ok kind := by
  cases kind <;> rfl

end InodeKind

structure DiskInode where
  number : Nat
  generation : UInt64
  kind : InodeKind
  mode : UInt32
  uid : UInt32
  gid : UInt32
  links : UInt32
  size : Nat
  accessed : UInt64
  modified : UInt64
  changed : UInt64
  extents : List Extent
  inlineSymlink : List UInt8
deriving DecidableEq, Repr

namespace DiskInode

def empty (number : Nat) (kind : InodeKind) (mode : UInt32) : DiskInode where
  number := number
  generation := 1
  kind := kind
  mode := mode &&& 0o7777
  uid := 0
  gid := 0
  links := if kind = .directory then 2 else 1
  size := 0
  accessed := 0
  modified := 0
  changed := 0
  extents := []
  inlineSymlink := []

/-- The last check of `parse` and of `encode`. -/
def invalidMetadata (inode : DiskInode) : Bool :=
  decide (inode.links = 0) ||
    (decide (inode.kind ≠ .symlink) && decide (inode.inlineSymlink ≠ [])) ||
    (decide (inode.kind = .symlink) && decide (inode.inlineSymlink ≠ []) &&
      decide (inode.size ≠ inode.inlineSymlink.length))

def extentOffset : Nat := 80

def extentBytes : Nat := 24

def readExtent (record : Record) (index : Nat) : Extent :=
  let offset := extentOffset + index * extentBytes
  { logicalBlock := readU64 record offset
    physicalBlock := readU64 record (offset + 8)
    blockCount := readU32 record (offset + 16)
    flags := UInt32.ofNat (readU32 record (offset + 20)) }

/-- The fields of a record, given the kind. -/
def ofRecord (record : Record) (kind : InodeKind) : DiskInode where
  number := readU64 record 8
  generation := UInt64.ofNat (readU64 record 16)
  kind := kind
  mode := UInt32.ofNat (readU32 record 24) &&& 0o7777
  uid := UInt32.ofNat (readU32 record 28)
  gid := UInt32.ofNat (readU32 record 32)
  links := UInt32.ofNat (readU32 record 36)
  size := readU64 record 40
  accessed := UInt64.ofNat (readU64 record 48)
  modified := UInt64.ofNat (readU64 record 56)
  changed := UInt64.ofNat (readU64 record 64)
  extents := (List.range (readU16 record 72)).map (readExtent record)
  inlineSymlink := window record 224 (readU16 record 74)

def parse (bytes : Record) (expectedNumber dataStart totalBlocks : Nat) :
    Except InodeError (Option DiskInode) :=
  let record := slice bytes 0 inodeSize
  let checked := splice record inodeChecksumOffset [0, 0, 0, 0]
  if (window record 0 inodeSize).all (fun byte => byte = 0) then .ok none
  else if readU32 record 0 ≠ inodeMagic ∨ readU16 record 4 ≠ inodeVersion then .error .badHeader
  else if (crc32 (window checked 0 inodeSize)).toNat ≠ readU32 record inodeChecksumOffset then
    .error .badChecksum
  else if readU64 record 8 ≠ expectedNumber then .error .wrongNumber
  else if maxExtents < readU16 record 72 then .error .tooManyExtents
  else if inlineSymlinkBytes < readU16 record 74 then .error .inlineSymlinkTooLong
  else
    match validateExtents
        ((List.range (readU16 record 72)).map (readExtent record)) dataStart totalBlocks with
    | .error error => .error (.extent error)
    | .ok () =>
      match InodeKind.fromDisk (record 6) with
      | .error error => .error error
      | .ok kind =>
        if (ofRecord record kind).invalidMetadata then .error .invalidMetadata
        else .ok (some (ofRecord record kind))

def encodeExtent (extent : Extent) : List UInt8 :=
  encodeLE 8 extent.logicalBlock ++ encodeLE 8 extent.physicalBlock ++
    encodeLE 4 extent.blockCount ++ encodeLE 4 extent.flags.toNat

/-- The record before the extents, the symlink target and the checksum. -/
def headRecord (inode : DiskInode) : Record :=
  let record := splice zeroRecord 0 (encodeLE 4 inodeMagic)
  let record := splice record 4 (encodeLE 2 inodeVersion)
  let record := splice record 6 [inode.kind.toDisk]
  let record := splice record 8 (encodeLE 8 inode.number)
  let record := splice record 16 (encodeLE 8 inode.generation.toNat)
  let record := splice record 24 (encodeLE 4 (inode.mode &&& 0o7777).toNat)
  let record := splice record 28 (encodeLE 4 inode.uid.toNat)
  let record := splice record 32 (encodeLE 4 inode.gid.toNat)
  let record := splice record 36 (encodeLE 4 inode.links.toNat)
  let record := splice record 40 (encodeLE 8 inode.size)
  let record := splice record 48 (encodeLE 8 inode.accessed.toNat)
  let record := splice record 56 (encodeLE 8 inode.modified.toNat)
  let record := splice record 64 (encodeLE 8 inode.changed.toNat)
  let record := splice record 72 (encodeLE 2 inode.extents.length)
  splice record 74 (encodeLE 2 inode.inlineSymlink.length)

/-- The record before its checksum is filled in. -/
def toRecord (inode : DiskInode) : Record :=
  splice
    (spliceItems inode.headRecord extentBytes extentOffset (inode.extents.map encodeExtent))
    224 inode.inlineSymlink

/-- The record with its checksum. -/
def sealed (inode : DiskInode) : Record :=
  splice inode.toRecord inodeChecksumOffset
    (encodeLE 4 (crc32 (window inode.toRecord 0 inodeSize)).toNat)

def encode (inode : DiskInode) : Except InodeError Record :=
  if maxExtents < inode.extents.length then .error .tooManyExtents
  else if inlineSymlinkBytes < inode.inlineSymlink.length then .error .inlineSymlinkTooLong
  else if inode.invalidMetadata then .error .invalidMetadata
  else .ok inode.sealed

/-! ## Valid inodes -/

/-- What `parse` establishes for a volume of the given bounds. -/
structure Valid (dataStart totalBlocks : Nat) (inode : DiskInode) : Prop where
  number : inode.number < 2 ^ 64
  size : inode.size < 2 ^ 64
  mode : inode.mode &&& 0o7777 = inode.mode
  few : inode.extents.length ≤ maxExtents
  counts : ∀ extent ∈ inode.extents, extent.blockCount < 2 ^ 32
  extents : ValidExtents dataStart totalBlocks inode.extents
  symlink : inode.inlineSymlink.length ≤ inlineSymlinkBytes
  metadata : inode.invalidMetadata = false

section RoundTrip

variable {inode : DiskInode} {dataStart totalBlocks : Nat}

theorem encode_of_valid (valid : inode.Valid dataStart totalBlocks) :
    inode.encode = .ok inode.sealed := by
  unfold encode
  rw [if_neg (not_lt.mpr valid.few), if_neg (not_lt.mpr valid.symlink),
    valid.metadata, if_neg Bool.false_ne_true]

theorem window_sealed {offset len : Nat} (before : offset + len ≤ 252) :
    window inode.sealed offset len = window inode.toRecord offset len :=
  window_splice_of_apart _ (Or.inr before)

theorem length_encodeExtent (extent : Extent) : (encodeExtent extent).length = extentBytes := by
  simp [encodeExtent, extentBytes]

theorem length_of_mem_encoded {extents : List Extent} :
    ∀ item ∈ extents.map encodeExtent, item.length = extentBytes := by
  intro item member
  obtain ⟨extent, _, rfl⟩ := List.mem_map.mp member
  exact length_encodeExtent extent

theorem window_toRecord_head {offset len : Nat} (before : offset + len ≤ 80) :
    window inode.toRecord offset len = window inode.headRecord offset len := by
  unfold toRecord
  rw [window_splice_of_apart _ (Or.inr (by omega))]
  exact window_spliceItems_below _ _ before

theorem window_toRecord_symlink :
    window inode.toRecord 224 inode.inlineSymlink.length = inode.inlineSymlink :=
  window_splice_self _ _ _ rfl

theorem readExtent_decode {record : Record} {index : Nat} {extent : Extent}
    (word : extent.logicalBlock < 2 ^ 64 ∧ extent.physicalBlock < 2 ^ 64)
    (count : extent.blockCount < 2 ^ 32)
    (stored :
      window record (extentOffset + index * extentBytes) extentBytes = encodeExtent extent) :
    readExtent record index = extent := by
  have part :
      ∀ start len, start + len ≤ extentBytes →
        window record (extentOffset + index * extentBytes + start) len =
          ((encodeExtent extent).drop start).take len := by
    intro start len inside
    rw [window_part record inside, stored]
  have first := part 0 8 (by decide)
  have flags : extent.flags.toNat < 2 ^ 32 := extent.flags.toNat_lt
  rw [Nat.add_zero] at first
  unfold readExtent readU64 readU32
  simp only
  rw [first, part 8 8 (by decide), part 16 4 (by decide), part 20 4 (by decide)]
  simp (disch := simp) [encodeExtent, List.drop_append, List.drop_of_length_le,
    List.take_of_length_le, decodeLE_word word.1,
    decodeLE_word word.2, decodeLE_half count, decodeLE_half flags]

section Few

variable (few : inode.extents.length ≤ maxExtents)

include few

theorem window_toRecord_extent {position : Nat} (inside : position < inode.extents.length) :
    window inode.toRecord (extentOffset + position * extentBytes) extentBytes =
      encodeExtent inode.extents[position] := by
  have fits : extentOffset + position * extentBytes + extentBytes ≤ 224 := by
    simp only [maxExtents] at few
    simp only [extentOffset, extentBytes]
    omega
  unfold toRecord
  rw [window_splice_of_apart _ (Or.inr fits),
    window_spliceItems_at _ length_of_mem_encoded (by simpa using inside), List.getElem_map]

theorem window_toRecord_checksum (short : inode.inlineSymlink.length ≤ inlineSymlinkBytes) :
    window inode.toRecord 252 4 = [0, 0, 0, 0] := by
  simp only [maxExtents] at few
  simp only [inlineSymlinkBytes] at short
  unfold toRecord
  rw [window_splice_of_apart _ (Or.inl (by omega)),
    window_spliceItems_above _ length_of_mem_encoded]
  · simp [headRecord]
    rfl
  · simp only [List.length_map, extentOffset, extentBytes]
    omega

theorem unsealed (short : inode.inlineSymlink.length ≤ inlineSymlinkBytes) :
    splice inode.sealed inodeChecksumOffset [0, 0, 0, 0] = inode.toRecord :=
  splice_splice_window (window_toRecord_checksum few short)

theorem readU16_head_count : readU16 inode.headRecord 72 = inode.extents.length := by
  have small : inode.extents.length < 256 ^ 2 := few.trans_lt (by decide)
  simp (disch := simp) only [readU16, headRecord, window_splice_self,
    window_splice_of_apart, decodeLE_encodeLE small]

end Few

theorem readU16_head_symlink (short : inode.inlineSymlink.length ≤ inlineSymlinkBytes) :
    readU16 inode.headRecord 74 = inode.inlineSymlink.length := by
  have small : inode.inlineSymlink.length < 256 ^ 2 := short.trans_lt (by decide)
  simp (disch := simp) only [readU16, headRecord, window_splice_self, decodeLE_encodeLE small]

theorem window_record {offset len : Nat} (before : offset + len ≤ 252) :
    window (slice inode.sealed 0 inodeSize) offset len = window inode.toRecord offset len := by
  have inside : offset + len ≤ inodeSize := before.trans (by decide)
  rw [window_slice _ inside, Nat.zero_add, window_sealed before]

theorem window_record_head {offset len : Nat} (before : offset + len ≤ 80) :
    window (slice inode.sealed 0 inodeSize) offset len = window inode.headRecord offset len := by
  rw [window_record (by omega), window_toRecord_head before]

theorem ofRecord_sealed (valid : inode.Valid dataStart totalBlocks) (word : totalBlocks < 2 ^ 64) :
    ofRecord (slice inode.sealed 0 inodeSize) inode.kind = inode := by
  have number : decodeLE (encodeLE 8 inode.number) = inode.number := decodeLE_word valid.number
  have size : decodeLE (encodeLE 8 inode.size) = inode.size := decodeLE_word valid.size
  have long (value : UInt64) : UInt64.ofNat (decodeLE (encodeLE 8 value.toNat)) = value := by
    rw [decodeLE_word value.toNat_lt, UInt64.ofNat_toNat]
  have short (value : UInt32) : UInt32.ofNat (decodeLE (encodeLE 4 value.toNat)) = value := by
    rw [decodeLE_half value.toNat_lt, UInt32.ofNat_toNat]
  have extents :
      (List.range inode.extents.length).map
        (readExtent (slice inode.sealed 0 inodeSize)) = inode.extents := by
    apply List.ext_getElem
    · simp
    · intro position _ inside
      have member := List.getElem_mem inside
      have bounds := valid.extents.bounds _ member
      have logical := bounds.logical
      have upper := bounds.upper
      have few := valid.few
      simp only [maxExtents] at few
      simp only [List.getElem_map, List.getElem_range]
      apply readExtent_decode
      · omega
      · exact valid.counts _ member
      · rw [window_record, window_toRecord_extent valid.few inside]
        simp only [extentOffset, extentBytes]
        omega
  have symlink :
      window (slice inode.sealed 0 inodeSize) 224
        inode.inlineSymlink.length = inode.inlineSymlink := by
    have fits := valid.symlink
    simp only [inlineSymlinkBytes] at fits
    rw [window_record (by omega), window_toRecord_symlink]
  have extentCount : readU16 (slice inode.sealed 0 inodeSize) 72 = inode.extents.length := by
    rw [readU16, window_record_head (by decide)]
    exact readU16_head_count valid.few
  have symlinkCount : readU16 (slice inode.sealed 0 inodeSize) 74 = inode.inlineSymlink.length := by
    rw [readU16, window_record_head (by decide)]
    exact readU16_head_symlink valid.symlink
  unfold ofRecord
  rw [extentCount, symlinkCount, extents, symlink]
  simp (disch := first | decide | simp) only [readU64, readU32,
    window_record_head, headRecord, window_splice_self, window_splice_of_apart,
    number, size, long, short]
  rw [UInt32.and_assoc, UInt32.and_self, valid.mode]

theorem slice_sealed_kind : slice inode.sealed 0 inodeSize 6 = inode.kind.toDisk := by
  have stored : window (slice inode.sealed 0 inodeSize) 6 1 = window inode.headRecord 6 1 :=
    window_record_head (by decide)
  exact List.singleton_inj.mp stored

theorem sealed_not_zero :
    (window (slice inode.sealed 0 inodeSize) 0 inodeSize).all (fun byte => byte = 0) = false := by
  have magic : window (slice inode.sealed 0 inodeSize) 0 4 = encodeLE 4 inodeMagic := by
    rw [window_record_head (by decide)]
    simp (disch := simp) only [headRecord, window_splice_self, window_splice_of_apart]
  have first : slice inode.sealed 0 inodeSize 0 = 0x58 := (List.cons.inj magic).1
  exact window_not_zero (by decide) (by rw [first]; decide)

theorem checksum_sealed (valid : inode.Valid dataStart totalBlocks) :
    (crc32
        (window
          (splice (slice inode.sealed 0 inodeSize) inodeChecksumOffset [0, 0, 0, 0])
          0 inodeSize)).toNat =
      readU32 (slice inode.sealed 0 inodeSize) inodeChecksumOffset := by
  have body :
      window
          (splice (slice inode.sealed 0 inodeSize) inodeChecksumOffset [0, 0, 0, 0]) 0 inodeSize =
        window inode.toRecord 0 inodeSize := by
    rw [← unsealed valid.few valid.symlink]
    apply window_congr
    intro index _ inside
    unfold splice
    split
    · rfl
    · rw [slice_of_lt (by omega), Nat.zero_add]
  have stored :
      readU32 (slice inode.sealed 0 inodeSize) inodeChecksumOffset =
        (crc32 (window inode.toRecord 0 inodeSize)).toNat := by
    rw [readU32, window_slice _ (by decide), Nat.zero_add]
    exact readU32_splice ..
  rw [body, stored]

theorem parse_sealed (valid : inode.Valid dataStart totalBlocks) (word : totalBlocks < 2 ^ 64) :
    parse inode.sealed inode.number dataStart totalBlocks = .ok (some inode) := by
  have fields := ofRecord_sealed valid word
  have number : readU64 (slice inode.sealed 0 inodeSize) 8 = inode.number :=
    congrArg DiskInode.number fields
  have extents :
      (List.range (readU16 (slice inode.sealed 0 inodeSize) 72)).map
        (readExtent (slice inode.sealed 0 inodeSize)) = inode.extents :=
    congrArg DiskInode.extents fields
  have few : ¬ maxExtents < readU16 (slice inode.sealed 0 inodeSize) 72 := by
    have counted := congrArg List.length extents
    rw [List.length_map, List.length_range] at counted
    rw [counted]
    exact not_lt.mpr valid.few
  have short : ¬ inlineSymlinkBytes < readU16 (slice inode.sealed 0 inodeSize) 74 := by
    have counted := congrArg List.length (congrArg DiskInode.inlineSymlink fields)
    rw [ofRecord, length_window] at counted
    rw [counted]
    exact not_lt.mpr valid.symlink
  have header :
      ¬ (readU32 (slice inode.sealed 0 inodeSize) 0 ≠ inodeMagic ∨
        readU16 (slice inode.sealed 0 inodeSize) 4 ≠ inodeVersion) := by
    rw [readU32, readU16, window_record_head (by decide), window_record_head (by decide)]
    simp (disch := simp) only [headRecord, window_splice_of_apart]
    decide
  unfold parse
  simp only
  rw [sealed_not_zero, if_neg Bool.false_ne_true, if_neg header,
    checksum_sealed valid, if_neg (not_not.mpr rfl),
    if_neg (not_not.mpr number), if_neg few, if_neg short, extents,
    (validateExtents_eq_ok word).mpr valid.extents, slice_sealed_kind, InodeKind.fromDisk_toDisk]
  simp only
  rw [fields, valid.metadata, if_neg Bool.false_ne_true]

theorem empty_valid {number : Nat} (word : number < 2 ^ 64) (kind : InodeKind)
    (mode : UInt32) : (empty number kind mode).Valid dataStart totalBlocks := by
  constructor
  · exact word
  · exact Nat.two_pow_pos 64
  · change mode &&& 0o7777 &&& 0o7777 = mode &&& 0o7777
    rw [UInt32.and_assoc, UInt32.and_self]
  · exact Nat.zero_le _
  · intro extent member
    cases member
  · exact ⟨nofun, .nil, .nil⟩
  · exact Nat.zero_le _
  · cases kind <;> rfl

end RoundTrip

attribute [irreducible] parse encode

end DiskInode

end Xenith.Fs.Format
