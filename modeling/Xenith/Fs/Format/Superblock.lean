import Xenith.Lib.Bytes
import Xenith.Lib.Word

/-!
# The superblock of XenithFS

The superblock of `xenith-fs-format`, the checks of its geometry and the
checksum of all on-disk records.
-/

namespace Xenith.Fs.Format

open Xenith.Bytes

def blockSize : Nat := 4096

def inodeSize : Nat := 256

def superblockBytes : Nat := 512

/-- A block, by byte offset below `blockSize`. -/
abbrev Block := Record

def readU16 (record : Record) (offset : Nat) : Nat :=
  decodeLE (window record offset 2)

def readU32 (record : Record) (offset : Nat) : Nat :=
  decodeLE (window record offset 4)

def readU64 (record : Record) (offset : Nat) : Nat :=
  decodeLE (window record offset 8)

theorem readU32_splice (record : Record) (offset : Nat) (sum : UInt32) :
    readU32 (splice record offset (encodeLE 4 sum.toNat)) offset = sum.toNat := by
  rw [readU32, window_splice_self _ _ _ (length_encodeLE ..), decodeLE_half sum.toNat_lt]

def zeroRecord : Record :=
  fun _ => 0

def crcBit (crc : UInt32) : UInt32 :=
  let mask := 0 - (crc &&& 1)
  (crc >>> 1) ^^^ (0xedb88320 &&& mask)

def crcByte (crc : UInt32) (byte : UInt8) : UInt32 :=
  crcBit^[8] (crc ^^^ byte.toUInt32)

def crc32 (bytes : List UInt8) : UInt32 :=
  ~~~(bytes.foldl crcByte 0xffffffff)

attribute [irreducible] crc32

structure Superblock where
  totalBlocks : Nat
  inodeTableStart : Nat
  inodeCount : Nat
  bitmapStart : Nat
  bitmapBlocks : Nat
  dataStart : Nat
  rootInode : Nat
  journalStart : Nat
  journalBlocks : Nat
  features : Nat
  sequence : Nat
deriving DecidableEq, Repr

inductive SuperblockError where
  | badMagic
  | unsupportedVersion (version : Nat)
  | unsupportedBlockSize (size : Nat)
  | badChecksum
  | invalidGeometry
  | unsupportedFeatures (features : Nat)
deriving DecidableEq, Repr

/-- The bytes of `XENITHFS`. -/
def superblockMagic : List UInt8 :=
  [0x58, 0x45, 0x4e, 0x49, 0x54, 0x48, 0x46, 0x53]

def superblockVersion : Nat := 1

def superblockChecksumOffset : Nat := 96

namespace Superblock

def inodeTableBlocks (superblock : Superblock) : Option Nat :=
  if superblock.inodeCount * inodeSize + (blockSize - 1) < 2 ^ 64 then
    some ((superblock.inodeCount * inodeSize + (blockSize - 1)) / blockSize)
  else none

/-- The ranges of the superblock, the inode table, the bitmap and the journal.
The sums saturate, so a range that does not fit ends at `2 ^ 64 - 1`. -/
def ranges (superblock : Superblock) (tableBlocks : Nat) : List (Nat × Nat) :=
  let checkedRange (start length : Nat) := (start, min (start + length) (2 ^ 64 - 1))
  [(0, 1),
    checkedRange superblock.inodeTableStart tableBlocks,
    checkedRange superblock.bitmapStart superblock.bitmapBlocks,
    checkedRange superblock.journalStart superblock.journalBlocks]

def rangeFits (superblock : Superblock) (range : Nat × Nat) : Bool :=
  decide (range.1 < range.2) && decide (range.2 ≤ superblock.totalBlocks) &&
    decide (range.2 ≤ superblock.dataStart)

def rangesApart : List (Nat × Nat) → Bool
  | [] => true
  | left :: rest =>
    rest.all (fun right =>
      !(decide (left.1 < right.2) && decide (right.1 < left.2))) &&
      rangesApart rest

def validate (superblock : Superblock) : Except SuperblockError Unit :=
  if superblock.features ≠ 0 then .error (.unsupportedFeatures superblock.features)
  else if superblock.totalBlocks < 8 ∨ superblock.inodeCount = 0 ∨
      superblock.rootInode = 0 ∨
      superblock.inodeCount < superblock.rootInode ∨
      superblock.bitmapBlocks = 0 ∨ superblock.journalBlocks < 2 ∨
      superblock.totalBlocks ≤ superblock.dataStart then
    .error .invalidGeometry
  else
    match superblock.inodeTableBlocks with
    | none => .error .invalidGeometry
    | some tableBlocks =>
      let ranges := superblock.ranges tableBlocks
      if ranges.all superblock.rangeFits = false ∨ rangesApart ranges = false then
        .error .invalidGeometry
      else if 2 ^ 64 ≤ superblock.bitmapBlocks * (blockSize * 8) ∨
          superblock.bitmapBlocks * (blockSize * 8) < superblock.totalBlocks then
        .error .invalidGeometry
      else .ok ()

def ofRecord (record : Record) : Superblock where
  totalBlocks := readU64 record 16
  inodeTableStart := readU64 record 24
  inodeCount := readU64 record 32
  bitmapStart := readU64 record 40
  bitmapBlocks := readU32 record 48
  dataStart := readU64 record 52
  rootInode := readU64 record 60
  journalStart := readU64 record 68
  journalBlocks := readU32 record 76
  features := readU64 record 80
  sequence := readU64 record 88

def parse (record : Record) : Except SuperblockError Superblock :=
  let checked := splice record superblockChecksumOffset [0, 0, 0, 0]
  if window record 0 8 ≠ superblockMagic then .error .badMagic
  else if readU32 record 8 ≠ superblockVersion then .error (.unsupportedVersion (readU32 record 8))
  else if readU32 record 12 ≠ blockSize then .error (.unsupportedBlockSize (readU32 record 12))
  else if (crc32 (window checked 0 superblockBytes)).toNat ≠
      readU32 record superblockChecksumOffset then
    .error .badChecksum
  else
    match (ofRecord record).validate with
    | .error error => .error error
    | .ok () => .ok (ofRecord record)

/-- The sector before its checksum is filled in. -/
def toRecord (superblock : Superblock) : Record :=
  let record := splice zeroRecord 0 superblockMagic
  let record := splice record 8 (encodeLE 4 superblockVersion)
  let record := splice record 12 (encodeLE 4 blockSize)
  let record := splice record 16 (encodeLE 8 superblock.totalBlocks)
  let record := splice record 24 (encodeLE 8 superblock.inodeTableStart)
  let record := splice record 32 (encodeLE 8 superblock.inodeCount)
  let record := splice record 40 (encodeLE 8 superblock.bitmapStart)
  let record := splice record 48 (encodeLE 4 superblock.bitmapBlocks)
  let record := splice record 52 (encodeLE 8 superblock.dataStart)
  let record := splice record 60 (encodeLE 8 superblock.rootInode)
  let record := splice record 68 (encodeLE 8 superblock.journalStart)
  let record := splice record 76 (encodeLE 4 superblock.journalBlocks)
  let record := splice record 80 (encodeLE 8 superblock.features)
  splice record 88 (encodeLE 8 superblock.sequence)

/-- The sector with its checksum. -/
def sealed (superblock : Superblock) : Record :=
  splice superblock.toRecord superblockChecksumOffset
    (encodeLE 4 (crc32 (window superblock.toRecord 0 superblockBytes)).toNat)

def encode (superblock : Superblock) : Except SuperblockError Record :=
  match superblock.validate with
  | .error error => .error error
  | .ok () => .ok superblock.sealed

def containsJournalBlock (superblock : Superblock) (block : Nat) : Bool :=
  decide (superblock.journalStart ≤ block) &&
    decide (block < superblock.journalStart + superblock.journalBlocks)

/-- What the checks of the geometry establish. -/
structure Valid (superblock : Superblock) : Prop where
  inodes : 0 < superblock.inodeCount
  rootPositive : 0 < superblock.rootInode
  rootBounded : superblock.rootInode ≤ superblock.inodeCount
  journal : 2 ≤ superblock.journalBlocks
  data : superblock.dataStart < superblock.totalBlocks
  tableAfter : 1 ≤ superblock.inodeTableStart
  tableEnd :
    superblock.inodeTableStart + (superblock.inodeCount * inodeSize + (blockSize - 1)) / blockSize ≤
      superblock.dataStart
  bitmapAfter : 1 ≤ superblock.bitmapStart
  bitmapEnd : superblock.bitmapStart + superblock.bitmapBlocks ≤ superblock.dataStart
  journalAfter : 1 ≤ superblock.journalStart
  journalEnd : superblock.journalStart + superblock.journalBlocks ≤ superblock.dataStart
  tableBitmap :
    superblock.inodeTableStart + (superblock.inodeCount * inodeSize + (blockSize - 1)) / blockSize ≤
        superblock.bitmapStart ∨
      superblock.bitmapStart + superblock.bitmapBlocks ≤ superblock.inodeTableStart
  tableJournal :
    superblock.inodeTableStart + (superblock.inodeCount * inodeSize + (blockSize - 1)) / blockSize ≤
        superblock.journalStart ∨
      superblock.journalStart + superblock.journalBlocks ≤ superblock.inodeTableStart
  bitmapJournal : superblock.bitmapStart + superblock.bitmapBlocks ≤ superblock.journalStart ∨
    superblock.journalStart + superblock.journalBlocks ≤ superblock.bitmapStart
  capacity : superblock.totalBlocks ≤ superblock.bitmapBlocks * (blockSize * 8)
  addressable : superblock.totalBlocks ≤ 2 ^ 47

variable {superblock : Superblock}

theorem valid_of_validate (word : superblock.bitmapBlocks < 2 ^ 32)
    (validated : superblock.validate = .ok ()) : superblock.Valid := by
  revert validated
  fun_cases validate with
  | case6 _ _ _ table allRanges ranges capacity =>
    intro _
    unfold inodeTableBlocks at table
    split at table
    · cases table
      simp only [allRanges, Superblock.ranges, List.all_cons,
        List.all_nil, rangeFits, rangesApart, Bool.and_true, not_or,
        Bool.not_eq_false, Bool.not_eq_true', Bool.and_eq_false_iff,
        decide_eq_false_iff_not] at ranges
      have addressable : superblock.totalBlocks ≤ 2 ^ 47 := by
        unfold blockSize at capacity
        omega
      constructor
      all_goals omega
    · cases table
  | _ => nofun

theorem valid_of_parse {record : Record}
    (parsed : parse record = .ok superblock) : superblock.Valid := by
  unfold parse at parsed
  simp only at parsed
  repeat' split at parsed
  all_goals cases parsed
  apply valid_of_validate _ (by assumption)
  have bounded := decodeLE_lt (window record 48 4)
  rw [length_window] at bounded
  exact bounded.trans_le (by decide)

/-- The fields fit their widths. -/
structure Fits (superblock : Superblock) : Prop where
  totalBlocks : superblock.totalBlocks < 2 ^ 64
  inodeTableStart : superblock.inodeTableStart < 2 ^ 64
  inodeCount : superblock.inodeCount < 2 ^ 64
  bitmapStart : superblock.bitmapStart < 2 ^ 64
  bitmapBlocks : superblock.bitmapBlocks < 2 ^ 32
  dataStart : superblock.dataStart < 2 ^ 64
  rootInode : superblock.rootInode < 2 ^ 64
  journalStart : superblock.journalStart < 2 ^ 64
  journalBlocks : superblock.journalBlocks < 2 ^ 32
  features : superblock.features < 2 ^ 64
  sequence : superblock.sequence < 2 ^ 64

section RoundTrip

variable {superblock : Superblock}

theorem window_sealed {offset len : Nat} (apart : offset + len ≤ 96 ∨ 100 ≤ offset) :
    window superblock.sealed offset len = window superblock.toRecord offset len := by
  apply window_splice_of_apart
  rw [length_encodeLE]
  simp only [superblockChecksumOffset]
  omega

theorem ofRecord_toRecord (fits : superblock.Fits) : ofRecord superblock.toRecord = superblock := by
  obtain ⟨total, table, inodes, bitmap, bitmapBlocks, data, root, journal,
    journalBlocks, features, sequence⟩ := fits
  simp (disch := first | assumption | simp) only [ofRecord, readU64, readU32,
    toRecord, window_splice_self, window_splice_of_apart, decodeLE_word, decodeLE_half]

theorem window_magic : window superblock.toRecord 0 8 = superblockMagic := by
  simp (disch := simp) only [toRecord, window_splice_of_apart]
  exact window_splice_self _ _ _ rfl

theorem unsealed :
    splice superblock.sealed superblockChecksumOffset [0, 0, 0, 0] = superblock.toRecord :=
  splice_splice_window rfl

theorem readU32_sealed_checksum :
    readU32 superblock.sealed superblockChecksumOffset =
      (crc32 (window superblock.toRecord 0 superblockBytes)).toNat :=
  readU32_splice ..

theorem ofRecord_sealed (fits : superblock.Fits) : ofRecord superblock.sealed = superblock := by
  have same : ofRecord superblock.sealed = ofRecord superblock.toRecord := by
    unfold ofRecord readU64 readU32
    simp (disch := decide) only [window_sealed]
  rw [same, ofRecord_toRecord fits]

theorem parse_sealed (fits : superblock.Fits) (valid : superblock.validate = .ok ()) :
    parse superblock.sealed = .ok superblock := by
  have magic : window superblock.sealed 0 8 = superblockMagic := by
    rw [window_sealed (by decide), window_magic]
  have version : readU32 superblock.sealed 8 = superblockVersion := by
    rw [readU32, window_sealed (by decide)]
    rfl
  have size : readU32 superblock.sealed 12 = blockSize := by
    rw [readU32, window_sealed (by decide)]
    rfl
  unfold parse
  rw [if_neg (not_not.mpr magic), if_neg (not_not.mpr version),
    if_neg (not_not.mpr size), unsealed, readU32_sealed_checksum,
    if_neg (not_not.mpr rfl), ofRecord_sealed fits, valid]

end RoundTrip

end Superblock

end Xenith.Fs.Format
