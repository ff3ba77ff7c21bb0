import Xenith.Fs.Format.Directory
import Xenith.Fs.Format.Journal

/-!
# Round trips of the XenithFS format

Every record that an encoder of `xenith-fs-format` accepts is parsed again, and
the parser of directories reads all bytes it is given.
-/

namespace Xenith.Fs.Format

open JournalHeader

theorem Superblock.parse_encode {superblock : Superblock} {record : Bytes.Record}
    (fits : superblock.Fits) (encoded : superblock.encode = .ok record) :
    Superblock.parse record = .ok superblock := by
  revert encoded
  fun_cases Superblock.encode with
  | case1 => nofun
  | case2 valid =>
    rintro ⟨⟩
    exact Superblock.parse_sealed fits valid

namespace DiskInode

/-- The fields fit their widths. -/
structure Fits (inode : DiskInode) : Prop where
  number : inode.number < 2 ^ 64
  size : inode.size < 2 ^ 64
  counts : ∀ extent ∈ inode.extents, extent.blockCount < 2 ^ 32

theorem permissions_of_le {mode : UInt32} (small : mode ≤ 0o7777) : mode &&& 0o7777 = mode := by
  apply UInt32.toNat_inj.mp
  have bounded : mode.toNat < 4096 := Nat.lt_succ_of_le small
  exact (Nat.and_two_pow_sub_one_eq_mod _ 12).trans (Nat.mod_eq_of_lt bounded)

theorem parse_encode
    {inode : DiskInode} {record : Bytes.Record} {dataStart totalBlocks : Nat} (fits : inode.Fits)
    (word : totalBlocks < 2 ^ 64) (mode : inode.mode ≤ 0o7777)
    (extents : validateExtents inode.extents dataStart totalBlocks = .ok ())
    (encoded : inode.encode = .ok record) :
    parse record inode.number dataStart totalBlocks = .ok (some inode) := by
  revert encoded
  unfold encode
  split_ifs with many long wrong
  · nofun
  · nofun
  · nofun
  · rintro ⟨⟩
    have valid : inode.Valid dataStart totalBlocks :=
      { number := fits.number
        size := fits.size
        mode := permissions_of_le mode
        few := not_lt.mp many
        counts := fits.counts
        extents := (validateExtents_eq_ok word).mp extents
        symlink := not_lt.mp long
        metadata := Bool.eq_false_iff.mpr wrong }
    exact parse_sealed valid word

end DiskInode

/-- The loop of `parse_directory` from the records so far on: every turn takes
one record off the bytes, and the loop ends when no byte is left. -/
inductive Reads : List DirectoryRecord → List UInt8 → List DirectoryRecord → Prop
  | done {records} : Reads records [] records
  | turn {records parsed record} {piece : List UInt8} {rest}
      (first : parseRecord records (piece ++ rest) = .ok (record, piece.length))
      (later : Reads (records ++ [record]) rest parsed) :
      Reads records (piece ++ rest) parsed

theorem recordLen_le_of_parseRecord {records : List DirectoryRecord} {bytes : List UInt8}
    {record : DirectoryRecord} {recordLen : Nat}
    (ok : parseRecord records bytes = .ok (record, recordLen)) :
    recordLen ≤ bytes.length := by
  revert ok
  fun_cases parseRecord with
  | case10 _ _ _ _ _ _ whole =>
    rw [Except.ok.injEq, Prod.mk.injEq]
    rintro ⟨_, rfl⟩
    exact not_lt.mp whole
  | _ => rintro ⟨⟩

theorem reads_of_parseRecords
    {turns : Nat} {records parsed : List DirectoryRecord} {bytes : List UInt8}
    (enough : bytes.length ≤ turns) (ok : parseRecords turns records bytes = .ok parsed) :
    Reads records bytes parsed := by
  fun_induction parseRecords turns records bytes with
  | case1 =>
    cases ok
    exact .done
  | case2 records bytes nonempty =>
    exact absurd (List.eq_nil_of_length_eq_zero (Nat.le_zero.mp enough)) nonempty
  | case3 => cases ok
  | case4 turns records bytes _ record recordLen first ih =>
    obtain ⟨_, _, _, _, _, _⟩ := parseRecord_eq_ok first
    have whole := recordLen_le_of_parseRecord first
    have later : Reads (records ++ [record]) (bytes.drop recordLen) parsed := by
      apply ih _ ok
      rw [List.length_drop]
      omega
    have length : (bytes.take recordLen).length = recordLen := List.length_take_of_le whole
    have cut := List.take_append_drop recordLen bytes
    rw [← cut]
    refine .turn ?_ later
    rw [cut, length]
    exact first

/-- Encoded records are parsed again; a directory is read to its end, whatever
its bytes, and has distinct valid names. -/
theorem format_round_trips :
    (∀ (superblock : Superblock) record, superblock.Fits →
      superblock.encode = .ok record → Superblock.parse record = .ok superblock) ∧
    (∀ (header : JournalHeader) block, header.Fits →
      header.encode = .ok block → parse block = .ok header) ∧
    (∀ (inode : DiskInode) record dataStart totalBlocks, inode.Fits →
      totalBlocks < 2 ^ 64 → inode.mode ≤ 0o7777 →
      validateExtents inode.extents dataStart totalBlocks = .ok () →
      inode.encode = .ok record →
        DiskInode.parse record inode.number dataStart totalBlocks = .ok (some inode)) ∧
    (∀ records bytes,
      (∀ record ∈ records, record.inode < 2 ^ 64) →
      encodeDirectory records = .ok bytes → parseDirectory bytes = .ok records) ∧
    ∀ bytes : List UInt8,
      (∀ turns, bytes.length ≤ turns →
        parseRecords turns [] bytes = parseRecords bytes.length [] bytes) ∧
      ∀ records, parseDirectory bytes = .ok records → Reads [] bytes records ∧
        (records.map DirectoryRecord.name).Nodup ∧
        ∀ record ∈ records, validateRecordName record.name = .ok () := by
  refine ⟨fun _ _ => Superblock.parse_encode,
    fun _ _ fits encoded => parse_encode fits encoded,
    fun _ _ _ _ => DiskInode.parse_encode,
    fun _ _ => parseDirectory_encode, ?_⟩
  intro bytes
  refine ⟨fun _ enough => parseRecords_turns (Nat.le_refl _) enough, ?_⟩
  intro records ok
  obtain ⟨listed, _⟩ := parseDirectory_listed ok
  refine ⟨?_, listed.distinct, listed.names⟩
  unfold parseDirectory at ok
  split at ok
  · cases ok
  · exact reads_of_parseRecords (Nat.le_refl _) ok

def smallVolume : Superblock where
  totalBlocks := 64
  inodeTableStart := 1
  inodeCount := 16
  bitmapStart := 2
  bitmapBlocks := 1
  dataStart := 11
  rootInode := 1
  journalStart := 3
  journalBlocks := 8
  features := 0
  sequence := 0

def helloRecord : DirectoryRecord :=
  ⟨7, .regular, ⟨[0x68, 0x65, 0x6c, 0x6c, 0x6f], by decide⟩⟩

theorem small_round_trips :
    Superblock.parse smallVolume.sealed = .ok smallVolume ∧
      parse (clean 7).sealed = .ok (clean 7) ∧
      DiskInode.parse (DiskInode.empty 1 .directory 0o755).sealed 1 11 64 =
        .ok (some (DiskInode.empty 1 .directory 0o755)) ∧
      parseDirectory helloRecord.encode = .ok [helloRecord] ∧
      Reads [] helloRecord.encode [helloRecord] := by
  obtain ⟨superblocks, journals, inodes, directories, reads⟩ := format_round_trips
  have valid : (DiskInode.empty 1 .directory 0o755).Valid 11 64 :=
    DiskInode.empty_valid (by decide) _ _
  have encoded : encodeDirectory [helloRecord] = .ok helloRecord.encode := by
    unfold encodeDirectory
    rfl
  have parsed := directories [helloRecord] _ (by decide) encoded
  refine ⟨superblocks _ _ (by constructor <;> decide) rfl,
    journals _ _ (clean_fits 7) (encode_clean 7),
    inodes _ _ _ _ ⟨valid.number, valid.size, valid.counts⟩ (by decide)
      (by decide) ((validateExtents_eq_ok (by decide)).mpr valid.extents)
      (DiskInode.encode_of_valid valid), parsed, ?_⟩
  exact ((reads _).2 _ parsed).1

end Xenith.Fs.Format
