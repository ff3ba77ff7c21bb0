import Xenith.Fs.Format.Inode

/-!
# Directory records of XenithFS

The checksummed records of variable length of `xenith-fs-format`.  The lists
of records that can be encoded are parsed again.
-/

namespace Xenith.Fs.Format

open Xenith.Bytes

/-- What is expected next in a UTF-8 text. -/
inductive Utf8State where
  | start
  | oneMore
  | twoMore
  | threeMore
  | afterE0
  | afterED
  | afterF0
  | afterF4
deriving DecidableEq, Repr

def byteIn (byte low high : UInt8) : Bool :=
  decide (low ≤ byte) && decide (byte ≤ high)

namespace Utf8State

def step : Utf8State → UInt8 → Option Utf8State
  | start, byte =>
    if byte < 0x80 then some start
    else if byteIn byte 0xc2 0xdf then some oneMore
    else if byte = 0xe0 then some afterE0
    else if byte = 0xed then some afterED
    else if byteIn byte 0xe1 0xef then some twoMore
    else if byte = 0xf0 then some afterF0
    else if byteIn byte 0xf1 0xf3 then some threeMore
    else if byte = 0xf4 then some afterF4
    else none
  | oneMore, byte => if byteIn byte 0x80 0xbf then some start else none
  | twoMore, byte => if byteIn byte 0x80 0xbf then some oneMore else none
  | threeMore, byte => if byteIn byte 0x80 0xbf then some twoMore else none
  | afterE0, byte => if byteIn byte 0xa0 0xbf then some oneMore else none
  | afterED, byte => if byteIn byte 0x80 0x9f then some oneMore else none
  | afterF0, byte => if byteIn byte 0x90 0xbf then some twoMore else none
  | afterF4, byte => if byteIn byte 0x80 0x8f then some twoMore else none

end Utf8State

/-- `core::str::from_utf8` accepts the bytes. -/
def validUtf8 (bytes : List UInt8) : Bool :=
  decide (bytes.foldlM Utf8State.step .start = some .start)

/-- A string, by its bytes. -/
structure Text where
  bytes : List UInt8
  utf8 : validUtf8 bytes = true
deriving DecidableEq

/-! ## Records -/

def directoryHeaderSize : Nat := 16

def maxDirectorySize : Nat := 1024 * 1024

def maxDirectoryEntries : Nat := 65535

structure DirectoryRecord where
  inode : Nat
  kind : InodeKind
  name : Text
deriving DecidableEq

inductive DirectoryError where
  | tooLarge
  | truncated
  | invalidRecordLength
  | badChecksum
  | invalidInode
  | invalidKind
  | invalidName
  | duplicateName
  | tooManyEntries
deriving DecidableEq, Repr

def validateRecordName (name : Text) : Except DirectoryError Unit :=
  if name.bytes = [] ∨ 255 < name.bytes.length ∨ 0x2f ∈ name.bytes ∨
      0 ∈ name.bytes ∨ name.bytes = [0x2e] ∨ name.bytes = [0x2e, 0x2e] then
    .error .invalidName
  else .ok ()

/-- One turn of the loop of `parse_directory`, at the front of `bytes`: the
record and its length. -/
def parseRecord (records : List DirectoryRecord) (bytes : List UInt8) :
    Except DirectoryError (DirectoryRecord × Nat) :=
  if maxDirectoryEntries ≤ records.length then .error .tooManyEntries
  else if bytes.length < directoryHeaderSize then .error .truncated
  else
    let inode := decodeLE (bytes.take 8)
    let recordLen := decodeLE ((bytes.drop 8).take 2)
    let nameLen := (bytes.getD 10 0).toNat
    if recordLen < directoryHeaderSize + nameLen ∨ recordLen % 8 ≠ 0 then
      .error .invalidRecordLength
    else if bytes.length < recordLen then .error .truncated
    else
      let record := bytes.take recordLen
      let checked := record.take 12 ++ [0, 0, 0, 0] ++ record.drop 16
      if (crc32 checked).toNat ≠ decodeLE ((record.drop 12).take 4) then .error .badChecksum
      else if inode = 0 then .error .invalidInode
      else if utf8 : validUtf8 ((record.drop 16).take nameLen) = true then
        let name : Text := ⟨(record.drop 16).take nameLen, utf8⟩
        match validateRecordName name with
        | .error error => .error error
        | .ok () =>
          if records.any (fun entry => entry.name = name) then .error .duplicateName
          else
            match InodeKind.fromDisk (bytes.getD 11 0) with
            | .error _ => .error .invalidKind
            | .ok kind => .ok (⟨inode, kind, name⟩, recordLen)
      else .error .invalidName

/-- The loop of `parse_directory`.  A record has at least the bytes of its
header, so the number of bytes bounds the number of turns. -/
def parseRecords :
    Nat → List DirectoryRecord → List UInt8 → Except DirectoryError (List DirectoryRecord)
  | _, records, [] => .ok records
  | 0, records, _ => .ok records
  | turns + 1, records, bytes =>
    match parseRecord records bytes with
    | .error error => .error error
    | .ok (record, recordLen) => parseRecords turns (records ++ [record]) (bytes.drop recordLen)

def parseDirectory (bytes : List UInt8) : Except DirectoryError (List DirectoryRecord) :=
  if maxDirectorySize < bytes.length then .error .tooLarge
  else parseRecords bytes.length [] bytes

namespace DirectoryRecord

def recordLen (record : DirectoryRecord) : Nat :=
  (directoryHeaderSize + record.name.bytes.length + 7) / 8 * 8

/-- The bytes before the checksum. -/
def front (record : DirectoryRecord) : List UInt8 :=
  encodeLE 8 record.inode ++ encodeLE 2 record.recordLen ++
    [UInt8.ofNat record.name.bytes.length, record.kind.toDisk]

/-- The bytes behind the checksum. -/
def back (record : DirectoryRecord) : List UInt8 :=
  record.name.bytes ++
    List.replicate (record.recordLen - directoryHeaderSize - record.name.bytes.length) 0

def checksum (record : DirectoryRecord) : UInt32 :=
  crc32 (record.front ++ [0, 0, 0, 0] ++ record.back)

def encode (record : DirectoryRecord) : List UInt8 :=
  record.front ++ encodeLE 4 record.checksum.toNat ++ record.back

end DirectoryRecord

/-- The loop of `encode_directory`, behind the records `before`. -/
def encodeRecords :
    List DirectoryRecord → List UInt8 → List DirectoryRecord → Except DirectoryError (List UInt8)
  | _, bytes, [] => .ok bytes
  | before, bytes, record :: rest =>
    if maxDirectoryEntries ≤ before.length then .error .tooManyEntries
    else if record.inode = 0 then .error .invalidInode
    else
      match validateRecordName record.name with
      | .error error => .error error
      | .ok () =>
        if before.any (fun entry => entry.name = record.name) then .error .duplicateName
        else if maxDirectorySize < bytes.length + record.recordLen ∨ 65535 < record.recordLen then
          .error .tooLarge
        else encodeRecords (before ++ [record]) (bytes ++ record.encode) rest

def encodeDirectory (records : List DirectoryRecord) : Except DirectoryError (List UInt8) :=
  encodeRecords [] [] records

/-- What both the parser and the encoder check of a list of records. -/
structure Listed (records : List DirectoryRecord) : Prop where
  few : records.length ≤ maxDirectoryEntries
  inodes : ∀ record ∈ records, record.inode ≠ 0
  names : ∀ record ∈ records, validateRecordName record.name = .ok ()
  distinct : (records.map DirectoryRecord.name).Nodup

variable {records : List DirectoryRecord} {bytes : List UInt8} {turns : Nat}

variable {record : DirectoryRecord}

theorem Listed.snoc (listed : Listed records)
    (few : records.length < maxDirectoryEntries) (inode : record.inode ≠ 0)
    (name : validateRecordName record.name = .ok ())
    (fresh : record.name ∉ records.map DirectoryRecord.name) :
    Listed (records ++ [record]) := by
  constructor
  · rw [List.length_append]
    exact few
  · exact List.forall_mem_append.mpr ⟨listed.inodes, List.forall_mem_singleton.mpr inode⟩
  · exact List.forall_mem_append.mpr ⟨listed.names, List.forall_mem_singleton.mpr name⟩
  · rw [List.map_append, List.nodup_append]
    refine ⟨listed.distinct, List.nodup_singleton _, ?_⟩
    intro first earlier second last same
    rw [List.map_singleton, List.mem_singleton] at last
    rw [same, last] at earlier
    exact fresh earlier

theorem Listed.left {first second : List DirectoryRecord} (listed : Listed (first ++ second)) :
    Listed first := by
  constructor
  · have few := listed.few
    rw [List.length_append] at few
    omega
  · exact fun record member =>
    listed.inodes record (List.mem_append_left _ member)
  · exact fun record member =>
    listed.names record (List.mem_append_left _ member)
  · have distinct := listed.distinct
    rw [List.map_append] at distinct
    exact distinct.of_append_left

theorem Listed.nil : Listed [] :=
  ⟨Nat.zero_le _, nofun, nofun, List.nodup_nil⟩

theorem any_name_eq_false {name : Text} :
    records.any (fun entry => entry.name = name) = false ↔
      name ∉ records.map DirectoryRecord.name := by
  simp only [List.any_eq_false, decide_eq_true_eq, List.mem_map, not_exists, not_and]

namespace DirectoryRecord

theorem length_front (record : DirectoryRecord) : record.front.length = 12 := by
  simp [front]

theorem length_back (record : DirectoryRecord) :
    record.back.length = record.recordLen - directoryHeaderSize := by
  have rounded : directoryHeaderSize + record.name.bytes.length ≤ record.recordLen := by
    unfold recordLen
    omega
  rw [back, List.length_append, List.length_replicate]
  omega

theorem header_le_recordLen (record : DirectoryRecord) :
    directoryHeaderSize + record.name.bytes.length ≤ record.recordLen := by
  unfold recordLen
  omega

theorem length_encode (record : DirectoryRecord) : record.encode.length = record.recordLen := by
  have header := record.header_le_recordLen
  simp only [encode, List.length_append, length_front, length_encodeLE, length_back]
  simp only [directoryHeaderSize] at header ⊢
  omega

end DirectoryRecord

open DirectoryRecord

theorem encodeRecords_eq_ok
    {before rest : List DirectoryRecord} {encoded : List UInt8} (listed : Listed before)
    (ok : encodeRecords before bytes rest = .ok encoded) (small : bytes.length ≤ maxDirectorySize) :
    encoded = bytes ++ rest.flatMap encode ∧
      Listed (before ++ rest) ∧ encoded.length ≤ maxDirectorySize := by
  fun_induction encodeRecords before bytes rest with
  | case1 =>
    cases ok
    simpa using ⟨listed, small⟩
  | case7 before bytes record rest few inode name fresh fits ih =>
    rw [Bool.not_eq_true, any_name_eq_false] at fresh
    have extended := listed.snoc (not_le.mp few) inode name fresh
    have size : (bytes ++ record.encode).length ≤ maxDirectorySize := by
      rw [List.length_append, record.length_encode]
      omega
    have later := ih extended ok size
    rw [List.append_assoc, List.append_assoc] at later
    exact later
  | _ => cases ok

theorem parseRecord_eq_ok {recordLen : Nat}
    (ok : parseRecord records bytes = .ok (record, recordLen)) :
    records.length < maxDirectoryEntries ∧ record.inode ≠ 0 ∧
      record.inode < 2 ^ 64 ∧ validateRecordName record.name = .ok () ∧
      record.name ∉ records.map DirectoryRecord.name ∧ 16 ≤ recordLen := by
  revert ok
  fun_cases parseRecord with
  | case10 few _ _ recordLen _ header _ _ _ _ inode _ _ name fresh =>
    rw [Except.ok.injEq, Prod.mk.injEq]
    rintro ⟨rfl, rfl⟩
    have bounded := decodeLE_lt (bytes.take 8)
    have taken : (bytes.take 8).length ≤ 8 := List.length_take_le ..
    have word : 256 ^ (bytes.take 8).length ≤ 2 ^ 64 :=
      (Nat.pow_le_pow_right (by decide) taken).trans (by decide)
    rw [Bool.not_eq_true, any_name_eq_false] at fresh
    simp only [directoryHeaderSize] at header
    exact ⟨not_le.mp few, inode, bounded.trans_le word, name, fresh, by omega⟩
  | _ => nofun

theorem parseRecords_listed {parsed : List DirectoryRecord} (listed : Listed records)
    (words : ∀ record ∈ records, record.inode < 2 ^ 64)
    (ok : parseRecords turns records bytes = .ok parsed) :
    Listed parsed ∧ ∀ record ∈ parsed, record.inode < 2 ^ 64 := by
  fun_induction parseRecords turns records bytes with
  | case1 | case2 =>
    cases ok
    exact ⟨listed, words⟩
  | case3 => cases ok
  | case4 turns records bytes _ record recordLen first ih =>
    obtain ⟨few, inode, word, name, fresh, _⟩ := parseRecord_eq_ok first
    exact ih (listed.snoc few inode name fresh)
      (List.forall_mem_append.mpr ⟨words, List.forall_mem_singleton.mpr word⟩) ok

theorem parseDirectory_listed (ok : parseDirectory bytes = .ok records) :
    Listed records ∧ ∀ record ∈ records, record.inode < 2 ^ 64 := by
  unfold parseDirectory at ok
  split at ok
  · cases ok
  · exact parseRecords_listed Listed.nil (fun _ member => nomatch member) ok

/-! ## Round trip -/

section RoundTrip

variable {record : DirectoryRecord}

theorem fields_encode (record : DirectoryRecord) (rest : List UInt8) :
    (record.encode ++ rest).take 8 = encodeLE 8 record.inode ∧
      ((record.encode ++ rest).drop 8).take 2 = encodeLE 2 record.recordLen ∧
      (record.encode ++ rest).getD 10 0 = UInt8.ofNat record.name.bytes.length ∧
      (record.encode ++ rest).getD 11 0 = record.kind.toDisk := by
  simp [encode, front, List.getElem?_append]

theorem take_checksum_encode :
    (record.encode.drop 12).take 4 = encodeLE 4 record.checksum.toNat := by
  have front := record.length_front
  rw [encode, List.append_assoc, List.drop_left' front, List.take_left' (length_encodeLE ..)]

theorem drop_header_encode : record.encode.drop 16 = record.back := by
  have front : (record.front ++ encodeLE 4 record.checksum.toNat).length = 16 := by
    rw [List.length_append, record.length_front, length_encodeLE]
  rw [encode, List.drop_left' front]

theorem take_front_encode : record.encode.take 12 = record.front := by
  rw [encode, List.append_assoc, List.take_left' record.length_front]

/-- A record is parsed from its encoding, whatever follows. -/
theorem parseRecord_encode
    (listed : Listed (records ++ [record])) (word : record.inode < 2 ^ 64) (rest : List UInt8) :
    parseRecord records (record.encode ++ rest) = .ok (record, record.recordLen) := by
  have member : record ∈ records ++ [record] := List.mem_append_right _ (List.mem_singleton_self _)
  have few := listed.few
  rw [List.length_append, List.length_singleton] at few
  have name := listed.names record member
  have short : record.name.bytes.length ≤ 255 := by
    unfold validateRecordName at name
    split at name
    · cases name
    · next fine => omega
  have fresh : record.name ∉ records.map DirectoryRecord.name := by
    have distinct := listed.distinct
    rw [List.map_append, List.nodup_append] at distinct
    intro earlier
    exact distinct.2.2 _ earlier _ (List.mem_singleton_self _) rfl
  have nameLen : (UInt8.ofNat record.name.bytes.length).toNat = record.name.bytes.length := by
    rw [UInt8.toNat_ofNat']
    omega
  have header := record.header_le_recordLen
  have rounded : record.recordLen % 8 = 0 := by
    unfold recordLen
    omega
  have smallLen : record.recordLen < 256 ^ 2 := by
    unfold recordLen directoryHeaderSize
    omega
  have whole : (record.encode ++ rest).length = record.recordLen + rest.length := by
    rw [List.length_append, record.length_encode]
  have taken : (record.encode ++ rest).take record.recordLen = record.encode :=
    List.take_left' record.length_encode
  have nameBytes : record.back.take record.name.bytes.length = record.name.bytes := by
    rw [back, List.take_left' rfl]
  have sum : crc32 (record.front ++ [0, 0, 0, 0] ++ record.back) = record.checksum := rfl
  obtain ⟨isInode, isRecordLen, isNameLen, isKind⟩ := fields_encode record rest
  unfold parseRecord
  rw [if_neg (by omega), if_neg (by rw [whole]; omega)]
  simp only
  rw [isInode, isRecordLen, isNameLen, isKind, nameLen, decodeLE_word word, decodeLE_encodeLE smallLen,
    if_neg (by omega), if_neg (by rw [whole]; omega), taken, take_front_encode,
    drop_header_encode, take_checksum_encode, sum,
    decodeLE_half (UInt32.toNat_lt _), if_neg (not_not.mpr rfl),
    if_neg (listed.inodes record member)]
  simp only [nameBytes]
  rw [dif_pos record.name.utf8, name, any_name_eq_false.mpr fresh,
    if_neg Bool.false_ne_true, InodeKind.fromDisk_toDisk]

theorem parseRecords_encode {rest : List DirectoryRecord} (listed : Listed (records ++ rest))
    (words : ∀ record ∈ rest, record.inode < 2 ^ 64)
    (enough : (rest.flatMap encode).length ≤ turns) :
    parseRecords turns records (rest.flatMap encode) = .ok (records ++ rest) := by
  induction rest generalizing records turns with
  | nil =>
    rw [List.append_nil]
    cases turns <;> rfl
  | cons record rest ih =>
    have cut : records ++ record :: rest = records ++ [record] ++ rest := by
      simp
    rw [cut] at listed ⊢
    have header := record.header_le_recordLen
    rw [List.flatMap_cons, List.length_append, record.length_encode] at enough
    simp only [directoryHeaderSize] at header
    obtain ⟨turns, rfl⟩ : ∃ fewer, turns = fewer + 1 := ⟨turns - 1, by omega⟩
    have nonempty : record.encode ++ rest.flatMap encode ≠ [] := by
      intro empty
      have size := congrArg List.length empty
      rw [List.length_append, record.length_encode, List.length_nil] at size
      omega
    rw [List.flatMap_cons, parseRecords,
      parseRecord_encode listed.left (words record (List.mem_cons_self ..))]
    · simp only
      rw [List.drop_left' record.length_encode]
      apply ih listed
      · intro other member
        exact words other (List.mem_cons_of_mem _ member)
      · omega
    · exact nonempty

theorem parseDirectory_encode (words : ∀ record ∈ records, record.inode < 2 ^ 64)
    (encoded : encodeDirectory records = .ok bytes) :
    parseDirectory bytes = .ok records := by
  obtain ⟨same, listed, small⟩ := encodeRecords_eq_ok Listed.nil encoded (Nat.zero_le _)
  unfold parseDirectory
  rw [if_neg (not_lt.mpr small), same]
  exact parseRecords_encode listed words (Nat.le_refl _)

/-- More turns than bytes change nothing. -/
theorem parseRecords_turns {more : Nat} (enough : bytes.length ≤ turns) (ordered : turns ≤ more) :
    parseRecords more records bytes = parseRecords turns records bytes := by
  induction turns generalizing more records bytes with
  | zero =>
    rw [List.eq_nil_of_length_eq_zero (Nat.le_zero.mp enough)]
    cases more <;> rfl
  | succ turns ih =>
    obtain ⟨more, rfl⟩ : ∃ fewer, more = fewer + 1 := ⟨more - 1, by omega⟩
    cases bytes with
    | nil => rfl
    | cons byte rest =>
      rw [parseRecords, parseRecords]
      · cases parsed : parseRecord records (byte :: rest) with
        | error error => rfl
        | ok =>
          obtain ⟨_, _, _, _, _, _⟩ := parseRecord_eq_ok parsed
          apply ih
          · rw [List.length_drop]
            omega
          · omega
      · exact List.cons_ne_nil _ _
      · exact List.cons_ne_nil _ _

end RoundTrip

attribute [irreducible] parseDirectory encodeDirectory

end Xenith.Fs.Format
