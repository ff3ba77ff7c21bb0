import Xenith.Fs.Format.RoundTrip
import Xenith.Fs.XenithFs.CrashAtomicity

/-!
# Replay by the kernel and by the checker

`xenith-fsck` checks a prepared journal before it replays it to a copy of the
image; `replay_journal` checks a descriptor just before it copies the payload
of it home.
-/

namespace Xenith.Fs.XenithFs

open Xenith.BlockProgram
open Xenith.Bytes
open Xenith.Fs.Format
open JournalHeader
open Store

/-! ## The checker -/

inductive CheckError where
  | truncated
  | invalid (text : String)
deriving DecidableEq, Repr

/-- `map_journal_error` -/
def CheckError.ofJournal : JournalError → CheckError
  | .badChecksum => .invalid "journal checksum mismatch"
  | .badMagic => .invalid "invalid journal header"
  | .badState => .invalid "invalid journal header"
  | .tooManyDescriptors => .invalid "invalid journal header"
  | .invalidTarget => .invalid "invalid journal header"

def blockOffset (block : Nat) : Except CheckError Nat :=
  if block * blockSize < 2 ^ 64 then .ok (block * blockSize)
  else .error (.invalid "block offset exceeds host limits")

/-- The loop of `replay_to_memory` from a descriptor on, for an image of
`total_blocks` blocks. -/
def replayDescriptors (image : Image Block) (superblock : Superblock) :
    Nat → List JournalDescriptor → Image Block → Except CheckError (Image Block)
  | _, [], replayed => .ok replayed
  | index, descriptor :: rest, replayed =>
    match checkedAdd superblock.journalStart (1 + index) with
    | none => .error (.invalid "journal payload overflow")
    | some payloadBlock => do
        let _ ← blockOffset payloadBlock
        if superblock.totalBlocks ≤ payloadBlock then .error .truncated
        else if crc32 (window (image payloadBlock) 0 blockSize) ≠ descriptor.checksum then
          .error (.invalid "journal payload checksum mismatch")
        else do
          let _ ← blockOffset descriptor.targetBlock
          replayDescriptors image superblock (index + 1) rest
            (store replayed (descriptor.targetBlock, image payloadBlock))

def replayToMemory (image : Image Block) (superblock : Superblock)
    (header : JournalHeader) : Except CheckError (Image Block) :=
  replayDescriptors image superblock 0 header.descriptors image

/-- The image that `check_xenithfs` goes on with. -/
def effectiveImage (image : Image Block) (superblock : Superblock) :
    Except CheckError (Image Block) := do
  let header ← (parse (image superblock.journalStart)).mapError CheckError.ofJournal
  (header.validateFor superblock).mapError CheckError.ofJournal
  if header.prepared then replayToMemory image superblock header
  else pure image

section Replay

variable {superblock : Superblock} {image : Image Block}
variable {descriptors : List JournalDescriptor} {block : Nat} {header : JournalHeader}

theorem validateFor_eq_ok :
    header.validateFor superblock = .ok () ↔ header.descriptors.length < superblock.journalBlocks ∧
      ∀ descriptor ∈ header.descriptors, badTarget superblock descriptor.targetBlock = false := by
  have targets : header.validateFor superblock =
    if superblock.journalBlocks ≤ header.descriptors.length then .error .tooManyDescriptors
    else if header.descriptors.any (fun descriptor =>
      badTarget superblock descriptor.targetBlock) then
      .error .invalidTarget
    else .ok () := rfl
  rw [targets]
  split_ifs with many bad
  · simp [not_lt.mpr many]
  · simpa using fun _ => bad
  · simp only [List.any_eq_true, not_exists, not_and, Bool.not_eq_true] at bad
    exact iff_of_true rfl ⟨not_le.mp many, bad⟩

theorem targets_of_allReplayable
    (all : AllReplayable superblock (payloads image block descriptors)) :
    ∀ descriptor ∈ descriptors, badTarget superblock descriptor.targetBlock = false := by
  induction descriptors generalizing block with
  | nil => simp
  | cons descriptor _ ih =>
    obtain ⟨first, later⟩ := List.forall_mem_cons.mp all
    exact List.forall_mem_cons.mpr ⟨first.1, ih later⟩

theorem replayDescriptors_eq_ok (valid : superblock.Valid) {index : Nat}
    {replayed result : Image Block} (few : index + descriptors.length < superblock.journalBlocks)
    (targets : ∀ descriptor ∈ descriptors, badTarget superblock descriptor.targetBlock = false) :
    replayDescriptors image superblock index descriptors replayed = .ok result ↔
      AllReplayable superblock (payloads image (superblock.journalStart + 1 + index) descriptors) ∧
        result = storeAll replayed
          (homes (payloads image (superblock.journalStart + 1 + index) descriptors)) := by
  induction descriptors generalizing index replayed with
  | nil => simp [replayDescriptors, payloads, AllReplayable, homes, storeAll, eq_comm]
  | cons descriptor _ ih =>
    obtain ⟨target, later⟩ := List.forall_mem_cons.mp targets
    obtain ⟨_, inside, _⟩ := outside_of_not_badTarget target
    have journalEnd := valid.journalEnd
    have data := valid.data
    have addressable := valid.addressable
    rw [List.length_cons] at few
    have payload :
        checkedAdd superblock.journalStart (1 + index) =
          some (superblock.journalStart + 1 + index) := by
      rw [checkedAdd_of_lt (by omega), Nat.add_assoc]
    have offset {block : Nat} (small : block < superblock.totalBlocks) :
        blockOffset block = .ok (block * blockSize) := by
      unfold blockOffset blockSize
      rw [if_pos (by omega)]
    rw [replayDescriptors, payload]
    simp only [offset (show superblock.journalStart + 1 + index <
        superblock.totalBlocks by omega), offset inside, Bind.bind,
      Except.bind]
    rw [if_neg (by omega), payloads, AllReplayable, List.forall_mem_cons]
    split_ifs with mismatch
    · simp [Replayable, mismatch]
    · rw [ih (by omega) later]
      have first := And.intro target (not_not.mp mismatch)
      exact ⟨fun holds => ⟨⟨first, holds.1⟩, holds.2⟩, fun holds => ⟨holds.1.2, holds.2⟩⟩

theorem effectiveImage_eq_ok (valid : superblock.Valid)
    (parsed : parse (image superblock.journalStart) = .ok header) (replayed : Image Block) :
    effectiveImage image superblock = .ok replayed ↔
      header.descriptors.length < superblock.journalBlocks ∧
        AllReplayable superblock (payloads image (superblock.journalStart + 1) header.descriptors) ∧
        replayed = storeAll image
          (homes (payloads image (superblock.journalStart + 1) header.descriptors)) := by
  unfold effectiveImage
  rw [parsed]
  simp only [Except.mapError, Bind.bind, Except.bind]
  cases validated : header.validateFor superblock with
  | error error =>
    refine iff_of_false (by simp) ?_
    rintro ⟨few, all, _⟩
    have accepted := validateFor_eq_ok.mpr ⟨few, targets_of_allReplayable all⟩
    rw [validated] at accepted
    cases accepted
  | ok =>
    obtain ⟨few, targets⟩ := validateFor_eq_ok.mp validated
    cases prepared : header.prepared with
    | true =>
      rw [if_pos rfl, replayToMemory,
        replayDescriptors_eq_ok valid (by rwa [Nat.zero_add]) targets, and_iff_right few]
    | false =>
      rw [descriptors_of_unprepared parsed prepared] at few ⊢
      rw [and_iff_right few]
      simp [payloads, AllReplayable, homes, storeAll, pure, Except.pure, eq_comm]

/-- The descriptors in front of the first bad one, with their payloads; none if
the header is refused. -/
def startedItems (superblock : Superblock) (image : Image Block) :
    List (JournalDescriptor × Block) :=
  match parse (image superblock.journalStart) with
  | .error _ => []
  | .ok header =>
    if superblock.journalBlocks ≤ header.descriptors.length then []
    else replayedItems superblock (payloads image (superblock.journalStart + 1) header.descriptors)

theorem startedItems_of_parsed (parsed : parse (image superblock.journalStart) = .ok header)
    (few : ¬ superblock.journalBlocks ≤ header.descriptors.length) :
    startedItems superblock image = replayedItems superblock
      (payloads image (superblock.journalStart + 1) header.descriptors) := by
  rw [startedItems, parsed]
  exact if_neg few

/-- A replay ends well if the checker accepts the image, with the same home
blocks. -/
theorem replayJournal_agrees (valid : superblock.Valid) (disk : Disk Block) :
    Meets False (fun disk => ∀ image, disk.Crash image → True)
      (fun _ after =>
        ∃ replayed, effectiveImage disk.view superblock = .ok replayed ∧
          ∀ block, Outside superblock block → after.view block = replayed block)
      (fun _ after =>
        (¬ ∃ replayed, effectiveImage disk.view superblock = .ok replayed) ∧
          after.view = storeAll disk.view (homes (startedItems superblock disk.view)))
      (replayJournal superblock) disk := by
  have whatever : ∀ disk : Disk Block, ∀ image, disk.Crash image → True := fun _ _ _ => trivial
  apply meets_bind
  apply meets_readBlock (journal_sectors valid) (whatever _)
  apply meets_bind
  cases parsed : parse (disk.view superblock.journalStart) with
  | error error =>
    refine ⟨whatever _, ?_, by rw [startedItems, parsed]; rfl⟩
    rintro ⟨replayed, ok⟩
    rw [effectiveImage, parsed] at ok
    cases ok
  | ok header =>
    have accepts replayed := effectiveImage_eq_ok valid parsed replayed
    apply meets_ofExcept_ok rfl (whatever _)
    rw [replayHeader]
    split_ifs with many prepared
    · refine ⟨whatever _, ?_, ?_⟩
      · rintro ⟨replayed, ok⟩
        exact absurd ((accepts _).mp ok).1 (not_lt.mpr many)
      · simp only [startedItems, parsed, if_pos many]
        rfl
    · apply meets_bind
      apply replayPayload_meets valid (Nat.lt_succ_self _) (by omega) rfl
        (fun _ _ => whatever _) _ _ False.elim
      · intro all
        apply meets_bind
        apply meets_flush (whatever _) (whatever _) _ False.elim
        apply writeHeader_meets valid rfl
          (encode_clean header.sequence) trivial trivial _ False.elim
        apply meets_pure (whatever _)
        refine ⟨_, (accepts _).mpr ⟨not_le.mp many, all, rfl⟩, ?_⟩
        intro block outside
        exact (store_of_ne (not_outside_journalStart valid outside)).trans
          (congrFun (disk.view_writes _) block)
      · intro notAll error
        constructor
        · rintro ⟨replayed, ok⟩
          exact notAll ((accepts _).mp ok).2.1
        · rw [startedItems_of_parsed parsed many]
          exact disk.view_writes _
    · apply meets_pure (whatever _)
      have empty := descriptors_of_unprepared parsed (Bool.eq_false_iff.mpr prepared)
      refine ⟨disk.view, (accepts _).mpr ?_, fun _ _ => rfl⟩
      rw [empty]
      exact ⟨by rw [List.length_nil]; omega, List.forall_mem_nil _, rfl⟩

end Replay

/-! ## The comparison -/

/-- The checker accepts the image, or the home blocks of the descriptors in
front of the first bad one hold their payloads already. -/
def Harmless (superblock : Superblock) (image : Image Block) : Prop :=
  (∃ replayed, effectiveImage image superblock = .ok replayed) ∨
    storeAll image (homes (startedItems superblock image)) = image

/-- The kernel and the checker accept the same journals and replay them alike;
a refused journal changes nothing exactly if it is harmless. -/
theorem replay_matches_check {record : Block} {superblock : Superblock}
    (parsed : Superblock.parse record = .ok superblock) {image : Image Block}
    {result : Except XenithFsError UInt64} {after : Disk Block}
    (ran : Program.run (replayJournal superblock) ⟨image, []⟩ = (result, after)) :
    ((∃ sequence, result = .ok sequence) ↔
        ∃ replayed, effectiveImage image superblock = .ok replayed) ∧
      (∀ sequence replayed, result = .ok sequence → effectiveImage image superblock = .ok replayed →
        ∀ block, superblock.containsJournalBlock block = false →
          after.view block = replayed block) ∧
      ((∀ error, result = .error error → after.view = image) ↔ Harmless superblock image) := by
  have valid := Superblock.valid_of_parse parsed
  have ends := Program.Meets.run (replayJournal_agrees valid ⟨image, []⟩)
  rw [ran] at ends
  cases result with
  | ok sequence =>
    obtain ⟨replayed, accepted, same⟩ := ends
    have isOk : ∃ replayed, effectiveImage image superblock = .ok replayed := ⟨replayed, accepted⟩
    refine ⟨⟨fun _ => isOk, fun _ => ⟨sequence, rfl⟩⟩, ?_, iff_of_true nofun (.inl isOk)⟩
    rintro _ _ _ isOther
    cases accepted.symm.trans isOther
    exact same
  | error error =>
    obtain ⟨refused, viewed⟩ := ends
    refine ⟨⟨nofun, fun accepted => absurd accepted refused⟩, nofun, ?_⟩
    rw [viewed]
    exact ⟨fun unchanged => .inr (unchanged error rfl),
      fun harmless _ _ => harmless.resolve_left refused⟩

/-! ## Two journals -/

/-- A volume whose journal has one payload block. -/
def journalVolume (descriptors : List JournalDescriptor) : Image Block :=
  fun block =>
    if block = 3 then (⟨true, 1, descriptors⟩ : JournalHeader).sealed
    else if block = 4 then fun _ => 9
    else zeroRecord

def homeDescriptor : JournalDescriptor :=
  ⟨20, crc32 (window (fun _ => 9) 0 blockSize)⟩

theorem smallVolume_parsed : Superblock.parse smallVolume.sealed = .ok smallVolume :=
  Superblock.parse_encode (by constructor <;> decide) rfl

theorem journalVolume_parsed {descriptors : List JournalDescriptor}
    (fits : (⟨true, 1, descriptors⟩ : JournalHeader).Fits)
    (few : descriptors.length ≤ maxDescriptors) :
    parse (journalVolume descriptors smallVolume.journalStart) = .ok ⟨true, 1, descriptors⟩ :=
  parse_encode fits (encode_prepared rfl few)

theorem homeDescriptor_replayable : Replayable smallVolume (fun _ => 9) homeDescriptor :=
  ⟨by decide, rfl⟩

theorem single_replayed :
    ∃ sequence after,
      Program.run (replayJournal smallVolume)
          ⟨journalVolume [homeDescriptor], []⟩ = (.ok sequence, after) ∧
        after.view 20 = fun _ => 9 := by
  have valid := Superblock.valid_of_parse smallVolume_parsed
  have parsed := journalVolume_parsed
    (show (⟨true, 1, [homeDescriptor]⟩ : JournalHeader).Fits from by
      intro descriptor member
      rw [List.mem_singleton.mp member]
      decide) (by decide)
  have all :
      AllReplayable smallVolume (payloads (journalVolume [homeDescriptor]) 4 [homeDescriptor]) := by
    intro item member
    rw [List.mem_singleton.mp member]
    exact homeDescriptor_replayable
  have accepted := (effectiveImage_eq_ok valid parsed _).mpr ⟨by decide, all, rfl⟩
  cases ran : Program.run (replayJournal smallVolume) ⟨journalVolume [homeDescriptor], []⟩ with
  | mk _ after =>
    obtain ⟨verdict, same, _⟩ := replay_matches_check smallVolume_parsed ran
    obtain ⟨sequence, rfl⟩ := verdict.mpr ⟨_, accepted⟩
    exact ⟨sequence, after, rfl, same sequence _ rfl accepted 20 rfl⟩

/-- The descriptors of a journal with a bad one behind a good one. -/
def brokenDescriptors : List JournalDescriptor :=
  [homeDescriptor, ⟨0, 0⟩]

theorem brokenDescriptors_parsed :
    parse (journalVolume brokenDescriptors smallVolume.journalStart) =
      .ok ⟨true, 1, brokenDescriptors⟩ := by
  apply journalVolume_parsed _ (by decide)
  intro descriptor member
  rcases List.mem_pair.mp member with rfl | rfl
  · decide
  · decide

theorem brokenDescriptors_started :
    startedItems smallVolume (journalVolume brokenDescriptors) =
      [(homeDescriptor, fun _ => 9)] := by
  have bad : ¬ Replayable smallVolume zeroRecord ⟨0, 0⟩ :=
    fun replayable => absurd replayable.1 (by decide)
  rw [startedItems_of_parsed brokenDescriptors_parsed (by decide)]
  have listed :
      payloads (journalVolume brokenDescriptors) (smallVolume.journalStart + 1) brokenDescriptors =
        [(homeDescriptor, fun _ => 9), (⟨0, 0⟩, zeroRecord)] := rfl
  rw [listed]
  simp [replayedItems, homeDescriptor_replayable, bad]

/-- The replay of this journal fails after it has changed a block. -/
theorem refused_replay_writes :
    ∃ error after,
      Program.run (replayJournal smallVolume)
          ⟨journalVolume brokenDescriptors, []⟩ = (.error error, after) ∧
        after.view 20 ≠ journalVolume brokenDescriptors 20 := by
  have valid := Superblock.valid_of_parse smallVolume_parsed
  have ends := Program.Meets.run (replayJournal_agrees valid ⟨journalVolume brokenDescriptors, []⟩)
  cases ran : Program.run (replayJournal smallVolume) ⟨journalVolume brokenDescriptors, []⟩ with
  | mk result after =>
    rw [ran] at ends
    cases result with
    | ok =>
      obtain ⟨_, accepted, _⟩ := ends
      have all := ((effectiveImage_eq_ok valid brokenDescriptors_parsed _).mp accepted).2.1
      have last := all _ (List.mem_cons_of_mem _ (List.mem_singleton_self _))
      exact absurd last.1 (by decide)
    | error error =>
      have viewed : after.view = storeAll (journalVolume brokenDescriptors)
        (homes (startedItems smallVolume (journalVolume brokenDescriptors))) := ends.2
      rw [brokenDescriptors_started] at viewed
      refine ⟨error, after, rfl, ?_⟩
      rw [viewed]
      intro same
      exact absurd (congrFun same 0) (by decide)

end Xenith.Fs.XenithFs
