import Xenith.Fs.XenithFs.Journal

/-!
# Crash atomicity of the journal

A crash inside of a commit leaves a settled volume or a prepared journal, whose
replay stays recoverable at every point and ends after the transaction.
-/

namespace Xenith.Fs.XenithFs

open Xenith.BlockProgram
open Xenith.Bytes
open Xenith.Fs.Format
open Store JournalHeader
open Program

def Outside (superblock : Superblock) (block : Nat) : Prop :=
  superblock.containsJournalBlock block = false

/-- A journal block behind the header. -/
def IsPayload (superblock : Superblock) (block : Nat) : Prop :=
  superblock.containsJournalBlock block = true ∧ block ≠ superblock.journalStart

def Clean (superblock : Superblock) (image : Image Block) : Prop :=
  ∃ header,
    JournalHeader.parse (image superblock.journalStart) = .ok header ∧ header.prepared = false

/-- A clean journal and the given content outside of it. -/
structure Settled (superblock : Superblock) (content image : Image Block) : Prop where
  clean : Clean superblock image
  holds : ∀ block, Outside superblock block → image block = content block

def applyUpdates (content : Image Block) (updates : List BlockUpdate) : Image Block :=
  storeAll content (homeWrites updates)

/-- The updates pass the checks of `commit_updates`. -/
structure Accepted (superblock : Superblock) (updates : List BlockUpdate) : Prop where
  few : updates.length < superblock.journalBlocks
  targets : ∀ update ∈ updates, badTarget superblock update.target = false

/-- The updates that `commit_updates` refuses. -/
def Refused (superblock : Superblock) (updates : List BlockUpdate) : Prop :=
  ¬ Accepted superblock updates ∨ maxDescriptors < updates.length

/-- The journal holds the whole transaction. -/
structure Redo (superblock : Superblock) (content : Image Block)
    (updates : List BlockUpdate) (image : Image Block) : Prop where
  accepted : Accepted superblock updates
  header : ∃ sequence, JournalHeader.parse (image superblock.journalStart) =
    .ok ⟨true, sequence, updates.map descriptorOf⟩
  payload : ∀ index (inside : index < updates.length),
    image (superblock.journalStart + 1 + index) = updates[index].data
  holds : ∀ block, Outside superblock block →
    block ∉ (homeWrites updates).map Prod.fst → image block = content block

/-- A settled volume with pending writes to the payload blocks only. -/
structure Quiet (superblock : Superblock) (content : Image Block) (disk : Disk Block) : Prop where
  durable : Settled superblock content disk.durable
  pending : ∀ change ∈ disk.pending, IsPayload superblock change.1

/-- What a crash inside of a commit leaves. -/
def Recoverable (superblock : Superblock) (content : Image Block)
    (updates : List BlockUpdate) (image : Image Block) : Prop :=
  Settled superblock content image ∨
    Redo superblock content updates image ∨
    Settled superblock (applyUpdates content updates) image

section Commit

variable {superblock : Superblock} {content : Image Block}
variable {updates : List BlockUpdate} {image : Image Block} {disk : Disk Block}

theorem outside_of_not_badTarget {target : Nat} (allowed : badTarget superblock target = false) :
    target ≠ 0 ∧ target < superblock.totalBlocks ∧ Outside superblock target := by
  unfold badTarget at allowed
  simp only [Bool.or_eq_false_iff, decide_eq_false_iff_not, not_le] at allowed
  exact ⟨allowed.1.1, allowed.1.2, allowed.2⟩

theorem journalStart_inside (valid : superblock.Valid) :
    superblock.containsJournalBlock superblock.journalStart = true := by
  have journal := valid.journal
  simp only [Superblock.containsJournalBlock, Bool.and_eq_true, decide_eq_true_eq]
  omega

variable {block : Nat} {change : Nat × Block} {faulty : Prop} {property ends : Image Block → Prop}
variable {failed : XenithFsError → Disk Block → Prop} {header : JournalHeader}

theorem isPayload_iff :
    IsPayload superblock block ↔ superblock.journalStart < block ∧
      block < superblock.journalStart + superblock.journalBlocks := by
  simp only [IsPayload, Superblock.containsJournalBlock, Bool.and_eq_true, decide_eq_true_eq]
  omega

theorem not_outside_journalStart (valid : superblock.Valid)
    (outside : Outside superblock block) : block ≠ superblock.journalStart := by
  intro same
  rw [Outside, same, journalStart_inside valid] at outside
  cases outside

theorem IsPayload.ne_outside {payload : Nat} (isPayload : IsPayload superblock payload)
    (outside : Outside superblock block) : block ≠ payload := by
  rintro rfl
  exact Bool.false_ne_true (outside.symm.trans isPayload.1)

theorem sectors_fit (valid : superblock.Valid) (inside : block < superblock.totalBlocks) :
    block * sectorsPerBlock < 2 ^ 64 := by
  have addressable := valid.addressable
  simp only [sectorsPerBlock]
  omega

/-! ## Images under single writes -/

theorem Settled.store_payload
    (settled : Settled superblock content image) (payload : IsPayload superblock change.1) :
    Settled superblock content (store image change) := by
  constructor
  · obtain ⟨header, parsed, unprepared⟩ := settled.clean
    refine ⟨header, ?_, unprepared⟩
    rw [store_of_ne payload.2.symm]
    exact parsed
  · intro block outside
    rw [store_of_ne (payload.ne_outside outside)]
    exact settled.holds block outside

theorem Redo.store_home (valid : superblock.Valid) (redo : Redo superblock content updates image)
    (outside : Outside superblock change.1)
    (target : change.1 ∈ (homeWrites updates).map Prod.fst) :
    Redo superblock content updates (store image change) := by
  have few := redo.accepted.few
  constructor
  · exact redo.accepted
  · rw [store_of_ne (not_outside_journalStart valid outside).symm]
    exact redo.header
  · intro index inside
    have payload : IsPayload superblock (superblock.journalStart + 1 + index) := by
      rw [isPayload_iff]
      omega
    rw [store_of_ne (payload.ne_outside outside).symm]
    exact redo.payload index inside
  · intro block isOutside untouched
    have different : block ≠ change.1 := by
      intro same
      apply untouched
      rw [same]
      exact target
    rw [store_of_ne different]
    exact redo.holds block isOutside untouched

/-- The header is the last write of a redo journal. -/
theorem Settled.store_prepared
    (valid : superblock.Valid) (settled : Settled superblock content image)
    (accepted : Accepted superblock updates) {header : Block} {sequence : UInt64}
    (parsed : JournalHeader.parse header = .ok ⟨true, sequence, updates.map descriptorOf⟩)
    (payload : ∀ index (inside : index < updates.length),
      image (superblock.journalStart + 1 + index) = updates[index].data) :
    Redo superblock content updates (store image (superblock.journalStart, header)) := by
  constructor
  · exact accepted
  · refine ⟨sequence, ?_⟩
    rw [store_self]
    exact parsed
  · intro index inside
    rw [store_of_ne (by simp only; omega)]
    exact payload index inside
  · intro block outside _
    rw [store_of_ne (not_outside_journalStart valid outside)]
    exact settled.holds block outside

theorem Redo.store_clean (valid : superblock.Valid) {header : Block}
    (home : ∀ block, Outside superblock block → image block = applyUpdates content updates block)
    {sequence : UInt64} (parsed : JournalHeader.parse header = .ok (JournalHeader.clean sequence)) :
    Settled superblock (applyUpdates content updates)
      (store image (superblock.journalStart, header)) := by
  constructor
  · refine ⟨JournalHeader.clean sequence, ?_, rfl⟩
    rw [store_self]
    exact parsed
  · intro block outside
    rw [store_of_ne (not_outside_journalStart valid outside)]
    exact home block outside

theorem Quiet.crash (quiet : Quiet superblock content disk) (crash : disk.Crash image) :
    Settled superblock content image := by
  apply crash.induction quiet.durable
  intro change member other settled
  exact settled.store_payload (quiet.pending change member)

theorem Quiet.view (quiet : Quiet superblock content disk) : Settled superblock content disk.view :=
  quiet.crash disk.crash_view

/-- All home writes over a redo journal give the content after the
transaction. -/
theorem Redo.storeAll_home
    (redo : Redo superblock content updates image) (outside : Outside superblock block) :
    storeAll image (homeWrites updates) block = applyUpdates content updates block := by
  apply storeAll_congr
  by_cases written : block ∈ (homeWrites updates).map Prod.fst
  · exact Or.inl written
  · exact Or.inr (redo.holds block outside written)

/-! ## The payload -/

theorem payloadWrites_fst (block : Nat) (updates : List BlockUpdate) :
    (payloadWrites block updates).map Prod.fst = List.range' block updates.length := by
  induction updates generalizing block with
  | nil => rfl
  | cons _ _ ih => rw [payloadWrites, List.map_cons, ih, List.length_cons, List.range'_succ]

theorem mem_payloadWrites {index : Nat} (inside : index < updates.length) :
    (block + index, updates[index].data) ∈ payloadWrites block updates := by
  induction updates generalizing block index with
  | nil => cases inside
  | cons _ _ ih =>
    cases index with
    | zero => exact List.mem_cons_self ..
    | succ index =>
      have shifted : block + (index + 1) = block + 1 + index := by omega
      rw [shifted]
      apply List.mem_cons_of_mem
      apply ih

theorem isPayload_of_mem_payloadWrites (few : updates.length < superblock.journalBlocks)
    (member : change ∈ payloadWrites (superblock.journalStart + 1) updates) :
    IsPayload superblock change.1 := by
  have inRange : change.1 ∈ List.range' (superblock.journalStart + 1) updates.length := by
    rw [← payloadWrites_fst]
    exact List.mem_map_of_mem member
  rw [List.mem_range'_1] at inRange
  rw [isPayload_iff]
  omega

theorem Quiet.writes (quiet : Quiet superblock content disk) {changes : List (Nat × Block)}
    (payload : ∀ change ∈ changes, IsPayload superblock change.1) :
    Quiet superblock content (disk.writes changes) :=
  ⟨quiet.durable, List.forall_mem_append.mpr ⟨quiet.pending, payload⟩⟩

theorem Quiet.flush (quiet : Quiet superblock content disk) :
    Quiet superblock content disk.flush := by
  refine ⟨quiet.view, ?_⟩
  intro change member
  cases member

structure Staged (superblock : Superblock) (content : Image Block)
    (updates : List BlockUpdate) (disk : Disk Block) : Prop where
  quiet : Quiet superblock content disk
  settled : disk.pending = []
  payload : ∀ index (inside : index < updates.length),
    disk.durable (superblock.journalStart + 1 + index) = updates[index].data

theorem Quiet.staged
    (quiet : Quiet superblock content disk) (few : updates.length < superblock.journalBlocks) :
    Staged superblock content updates
      (disk.writes (payloadWrites (superblock.journalStart + 1) updates)).flush := by
  have written := quiet.writes fun change member => isPayload_of_mem_payloadWrites few member
  refine ⟨written.flush, rfl, ?_⟩
  intro index inside
  have distinct : ((payloadWrites (superblock.journalStart + 1) updates).map Prod.fst).Nodup := by
    rw [payloadWrites_fst]
    exact List.nodup_range'
  have member :
      (superblock.journalStart + 1 + index, updates[index].data) ∈
        payloadWrites (superblock.journalStart + 1) updates :=
    mem_payloadWrites inside
  change (disk.writes _).view _ = _
  rw [Disk.view_writes]
  exact storeAll_of_mem distinct member

theorem payload_sectors
    (valid : superblock.Valid) (few : updates.length < superblock.journalBlocks) :
    ∀ change ∈ payloadWrites (superblock.journalStart + 1) updates,
      change.1 * sectorsPerBlock < 2 ^ 64 := by
  intro change member
  have inside := isPayload_iff.mp (isPayload_of_mem_payloadWrites few member)
  have journal := valid.journalEnd
  have data := valid.data
  exact sectors_fit valid (by omega)

/-- A payload that is cut leaves the volume quiet. -/
theorem writePayload_meets
    (faulty : Prop) (valid : superblock.Valid) (quiet : Quiet superblock content disk)
    (few : updates.length < superblock.journalBlocks) :
    Store.Meets faulty (Quiet superblock content)
      (fun _ after => after = disk.writes (payloadWrites (superblock.journalStart + 1) updates))
      (fun _ after => faulty ∧ Quiet superblock content after)
      (writePayload (superblock.journalStart + 1) updates) disk := by
  have cut :
      ∀ front, front <+: payloadWrites (superblock.journalStart + 1) updates →
        Quiet superblock content (disk.writes front) := by
    intro front isFront
    apply quiet.writes
    intro change member
    exact isPayload_of_mem_payloadWrites few (isFront.subset member)
  rw [writePayload_eq]
  apply meets_writeAll (payload_sectors valid few) cut rfl
  intro isFaulty front isFront
  exact ⟨isFaulty, cut front isFront⟩

/-! ## Committing -/

/-- The commit from a durable prepared header on. -/
def commitPrepared (superblock : Superblock) (sequence : UInt64)
    (updates : List BlockUpdate) : Store UInt64 := do
  writeHome updates
  flushDevice
  let clean ← Store.ofExcept (encodeHeader (JournalHeader.clean sequence))
  writeBlock superblock.journalStart clean
  flushDevice
  pure sequence

/-- The commit from a durable payload on. -/
def commitStaged (superblock : Superblock) (sequence : UInt64)
    (updates : List BlockUpdate) : Store UInt64 := do
  let prepared ← Store.ofExcept (encodeHeader ⟨true, sequence, updates.map descriptorOf⟩)
  writeBlock superblock.journalStart prepared
  flushDevice
  commitPrepared superblock sequence updates

theorem commitUpdates_eq
    {stateSequence : UInt64} (nonempty : updates ≠ []) (accepted : Accepted superblock updates) :
    commitUpdates superblock stateSequence updates =
      (do
        writePayload (superblock.journalStart + 1) updates
        flushDevice
        commitStaged superblock (stateSequence + 1) updates) := by
  have allowed : updates.any (fun update => badTarget superblock update.target) = false := by
    rw [List.any_eq_false]
    intro update member
    rw [accepted.targets update member]
    exact Bool.false_ne_true
  unfold commitUpdates
  rw [if_neg nonempty, if_neg (not_le.mpr accepted.few), allowed]
  rfl

theorem Redo.recoverable (redo : Redo superblock content updates image) :
    Recoverable superblock content updates image :=
  Or.inr (Or.inl redo)

/-- A disk whose crashes are all recoverable. -/
def Safe (superblock : Superblock) (content : Image Block)
    (updates : List BlockUpdate) (disk : Disk Block) : Prop :=
  ∀ image, disk.Crash image → Recoverable superblock content updates image

theorem Quiet.safe (quiet : Quiet superblock content disk) :
    Safe superblock content updates disk := by
  intro image crash
  exact Or.inl (quiet.crash crash)

section Valid

variable (valid : superblock.Valid)

include valid

theorem Redo.crash_home (redo : Redo superblock content updates disk.durable)
    (home : ∀ change ∈ disk.pending, change ∈ homeWrites updates)
    (crash : disk.Crash image) : Redo superblock content updates image := by
  apply crash.induction redo
  intro change member other isRedo
  obtain ⟨update, inUpdates, rfl⟩ := List.mem_map.mp (home change member)
  have allowed := redo.accepted.targets update inUpdates
  apply isRedo.store_home valid
  · exact (outside_of_not_badTarget allowed).2.2
  · exact List.mem_map_of_mem (List.mem_map_of_mem inUpdates)

theorem home_sectors (accepted : Accepted superblock updates) :
    ∀ change ∈ homeWrites updates, change.1 * sectorsPerBlock < 2 ^ 64 := by
  intro change member
  obtain ⟨update, inUpdates, rfl⟩ := List.mem_map.mp member
  have allowed := outside_of_not_badTarget (accepted.targets update inUpdates)
  exact sectors_fit valid allowed.2.1

theorem journal_sectors : superblock.journalStart * sectorsPerBlock < 2 ^ 64 := by
  have journal := valid.journalEnd
  have data := valid.data
  exact sectors_fit valid (by omega)

theorem fits_of_accepted (accepted : Accepted superblock updates) (sequence : UInt64) :
    JournalHeader.Fits ⟨true, sequence, updates.map descriptorOf⟩ := by
  intro descriptor member
  obtain ⟨update, inUpdates, rfl⟩ := List.mem_map.mp member
  have allowed := outside_of_not_badTarget (accepted.targets update inUpdates)
  have addressable := valid.addressable
  simp only [descriptorOf]
  omega

/-- A crash while a header is written sees the old header or the new one. -/
theorem writeHeader_meets {Value : Type} {post : Value → Disk Block → Prop} {next : Store Value}
    (settled : disk.pending = []) (encoded : header.encode = .ok header.sealed)
    (old : property disk.durable)
    (new : property (store disk.durable (superblock.journalStart, header.sealed)))
    (later : Store.Meets faulty (fun disk => ∀ image, disk.Crash image → property image)
      post failed next ⟨store disk.durable (superblock.journalStart, header.sealed), []⟩)
    (onFailure : faulty → ∀ after, failed .io after) :
    Store.Meets faulty (fun disk => ∀ image, disk.Crash image → property image)
      post failed
      (do
        let record ← Store.ofExcept (encodeHeader header)
        writeBlock superblock.journalStart record
        flushDevice
        next)
      disk := by
  have wrapped : encodeHeader header = .ok header.sealed := by
    rw [encodeHeader, encoded]
    rfl
  have here := Disk.forall_crash_of_settled settled old
  have written :
      ∀ image, (disk.write superblock.journalStart header.sealed).Crash image → property image := by
    intro image crash
    have single :
        (disk.write superblock.journalStart header.sealed).pending =
          [(superblock.journalStart, header.sealed)] := by
      simp [Disk.write, settled]
    rcases Disk.crash_of_single single crash with same | same
    · rw [same]
      exact old
    · rw [same]
      exact new
  have flushed := Disk.flush_write settled superblock.journalStart header.sealed
  apply meets_bind
  apply meets_ofExcept_ok wrapped here
  apply meets_bind
  apply meets_writeBlock (journal_sectors valid) here written
  · apply meets_bind
    apply meets_flush written
    · rw [flushed]
      exact Disk.forall_crash_of_settled rfl new
    · rw [flushed]
      exact later
    · exact fun isFaulty => onFailure isFaulty _
  · exact fun isFaulty => ⟨onFailure isFaulty _, onFailure isFaulty _⟩

end Valid

/-- The end of a commit and of a replay: a crash during the home writes keeps
the redo journal, and once they are durable the journal is marked clean. -/
theorem Redo.finish_meets (faulty : Prop) {Value : Type} (valid : superblock.Valid)
    (redo : Redo superblock content updates disk.durable) (settled : disk.pending = [])
    (keeps : ∀ image, Redo superblock content updates image ∨
        Settled superblock (applyUpdates content updates) image →
      property image)
    (sequence : UInt64) (value : Value) :
    (∀ front, front <+: homeWrites updates →
        ∀ image, (disk.writes front).Crash image → property image) ∧
      Store.Meets faulty
        (fun disk => ∀ image, disk.Crash image → property image)
        (fun result after =>
          result = value ∧ after.pending = [] ∧
            Settled superblock (applyUpdates content updates) after.durable)
        (fun _ _ => faulty)
        (do
          flushDevice
          let clean ← Store.ofExcept (encodeHeader (JournalHeader.clean sequence))
          writeBlock superblock.journalStart clean
          flushDevice
          pure value)
        (disk.writes (homeWrites updates)) := by
  have cut :
      ∀ front, front <+: homeWrites updates →
        ∀ image, (disk.writes front).Crash image → Redo superblock content updates image := by
    intro front isFront image crash
    have durable : Redo superblock content updates (disk.writes front).durable := redo
    apply durable.crash_home valid _ crash
    intro change member
    simp only [Disk.writes, settled] at member
    exact isFront.subset member
  let written := disk.writes (homeWrites updates)
  have redone : Redo superblock content updates written.view :=
    cut _ List.prefix_rfl _ written.crash_view
  have home :
      ∀ block, Outside superblock block →
        written.view block = applyUpdates content updates block := by
    intro block outside
    have same : disk.view = disk.durable := by
      rw [Disk.view, settled]
      rfl
    rw [Disk.view_writes, same]
    exact redo.storeAll_home outside
  have crashes :
      ∀ front, front <+: homeWrites updates →
        ∀ image, (disk.writes front).Crash image → property image := by
    intro front isFront image crash
    exact keeps _ (Or.inl (cut front isFront image crash))
  have encoded := encode_clean sequence
  have parsed := parse_encode (clean_fits sequence) encoded
  have cleaned := Redo.store_clean valid home parsed
  have flushed := keeps _ (Or.inl redone)
  have new := keeps _ (Or.inr cleaned)
  refine ⟨crashes, ?_⟩
  apply meets_bind
  apply meets_flush (crashes _ List.prefix_rfl) (Disk.forall_crash_of_settled rfl flushed)
  · apply writeHeader_meets valid rfl encoded flushed new
    · exact meets_pure (Disk.forall_crash_of_settled rfl new) ⟨rfl, rfl, cleaned⟩
    · exact fun isFaulty _ => isFaulty
  · exact id

theorem commitPrepared_meets
    (faulty : Prop) (valid : superblock.Valid) (redo : Redo superblock content updates disk.durable)
    (settled : disk.pending = []) (sequence : UInt64) :
    Store.Meets faulty (Safe superblock content updates)
      (fun result after =>
        result = sequence ∧ after.pending = [] ∧
          Settled superblock (applyUpdates content updates) after.durable)
      (fun _ _ => faulty)
      (commitPrepared superblock sequence updates) disk := by
  obtain ⟨cut, finish⟩ := redo.finish_meets faulty valid settled (fun _ => Or.inr) sequence sequence
  unfold commitPrepared
  rw [writeHome_eq]
  apply meets_bind
  apply meets_writeAll (home_sectors valid redo.accepted) cut finish
  exact fun isFaulty _ _ => isFaulty

theorem commitStaged_meets
    (faulty : Prop) (valid : superblock.Valid) (accepted : Accepted superblock updates)
    (staged : Staged superblock content updates disk) (sequence : UInt64) :
    Store.Meets faulty (Safe superblock content updates)
      (fun result after =>
        result = sequence ∧ after.pending = [] ∧
          Settled superblock (applyUpdates content updates) after.durable)
      (fun _ after => faulty ∨ (Refused superblock updates ∧ Quiet superblock content after))
      (commitStaged superblock sequence updates) disk := by
  let header : JournalHeader := ⟨true, sequence, updates.map descriptorOf⟩
  unfold commitStaged
  by_cases few : updates.length ≤ maxDescriptors
  · have encoded : header.encode = .ok header.sealed :=
      encode_prepared rfl (by simpa [header] using few)
    have parsed := parse_encode (fits_of_accepted valid accepted sequence) encoded
    have prepared := staged.quiet.durable.store_prepared valid accepted parsed staged.payload
    apply writeHeader_meets valid staged.settled encoded
      (Or.inl staged.quiet.durable) prepared.recoverable
    · apply (commitPrepared_meets faulty valid prepared rfl sequence).mono
      · exact fun _ crashes => crashes
      · exact fun _ _ _ holds => holds
      · exact fun _ _ _ isFaulty => Or.inl isFaulty
    · exact fun isFaulty _ => Or.inl isFaulty
  · have refused : encodeHeader header = .error .transactionTooLarge := by
      have tooMany : maxDescriptors < header.descriptors.length := by
        simpa [header] using not_le.mp few
      rw [encodeHeader, JournalHeader.encode, if_pos tooMany]
      rfl
    rw [refused]
    exact ⟨staged.quiet.safe, Or.inr ⟨Or.inr (not_le.mp few), staged.quiet⟩⟩

/-- Every point of a commit is recoverable.  A commit that returns has applied
the whole transaction, and one that is refused has applied nothing. -/
theorem commitUpdates_meets (faulty : Prop) (valid : superblock.Valid)
    (quiet : Quiet superblock content disk) (stateSequence : UInt64) (updates : List BlockUpdate) :
    Store.Meets faulty (Safe superblock content updates)
      (fun _ after => Quiet superblock (applyUpdates content updates) after)
      (fun _ after => faulty ∨ (Refused superblock updates ∧ Quiet superblock content after))
      (commitUpdates superblock stateSequence updates) disk := by
  by_cases empty : updates = []
  · rw [empty]
    exact ⟨quiet.safe, quiet⟩
  · by_cases accepted : Accepted superblock updates
    · rw [commitUpdates_eq empty accepted]
      have staged := quiet.staged accepted.few
      apply meets_bind
      apply (writePayload_meets faulty valid quiet accepted.few).mono
      · exact fun _ isQuiet => isQuiet.safe
      · intro value after isQuiet same
        rw [same] at isQuiet
        rw [same]
        apply meets_bind
        apply meets_flush isQuiet.safe staged.quiet.safe
        · apply (commitStaged_meets faulty valid accepted staged (stateSequence + 1)).mono
          · exact fun _ crashes => crashes
          · rintro value after _ ⟨_, settled, durable⟩
            refine ⟨durable, ?_⟩
            rw [settled]
            intro change member
            cases member
          · exact fun _ _ _ holds => holds
        · exact Or.inl
      · exact fun _ _ _ holds => Or.inl holds.1
    · have refused :
          ∃ error, commitUpdates superblock stateSequence updates = Store.fail error := by
        unfold commitUpdates
        rw [if_neg empty]
        by_cases few : superblock.journalBlocks ≤ updates.length
        · rw [if_pos few]
          exact ⟨_, rfl⟩
        · rw [if_neg few]
          have bad : updates.any (fun update => badTarget superblock update.target) = true := by
            by_contra allowed
            apply accepted
            rw [Bool.not_eq_true, List.any_eq_false] at allowed
            refine ⟨not_le.mp few, ?_⟩
            intro update member
            simpa using allowed update member
          rw [bad]
          exact ⟨_, rfl⟩
      obtain ⟨error, same⟩ := refused
      rw [same]
      exact ⟨quiet.safe, Or.inr ⟨Or.inl accepted, quiet⟩⟩

/-- On a device without errors the commit returns, unless it refuses the
updates. -/
theorem commitUpdates_run
    (valid : superblock.Valid) (quiet : Quiet superblock content disk) (stateSequence : UInt64)
    (updates : List BlockUpdate) :
    ∃ result after, run (commitUpdates superblock stateSequence updates) disk = (result, after) ∧
      match result with
      | .ok _ => Quiet superblock (applyUpdates content updates) after
      | .error _ => Refused superblock updates ∧ Quiet superblock content after := by
  have finished := Meets.run (commitUpdates_meets False valid quiet stateSequence updates)
  refine ⟨_, _, rfl, ?_⟩
  generalize run (commitUpdates superblock stateSequence updates) disk = outcome at finished
  obtain ⟨result, after⟩ := outcome
  cases result with
  | ok sequence => exact finished
  | error error => exact finished.resolve_left id

/-! ## Replaying -/

theorem descriptors_of_unprepared {block : Block} (parsed : JournalHeader.parse block = .ok header)
    (unprepared : header.prepared = false) : header.descriptors = [] := by
  unfold JournalHeader.parse at parsed
  simp only at parsed
  split_ifs at parsed with zero _ state _ _ settled
  · cases parsed
    rfl
  · cases parsed
    have notOne : block 8 ≠ 1 := decide_eq_false_iff_not.mp unprepared
    have isZero : block 8 = 0 := by
      rw [UInt8.lt_iff_toNat_lt, not_lt] at state
      rcases Nat.le_one_iff_eq_zero_or_eq_one.mp state with isZero | isOne
      · exact UInt8.toNat_inj.mp isZero
      · exact absurd (UInt8.toNat_inj.mp isOne) notOne
    have none : readU16 block 10 = 0 := by
      by_contra some
      exact settled ⟨isZero, some⟩
    simp [JournalHeader.ofRecord, none]

variable {crash : Disk Block → Prop}

theorem replayJournal_meets {post : UInt64 → Disk Block → Prop} (valid : superblock.Valid)
    (parsed : JournalHeader.parse (disk.view superblock.journalStart) = .ok header)
    (crashes : crash disk)
    (meets : Store.Meets faulty crash post failed (replayHeader superblock header) disk) :
    Store.Meets faulty crash post failed (replayJournal superblock) disk := by
  apply meets_bind
  apply meets_readBlock (journal_sectors valid) crashes
  generalize disk.view superblock.journalStart = block at parsed
  have wrapped : (JournalHeader.parse block).mapError XenithFsError.ofJournal = .ok header := by
    rw [parsed]
    rfl
  apply meets_bind
  exact meets_ofExcept_ok wrapped crashes meets

/-- Replaying a settled volume only reads. -/
theorem replayJournal_settled
    (faulty : Prop) (valid : superblock.Valid) (settled : Settled superblock content image) :
    Store.Meets faulty (fun disk => disk = ⟨image, []⟩)
      (fun _ disk => disk = ⟨image, []⟩) (fun _ _ => False)
      (replayJournal superblock) ⟨image, []⟩ := by
  obtain ⟨header, parsed, unprepared⟩ := settled.clean
  have empty := descriptors_of_unprepared parsed unprepared
  have journal := valid.journal
  have few : ¬ superblock.journalBlocks ≤ header.descriptors.length := by
    rw [empty, List.length_nil]
    omega
  have viewed :
      JournalHeader.parse (Disk.view ⟨image, []⟩ superblock.journalStart) = .ok header := parsed
  apply replayJournal_meets valid viewed
  · rfl
  · rw [replayHeader, if_neg few, unprepared]
    apply meets_pure
    · rfl
    · rfl

/-- The target is a home block and the payload has the checksum. -/
def Replayable (superblock : Superblock) (payload : Block)
    (descriptor : JournalDescriptor) : Prop :=
  badTarget superblock descriptor.targetBlock = false ∧
    crc32 (window payload 0 blockSize) = descriptor.checksum

instance (superblock : Superblock) (payload : Block) (descriptor : JournalDescriptor) :
    Decidable (Replayable superblock payload descriptor) :=
  inferInstanceAs (Decidable (_ ∧ _))

/-- The descriptors with their payloads, from a block on. -/
def payloads (image : Image Block) : Nat → List JournalDescriptor → List (JournalDescriptor × Block)
  | _, [] => []
  | block, descriptor :: rest => (descriptor, image block) :: payloads image (block + 1) rest

def AllReplayable (superblock : Superblock) (items : List (JournalDescriptor × Block)) : Prop :=
  ∀ item ∈ items, Replayable superblock item.2 item.1

/-- The items before the first that cannot be replayed. -/
def replayedItems (superblock : Superblock) (items : List (JournalDescriptor × Block)) :
    List (JournalDescriptor × Block) :=
  items.takeWhile fun item => Replayable superblock item.2 item.1

def homes (items : List (JournalDescriptor × Block)) : List (Nat × Block) :=
  items.map fun item => (item.1.targetBlock, item.2)

variable {descriptors : List JournalDescriptor} {items : List (JournalDescriptor × Block)}

theorem payloads_congr {other : Image Block}
    (same :
      ∀ index, block ≤ index → index < block + descriptors.length → image index = other index) :
    payloads image block descriptors = payloads other block descriptors := by
  induction descriptors generalizing block with
  | nil => rfl
  | cons _ _ ih =>
    rw [List.length_cons] at same
    rw [payloads, payloads, same block (by omega) (by omega), ih]
    intro index lower upper
    exact same index (by omega) (by omega)

/-- The loop of the replay copies home the items before the first that cannot
be replayed. -/
theorem replayPayload_meets {post : Unit → Disk Block → Prop}
    (valid : superblock.Valid) (inJournal : superblock.journalStart < block)
    (room : block + descriptors.length ≤ superblock.journalStart + superblock.journalBlocks)
    (listed : payloads disk.view block descriptors = items)
    (crashes :
      ∀ front, front <+: homes (replayedItems superblock items) → crash (disk.writes front))
    (holds : AllReplayable superblock items → post () (disk.writes (homes items)))
    (stops : ¬ AllReplayable superblock items → ∀ error,
      failed error (disk.writes (homes (replayedItems superblock items))))
    (onFailure : faulty → ∀ after, failed .io after) :
    Store.Meets faulty crash post failed (replayPayload superblock block descriptors) disk := by
  have here := crashes [] (List.nil_prefix ..)
  rw [disk.writes_nil] at here
  induction descriptors generalizing block disk items with
  | nil =>
    subst listed
    have ends : post () (disk.writes []) := holds nofun
    rw [disk.writes_nil] at ends
    exact meets_pure here ends
  | cons descriptor rest ih =>
    have journalEnd := valid.journalEnd
    have data := valid.data
    subst listed
    rw [List.length_cons] at room
    simp only [payloads, AllReplayable, List.forall_mem_cons] at holds stops
    simp only [payloads, replayedItems] at crashes stops
    by_cases first : Replayable superblock (disk.view block) descriptor
    · have allowed := first.1
      obtain ⟨_, bounded, outside⟩ := outside_of_not_badTarget allowed
      rw [List.takeWhile_cons_of_pos (by simpa using first)] at crashes stops
      have written := crashes [(descriptor.targetBlock, disk.view block)] ⟨_, rfl⟩
      have viewed :
          (disk.write descriptor.targetBlock (disk.view block)).view =
            store disk.view (descriptor.targetBlock, disk.view block) :=
        disk.view_writes [(descriptor.targetBlock, disk.view block)]
      have later :
          payloads (disk.write descriptor.targetBlock (disk.view block)).view (block + 1) rest =
            payloads disk.view (block + 1) rest := by
        apply payloads_congr
        intro index above below
        rw [viewed]
        have isPayload : IsPayload superblock index := by
          rw [isPayload_iff]
          omega
        exact store_of_ne (isPayload.ne_outside outside).symm
      rw [replayPayload, allowed]
      apply meets_bind
      apply meets_readBlock (sectors_fit valid (by omega)) here
      rw [if_neg (not_not.mpr first.2)]
      apply meets_bind
      apply meets_writeBlock (sectors_fit valid bounded) here written
      · apply ih (by omega) (by omega) later
        · intro front isFront
          rw [disk.writes_write]
          exact crashes _ (List.cons_prefix_cons.mpr ⟨rfl, isFront⟩)
        · intro all
          rw [disk.writes_write]
          exact holds ⟨first, all⟩
        · intro notAll error
          rw [disk.writes_write]
          exact stops (fun all => notAll all.2) error
        · exact written
      · exact fun isFaulty => ⟨onFailure isFaulty _, onFailure isFaulty _⟩
    · have fails := stops (fun all => first all.1)
      rw [List.takeWhile_cons_of_neg (by simpa using first)] at fails
      change ∀ error, failed error (disk.writes []) at fails
      rw [disk.writes_nil] at fails
      rw [replayPayload]
      split_ifs with bad
      · exact ⟨here, fails _⟩
      · apply meets_bind
        apply meets_readBlock (sectors_fit valid (by omega)) here
        rw [if_pos fun checked => first ⟨Bool.eq_false_iff.mpr bad, checked⟩]
        exact ⟨here, fails _⟩

/-! ## Replaying a transaction -/

def itemOf (update : BlockUpdate) : JournalDescriptor × Block :=
  (descriptorOf update, update.data)

theorem payloads_descriptorOf
    (payload :
      ∀ index (inside : index < updates.length), image (block + index) = updates[index].data) :
    payloads image block (updates.map descriptorOf) = updates.map itemOf := by
  induction updates generalizing block with
  | nil => rfl
  | cons _ _ ih =>
    have first := payload 0 (Nat.zero_lt_succ _)
    rw [Nat.add_zero] at first
    rw [List.map_cons, payloads, first, ih]
    · rfl
    · intro index inside
      rw [Nat.add_assoc, Nat.add_comm 1]
      exact payload (index + 1) (Nat.succ_lt_succ inside)

theorem Accepted.allReplayable (accepted : Accepted superblock updates) :
    AllReplayable superblock (updates.map itemOf) := by
  intro item member
  obtain ⟨update, inUpdates, rfl⟩ := List.mem_map.mp member
  exact ⟨accepted.targets update inUpdates, rfl⟩

theorem homes_itemOf (updates : List BlockUpdate) :
    homes (updates.map itemOf) = homeWrites updates := by
  rw [homes, List.map_map]
  rfl

theorem replayedItems_of_all (all : AllReplayable superblock items) :
    replayedItems superblock items = items := by
  rw [replayedItems, List.takeWhile_eq_self_iff]
  intro item member
  exact decide_eq_true (all item member)

theorem replayJournal_redo
    (faulty : Prop) (valid : superblock.Valid) (redo : Redo superblock content updates image) :
    Store.Meets faulty
      (fun disk =>
        ∀ crashed, disk.Crash crashed → Redo superblock content updates crashed ∨
          Settled superblock (applyUpdates content updates) crashed)
      (fun _ disk =>
        disk.pending = [] ∧ Settled superblock (applyUpdates content updates) disk.durable)
      (fun _ _ => faulty)
      (replayJournal superblock) ⟨image, []⟩ := by
  obtain ⟨sequence, parsed⟩ := redo.header
  let disk : Disk Block := ⟨image, []⟩
  have durable : Redo superblock content updates disk.durable := redo
  obtain ⟨cut, finish⟩ := durable.finish_meets faulty valid rfl (fun _ crashes => crashes) sequence
    (max sequence (UInt64.ofNat superblock.sequence))
  have here := cut [] (List.nil_prefix ..)
  have few : ¬ superblock.journalBlocks ≤ (updates.map descriptorOf).length := by
    rw [List.length_map]
    exact not_le.mpr redo.accepted.few
  have viewed : JournalHeader.parse (disk.view superblock.journalStart) =
    .ok ⟨true, sequence, updates.map descriptorOf⟩ := parsed
  apply replayJournal_meets valid viewed here
  rw [replayHeader, if_neg few]
  apply meets_bind
  have all := redo.accepted.allReplayable
  apply replayPayload_meets valid (Nat.lt_succ_self _)
  · have room := redo.accepted.few
    rw [List.length_map]
    omega
  · exact payloads_descriptorOf redo.payload
  · rw [replayedItems_of_all all, homes_itemOf]
    exact cut
  · intro _
    rw [homes_itemOf]
    apply finish.mono
    · exact fun _ crashes => crashes
    · exact fun _ _ _ holds => holds.2
    · exact fun _ _ _ isFaulty => isFaulty
  · exact fun notAll => absurd all notAll
  · exact fun isFaulty _ => isFaulty

/-! ## Recovery -/

/-- What one replay does with the image of a crash. -/
structure Replayed (superblock : Superblock) (image : Image Block)
    (stays : Image Block → Prop) (ends : Image Block → Prop) : Prop where
  crashes : ∀ outcomes state, (∀ outcome ∈ outcomes, outcome = Outcome.completed) →
    Execution.exec step ((⟨image, []⟩ : Disk Block), replayJournal superblock) outcomes =
      some state →
    ∀ crashed, state.1.Crash crashed → stays crashed
  completes : ∃ sequence disk, run (replayJournal superblock) ⟨image, []⟩ = (.ok sequence, disk) ∧
    disk.pending = [] ∧ ends disk.durable

variable {stays : Image Block → Prop}

theorem Replayed.of_meets
    (meets : Store.Meets False
      (fun disk => ∀ crashed, disk.Crash crashed → stays crashed)
      (fun _ disk => disk.pending = [] ∧ ends disk.durable)
      (fun _ _ => False) (replayJournal superblock) ⟨image, []⟩) :
    Replayed superblock image stays ends := by
  constructor
  · intro outcomes state healthy reached
    have atEnd := Meets.exec meets (by
      intro outcome member failure
      exact failure (healthy outcome member)) reached
    exact atEnd.crashes
  · have finished := Meets.run meets
    generalize run (replayJournal superblock) ⟨image, []⟩ = outcome at finished
    obtain ⟨result, disk⟩ := outcome
    cases result with
    | ok sequence => exact ⟨sequence, disk, rfl, finished.1, finished.2⟩
    | error error => exact finished.elim

theorem Settled.replayed (valid : superblock.Valid)
    (settled : Settled superblock content image) (stay : stays image) (finish : ends image) :
    Replayed superblock image stays ends := by
  apply Replayed.of_meets
  apply (replayJournal_settled False valid settled).mono
  · rintro disk rfl
    exact Disk.forall_crash_of_settled rfl stay
  · rintro _ disk _ rfl
    exact ⟨rfl, finish⟩
  · exact fun _ _ _ impossible => impossible

theorem Recoverable.replayed
    (valid : superblock.Valid) (recoverable : Recoverable superblock content updates image) :
    Replayed superblock image (Recoverable superblock content updates) (fun final =>
      Settled superblock content final ∨
        Settled superblock (applyUpdates content updates) final) := by
  rcases recoverable with settled | redo | settled
  · exact settled.replayed valid (Or.inl settled) (Or.inl settled)
  · apply Replayed.of_meets
    apply (replayJournal_redo False valid redo).mono
    · intro disk crashes crashed crash
      exact Or.inr (crashes crashed crash)
    · exact fun _ _ _ holds => ⟨holds.1, Or.inr holds.2⟩
    · exact fun _ _ _ impossible => impossible
  · exact settled.replayed valid (Or.inr (Or.inr settled)) (Or.inr settled)

/-- Mounts whose replay crashes, from the image at the first mount to the
image at the first mount that completes. -/
inductive CrashedMounts (superblock : Superblock) : Image Block → Image Block → Prop
  | completes (image : Image Block) : CrashedMounts superblock image image
  | crashes {image crashed final : Image Block} {outcomes : List Outcome}
      {state : Disk Block × Program Block (Except XenithFsError UInt64)}
      (healthy : ∀ outcome ∈ outcomes, outcome = Outcome.completed) (reached :
        Execution.exec step ((⟨image, []⟩ : Disk Block), replayJournal superblock) outcomes =
          some state)
      (crash : state.1.Crash crashed) (later : CrashedMounts superblock crashed final) :
      CrashedMounts superblock image final

theorem CrashedMounts.invariant
    {final : Image Block} (mounts : CrashedMounts superblock image final)
    (replayed : ∀ other, property other → Replayed superblock other property ends)
    (initially : property image) : property final := by
  induction mounts with
  | completes image => exact initially
  | crashes healthy reached crash _ ih =>
    apply ih
    exact (replayed _ initially).crashes _ _ healthy reached _ crash

end Commit

/-- A transaction takes place completely or not at all. -/
theorem crash_atomicity (superblock : Superblock) (before : Image Block)
    (parsed : Superblock.parse (before 0) = .ok superblock) (clean : Clean superblock before)
    (stateSequence : UInt64) (updates : List BlockUpdate) (outcomes : List Outcome)
    (healthy : ∀ outcome ∈ outcomes, outcome = Outcome.completed)
    (state : Disk Block × Program Block (Except XenithFsError UInt64))
    (reached : Execution.exec step
        ((⟨before, []⟩ : Disk Block), commitUpdates superblock stateSequence updates) outcomes =
      some state)
    (crashed : Image Block) (crash : state.1.Crash crashed)
    (final : Image Block) (mounts : CrashedMounts superblock crashed final) :
    ∃ sequence disk, run (replayJournal superblock) ⟨final, []⟩ = (.ok sequence, disk) ∧
      disk.pending = [] ∧
      ((∀ block, Outside superblock block → disk.durable block = before block) ∨
        ∀ block, Outside superblock block →
          disk.durable block = applyUpdates before updates block) ∧
      ∀ result, state.2 = done (.ok result) → ∀ block, Outside superblock block →
        disk.durable block = applyUpdates before updates block := by
  have valid := Superblock.valid_of_parse parsed
  have quiet : Quiet superblock before ⟨before, []⟩ :=
    ⟨⟨clean, fun _ _ => rfl⟩, fun _ member => nomatch member⟩
  have atPoint := Meets.exec
    (commitUpdates_meets False valid quiet stateSequence updates)
    (by
      intro outcome member failure
      exact failure (healthy outcome member))
    reached
  have recoverable := mounts.invariant (fun _ holds => Recoverable.replayed valid holds)
    (atPoint.crashes crashed crash)
  obtain ⟨_, sequence, disk, run, settled, ends⟩ := recoverable.replayed valid
  refine ⟨sequence, disk, run, settled, ?_, ?_⟩
  · rcases ends with old | new
    · exact Or.inl old.holds
    · exact Or.inr new.holds
  · intro result returned
    obtain ⟨reachedDisk, program⟩ := state
    obtain rfl : program = _ := returned
    have applied : Quiet superblock (applyUpdates before updates) reachedDisk := atPoint.2
    have new := mounts.invariant
      (fun _ holds => Settled.replayed valid holds holds holds) (applied.crash crash)
    obtain ⟨_, _, _, otherRun, _, otherEnds⟩ := new.replayed valid new new
    have same := (Prod.mk.inj (run.symm.trans otherRun)).2
    rw [same]
    exact otherEnds.holds

/-- The geometry of the kernel's own test volume. -/
def smallSuperblock : Superblock where
  totalBlocks := 64
  inodeTableStart := 1
  inodeCount := 16
  bitmapStart := 2
  bitmapBlocks := 1
  dataStart := 11
  rootInode := 1
  journalStart := 3
  journalBlocks := 8
  features := 0
  sequence := 0

/-- A volume without content behind its superblock. -/
def blankVolume : Image Block :=
  store (fun _ => zeroRecord) (0, smallSuperblock.sealed)

theorem blankVolume_parsed : Superblock.parse (blankVolume 0) = .ok smallSuperblock := by
  apply Superblock.parse_sealed
  · constructor <;> decide
  · decide

theorem blankVolume_clean : Clean smallSuperblock blankVolume := by
  have allZero : (window zeroRecord 0 blockSize).all (fun byte => byte = 0) = true := by
    rw [List.all_eq_true]
    intro byte member
    obtain ⟨_, _, rfl⟩ := List.mem_map.mp member
    rfl
  exact ⟨JournalHeader.clean 0, parse_of_zero allZero, rfl⟩

def twoUpdates : List BlockUpdate :=
  [⟨1, fun _ => 7⟩, ⟨20, fun _ => 9⟩]

theorem twoUpdates_atomic :
    ∃ count disk sequence,
      Execution.exec step
          ((⟨blankVolume, []⟩ : Disk Block), commitUpdates smallSuperblock 4 twoUpdates)
          (List.replicate count Outcome.completed) =
        some (disk, done (.ok sequence)) ∧
      ∃ mounted after,
        run (replayJournal smallSuperblock) ⟨disk.durable, []⟩ = (.ok mounted, after) ∧
          after.durable 1 = (fun _ => 7) ∧ after.durable 20 = fun _ => 9 := by
  have valid := Superblock.valid_of_parse blankVolume_parsed
  have quiet : Quiet smallSuperblock blankVolume ⟨blankVolume, []⟩ :=
    ⟨⟨blankVolume_clean, fun _ _ => rfl⟩, fun _ member => nomatch member⟩
  obtain ⟨result, disk, run, holds⟩ := commitUpdates_run valid quiet 4 twoUpdates
  obtain ⟨count, reached⟩ := exec_run (commitUpdates smallSuperblock 4 twoUpdates) ⟨blankVolume, []⟩
  rw [run] at reached
  cases result with
  | error error =>
    have accepted : Accepted smallSuperblock twoUpdates := ⟨by decide, by decide⟩
    rcases holds.1 with rejected | tooMany
    · exact absurd accepted rejected
    · exact absurd tooMany (by decide)
  | ok sequence =>
    obtain ⟨mounted, after, replayed, _, _, applied⟩ :=
      crash_atomicity smallSuperblock blankVolume blankVolume_parsed
        blankVolume_clean 4 twoUpdates _
        (fun _ member => List.eq_of_mem_replicate member) _ reached
        disk.durable disk.crash_durable _ (.completes _)
    have home := applied sequence rfl
    refine ⟨count, disk, sequence, reached, mounted, after, replayed, ?_, ?_⟩
    · exact home 1 rfl
    · exact home 20 rfl

end Xenith.Fs.XenithFs
