import Xenith.Fs.XenithFs.CrashAtomicity

/-!
# Transactions in sequence

What a volume holds after a power failure.
-/

namespace Xenith.Fs.XenithFs

open Xenith.BlockProgram
open Xenith.Fs.Format
open Program

/-- Calls of `commit_mutation` on a device without errors, and those that
returned.  A refused transaction leaves the state as it was. -/
def commitAll (superblock : Superblock) :
    Disk Block → UInt64 → List (List BlockUpdate) → Disk Block × UInt64 × List (List BlockUpdate)
  | disk, sequence, [] => (disk, sequence, [])
  | disk, sequence, updates :: rest =>
    match run (commitUpdates superblock sequence updates) disk with
    | (.ok next, after) =>
      let (last, number, committed) := commitAll superblock after next rest
      (last, number, updates :: committed)
    | (.error _, after) => commitAll superblock after sequence rest

section CommitAll

variable {superblock : Superblock} {content : Image Block} {disk last : Disk Block}
variable {sequence number : UInt64} {transactions committed : List (List BlockUpdate)}

theorem Quiet.commitAll (valid : superblock.Valid) (quiet : Quiet superblock content disk)
    (ran : commitAll superblock disk sequence transactions = (last, number, committed)) :
    Quiet superblock (committed.foldl applyUpdates content) last ∧
      ∀ updates ∈ transactions, updates ∈ committed ∨ Refused superblock updates := by
  induction transactions generalizing disk sequence content committed with
  | nil =>
    cases ran
    exact ⟨quiet, nofun⟩
  | cons updates rest ih =>
    obtain ⟨result, after, ended, holds⟩ := commitUpdates_run valid quiet sequence updates
    rw [XenithFs.commitAll, ended] at ran
    cases result with
    | ok next =>
      cases ran
      obtain ⟨applied, others⟩ := ih holds rfl
      refine ⟨applied, List.forall_mem_cons.mpr ⟨Or.inl (List.mem_cons_self ..), ?_⟩⟩
      intro other member
      exact (others other member).imp_left (List.mem_cons_of_mem _)
    | error error =>
      obtain ⟨applied, others⟩ := ih holds.2 ran
      exact ⟨applied, List.forall_mem_cons.mpr ⟨Or.inr holds.1, others⟩⟩

/-- A power failure takes back no transaction that has returned.  The device
writes whole blocks, a completed flush makes what was written before durable,
and any of the later writes may get lost; it may fail any request of the
transaction in flight. -/
theorem committed_transactions_survive {before : Image Block}
    (parsed : Superblock.parse (before 0) = .ok superblock) (clean : Clean superblock before)
    (ran : commitAll superblock ⟨before, []⟩ sequence transactions = (last, number, committed))
    (updates : List BlockUpdate) (outcomes : List Outcome)
    {state : Disk Block × Program Block (Except XenithFsError UInt64)}
    (reached : Execution.exec step (last, commitUpdates superblock number updates) outcomes =
      some state)
    {crashed final : Image Block} (crash : state.1.Crash crashed)
    (mounts : CrashedMounts superblock crashed final) :
    (∀ refused ∈ transactions, refused ∈ committed ∨ Refused superblock refused) ∧
      ∃ mounted after, run (replayJournal superblock) ⟨final, []⟩ = (.ok mounted, after) ∧
        after.pending = [] ∧ ∃ kept ∈ [committed, committed ++ [updates]],
          Settled superblock (kept.foldl applyUpdates before) after.durable := by
  have valid := Superblock.valid_of_parse parsed
  have quiet : Quiet superblock before ⟨before, []⟩ := ⟨⟨clean, fun _ _ => rfl⟩, nofun⟩
  obtain ⟨applied, others⟩ := quiet.commitAll valid ran
  have atPoint := Meets.exec (commitUpdates_meets True valid applied number updates)
    (fun _ _ _ => trivial) reached
  have recoverable := mounts.invariant (fun _ holds => Recoverable.replayed valid holds)
    (atPoint.crashes crashed crash)
  obtain ⟨mounted, after, replayed, settled, ends⟩ := (recoverable.replayed valid).completes
  exact ⟨others, mounted, after, replayed, settled, by simpa using ends⟩

end CommitAll

/-- The second call meets a device error. -/
theorem twoUpdates_survive :
    ∃ last number committed mounted after,
      commitAll smallSuperblock ⟨blankVolume, []⟩ 4 [twoUpdates] = (last, number, committed) ∧
        twoUpdates ∈ committed ∧
        run (replayJournal smallSuperblock) ⟨last.durable, []⟩ = (.ok mounted, after) ∧
        ∃ kept ∈ [committed, committed ++ [twoUpdates]],
          Settled smallSuperblock (kept.foldl applyUpdates blankVolume) after.durable := by
  obtain ⟨others, mounted, after, replayed, _, ends⟩ :=
    committed_transactions_survive blankVolume_parsed blankVolume_clean
      (Eq.refl (commitAll smallSuperblock ⟨blankVolume, []⟩ 4 [twoUpdates]))
      twoUpdates [.failed] rfl (Disk.crash_durable _) (.completes _)
  have returned := (others twoUpdates (List.mem_singleton.mpr rfl)).resolve_right fun refused =>
    refused.elim (· ⟨by decide, by decide⟩) (by decide)
  exact ⟨_, _, _, mounted, after, rfl, returned, replayed, ends⟩

end Xenith.Fs.XenithFs
