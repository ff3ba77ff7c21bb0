import Xenith.Mm.HeapSeparation

/-!
# Heap statistics

The counters of `kernel/src/mm/allocator.rs` and the calls of `GlobalAlloc for
LockedHeap` that update them under the heap lock.
-/

namespace Xenith.Mm

open Execution

structure LiveStats where
  allocCount : Nat := 0
  deallocCount : Nat := 0
  bytesAllocated : Nat := 0
  bytesDeallocated : Nat := 0
  currentBytes : Nat := 0
  peakBytes : Nat := 0

namespace LiveStats

def recordAlloc (stats : LiveStats) (bytes : Nat) : LiveStats :=
  let now := wrappingAdd stats.currentBytes bytes
  { stats with
    allocCount := wrappingAdd stats.allocCount 1
    bytesAllocated := wrappingAdd stats.bytesAllocated bytes
    currentBytes := now
    peakBytes := max stats.peakBytes now }

def recordDealloc (stats : LiveStats) (bytes : Nat) : LiveStats :=
  { stats with
    deallocCount := wrappingAdd stats.deallocCount 1
    bytesDeallocated := wrappingAdd stats.bytesDeallocated bytes
    currentBytes := wrappingSub stats.currentBytes bytes }

/-- The `current_bytes` of `heap_stats`, a saturating difference. -/
def heapStats (stats : LiveStats) : Nat :=
  stats.bytesAllocated - stats.bytesDeallocated

/-- The counters for this many live bytes, and at most this many so far. -/
structure Counts (stats : LiveStats) (live largest : Nat) : Prop where
  current : stats.currentBytes = live
  balance : stats.bytesAllocated = stats.bytesDeallocated + live
  bounded : stats.bytesAllocated < 2 ^ 64
  peak : stats.peakBytes = largest
  below : live ≤ largest

variable {stats : LiveStats} {live largest bytes : Nat}

theorem Counts.recordAlloc (counts : stats.Counts live largest)
    (fits : stats.bytesAllocated + bytes < 2 ^ 64) :
    (stats.recordAlloc bytes).Counts (live + bytes) (max largest (live + bytes)) := by
  obtain ⟨current, _, _, peak, _⟩ := counts
  have now : wrappingAdd stats.currentBytes bytes = live + bytes := by
    rw [wrappingAdd_eq (by omega), current]
  simp only [LiveStats.recordAlloc, now, wrappingAdd_eq fits, peak]
  exact ⟨rfl, by simp only; omega, fits, rfl, Nat.le_max_right ..⟩

theorem Counts.recordDealloc (counts : stats.Counts (live + bytes) largest) :
    (stats.recordDealloc bytes).Counts live largest := by
  obtain ⟨_, _, bounded, peak, _⟩ := counts
  refine ⟨?_, ?_, bounded, peak, by omega⟩
  · simp only [LiveStats.recordDealloc]
    rw [wrappingSub_eq (by omega) (by omega)]
    omega
  · simp only [LiveStats.recordDealloc]
    rw [wrappingAdd_eq (by omega)]
    omega

theorem Counts.settled (counts : stats.Counts live largest) :
    stats.Counts live (max largest live) := by
  rw [max_eq_left counts.below]
  exact counts

end LiveStats

inductive HeapCall where
  | alloc (layout : Layout)
  | allocZeroed (layout : Layout)
  | dealloc (pointer : Nat) (layout : Layout)
  | realloc (pointer : Nat) (layout : Layout) (newSize : Nat)

def HeapCall.operation : HeapCall → HeapOperation
  | .alloc layout | .allocZeroed layout => .allocate layout
  | .dealloc pointer layout => .deallocate pointer layout
  | .realloc pointer layout newSize => .reallocate pointer layout newSize

def HeapState.liveBytes (state : HeapState) : Nat :=
  (state.live.map (·.layout.size)).sum

/-- The heap with its counters and the largest number of live bytes so far. -/
structure LockedHeap extends HeapState where
  stats : LiveStats := {}
  largest : Nat := 0

namespace LockedHeap

/-- What a call records, by what it returns. -/
def record (locked : LockedHeap) : HeapCall → LiveStats
  | .alloc layout | .allocZeroed layout =>
    match (locked.heap.allocate layout).1 with
    | some _ => locked.stats.recordAlloc layout.size
    | none => locked.stats
  | .dealloc _ layout => locked.stats.recordDealloc layout.size
  | .realloc pointer layout newSize =>
    match (locked.heap.reallocate pointer layout newSize).1 with
    | some new =>
      if new ≠ pointer then (locked.stats.recordDealloc layout.size).recordAlloc newSize
      else locked.stats
    | none => locked.stats

def step (locked : LockedHeap) (call : HeapCall) : Option LockedHeap :=
  (locked.toHeapState.step call.operation).map fun next =>
    { toHeapState := next
      stats := locked.record call
      largest := max locked.largest next.liveBytes }

/-- A call for which the heap has a block does not wrap the total, and a
reallocation that stays in place keeps the size. -/
def Exact (locked : LockedHeap) : HeapCall → Prop
  | .alloc layout | .allocZeroed layout =>
    (locked.heap.allocate layout).1.isSome → locked.stats.bytesAllocated + layout.size < 2 ^ 64
  | .dealloc _ _ => True
  | .realloc pointer layout newSize =>
    ∀ newLayout ∈ Layout.fromSizeAlign newSize layout.align,
      if locked.heap.fitsInPlace pointer layout newLayout then newSize = layout.size
      else (locked.heap.allocate newLayout).1.isSome →
        locked.stats.bytesAllocated + newSize < 2 ^ 64

instance (locked : LockedHeap) : DecidablePred locked.Exact
  | .alloc _ | .allocZeroed _ => inferInstanceAs (Decidable (_ → _))
  | .dealloc _ _ => isTrue trivial
  | .realloc _ layout newSize =>
    inferInstanceAs (Decidable (∀ _ ∈ Layout.fromSizeAlign newSize layout.align, ite ..))

variable {locked next : LockedHeap} {call : HeapCall} {region : HeapRegion}

theorem liveBytes_erase {state : HeapState} {allocation : Allocation}
    (member : allocation ∈ state.live) :
    state.liveBytes =
      HeapState.liveBytes { state with live := state.live.erase allocation } +
        allocation.layout.size := by
  rw [HeapState.liveBytes, ← List.sum_map_erase _ member, Nat.add_comm]
  rfl

/-- A reallocation that is recorded fits, and the others keep the size. -/
theorem Exact.reallocated {pointer newSize new : Nat} {layout : Layout} {after : Heap}
    (exact : locked.Exact (.realloc pointer layout newSize)) (sound : locked.Sound region)
    (inRange : locked.InRange (.reallocate pointer layout newSize))
    (member : ⟨pointer, layout⟩ ∈ locked.live)
    (granted : locked.heap.reallocate pointer layout newSize = (some new, after)) :
    if new = pointer then newSize = layout.size
    else locked.stats.bytesAllocated + newSize < 2 ^ 64 := by
  unfold Heap.reallocate at granted
  split at granted
  · cases granted
  · next newLayout valid =>
    have exactly := exact newLayout valid
    split at granted
    · next stays =>
      cases granted
      rw [if_pos rfl]
      rwa [if_pos stays] at exactly
    · next moves =>
      rw [if_neg moves] at exactly
      split at granted
      · cases granted
      · next taken =>
        cases granted
        have other : new ≠ pointer := by
          have admitted := inRange newLayout valid (eq_false_of_ne_true moves)
          rcases Heap.Sound.allocate sound admitted with
            failed | ⟨_, _, allocated, grown⟩
          · cases taken.symm.trans failed
          · cases taken.symm.trans allocated
            exact grown.pointer_ne member (Layout.align_of_fromSizeAlign valid)
        rw [if_neg other]
        exact exactly (by rw [taken]; rfl)

/-- An exact call changes the live bytes and the statistics alike. -/
theorem counts_step (counts : locked.stats.Counts locked.liveBytes locked.largest)
    (sound : locked.Sound region) (inRange : locked.InRange call.operation)
    (exact : locked.Exact call) (taken : locked.step call = some next) :
    next.stats.Counts next.liveBytes next.largest := by
  obtain ⟨_, stepped, rfl⟩ := Option.map_eq_some_iff.mp taken
  cases call with
  | alloc layout | allocZeroed layout =>
    simp only [HeapCall.operation, HeapState.step] at stepped
    simp only [record]
    split at stepped
    · next failed =>
      cases stepped
      rw [failed]
      exact counts.settled
    · next granted =>
      cases stepped
      rw [granted]
      have fits := exact (by rw [granted]; rfl)
      simpa [HeapState.liveBytes, Nat.add_comm] using counts.recordAlloc fits
  | dealloc pointer layout =>
    simp only [HeapCall.operation, HeapState.step] at stepped
    split at stepped
    · next member =>
      cases stepped
      rw [liveBytes_erase member] at counts
      exact counts.recordDealloc.settled
    · cases stepped
  | realloc pointer layout =>
    simp only [HeapCall.operation, HeapState.step] at stepped
    simp only [record]
    split at stepped
    · next member =>
      split at stepped
      · next failed =>
        cases stepped
        rw [failed]
        exact counts.settled
      · next granted =>
        obtain ⟨_, valid, rfl⟩ := Option.map_eq_some_iff.mp stepped
        obtain ⟨_, ⟨⟩⟩ := Option.dite_none_right_eq_some.mp valid
        have exactly := exact.reallocated sound inRange member granted
        rw [liveBytes_erase member] at counts
        rw [granted]
        simp only
        split
        · next moved =>
          rw [if_neg moved] at exactly
          simpa [HeapState.liveBytes, Nat.add_comm] using
            counts.recordDealloc.recordAlloc exactly
        · next same =>
          rw [if_pos (Decidable.not_not.mp same)] at exactly
          simpa [HeapState.liveBytes, Nat.add_comm, exactly] using counts.settled
    · cases stepped

/-- **Heap statistics.**  The counters tell the live bytes and the largest number
of them so far. -/
theorem statistics_exact {headers : Nat → Interval} {calls : List HeapCall} {final : LockedHeap}
    (reached : exec step { toHeapState := .start region headers } calls = some final)
    (guarded : Guarded step (fun locked call => locked.InRange call.operation ∧ locked.Exact call)
      { toHeapState := .start region headers } calls) :
    final.stats.heapStats = final.liveBytes ∧ final.stats.currentBytes = final.liveBytes ∧
      (∀ allocation ∈ final.live, allocation.layout.size ≤ final.stats.currentBytes) ∧
      final.stats.peakBytes = final.largest := by
  have preserved (locked : LockedHeap) (call : HeapCall) (next : LockedHeap)
      (invariant : locked.Sound region ∧ locked.stats.Counts locked.liveBytes locked.largest)
      (admitted : locked.InRange call.operation ∧ locked.Exact call)
      (taken : locked.step call = some next) :
      next.Sound region ∧ next.stats.Counts next.liveBytes next.largest := by
    refine ⟨?_, counts_step invariant.2 invariant.1 admitted.1 admitted.2 taken⟩
    obtain ⟨_, stepped, rfl⟩ := Option.map_eq_some_iff.mp taken
    exact HeapState.Sound.step invariant.1 admitted.1 stepped
  have counts := (invariant_of_guarded preserved
    ⟨HeapState.start_sound region headers, rfl, rfl, Nat.two_pow_pos 64, rfl, Nat.le_refl _⟩
    guarded reached).2
  refine ⟨?_, counts.current, ?_, counts.peak⟩
  · rw [LiveStats.heapStats, counts.balance, Nat.add_sub_cancel_left]
  · intro allocation member
    rw [counts.current, liveBytes_erase member]
    exact Nat.le_add_left ..

open HeapState

/-- A coarse block is moved to grow. -/
def movedRun : List HeapCall :=
  [.alloc slabLayout, .allocZeroed coarseLayout, .realloc 0xFFFF800000100210 coarseLayout 20010]

theorem movedRun_exact :
    ∃ final, exec step { toHeapState := start directMapRegion fun _ => ⟨0, 0⟩ } movedRun =
        some final ∧
      final.stats.peakBytes = 20058 ∧ final.stats.heapStats = final.liveBytes := by
  refine exists_reached (by decide +kernel) fun final reached => ?_
  exact ⟨of_reached reached (by decide +kernel), (statistics_exact reached (by decide +kernel)).1⟩

/-- A block of 48 bytes grows in place to 60 bytes and is given back. -/
theorem grownInPlace_miscounted :
    ∃ grown, exec step { toHeapState := start directMapRegion fun _ => ⟨0, 0⟩ }
        [.alloc slabLayout, .realloc 0xFFFF8000001001C0 slabLayout 60] = some grown ∧
      grown.liveBytes = 60 ∧ grown.stats.heapStats = 48 ∧
      ∃ final, grown.step (.dealloc 0xFFFF8000001001C0 ⟨60, 8, by decide, by decide⟩) = some final ∧
        final.stats.currentBytes = 2 ^ 64 - 12 := by
  decide +kernel

end LockedHeap

end Xenith.Mm
