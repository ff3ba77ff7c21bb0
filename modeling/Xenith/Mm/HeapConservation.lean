import Xenith.Mm.HeapSeparation

/-!
# Conservation of the coarse tier

While only coarse allocations are made and freed, the free coarse blocks and the
extents of the live allocations tile the region, provided that no carve wraps
around the address space and none leaves a sliver: a gap before the carve that
is too small for a `FreeHeader`.
-/

namespace Xenith.Mm

open Xenith.Interval
open Heap
open Execution

namespace Heap

/-- The extent recorded in the `AllocHeader` before a pointer. -/
def recorded (heap : Heap) (allocation : Allocation) : Interval :=
  heap.headers (allocation.pointer - allocHeaderSize)

/-- In every free block with room for the request, the aligned carve starts at
the block or leaves room for a `FreeHeader`. -/
def LeavesNoSliver (heap : Heap) (size align : Nat) : Prop :=
  ∀ block ∈ heap.coarse, ∀ carve ∈ alignUpPtr block.start align heap.limit,
    carve + size ≤ block.stop → carve = block.start ∨ block.start + freeHeaderSize ≤ carve

instance (heap : Heap) (size align : Nat) : Decidable (heap.LeavesNoSliver size align) :=
  inferInstanceAs
    (Decidable (∀ block ∈ heap.coarse, ∀ carve ∈ alignUpPtr block.start align heap.limit,
      carve + size ≤ block.stop → carve = block.start ∨ block.start + freeHeaderSize ≤ carve))

end Heap

/-- The calls of a client that only uses the coarse tier. -/
def HeapOperation.CoarseTier : HeapOperation → Prop
  | .allocate layout => classIndex layout = none
  | .deallocate _ _ => True
  | .reallocate _ _ _ => False

instance : (operation : HeapOperation) → Decidable operation.CoarseTier
  | .allocate layout => inferInstanceAs (Decidable (classIndex layout = none))
  | .deallocate _ _ => isTrue trivial
  | .reallocate _ _ _ => isFalse id

namespace HeapState

def NoSliver (state : HeapState) : HeapOperation → Prop
  | .allocate layout => state.heap.LeavesNoSliver (request layout) layout.align
  | .deallocate _ _ => True
  | .reallocate _ _ _ => True

instance (state : HeapState) : (operation : HeapOperation) → Decidable (state.NoSliver operation)
  | .allocate layout =>
    inferInstanceAs (Decidable (state.heap.LeavesNoSliver (request layout) layout.align))
  | .deallocate _ _ => isTrue trivial
  | .reallocate _ _ _ => isTrue trivial

structure Conserved (region : HeapRegion) (state : HeapState) : Prop where
  sound : state.Sound region
  coarseLive : ∀ allocation ∈ state.live, classIndex allocation.layout = none
  noSlabs : state.heap.freeSlabs = []
  tiles : Tiles region.span (state.heap.pieces state.live)

theorem start_conserved (region : HeapRegion) (headers : Nat → Interval) :
    (start region headers).Conserved region := by
  have noSlabs : (start region headers).heap.freeSlabs = [] := by
    simp [start, init, empty, freeSlabs]
  have positive : 0 < region.span.size := Nat.lt_of_lt_of_le (by decide) region.holdsHeader
  refine ⟨start_sound region headers, ?_, noSlabs, ?_⟩
  · intro allocation member
    cases member
  · unfold pieces
    exact tiles_singleton positive

variable {region : HeapRegion} {state next : HeapState}

theorem Conserved.allocate
    {layout : Layout} (conserved : state.Conserved region) (coarse : classIndex layout = none)
    (inRange : state.InRange (.allocate layout)) (whole : state.NoSliver (.allocate layout))
    (taken : state.step (.allocate layout) = some next) :
    next.Conserved region := by
  have sound := conserved.sound
  have nextSound := sound.step inRange taken
  have carvesInRange : state.heap.CarvesInRange (request layout) layout.align := by
    simpa [InRange, RequestInRange, coarse] using inRange
  simp only [HeapState.step] at taken
  rw [allocate_of_classIndex_eq_none sound.inited coarse] at taken
  rcases coarseAlloc_cases sound carvesInRange with
    failed | ⟨fit, carves, granted⟩
  · rw [failed] at taken
    cases taken
    exact conserved
  · rw [granted] at taken
    cases taken
    have listed : fit.block ∈ state.heap.coarse := by
      simp [carves.listed]
    have noGap := whole fit.block listed fit.carve carves.found carves.high
    have tiles := carves.tiles (request_pos layout) noGap conserved.tiles
    refine ⟨nextSound, ?_, conserved.noSlabs, ?_⟩
    · exact List.forall_mem_cons.mpr ⟨coarse, conserved.coarseLive⟩
    · have piecesEq := pieces_carveOut sound coarse carves
      refine piecesEq ▸ ?_
      exact tiles.perm (List.Perm.append_left _ List.perm_middle.symm)

theorem Conserved.deallocate {pointer : Nat} {layout : Layout} (conserved : state.Conserved region)
    (taken : state.step (.deallocate pointer layout) = some next) :
    next.Conserved region := by
  have sound := conserved.sound
  have admitted : state.InRange (.deallocate pointer layout) := trivial
  have nextSound := sound.step admitted taken
  simp only [HeapState.step] at taken
  split at taken
  · rename_i member
    cases taken
    have coarse : classIndex layout = none := conserved.coarseLive _ member
    have front := Sound.perm sound (List.perm_cons_erase member)
    have tiles := conserved.tiles.perm (state.heap.pieces_perm (List.perm_cons_erase member))
    obtain ⟨_, _, merged⟩ := front.coarseDealloc_coalesces coarse rfl
    have freedEq :
        Allocation.extent state.heap ⟨pointer, layout⟩ =
          state.heap.headers (pointer - allocHeaderSize) := by
      simp [Allocation.extent, coarse]
    rw [freedEq] at merged
    have heapEq :
        state.heap.deallocate pointer layout = state.heap.coarseDealloc
          (state.heap.headers (pointer - allocHeaderSize)).start
          (state.heap.headers (pointer - allocHeaderSize)).size := by
      simp [deallocate, coarse]
    refine ⟨nextSound, ?_, ?_, ?_⟩
    · intro allocation older
      exact conserved.coarseLive allocation (List.mem_of_mem_erase older)
    · simp only [heapEq]
      exact conserved.noSlabs
    · simp only [heapEq]
      exact tiles.coalesces merged
  · cases taken

theorem Conserved.step {operation : HeapOperation} (conserved : state.Conserved region)
    (coarseTier : operation.CoarseTier) (inRange : state.InRange operation)
    (whole : state.NoSliver operation) (taken : state.step operation = some next) :
    next.Conserved region := by
  cases operation with
  | allocate layout => exact conserved.allocate coarseTier inRange whole taken
  | deallocate pointer layout => exact conserved.deallocate taken
  | reallocate pointer layout => exact coarseTier.elim

/-- **Conservation of the coarse tier.**  The free blocks and the live
allocations tile the region, and it is one free block when nothing is live. -/
theorem heap_conservation (region : HeapRegion) (headers : Nat → Interval)
    (operations : List HeapOperation) (final : HeapState)
    (coarseTier : ∀ operation ∈ operations, operation.CoarseTier)
    (reached : exec step (start region headers) operations = some final)
    (whole : Guarded step
      (fun state operation => state.InRange operation ∧ state.NoSliver operation)
      (start region headers) operations) :
    Tiles region.span (final.heap.coarse ++ final.live.map final.heap.recorded) ∧
      (final.live = [] → final.heap.coarse = [region.span]) := by
  have conserved : final.Conserved region := by
    refine invariant_of_guarded ?_ (start_conserved region headers)
      ((Guarded.of_labels coarseTier).and whole) reached
    intro state operation next conserved guarded taken
    exact conserved.step guarded.1 guarded.2.1 guarded.2.2 taken
  have recordedEq : final.live.map (·.extent final.heap) = final.live.map final.heap.recorded := by
    refine List.map_congr_left ?_
    intro allocation member
    simp [Allocation.extent, conserved.coarseLive allocation member, recorded]
  have tiles := conserved.tiles
  unfold pieces at tiles
  rw [conserved.noSlabs, List.nil_append, recordedEq] at tiles
  refine ⟨tiles, ?_⟩
  intro empty
  rw [empty, List.map_nil, List.append_nil] at tiles
  refine tiles.eq_singleton conserved.sound.separated ?_
  exact Nat.lt_of_lt_of_le (by decide) region.holdsHeader

/-- Two blocks on the 16-byte grid, freed in the order of their
allocation. -/
def gridRun : List HeapOperation :=
  [.allocate coarseLayout,
    .allocate coarseLayout, .deallocate 0xFFFF800000100010 coarseLayout,
    .deallocate 0xFFFF800000104E40 coarseLayout]

theorem gridRun_conserved :
    ∃ final, exec step (start directMapRegion fun _ => ⟨0, 0⟩) gridRun = some final ∧
      final.heap.coarse = [directMapRegion.span] := by
  refine exists_reached (by decide +kernel) fun final reached => ?_
  have coarseTier : ∀ operation ∈ gridRun, operation.CoarseTier := by
    decide +kernel
  have conservation := heap_conservation _ _ _ final coarseTier reached (by decide +kernel)
  exact conservation.2 (of_reached reached (by decide +kernel))

def oddLayout : Layout := ⟨20001, 1, by decide, by decide⟩

/-- A block of odd size lets the next free block start off the grid. -/
def sliverRun : List HeapOperation :=
  [.allocate oddLayout,
    .allocate coarseLayout, .deallocate 0xFFFF800000100010 oddLayout,
    .deallocate 0xFFFF800000104E50 coarseLayout]

/-- Everything is freed, but the 15 bytes skipped before the second block are
gone, and the two free blocks around them never merge. -/
theorem sliverRun_loses :
    (∀ operation ∈ sliverRun, operation.CoarseTier) ∧ ∃ final,
      exec step (start directMapRegion fun _ => ⟨0, 0⟩) sliverRun = some final ∧
        final.live = [] ∧
        final.heap.coarse = [⟨0xFFFF800000100000, 20017⟩, ⟨0xFFFF800000104E40, 45504⟩] ∧
        final.heap.coarse ≠ [directMapRegion.span] := by
  decide +kernel

end HeapState

end Xenith.Mm
