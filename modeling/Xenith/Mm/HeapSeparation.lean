import Xenith.Lib.Execution
import Xenith.Mm.HeapInvariant

/-!
# Separation of the kernel heap

The live byte ranges, their `AllocHeader`s and all free blocks are pairwise
apart as long as no carve wraps around the address space.  The carver compares
wrapped end addresses, so the condition cannot be dropped.
-/

namespace Xenith.Mm

open Xenith.Interval
open Execution

namespace Allocation

variable {allocation : Allocation} {extent : Interval}

/-- An allocation uses only bytes of its extent. -/
theorem Placed.footprint_inside {part : Interval} (placed : allocation.Placed extent)
    (member : part ∈ allocation.footprint) : part.Inside extent := by
  have reaches := placed.reaches
  unfold footprint at member
  cases found : classIndex allocation.layout with
  | some slab =>
    simp only [found, List.mem_singleton] at member
    subst member
    obtain ⟨extentEq, _⟩ := placed.slab slab.1 slab.2 found
    exact ⟨by rw [extentEq]; exact Nat.le_refl _, reaches⟩
  | none =>
    simp only [found, List.mem_cons, List.not_mem_nil, or_false] at member
    obtain ⟨_, _⟩ := placed.coarse found
    rcases member with rfl | rfl
    · refine ⟨?_, ?_⟩
      · simp only
        omega
      · simp only [stop_mk]
        omega
    · exact ⟨by unfold range; simp only; omega, reaches⟩

theorem Placed.footprint_apart (placed : allocation.Placed extent) :
    PairwiseApart allocation.footprint := by
  unfold footprint
  cases found : classIndex allocation.layout with
  | some => exact List.pairwise_singleton _ _
  | none =>
    obtain ⟨_, _⟩ := placed.coarse found
    refine List.pairwise_pair.mpr (Or.inl ?_)
    simp only [stop_mk, range]
    omega

theorem Placed.range_inside (placed : allocation.Placed extent) :
    allocation.range.Inside extent := by
  apply placed.footprint_inside
  unfold footprint
  split <;> simp

/-- An extent holds the address of its allocation, unless that is an empty one
from the coarse tier. -/
theorem Placed.contains (placed : allocation.Placed extent) (inhabited : 0 < extent.size)
    (positive : classIndex allocation.layout = none → 0 < allocation.layout.size) :
    extent.start ≤ allocation.pointer ∧ allocation.pointer < extent.stop := by
  cases found : classIndex allocation.layout with
  | some slab =>
    obtain ⟨rfl, _⟩ := placed.slab slab.1 slab.2 found
    exact ⟨Nat.le_refl _, Nat.lt_add_of_pos_right inhabited⟩
  | none =>
    have reaches := placed.reaches
    have nonempty := positive found
    obtain ⟨_, _⟩ := placed.coarse found
    omega

end Allocation

namespace Heap

variable {region : HeapRegion} {heap : Heap} {live : List Allocation}

theorem extent_mem_pieces {allocation : Allocation} (member : allocation ∈ live) :
    allocation.extent heap ∈ heap.pieces live :=
  List.mem_append_right _ (List.mem_append_right _ (List.mem_map_of_mem member))

/-- A new block is not at the address of a live one of its alignment. -/
theorem Sound.pointer_ne {added old : Allocation} (sound : heap.Sound region (added :: live))
    (member : old ∈ live) (sameAlign : added.layout.align = old.layout.align) :
    added.pointer ≠ old.pointer := by
  intro samePointer
  have extents := (List.pairwise_append.mp (List.pairwise_append.mp sound.packs.apart).2.1).2.1
  have apart : (added.extent heap).Apart (old.extent heap) :=
    (List.pairwise_cons.mp extents).1 _ (List.mem_map_of_mem member)
  unfold Apart at apart
  have inhabited := fun allocation (listed : allocation ∈ added :: live) =>
    sound.packs.inhabited _ (extent_mem_pieces listed)
  have contains := fun allocation listed =>
    (sound.placed allocation listed).contains (inhabited allocation listed)
  have newest := contains added (List.mem_cons_self ..)
  have older := contains old (List.mem_cons_of_mem _ member)
  by_cases addedCoarse : classIndex added.layout = none
  · by_cases oldCoarse : classIndex old.layout = none
    · -- The header before the address gives both their extent.
      have same : old.extent heap = added.extent heap := by
        simp [Allocation.extent, addedCoarse, oldCoarse, samePointer]
      have positive := inhabited added (List.mem_cons_self ..)
      rw [same] at apart
      unfold Interval.stop at apart
      omega
    · have := newest (size_pos_of_classIndex_eq_none sameAlign oldCoarse)
      have := older fun coarse => absurd coarse oldCoarse
      omega
  · have := newest fun coarse => absurd coarse addedCoarse
    have := older (size_pos_of_classIndex_eq_none sameAlign.symm addedCoarse)
    omega

end Heap

namespace HeapState

def start (region : HeapRegion) (headers : Nat → Interval) : HeapState where
  heap := (Heap.empty headers).init region.base region.size
  live := []

def Sound (region : HeapRegion) (state : HeapState) : Prop :=
  state.heap.Sound region state.live

/-- No request the operation makes of the carver wraps around the address
space in a free block. -/
def InRange (state : HeapState) : HeapOperation → Prop
  | .allocate layout => state.heap.RequestInRange layout
  | .deallocate _ _ => True
  | .reallocate pointer layout newSize =>
    ∀ newLayout ∈ Layout.fromSizeAlign newSize layout.align,
      state.heap.fitsInPlace pointer layout newLayout = false → state.heap.RequestInRange newLayout

instance (state : HeapState) : (operation : HeapOperation) → Decidable (state.InRange operation)
  | .allocate layout => inferInstanceAs (Decidable (state.heap.RequestInRange layout))
  | .deallocate _ _ => isTrue trivial
  | .reallocate pointer layout newSize =>
    inferInstanceAs (Decidable (∀ newLayout ∈ Layout.fromSizeAlign newSize layout.align,
      state.heap.fitsInPlace pointer layout newLayout = false →
        state.heap.RequestInRange newLayout))

theorem start_sound (region : HeapRegion) (headers : Nat → Interval) :
    (start region headers).Sound region := by
  have large := region.holdsHeader
  have positive : 0 < region.span.size := Nat.lt_of_lt_of_le (by decide) large
  exact
    { inited := rfl
      limit_eq := rfl
      packs := by
        exact (tiles_singleton positive).toPacks
      separated := List.pairwise_singleton _ _
      roomy := by
        intro block member
        cases List.mem_singleton.mp member
        exact large
      slabsAligned := by
        intro index pointer member
        cases member
      placed := by
        intro allocation member
        cases member }

/-- An operation in range keeps the allocations and the free blocks apart. -/
theorem Sound.step {region : HeapRegion} {state next : HeapState} {operation : HeapOperation}
    (sound : state.Sound region) (inRange : state.InRange operation)
    (taken : state.step operation = some next) :
    next.Sound region := by
  cases operation with
  | allocate layout =>
    simp only [HeapState.step] at taken
    rcases Heap.Sound.allocate sound inRange with
      failed | ⟨pointer, heap, granted, grown⟩
    · rw [failed] at taken
      cases taken
      exact sound
    · rw [granted] at taken
      cases taken
      exact grown
  | deallocate pointer layout =>
    simp only [HeapState.step] at taken
    split at taken
    · rename_i member
      cases taken
      have front := Heap.Sound.perm sound (List.perm_cons_erase member)
      exact front.deallocate
    · cases taken
  | reallocate pointer layout =>
    simp only [HeapState.step] at taken
    split at taken
    · rename_i member
      have front := Heap.Sound.perm sound (List.perm_cons_erase member)
      rcases front.reallocate inRange with
        failed | ⟨newLayout, newPointer, heap, valid, granted, moved⟩
      · rw [failed] at taken
        cases taken
        exact sound
      · rw [granted] at taken
        simp only [valid] at taken
        cases taken
        exact moved
    · cases taken

/-- **Separation of the kernel heap.**  Live allocations are aligned, lie in the
region and are apart from each other and from everything free. -/
theorem heap_separation (region : HeapRegion) (headers : Nat → Interval)
    (operations : List HeapOperation) (final : HeapState)
    (reached : exec step (start region headers) operations = some final)
    (inRange : Guarded step InRange (start region headers) operations) :
    (∀ allocation ∈ final.live,
        allocation.layout.align ∣ allocation.pointer ∧ allocation.range.Inside region.span) ∧
      PairwiseApart
        (final.live.flatMap (·.footprint) ++ (final.heap.coarse ++ final.heap.freeSlabs)) := by
  have sound : final.Sound region := invariant_of_guarded
    (fun _ _ _ sound admitted taken => Sound.step sound admitted taken)
    (start_sound region headers) inRange reached
  have packs := sound.packs
  constructor
  · intro allocation member
    have placed := sound.placed allocation member
    have extentInside := packs.inside _ (Heap.extent_mem_pieces member)
    exact ⟨placed.aligned, placed.range_inside.trans extentInside⟩
  · have reordered :
        (final.heap.pieces final.live).Perm (final.live.map (·.extent final.heap) ++
          (final.heap.coarse ++ final.heap.freeSlabs)) := by
      unfold Heap.pieces
      rw [← List.append_assoc]
      exact List.perm_append_comm
    refine (packs.perm reordered).apart.flatMap_append ?_ ?_
    · intro allocation member
      exact (sound.placed allocation member).footprint_apart
    · intro allocation member part partMember
      exact (sound.placed allocation member).footprint_inside partMember

/-- A 64 KiB region in the direct map. -/
def directMapRegion : HeapRegion where
  base := 0xFFFF800000100000
  size := 0x10000
  pageAligned := by decide
  notNull := by decide
  holdsHeader := by decide
  addressable := by decide

def slabLayout : Layout := ⟨48, 8, by decide, by decide⟩

def coarseLayout : Layout := ⟨20000, 16, by decide, by decide⟩

def grownLayout : Layout := ⟨20010, 16, by decide, by decide⟩

/-- With its header it reaches from the start of the region to `0x1000`. -/
def hugeLayout : Layout := ⟨0x7FFFFFF00FF0, 16, by decide, by decide⟩

/-- A slab block and a coarse block are taken, the coarse block is moved and
the slab block is given back. -/
def mixedRun : List HeapOperation :=
  [.allocate slabLayout,
    .allocate coarseLayout, .reallocate 0xFFFF800000100210 coarseLayout 20010,
    .deallocate 0xFFFF8000001001C0 slabLayout]

theorem mixedRun_separated :
    ∃ final, exec step (start directMapRegion fun _ => ⟨0, 0⟩) mixedRun = some final ∧
      final.live = [⟨0xFFFF800000105040, grownLayout⟩] ∧
      PairwiseApart
        (final.live.flatMap (·.footprint) ++ (final.heap.coarse ++ final.heap.freeSlabs)) := by
  refine exists_reached (by decide +kernel) fun final reached => ?_
  have separation := heap_separation _ _ _ final reached (by decide +kernel)
  exact ⟨of_reached reached (by decide +kernel), separation.2⟩

/-- The carver grants almost 128 TiB in a region of 64 KiB: the end of the carve
wraps below the end of the block. -/
theorem hugeRequest_escapes :
    ∃ final, exec step (start directMapRegion fun _ => ⟨0, 0⟩) [.allocate hugeLayout] = some final ∧
      ∃ allocation ∈ final.live, ¬ allocation.range.Inside directMapRegion.span := by
  decide +kernel

end HeapState

end Xenith.Mm
