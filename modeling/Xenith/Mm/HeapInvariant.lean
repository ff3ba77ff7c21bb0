import Xenith.Lib.ListEdit
import Xenith.Mm.HeapBlocks

/-!
# The invariant of the kernel heap

A sound heap packs its region with its free coarse blocks, its free slab blocks
and the extents of the live allocations, and keeps every live pointer inside
its extent.
-/

namespace Xenith.Mm

open Xenith.Interval
open Allocation
open Function

/-! ## Pieces -/

namespace Heap

def slabBlock (index : ClassIndex) (pointer : Nat) : Interval :=
  ⟨pointer, slabClasses.get index⟩

def freeSlabs (heap : Heap) : List Interval :=
  (List.finRange slabClasses.length).flatMap fun index => (heap.slabs index).map (slabBlock index)

end Heap

namespace Allocation

/-- The block an allocation keeps from the free lists: its slab block, or the
coarse block its `AllocHeader` records. -/
def extent (heap : Heap) (allocation : Allocation) : Interval :=
  match classIndex allocation.layout with
  | some (_, size) => ⟨allocation.pointer, size⟩
  | none => heap.headers (allocation.pointer - allocHeaderSize)

def range (allocation : Allocation) : Interval :=
  ⟨allocation.pointer, allocation.layout.size⟩

/-- The byte range of an allocation, and the `AllocHeader` before it when it
comes from the coarse tier. -/
def footprint (allocation : Allocation) : List Interval :=
  match classIndex allocation.layout with
  | some _ => [allocation.range]
  | none => [⟨allocation.pointer - allocHeaderSize, allocHeaderSize⟩, allocation.range]

/-- The allocation sits in the given extent. -/
structure Placed (allocation : Allocation) (extent : Interval) : Prop where
  aligned : allocation.layout.align ∣ allocation.pointer
  reaches : allocation.pointer + allocation.layout.size ≤ extent.stop
  slab : ∀ index size, classIndex allocation.layout = some (index, size) →
    extent = ⟨allocation.pointer, size⟩ ∧ size ∣ allocation.pointer
  coarse : classIndex allocation.layout = none →
    extent.start + allocHeaderSize ≤ allocation.pointer ∧ extent.stop < 2 ^ 64

end Allocation

namespace Heap

def pieces (heap : Heap) (live : List Allocation) : List Interval :=
  heap.coarse ++ (heap.freeSlabs ++ live.map (·.extent heap))

theorem pieces_perm
    (heap : Heap) {live reordered : List Allocation} (permutation : live.Perm reordered) :
    (heap.pieces live).Perm (heap.pieces reordered) :=
  ((permutation.map _).append_left _).append_left _

variable {next : Heap} {index : ClassIndex} {pointer size : Nat}

structure Sound (region : HeapRegion) (heap : Heap) (live : List Allocation) : Prop where
  inited : heap.inited = true
  limit_eq : heap.limit = wrappingAdd region.base region.size
  packs : Packs region.span (heap.pieces live)
  separated : Separated heap.coarse
  roomy : ∀ block ∈ heap.coarse, freeHeaderSize ≤ block.size
  slabsAligned : ∀ index, ∀ pointer ∈ heap.slabs index, slabClasses.get index ∣ pointer
  placed : ∀ allocation ∈ live, allocation.Placed (allocation.extent heap)

variable {region : HeapRegion} {heap : Heap} {live : List Allocation}

theorem Sound.inside (sound : heap.Sound region live) :
    ∀ block ∈ heap.coarse, block.Inside region.span := by
  intro block member
  exact sound.packs.inside block (List.mem_append_left _ member)

theorem Sound.perm {reordered : List Allocation} (sound : heap.Sound region live)
    (permutation : live.Perm reordered) :
    heap.Sound region reordered where
  inited := sound.inited
  limit_eq := sound.limit_eq
  packs := sound.packs.perm (heap.pieces_perm permutation)
  separated := sound.separated
  roomy := sound.roomy
  slabsAligned := sound.slabsAligned
  placed := fun allocation member => sound.placed allocation (permutation.mem_iff.mpr member)

/-! ## The slab tier -/

theorem freeSlabs_push (index : ClassIndex) (pointer : Nat) :
    (heap.push index pointer).freeSlabs.Perm (slabBlock index pointer :: heap.freeSlabs) :=
  ListEdit.flatMap_update_append_perm (List.nodup_finRange _)
    (List.mem_finRange index) heap.slabs [pointer] slabBlock

theorem push_of_pop (popped : heap.pop index = some (pointer, next)) :
    heap = next.push index pointer := by
  unfold pop at popped
  split at popped
  · cases popped
  · rename_i node rest stackEq
    cases popped
    simp [push, ← stackEq]

theorem Sound.push {allocation : Allocation} (sound : heap.Sound region (allocation :: live))
    (slab : classIndex allocation.layout = some (index, size)) :
    (heap.push index allocation.pointer).Sound region live := by
  have placed := sound.placed allocation (List.mem_cons_self ..)
  obtain ⟨extentEq, aligned⟩ := placed.slab index size slab
  obtain ⟨sizeEq, _⟩ := classIndex_eq_some slab
  have moved :
      (heap.pieces (allocation :: live)).Perm
        ((heap.push index allocation.pointer).pieces live) := by
    refine List.Perm.append_left _ ?_
    rw [List.map_cons, extentEq, sizeEq]
    refine List.perm_middle.trans ?_
    exact (freeSlabs_push index allocation.pointer).symm.append_right _
  exact
    { inited := sound.inited
      limit_eq := sound.limit_eq
      packs := sound.packs.perm moved
      separated := sound.separated
      roomy := sound.roomy
      slabsAligned := by
        intro position pointer member
        by_cases same : position = index
        · subst same
          simp only [Heap.push, update_self] at member
          rcases List.mem_cons.mp member with rfl | older
          · exact sizeEq ▸ aligned
          · exact sound.slabsAligned position pointer older
        · simp only [Heap.push, update_of_ne same] at member
          exact sound.slabsAligned position pointer member
      placed := fun other member => sound.placed other (List.mem_cons_of_mem _ member) }

variable {layout : Layout}

theorem Sound.pop (sound : heap.Sound region live) (slab : classIndex layout = some (index, size))
    (popped : heap.pop index = some (pointer, next)) :
    next.Sound region (⟨pointer, layout⟩ :: live) := by
  have pushed := push_of_pop popped
  subst pushed
  obtain ⟨sizeEq, sizeLe, alignDvd⟩ := classIndex_eq_some slab
  have aligned : size ∣ pointer := by
    rw [sizeEq]
    exact sound.slabsAligned index pointer (by simp [Heap.push])
  have extentEq : extent next ⟨pointer, layout⟩ = ⟨pointer, size⟩ := by
    simp [extent, slab]
  have moved :
      ((next.push index pointer).pieces live).Perm (next.pieces (⟨pointer, layout⟩ :: live)) := by
    refine List.Perm.append_left _ ?_
    rw [List.map_cons, extentEq, sizeEq]
    refine ((freeSlabs_push index pointer).append_right _).trans ?_
    exact List.perm_middle.symm
  exact
    { inited := sound.inited
      limit_eq := sound.limit_eq
      packs := sound.packs.perm moved
      separated := sound.separated
      roomy := sound.roomy
      slabsAligned := by
        intro position other member
        refine sound.slabsAligned position other ?_
        by_cases same : position = index
        · subst same
          simp [Heap.push, member]
        · simpa [Heap.push, update_of_ne same] using member
      placed := by
        intro allocation member
        rcases List.mem_cons.mp member with rfl | older
        · rw [extentEq]
          exact
            { aligned := alignDvd.trans aligned
              reaches := by simpa using sizeLe
              slab := by
                intro position other found
                cases slab.symm.trans found
                exact ⟨rfl, aligned⟩
              coarse := by
                intro missing
                cases slab.symm.trans missing }
        · exact sound.placed allocation older }

theorem foldl_push_eq (index : ClassIndex) (pointers : List Nat) (heap : Heap) :
    pointers.foldl (fun filled => filled.push index) heap =
      { heap with
        slabs := update heap.slabs index (pointers.reverse ++ heap.slabs index) } := by
  induction pointers generalizing heap with
  | nil => simp
  | cons _ _ ih =>
    rw [List.foldl_cons, ih]
    simp [Heap.push]

theorem refill_eq (heap : Heap) (index : ClassIndex) (run size : Nat) :
    heap.refill index run size =
      { heap with
        slabs := update heap.slabs index ((slicedBlocks run size).reverse ++ heap.slabs index) } :=
  foldl_push_eq index (slicedBlocks run size) heap

theorem freeSlabs_refill (index : ClassIndex) (run : Nat) :
    (heap.refill index run (slabClasses.get index)).freeSlabs.Perm
      (slices run (slabClasses.get index) slabRefillCount ++ heap.freeSlabs) := by
  have prepended := ListEdit.flatMap_update_append_perm (List.nodup_finRange _)
    (List.mem_finRange index) heap.slabs
    (slicedBlocks run (slabClasses.get index)).reverse slabBlock
  rw [refill_eq]
  refine prepended.trans ?_
  exact ((List.reverse_perm _).map _).append_right _

theorem mem_slabs_refill {position : ClassIndex} {run : Nat}
    (member : pointer ∈ (heap.refill index run size).slabs position) :
    pointer ∈ heap.slabs position ∨ position = index ∧ pointer ∈ slicedBlocks run size := by
  rw [refill_eq] at member
  by_cases same : position = index
  · subst same
    simp only [update_self, List.mem_append, List.mem_reverse] at member
    tauto
  · simp only [update_of_ne same] at member
    exact Or.inl member

/-- A refill cuts the block it carves into blocks of the class. -/
theorem Sound.refill {fit : Fit} {filled : Heap} (sound : heap.Sound region live)
    (carves : heap.Carves (slabRefillCount * slabClasses.get index) (slabClasses.get index) fit)
    (filledEq : filled = Heap.refill
      { heap with coarse := fit.remaining (slabRefillCount * slabClasses.get index) }
      index fit.carve (slabClasses.get index)) :
    filled.Sound region live := by
  have large : 16 ≤ slabClasses.get index := minSlabSize_le_class index
  have positive : 0 < slabRefillCount * slabClasses.get index := by
    unfold slabRefillCount
    omega
  have carved := carves.packs positive sound.packs
  have sliced := (carved.perm List.perm_middle).replace
    (pairwiseApart_slices fit.carve (slabClasses.get index) slabRefillCount)
    (fun slice => inside_of_mem_slices rfl carves.carved_inside.2)
    (by
      intro slice member
      obtain ⟨_, _, rfl⟩ := List.mem_map.mp member
      exact Nat.lt_of_lt_of_le (by decide) large)
  have coarseEq : filled.coarse = fit.remaining (slabRefillCount * slabClasses.get index) := by
    rw [filledEq, refill_eq]
  have freed :
      filled.freeSlabs.Perm
        (slices fit.carve (slabClasses.get index) slabRefillCount ++ heap.freeSlabs) := by
    rw [filledEq]
    exact freeSlabs_refill index fit.carve
  have extents : ∀ allocation : Allocation, allocation.extent filled = allocation.extent heap := by
    intro allocation
    rw [filledEq, refill_eq]
    rfl
  exact
    { inited := by
        rw [filledEq, refill_eq]
        exact sound.inited
      limit_eq := by
        rw [filledEq, refill_eq]
        exact sound.limit_eq
      packs := by
        refine sliced.perm ?_
        unfold pieces
        simp only [coarseEq, extents]
        refine List.perm_append_comm_assoc _ _ _ |>.trans ?_
        refine List.Perm.append_left _ ?_
        exact freed.symm.append_right _
      separated := by
        rw [coarseEq]
        exact carves.remaining_separated positive sound.separated
      roomy := by
        rw [coarseEq]
        exact carves.remaining_roomy sound.roomy
      slabsAligned := by
        intro position pointer member
        rw [filledEq] at member
        rcases mem_slabs_refill member with older | ⟨rfl, fresh⟩
        · exact sound.slabsAligned position pointer older
        · obtain ⟨_, _, rfl⟩ := List.mem_map.mp fresh
          exact Nat.dvd_add carves.aligned (Nat.dvd_mul_left _ _)
      placed := by
        intro allocation member
        rw [extents]
        exact sound.placed allocation member }

/-! ## The coarse tier -/

theorem allocHeaderSize_le_userOffset (align : Nat) : allocHeaderSize ≤ userOffset align := by
  unfold userOffset
  split
  · omega
  · exact Nat.le_refl _

theorem dvd_userOffset {align : Nat} (power : IsPowerOfTwo align) : align ∣ userOffset align := by
  unfold userOffset
  split
  · exact Nat.dvd_refl _
  · rename_i small
    exact power.dvd (isPowerOfTwo_two_pow 4) (by omega)

/-- Writing an `AllocHeader` outside the extent of an allocation leaves that
extent alone. -/
theorem extent_write_header
    {allocation : Allocation} {address : Nat} {header : Interval} {coarse : List Interval}
    (placed : allocation.Placed (allocation.extent heap))
    (outside : ¬ (allocation.extent heap).Holds address) :
    allocation.extent
        { heap with coarse := coarse, headers := update heap.headers address header } =
      allocation.extent heap := by
  cases found : classIndex allocation.layout with
  | some => simp [extent, found]
  | none =>
    obtain ⟨_, _⟩ := placed.coarse found
    have high := placed.reaches
    have different : allocation.pointer - allocHeaderSize ≠ address := by
      rintro rfl
      refine outside ⟨?_, ?_⟩
      all_goals
        unfold allocHeaderSize at *
        omega
    simp [extent, update_of_ne different]

theorem Sound.apart_extent {block : Interval} {allocation : Allocation}
    (sound : heap.Sound region live) (blockMember : block ∈ heap.coarse)
    (member : allocation ∈ live) :
    block.Apart (allocation.extent heap) := by
  obtain ⟨_, _, between⟩ := List.pairwise_append.mp sound.packs.apart
  refine between block blockMember _ ?_
  exact List.mem_append_right _ (List.mem_map_of_mem member)

def request (layout : Layout) : Nat :=
  layout.size + userOffset layout.align

/-- The allocation made in the block the walk found. -/
def Fit.allocation (fit : Fit) (layout : Layout) : Allocation :=
  ⟨fit.carve + userOffset layout.align, layout⟩

def carveOut (heap : Heap) (fit : Fit) (layout : Layout) : Heap :=
  { heap with
    coarse := fit.remaining (request layout)
    headers := update heap.headers
      ((fit.allocation layout).pointer - allocHeaderSize) (fit.carved (request layout)) }

theorem coarseAlloc_cases (sound : heap.Sound region live)
    (inRange : heap.CarvesInRange (request layout) layout.align) :
    heap.coarseAlloc layout.size layout.align = (none, heap) ∨ ∃ fit,
      heap.Carves (request layout) layout.align fit ∧ heap.coarseAlloc layout.size layout.align =
        (some (fit.allocation layout).pointer, heap.carveOut fit layout) := by
  rcases coarseAllocRaw_cases sound.limit_eq sound.inside layout.powerOfTwo.pos inRange with
    failed | ⟨fit, carves, taken⟩
  · refine Or.inl ?_
    unfold request at failed
    simp only [coarseAlloc, failed]
  · refine Or.inr ⟨fit, carves, ?_⟩
    have offset : 16 ≤ userOffset layout.align := allocHeaderSize_le_userOffset layout.align
    have positive : fit.carve + userOffset layout.align ≠ 0 := by omega
    have notNull :
        nonNull (fit.carve + userOffset layout.align) =
          some (fit.carve + userOffset layout.align) :=
      if_neg positive
    unfold request at taken
    simp only [coarseAlloc, taken, notNull]
    rfl

section CarveOut

variable {layout : Layout} {fit : Fit}

theorem extent_carveOut (coarse : classIndex layout = none) :
    (fit.allocation layout).extent (heap.carveOut fit layout) = fit.carved (request layout) := by
  have layoutEq : (fit.allocation layout).layout = layout := rfl
  simp [extent, layoutEq, coarse, carveOut]

theorem Sound.extent_carveOut_of_mem {allocation : Allocation} (sound : heap.Sound region live)
    (carves : heap.Carves (request layout) layout.align fit) (member : allocation ∈ live) :
    allocation.extent (heap.carveOut fit layout) = allocation.extent heap := by
  refine extent_write_header (sound.placed allocation member) ?_
  intro held
  have listed : fit.block ∈ heap.coarse := by simp [carves.listed]
  have apart := sound.apart_extent listed member
  have offset : 16 ≤ userOffset layout.align := allocHeaderSize_le_userOffset layout.align
  have low := carves.low
  have high := carves.high
  have above := held.1
  have below := held.2
  unfold request at high
  unfold Fit.allocation allocHeaderSize at above below
  simp only at above below
  rcases apart with before | after
  · omega
  · omega

theorem pieces_carveOut (sound : heap.Sound region live) (coarse : classIndex layout = none)
    (carves : heap.Carves (request layout) layout.align fit) :
    (heap.carveOut fit layout).pieces (fit.allocation layout :: live) =
      fit.remaining (request layout) ++
        (heap.freeSlabs ++ fit.carved (request layout) :: live.map (·.extent heap)) := by
  have others : live.map (·.extent (heap.carveOut fit layout)) = live.map (·.extent heap) :=
    List.map_congr_left fun allocation member => sound.extent_carveOut_of_mem carves member
  unfold pieces
  rw [List.map_cons, extent_carveOut coarse, others]
  rfl

theorem request_pos (layout : Layout) : 0 < request layout := by
  have offset : 16 ≤ userOffset layout.align := allocHeaderSize_le_userOffset layout.align
  unfold request
  omega

theorem Sound.carveOut (sound : heap.Sound region live) (coarse : classIndex layout = none)
    (carves : heap.Carves (request layout) layout.align fit) :
    (heap.carveOut fit layout).Sound region (fit.allocation layout :: live) := by
  have positive := request_pos layout
  have carved := carves.packs positive sound.packs
  obtain ⟨inside, large⟩ := carves.carved_inside
  have offset := allocHeaderSize_le_userOffset layout.align
  exact
    { inited := sound.inited
      limit_eq := sound.limit_eq
      packs := by
        rw [pieces_carveOut sound coarse carves]
        exact carved.perm (List.Perm.append_left _ List.perm_middle.symm)
      separated := carves.remaining_separated positive sound.separated
      roomy := carves.remaining_roomy sound.roomy
      slabsAligned := sound.slabsAligned
      placed := by
        intro allocation member
        rcases List.mem_cons.mp member with rfl | older
        · rw [extent_carveOut coarse]
          exact
            { aligned := Nat.dvd_add carves.aligned (dvd_userOffset layout.powerOfTwo)
              reaches := by
                unfold Interval.stop
                simp only [Fit.allocation, Fit.carved, request] at large ⊢
                omega
              slab := by
                intro index size found
                cases coarse.symm.trans found
              coarse := by
                intro _
                have bounded := carves.bounded
                have reached := inside.2
                refine ⟨?_, by omega⟩
                simp only [Fit.allocation, Fit.carved]
                omega }
        · rw [sound.extent_carveOut_of_mem carves older]
          exact sound.placed allocation older }

end CarveOut

/-- The extent of a coarse allocation goes back to the coarse list. -/
theorem Sound.coarseDealloc_coalesces
    {allocation : Allocation} {freed : Interval} (sound : heap.Sound region (allocation :: live))
    (coarse : classIndex allocation.layout = none) (freedEq : allocation.extent heap = freed) :
    Separated (heap.coarseDealloc freed.start freed.size).coarse ∧
      (∀ kept,
        Coalesces (heap.coarse ++ freed :: kept)
          ((heap.coarseDealloc freed.start freed.size).coarse ++ kept)) ∧
      Coalesces (heap.pieces (allocation :: live))
        ((heap.coarseDealloc freed.start freed.size).pieces live) := by
  have placed := sound.placed allocation (List.mem_cons_self ..)
  obtain ⟨_, bounded⟩ := placed.coarse coarse
  rw [freedEq] at bounded
  have opened :
      (heap.pieces (allocation :: live)).Perm
        (heap.coarse ++ freed :: (heap.freeSlabs ++ live.map (·.extent heap))) := by
    refine List.Perm.append_left _ ?_
    rw [List.map_cons, freedEq]
    exact List.perm_middle
  obtain ⟨separated, merges⟩ := coarseDealloc_spec bounded sound.separated (sound.packs.perm opened)
  exact ⟨separated, merges, Coalesces.trans (.perm opened) (merges _)⟩

theorem Sound.coarseDealloc
    {allocation : Allocation} {freed : Interval} (sound : heap.Sound region (allocation :: live))
    (coarse : classIndex allocation.layout = none) (freedEq : allocation.extent heap = freed) :
    (heap.coarseDealloc freed.start freed.size).Sound region live := by
  have placed := sound.placed allocation (List.mem_cons_self ..)
  obtain ⟨low, _⟩ := placed.coarse coarse
  have reaches := placed.reaches
  rw [freedEq] at low reaches
  obtain ⟨separated, merges, merged⟩ := sound.coarseDealloc_coalesces coarse freedEq
  have large : freeHeaderSize ≤ freed.size := by
    unfold Interval.stop at reaches
    unfold allocHeaderSize at low
    unfold freeHeaderSize
    omega
  exact
    { inited := sound.inited
      limit_eq := sound.limit_eq
      packs := sound.packs.coalesces merged
      separated := separated
      roomy := by
        have grown := merges []
        rw [List.append_nil] at grown
        exact grown.le_size
          (List.forall_mem_append.mpr ⟨sound.roomy, List.forall_mem_singleton.mpr large⟩)
      slabsAligned := sound.slabsAligned
      placed := fun other member => sound.placed other (List.mem_cons_of_mem _ member) }

/-! ## Allocate, deallocate, reallocate -/

theorem Sound.deallocate
    {allocation : Allocation} (sound : heap.Sound region (allocation :: live)) :
    (heap.deallocate allocation.pointer allocation.layout).Sound region live := by
  unfold Heap.deallocate
  cases found : classIndex allocation.layout with
  | some => exact sound.push found
  | none =>
    refine sound.coarseDealloc found ?_
    simp [extent, found]

/-- The carver is only asked for blocks whose carve does not wrap. -/
def RequestInRange (heap : Heap) (layout : Layout) : Prop :=
  match classIndex layout with
  | some (index, size) => heap.slabs index = [] → heap.CarvesInRange (slabRefillCount * size) size
  | none => heap.CarvesInRange (request layout) layout.align

instance (heap : Heap) (layout : Layout) : Decidable (heap.RequestInRange layout) := by
  unfold RequestInRange
  split <;> infer_instance

theorem refill_pop (heap : Heap) (index : ClassIndex) (run size : Nat) :
    ∃ pointer next, (heap.refill index run size).pop index = some (pointer, next) := by
  rw [refill_eq]
  simp [pop, slicedBlocks, slabRefillCount, List.range_succ]

theorem Sound.slabAlloc (sound : heap.Sound region live)
    (slab : classIndex layout = some (index, size))
    (inRange : heap.slabs index = [] → heap.CarvesInRange (slabRefillCount * size) size) :
    heap.slabAlloc layout = (none, heap) ∨ ∃ pointer next,
      heap.slabAlloc layout = (some pointer, next) ∧
        next.Sound region (⟨pointer, layout⟩ :: live) := by
  obtain ⟨sizeEq, _⟩ := classIndex_eq_some slab
  cases popped : heap.pop index with
  | some result =>
    obtain ⟨pointer, next⟩ := result
    refine Or.inr ⟨pointer, next, ?_, sound.pop slab popped⟩
    simp only [Heap.slabAlloc, slab, popped]
  | none =>
    have dry : heap.slabs index = [] := by
      unfold Heap.pop at popped
      split at popped
      · assumption
      · cases popped
    have positive : 0 < size := by
      have large := minSlabSize_le_class index
      unfold minSlabSize at large
      omega
    rcases coarseAllocRaw_cases sound.limit_eq sound.inside positive (inRange dry) with
      failed | ⟨fit, carves, taken⟩
    · refine Or.inl ?_
      simp only [Heap.slabAlloc, slab, popped, failed]
    · subst sizeEq
      obtain ⟨pointer, next, refilled⟩ := refill_pop
        { heap with coarse := fit.remaining (slabRefillCount * slabClasses.get index) }
        index fit.carve (slabClasses.get index)
      have filled := sound.refill carves rfl
      refine Or.inr ⟨pointer, next, ?_, filled.pop slab refilled⟩
      simp only [Heap.slabAlloc, slab, popped, taken, refilled]

theorem allocate_of_classIndex_eq_none
    (inited : heap.inited = true) (coarse : classIndex layout = none) :
    heap.allocate layout = heap.coarseAlloc layout.size layout.align := by
  simp [Heap.allocate, inited, coarse]

/-- An allocation fails and leaves the heap alone, or yields a sound heap with
one more live allocation. -/
theorem Sound.allocate (sound : heap.Sound region live) (inRange : heap.RequestInRange layout) :
    heap.allocate layout = (none, heap) ∨ ∃ pointer next,
      heap.allocate layout = (some pointer, next) ∧
        next.Sound region (⟨pointer, layout⟩ :: live) := by
  unfold RequestInRange at inRange
  cases found : classIndex layout with
  | some =>
    rw [found] at inRange
    simpa [Heap.allocate, sound.inited, found] using sound.slabAlloc found inRange
  | none =>
    rw [found] at inRange
    rw [allocate_of_classIndex_eq_none sound.inited found]
    rcases coarseAlloc_cases sound inRange with
      failed | ⟨fit, carves, taken⟩
    · exact Or.inl failed
    · exact Or.inr ⟨_, _, taken, sound.carveOut found carves⟩

/-- A pointer that keeps its place keeps its extent when its layout
changes. -/
theorem placed_of_fitsInPlace
    {allocation resized : Allocation} (placed : allocation.Placed (allocation.extent heap))
    (samePointer : resized.pointer = allocation.pointer)
    (sameAlign : resized.layout.align = allocation.layout.align)
    (stays : heap.fitsInPlace allocation.pointer allocation.layout resized.layout = true) :
    resized.extent heap = allocation.extent heap ∧ resized.Placed (allocation.extent heap) := by
  unfold fitsInPlace at stays
  have aligned : resized.layout.align ∣ resized.pointer := by
    rw [samePointer, sameAlign]
    exact placed.aligned
  split at stays
  · rename_i index size newIndex newSize oldClass newClass
    have sizeEq : size = newSize := by simpa using stays
    subst sizeEq
    obtain ⟨extentEq, sizeDvd⟩ := placed.slab index size oldClass
    obtain ⟨_, _, _⟩ := classIndex_eq_some newClass
    have resizedEq : resized.extent heap = ⟨resized.pointer, size⟩ := by
      simp [extent, newClass]
    rw [extentEq, resizedEq, samePointer]
    refine ⟨rfl, ⟨aligned, ?_, ?_, ?_⟩⟩
    · simp only [stop_mk]
      omega
    · intro position other found
      cases newClass.symm.trans found
      exact ⟨by rw [samePointer], samePointer ▸ sizeDvd⟩
    · intro missing
      cases newClass.symm.trans missing
  · rename_i oldClass newClass
    obtain ⟨low, bounded⟩ := placed.coarse oldClass
    have extentEq :
        allocation.extent heap = heap.headers (allocation.pointer - allocHeaderSize) := by
      simp [extent, oldClass]
    have resizedEq : resized.extent heap = heap.headers (allocation.pointer - allocHeaderSize) := by
      simp [extent, newClass, samePointer]
    have fits : resized.layout.size ≤ heap.usable allocation.pointer := by
      simpa using stays
    have usableEq :
        heap.usable allocation.pointer = (allocation.extent heap).stop - allocation.pointer := by
      have endEq :
          wrappingAdd (allocation.extent heap).start (allocation.extent heap).size =
            (allocation.extent heap).stop :=
        wrappingAdd_eq bounded
      unfold usable
      rw [← extentEq]
      simp only [endEq]
    have reaches := placed.reaches
    refine ⟨resizedEq.trans extentEq.symm, ⟨aligned, ?_, ?_, ?_⟩⟩
    · omega
    · intro index size found
      cases newClass.symm.trans found
    · intro _
      rw [samePointer]
      exact ⟨low, bounded⟩
  · cases stays

theorem Sound.resize
    {allocation resized : Allocation} (sound : heap.Sound region (allocation :: live))
    (samePointer : resized.pointer = allocation.pointer)
    (sameAlign : resized.layout.align = allocation.layout.align)
    (stays : heap.fitsInPlace allocation.pointer allocation.layout resized.layout = true) :
    heap.Sound region (resized :: live) := by
  have placed := sound.placed allocation (List.mem_cons_self ..)
  obtain ⟨extentEq, resizedPlaced⟩ := placed_of_fitsInPlace placed samePointer sameAlign stays
  exact
    { inited := sound.inited
      limit_eq := sound.limit_eq
      packs := by
        have packs := sound.packs
        unfold pieces at packs ⊢
        rw [List.map_cons] at packs ⊢
        rw [extentEq]
        exact packs
      separated := sound.separated
      roomy := sound.roomy
      slabsAligned := sound.slabsAligned
      placed := by
        intro other member
        rcases List.mem_cons.mp member with rfl | older
        · rw [extentEq]
          exact resizedPlaced
        · exact sound.placed other (List.mem_cons_of_mem _ older) }

theorem Sound.reallocate
    {allocation : Allocation} {newSize : Nat} (sound : heap.Sound region (allocation :: live))
    (inRange : ∀ newLayout ∈ Layout.fromSizeAlign newSize allocation.layout.align,
      heap.fitsInPlace allocation.pointer allocation.layout newLayout = false →
        heap.RequestInRange newLayout) :
    heap.reallocate allocation.pointer allocation.layout newSize = (none, heap) ∨
      ∃ newLayout pointer next,
        Layout.fromSizeAlign newSize allocation.layout.align = some newLayout ∧
          heap.reallocate allocation.pointer allocation.layout newSize = (some pointer, next) ∧
          next.Sound region (⟨pointer, newLayout⟩ :: live) := by
  cases valid : Layout.fromSizeAlign newSize allocation.layout.align with
  | none =>
    refine Or.inl ?_
    simp only [Heap.reallocate, valid]
  | some newLayout =>
    cases stays : heap.fitsInPlace allocation.pointer allocation.layout newLayout with
    | true =>
      refine Or.inr ⟨newLayout, allocation.pointer, heap, rfl, ?_,
        sound.resize rfl (Layout.align_of_fromSizeAlign valid) stays⟩
      simp only [Heap.reallocate, valid, stays, if_true]
    | false =>
      rcases sound.allocate (inRange newLayout valid stays) with
        failed | ⟨pointer, next, taken, grown⟩
      · refine Or.inl ?_
        simp [Heap.reallocate, valid, stays, failed]
      · have swapped := grown.perm (List.Perm.swap _ _ _)
        refine Or.inr ⟨newLayout, pointer, _, rfl, ?_, swapped.deallocate⟩
        simp [Heap.reallocate, valid, stays, taken]

end Heap

end Xenith.Mm
