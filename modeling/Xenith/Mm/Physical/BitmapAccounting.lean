import Xenith.Lib.Execution
import Xenith.Lib.Fallible
import Xenith.Mm.Physical.Bitmap

/-!
# Accounting of the bitmap frame allocator

The clear bits and the frames of the ledger are the releasable frames.  Every
request moves frames between the two, or makes further frames releasable.
-/

namespace Xenith.Mm.Physical

open Xenith.Util
open BitmapFrameAllocator Bitmap
open Finset
open MemoryRegion

def FrameSpan.Apart (first second : FrameSpan) : Prop :=
  ∀ frame, first.contains frame = true → second.contains frame = false

/-- The spans of a memory map: disjoint and inside of the tracked frames, the
number of which is a machine word. -/
structure FrameLayout.WellFormed (layout : FrameLayout) : Prop where
  bounded : layout.totalFrames < 2 ^ 64
  disjoint : (layout.usable ++ layout.bootloader).Pairwise FrameSpan.Apart
  inside : ∀ span ∈ layout.usable ++ layout.bootloader, span.stop ≤ layout.totalFrames

variable {span : FrameSpan} {frame index : Nat} {regions : List MemoryRegion}
variable {allocator : BitmapFrameAllocator}

theorem FrameSpan.contains_iff :
    span.contains frame = true ↔ span.start ≤ frame ∧ frame < span.stop := by
  simp [FrameSpan.contains]

/-! ## Well-formed layouts from the memory map -/

def MemoryRegion.Apart (first second : MemoryRegion) : Prop :=
  first.start + first.len ≤ second.start ∨ second.start + second.len ≤ first.start

/-- The complete frames of a region lie inside of it. -/
theorem completeFrames_eq_some
    {region : MemoryRegion} (complete : completeFrames region = some span) :
    region.stop = some (region.start + region.len) ∧
      region.start ≤ span.start * pageSize ∧
      span.stop * pageSize ≤ region.start + region.len := by
  obtain ⟨start, aligned, complete⟩ := Option.bind_eq_some_iff.mp complete
  obtain ⟨stop, ended, complete⟩ := Option.bind_eq_some_iff.mp complete
  obtain ⟨_, added, rfl⟩ := Option.map_eq_some_iff.mp aligned
  have sumEq := (checkedAdd_eq_some added).1
  have stopEq := (checkedAdd_eq_some ended).1
  split at complete
  · cases complete
    simp only [pageSize] at *
    exact ⟨by rw [ended, stopEq], by omega, by omega⟩
  · cases complete

theorem completeFrames_apart
    {first second : MemoryRegion} (apart : first.Apart second) {firstSpan secondSpan : FrameSpan}
    (firstComplete : completeFrames first = some firstSpan)
    (secondComplete : completeFrames second = some secondSpan) :
    firstSpan.Apart secondSpan := by
  obtain ⟨_, _, _⟩ := completeFrames_eq_some firstComplete
  obtain ⟨_, _, _⟩ := completeFrames_eq_some secondComplete
  intro frame inFirst
  rw [Bool.eq_false_iff]
  intro inSecond
  rw [FrameSpan.contains_iff] at inFirst inSecond
  simp only [pageSize] at *
  rcases apart with before | behind
  · omega
  · omega

theorem mem_spansOfKind {kind : RegionKind} (member : span ∈ spansOfKind regions kind) :
    ∃ region ∈ regions, region.kind = kind ∧ completeFrames region = some span := by
  obtain ⟨region, inFilter, complete⟩ := List.mem_filterMap.mp member
  obtain ⟨inRegions, sameKind⟩ := List.mem_filter.mp inFilter
  exact ⟨region, inRegions, of_decide_eq_true sameKind, complete⟩

def MemoryRegion.Holds (region : MemoryRegion) (frame : Nat) : Prop :=
  region.start ≤ frame * pageSize ∧ (frame + 1) * pageSize ≤ region.start + region.len

theorem holds_of_contains {kind : RegionKind} (member : span ∈ spansOfKind regions kind)
    (inside : span.contains frame = true) :
    ∃ region ∈ regions, region.kind = kind ∧ region.Holds frame := by
  obtain ⟨region, inRegions, sameKind, complete⟩ := mem_spansOfKind member
  obtain ⟨_, _, _⟩ := completeFrames_eq_some complete
  rw [FrameSpan.contains_iff] at inside
  refine ⟨region, inRegions, sameKind, ?_⟩
  simp only [Holds, pageSize] at *
  omega

theorem spansOfKind_pairwise (disjoint : regions.Pairwise Apart) (kind : RegionKind) :
    (spansOfKind regions kind).Pairwise FrameSpan.Apart := by
  apply (disjoint.filter _).filterMap
  intro first second apart firstSpan firstComplete secondSpan secondComplete
  exact completeFrames_apart apart firstComplete secondComplete

variable {heapClaim : Option (Nat × Nat)} {layout : FrameLayout}

theorem FrameLayout.ofRegions_eq_ok (built : FrameLayout.ofRegions regions heapClaim = .ok layout) :
    ∃ maxEnd, (regions.filterMap stop).max? = some maxEnd ∧
      layout.totalFrames = (maxEnd + pageSize - 1) / pageSize ∧
      layout.usable = spansOfKind regions .usable ∧
      layout.bootloader = spansOfKind regions .bootloader := by
  unfold FrameLayout.ofRegions at built
  cases largest : (regions.filterMap stop).max? with
  | none => simp [largest] at built
  | some maxEnd =>
    simp only [largest] at built
    repeat' split at built
    all_goals cases built
    exact ⟨maxEnd, rfl, rfl, rfl, rfl⟩

/-- A memory map of disjoint regions gives a well-formed layout. -/
theorem FrameLayout.ofRegions_wellFormed (disjoint : regions.Pairwise Apart)
    (built : FrameLayout.ofRegions regions heapClaim = .ok layout) :
    layout.WellFormed := by
  obtain ⟨maxEnd, largest, total, usable, bootloader⟩ := FrameLayout.ofRegions_eq_ok built
  have greatest := List.max?_eq_some_iff.mp largest
  have wordBounded : maxEnd < 2 ^ 64 := by
    obtain ⟨region, _, ended⟩ := List.mem_filterMap.mp greatest.1
    exact (checkedAdd_eq_some ended).2
  have inside : ∀ kind, ∀ span ∈ spansOfKind regions kind, span.stop ≤ layout.totalFrames := by
    intro kind span member
    obtain ⟨region, inRegions, _, complete⟩ := mem_spansOfKind member
    obtain ⟨ended, _, _⟩ := completeFrames_eq_some complete
    have below : region.start + region.len ≤ maxEnd :=
      greatest.2 _ (List.mem_filterMap.mpr ⟨region, inRegions, ended⟩)
    simp only [pageSize] at *
    omega
  constructor
  · rw [total]
    simp only [pageSize]
    omega
  · rw [usable, bootloader, List.pairwise_append]
    refine ⟨spansOfKind_pairwise disjoint _, spansOfKind_pairwise disjoint _, ?_⟩
    intro first inUsable second inBootloader
    obtain ⟨firstRegion, firstIn, firstKind, firstComplete⟩ := mem_spansOfKind inUsable
    obtain ⟨secondRegion, secondIn, secondKind, secondComplete⟩ := mem_spansOfKind inBootloader
    have different : firstRegion ≠ secondRegion := by
      rintro rfl
      cases firstKind.symm.trans secondKind
    have symmetric : Std.Symm Apart := ⟨fun _ _ => Or.symm⟩
    have apart := disjoint.forall firstIn secondIn different
    exact completeFrames_apart apart firstComplete secondComplete
  · rw [usable, bootloader]
    intro span member
    exact (List.mem_append.mp member).elim (inside _ span) (inside _ span)

/-! ## The invariant -/

namespace BitmapFrameAllocator

/-- The frames that may be handed out. -/
def releasableFrames (allocator : BitmapFrameAllocator) : Finset Nat :=
  (range allocator.totalFrames).filter fun index => allocator.isReleasable index = true

theorem mem_releasableFrames :
    index ∈ allocator.releasableFrames ↔
      index < allocator.totalFrames ∧ allocator.isReleasable index = true := by
  simp [releasableFrames]

theorem isReleasable_iff :
    allocator.isReleasable index = true ↔
      (index ≠ 0 ∧ allocator.bitmapStorage.contains index = false ∧
        allocator.heapStorage.contains index = false) ∧
        ((∃ span ∈ allocator.usable, span.contains index = true) ∨
          ∃ span ∈ allocator.releasedBootloader, span.contains index = true) := by
  unfold isReleasable
  split
  · next reserved =>
    simp only [Bool.false_eq_true, false_iff, not_and]
    rintro ⟨nonzero, outsideBitmap, outsideHeap⟩
    simp [nonzero, outsideBitmap, outsideHeap] at reserved
  · next unreserved =>
    simp only [not_or, Bool.not_eq_true] at unreserved
    simp only [Bool.or_eq_true, List.any_eq_true]
    exact ⟨fun owned => ⟨unreserved, owned⟩, fun both => both.2⟩

end BitmapFrameAllocator

/-- The span that `reclaim_bootloader` releases for a span of the map. -/
def FrameSpan.trimmed (span : FrameSpan) : FrameSpan :=
  ⟨max span.start 1, span.stop⟩

/-- The allocator still works over the spans of its layout. -/
structure FrameLedger.SameLayout
    (layout : FrameLayout) (allocator : BitmapFrameAllocator) : Prop where
  len : allocator.bitmap.len = layout.totalFrames
  totalFrames : allocator.totalFrames = layout.totalFrames
  usable : allocator.usable = layout.usable
  bootloader : allocator.bootloader = layout.bootloader
  bitmapStorage : allocator.bitmapStorage = layout.bitmapStorage
  heapStorage : allocator.heapStorage = layout.heapStorage

structure FrameLedger.Accounted (layout : FrameLayout) (ledger : FrameLedger) : Prop where
  same : FrameLedger.SameLayout layout ledger.allocator
  freeFrames : ledger.allocator.freeFrames = ledger.allocator.bitmap.clearBits.card
  capacity : ledger.allocator.capacityFrames = ledger.allocator.releasableFrames.card
  clearReleasable : ledger.allocator.bitmap.clearBits ⊆ ledger.allocator.releasableFrames
  distinct : ledger.outstanding.Nodup
  outstanding : ledger.outstanding.toFinset =
    ledger.allocator.releasableFrames \ ledger.allocator.bitmap.clearBits
  released : ∀ span ∈ ledger.allocator.releasedBootloader,
    ∃ original ∈ layout.bootloader, span = original.trimmed
  unreclaimed :
    ledger.allocator.bootloaderReclaimed = false → ledger.allocator.releasedBootloader = []

namespace FrameLedger

variable {layout : FrameLayout} {ledger : FrameLedger}

theorem Accounted.capacity_le (accounted : ledger.Accounted layout) :
    ledger.allocator.capacityFrames ≤ layout.totalFrames := by
  rw [accounted.capacity, ← accounted.same.totalFrames]
  calc
    ledger.allocator.releasableFrames.card ≤ (range ledger.allocator.totalFrames).card :=
      card_filter_le _ _
    _ = ledger.allocator.totalFrames := card_range _

theorem Accounted.freeFrames_le (accounted : ledger.Accounted layout) :
    ledger.allocator.freeFrames ≤ ledger.allocator.capacityFrames := by
  rw [accounted.freeFrames, accounted.capacity]
  exact card_le_card accounted.clearReleasable

theorem Accounted.length_outstanding (accounted : ledger.Accounted layout) :
    ledger.outstanding.length = ledger.allocator.usedCount := by
  rw [← List.toFinset_card_of_nodup accounted.distinct,
    accounted.outstanding, card_sdiff_of_subset accounted.clearReleasable,
    ← accounted.capacity, ← accounted.freeFrames]
  rfl

/-! ## Moving frames between the bitmap and the ledger -/

theorem toFinset_range' (first count : Nat) :
    (List.range' first count).toFinset = Ico first (first + count) := by
  ext index
  simp

variable {count first : Nat} {done rest : List FrameSpan} {original : FrameSpan}

theorem Accounted.take
    (wellFormed : layout.WellFormed) (accounted : ledger.Accounted layout) (next : Nat)
    (isRun : Ico first (first + count) ⊆ ledger.allocator.bitmap.clearBits) :
    Accounted layout
      { allocator :=
          { ledger.allocator with
            bitmap := ledger.allocator.bitmap.assignRange true first count
            freeFrames := wrappingSub ledger.allocator.freeFrames count
            nextFrame := next }
        outstanding := List.range' first count ++ ledger.outstanding } := by
  have sameCard : (Ico first (first + count)).card = count := by simp
  have enough : count ≤ ledger.allocator.freeFrames := by
    rw [accounted.freeFrames]
    calc
      count = (Ico first (first + count)).card := sameCard.symm
      _ ≤ ledger.allocator.bitmap.clearBits.card := card_le_card isRun
  have word : ledger.allocator.freeFrames < 2 ^ 64 := by
    have capacityBounded := accounted.capacity_le
    have freeBounded := accounted.freeFrames_le
    have totalBounded := wellFormed.bounded
    omega
  have moved :
      (ledger.allocator.bitmap.assignRange true first count).clearBits =
        ledger.allocator.bitmap.clearBits \ Ico first (first + count) :=
    clearBits_assignRange_true first count
  refine
    { accounted with
      same := { accounted.same with len := (len_assignRange ..).trans accounted.same.len }
      freeFrames := ?_
      clearReleasable := ?_
      distinct := List.nodup_append'.mpr ⟨List.nodup_range', accounted.distinct, ?_⟩
      outstanding := ?_ }
  · simp only
    rw [moved, wrappingSub_eq enough word, accounted.freeFrames,
      card_sdiff_of_subset isRun, sameCard]
  · simp only
    rw [moved]
    exact sdiff_subset.trans accounted.clearReleasable
  · intro index inRun inOutstanding
    have clear : index ∈ ledger.allocator.bitmap.clearBits := by
      apply isRun
      rw [← toFinset_range']
      exact List.mem_toFinset.mpr inRun
    have member := List.mem_toFinset.mpr inOutstanding
    rw [accounted.outstanding] at member
    exact (mem_sdiff.mp member).2 clear
  · have inside := isRun.trans accounted.clearReleasable
    rw [List.toFinset_append, toFinset_range', accounted.outstanding]
    rw [moved, union_comm]
    exact (sdiff_sdiff_eq_sdiff_union inside).symm

theorem Accounted.give (accounted : ledger.Accounted layout) {outstanding : List Nat}
    (isRun : Ico first (first + count) ⊆ ledger.outstanding.toFinset)
    (left : outstanding = ledger.outstanding.filter fun frame =>
      !(decide (first ≤ frame) && decide (frame < first + count))) :
    Accounted layout
      { allocator :=
          { ledger.allocator with
            bitmap := ledger.allocator.bitmap.assignRange false first count
            freeFrames := ledger.allocator.freeFrames + count }
        outstanding := outstanding } := by
  have owned := isRun
  rw [accounted.outstanding] at owned
  have releasable := owned.trans sdiff_subset
  have unclear : Disjoint ledger.allocator.bitmap.clearBits (Ico first (first + count)) :=
    disjoint_right.mpr fun index member => (mem_sdiff.mp (owned member)).2
  have moved :
      (ledger.allocator.bitmap.assignRange false first count).clearBits =
        ledger.allocator.bitmap.clearBits ∪ Ico first (first + count) := by
    apply clearBits_assignRange_false
    rw [accounted.same.len, ← accounted.same.totalFrames]
    exact releasable.trans (filter_subset ..)
  refine
    { accounted with
      same := { accounted.same with len := (len_assignRange ..).trans accounted.same.len }
      freeFrames := ?_
      clearReleasable := ?_
      distinct := left ▸ accounted.distinct.filter _
      outstanding := ?_ }
  · simp only
    rw [moved, card_union_of_disjoint unclear, accounted.freeFrames]
    simp
  · simp only
    rw [moved]
    exact union_subset accounted.clearReleasable releasable
  · simp only
    rw [moved, left, List.toFinset_filter, accounted.outstanding]
    rw [← sup_eq_union, ← sdiff_sdiff_left, sdiff_eq_filter _ (Ico first (first + count))]
    apply filter_congr
    simp only [Bool.not_eq_true', Bool.and_eq_false_iff, decide_eq_false_iff_not, mem_Ico]
    tauto

/-! ## Requests -/

theorem ico_subset_of_isClear {bitmap : Bitmap} (inside : first + count ≤ bitmap.len)
    (isClear : ∀ other, first ≤ other → other < first + count → bitmap.get other = false) :
    Ico first (first + count) ⊆ bitmap.clearBits := by
  intro index member
  have within := mem_Ico.mp member
  exact mem_clearBits.mpr ⟨by omega, isClear index within.1 within.2⟩

theorem checkRelease_eq_ok (checked : allocator.checkRelease count index = .ok ()) :
    ∀ other, index ≤ other → other < index + count →
      allocator.isReleasable other = true ∧ allocator.bitmap.get other = true := by
  fun_induction BitmapFrameAllocator.checkRelease with
  | case1 => omega
  | case4 count index releasable isSet ih =>
    intro other lower upper
    by_cases isFirst : other = index
    · rw [isFirst]
      exact ⟨by simpa using releasable, by simpa using isSet⟩
    · exact ih checked other (by omega) (by omega)
  | _ => cases checked

/-- The frames of the ledger are those that pass the checks of a release. -/
theorem Accounted.mem_outstanding (accounted : ledger.Accounted layout) :
    index ∈ ledger.outstanding ↔ index < ledger.allocator.totalFrames ∧
      ledger.allocator.isReleasable index = true ∧ ledger.allocator.bitmap.get index = true := by
  rw [← List.mem_toFinset, accounted.outstanding, mem_sdiff,
    mem_releasableFrames, mem_clearBits, accounted.same.len, accounted.same.totalFrames]
  cases ledger.allocator.bitmap.get index with
  | true => simp
  | false => tauto

theorem Accounted.deallocateRange
    (accounted : ledger.Accounted layout) (first : PhysFrame) (count : Nat) :
    Accounted layout
      (ledger.strike first count (ledger.allocator.deallocateRange first count)) := by
  fun_cases BitmapFrameAllocator.deallocateRange with
  | case5 _ _ added _ checked =>
    have stopEq := (checkedAdd_eq_some added).1
    have passed := checkRelease_eq_ok checked
    apply accounted.give _ rfl
    intro index member
    have within := mem_Ico.mp member
    obtain ⟨releasable, isSet⟩ := passed index within.1 within.2
    exact List.mem_toFinset.mpr (accounted.mem_outstanding.mpr ⟨by omega, releasable, isSet⟩)
  | _ => exact accounted

theorem deallocateRange_error {first : PhysFrame} {error : DeallocateError}
    (refused : (allocator.deallocateRange first count).1 = .error error) :
    (allocator.deallocateRange first count).2 = allocator := by
  revert refused
  fun_cases BitmapFrameAllocator.deallocateRange with
  | case5 => nofun
  | _ => exact fun _ => rfl

section WellFormed

variable (wellFormed : layout.WellFormed) (accounted : ledger.Accounted layout)

include wellFormed accounted

theorem Accounted.claim (inside : index < ledger.allocator.bitmap.len)
    (isClear : ledger.allocator.bitmap.get index = false) :
    Accounted layout (ledger.record 1 (some index, ledger.allocator.claim index)) := by
  have isRun : Ico index (index + 1) ⊆ ledger.allocator.bitmap.clearBits := by
    apply ico_subset_of_isClear (by omega)
    intro other lower upper
    rw [show other = index by omega]
    exact isClear
  exact accounted.take wellFormed _ isRun

theorem Accounted.claim_found {start stop : Nat}
    (found : ledger.allocator.bitmap.findZeroIn start stop = some index) :
    Accounted layout (ledger.record 1 (some index, ledger.allocator.claim index)) := by
  have first := findZeroIn_eq_some found
  exact accounted.claim wellFormed (lt_min_iff.mp first.upper).2 first.isClear

theorem Accounted.allocateIndex :
    Accounted layout (ledger.record 1 ledger.allocator.allocateIndex) := by
  unfold BitmapFrameAllocator.allocateIndex
  cases searched : ledger.allocator.findFrame with
  | none => exact accounted
  | some =>
    unfold BitmapFrameAllocator.findFrame at searched
    split at searched
    · cases searched
    · simp only at searched
      split at searched
      · next found =>
        cases searched
        exact accounted.claim_found wellFormed found
      · exact accounted.claim_found wellFormed searched

theorem Accounted.allocateIndexBelow (limit : Nat) :
    Accounted layout (ledger.record 1 (ledger.allocator.allocateIndexBelow limit)) := by
  unfold BitmapFrameAllocator.allocateIndexBelow
  simp only
  split
  · exact accounted
  · next found => exact accounted.claim_found wellFormed found

theorem Accounted.allocateIndexRange (count : Nat) :
    Accounted layout (ledger.record count (ledger.allocator.allocateIndexRange count)) := by
  fun_cases BitmapFrameAllocator.allocateIndexRange with
  | case2 _ single =>
    rw [single]
    exact accounted.allocateIndex wellFormed
  | case5 _ _ _ _ bitmap found =>
    have spec := ledger.allocator.bitmap.allocateRange_spec count
    rw [found] at spec
    obtain ⟨⟨⟨inside, isClear⟩, _⟩, rfl⟩ := spec
    exact accounted.take wellFormed _ (ico_subset_of_isClear inside isClear)
  | _ => exact accounted

theorem Accounted.markFrameAllocated {after : BitmapFrameAllocator}
    (marked : ledger.allocator.markFrameAllocated index = some after) :
    Accounted layout (ledger.record 1 (some index, after)) := by
  unfold BitmapFrameAllocator.markFrameAllocated at marked
  split at marked
  · next available =>
    cases marked
    have inside : index < ledger.allocator.bitmap.len := by
      rw [accounted.same.len, ← accounted.same.totalFrames]
      exact available.1
    exact accounted.claim wellFormed inside available.2
  · cases marked

end WellFormed

theorem Accounted.markFrameFree (accounted : ledger.Accounted layout) {after : BitmapFrameAllocator}
    (marked : ledger.allocator.markFrameFree index = some after) :
    Accounted layout
      { allocator := after
        outstanding := ledger.outstanding.filter fun frame => frame ≠ index } := by
  unfold BitmapFrameAllocator.markFrameFree at marked
  split at marked
  · next allowed =>
    cases marked
    have isRun : Ico index (index + 1) ⊆ ledger.outstanding.toFinset := by
      intro other member
      have within := mem_Ico.mp member
      rw [show other = index by omega]
      exact List.mem_toFinset.mpr (accounted.mem_outstanding.mpr allowed)
    apply accounted.give isRun
    apply List.filter_congr
    intro frame _
    rw [← Bool.decide_and, ← decide_not, decide_eq_decide]
    omega
  · cases marked

/-! ## Reclaiming -/

theorem apart_of_not_overlaps
    {first second : FrameSpan} (separate : first.overlaps second = false) :
    first.Apart second := by
  intro frame inFirst
  rw [Bool.eq_false_iff]
  intro inSecond
  rw [FrameSpan.contains_iff] at inFirst inSecond
  simp only [FrameSpan.overlaps, Bool.and_eq_false_iff, decide_eq_false_iff_not] at separate
  omega

theorem contains_of_trimmed (inside : span.trimmed.contains frame = true) :
    span.contains frame = true := by
  rw [FrameSpan.contains_iff] at *
  simp only [FrameSpan.trimmed] at inside
  omega

/-- The released spans stem from the spans of the map that are `done`. -/
def ReleasedFrom (done : List FrameSpan) (allocator : BitmapFrameAllocator) : Prop :=
  ∀ span ∈ allocator.releasedBootloader, ∃ original ∈ done, span = original.trimmed

theorem mem_ico_iff_contains : frame ∈ Ico span.start span.stop ↔ span.contains frame = true := by
  rw [mem_Ico, FrameSpan.contains_iff]

theorem clearBits_releaseSpan (ordered : span.start ≤ span.stop)
    (inside : span.stop ≤ allocator.bitmap.len) :
    (allocator.releaseSpan span).bitmap.clearBits =
      allocator.bitmap.clearBits ∪ Ico span.start span.stop := by
  have stopEq : span.start + span.len = span.stop := by
    rw [FrameSpan.len]
    omega
  unfold BitmapFrameAllocator.releaseSpan markSpan
  simp only
  rw [clearBits_assignRange_false, stopEq]
  intro frame member
  rw [mem_Ico] at member
  rw [mem_range]
  omega

/-- A span of tracked frames that no reservation touches becomes releasable. -/
theorem releasableFrames_releaseSpan
    (positive : 0 < span.start) (inside : span.stop ≤ allocator.totalFrames)
    (outsideBitmap : span.Apart allocator.bitmapStorage)
    (outsideHeap : span.Apart allocator.heapStorage) :
    (allocator.releaseSpan span).releasableFrames =
      allocator.releasableFrames ∪ Ico span.start span.stop := by
  ext frame
  rw [mem_union, mem_releasableFrames, mem_releasableFrames,
    isReleasable_iff, isReleasable_iff, mem_ico_iff_contains]
  simp only [BitmapFrameAllocator.releaseSpan, List.mem_append, List.mem_singleton,
    or_and_right, exists_or, exists_eq_left]
  by_cases contained : span.contains frame = true
  · obtain ⟨lower, upper⟩ := FrameSpan.contains_iff.mp contained
    have tracked : frame < allocator.totalFrames ∧ frame ≠ 0 := by omega
    simp [contained, tracked, outsideBitmap frame contained, outsideHeap frame contained]
  · simp only [contained, Bool.false_eq_true, or_false]

/-- Releasing a span of set frames that no reservation touches. -/
theorem Accounted.release
    (accounted : ledger.Accounted layout) (inMap : original ∈ layout.bootloader)
    (inside : original.stop ≤ layout.totalFrames)
    (nonempty : original.trimmed.start < original.trimmed.stop)
    (reclaimed : ledger.allocator.bootloaderReclaimed = true)
    (outsideBitmap : original.trimmed.Apart ledger.allocator.bitmapStorage)
    (outsideHeap : original.trimmed.Apart ledger.allocator.heapStorage)
    (unreleasable : ∀ frame, original.trimmed.contains frame = true →
      ledger.allocator.isReleasable frame = false) :
    Accounted layout
      { ledger with allocator := ledger.allocator.releaseSpan original.trimmed } := by
  have moved := clearBits_releaseSpan (le_of_lt nonempty) (accounted.same.len.symm ▸ inside)
  have grown := releasableFrames_releaseSpan (lt_max_of_lt_right Nat.one_pos)
    (accounted.same.totalFrames.symm ▸ inside) outsideBitmap outsideHeap
  have fresh :
      Disjoint ledger.allocator.releasableFrames
        (Ico original.trimmed.start original.trimmed.stop) := by
    apply disjoint_right.mpr
    intro frame member releasable
    have refused := unreleasable frame (mem_ico_iff_contains.mp member)
    rw [(mem_releasableFrames.mp releasable).2] at refused
    cases refused
  have sameCard : (Ico original.trimmed.start original.trimmed.stop).card = original.trimmed.len :=
    Nat.card_Ico _ _
  refine
    { accounted with
      same := { accounted.same with len := (len_assignRange ..).trans accounted.same.len }
      freeFrames := ?_
      capacity := ?_
      clearReleasable := ?_
      outstanding := ?_
      released := ?_
      unreclaimed := ?_ }
  · simp only
    rw [moved, card_union_of_disjoint
      (disjoint_of_subset_left accounted.clearReleasable fresh), sameCard, ← accounted.freeFrames]
    rfl
  · simp only
    rw [grown, card_union_of_disjoint fresh, sameCard, ← accounted.capacity]
    rfl
  · simp only
    rw [grown, moved]
    exact union_subset_union_left accounted.clearReleasable
  · simp only
    rw [grown, moved, accounted.outstanding]
    ext frame
    have separate := @disjoint_right _ _ _ |>.mp fresh
    simp only [mem_sdiff, mem_union]
    tauto
  · exact List.forall_mem_append.mpr
      ⟨accounted.released, List.forall_mem_singleton.mpr ⟨original, inMap, rfl⟩⟩
  · intro unreclaimed
    exact absurd reclaimed (Bool.eq_false_iff.mp unreclaimed)

section WellFormed

variable (wellFormed : layout.WellFormed)

include wellFormed

/-- A frame of a span that is not done yet is not releasable. -/
theorem Accounted.not_releasable
    (accounted : ledger.Accounted layout) (divided : layout.bootloader = done ++ original :: rest)
    (releasedFrom : ReleasedFrom done ledger.allocator) (inside : original.contains frame = true) :
    ledger.allocator.isReleasable frame = false := by
  have disjoint := wellFormed.disjoint
  rw [divided, List.pairwise_append, List.pairwise_append] at disjoint
  obtain ⟨_, ⟨_, _, doneApart⟩, usableApart⟩ := disjoint
  rw [Bool.eq_false_iff]
  intro releasable
  rcases (isReleasable_iff.mp releasable).2 with
    ⟨span, member, contained⟩ | ⟨span, member, contained⟩
  · rw [accounted.same.usable] at member
    have apart := usableApart span member original (by simp) frame contained
    rw [inside] at apart
    cases apart
  · obtain ⟨earlier, isDone, rfl⟩ := releasedFrom span member
    have apart := doneApart earlier isDone original (by simp) frame (contains_of_trimmed contained)
    rw [inside] at apart
    cases apart

theorem Accounted.reclaimSpan
    (accounted : ledger.Accounted layout) (divided : layout.bootloader = done ++ original :: rest)
    (releasedFrom : ReleasedFrom done ledger.allocator)
    (reclaimed : ledger.allocator.bootloaderReclaimed = true)
    (ranges : List FrameSpan) (report : ReclaimReport) :
    let after := (ledger.allocator.reclaimSpan ranges report original).2
    Accounted layout { ledger with allocator := after } ∧
      ReleasedFrom (done ++ [original]) after ∧
      after.bootloaderReclaimed = true := by
  have later : ReleasedFrom (done ++ [original]) ledger.allocator := by
    intro span member
    obtain ⟨earlier, isDone, same⟩ := releasedFrom span member
    exact ⟨earlier, List.mem_append_left _ isDone, same⟩
  have inMap : original ∈ layout.bootloader := by simp [divided]
  fun_cases BitmapFrameAllocator.reclaimSpan with
  | case3 _ nonempty unprotected =>
    simp only [not_or, Bool.not_eq_true] at unprotected
    obtain ⟨_, outsideBitmap, outsideHeap, _⟩ := unprotected
    refine ⟨?_, ?_, reclaimed⟩
    · apply accounted.release inMap
        (wellFormed.inside original (List.mem_append_right _ inMap)) (not_le.mp nonempty) reclaimed
        (apart_of_not_overlaps outsideBitmap) (apart_of_not_overlaps outsideHeap)
      intro frame contained
      exact accounted.not_releasable wellFormed divided releasedFrom (contains_of_trimmed contained)
    · exact List.forall_mem_append.mpr
        ⟨later, List.forall_mem_singleton.mpr ⟨original, by simp, rfl⟩⟩
  | _ => exact ⟨accounted, later, reclaimed⟩

theorem Accounted.reclaimSpans
    {outstanding : List Nat} (accounted : Accounted layout ⟨allocator, outstanding⟩)
    (divided : layout.bootloader = done ++ rest) (releasedFrom : ReleasedFrom done allocator)
    (reclaimed : allocator.bootloaderReclaimed = true)
    (ranges : List FrameSpan) (report : ReclaimReport) :
    Accounted layout
      ⟨(BitmapFrameAllocator.reclaimSpans ranges rest report allocator).2, outstanding⟩ := by
  induction rest generalizing done allocator report with
  | nil => exact accounted
  | cons _ rest ih =>
    obtain ⟨nextAccounted, nextReleased, nextReclaimed⟩ :=
      accounted.reclaimSpan wellFormed divided releasedFrom reclaimed ranges report
    exact ih nextAccounted (by simpa using divided) nextReleased nextReclaimed _

theorem Accounted.reclaimBootloader
    (accounted : ledger.Accounted layout) (ranges : List FrameSpan) :
    Accounted layout
      { ledger with
        allocator := (ledger.allocator.reclaimBootloader ranges).2 } := by
  unfold BitmapFrameAllocator.reclaimBootloader
  split
  · exact accounted
  · next unreclaimed =>
    have noneReleased := accounted.unreclaimed (by simpa using unreclaimed)
    have started :
        Accounted layout
          { ledger with allocator := { ledger.allocator with bootloaderReclaimed := true } } :=
      { accounted with
        same := { accounted.same with }
        unreclaimed := fun impossible => nomatch impossible }
    have releasedFrom : ReleasedFrom [] ledger.allocator := by
      intro span member
      rw [noneReleased] at member
      cases member
    have divided : layout.bootloader = [] ++ ledger.allocator.bootloader :=
      accounted.same.bootloader.symm
    exact started.reclaimSpans wellFormed divided releasedFrom rfl ranges {}

end WellFormed

/-! ## Every run -/

theorem Accounted.step (wellFormed : layout.WellFormed) (accounted : ledger.Accounted layout)
    {request : FrameRequest} {next : FrameLedger} (taken : ledger.step request = some next) :
    next.Accounted layout := by
  cases request with
  | allocateFrame =>
    cases taken
    exact accounted.allocateIndex wellFormed
  | allocateFrameBelow limit =>
    cases taken
    exact accounted.allocateIndexBelow wellFormed limit
  | allocateRange count =>
    cases taken
    exact accounted.allocateIndexRange wellFormed count
  | deallocateRange first count =>
    cases taken
    exact accounted.deallocateRange first count
  | reclaimBootloader ranges =>
    cases taken
    exact accounted.reclaimBootloader wellFormed ranges
  | markFrameAllocated index =>
    obtain ⟨after, marked, rfl⟩ := Option.map_eq_some_iff.mp taken
    exact accounted.markFrameAllocated wellFormed marked
  | markFrameFree index =>
    obtain ⟨after, marked, rfl⟩ := Option.map_eq_some_iff.mp taken
    exact accounted.markFrameFree marked

theorem get_markSpan (bitmap : Bitmap) (span : FrameSpan) (value : Bool) (index : Nat) :
    (markSpan bitmap span value).get index =
      if span.contains index = true then value else bitmap.get index := by
  rw [markSpan, get_assignRange]
  have same :
      (span.start ≤ index ∧ index < span.start + span.len) ↔ span.contains index = true := by
    rw [FrameSpan.contains_iff, FrameSpan.len]
    omega
  simp only [same]

theorem get_clearSpans (spans : List FrameSpan) (bitmap : Bitmap) (index : Nat) :
    (spans.foldl (fun bitmap span => markSpan bitmap span false) bitmap).get index =
      (bitmap.get index && !spans.any fun span => span.contains index) := by
  induction spans generalizing bitmap with
  | nil => simp
  | cons span _ ih =>
    rw [List.foldl_cons, ih, get_markSpan, List.any_cons]
    cases span.contains index <;> simp

theorem len_clearSpans (spans : List FrameSpan) (bitmap : Bitmap) :
    (spans.foldl (fun bitmap span => markSpan bitmap span false) bitmap).len = bitmap.len := by
  induction spans generalizing bitmap with
  | nil => rfl
  | cons span _ ih => rw [List.foldl_cons, ih, markSpan, len_assignRange]

theorem len_withLen (total : Nat) :
    (Bitmap.withLen (fun _ => 0) ((total + bitsPerWord - 1) / bitsPerWord) total).len = total := by
  unfold Bitmap.withLen
  simp only
  split
  · rfl
  · unfold bitsPerWord at *
    omega

theorem len_bitmap (layout : FrameLayout) : layout.bitmap.len = layout.totalFrames := by
  unfold FrameLayout.bitmap
  split
  all_goals
    simp only [len_set, markSpan, len_assignRange]
    exact (len_clearSpans _ _).trans (len_withLen _)

/-- The clear bits of a fresh allocator are its releasable frames. -/
theorem get_bitmap (layout : FrameLayout) (inside : index < layout.totalFrames) :
    layout.bitmap.get index = !layout.build.isReleasable index := by
  have positive : layout.totalFrames ≠ 0 := by omega
  have full :
      (Bitmap.withLen (fun _ => 0)
        ((layout.totalFrames + bitsPerWord - 1) / bitsPerWord)
        layout.totalFrames).setAll.get index = true :=
    get_setAll (by rw [len_withLen]; exact inside)
  unfold FrameLayout.bitmap
  simp only [if_pos positive, get_set, get_markSpan, get_clearSpans, full]
  unfold BitmapFrameAllocator.isReleasable
  simp only [FrameLayout.build, List.any_nil, Bool.or_false]
  by_cases zero : index = 0
  · simp [zero]
  · cases layout.bitmapStorage.contains index with
    | true => simp
    | false =>
      cases layout.heapStorage.contains index with
      | true => simp
      | false => simp [zero]

theorem accounted_build (layout : FrameLayout) :
    Accounted layout { allocator := layout.build } := by
  have clear : layout.build.bitmap.clearBits = layout.build.releasableFrames := by
    ext index
    rw [mem_clearBits, mem_releasableFrames]
    simp only [show layout.build.bitmap = layout.bitmap from rfl,
      show layout.build.totalFrames = layout.totalFrames from rfl, len_bitmap]
    apply and_congr_right
    intro inside
    rw [get_bitmap layout inside]
    simp
  constructor
  · exact ⟨len_bitmap layout, rfl, rfl, rfl, rfl, rfl⟩
  · exact countZeros_eq
  · rw [← clear]
    exact countZeros_eq
  · exact clear.subset
  · exact List.nodup_nil
  · simp only
    rw [clear, sdiff_self]
    rfl
  · intro span member
    cases member
  · intro _
    rfl

/-- What the bitmap, the counters and the ledger say in every state. -/
structure Accounting (layout : FrameLayout) (ledger : FrameLedger) : Prop where
  freeFrames : ledger.allocator.freeFrames = ledger.allocator.bitmap.clearBits.card
  balance : ledger.allocator.freeCount + ledger.allocator.usedCount = ledger.allocator.capacity
  capacityBounded : ledger.allocator.capacity ≤ layout.totalFrames
  clearReleasable :
    ∀ index ∈ ledger.allocator.bitmap.clearBits, ledger.allocator.isReleasable index = true
  clearUnreserved : ∀ index ∈ ledger.allocator.bitmap.clearBits,
    index ≠ 0 ∧ layout.bitmapStorage.contains index = false ∧
      layout.heapStorage.contains index = false
  clearOwned : ∀ index ∈ ledger.allocator.bitmap.clearBits,
    ((∃ span ∈ layout.usable, span.contains index = true) ∧
        ∀ span ∈ layout.bootloader, span.contains index = false) ∨
      ∃ span ∈ ledger.allocator.releasedBootloader, span.contains index = true
  released : ∀ span ∈ ledger.allocator.releasedBootloader,
    ∃ original ∈ layout.bootloader, span = original.trimmed
  distinct : ledger.outstanding.Nodup
  handedOut : ∀ index, index ∈ ledger.outstanding ↔ index < layout.totalFrames ∧
    ledger.allocator.isReleasable index = true ∧
    ledger.allocator.bitmap.get index = true
  used : ledger.allocator.usedCount = ledger.outstanding.length
  frameNumbers :
    ∀ index ∈ ledger.outstanding, index < 2 ^ 40 → (frameFromIndex index).number = index
  refusedRelease : ∀ first count error,
    (ledger.allocator.deallocateRange first count).1 = .error error →
      (ledger.allocator.deallocateRange first count).2 = ledger.allocator

theorem Accounted.accounting
    (wellFormed : layout.WellFormed) (accounted : ledger.Accounted layout) :
    ledger.Accounting layout := by
  have releasable :
      ∀ index ∈ ledger.allocator.bitmap.clearBits, ledger.allocator.isReleasable index = true := by
    intro index clear
    have member := accounted.clearReleasable clear
    exact (mem_releasableFrames.mp member).2
  constructor
  · exact accounted.freeFrames
  · have ordered := accounted.freeFrames_le
    simp only [BitmapFrameAllocator.usedCount, BitmapFrameAllocator.capacity,
      BitmapFrameAllocator.freeCount]
    omega
  · exact accounted.capacity_le
  · exact releasable
  · intro index clear
    have unreserved := (isReleasable_iff.mp (releasable index clear)).1
    rw [accounted.same.bitmapStorage, accounted.same.heapStorage] at unreserved
    exact unreserved
  · intro index clear
    have owned := (isReleasable_iff.mp (releasable index clear)).2
    rcases owned with ⟨span, member, contained⟩ | isReleased
    · rw [accounted.same.usable] at member
      refine Or.inl ⟨⟨span, member, contained⟩, ?_⟩
      intro original inMap
      have apart := (List.pairwise_append.mp wellFormed.disjoint).2.2
      exact apart span member original inMap index contained
    · exact Or.inr isReleased
  · exact accounted.released
  · exact accounted.distinct
  · intro index
    rw [accounted.mem_outstanding, accounted.same.totalFrames]
  · exact accounted.length_outstanding.symm
  · intro index _ addressable
    exact Nat.mod_eq_of_lt addressable
  · intro first count error
    exact deallocateRange_error

/-- In every run the counters agree with the bitmap, its clear bits are frames
that may be given out, the set ones among those are what the callers hold, and
a refused release changes nothing. -/
theorem bitmap_accounting (layout : FrameLayout) (wellFormed : layout.WellFormed)
    (requests : List FrameRequest) (final : FrameLedger)
    (reached :
      Execution.exec FrameLedger.step { allocator := layout.build } requests = some final) :
    final.Accounting layout := by
  have accounted : final.Accounted layout := Execution.invariant_of_exec
    (fun _ _ _ accounted taken => accounted.step wellFormed taken) (accounted_build layout) reached
  exact accounted.accounting wellFormed

/-- Nine usable frames around two reservations, and three boot frames. -/
def twelveFrames : FrameLayout where
  totalFrames := 12
  usable := [⟨0, 9⟩]
  bootloader := [⟨9, 12⟩]
  bitmapStorage := ⟨2, 3⟩
  heapStorage := ⟨5, 6⟩

theorem twelveFrames_wellFormed : twelveFrames.WellFormed := by
  constructor
  · decide
  · have apart : FrameSpan.Apart ⟨0, 9⟩ ⟨9, 12⟩ := by
      apply apart_of_not_overlaps
      decide
    simpa [twelveFrames] using apart
  · decide

def twelveFramesRequests : List FrameRequest :=
  [.allocateFrame, .allocateRange 3, .reclaimBootloader [],
    .deallocateRange (frameFromIndex 6) 2, .deallocateRange (frameFromIndex 5) 1,
    .allocateFrameBelow 0x8000, .allocateRange 3]

theorem twelveFrames_accounting :
    ∃ final,
      Execution.exec FrameLedger.step { allocator := twelveFrames.build }
          twelveFramesRequests = some final ∧
        final.outstanding = [9, 10, 11, 3, 8, 1] ∧
        final.allocator.freeCount = 3 ∧ final.Accounting twelveFrames := by
  refine Execution.exists_reached (by decide +kernel) fun final reached => ⟨?_, ?_, ?_⟩
  · exact Execution.of_reached reached (by decide +kernel)
  · exact Execution.of_reached reached (by decide +kernel)
  · exact bitmap_accounting twelveFrames twelveFrames_wellFormed twelveFramesRequests final reached

/-! ## The frames that are returned -/

def holder (ledger : FrameLedger) : FrameHolder :=
  ⟨ledger.allocator, ledger.outstanding.map frameFromIndex⟩

theorem holder_record (ledger : FrameLedger) (count : Nat)
    (result : Option Nat × BitmapFrameAllocator) :
    (ledger.record count result).holder =
      ledger.holder.record count (result.1.map frameFromIndex, result.2) := by
  obtain ⟨_ | first, allocator⟩ := result
  · rfl
  · have sameRun :
        (List.range' first count).map frameFromIndex =
          (List.range' (first % 2 ^ 40) count).map frameFromIndex := by
      simp [List.range'_eq_map_range, frameFromIndex, Function.comp_def]
    simp only [holder, record, List.map_append, sameRun]
    rfl

section Small

variable (small : ∀ index ∈ ledger.outstanding, index < 2 ^ 40)

include small

theorem holder_filter (kept : Nat → Bool) :
    ledger.holder.frames.filter (fun frame => kept frame.number) =
      (ledger.outstanding.filter kept).map frameFromIndex := by
  rw [holder, List.filter_map]
  congr 1
  apply List.filter_congr
  intro index member
  exact congrArg kept (Nat.mod_eq_of_lt (small index member))

theorem holder_strike (first : PhysFrame) (count : Nat)
    (result : Except DeallocateError Unit × BitmapFrameAllocator) :
    (ledger.strike first count result).holder = ledger.holder.strike first count result := by
  obtain ⟨_ | _, allocator⟩ := result
  · rfl
  · exact congrArg (FrameHolder.mk allocator) (holder_filter small _).symm

/-- The frames that the calls return are those of the ledger. -/
theorem holder_step (request : FrameRequest) :
    ledger.holder.step request = (ledger.step request).map holder := by
  cases request with
  | allocateFrame => exact congrArg some (holder_record ..).symm
  | allocateFrameBelow limit => exact congrArg some (holder_record ..).symm
  | allocateRange count => exact congrArg some (holder_record ..).symm
  | deallocateRange first count => exact congrArg some (holder_strike small ..).symm
  | reclaimBootloader ranges => rfl
  | markFrameAllocated index =>
    simp only [FrameHolder.step, step, Option.map_map, Function.comp_def, holder_record]
    rfl
  | markFrameFree index =>
    simp only [FrameHolder.step, step, Option.map_map, Function.comp_def,
      holder_filter small (fun frame => decide (frame ≠ index))]
    rfl

end Small

theorem Accounted.small
    (accounted : ledger.Accounted layout) (addressable : layout.totalFrames ≤ 2 ^ 40) :
    ∀ index ∈ ledger.outstanding, index < 2 ^ 40 := by
  intro index member
  have tracked := (accounted.mem_outstanding.mp member).1
  rw [accounted.same.totalFrames] at tracked
  exact tracked.trans_le addressable

theorem Accounted.in_region {heapClaim : Option (Nat × Nat)} (accounted : ledger.Accounted layout)
    (built : FrameLayout.ofRegions regions heapClaim = .ok layout)
    (member : index ∈ ledger.outstanding) :
    index ≠ 0 ∧ ∃ region ∈ regions,
      (region.kind = .usable ∨ region.kind = .bootloader) ∧ region.Holds index := by
  obtain ⟨_, _, _, usable, bootloader⟩ := FrameLayout.ofRegions_eq_ok built
  have releasable := (accounted.mem_outstanding.mp member).2.1
  rw [isReleasable_iff, accounted.same.usable, usable] at releasable
  refine ⟨releasable.1.1, ?_⟩
  rcases releasable.2 with ⟨span, inMap, inside⟩ | ⟨span, released, inside⟩
  · obtain ⟨region, inRegions, kind, holds⟩ := holds_of_contains inMap inside
    exact ⟨region, inRegions, .inl kind, holds⟩
  · obtain ⟨original, inMap, rfl⟩ := accounted.released span released
    rw [bootloader] at inMap
    obtain ⟨region, inRegions, kind, holds⟩ :=
      holds_of_contains inMap (contains_of_trimmed inside)
    exact ⟨region, inRegions, .inr kind, holds⟩

/-- Every run of the calls is a run of the ledger. -/
theorem exists_ledger (wellFormed : layout.WellFormed) (addressable : layout.totalFrames ≤ 2 ^ 40)
    {requests : List FrameRequest} {final : FrameHolder}
    (reached : Execution.exec FrameHolder.step { allocator := layout.build } requests =
      some final) :
    ∃ ledger, Accounted layout ledger ∧ ledger.holder = final := by
  refine @Execution.invariant_of_exec _ _ _
    (fun holder => ∃ ledger, Accounted layout ledger ∧ ledger.holder = holder)
    ?_ _ _ _ ⟨_, accounted_build layout, rfl⟩ reached
  rintro _ request next ⟨ledger, accounted, rfl⟩ taken
  rw [holder_step (accounted.small addressable)] at taken
  obtain ⟨after, stepped, isNext⟩ := Option.map_eq_some_iff.mp taken
  exact ⟨after, accounted.step wellFormed stepped, isNext⟩

/-- From the boot on, the frames that the calls return are distinct until they
are given back, and lie behind frame zero in memory that the map calls usable
or leaves to the bootloader. -/
theorem booted_frames {heapClaim : Option (Nat × Nat)} {allocator : BitmapFrameAllocator}
    (disjoint : regions.Pairwise Apart) (booted : fromBootInfo regions heapClaim = .ok allocator)
    (addressable : allocator.totalFrames ≤ 2 ^ 40)
    {requests : List FrameRequest} {final : FrameHolder}
    (reached : Execution.exec FrameHolder.step { allocator } requests = some final) :
    final.frames.Nodup ∧ ∀ frame ∈ final.frames, frame.number ≠ 0 ∧ ∃ region ∈ regions,
      (region.kind = .usable ∨ region.kind = .bootloader) ∧ region.Holds frame.number := by
  obtain ⟨layout, built, rfl⟩ := Fallible.map_eq_ok.mp booted
  have wellFormed := FrameLayout.ofRegions_wellFormed disjoint built
  obtain ⟨ledger, accounted, rfl⟩ := exists_ledger wellFormed addressable reached
  have number : ∀ index ∈ ledger.outstanding, (frameFromIndex index).number = index :=
    fun index member => Nat.mod_eq_of_lt (accounted.small addressable index member)
  constructor
  · refine accounted.distinct.map_on fun first inFirst second inSecond same => ?_
    rw [← number first inFirst, same, number second inSecond]
  · intro frame member
    obtain ⟨index, isOutstanding, rfl⟩ := List.mem_map.mp member
    rw [number index isOutstanding]
    exact accounted.in_region built isOutstanding

def twoRegions : List MemoryRegion := [⟨0, 5000, .usable⟩, ⟨8192, 8192, .bootloader⟩]

theorem twoRegions_frames :
    ∃ final, (fromBootInfo twoRegions none).toOption.bind (fun allocator =>
        Execution.exec FrameHolder.step { allocator } [.reclaimBootloader [], .allocateFrame]) =
          some final ∧
      frameFromIndex 2 ∈ final.frames ∧ ∃ region ∈ twoRegions, region.Holds 2 := by
  refine Execution.exists_reached (by decide +kernel) fun final ran => ?_
  have taken : frameFromIndex 2 ∈ final.frames := Execution.of_reached ran (by decide +kernel)
  obtain ⟨allocator, booted, reached⟩ := Option.bind_eq_some_iff.mp ran
  have addressable : allocator.totalFrames ≤ 2 ^ 40 :=
    Execution.of_reached booted (by decide +kernel)
  rw [Fallible.toOption_eq_some] at booted
  have frames := (booted_frames (by simp [twoRegions, Apart]) booted addressable reached).2 _ taken
  exact ⟨taken, frames.2.imp fun _ => .imp_right And.right⟩

end FrameLedger

end Xenith.Mm.Physical
