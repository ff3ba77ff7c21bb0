import Xenith.Mm.Physical.Buddy
import Xenith.Util.Bitmap

/-!
# The bitmap frame allocator

The allocator of `kernel/src/mm/physical/bitmap.rs`.  The constructor reads the
spans of complete frames off the boot memory map and places the storage of the
bitmap in usable memory, apart from the heap.
-/

namespace Xenith.Mm.Physical

open Xenith.Util

/-- A half-open interval of frame numbers. -/
structure FrameSpan where
  start : Nat
  stop : Nat
deriving DecidableEq, Repr

namespace FrameSpan

def empty : FrameSpan :=
  ⟨0, 0⟩

def contains (span : FrameSpan) (frame : Nat) : Bool :=
  decide (span.start ≤ frame) && decide (frame < span.stop)

def len (span : FrameSpan) : Nat :=
  span.stop - span.start

def overlaps (span other : FrameSpan) : Bool :=
  decide (span.start < other.stop) && decide (other.start < span.stop)

end FrameSpan

structure ReclaimReport where
  releasedFrames : Nat := 0
  skippedFrames : Nat := 0
  alreadyReclaimed : Bool := false
deriving DecidableEq, Repr

inductive BitmapInitError where
  | emptyMemoryMap
  | addressSpaceTooLarge
  | noBitmapStorage
  | tooManyUsableRegions
  | tooManyReclaimableRegions
deriving DecidableEq, Repr

inductive RegionKind where
  | usable
  | reserved
  | acpiReclaim
  | acpiNvs
  | bad
  | bootloader
  | kernel
deriving DecidableEq, Repr

structure MemoryRegion where
  start : Nat
  len : Nat
  kind : RegionKind
deriving DecidableEq, Repr

def MemoryRegion.stop (region : MemoryRegion) : Option Nat :=
  checkedAdd region.start region.len

inductive DeallocateError where
  | outOfRange
  | reserved
  | doubleFree
  | invalidRange
deriving DecidableEq, Repr

def maxUsableSpans : Nat := 128

def maxReclaimableSpans : Nat := 128

structure BitmapFrameAllocator where
  bitmap : Bitmap
  totalFrames : Nat
  capacityFrames : Nat
  freeFrames : Nat
  nextFrame : Nat
  usable : List FrameSpan
  bootloader : List FrameSpan
  releasedBootloader : List FrameSpan := []
  bootloaderReclaimed : Bool := false
  bitmapStorage : FrameSpan
  heapStorage : FrameSpan

def markSpan (bitmap : Bitmap) (span : FrameSpan) (allocated : Bool) : Bitmap :=
  bitmap.assignRange allocated span.start span.len

def saturatingAdd (left right : Nat) : Nat :=
  min (left + right) (2 ^ 64 - 1)

def nextSearchIndex (index len : Nat) : Nat :=
  let next := saturatingAdd index 1
  if len ≤ next then 1 else max next 1

/-- The frame of a bitmap index.  `new_truncate` keeps the low 52 bits of the
address `4096 * index`, the bits that a physical address has. -/
def frameFromIndex (index : Nat) : PhysFrame :=
  ⟨index % 2 ^ 40, by omega⟩

def alignUp (value : Nat) : Option Nat :=
  (checkedAdd value (pageSize - 1)).map fun sum => sum / pageSize * pageSize

def completeFrames (region : MemoryRegion) : Option FrameSpan :=
  (alignUp region.start).bind fun start =>
    region.stop.bind fun stop =>
      if start / pageSize < stop / pageSize then some ⟨start / pageSize, stop / pageSize⟩
      else none

def selectDisjointStart (span : FrameSpan) (frames : Nat) (excluded : FrameSpan) : Option Nat :=
  if frames ≤ min span.stop excluded.start - span.start then some span.start
  else if frames ≤ span.stop - max span.start excluded.stop then some (max span.start excluded.stop)
  else none

def heapClaimSpan (claim : Option (Nat × Nat)) : Option FrameSpan :=
  claim.bind fun (start, len) =>
    (checkedAdd start len).bind fun stop =>
      (checkedAdd stop (pageSize - 1)).bind fun sum =>
        if start / pageSize < sum / pageSize then some ⟨start / pageSize, sum / pageSize⟩
        else none

/-- The spans of the complete frames of the regions of a kind. -/
def spansOfKind (regions : List MemoryRegion) (kind : RegionKind) : List FrameSpan :=
  (regions.filter fun region => region.kind = kind).filterMap completeFrames

def selectBitmapStorage (regions : List MemoryRegion) (frames : Nat) (excluded : FrameSpan) :
    Option Nat :=
  (spansOfKind regions .usable).findSome? fun span => selectDisjointStart span frames excluded

structure FrameLayout where
  totalFrames : Nat
  usable : List FrameSpan
  bootloader : List FrameSpan
  bitmapStorage : FrameSpan
  heapStorage : FrameSpan

namespace FrameLayout

/-- The bitmap of a fresh allocator: the usable spans are clear but for the
reservations and frame zero. -/
def bitmap (layout : FrameLayout) : Bitmap :=
  let words := (layout.totalFrames + bitsPerWord - 1) / bitsPerWord
  let full := (Bitmap.withLen (fun _ => 0) words layout.totalFrames).setAll
  let cleared := layout.usable.foldl (fun bitmap span => markSpan bitmap span false) full
  let marked := markSpan (markSpan cleared layout.bitmapStorage true) layout.heapStorage true
  if layout.totalFrames ≠ 0 then marked.set 0 else marked

def build (layout : FrameLayout) : BitmapFrameAllocator where
  bitmap := layout.bitmap
  totalFrames := layout.totalFrames
  capacityFrames := layout.bitmap.countZeros
  freeFrames := layout.bitmap.countZeros
  nextFrame := (layout.bitmap.findZeroIn 1 layout.totalFrames).getD 1
  usable := layout.usable
  bootloader := layout.bootloader
  bitmapStorage := layout.bitmapStorage
  heapStorage := layout.heapStorage

/-- The layout that `from_boot_info` reads off the memory map. -/
def ofRegions (regions : List MemoryRegion) (heapClaim : Option (Nat × Nat)) :
    Except BitmapInitError FrameLayout := do
  let some maxEnd := (regions.filterMap MemoryRegion.stop).max?
    | throw .emptyMemoryMap
  if maxEnd = 0 then throw .emptyMemoryMap
  let totalFrames := (maxEnd + pageSize - 1) / pageSize
  let words := (totalFrames + bitsPerWord - 1) / bitsPerWord
  let bitmapFrames := (words * 8 + pageSize - 1) / pageSize
  let heapSpan := (heapClaimSpan heapClaim).getD FrameSpan.empty
  let some bitmapStart := selectBitmapStorage regions bitmapFrames heapSpan
    | throw .noBitmapStorage
  let some bitmapEnd := checkedAdd bitmapStart bitmapFrames
    | throw .addressSpaceTooLarge
  let usable := spansOfKind regions .usable
  if maxUsableSpans < usable.length then throw .tooManyUsableRegions
  let bootloader := spansOfKind regions .bootloader
  if maxReclaimableSpans < bootloader.length then throw .tooManyReclaimableRegions
  return { totalFrames, usable, bootloader
           bitmapStorage := ⟨bitmapStart, bitmapEnd⟩
           heapStorage := heapSpan }

end FrameLayout

namespace BitmapFrameAllocator

def fromBootInfo (regions : List MemoryRegion) (heapClaim : Option (Nat × Nat)) :
    Except BitmapInitError BitmapFrameAllocator :=
  (FrameLayout.ofRegions regions heapClaim).map FrameLayout.build

def claim (allocator : BitmapFrameAllocator) (index : Nat) : BitmapFrameAllocator :=
  { allocator with
    bitmap := allocator.bitmap.set index
    freeFrames := wrappingSub allocator.freeFrames 1
    nextFrame := nextSearchIndex index allocator.bitmap.len }

/-- The next-fit search of `allocate_frame`. -/
def findFrame (allocator : BitmapFrameAllocator) : Option Nat :=
  if allocator.freeFrames = 0 ∨ allocator.bitmap.len ≤ 1 then none
  else
    let start := min (max allocator.nextFrame 1) allocator.bitmap.len
    match allocator.bitmap.findZeroIn start allocator.bitmap.len with
    | some index => some index
    | none => allocator.bitmap.findZeroIn 1 start

/-- The index of the frame that `allocate_frame` returns. -/
def allocateIndex (allocator : BitmapFrameAllocator) : Option Nat × BitmapFrameAllocator :=
  match allocator.findFrame with
  | none => (none, allocator)
  | some index => (some index, allocator.claim index)

def allocateFrame (allocator : BitmapFrameAllocator) : Option PhysFrame × BitmapFrameAllocator :=
  (allocator.allocateIndex.1.map frameFromIndex, allocator.allocateIndex.2)

/-- The index of the frame that `allocate_frame_below` returns. -/
def allocateIndexBelow (allocator : BitmapFrameAllocator) (exclusiveLimit : Nat) :
    Option Nat × BitmapFrameAllocator :=
  let maxFrame := min (exclusiveLimit / pageSize) allocator.totalFrames
  match allocator.bitmap.findZeroIn 1 maxFrame with
  | none => (none, allocator)
  | some index => (some index, allocator.claim index)

def allocateFrameBelow (allocator : BitmapFrameAllocator) (exclusiveLimit : Nat) :
    Option PhysFrame × BitmapFrameAllocator :=
  ((allocator.allocateIndexBelow exclusiveLimit).1.map frameFromIndex,
    (allocator.allocateIndexBelow exclusiveLimit).2)

/-- The first index of the run that `allocate_range` returns. -/
def allocateIndexRange (allocator : BitmapFrameAllocator) (count : Nat) :
    Option Nat × BitmapFrameAllocator :=
  if count = 0 then (none, allocator)
  else if count = 1 then allocator.allocateIndex
  else if allocator.freeFrames < count then (none, allocator)
  else
    match allocator.bitmap.allocateRange count with
    | none => (none, allocator)
    | some (start, bitmap) =>
      (some start,
        { allocator with
          bitmap := bitmap
          freeFrames := wrappingSub allocator.freeFrames count
          nextFrame := nextSearchIndex (saturatingAdd start (count - 1)) allocator.bitmap.len })

def allocateRange (allocator : BitmapFrameAllocator) (count : Nat) :
    Option PhysFrame × BitmapFrameAllocator :=
  ((allocator.allocateIndexRange count).1.map frameFromIndex,
    (allocator.allocateIndexRange count).2)

def isReleasable (allocator : BitmapFrameAllocator) (index : Nat) : Bool :=
  if index = 0 ∨ allocator.bitmapStorage.contains index = true ∨
      allocator.heapStorage.contains index = true then
    false
  else
    allocator.usable.any (fun span => span.contains index) ||
      allocator.releasedBootloader.any (fun span => span.contains index)

/-- The validation loop of `deallocate_range`, over `count` frames. -/
def checkRelease (allocator : BitmapFrameAllocator) : Nat → Nat → Except DeallocateError Unit
  | 0, _ => .ok ()
  | count + 1, index =>
    if allocator.isReleasable index = false then .error .reserved
    else if allocator.bitmap.get index = false then .error .doubleFree
    else allocator.checkRelease count (index + 1)

def deallocateRange (allocator : BitmapFrameAllocator) (first : PhysFrame) (count : Nat) :
    Except DeallocateError Unit × BitmapFrameAllocator :=
  if count = 0 then (.error .invalidRange, allocator)
  else
    match checkedAdd first.number count with
    | none => (.error .invalidRange, allocator)
    | some stop =>
      if allocator.totalFrames < stop then (.error .outOfRange, allocator)
      else
        match allocator.checkRelease count first.number with
        | .error error => (.error error, allocator)
        | .ok () =>
          (.ok (),
            { allocator with
              bitmap := allocator.bitmap.freeRange first.number count
              freeFrames := allocator.freeFrames + count })

/-- The boot frames of a span become free. -/
def releaseSpan (allocator : BitmapFrameAllocator) (span : FrameSpan) : BitmapFrameAllocator :=
  { allocator with
    bitmap := markSpan allocator.bitmap span false
    releasedBootloader := allocator.releasedBootloader ++ [span]
    capacityFrames := allocator.capacityFrames + span.len
    freeFrames := allocator.freeFrames + span.len
    nextFrame := min allocator.nextFrame span.start }

/-- One round of the loop of `reclaim_bootloader`. -/
def reclaimSpan (allocator : BitmapFrameAllocator) (protectedRanges : List FrameSpan)
    (report : ReclaimReport) (original : FrameSpan) :
    ReclaimReport × BitmapFrameAllocator :=
  let span : FrameSpan := ⟨max original.start 1, original.stop⟩
  if span.stop ≤ span.start then (report, allocator)
  else if protectedRanges.any (fun range => span.overlaps range) = true ∨
      span.overlaps allocator.bitmapStorage = true ∨
      span.overlaps allocator.heapStorage = true ∨
      (List.range' span.start span.len).any (fun frame => !allocator.bitmap.get frame) = true then
    ({ report with skippedFrames := saturatingAdd report.skippedFrames span.len }, allocator)
  else
    ({ report with releasedFrames := saturatingAdd report.releasedFrames span.len },
      allocator.releaseSpan span)

def reclaimSpans (protectedRanges : List FrameSpan) :
    List FrameSpan → ReclaimReport → BitmapFrameAllocator → ReclaimReport × BitmapFrameAllocator
  | [], report, allocator => (report, allocator)
  | original :: rest, report, allocator =>
    let result := allocator.reclaimSpan protectedRanges report original
    reclaimSpans protectedRanges rest result.1 result.2

def reclaimBootloader (allocator : BitmapFrameAllocator) (protectedRanges : List FrameSpan) :
    ReclaimReport × BitmapFrameAllocator :=
  if allocator.bootloaderReclaimed then ({ alreadyReclaimed := true }, allocator)
  else
    reclaimSpans protectedRanges allocator.bootloader {}
      { allocator with bootloaderReclaimed := true }

/-- The marks that the buddy allocator makes in its backing; a failed
assertion is `none`. -/
def markFrameAllocated (allocator : BitmapFrameAllocator) (index : Nat) :
    Option BitmapFrameAllocator :=
  if index < allocator.totalFrames ∧ allocator.bitmap.get index = false then
    some (allocator.claim index)
  else none

def markFrameFree (allocator : BitmapFrameAllocator) (index : Nat) : Option BitmapFrameAllocator :=
  if index < allocator.totalFrames ∧ allocator.isReleasable index = true ∧
      allocator.bitmap.get index = true then
    some
      { allocator with
        bitmap := allocator.bitmap.clear index
        freeFrames := allocator.freeFrames + 1 }
  else none

def freeCount (allocator : BitmapFrameAllocator) : Nat :=
  allocator.freeFrames

def usedCount (allocator : BitmapFrameAllocator) : Nat :=
  allocator.capacityFrames - allocator.freeCount

def capacity (allocator : BitmapFrameAllocator) : Nat :=
  allocator.capacityFrames

end BitmapFrameAllocator

inductive FrameRequest where
  | allocateFrame
  | allocateFrameBelow (exclusiveLimit : Nat)
  | allocateRange (count : Nat)
  | deallocateRange (first : PhysFrame) (count : Nat)
  | reclaimBootloader (protectedRanges : List FrameSpan)
  | markFrameAllocated (index : Nat)
  | markFrameFree (index : Nat)

/-- The allocator and the frames that it has handed out and not taken back. -/
structure FrameLedger where
  allocator : BitmapFrameAllocator
  outstanding : List Nat := []

namespace FrameLedger

def record (ledger : FrameLedger) (count : Nat)
    (result : Option Nat × BitmapFrameAllocator) : FrameLedger :=
  { allocator := result.2
    outstanding :=
      match result.1 with
      | none => ledger.outstanding
      | some first => List.range' first count ++ ledger.outstanding }

def strike (ledger : FrameLedger) (first : PhysFrame) (count : Nat)
    (result : Except DeallocateError Unit × BitmapFrameAllocator) :
    FrameLedger :=
  { allocator := result.2
    outstanding :=
      match result.1 with
      | .error _ => ledger.outstanding
      | .ok () =>
        ledger.outstanding.filter fun frame =>
          !(decide (first.number ≤ frame) && decide (frame < first.number + count)) }

def step (ledger : FrameLedger) : FrameRequest → Option FrameLedger
  | .allocateFrame => some (ledger.record 1 ledger.allocator.allocateIndex)
  | .allocateFrameBelow limit => some (ledger.record 1 (ledger.allocator.allocateIndexBelow limit))
  | .allocateRange count => some (ledger.record count (ledger.allocator.allocateIndexRange count))
  | .deallocateRange first count =>
    some (ledger.strike first count (ledger.allocator.deallocateRange first count))
  | .reclaimBootloader ranges =>
    some { ledger with allocator := (ledger.allocator.reclaimBootloader ranges).2 }
  | .markFrameAllocated index =>
    (ledger.allocator.markFrameAllocated index).map fun allocator =>
      ledger.record 1 (some index, allocator)
  | .markFrameFree index =>
    (ledger.allocator.markFrameFree index).map fun allocator =>
      { allocator := allocator
        outstanding := ledger.outstanding.filter fun frame => frame ≠ index }

end FrameLedger

/-- The allocator and the frames that its calls have returned and not taken
back. -/
structure FrameHolder where
  allocator : BitmapFrameAllocator
  frames : List PhysFrame := []

namespace FrameHolder

/-- The `count` frames from the one that a call returns on. -/
def record (holder : FrameHolder) (count : Nat)
    (result : Option PhysFrame × BitmapFrameAllocator) : FrameHolder :=
  { allocator := result.2
    frames :=
      match result.1 with
      | none => holder.frames
      | some first => (List.range' first.number count).map frameFromIndex ++ holder.frames }

def strike (holder : FrameHolder) (first : PhysFrame) (count : Nat)
    (result : Except DeallocateError Unit × BitmapFrameAllocator) : FrameHolder :=
  { allocator := result.2
    frames :=
      match result.1 with
      | .error _ => holder.frames
      | .ok () =>
        holder.frames.filter fun frame =>
          !(decide (first.number ≤ frame.number) && decide (frame.number < first.number + count)) }

def step (holder : FrameHolder) : FrameRequest → Option FrameHolder
  | .allocateFrame => some (holder.record 1 holder.allocator.allocateFrame)
  | .allocateFrameBelow limit => some (holder.record 1 (holder.allocator.allocateFrameBelow limit))
  | .allocateRange count => some (holder.record count (holder.allocator.allocateRange count))
  | .deallocateRange first count =>
    some (holder.strike first count (holder.allocator.deallocateRange first count))
  | .reclaimBootloader ranges =>
    some { holder with allocator := (holder.allocator.reclaimBootloader ranges).2 }
  | .markFrameAllocated index =>
    (holder.allocator.markFrameAllocated index).map fun allocator =>
      holder.record 1 (some (frameFromIndex index), allocator)
  | .markFrameFree index =>
    (holder.allocator.markFrameFree index).map fun allocator =>
      { allocator := allocator
        frames := holder.frames.filter fun frame => frame.number ≠ index }

end FrameHolder

end Xenith.Mm.Physical
