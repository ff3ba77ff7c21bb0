import Xenith.Lib.ListEdit
import Xenith.Lib.Word

/-!
# The buddy frame allocator

The allocator of `kernel/src/mm/physical/buddy.rs`.  The free lists are stacks
of bounded capacity; a push beyond the capacity panics, as does building a
frame past the end of the physical address space.
-/

namespace Xenith.Mm.Physical

def maxOrder : Nat := 10

def numOrders : Nat := maxOrder + 1

def pageSize : Nat := 4096

inductive BuddyError where
  | outOfRegion
  | notPowerOfTwo
  | orderTooLarge (order : Nat)
  | misaligned
  | doubleFree
  | freeListFull
deriving DecidableEq, Repr

inductive BuddyPanic where
  | freeListOverflow
  | popFailed
  | addressOverflow
deriving DecidableEq, Repr

/-- A physical frame by its number: the start address, a 64-bit word, divided
by the page size. -/
structure PhysFrame where
  number : Nat
  bounded : number < 2 ^ 52
deriving DecidableEq

/-- The frame `count` frames further on. -/
def PhysFrame.add (frame : PhysFrame) (count : Nat) : Except BuddyPanic PhysFrame :=
  let address := frame.number * pageSize + count * pageSize % 2 ^ 64
  if fits : address < 2 ^ 64 then .ok ⟨address / pageSize, by unfold pageSize; omega⟩
  else .error .addressOverflow

theorem PhysFrame.number_le_add
    {frame later : PhysFrame} {count : Nat} (added : frame.add count = .ok later) :
    frame.number ≤ later.number := by
  unfold PhysFrame.add at added
  simp only at added
  split at added
  · cases added
    unfold pageSize
    simp only
    omega
  · cases added

/-- An inclusive range of frames. -/
structure PhysFrameRange where
  first : PhysFrame
  last : PhysFrame
  ordered : first.number ≤ last.number
deriving DecidableEq

namespace PhysFrameRange

def len (range : PhysFrameRange) : Nat :=
  range.last.number - range.first.number + 1

def spanning (start : PhysFrame) (count : Nat) : Except BuddyPanic (Option PhysFrameRange) :=
  if count = 0 then .ok none
  else
    match added : start.add (count - 1) with
    | .ok last => .ok (some ⟨start, last, PhysFrame.number_le_add added⟩)
    | .error reason => .error reason

end PhysFrameRange

class FrameBacking (B : Type) where
  totalFrames : B → Nat
  isFrameFree : B → Nat → Bool
  markFrameAllocated : B → Nat → B
  markFrameFree : B → Nat → B

open FrameBacking

/-- The backing remembers the marks of the frames it tracks, and reports no
other frame free. -/
class LawfulFrameBacking (B : Type) [FrameBacking B] : Prop where
  lt_totalFrames_of_free :
    ∀ (backing : B) (frame : Nat), isFrameFree backing frame = true → frame < totalFrames backing
  totalFrames_markFrameAllocated : ∀ (backing : B) (frame : Nat),
    totalFrames (markFrameAllocated backing frame) = totalFrames backing
  totalFrames_markFrameFree :
    ∀ (backing : B) (frame : Nat), totalFrames (markFrameFree backing frame) = totalFrames backing
  isFrameFree_markFrameAllocated : ∀ (backing : B) (frame other : Nat),
    frame < totalFrames backing → isFrameFree (markFrameAllocated backing frame) other =
      (isFrameFree backing other && !decide (other = frame))
  isFrameFree_markFrameFree : ∀ (backing : B) (frame other : Nat), frame < totalFrames backing →
    isFrameFree (markFrameFree backing frame) other =
      (isFrameFree backing other || decide (other = frame))

namespace FreeList

def push (capacity : Nat) (frames : List Nat) (frame : Nat) : Except BuddyPanic (List Nat) :=
  if frames.length < capacity then .ok (frames ++ [frame])
  else .error .freeListOverflow

def pop (frames : List Nat) : Option (Nat × List Nat) :=
  frames.getLast?.map fun frame => (frame, frames.dropLast)

/-- The list without its first occurrence of a frame, if there is one. -/
def remove (frames : List Nat) (frame : Nat) : Option (List Nat) :=
  (frames.findIdx? fun other => other == frame).map (ListEdit.swapRemove frames)

end FreeList

structure BuddyAllocator (B : Type) (capacity : Nat) where
  backing : B
  /-- The block starts of every order, oldest first. -/
  freeLists : Nat → List Nat
  baseFrame : PhysFrame
  managed : Nat

namespace BuddyAllocator

variable {B : Type} [FrameBacking B] {capacity : Nat}

def absolute (buddy : BuddyAllocator B capacity) (frame : Nat) : Nat :=
  wrappingAdd buddy.baseFrame.number frame

def withList (freeLists : Nat → List Nat) (order : Nat) (frames : List Nat) : Nat → List Nat :=
  Function.update freeLists order frames

/-- The largest order that fits at a position. -/
def seedOrder (managed position : Nat) : Nat :=
  let alignOrder := trailingZeros position
  let fitOrder := 63 - leadingZeros (managed - position)
  min (min alignOrder fitOrder) maxOrder

/-- The seeding loop; every round advances by at least one frame, so `managed`
rounds are enough. -/
def seedFrom (capacity managed : Nat) :
    Nat → Nat → (Nat → List Nat) → Except BuddyPanic (Except BuddyError (Nat → List Nat))
  | 0, _, freeLists => .ok (.ok freeLists)
  | rounds + 1, position, freeLists =>
    if position < managed then
      let order := seedOrder managed position
      if capacity ≤ (freeLists order).length then .ok (.error .freeListFull)
      else
        match FreeList.push capacity (freeLists order) position with
        | .error reason => .error reason
        | .ok frames =>
          seedFrom capacity managed rounds (position + 2 ^ order) (withList freeLists order frames)
    else .ok (.ok freeLists)

def new (capacity : Nat) (backing : B) (baseFrame : PhysFrame) (managed : Nat) :
    Except BuddyPanic (Except BuddyError (BuddyAllocator B capacity)) :=
  if managed = 0 then .ok (.error .outOfRegion)
  else
    match seedFrom capacity managed managed 0 fun _ => [] with
    | .error reason => .error reason
    | .ok (.error reason) => .ok (.error reason)
    | .ok (.ok freeLists) =>
      .ok (.ok
        { backing := backing, freeLists := freeLists, baseFrame := baseFrame, managed := managed })

def freeFrames (buddy : BuddyAllocator B capacity) : Nat :=
  ((List.range numOrders).map fun order => (buddy.freeLists order).length * 2 ^ order).sum

/-- The first order from `want` on whose list is not empty. -/
def firstNonEmpty (freeLists : Nat → List Nat) (want : Nat) : Option Nat :=
  (List.range' want (numOrders - want)).find? fun order => !(freeLists order).isEmpty

/-- Split a block of the given order down to order `want`; the upper halves go
onto the lists. -/
def splitDown (capacity start want : Nat) :
    Nat → (Nat → List Nat) → Except BuddyPanic (Nat → List Nat)
  | 0, freeLists => .ok freeLists
  | order + 1, freeLists =>
    if want < order + 1 then
      match FreeList.push capacity (freeLists order) (start ^^^ 2 ^ order) with
      | .error reason => .error reason
      | .ok frames => splitDown capacity start want order (withList freeLists order frames)
    else .ok freeLists

def markAllocated (buddy : BuddyAllocator B capacity) (start count : Nat) : B :=
  (List.range count).foldl
    (fun backing offset => markFrameAllocated backing (buddy.absolute (start + offset)))
    buddy.backing

def allocPages (buddy : BuddyAllocator B capacity) (order : Nat) :
    Except BuddyPanic (Option PhysFrameRange × BuddyAllocator B capacity) :=
  if maxOrder < order then .ok (none, buddy)
  else
    match firstNonEmpty buddy.freeLists order with
    | none => .ok (none, buddy)
    | some found =>
      match FreeList.pop (buddy.freeLists found) with
      | none => .error .popFailed
      | some (start, frames) =>
        match splitDown capacity start order found (withList buddy.freeLists found frames) with
        | .error reason => .error reason
        | .ok freeLists =>
          let next :=
            { buddy with freeLists := freeLists, backing := buddy.markAllocated start (2 ^ order) }
          match buddy.baseFrame.add start with
          | .error reason => .error reason
          | .ok frame =>
            match PhysFrameRange.spanning frame (2 ^ order) with
            | .error reason => .error reason
            | .ok range => .ok (range, next)

/-- Merge a block with its buddy for as long as the buddy is free; the first
argument counts the orders above. -/
def mergeUp : Nat → Nat → Nat → (Nat → List Nat) → Nat × Nat × (Nat → List Nat)
  | 0, start, order, freeLists => (start, order, freeLists)
  | above + 1, start, order, freeLists =>
    let buddyStart := start ^^^ 2 ^ order
    match FreeList.remove (freeLists order) buddyStart with
    | none => (start, order, freeLists)
    | some frames =>
      mergeUp above
        (if start < buddyStart then start else buddyStart)
        (order + 1) (withList freeLists order frames)

def coalesceInsert (buddy : BuddyAllocator B capacity) (start order : Nat) :
    Except BuddyPanic (Except BuddyError Unit × BuddyAllocator B capacity) :=
  let merged := mergeUp (maxOrder - order) start order buddy.freeLists
  if capacity ≤ (merged.2.2 merged.2.1).length then
    .ok (.error .freeListFull, { buddy with freeLists := merged.2.2 })
  else
    match FreeList.push capacity (merged.2.2 merged.2.1) merged.1 with
    | .error reason => .error reason
    | .ok frames => .ok (.ok (), { buddy with freeLists := withList merged.2.2 merged.2.1 frames })

def markFree (buddy : BuddyAllocator B capacity) (start count : Nat) : B :=
  (List.range count).foldl
    (fun backing offset => markFrameFree backing (buddy.absolute (start + offset))) buddy.backing

/-- The end of the range lies in the region. -/
def inRegion (buddy : BuddyAllocator B capacity) (start count : Nat) : Bool :=
  match checkedAdd start count with
  | none => false
  | some stop => decide (stop ≤ buddy.managed)

/-- The checks of `free_pages`, in order: the relative start and the order of
the block to release. -/
def checkRange (buddy : BuddyAllocator B capacity) (range : PhysFrameRange) :
    Except BuddyError (Nat × Nat) :=
  let start := wrappingSub range.first.number buddy.baseFrame.number
  let count := range.len
  if ¬ buddy.inRegion start count then .error .outOfRegion
  else if ¬ IsPowerOfTwo count then .error .notPowerOfTwo
  else if maxOrder < trailingZeros count then .error (.orderTooLarge (trailingZeros count))
  else if start % count ≠ 0 then .error .misaligned
  else if
      (List.range count).any fun offset =>
        isFrameFree buddy.backing (buddy.absolute (start + offset)) then
    .error .doubleFree
  else .ok (start, trailingZeros count)

/-- The allocator after the frames of a range were released in the backing. -/
def release (buddy : BuddyAllocator B capacity) (start count : Nat) : BuddyAllocator B capacity :=
  { buddy with backing := buddy.markFree start count }

def releaseChecked (buddy : BuddyAllocator B capacity) (count : Nat) :
    Except BuddyError (Nat × Nat) →
      Except BuddyPanic (Except BuddyError Unit × BuddyAllocator B capacity)
  | .error reason => .ok (.error reason, buddy)
  | .ok block => (buddy.release block.1 count).coalesceInsert block.1 block.2

def freePages (buddy : BuddyAllocator B capacity) (range : PhysFrameRange) :
    Except BuddyPanic (Except BuddyError Unit × BuddyAllocator B capacity) :=
  buddy.releaseChecked range.len (buddy.checkRange range)

inductive Call where
  | alloc (order : Nat)
  | free (range : PhysFrameRange)

/-- The state a call leaves; a call that panics leaves none. -/
def afterCall {Result : Type} :
    Except BuddyPanic (Result × BuddyAllocator B capacity) → Option (BuddyAllocator B capacity)
  | .error _ => none
  | .ok returned => some returned.2

def step (buddy : BuddyAllocator B capacity) : Call → Option (BuddyAllocator B capacity)
  | .alloc order => afterCall (buddy.allocPages order)
  | .free range => afterCall (buddy.freePages range)

end BuddyAllocator

end Xenith.Mm.Physical
