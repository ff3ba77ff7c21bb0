import Xenith.Lib.Interval
import Xenith.Lib.Word

/-!
# The kernel heap

The two-tier allocator of `kernel/src/mm/heap.rs` over one reserved region.
Addresses are natural numbers, and the arithmetic that the source does with
`wrapping_add`, or with plain operators in a build without overflow checks,
wraps here as well.  Free lists are lists, and the `AllocHeader`s are kept in a
map from the address they are written to.
-/

namespace Xenith.Mm

/-- A valid `core::alloc::Layout`: the size, rounded up to the alignment, is
at most `isize::MAX`. -/
structure Layout where
  size : Nat
  align : Nat
  powerOfTwo : IsPowerOfTwo align
  fits : size + align ≤ 2 ^ 63
deriving DecidableEq

def Layout.fromSizeAlign (size align : Nat) : Option Layout :=
  if valid : IsPowerOfTwo align ∧ size + align ≤ 2 ^ 63 then some ⟨size, align, valid.1, valid.2⟩
  else none

def freeHeaderSize : Nat := 16

def allocHeaderSize : Nat := 16

def minSlabSize : Nat := 16

def maxSlabSize : Nat := 16 * 1024

def slabRefillCount : Nat := 8

def slabClasses : List Nat :=
  [16, 32, 64, 128, 256, 512, 1024, 2048, 4096, 8192, 16384]

abbrev ClassIndex : Type :=
  Fin slabClasses.length

/-- The next power of two, or `none` when the shift passes the word size. -/
def roundUpPow2 (value : Nat) : Option Nat :=
  if value ≤ 1 then some 1
  else
    let bits := 64 - leadingZeros (value - 1)
    if bits < 64 then some (2 ^ bits) else none

def classIndex (layout : Layout) : Option (ClassIndex × Nat) :=
  let need := max layout.size layout.align
  match roundUpPow2 need with
  | none => none
  | some size =>
    if size < minSlabSize then some (⟨0, by decide⟩, minSlabSize)
    else if maxSlabSize < size then none
    else (slabClasses.finIdxOf? size).map fun index => (index, size)

structure Heap where
  base : Nat
  limit : Nat
  /-- The free blocks of the coarse tier, in list order. -/
  coarse : List Interval
  /-- The free blocks of every class, top of the stack first. -/
  slabs : ClassIndex → List Nat
  inited : Bool
  /-- The block extent an `AllocHeader` at the given address records. -/
  headers : Nat → Interval

/-- What the caller of `init` promises: a page-aligned, non-null region of the
address space with room for a `FreeHeader`. -/
structure HeapRegion where
  base : Nat
  size : Nat
  pageAligned : 4096 ∣ base
  notNull : 0 < base
  holdsHeader : freeHeaderSize ≤ size
  addressable : base + size ≤ 2 ^ 64

def HeapRegion.span (region : HeapRegion) : Interval :=
  ⟨region.base, region.size⟩

namespace Heap

def empty (headers : Nat → Interval) : Heap where
  base := 0
  limit := 0
  coarse := []
  slabs := fun _ => []
  inited := false
  headers := headers

/-- The heap claims the region and seeds the coarse list with one block. -/
def init (heap : Heap) (base size : Nat) : Heap :=
  { heap with
    base := base
    limit := wrappingAdd base size
    coarse := [⟨base, size⟩]
    inited := true }

def nonNull (pointer : Nat) : Option Nat :=
  if pointer = 0 then none else some pointer

/-- The alignment is a power of two, so clearing the bits of the mask is
rounding down to a multiple of it. -/
def alignUpPtr (address align limit : Nat) : Option Nat :=
  let mask := align - 1
  if address + mask < 2 ^ 64 then
    let aligned := (address + mask) / align * align
    if limit < aligned then none else some aligned
  else none

/-- Where the first-fit walk stopped: the nodes passed, the block it takes, the
aligned start of the carve and the nodes that follow. -/
structure Fit where
  passed : List Interval
  block : Interval
  carve : Nat
  rest : List Interval
deriving DecidableEq, Repr

/-- The first-fit walk.  It gives up at the first block whose aligned start
overflows or passes the end of the region. -/
def findFit (limit size align : Nat) : List Interval → Option Fit
  | [] => none
  | block :: rest =>
    match alignUpPtr block.start align limit with
    | none => none
    | some carve =>
      if wrappingAdd block.start block.size < wrappingAdd carve size then
        (findFit limit size align rest).map fun fit => { fit with passed := block :: fit.passed }
      else some ⟨[], block, carve, rest⟩

/-- The part before the carve goes back on the list when it can hold a
`FreeHeader`. -/
def splitPrefix (block : Interval) (carve : Nat) : List Interval :=
  let before := wrappingSub carve block.start
  if freeHeaderSize ≤ before then [⟨block.start, before⟩] else []

def tailSize (block : Interval) (carve size : Nat) : Nat :=
  wrappingSub block.size (wrappingSub (wrappingAdd carve size) block.start)

/-- The part behind the carve goes back on the list when it is large enough;
otherwise the carved block absorbs it. -/
def splitTail (block : Interval) (carve size : Nat) : List Interval :=
  if freeHeaderSize + minSlabSize ≤ tailSize block carve size then
    [⟨wrappingAdd carve size, tailSize block carve size⟩]
  else []

def blockSize (block : Interval) (carve size : Nat) : Nat :=
  if freeHeaderSize + minSlabSize ≤ tailSize block carve size then size
  else size + tailSize block carve size

def coarseAllocRaw (heap : Heap) (size align : Nat) : Option (Nat × Nat) × Heap :=
  match findFit heap.limit size align heap.coarse with
  | none => (none, heap)
  | some fit =>
    ((nonNull fit.carve).map fun start =>
      (start, blockSize fit.block fit.carve size),
      { heap with
        coarse := fit.passed ++ splitPrefix fit.block fit.carve ++
          splitTail fit.block fit.carve size ++ fit.rest })

def userOffset (align : Nat) : Nat :=
  if allocHeaderSize < align then align else allocHeaderSize

def coarseAlloc (heap : Heap) (size align : Nat) : Option Nat × Heap :=
  let need := size + userOffset align
  match heap.coarseAllocRaw need align with
  | (none, next) => (none, next)
  | (some (start, size), next) =>
    let user := start + userOffset align
    (nonNull user,
      { next with headers := Function.update next.headers (user - allocHeaderSize) ⟨start, size⟩ })

/-- The freed block, grown by its successor when that follows immediately, with
the nodes behind it. -/
def mergeSuccessor (freed : Interval) : List Interval → List Interval
  | [] => [freed]
  | successor :: rest =>
    if successor.start = wrappingAdd freed.start freed.size then freed.join successor :: rest
    else freed :: successor :: rest

/-- Link the first of the new nodes behind the nodes passed, or grow the last
of these when it ends where the freed block starts. -/
def mergePredecessor (passed : List Interval) : List Interval → List Interval
  | [] => passed
  | freed :: rest =>
    match passed.getLast? with
    | none => freed :: rest
    | some predecessor =>
      if wrappingAdd predecessor.start predecessor.size = freed.start
      then passed.dropLast ++ predecessor.join freed :: rest
      else passed ++ freed :: rest

def coarseDealloc (heap : Heap) (blockStart size : Nat) : Heap :=
  let passed := heap.coarse.takeWhile fun node => node.start ≤ blockStart
  let following := heap.coarse.dropWhile fun node => node.start ≤ blockStart
  { heap with coarse := mergePredecessor passed (mergeSuccessor ⟨blockStart, size⟩ following) }

def push (heap : Heap) (index : ClassIndex) (pointer : Nat) : Heap :=
  { heap with slabs := Function.update heap.slabs index (pointer :: heap.slabs index) }

def pop (heap : Heap) (index : ClassIndex) : Option (Nat × Heap) :=
  match heap.slabs index with
  | [] => none
  | pointer :: next => some (pointer, { heap with slabs := Function.update heap.slabs index next })

def slicedBlocks (run size : Nat) : List Nat :=
  (List.range slabRefillCount).map fun position => run + position * size

/-- Push the blocks of a fresh run onto the list of their class. -/
def refill (heap : Heap) (index : ClassIndex) (run size : Nat) : Heap :=
  (slicedBlocks run size).foldl (fun filled => filled.push index) heap

/-- A second round of the loop in the source follows only a refill. -/
def slabAlloc (heap : Heap) (layout : Layout) : Option Nat × Heap :=
  match classIndex layout with
  | none => (none, heap)
  | some (index, size) =>
    match heap.pop index with
    | some (pointer, next) => (some pointer, next)
    | none =>
      match heap.coarseAllocRaw (slabRefillCount * size) size with
      | (none, next) => (none, next)
      | (some (run, _), next) =>
        let filled := next.refill index run size
        match filled.pop index with
        | some (pointer, last) => (some pointer, last)
        | none => (none, filled)

def allocate (heap : Heap) (layout : Layout) : Option Nat × Heap :=
  if heap.inited then
    if (classIndex layout).isSome then heap.slabAlloc layout
    else heap.coarseAlloc layout.size layout.align
  else (none, heap)

def deallocate (heap : Heap) (pointer : Nat) (layout : Layout) : Heap :=
  match classIndex layout with
  | some (index, _) => heap.push index pointer
  | none =>
    let header := heap.headers (pointer - allocHeaderSize)
    heap.coarseDealloc header.start header.size

/-- The bytes from the user pointer to the end of its coarse block. -/
def usable (heap : Heap) (pointer : Nat) : Nat :=
  let header := heap.headers (pointer - allocHeaderSize)
  wrappingAdd header.start header.size - pointer

def fitsInPlace (heap : Heap) (pointer : Nat) (oldLayout newLayout : Layout) : Bool :=
  match classIndex oldLayout, classIndex newLayout with
  | some (_, oldClass), some (_, newClass) => oldClass == newClass
  | none, none => decide (newLayout.size ≤ heap.usable pointer)
  | _, _ => false

def reallocate (heap : Heap) (pointer : Nat) (oldLayout : Layout) (newSize : Nat) :
    Option Nat × Heap :=
  match Layout.fromSizeAlign newSize oldLayout.align with
  | none => (none, heap)
  | some newLayout =>
    if heap.fitsInPlace pointer oldLayout newLayout then (some pointer, heap)
    else
      match heap.allocate newLayout with
      | (none, next) => (none, next)
      | (some newPointer, next) => (some newPointer, next.deallocate pointer oldLayout)

end Heap

structure Allocation where
  pointer : Nat
  layout : Layout
deriving DecidableEq

/-- The heap with the allocations its clients hold. -/
structure HeapState where
  heap : Heap
  live : List Allocation

inductive HeapOperation where
  | allocate (layout : Layout)
  | deallocate (pointer : Nat) (layout : Layout)
  | reallocate (pointer : Nat) (layout : Layout) (newSize : Nat)

namespace HeapState

/-- Only a live pointer, with the layout it was last given, is freed or
reallocated. -/
def step (state : HeapState) : HeapOperation → Option HeapState
  | .allocate layout =>
    match state.heap.allocate layout with
    | (none, heap) => some { state with heap := heap }
    | (some pointer, heap) => some { heap := heap, live := ⟨pointer, layout⟩ :: state.live }
  | .deallocate pointer layout =>
    if ⟨pointer, layout⟩ ∈ state.live then
      some
        { heap := state.heap.deallocate pointer layout, live := state.live.erase ⟨pointer, layout⟩ }
    else none
  | .reallocate pointer layout newSize =>
    if ⟨pointer, layout⟩ ∈ state.live then
      match state.heap.reallocate pointer layout newSize with
      | (none, heap) => some { state with heap := heap }
      | (some newPointer, heap) =>
        (Layout.fromSizeAlign newSize layout.align).map fun newLayout =>
          { heap := heap, live := ⟨newPointer, newLayout⟩ :: state.live.erase ⟨pointer, layout⟩ }
    else none

end HeapState

end Xenith.Mm
