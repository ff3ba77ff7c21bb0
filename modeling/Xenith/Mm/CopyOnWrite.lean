import Xenith.Mm.AddressSpace

/-!
# Fork, write faults and the whole set of address spaces

Any number of address spaces together with the table of shared frames, the
bytes of every frame, and the calls made to the physical allocator.  The outcome
of every allocation is part of the operation.
-/

namespace Xenith.Mm

open PageTableFlags
open Function

structure ForkMapping where
  page : Page
  frame : PhysFrame
  parentFlags : Option PageTableFlags
deriving DecidableEq

/-- The allocations that may fail while one leaf is cloned: an entry of the
rollback vector, an entry of the shared-frame table, and the child's page
tables. -/
structure CloneGrants where
  mapped : Bool := true
  shared : Bool := true
  tables : Bool := true
deriving DecidableEq, Repr

structure CloneState where
  parent : AddressSpace
  child : AddressSpace
  frames : List SharedUserFrame
  mapped : List ForkMapping

/-- The body of the innermost loop of `clone_user_mappings`. -/
def cloneLeaf (grants : CloneGrants) (state : CloneState)
    (page : Page) (leaf : Leaf) : CloneState × Option MapError :=
  if !leaf.flags.contains USER then (state, some .corruptPageTable)
  else if grants.mapped = false then (state, some .outOfMemory)
  else
    let sharedFlags := cowSharedFlags leaf.flags
    match retainSharedUserFrame state.frames leaf.frame grants.shared with
    | .error error => (state, some error)
    | .ok retained =>
      match state.child.mapUser page leaf.frame sharedFlags grants.tables with
      | .error error =>
        ({ state with frames := (releaseUserFrame retained leaf.frame).2 }, some error)
      | .ok child =>
        ({ parent :=
            if sharedFlags ≠ leaf.flags then state.parent.setLeaf page leaf.frame sharedFlags
            else state.parent
           child := child
           frames := retained
           mapped := state.mapped ++
            [{ page := page
               frame := leaf.frame
               parentFlags :=
                if sharedFlags ≠ leaf.flags then some leaf.flags
                else none }] },
          none)

def cloneUserMappings :
    List (Page × Leaf) → List CloneGrants → CloneState → CloneState × Option MapError
  | [], _, state => (state, none)
  | (page, leaf) :: rest, grants, state =>
    match cloneLeaf (grants.headD {}) state page leaf with
    | (next, none) => cloneUserMappings rest grants.tail next
    | (next, some error) => (next, some error)

/-- Undo one cloned mapping.  The parent's tables for the page exist, so the
walk to its leaf succeeds. -/
def rollbackMapping (state : CloneState) (mapping : ForkMapping) : CloneState :=
  { state with
    child :=
      match state.child.unmap mapping.page with
      | .ok (_, child) => child
      | .error _ => state.child
    frames := (releaseUserFrame state.frames mapping.frame).2
    parent :=
      match mapping.parentFlags with
      | some flags => state.parent.setLeaf mapping.page mapping.frame flags
      | none => state.parent }

def rollbackFork (state : CloneState) : CloneState :=
  state.mapped.reverse.foldl rollbackMapping state

structure ForkResult where
  parent : AddressSpace
  frames : List SharedUserFrame
  child : Except MapError AddressSpace

/-- `root` tells whether the child's top-level table could be allocated. -/
def fork (space : AddressSpace) (frames : List SharedUserFrame)
    (root : Bool) (grants : List CloneGrants) : ForkResult :=
  if root = false then { parent := space, frames := frames, child := .error .outOfMemory }
  else
    match cloneUserMappings space.entries grants
        { parent := space, child := SortedMap.empty, frames := frames, mapped := [] } with
    | (state, none) => { parent := state.parent, frames := state.frames, child := .ok state.child }
    | (state, some error) =>
      let undone := rollbackFork state
      { parent := undone.parent, frames := undone.frames, child := .error error }

/-- What a write fault did: the frame it allocated, the copy it made, the
frame it gave back, and the value it returned. -/
structure CowResolution where
  space : AddressSpace
  frames : List SharedUserFrame
  allocated : Option PhysFrame := none
  copied : Option (PhysFrame × PhysFrame) := none
  freed : Option PhysFrame := none
  outcome : Except MapError Bool

/-- `destination` is the frame that the allocator would hand out. -/
def resolveCowFault (space : AddressSpace) (frames : List SharedUserFrame)
    (page : Page) (destination : Option PhysFrame) : CowResolution :=
  match space.get? page with
  | none => { space := space, frames := frames, outcome := .ok false }
  | some leaf =>
    let flags := leaf.flags
    if !flags.contains (PRESENT.insert USER) ||
        !flags.contains COPY_ON_WRITE || flags.contains WRITABLE then
      { space := space, frames := frames, outcome := .ok false }
    else
      let source := leaf.frame
      let writable := (flags.remove COPY_ON_WRITE).insert WRITABLE
      if sharedUserFrame frames source then
        match destination with
        | none => { space := space, frames := frames, outcome := .error .outOfMemory }
        | some destination =>
          let released := releaseUserFrame frames source
          if released.1 then
            { space := (space.setLeaf page destination writable).setLeaf page source flags
              frames := released.2
              allocated := some destination
              copied := some (source, destination)
              freed := some destination
              outcome := .error .corruptPageTable }
          else
            { space := space.setLeaf page destination writable
              frames := released.2
              allocated := some destination
              copied := some (source, destination)
              outcome := .ok true }
      else
        { space := space.setLeaf page source writable, frames := frames, outcome := .ok true }

structure VmProtection where
  writable : Bool
  executable : Bool
deriving DecidableEq, Repr

def pageFlags (protection : VmProtection) : PageTableFlags :=
  let flags := USER
  let flags :=
    if protection.writable then flags.insert WRITABLE
    else flags
  if protection.executable then flags
  else flags.insert NO_EXECUTE

theorem pageFlags_eq (protection : VmProtection) :
    pageFlags protection =
      { user := true
        writable := protection.writable
        noExecute := !protection.executable } := by
  obtain ⟨writable, executable⟩ := protection
  cases writable <;> cases executable <;> rfl

inductive FrameEvent where
  | allocate (frame : PhysFrame)
  | deallocate (frame : PhysFrame)
deriving DecidableEq, Repr

/-- Address spaces are named by their position.  `requests` remembers, for
every mapped page, the last successful permission request since the page was
mapped; a forked child starts with the requests of its parent. -/
structure VmState where
  spaces : List AddressSpace
  frames : List SharedUserFrame
  memory : PhysFrame → Nat → UInt8
  events : List FrameEvent
  requests : Nat → Page → Option VmProtection

inductive VmOp where
  | newEmpty
  | mapUser (space : Nat) (page : Page) (frame : PhysFrame)
      (protection : VmProtection) (tables : Bool)
  | protectUser (space : Nat) (page : Page) (protection : VmProtection)
  | fork (space : Nat) (root : Bool) (grants : List CloneGrants)
  | resolveCowFault (space : Nat) (page : Page) (destination : Option PhysFrame)
  | unmap (space : Nat) (page : Page) (release : Bool)
  | store (space : Nat) (page : Page) (offset : Nat) (value : UInt8)

namespace VmState

/-- No address space, no shared frame, and no frame handed out. -/
def initial : VmState where
  spaces := []
  frames := []
  memory := fun _ _ => 0
  events := []
  requests := fun _ _ => none

def leaf? (state : VmState) (index : Nat) (page : Page) : Option Leaf :=
  state.spaces[index]?.bind fun space => space.get? page

/-- The number of leaves, in all address spaces, that map `frame`. -/
def mappings (state : VmState) (frame : PhysFrame) : Nat :=
  (state.spaces.map fun space => AddressSpace.mappings space frame).sum

/-- The byte that user code reads at an offset of a mapped page. -/
def read? (state : VmState) (index : Nat) (page : Page) (offset : Nat) : Option UInt8 :=
  (state.leaf? index page).map fun leaf => state.memory leaf.frame offset

def log (state : VmState) (event : FrameEvent) : VmState :=
  { state with events := state.events ++ [event] }

def setSpace (state : VmState) (index : Nat) (space : AddressSpace) : VmState :=
  { state with spaces := state.spaces.set index space }

def setRequest (state : VmState) (index : Nat) (page : Page)
    (request : Option VmProtection) : VmState :=
  { state with
    requests := update state.requests index (update (state.requests index) page request) }

def allocateZeroed (state : VmState) (frame : PhysFrame) : VmState :=
  { state.log (.allocate frame) with memory := update state.memory frame fun _ => 0 }

/-- Allocate a zeroed frame and map it, or give it back when the mapping
fails, as the anonymous mapping loop does for each page. -/
def mapUser (state : VmState) (index : Nat) (page : Page) (frame : PhysFrame)
    (protection : VmProtection) (tables : Bool) : VmState :=
  match state.spaces[index]? with
  | none => state
  | some space =>
    let allocated := state.allocateZeroed frame
    match space.mapUser page frame (pageFlags protection) tables with
    | .ok mapped => (allocated.setSpace index mapped).setRequest index page none
    | .error _ => allocated.log (.deallocate frame)

def protectUser (state : VmState) (index : Nat) (page : Page)
    (protection : VmProtection) : VmState :=
  match state.spaces[index]? with
  | none => state
  | some space =>
    match space.protectUser page (pageFlags protection) with
    | .ok changed => (state.setSpace index changed).setRequest index page (some protection)
    | .error _ => state

def fork (state : VmState) (index : Nat) (root : Bool) (grants : List CloneGrants) : VmState :=
  match state.spaces[index]? with
  | none => state
  | some space =>
    let result := Mm.fork space state.frames root grants
    let updated := { state.setSpace index result.parent with frames := result.frames }
    match result.child with
    | .ok child =>
      { updated with
        spaces := updated.spaces ++ [child]
        requests := update state.requests state.spaces.length (state.requests index) }
    | .error _ => updated

def resolveCowFault (state : VmState) (index : Nat) (page : Page)
    (destination : Option PhysFrame) : VmState :=
  match state.spaces[index]? with
  | none => state
  | some space =>
    let result := Mm.resolveCowFault space state.frames page destination
    { state.setSpace index result.space with
      frames := result.frames
      memory :=
        match result.copied with
        | some (source, target) => update state.memory target (state.memory source)
        | none => state.memory
      events := state.events ++
        (result.allocated.map FrameEvent.allocate).toList ++
        (result.freed.map FrameEvent.deallocate).toList }

/-- Unmap a page and, when `release` is set, release its frame, returning it
to the physical allocator if it was the last mapping. -/
def unmap (state : VmState) (index : Nat) (page : Page) (release : Bool) : VmState :=
  match state.spaces[index]? with
  | none => state
  | some space =>
    match space.unmap page with
    | .error _ => state
    | .ok (frame, rest) =>
      let unmapped := (state.setSpace index rest).setRequest index page none
      if release then
        let released := releaseUserFrame state.frames frame
        let updated := { unmapped with frames := released.2 }
        if released.1 then updated.log (.deallocate frame) else updated
      else unmapped

/-- A store by user code.  The processor admits it through a leaf that is
both user-accessible and writable. -/
def store (state : VmState) (index : Nat) (page : Page) (offset : Nat) (value : UInt8) : VmState :=
  match state.leaf? index page with
  | none => state
  | some leaf =>
    if leaf.flags.user && leaf.flags.writable && decide (offset < pageSize) then
      { state with
        memory := update state.memory leaf.frame (update (state.memory leaf.frame) offset value) }
    else state

def step (state : VmState) : VmOp → VmState
  | .newEmpty => { state with spaces := state.spaces ++ [SortedMap.empty] }
  | .mapUser index page frame protection tables => state.mapUser index page frame protection tables
  | .protectUser index page protection => state.protectUser index page protection
  | .fork index root grants => state.fork index root grants
  | .resolveCowFault index page destination => state.resolveCowFault index page destination
  | .unmap index page release => state.unmap index page release
  | .store index page offset value => state.store index page offset value

/-- The operations as a transition function; every operation is enabled. -/
def transition (state : VmState) (op : VmOp) : Option VmState :=
  some (state.step op)

end VmState

end Xenith.Mm
