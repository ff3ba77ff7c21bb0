import Xenith.Lib.ListEdit
import Xenith.Lib.SortedMap

/-!
# User mappings of one address space

The user half of a page-table hierarchy is represented by its present leaves.
All that the creation of intermediate tables can do to the caller is fail for
want of a frame, and that outcome is an argument.
-/

namespace Xenith.Mm

/-- The number of a virtual page: its start address divided by the page
size. -/
abbrev Page := Nat

abbrev PhysFrame := Nat

def pageSize : Nat := 4096

/-- The top of the canonical low half. -/
def userMax : Nat := 0x00007FFFFFFFFFFF

def Page.startAddress (page : Page) : Nat :=
  page * pageSize

/-- The defined flag bits of a page-table entry, one field for each bit. -/
structure PageTableFlags where
  present : Bool := false
  writable : Bool := false
  user : Bool := false
  writeThrough : Bool := false
  cacheDisable : Bool := false
  accessed : Bool := false
  dirty : Bool := false
  hugePage : Bool := false
  global : Bool := false
  copyOnWrite : Bool := false
  noExecute : Bool := false
deriving DecidableEq, Repr

namespace PageTableFlags

def PRESENT : PageTableFlags := { present := true }
def WRITABLE : PageTableFlags := { writable := true }
def USER : PageTableFlags := { user := true }
def ACCESSED : PageTableFlags := { accessed := true }
def DIRTY : PageTableFlags := { dirty := true }
def HUGE_PAGE : PageTableFlags := { hugePage := true }
def GLOBAL : PageTableFlags := { global := true }
def COPY_ON_WRITE : PageTableFlags := { copyOnWrite := true }
def NO_EXECUTE : PageTableFlags := { noExecute := true }

def zipWith (combine : Bool → Bool → Bool) (left right : PageTableFlags) : PageTableFlags where
  present := combine left.present right.present
  writable := combine left.writable right.writable
  user := combine left.user right.user
  writeThrough := combine left.writeThrough right.writeThrough
  cacheDisable := combine left.cacheDisable right.cacheDisable
  accessed := combine left.accessed right.accessed
  dirty := combine left.dirty right.dirty
  hugePage := combine left.hugePage right.hugePage
  global := combine left.global right.global
  copyOnWrite := combine left.copyOnWrite right.copyOnWrite
  noExecute := combine left.noExecute right.noExecute

def empty : PageTableFlags := {}

def insert (flags other : PageTableFlags) : PageTableFlags :=
  zipWith (fun own added => own || added) flags other

def remove (flags other : PageTableFlags) : PageTableFlags :=
  zipWith (fun own removed => own && !removed) flags other

def intersection (flags other : PageTableFlags) : PageTableFlags :=
  zipWith (fun own shared => own && shared) flags other

def contains (flags other : PageTableFlags) : Bool :=
  decide (intersection flags other = other)

def intersects (flags other : PageTableFlags) : Bool :=
  decide (intersection flags other ≠ empty)

/-- The leaf can be written and its bytes can be fetched as instructions. -/
def WritableExecutable (flags : PageTableFlags) : Prop :=
  flags.writable = true ∧ flags.noExecute = false

instance (flags : PageTableFlags) : Decidable flags.WritableExecutable :=
  inferInstanceAs (Decidable (_ ∧ _))

section Bits

variable (flags : PageTableFlags)

@[simp]
theorem contains_bits :
    flags.contains WRITABLE = flags.writable ∧
      flags.contains USER = flags.user ∧
      flags.contains ACCESSED = flags.accessed ∧
      flags.contains DIRTY = flags.dirty ∧
      flags.contains COPY_ON_WRITE = flags.copyOnWrite ∧
      flags.contains (PRESENT.insert USER) = (flags.present && flags.user) := by
  simp [contains, intersection, zipWith, insert, PRESENT, WRITABLE, USER,
    ACCESSED, DIRTY, COPY_ON_WRITE]

@[simp]
theorem insert_present (other : PageTableFlags) :
    (flags.insert other).present = (flags.present || other.present) :=
  rfl

end Bits

end PageTableFlags

open PageTableFlags

/-- A present leaf entry.  An entry without the present bit maps nothing and
is represented by the absence of a leaf. -/
structure Leaf where
  frame : PhysFrame
  flags : PageTableFlags
  isPresent : flags.present = true
deriving DecidableEq

inductive MapError where
  | outOfRange
  | outOfMemory
  | alreadyMapped
  | corruptPageTable
  | hugePageUnsupported
deriving DecidableEq, Repr

inductive UnmapError where
  | notMapped
deriving DecidableEq, Repr

/-- The present user leaves of a page-table hierarchy, in the ascending page
order in which the table walkers meet them. -/
abbrev AddressSpace := SortedMap Page Leaf

namespace AddressSpace

def mappings (space : AddressSpace) (frame : PhysFrame) : Nat :=
  space.countValues fun leaf => decide (leaf.frame = frame)

/-- Overwrite the leaf entry of `page`.  Storing an entry without the present
bit leaves the page unmapped. -/
def setLeaf (space : AddressSpace) (page : Page) (frame : PhysFrame)
    (flags : PageTableFlags) : AddressSpace :=
  if isPresent : flags.present = true then space.put page ⟨frame, flags, isPresent⟩
  else space.erase page

/-- `tables` tells whether the intermediate tables that the walk has to
create could be allocated. -/
def mapUser (space : AddressSpace) (page : Page) (frame : PhysFrame)
    (flags : PageTableFlags) (tables : Bool) :
    Except MapError AddressSpace :=
  if userMax < Page.startAddress page then .error .outOfRange
  else if tables = false then .error .outOfMemory
  else
    match space.get? page with
    | some _ => .error .alreadyMapped
    | none => .ok (space.setLeaf page frame (flags.insert PRESENT))

def unmap (space : AddressSpace) (page : Page) : Except UnmapError (PhysFrame × AddressSpace) :=
  match space.get? page with
  | none => .error .notMapped
  | some leaf => .ok (leaf.frame, space.erase page)

/-- The flags that `protectUser` writes over a leaf with flags `old`. -/
def protectedFlags (old requested : PageTableFlags) : PageTableFlags :=
  let next := requested.insert PRESENT
  let next :=
    if old.contains ACCESSED then next.insert ACCESSED
    else next
  let next :=
    if old.contains DIRTY then next.insert DIRTY
    else next
  if old.contains COPY_ON_WRITE then (next.insert COPY_ON_WRITE).remove WRITABLE
  else next

def protectUser (space : AddressSpace) (page : Page) (requested : PageTableFlags) :
    Except MapError AddressSpace :=
  if decide (userMax < Page.startAddress page) ||
      !requested.contains USER || requested.intersects (GLOBAL.insert HUGE_PAGE) then
    .error .outOfRange
  else
    match space.get? page with
    | none => .error .corruptPageTable
    | some leaf =>
      if !leaf.flags.contains (PRESENT.insert USER) || leaf.flags.hugePage then
        .error .corruptPageTable
      else .ok (space.setLeaf page leaf.frame (protectedFlags leaf.flags requested))

section Fields

variable (old requested : PageTableFlags)

/-- The marker survives whatever is requested, and a marked leaf stays
read-only. -/
theorem protectedFlags_eq :
    protectedFlags old requested =
      { requested with
        present := true
        writable := requested.writable && !old.copyOnWrite
        accessed := requested.accessed || old.accessed
        dirty := requested.dirty || old.dirty
        copyOnWrite := requested.copyOnWrite || old.copyOnWrite } := by
  unfold protectedFlags
  simp only [contains_bits]
  cases old.accessed <;> cases old.dirty <;> cases old.copyOnWrite <;>
    simp [PageTableFlags.insert, remove, zipWith, PRESENT, ACCESSED, DIRTY, COPY_ON_WRITE, WRITABLE]

@[simp]
theorem protectedFlags_present : (protectedFlags old requested).present = true := by
  rw [protectedFlags_eq]

@[simp]
theorem protectedFlags_writable :
    (protectedFlags old requested).writable = (requested.writable && !old.copyOnWrite) := by
  rw [protectedFlags_eq]

@[simp]
theorem protectedFlags_copyOnWrite :
    (protectedFlags old requested).copyOnWrite = (requested.copyOnWrite || old.copyOnWrite) := by
  rw [protectedFlags_eq]

@[simp]
theorem protectedFlags_noExecute :
    (protectedFlags old requested).noExecute = requested.noExecute := by
  rw [protectedFlags_eq]

end Fields

section Outcomes

variable {space : AddressSpace} {page : Page} {frame : PhysFrame} {flags : PageTableFlags}

theorem setLeaf_of_present (isPresent : flags.present = true) :
    space.setLeaf page frame flags = space.put page ⟨frame, flags, isPresent⟩ := by
  simp [setLeaf, isPresent]

theorem mapUser_eq_ok {tables : Bool} {mapped : AddressSpace}
    (succeeded : space.mapUser page frame flags tables = .ok mapped) :
    space.get? page = none ∧
      ∃ isPresent, mapped = space.put page ⟨frame, flags.insert PRESENT, isPresent⟩ := by
  revert succeeded
  fun_cases mapUser with
  | case4 _ _ missing =>
    rintro ⟨⟩
    have isPresent : (flags.insert PRESENT).present = true := by
      simp [PRESENT]
    exact ⟨missing, isPresent, setLeaf_of_present isPresent⟩
  | _ => rintro ⟨⟩

theorem unmap_eq_ok {rest : AddressSpace} (succeeded : space.unmap page = .ok (frame, rest)) :
    ∃ leaf, space.get? page = some leaf ∧ leaf.frame = frame ∧ rest = space.erase page := by
  revert succeeded
  fun_cases unmap with
  | case1 => rintro ⟨⟩
  | case2 leaf found =>
    rintro ⟨⟩
    exact ⟨leaf, found, rfl, rfl⟩

theorem protectUser_eq_ok {requested : PageTableFlags} {changed : AddressSpace}
    (succeeded : space.protectUser page requested = .ok changed) :
    ∃ leaf isPresent, space.get? page = some leaf ∧ leaf.flags.user = true ∧ requested.user = true ∧
      changed = space.put page ⟨leaf.frame, protectedFlags leaf.flags requested, isPresent⟩ := by
  revert succeeded
  fun_cases protectUser with
  | case4 accepted leaf found usable =>
    rintro ⟨⟩
    simp only [contains_bits, Bool.or_eq_true,
      Bool.not_eq_true', not_or, Bool.and_eq_false_iff, Bool.not_eq_false] at accepted usable
    have isPresent := protectedFlags_present leaf.flags requested
    exact ⟨leaf, isPresent, found, usable.1.2, accepted.1.2, setLeaf_of_present isPresent⟩
  | _ => rintro ⟨⟩

end Outcomes

end AddressSpace

def cowSharedFlags (flags : PageTableFlags) : PageTableFlags :=
  if flags.contains WRITABLE then (flags.remove WRITABLE).insert COPY_ON_WRITE
  else flags

section CowFields

variable (flags : PageTableFlags)

theorem cowSharedFlags_eq :
    cowSharedFlags flags =
      { flags with
        writable := false
        copyOnWrite := flags.copyOnWrite || flags.writable } := by
  unfold cowSharedFlags
  simp only [contains_bits]
  cases flags with
  | mk present writable user writeThrough cacheDisable accessed dirty
      hugePage global copyOnWrite noExecute =>
      cases writable <;> simp [PageTableFlags.insert, remove, zipWith, WRITABLE, COPY_ON_WRITE]

@[simp]
theorem cowSharedFlags_present : (cowSharedFlags flags).present = flags.present := by
  rw [cowSharedFlags_eq]

@[simp]
theorem cowSharedFlags_writable : (cowSharedFlags flags).writable = false := by
  rw [cowSharedFlags_eq]

@[simp]
theorem cowSharedFlags_copyOnWrite :
    (cowSharedFlags flags).copyOnWrite = (flags.copyOnWrite || flags.writable) := by
  rw [cowSharedFlags_eq]

@[simp]
theorem cowSharedFlags_noExecute : (cowSharedFlags flags).noExecute = flags.noExecute := by
  rw [cowSharedFlags_eq]

end CowFields

structure SharedUserFrame where
  frame : PhysFrame
  references : Nat
deriving DecidableEq, Repr

/-- `reserve` tells whether the vector could grow by one entry. -/
def retainSharedUserFrame (frames : List SharedUserFrame) (frame : PhysFrame) (reserve : Bool) :
    Except MapError (List SharedUserFrame) :=
  match frames.findIdx? fun shared => decide (shared.frame = frame) with
  | some index =>
    match frames[index]? with
    | some shared =>
      if shared.references + 1 < 2 ^ 64 then
        .ok (frames.set index { shared with references := shared.references + 1 })
      else .error .corruptPageTable
    | none => .error .corruptPageTable
  | none =>
    if reserve then .ok (frames ++ [{ frame := frame, references := 2 }])
    else .error .outOfMemory

def sharedUserFrame (frames : List SharedUserFrame) (frame : PhysFrame) : Bool :=
  frames.any fun shared => decide (shared.frame = frame)

/-- Release one mapping of `frame`.  The flag reports whether the frame is
now wholly unreferenced. -/
def releaseUserFrame (frames : List SharedUserFrame) (frame : PhysFrame) :
    Bool × List SharedUserFrame :=
  match frames.findIdx? fun shared => decide (shared.frame = frame) with
  | none => (true, frames)
  | some index =>
    match frames[index]? with
    | some shared =>
      if 2 < shared.references then
        (false, frames.set index { shared with references := shared.references - 1 })
      else (false, ListEdit.swapRemove frames index)
    | none => (false, frames)

end Xenith.Mm
