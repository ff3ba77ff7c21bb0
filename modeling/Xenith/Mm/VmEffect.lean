import Xenith.Mm.Fork

/-!
# What an operation does to the set of address spaces

`Effect` lists, once for all results, the shapes that the state after an
operation can have.
-/

namespace Xenith.Mm

open AddressSpace
open SortedMap

namespace AddressSpace

section Mappings

variable {space : AddressSpace} {page : Page} {leaf : Leaf}

/-- How often the entry of a page maps `frame`. -/
def mapsTo (entry : Option Leaf) (frame : PhysFrame) : Nat :=
  entry.toList.countP fun leaf => decide (leaf.frame = frame)

@[simp]
theorem mapsTo_none (frame : PhysFrame) : mapsTo none frame = 0 :=
  rfl

@[simp]
theorem mapsTo_some (leaf : Leaf) (frame : PhysFrame) :
    mapsTo (some leaf) frame = if leaf.frame = frame then 1 else 0 := by
  simp [mapsTo]

@[simp]
theorem mappings_mapValues_shared (tested : PhysFrame) :
    mappings (space.mapValues Leaf.shared) tested = space.mappings tested := by
  apply countValues_mapValues
  intro leaf
  rfl

theorem mappings_pos_of_get?_eq_some (found : space.get? page = some leaf) :
    0 < space.mappings leaf.frame :=
  countValues_pos_of_get?_eq_some found (decide_eq_true rfl)

end Mappings

end AddressSpace

namespace VmState

section Observations

variable {state next : VmState} {index : Nat} {space changed : AddressSpace} {page : Page}
variable {leaf : Leaf} {before : Option Leaf}

section Found

variable (found : state.spaces[index]? = some space)

include found

theorem setSpace_self : state.setSpace index space = state := by
  obtain ⟨_, rfl⟩ := List.getElem?_eq_some_iff.mp found
  simp [setSpace]

theorem leaf?_of_getElem? (page : Page) : state.leaf? index page = space.get? page := by
  simp [leaf?, found]

theorem leaf?_eq_some (present : space.get? page = some leaf) :
    state.leaf? index page = some leaf := by
  rw [leaf?_of_getElem? found, present]

theorem mappings_setSpace (changed : AddressSpace) (frame : PhysFrame) :
    (state.setSpace index changed).mappings frame + space.mappings frame =
      state.mappings frame + changed.mappings frame :=
  ListEdit.sum_map_set (fun space => AddressSpace.mappings space frame) _ found

end Found

/-- The next state differs in the entry of one page. -/
structure Exchanges
    (state next : VmState) (index : Nat) (page : Page) (before after : Option Leaf) : Prop where
  held : state.leaf? index page = before
  lookup : ∀ other tested, next.leaf? other tested =
    if index = other ∧ page = tested then after
    else state.leaf? other tested
  counts :
    ∀ frame, next.mappings frame + mapsTo before frame = state.mappings frame + mapsTo after frame

/-- Changing only the flags of a leaf moves no count. -/
theorem Exchanges.counts_eq
    {changed : Leaf} (exchanges : Exchanges state next index page (some leaf) (some changed))
    (sameFrame : changed.frame = leaf.frame) (frame : PhysFrame) :
    next.mappings frame = state.mappings frame := by
  have count := exchanges.counts frame
  rw [mapsTo_some, mapsTo_some, sameFrame] at count
  exact Nat.add_right_cancel count

section Found

variable (found : state.spaces[index]? = some space)

include found

theorem exchanges_set
    (present : space.get? page = before) (spaces : next.spaces = state.spaces.set index changed)
    (same : ∀ tested, page ≠ tested → changed.get? tested = space.get? tested) :
    Exchanges state next index page before (changed.get? page) where
  held := by
    rw [leaf?_of_getElem? found, present]
  lookup := by
    intro other tested
    obtain ⟨inside, rfl⟩ := List.getElem?_eq_some_iff.mp found
    simp only [leaf?, spaces]
    by_cases equal : index = other
    · subst equal
      by_cases samePage : page = tested
      · simp [inside, samePage]
      · simp [inside, samePage, same tested samePage]
    · simp [equal]
  counts := by
    intro frame
    have moved := mappings_setSpace found changed frame
    have exchanged :
        changed.mappings frame + mapsTo (space.get? page) frame =
          space.mappings frame + mapsTo (changed.get? page) frame :=
      countValues_exchange same
    simp only [mappings, setSpace, spaces, ← present] at moved ⊢
    omega

theorem exchanges_put (present : space.get? page = before)
    (spaces : next.spaces = state.spaces.set index (space.put page leaf)) :
    Exchanges state next index page before (some leaf) := by
  have exchanged := exchanges_set found present spaces fun tested different => by
    simp [different]
  simpa using exchanged

theorem exchanges_erase (present : space.get? page = before)
    (spaces : next.spaces = state.spaces.set index (space.erase page)) :
    Exchanges state next index page before none := by
  have exchanged := exchanges_set found present spaces fun tested different => by
    simp [different]
  simpa using exchanged

theorem mappings_le (frame : PhysFrame) : space.mappings frame ≤ state.mappings frame := by
  have moved := mappings_setSpace found empty frame
  have none : AddressSpace.mappings empty frame = 0 := rfl
  omega

end Found

theorem mappings_pos_of_leaf?_eq_some (mapped : state.leaf? index page = some leaf) :
    0 < state.mappings leaf.frame := by
  obtain ⟨_, found, present⟩ := Option.bind_eq_some_iff.mp mapped
  exact Nat.lt_of_lt_of_le (mappings_pos_of_get?_eq_some present) (mappings_le found leaf.frame)

theorem two_le_mappings {other : Nat} {page otherPage : Page} {leaf otherLeaf : Leaf}
    (different : index ≠ other ∨ page ≠ otherPage) (mapped : state.leaf? index page = some leaf)
    (otherMapped : state.leaf? other otherPage = some otherLeaf)
    (sameFrame : otherLeaf.frame = leaf.frame) :
    2 ≤ state.mappings leaf.frame := by
  obtain ⟨space, found, present⟩ := Option.bind_eq_some_iff.mp mapped
  have erased :
      Exchanges state (state.setSpace index (space.erase page)) index page (some leaf) none :=
    exchanges_erase found present rfl
  have stillMapped :
      (state.setSpace index (space.erase page)).leaf? other otherPage = some otherLeaf := by
    rw [erased.lookup, if_neg (not_and_or.mpr different), otherMapped]
  have positive := mappings_pos_of_leaf?_eq_some stillMapped
  have count := erased.counts leaf.frame
  rw [mapsTo_some, if_pos rfl, mapsTo_none] at count
  rw [sameFrame] at positive
  omega

end Observations

/-! ## Splitting a write fault into its outcomes -/

/-- The flags a resolved write fault leaves behind. -/
def resolvedFlags (flags : PageTableFlags) : PageTableFlags :=
  (flags.remove PageTableFlags.COPY_ON_WRITE).insert PageTableFlags.WRITABLE

theorem resolvedFlags_eq (flags : PageTableFlags) :
    resolvedFlags flags = { flags with copyOnWrite := false, writable := true } := by
  simp [resolvedFlags, PageTableFlags.insert, PageTableFlags.remove,
    PageTableFlags.zipWith, PageTableFlags.COPY_ON_WRITE, PageTableFlags.WRITABLE]

theorem resolvedFlags_present {flags : PageTableFlags} (isPresent : flags.present = true) :
    (resolvedFlags flags).present = true := by
  rw [resolvedFlags_eq]
  exact isPresent

variable {frames : List SharedUserFrame}

/-- The release of a frame that has an entry never reports the last
mapping, so the rollback of a split is not reached. -/
theorem releaseUserFrame_of_sharedUserFrame
    {frame : PhysFrame} (shared : sharedUserFrame frames frame = true) :
    (releaseUserFrame frames frame).1 = false := by
  rcases releaseUserFrame_cases frames frame with
    ⟨absent, _⟩ | ⟨_, _, _, _, _, released⟩
  · have unrecorded := sharedUserFrame_eq_false_iff.mpr absent
    rw [unrecorded] at shared
    cases shared
  · rw [released]

/-- A write fault does nothing, splits a shared frame, or makes the only
mapping writable. -/
theorem resolveCowFault_cases (space : AddressSpace) (frames : List SharedUserFrame) (page : Page)
    (destination : Option PhysFrame) :
    (∃ outcome,
      Mm.resolveCowFault space frames page destination =
        { space := space, frames := frames, outcome := outcome }) ∨
      ∃ leaf, space.get? page = some leaf ∧
        leaf.flags.user = true ∧ leaf.flags.copyOnWrite = true ∧ leaf.flags.writable = false ∧
        ((∃ target,
          destination = some target ∧
            sharedUserFrame frames leaf.frame = true ∧
            Mm.resolveCowFault space frames page destination =
              { space :=
                  space.put page
                    ⟨target, resolvedFlags leaf.flags, resolvedFlags_present leaf.isPresent⟩
                frames := (releaseUserFrame frames leaf.frame).2
                allocated := some target
                copied := some (leaf.frame, target)
                outcome := .ok true }) ∨
          (sharedUserFrame frames leaf.frame = false ∧
            Mm.resolveCowFault space frames page destination =
              { space :=
                  space.put page
                    ⟨leaf.frame, resolvedFlags leaf.flags, resolvedFlags_present leaf.isPresent⟩
                frames := frames
                outcome := .ok true })) := by
  have usable :
      ∀ {flags : PageTableFlags},
        ¬(!flags.contains (PageTableFlags.PRESENT.insert PageTableFlags.USER) ||
            !flags.contains PageTableFlags.COPY_ON_WRITE ||
            flags.contains PageTableFlags.WRITABLE) = true →
          flags.user = true ∧ flags.copyOnWrite = true ∧ flags.writable = false := by
    intro flags
    simp
    tauto
  fun_cases Mm.resolveCowFault space frames page destination with
  | case1 | case2 | case3 => exact Or.inl ⟨_, rfl⟩
  | case4 leaf found flags checked source _ shared target _ last =>
    rw [releaseUserFrame_of_sharedUserFrame shared] at last
    cases last
  | case5 leaf found flags checked source _ shared target =>
    obtain ⟨isUser, marked, readOnly⟩ := usable checked
    have stored : space.setLeaf page target (resolvedFlags leaf.flags) = _ :=
      setLeaf_of_present (resolvedFlags_present leaf.isPresent)
    exact Or.inr ⟨leaf, found, isUser, marked, readOnly, Or.inl ⟨target, rfl, shared, stored ▸ rfl⟩⟩
  | case6 _ leaf found flags checked source _ alone =>
    obtain ⟨isUser, marked, readOnly⟩ := usable checked
    have stored : space.setLeaf page leaf.frame (resolvedFlags leaf.flags) = _ :=
      setLeaf_of_present (resolvedFlags_present leaf.isPresent)
    exact Or.inr ⟨leaf, found, isUser, marked, readOnly,
      Or.inr ⟨Bool.eq_false_iff.mpr alone, stored ▸ rfl⟩⟩

/-! ## The shapes of the next state -/

/-- Every state that an operation can lead to.  A failed fork restores the
spaces, and also the shared-frame table when its counts are in range. -/
inductive Effect (state : VmState) : VmOp → VmState → Prop where
  | rejected (op : VmOp) : Effect state op state
  | created : Effect state .newEmpty { state with spaces := state.spaces ++ [empty] }
  | mapFailed {index page frame protection tables} :
      Effect state (.mapUser index page frame protection tables)
        ((state.allocateZeroed frame).log (.deallocate frame))
  | mapped {index page protection tables} {space : AddressSpace} (leaf : Leaf)
      (found : state.spaces[index]? = some space) (missing : space.get? page = none)
      (flags : leaf.flags = (pageFlags protection).insert PageTableFlags.PRESENT) :
      Effect state (.mapUser index page leaf.frame protection tables)
        (((state.allocateZeroed leaf.frame).setSpace index
          (space.put page leaf)).setRequest index page none)
  | protectionChanged {index page protection} {space : AddressSpace} {leaf changed : Leaf}
      (found : state.spaces[index]? = some space) (present : space.get? page = some leaf)
      (sameFrame : changed.frame = leaf.frame)
      (flags : changed.flags = protectedFlags leaf.flags (pageFlags protection)) :
      Effect state (.protectUser index page protection)
        ((state.setSpace index (space.put page changed)).setRequest index page (some protection))
  | forkFailed {index root grants frames}
      (kept : WellCounted state.frames → frames = state.frames) :
      Effect state (.fork index root grants) { state with frames := frames }
  | forked {index root grants} {space : AddressSpace} {frames}
      (found : state.spaces[index]? = some space)
      (counted : ∀ count : PhysFrame → Nat, (∀ frame, space.mappings frame ≤ count frame) →
        Represents state.frames count →
          Represents frames fun frame => count frame + space.mappings frame) :
      Effect state (.fork index root grants)
        { state with
          spaces :=
            state.spaces.set index (space.mapValues Leaf.shared) ++ [space.mapValues Leaf.shared]
          frames := frames
          requests := Function.update state.requests state.spaces.length (state.requests index) }
  | split {index page} {space : AddressSpace} {leaf : Leaf} (changed : Leaf)
      (found : state.spaces[index]? = some space) (present : space.get? page = some leaf)
      (marked : leaf.flags.copyOnWrite = true)
      (shared : sharedUserFrame state.frames leaf.frame = true)
      (flags : changed.flags = resolvedFlags leaf.flags) :
      Effect state (.resolveCowFault index page (some changed.frame))
        { state.setSpace index (space.put page changed) with
          frames := (releaseUserFrame state.frames leaf.frame).2
          memory := Function.update state.memory changed.frame (state.memory leaf.frame)
          events := state.events ++ [.allocate changed.frame] }
  | reclaimed {index page destination} {space : AddressSpace} {leaf changed : Leaf}
      (found : state.spaces[index]? = some space) (present : space.get? page = some leaf)
      (marked : leaf.flags.copyOnWrite = true)
      (alone : sharedUserFrame state.frames leaf.frame = false)
      (sameFrame : changed.frame = leaf.frame) (flags : changed.flags = resolvedFlags leaf.flags) :
      Effect state (.resolveCowFault index page destination)
        (state.setSpace index (space.put page changed))
  | unmapped {index page} {space : AddressSpace} {leaf}
      (found : state.spaces[index]? = some space) (present : space.get? page = some leaf) :
      Effect state (.unmap index page false)
        ((state.setSpace index (space.erase page)).setRequest index page none)
  | released {index page} {space : AddressSpace} {leaf}
      (found : state.spaces[index]? = some space) (present : space.get? page = some leaf) :
      Effect state (.unmap index page true)
        { (state.setSpace index (space.erase page)).setRequest index page none with
          frames := (releaseUserFrame state.frames leaf.frame).2
          events := state.events ++
            if (releaseUserFrame state.frames leaf.frame).1 then [.deallocate leaf.frame]
            else [] }
  | stored {index page offset value} (memory : PhysFrame → Nat → UInt8) :
      Effect state (.store index page offset value) { state with memory := memory }

section Step

variable (state : VmState) (index : Nat) (page : Page)

theorem effect_mapUser (frame : PhysFrame) (protection : VmProtection) (tables : Bool) :
    Effect state (.mapUser index page frame protection tables)
      (state.mapUser index page frame protection tables) := by
  fun_cases mapUser with
  | case1 => exact .rejected _
  | case2 _ found _ mapped outcome =>
    obtain ⟨missing, isPresent, rfl⟩ := mapUser_eq_ok outcome
    exact .mapped
      ⟨frame, (pageFlags protection).insert PageTableFlags.PRESENT, isPresent⟩ found missing rfl
  | case3 => exact .mapFailed

theorem effect_protectUser (protection : VmProtection) :
    Effect state (.protectUser index page protection)
      (state.protectUser index page protection) := by
  fun_cases protectUser with
  | case2 _ found _ outcome =>
    obtain ⟨_, _, present, _, _, rfl⟩ := protectUser_eq_ok outcome
    exact .protectionChanged found present rfl rfl
  | _ => exact .rejected _

theorem effect_fork (root : Bool) (grants : List CloneGrants) :
    Effect state (.fork index root grants) (state.fork index root grants) := by
  fun_cases fork with
  | case1 => exact .rejected _
  | case2 space found result updated _ outcome =>
    obtain ⟨parentEq, rfl, counted⟩ := fork_child_eq_ok outcome
    subst updated result
    simp only [parentEq]
    exact .forked found counted
  | case3 space found result updated _ outcome =>
    obtain ⟨sameParent, kept⟩ := fork_child_eq_error outcome
    subst updated result
    simp only [sameParent, setSpace_self found]
    exact .forkFailed kept

theorem effect_resolveCowFault (destination : Option PhysFrame) :
    Effect state (.resolveCowFault index page destination)
      (state.resolveCowFault index page destination) := by
  fun_cases resolveCowFault with
  | case1 => exact .rejected _
  | case2 space found result changed =>
    subst changed result
    rcases resolveCowFault_cases space state.frames page destination with
      ⟨outcome, result⟩ |
      ⟨leaf, present, _, marked, _, ⟨target, rfl, shared, result⟩ | ⟨alone, result⟩⟩
    · simp only [result, setSpace_self found, Option.map_none, Option.toList_none, List.append_nil]
      exact .rejected _
    · simp only [result, Option.map_some, Option.toList_some,
        Option.map_none, Option.toList_none, List.append_nil]
      exact .split
        ⟨target, resolvedFlags leaf.flags, resolvedFlags_present leaf.isPresent⟩
        found present marked shared rfl
    · simp only [result, Option.map_none, Option.toList_none, List.append_nil]
      exact .reclaimed found present marked alone rfl rfl

theorem effect_unmap (release : Bool) :
    Effect state (.unmap index page release) (state.unmap index page release) := by
  fun_cases unmap with
  | case1 | case2 => exact .rejected _
  | case3 space found frame rest outcome unmapped released result updated last
  | case4 space found frame rest outcome unmapped released result updated last =>
    obtain ⟨leaf, present, rfl, rfl⟩ := unmap_eq_ok outcome
    subst updated result unmapped released
    have shape := Effect.released found present
    simpa [last, log, setSpace, setRequest] using shape
  | case5 space found frame rest outcome _ kept =>
    obtain ⟨leaf, present, rfl, rfl⟩ := unmap_eq_ok outcome
    rw [Bool.eq_false_iff.mpr kept]
    exact .unmapped found present

/-- Every operation has one of the effects. -/
theorem effect_step (op : VmOp) : Effect state op (state.step op) := by
  cases op with
  | newEmpty => exact .created
  | mapUser index page frame protection tables =>
    exact effect_mapUser state index page frame protection tables
  | protectUser index page protection => exact effect_protectUser state index page protection
  | fork index root grants => exact effect_fork state index root grants
  | resolveCowFault index page destination =>
    exact effect_resolveCowFault state index page destination
  | unmap index page release => exact effect_unmap state index page release
  | store index page =>
    simp only [step]
    fun_cases store with
    | case2 => exact .stored _
    | _ => exact .rejected _

/-- The state after a successful fork, whatever the table and the requests
are then. -/
abbrev forkedState (space : AddressSpace) (frames : List SharedUserFrame)
    (requests : Nat → Page → Option VmProtection) : VmState :=
  { state with
    spaces := state.spaces.set index (space.mapValues Leaf.shared) ++ [space.mapValues Leaf.shared]
    frames := frames
    requests := requests }

end Step

@[simp]
theorem leaf?_created (state : VmState) (index : Nat) (page : Page) :
    leaf?
        { state with spaces := state.spaces ++ [empty] }
        index page =
      state.leaf? index page := by
  simp only [leaf?]
  by_cases inside : index < state.spaces.length
  · rw [List.getElem?_append_left inside]
  · have outside : state.spaces[index]? = none := List.getElem?_eq_none (by omega)
    rw [List.getElem?_append_right (by omega), outside]
    cases position : index - state.spaces.length with
    | zero => rfl
    | succ => rfl

@[simp]
theorem mappings_created (state : VmState) (frame : PhysFrame) :
    mappings { state with spaces := state.spaces ++ [empty] } frame = state.mappings frame := by
  simp only [mappings, List.map_append, List.map_cons, List.map_nil,
    List.sum_append, List.sum_cons, List.sum_nil]
  rfl

variable {requests : Nat → Page → Option VmProtection} {space : AddressSpace}

theorem leaf?_forked {state : VmState} {index : Nat}
    (found : state.spaces[index]? = some space) (other : Nat) (page : Page) :
    (state.forkedState index space frames requests).leaf? other page =
      if other = index ∨ other = state.spaces.length then (state.leaf? index page).map Leaf.shared
      else state.leaf? other page := by
  obtain ⟨inside, _⟩ := List.getElem?_eq_some_iff.mp found
  rw [leaf?_of_getElem? found]
  simp only [leaf?]
  by_cases sameSpace : other = index
  · subst sameSpace
    rw [List.getElem?_append_left (by simpa using inside)]
    simp [inside]
  · by_cases child : other = state.spaces.length
    · subst child
      simp
    · rw [if_neg (by simp [sameSpace, child])]
      by_cases before : other < state.spaces.length
      · rw [List.getElem?_append_left (by simpa using before)]
        simp [Ne.symm sameSpace]
      · rw [List.getElem?_eq_none (by simp; omega), List.getElem?_eq_none (by omega)]

theorem mappings_forked {state : VmState} {index : Nat}
    (found : state.spaces[index]? = some space) (frame : PhysFrame) :
    (state.forkedState index space frames requests).mappings frame =
      state.mappings frame + space.mappings frame := by
  have replaced :
      (state.setSpace index (space.mapValues Leaf.shared)).mappings frame + space.mappings frame =
        state.mappings frame + AddressSpace.mappings (space.mapValues Leaf.shared) frame :=
    mappings_setSpace found _ frame
  rw [mappings_mapValues_shared] at replaced
  simp only [mappings, setSpace] at replaced
  simp only [mappings, List.map_append, List.map_cons, List.map_nil,
    List.sum_append, List.sum_cons, List.sum_nil, mappings_mapValues_shared]
  omega

end VmState

end Xenith.Mm
