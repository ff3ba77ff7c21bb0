import Xenith.Lib.Execution
import Xenith.Mm.VmEffect

/-!
# No page is both writable and executable

A marked leaf is never executable as long as no request takes the writable
permission away from it.  `protectUser` retains the marker whatever is
requested, and the write fault grants the writable permission from the marker
alone.
-/

namespace Xenith.Mm

open AddressSpace
open Function
open Execution

namespace VmProtection

/-- What the system calls admit. -/
def Admitted (protection : VmProtection) : Prop :=
  ¬(protection.writable = true ∧ protection.executable = true)

instance (protection : VmProtection) : Decidable protection.Admitted :=
  inferInstanceAs (Decidable (¬_))

end VmProtection

/-- The permissions named by an operation are admitted ones. -/
def VmOp.Admitted : VmOp → Prop
  | .mapUser _ _ _ protection _ => protection.Admitted
  | .protectUser _ _ protection => protection.Admitted
  | _ => True

instance : DecidablePred VmOp.Admitted
  | .mapUser _ _ _ protection _ => inferInstanceAs (Decidable protection.Admitted)
  | .protectUser _ _ protection => inferInstanceAs (Decidable protection.Admitted)
  | .newEmpty | .fork .. | .resolveCowFault .. | .unmap .. | .store .. => isTrue trivial

namespace VmState

def WriteXorExecute (state : VmState) : Prop :=
  ∀ index page leaf, state.leaf? index page = some leaf → ¬leaf.flags.WritableExecutable

/-- No request takes the writable permission away from a marked leaf. -/
def KeepsMarkedWritable (state : VmState) : VmOp → Prop
  | .protectUser index page protection =>
    protection.writable = false → ∀ leaf ∈ state.leaf? index page, leaf.flags.copyOnWrite = false
  | _ => True

instance (state : VmState) : DecidablePred state.KeepsMarkedWritable
  | .protectUser index page protection =>
    inferInstanceAs (Decidable (protection.writable = false →
      ∀ leaf ∈ state.leaf? index page, leaf.flags.copyOnWrite = false))
  | .newEmpty | .mapUser .. | .fork .. | .resolveCowFault .. | .unmap .. | .store .. =>
    isTrue trivial

/-- A leaf together with the last request for its page. -/
structure LeafSafe (leaf : Leaf) (request : Option VmProtection) : Prop where
  exclusive : ¬leaf.flags.WritableExecutable
  markedData : leaf.flags.copyOnWrite = true → leaf.flags.noExecute = true
  respected : ∀ protection, request = some protection →
    protection.writable = false → leaf.flags.writable = false ∧ leaf.flags.copyOnWrite = false

section Leaves

variable {leaf changed : Leaf} {request : Option VmProtection} {protection : VmProtection}

theorem leafSafe_mapped (admitted : protection.Admitted)
    (flags : leaf.flags = (pageFlags protection).insert PageTableFlags.PRESENT) :
    LeafSafe leaf none := by
  rw [pageFlags_eq] at flags
  refine ⟨?_, ?_, ?_⟩
  · rintro ⟨writable, executable⟩
    rw [flags] at writable executable
    simp only [PageTableFlags.insert, PageTableFlags.zipWith,
      PageTableFlags.PRESENT, Bool.or_false] at writable executable
    exact admitted ⟨writable, by simpa using executable⟩
  · intro marked
    rw [flags] at marked
    cases marked
  · intro protection impossible
    cases impossible

theorem leafSafe_protected (admitted : protection.Admitted)
    (keeps : protection.writable = false → leaf.flags.copyOnWrite = false)
    (flags : changed.flags = protectedFlags leaf.flags (pageFlags protection)) :
    LeafSafe changed (some protection) := by
  have writableEq : changed.flags.writable = (protection.writable && !leaf.flags.copyOnWrite) := by
    rw [flags, protectedFlags_writable, pageFlags_eq]
  have markedEq : changed.flags.copyOnWrite = leaf.flags.copyOnWrite := by
    rw [flags, protectedFlags_copyOnWrite, pageFlags_eq]
    rfl
  have noExecuteEq : changed.flags.noExecute = !protection.executable := by
    rw [flags, protectedFlags_noExecute, pageFlags_eq]
  refine ⟨?_, ?_, ?_⟩
  · rintro ⟨writable, executable⟩
    rw [writableEq, Bool.and_eq_true] at writable
    rw [noExecuteEq, Bool.not_eq_false'] at executable
    exact admitted ⟨writable.1, executable⟩
  · intro marked
    rw [markedEq] at marked
    rw [noExecuteEq]
    cases requested : protection.writable with
    | false =>
      rw [keeps requested] at marked
      cases marked
    | true =>
      rw [Bool.not_eq_true']
      exact Bool.eq_false_iff.mpr fun executable => admitted ⟨requested, executable⟩
  · intro other same readOnly
    cases same
    rw [writableEq, markedEq, readOnly]
    exact ⟨rfl, keeps readOnly⟩

theorem leafSafe_shared (safe : LeafSafe leaf request) : LeafSafe leaf.shared request := by
  refine ⟨?_, ?_, ?_⟩
  · rintro ⟨writable, _⟩
    rw [Leaf.shared_flags, cowSharedFlags_writable] at writable
    cases writable
  · intro marked
    rw [Leaf.shared_flags, cowSharedFlags_copyOnWrite, Bool.or_eq_true] at marked
    rw [Leaf.shared_flags, cowSharedFlags_noExecute]
    rcases marked with marked | writable
    · exact safe.markedData marked
    · by_contra executable
      exact safe.exclusive ⟨writable, Bool.eq_false_iff.mpr executable⟩
  · intro protection requested readOnly
    obtain ⟨notWritable, notMarked⟩ := safe.respected protection requested readOnly
    rw [Leaf.shared_flags, cowSharedFlags_writable,
      cowSharedFlags_copyOnWrite, notWritable, notMarked]
    exact ⟨rfl, rfl⟩

theorem leafSafe_resolved (safe : LeafSafe leaf request) (marked : leaf.flags.copyOnWrite = true)
    (flags : changed.flags = resolvedFlags leaf.flags) :
    LeafSafe changed request := by
  rw [resolvedFlags_eq] at flags
  refine ⟨?_, ?_, ?_⟩
  · rintro ⟨_, executable⟩
    rw [flags] at executable
    simp only [safe.markedData marked, Bool.true_eq_false] at executable
  · intro stillMarked
    rw [flags] at stillMarked
    cases stillMarked
  · intro protection requested readOnly
    have unmarked := (safe.respected protection requested readOnly).2
    rw [marked] at unmarked
    cases unmarked

end Leaves

def Safe (state : VmState) : Prop :=
  ∀ index page leaf, state.leaf? index page = some leaf → LeafSafe leaf (state.requests index page)

/-- The entry of a page is exchanged, with the request for it. -/
theorem Safe.exchange {state next : VmState} {index : Nat} {page : Page}
    {before after : Option Leaf} (safe : state.Safe)
    (exchanges : Exchanges state next index page before after)
    (leafSafe : ∀ leaf ∈ after, LeafSafe leaf (next.requests index page))
    (requests : ∀ other tested, ¬(index = other ∧ page = tested) →
      next.requests other tested = state.requests other tested) :
    next.Safe := by
  intro other tested otherLeaf mapped
  rw [exchanges.lookup] at mapped
  by_cases same : index = other ∧ page = tested
  · rw [if_pos same] at mapped
    obtain ⟨rfl, rfl⟩ := same
    exact leafSafe otherLeaf mapped
  · rw [if_neg same] at mapped
    rw [requests other tested same]
    exact safe other tested otherLeaf mapped

@[simp]
theorem requests_setRequest_same
    (state : VmState) (index : Nat) (page : Page) (request : Option VmProtection) :
    (state.setRequest index page request).requests index page = request := by
  simp [setRequest]

theorem requests_setRequest_other
    (state : VmState) {index other : Nat} {page tested : Page} (request : Option VmProtection)
    (different : ¬(index = other ∧ page = tested)) :
    (state.setRequest index page request).requests other tested = state.requests other tested := by
  simp only [setRequest]
  by_cases sameSpace : other = index
  · subst sameSpace
    have pageDiffers : tested ≠ page := fun same => different ⟨rfl, same.symm⟩
    rw [update_self, update_of_ne pageDiffers]
  · rw [update_of_ne sameSpace]

theorem Safe.forked {state : VmState} {index : Nat} {space : AddressSpace}
    {frames : List SharedUserFrame} (safe : state.Safe)
    (found : state.spaces[index]? = some space) :
    (state.forkedState index space frames
      (update state.requests state.spaces.length (state.requests index))).Safe := by
  intro other page leaf mapped
  rw [leaf?_forked found] at mapped
  obtain ⟨inside, _⟩ := List.getElem?_eq_some_iff.mp found
  by_cases either : other = index ∨ other = state.spaces.length
  · rw [if_pos either] at mapped
    obtain ⟨before, parentMapped, rfl⟩ := Option.map_eq_some_iff.mp mapped
    have sameRequests :
        update state.requests state.spaces.length (state.requests index) other =
          state.requests index := by
      rcases either with rfl | rfl
      · exact update_of_ne (Nat.ne_of_lt inside) _ _
      · exact update_self ..
    simp only [sameRequests]
    exact leafSafe_shared (safe index page before parentMapped)
  · rw [if_neg either] at mapped
    have requestsKept :
        update state.requests state.spaces.length (state.requests index) other =
          state.requests other :=
      update_of_ne (fun child => either (Or.inr child)) _ _
    simp only [requestsKept]
    exact safe other page leaf mapped

theorem Safe.step {state next : VmState} {op : VmOp} (safe : state.Safe)
    (admitted : op.Admitted) (keeps : state.KeepsMarkedWritable op)
    (effect : Effect state op next) : next.Safe := by
  cases effect with
  | rejected op => exact safe
  | created =>
    intro index page leaf mapped
    rw [leaf?_created] at mapped
    exact safe index page leaf mapped
  | mapFailed => exact safe
  | mapped leaf found missing flags =>
    refine safe.exchange (exchanges_put found missing rfl) ?_ ?_
    · rintro _ ⟨⟩
      rw [requests_setRequest_same]
      exact leafSafe_mapped admitted flags
    · intro other tested different
      exact requests_setRequest_other _ _ different
  | protectionChanged found present _ flags =>
    have mappedBefore := leaf?_eq_some found present
    refine safe.exchange (exchanges_put found present rfl) ?_ ?_
    · rintro _ ⟨⟩
      rw [requests_setRequest_same]
      exact leafSafe_protected admitted (fun readOnly => keeps readOnly _ mappedBefore) flags
    · intro other tested different
      exact requests_setRequest_other _ _ different
  | forkFailed => exact safe
  | forked found => exact safe.forked found
  | split _ found present marked _ flags
  | reclaimed found present marked _ _ flags =>
    have leafSafe := safe _ _ _ (leaf?_eq_some found present)
    refine safe.exchange (exchanges_put found present rfl) ?_ ?_
    · rintro _ ⟨⟩
      exact leafSafe_resolved leafSafe marked flags
    · exact fun _ _ _ => rfl
  | unmapped found present
  | released found present =>
    refine safe.exchange (exchanges_erase found present rfl) ?_ ?_
    · rintro _ ⟨⟩
    · intro other tested different
      exact requests_setRequest_other state _ different
  | stored => exact safe

/-- If no request takes the writable permission from a marked leaf, then no
run reaches a page that is both writable and executable, and a write fault
never makes a page writable whose last request was read-only. -/
theorem writeXorExecute_of_keepsMarkedWritable
    {start final : VmState} {ops : List VmOp} (initially : start.WriteXorExecute)
    (markedData : ∀ index page leaf, start.leaf? index page = some leaf →
      leaf.flags.copyOnWrite = true → leaf.flags.noExecute = true)
    (unrequested : ∀ index page, start.requests index page = none)
    (admitted : ∀ op ∈ ops, op.Admitted) (keeps : Guarded transition KeepsMarkedWritable start ops)
    (reached : exec transition start ops = some final) :
    final.WriteXorExecute ∧ ∀ index page protection destination leaf,
      final.requests index page = some protection → protection.writable = false → (final.step
          (.resolveCowFault index page destination)).leaf? index page = some leaf →
        leaf.flags.writable = false := by
  have startSafe : start.Safe := by
    intro index page leaf mapped
    refine ⟨initially index page leaf mapped, markedData index page leaf mapped, ?_⟩
    intro protection requested
    rw [unrequested index page] at requested
    cases requested
  have finalSafe : final.Safe := by
    refine invariant_of_guarded ?_ startSafe ((Guarded.of_labels admitted).and keeps) reached
    intro state op next safe guarded taken
    cases taken
    exact safe.step guarded.1 guarded.2 (effect_step state op)
  refine ⟨?_, ?_⟩
  · intro index page leaf mapped
    exact (finalSafe index page leaf mapped).exclusive
  · intro index page protection destination leaf requested readOnly mapped
    have nextSafe : (final.step (.resolveCowFault index page destination)).Safe := by
      refine finalSafe.step ?_ ?_ (effect_step final _) <;> trivial
    have leafSafe := nextSafe index page leaf mapped
    have sameRequests :
        (final.resolveCowFault index page destination).requests = final.requests := by
      fun_cases VmState.resolveCowFault <;> rfl
    have stillRequested :
        (final.step (.resolveCowFault index page destination)).requests index page =
          some protection := by
      change (final.resolveCowFault index page destination).requests index page = some protection
      rw [sameRequests, requested]
    exact (leafSafe.respected protection stillRequested readOnly).1

/-- A data page shared by a fork, split by a write, and made executable in
the child only after the marker is gone there. -/
def dataPageRun : List VmOp :=
  [.newEmpty,
    .mapUser 0 3 7 { writable := true, executable := false } true, .fork 0 true [],
    .resolveCowFault 0 3 (some 8), .resolveCowFault 1 3 none,
    .protectUser 1 3 { writable := false, executable := true }]

theorem dataPageRun_writeXorExecute :
    ∃ final, exec transition initial dataPageRun = some final ∧ final.WriteXorExecute ∧
      ((final.leaf? 0 3).map fun leaf => leaf.flags.writable) = some true := by
  refine ⟨_, rfl, ?_, by decide⟩
  have reached : exec transition initial dataPageRun = some _ := rfl
  refine (writeXorExecute_of_keepsMarkedWritable ?_ ?_ ?_ (by decide) ?_ reached).1
  · intro index page leaf mapped
    cases mapped
  · intro index page leaf mapped
    cases mapped
  · intro index page
    rfl
  · decide

/-- The same page made executable while it is still marked. -/
def markedPageRun : List VmOp :=
  [.newEmpty,
    .mapUser 0 3 7 { writable := true, executable := false } true, .fork 0 true [],
    .protectUser 0 3 { writable := false, executable := true }, .resolveCowFault 0 3 (some 8)]

/-- The write fault then makes the page writable and executable, although
the last request for it was read-only. -/
theorem markedPageRun_writableExecutable :
    ∃ final leaf, (∀ op ∈ markedPageRun, op.Admitted) ∧
      exec transition initial markedPageRun = some final ∧ final.leaf? 0 3 = some leaf ∧
        leaf.flags.WritableExecutable ∧
          final.requests 0 3 = some { writable := false, executable := true } :=
  ⟨_, _, by decide, rfl, rfl, by decide, rfl⟩

end VmState

end Xenith.Mm
