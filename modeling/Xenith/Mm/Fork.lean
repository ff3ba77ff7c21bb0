import Xenith.Mm.CopyOnWrite
import Xenith.Mm.SharedFrames

/-!
# Fork clones every leaf or changes nothing

A failed fork undoes exactly the part of the loop that was done, whatever
allocation failed and at whatever page.
-/

namespace Xenith.Mm

open AddressSpace
open SortedMap
open PageTableFlags

/-- The form a leaf takes in both spaces after a fork. -/
def Leaf.shared (leaf : Leaf) : Leaf where
  frame := leaf.frame
  flags := cowSharedFlags leaf.flags
  isPresent := by
    rw [cowSharedFlags_present]
    exact leaf.isPresent

@[simp]
theorem Leaf.shared_flags (leaf : Leaf) : leaf.shared.flags = cowSharedFlags leaf.flags :=
  rfl

theorem Leaf.shared_of_unchanged
    {leaf : Leaf} (unchanged : cowSharedFlags leaf.flags = leaf.flags) :
    leaf.shared = leaf := by
  cases leaf
  simp only [Leaf.shared, Leaf.mk.injEq, true_and]
  exact unchanged

theorem PageTableFlags.insert_PRESENT_of_present
    {flags : PageTableFlags} (isPresent : flags.present = true) :
    flags.insert PRESENT = flags := by
  cases flags
  cases isPresent
  simp [insert, zipWith, PRESENT]

/-- The rollback record of one cloned leaf. -/
def forkMapping (page : Page) (leaf : Leaf) : ForkMapping where
  page := page
  frame := leaf.frame
  parentFlags :=
    if cowSharedFlags leaf.flags ≠ leaf.flags then some leaf.flags
    else none

section OneLeaf

variable {grants : CloneGrants} {state next : CloneState} {page : Page} {leaf : Leaf}

theorem cloneLeaf_eq_none (found : state.parent.get? page = some leaf)
    (done : cloneLeaf grants state page leaf = (next, none)) :
    state.child.get? page = none ∧
      next.parent = state.parent.put page leaf.shared ∧
      next.child = state.child.put page leaf.shared ∧
      retainSharedUserFrame state.frames leaf.frame grants.shared = .ok next.frames ∧
      next.mapped = state.mapped ++ [forkMapping page leaf] := by
  revert done
  fun_cases cloneLeaf with
  | case5 _ _ _ frames retained child mapped =>
    rintro ⟨⟩
    obtain ⟨missing, isPresent, childEq⟩ := mapUser_eq_ok mapped
    have childShared : child = state.child.put page leaf.shared := by
      rw [childEq]
      congr 1
      simp only [Leaf.shared, Leaf.mk.injEq, true_and]
      exact insert_PRESENT_of_present leaf.shared.isPresent
    refine ⟨missing, ?_, childShared, retained, rfl⟩
    by_cases unchanged : cowSharedFlags leaf.flags = leaf.flags
    · rw [if_neg (not_not.mpr unchanged),
        Leaf.shared_of_unchanged unchanged, put_of_get?_eq_some found]
    · rw [if_pos unchanged]
      exact setLeaf_of_present leaf.shared.isPresent
  | _ => rintro ⟨⟩

/-- A failing iteration leaves everything as it found it. -/
theorem cloneLeaf_eq_some
    {error : MapError} (failed : cloneLeaf grants state page leaf = (next, some error)) :
    next.parent = state.parent ∧ next.child = state.child ∧
      next.mapped = state.mapped ∧ (WellCounted state.frames → next.frames = state.frames) := by
  revert failed
  fun_cases cloneLeaf with
  | case4 _ _ _ frames retained =>
    rintro ⟨⟩
    refine ⟨rfl, rfl, rfl, ?_⟩
    intro wellCounted
    exact releaseUserFrame_retainSharedUserFrame wellCounted retained
  | case5 => rintro ⟨⟩
  | _ =>
    rintro ⟨⟩
    exact ⟨rfl, rfl, rfl, fun _ => rfl⟩

theorem rollbackMapping_cloneLeaf (found : state.parent.get? page = some leaf)
    (done : cloneLeaf grants state page leaf = (next, none)) :
    let undone := rollbackMapping next (forkMapping page leaf)
    undone.parent = state.parent ∧ undone.child = state.child ∧
      (WellCounted state.frames → undone.frames = state.frames) := by
  obtain ⟨missing, parentEq, childEq, retained, _⟩ := cloneLeaf_eq_none found done
  refine ⟨?_, ?_, ?_⟩
  · by_cases unchanged : cowSharedFlags leaf.flags = leaf.flags
    · simp only [rollbackMapping, forkMapping, ne_eq, unchanged, not_true_eq_false, if_false]
      rw [parentEq, Leaf.shared_of_unchanged unchanged, put_of_get?_eq_some found]
    · simp only [rollbackMapping, forkMapping, ne_eq, unchanged, not_false_eq_true, if_true]
      rw [parentEq, setLeaf_of_present leaf.isPresent]
      exact put_put_of_get?_eq_some found leaf.shared
  · have mapped : next.child.get? page = some leaf.shared := by
      rw [childEq]
      simp
    simp only [rollbackMapping, forkMapping, unmap, mapped]
    rw [childEq]
    exact erase_put_of_get?_eq_none missing leaf.shared
  · intro wellCounted
    exact releaseUserFrame_retainSharedUserFrame wellCounted retained

end OneLeaf

/-- The leaves still to be visited are the parent's own, each page once. -/
structure Visits (leaves : List (Page × Leaf)) (space : AddressSpace) : Prop where
  distinct : (leaves.map Prod.fst).Nodup
  found : ∀ page leaf, (page, leaf) ∈ leaves → space.get? page = some leaf

theorem Visits.all (space : AddressSpace) : Visits space.entries space where
  distinct := by
    refine List.pairwise_map.mpr (space.sorted.imp ?_)
    intro left right below
    exact Nat.ne_of_lt below
  found := fun _ _ member => get?_eq_some_iff.mpr member

section Visits

variable {page : Page} {leaf : Leaf} {rest : List (Page × Leaf)} {space next : AddressSpace}

variable (visits : Visits ((page, leaf) :: rest) space)

include visits

theorem Visits.head : space.get? page = some leaf :=
  visits.found page leaf (List.mem_cons_self ..)

theorem Visits.head_notMem : page ∉ rest.map Prod.fst :=
  (List.nodup_cons.mp visits.distinct).1

/-- Changing the visited page keeps the leaves of the later ones. -/
theorem Visits.tail (changed : next = space.put page leaf.shared) : Visits rest next where
  distinct := (List.nodup_cons.mp visits.distinct).2
  found := by
    intro other otherLeaf member
    have different : page ≠ other := by
      rintro rfl
      exact visits.head_notMem (List.mem_map.mpr ⟨(page, otherLeaf), member, rfl⟩)
    rw [changed, get?_put, if_neg different]
    exact visits.found other otherLeaf (List.mem_cons_of_mem _ member)

end Visits

section Rollback

/-- Rolling back edits the three components independently of each other. -/
theorem foldl_rollbackMapping_congr (mappings : List ForkMapping) {left right : CloneState}
    (sameParent : left.parent = right.parent) (sameChild : left.child = right.child) :
    (mappings.foldl rollbackMapping left).parent = (mappings.foldl rollbackMapping right).parent ∧
      (mappings.foldl rollbackMapping left).child = (mappings.foldl rollbackMapping right).child ∧
      (left.frames = right.frames → (mappings.foldl rollbackMapping left).frames =
        (mappings.foldl rollbackMapping right).frames) := by
  induction mappings generalizing left right with
  | nil => exact ⟨sameParent, sameChild, fun sameFrames => sameFrames⟩
  | cons mapping _ ih =>
    have nextParent :
        (rollbackMapping left mapping).parent = (rollbackMapping right mapping).parent := by
      simp only [rollbackMapping, sameParent]
    have nextChild :
        (rollbackMapping left mapping).child = (rollbackMapping right mapping).child := by
      simp only [rollbackMapping, sameChild]
    obtain ⟨parentEq, childEq, framesEq⟩ := ih nextParent nextChild
    refine ⟨parentEq, childEq, ?_⟩
    intro sameFrames
    apply framesEq
    simp only [rollbackMapping, sameFrames]

/-- The loop appends rollback records whose reversal undoes it. -/
theorem cloneUserMappings_rollback {leaves : List (Page × Leaf)} {grants : List CloneGrants}
    {state result : CloneState} {outcome : Option MapError} (visits : Visits leaves state.parent)
    (cloned : cloneUserMappings leaves grants state = (result, outcome)) :
    ∃ added, result.mapped = state.mapped ++ added ∧
      let undone := added.reverse.foldl rollbackMapping result
      undone.parent = state.parent ∧ undone.child = state.child ∧
        (WellCounted state.frames → undone.frames = state.frames) := by
  fun_induction cloneUserMappings leaves grants state with
  | case1 =>
    cases cloned
    exact ⟨[], by simp, rfl, rfl, fun _ => rfl⟩
  | case2 page leaf rest grants state next iteration ih =>
    obtain ⟨_, parentEq, _, retained, mappedEq⟩ := cloneLeaf_eq_none visits.head iteration
    obtain ⟨added, addedEq, restParent, restChild, restFrames⟩ := ih (visits.tail parentEq) cloned
    obtain ⟨headParent, headChild, headFrames⟩ := rollbackMapping_cloneLeaf visits.head iteration
    refine ⟨forkMapping page leaf :: added, ?_, ?_⟩
    · rw [addedEq, mappedEq]
      simp
    · simp only [List.reverse_cons, List.foldl_append]
      obtain ⟨lastParent, lastChild, lastFrames⟩ :=
        foldl_rollbackMapping_congr [forkMapping page leaf] restParent restChild
      refine ⟨lastParent.trans headParent, lastChild.trans headChild, ?_⟩
      intro wellCounted
      have nextCounted := retainSharedUserFrame_wellCounted wellCounted retained
      exact (lastFrames (restFrames nextCounted)).trans (headFrames wellCounted)
  | case3 page leaf rest grants state next _ iteration =>
    cases cloned
    obtain ⟨parentEq, childEq, mappedEq, framesEq⟩ := cloneLeaf_eq_some iteration
    exact ⟨[], by simp [mappedEq], parentEq, childEq, framesEq⟩

end Rollback

section Success

variable {leaves : List (Page × Leaf)} {grants : List CloneGrants}

/-- A completed loop puts the shared form of every visited leaf into both
spaces and leaves the other pages alone. -/
theorem cloneUserMappings_eq_none {state result : CloneState} (visits : Visits leaves state.parent)
    (cloned : cloneUserMappings leaves grants state = (result, none)) :
    (∀ page leaf, (page, leaf) ∈ leaves →
      result.parent.get? page = some leaf.shared ∧ result.child.get? page = some leaf.shared) ∧
      ∀ page, page ∉ leaves.map Prod.fst → result.parent.get? page = state.parent.get? page ∧
        result.child.get? page = state.child.get? page := by
  fun_induction cloneUserMappings leaves grants state with
  | case1 =>
    cases cloned
    exact ⟨by simp, fun _ _ => ⟨rfl, rfl⟩⟩
  | case2 page leaf _ grants state _ iteration ih =>
    obtain ⟨_, parentEq, childEq, _, _⟩ := cloneLeaf_eq_none visits.head iteration
    obtain ⟨visited, untouched⟩ := ih (visits.tail parentEq) cloned
    constructor
    · intro other otherLeaf member
      rcases List.mem_cons.mp member with equal | member
      · cases equal
        obtain ⟨parentKept, childKept⟩ := untouched page visits.head_notMem
        rw [parentKept, childKept, parentEq, childEq]
        simp
      · exact visited other otherLeaf member
    · intro other outside
      simp only [List.map_cons, List.mem_cons, not_or] at outside
      obtain ⟨parentKept, childKept⟩ := untouched other outside.2
      rw [parentKept, childKept, parentEq, childEq]
      simp [Ne.symm outside.1]
  | case3 => cases cloned

/-- Every visited leaf retains its frame once. -/
theorem cloneUserMappings_represents
    {state result : CloneState} {count : PhysFrame → Nat} (visits : Visits leaves state.parent)
    (mapped : ∀ page leaf, (page, leaf) ∈ leaves → 0 < count leaf.frame)
    (represents : Represents state.frames count)
    (cloned : cloneUserMappings leaves grants state = (result, none)) :
    Represents result.frames fun frame =>
      count frame + leaves.countP fun entry => decide (entry.2.frame = frame) := by
  fun_induction cloneUserMappings leaves grants state generalizing count with
  | case1 =>
    cases cloned
    exact represents
  | case2 page leaf rest grants state _ iteration ih =>
    have pageMapped := mapped page leaf (List.mem_cons_self ..)
    obtain ⟨_, parentEq, _, retained, _⟩ := cloneLeaf_eq_none visits.head iteration
    have nextMapped :
        ∀ other otherLeaf, (other, otherLeaf) ∈ rest →
          0 < Function.update count leaf.frame (count leaf.frame + 1) otherLeaf.frame := by
      intro other otherLeaf member
      by_cases equal : otherLeaf.frame = leaf.frame
      · rw [equal, Function.update_self]
        omega
      · rw [Function.update_of_ne equal]
        exact mapped other otherLeaf (List.mem_cons_of_mem _ member)
    refine
      (ih (visits.tail parentEq) nextMapped (represents.retain pageMapped retained) cloned).congr ?_
    intro tested
    by_cases equal : tested = leaf.frame
    · subst equal
      simp
      omega
    · rw [Function.update_of_ne equal]
      simp [Ne.symm equal]
  | case3 => cases cloned

end Success

variable {frames : List SharedUserFrame} {grants : List CloneGrants}

/-- A failed fork leaves the parent as it was, and the shared-frame table
too when its counts are in range. -/
theorem fork_child_eq_error {space : AddressSpace} {root : Bool}
    {error : MapError} (failed : (fork space frames root grants).child = .error error) :
    (fork space frames root grants).parent = space ∧
      (WellCounted frames → (fork space frames root grants).frames = frames) := by
  unfold fork at failed ⊢
  split at failed
  · rename_i noRoot
    simp [noRoot]
  · rename_i allocated
    rw [if_neg allocated]
    split at failed
    · cases failed
    · rename_i state failure cloned
      obtain ⟨_, mappedEq, parentEq, _, framesEq⟩ :=
        cloneUserMappings_rollback (Visits.all space) cloned
      simp only [rollbackFork, mappedEq]
      exact ⟨parentEq, framesEq⟩

/-- A successful fork puts the shared form of every leaf into both spaces. -/
theorem fork_child_eq_ok {space child : AddressSpace}
    {root : Bool} (succeeded : (fork space frames root grants).child = .ok child) :
    (fork space frames root grants).parent = space.mapValues Leaf.shared ∧
      child = space.mapValues Leaf.shared ∧
      ∀ count : PhysFrame → Nat, (∀ frame, space.mappings frame ≤ count frame) →
        Represents frames count → Represents (fork space frames root grants).frames
          fun frame => count frame + space.mappings frame := by
  unfold fork at succeeded ⊢
  split at succeeded
  · cases succeeded
  · rename_i allocated
    rw [if_neg allocated]
    split at succeeded
    · rename_i state cloned
      obtain ⟨visited, untouched⟩ := cloneUserMappings_eq_none (Visits.all space) cloned
      have lookups :
          ∀ page, state.parent.get? page = (space.get? page).map Leaf.shared ∧
            state.child.get? page = (space.get? page).map Leaf.shared := by
        intro page
        cases present : space.get? page with
        | some leaf => exact visited page leaf (get?_eq_some_iff.mp present)
        | none =>
          have outside : page ∉ space.entries.map Prod.fst := by
            intro member
            obtain ⟨⟨other, leaf⟩, entryMember, rfl⟩ := List.mem_map.mp member
            have contradiction := (Visits.all space).found other leaf entryMember
            rw [present] at contradiction
            cases contradiction
          obtain ⟨parentKept, childKept⟩ := untouched page outside
          rw [parentKept, childKept, present]
          exact ⟨rfl, rfl⟩
      simp only [Except.ok.injEq] at succeeded
      subst succeeded
      refine ⟨?_, ?_, ?_⟩
      · apply ext_get?
        intro page
        rw [get?_mapValues]
        exact (lookups page).1
      · apply ext_get?
        intro page
        rw [get?_mapValues]
        exact (lookups page).2
      · intro count bounded represents
        refine cloneUserMappings_represents (Visits.all space) ?_ represents cloned
        intro page leaf member
        have counted : 0 < space.mappings leaf.frame := countValues_pos_of_get?_eq_some
          ((Visits.all space).found page leaf member) (decide_eq_true rfl)
        exact Nat.lt_of_lt_of_le counted (bounded leaf.frame)
    · cases succeeded

end Xenith.Mm
