import Xenith.Lib.Dyadic
import Xenith.Mm.Physical.Buddy

/-!
# The free lists of the buddy allocator

What the list operations and the splitting, merging and seeding loops do to the
maximal free runs.
-/

namespace Xenith.Mm.Physical

open Xenith.Dyadic
open Run

variable {frames rest : List Nat} {capacity : Nat}

namespace FreeList

theorem push_eq_ok (room : frames.length < capacity)
    (frame : Nat) : push capacity frames frame = .ok (frames ++ [frame]) :=
  if_pos room

variable {frame : Nat}

theorem pop_eq_some (popped : pop frames = some (frame, rest)) : frames = rest ++ [frame] := by
  obtain ⟨last, lastEq, pairEq⟩ := Option.map_eq_some_iff.mp popped
  obtain ⟨rfl, rfl⟩ := Prod.mk.inj pairEq
  exact (List.dropLast_append_getLast? last lastEq).symm

theorem pop_ne_none (nonempty : frames ≠ []) : pop frames ≠ none := by
  simp [pop, nonempty]

theorem remove_eq_none (missing : remove frames frame = none) : frame ∉ frames := by
  intro member
  have found := Option.map_eq_none_iff.mp missing
  rw [List.findIdx?_eq_none_iff] at found
  have different := found frame member
  simp at different

theorem remove_eq_some (removed : remove frames frame = some rest) :
    frames.Perm (frame :: rest) := by
  obtain ⟨_, found, rfl⟩ := Option.map_eq_some_iff.mp removed
  obtain ⟨front, item, back, rfl, rfl, matched, _⟩ := ListEdit.split_of_findIdx?_eq_some found
  have equal : item = frame := by simpa using matched
  subst equal
  refine List.perm_middle.trans (List.Perm.cons item ?_)
  exact (ListEdit.swapRemove_append_cons_perm front back item).symm

end FreeList

namespace BuddyAllocator

/-- The lists hold exactly the starts of the wanted runs, each once. -/
structure Lists (wanted : Run → Prop) (freeLists : Nat → List Nat) : Prop where
  nodup : ∀ order, (freeLists order).Nodup
  aligned : ∀ order, ∀ start ∈ freeLists order, 2 ^ order ∣ start
  mem_iff : ∀ run : Run, run.start ∈ freeLists run.order ↔ wanted run

variable {order start : Nat}

section Lists

variable {wanted others : Run → Prop} {freeLists : Nat → List Nat} {block : Run}

section Lists

variable (lists : Lists wanted freeLists)

include lists

theorem Lists.congr (same : ∀ run, wanted run ↔ others run) : Lists others freeLists where
  nodup := lists.nodup
  aligned := lists.aligned
  mem_iff := fun run => (lists.mem_iff run).trans (same run)

theorem Lists.wanted_of_mem (member : start ∈ freeLists order) :
    wanted (Run.around order start) ∧ (Run.around order start).start = start := by
  have startEq := start_around (lists.aligned order start member)
  refine ⟨?_, startEq⟩
  apply (lists.mem_iff (Run.around order start)).mp
  rw [startEq]
  exact member

theorem Lists.replace (nodup : frames.Nodup) (aligned : ∀ start ∈ frames, 2 ^ order ∣ start)
    (own : ∀ run : Run, run.order = order → (run.start ∈ frames ↔ others run))
    (kept : ∀ run : Run, run.order ≠ order → (wanted run ↔ others run)) :
    Lists others (withList freeLists order frames) where
  nodup := (Function.forall_update_iff freeLists fun _ => List.Nodup).mpr
    ⟨nodup, fun other _ => lists.nodup other⟩
  aligned := (Function.forall_update_iff freeLists fun order frames =>
    ∀ start ∈ frames, 2 ^ order ∣ start).mpr ⟨aligned, fun other _ => lists.aligned other⟩
  mem_iff := by
    intro run
    by_cases same : run.order = order
    · rw [withList, same, Function.update_self]
      exact own run same
    · rw [withList, Function.update_of_ne same, lists.mem_iff]
      exact kept run same

theorem Lists.push (unwanted : ¬ wanted block) :
    Lists (fun run => wanted run ∨ run = block)
      (withList freeLists block.order (freeLists block.order ++ [block.start])) := by
  refine lists.replace ?_ ?_ ?_ ?_
  · exact ListEdit.nodup_append_singleton (lists.nodup _) (mt (lists.mem_iff block).mp unwanted)
  · exact List.forall_mem_append.mpr
      ⟨lists.aligned _, List.forall_mem_singleton.mpr (Nat.dvd_mul_left _ _)⟩
  · intro run same
    rw [List.mem_append, List.mem_singleton, ← same, lists.mem_iff]
    exact or_congr_right ⟨eq_of_start_eq same, fun equal => equal ▸ rfl⟩
  · intro run different
    refine ⟨Or.inl, ?_⟩
    rintro (isWanted | rfl)
    · exact isWanted
    · exact absurd rfl different

end Lists

theorem Lists.remove (block : Run) (lists : Lists wanted freeLists)
    (split : (freeLists block.order).Perm (block.start :: rest)) :
    Lists (fun run => wanted run ∧ run ≠ block) (withList freeLists block.order rest) := by
  have splitNodup := split.nodup_iff.mp (lists.nodup block.order)
  obtain ⟨fresh, restNodup⟩ := List.nodup_cons.mp splitNodup
  refine lists.replace restNodup ?_ ?_ ?_
  · intro start member
    exact lists.aligned _ start (split.mem_iff.mpr (List.mem_cons_of_mem _ member))
  · intro run same
    have listed := split.mem_iff (a := run.start)
    rw [← same, lists.mem_iff, List.mem_cons] at listed
    rw [listed]
    constructor
    · intro member
      refine ⟨Or.inr member, ?_⟩
      rintro rfl
      exact fresh member
    · rintro ⟨startEq | member, different⟩
      · exact absurd (eq_of_start_eq same startEq) different
      · exact member
  · intro run different
    refine ⟨fun isWanted => ⟨isWanted, ?_⟩, And.left⟩
    rintro rfl
    exact different rfl

/-- A list of distinct starts inside the region has room for one more. -/
theorem Lists.room {managed : Nat} (lists : Lists wanted freeLists)
    (inside : ∀ run, wanted run → run.start < managed)
    (unwanted : ¬ wanted block) (blockInside : block.start < managed) :
    (freeLists block.order).length < managed := by
  have fresh : block.start ∉ freeLists block.order := fun member =>
    unwanted ((lists.mem_iff block).mp member)
  have nodup : (block.start :: freeLists block.order).Nodup :=
    List.nodup_cons.mpr ⟨fresh, lists.nodup block.order⟩
  have inRegion : block.start :: freeLists block.order ⊆ List.range managed := by
    intro start member
    rw [List.mem_range]
    rcases List.mem_cons.mp member with rfl | older
    · exact blockInside
    · obtain ⟨isWanted, startEq⟩ := lists.wanted_of_mem older
      rw [← startEq]
      exact inside _ isWanted
  have bounded := (List.subperm_of_subset nodup inRegion).length_le
  rw [List.length_range] at bounded
  exact bounded

end Lists

/-! ## Splitting -/

theorem start_sibling_around (aligned : 2 ^ order ∣ start) :
    (Run.around order start).sibling.start = start ^^^ 2 ^ order := by
  rw [start_sibling, start_around aligned]
  rfl

variable {freeLists : Nat → List Nat}

/-- The splitting loop lists the siblings of the blocks around the start. -/
theorem splitDown_spec {managed want : Nat} {wanted : Run → Prop}
    (fits : managed ≤ capacity) (aligned : 2 ^ order ∣ start) (lists : Lists wanted freeLists)
    (inside : ∀ run, wanted run → run.start < managed)
    (fresh : ∀ split, want ≤ split → split < order → ¬ wanted (Run.around split start).sibling ∧
      (Run.around split start).sibling.start < managed) :
    ∃ result,
      splitDown capacity start want order freeLists = .ok result ∧
        Lists
          (fun run =>
            wanted run ∨
              ∃ split, want ≤ split ∧ split < order ∧ run = (Run.around split start).sibling)
          result := by
  induction order generalizing wanted freeLists with
  | zero =>
    refine ⟨freeLists, rfl, lists.congr ?_⟩
    simp
  | succ order ih =>
    rw [splitDown]
    by_cases more : want < order + 1
    · have smaller : 2 ^ order ∣ start := (Nat.pow_dvd_pow 2 (Nat.le_succ order)).trans aligned
      obtain ⟨unwanted, blockInside⟩ := fresh order (by omega) (by omega)
      have room : (freeLists order).length < capacity :=
        Nat.lt_of_lt_of_le (lists.room inside unwanted blockInside) fits
      have pushed := lists.push unwanted
      rw [start_sibling_around smaller] at pushed
      have later :
          ∀ split, want ≤ split → split < order → ¬ (wanted (Run.around split start).sibling ∨
              (Run.around split start).sibling = (Run.around order start).sibling) ∧
            (Run.around split start).sibling.start < managed := by
        intro split low high
        obtain ⟨splitUnwanted, splitInside⟩ := fresh split low (by omega)
        refine ⟨?_, splitInside⟩
        rintro (isWanted | equal)
        · exact splitUnwanted isWanted
        · have sameOrder := congrArg Run.order equal
          have splitOrder : (Run.around split start).sibling.order = split := rfl
          have blockOrder : (Run.around order start).sibling.order = order := rfl
          omega
      have allInside :
          ∀ run, wanted run ∨ run = (Run.around order start).sibling → run.start < managed := by
        rintro run (isWanted | rfl)
        · exact inside run isWanted
        · exact blockInside
      obtain ⟨result, finished, resultLists⟩ := ih smaller pushed allInside later
      refine ⟨result, ?_, resultLists.congr ?_⟩
      · rw [if_pos more, FreeList.push_eq_ok room]
        exact finished
      · intro run
        constructor
        · rintro ((isWanted | rfl) | ⟨split, low, high, rfl⟩)
          · exact Or.inl isWanted
          · exact Or.inr ⟨order, by omega, by omega, rfl⟩
          · exact Or.inr ⟨split, low, by omega, rfl⟩
        · rintro (isWanted | ⟨split, low, high, rfl⟩)
          · exact Or.inl (Or.inl isWanted)
          · rcases Nat.lt_succ_iff_lt_or_eq.mp high with below | rfl
            · exact Or.inr ⟨split, low, below, rfl⟩
            · exact Or.inl (Or.inr rfl)
    · refine ⟨freeLists, if_neg more, lists.congr ?_⟩
      intro run
      constructor
      · exact Or.inl
      · rintro (isWanted | ⟨split, low, high, _⟩)
        · exact isWanted
        · omega

/-! ## Merging -/

/-- What the merging loop keeps: the maximal runs but the siblings it has
merged, and a block whose points are all free now. -/
structure Merging
    (free changed : Nat → Prop) (part : Run) (order : Nat) (freeLists : Nat → List Nat) : Prop where
  lists : Lists
    (fun run =>
      run.Maximal maxOrder free ∧ ¬ ∃ merged, part.order ≤ merged ∧ merged < order ∧
        run = (Run.around merged part.start).sibling)
    freeLists
  full : (Run.around order part.start).Full changed

theorem mergeUp_spec
    {free changed : Nat → Prop} {part : Run} (grows : ∀ point, free point → changed point)
    {above : Nat} (orderEq : order + above = maxOrder)
    (startEq : start = (Run.around order part.start).start) (low : part.order ≤ order)
    (merging : Merging free changed part order freeLists) :
    ∃ last result,
      mergeUp above start order freeLists = ((Run.around last part.start).start, last, result) ∧
        part.order ≤ last ∧ last ≤ maxOrder ∧
        Merging free changed part last result ∧
        (last < maxOrder → ¬ (Run.around last part.start).sibling.Maximal maxOrder free) := by
  induction above generalizing order start freeLists with
  | zero =>
    refine ⟨order, freeLists, ?_, low, by omega, merging, by omega⟩
    rw [startEq]
    rfl
  | succ above ih =>
    have buddyEq : start ^^^ 2 ^ order = (Run.around order part.start).sibling.start := by
      rw [startEq, start_sibling]
      rfl
    have siblingOrder : (Run.around order part.start).sibling.order = order := rfl
    have mem_iff := merging.lists.mem_iff (Run.around order part.start).sibling
    rw [mergeUp]
    simp only [buddyEq]
    cases removed :
        FreeList.remove (freeLists order) (Run.around order part.start).sibling.start with
    | none =>
      refine ⟨order, freeLists, ?_, low, by omega, merging, ?_⟩
      · simp only [startEq]
      · intro _ siblingMaximal
        apply FreeList.remove_eq_none removed
        refine mem_iff.mpr ⟨siblingMaximal, ?_⟩
        rintro ⟨merged, _, below, equal⟩
        have sameOrder := congrArg Run.order equal
        have mergedOrder : (Run.around merged part.start).sibling.order = merged := rfl
        omega
    | some =>
      have split := FreeList.remove_eq_some removed
      have listed : (Run.around order part.start).sibling.start ∈ freeLists order :=
        split.mem_iff.mpr (List.mem_cons_self ..)
      obtain ⟨siblingMaximal, _⟩ := mem_iff.mp listed
      have siblingFull : (Run.around order part.start).sibling.Full changed :=
        fun point holds => grows point (siblingMaximal.full point holds)
      have nextFull := merging.full.parent siblingFull
      rw [parent_around] at nextFull
      have nextStart :
          (if start < (Run.around order part.start).sibling.start
            then start
            else (Run.around order part.start).sibling.start) =
            (Run.around (order + 1) part.start).start := by
        rw [← parent_around, ← min_start_sibling, startEq]
        split
        · rename_i less
          exact (Nat.min_eq_left (Nat.le_of_lt less)).symm
        · rename_i notLess
          exact (Nat.min_eq_right (Nat.le_of_not_lt notLess)).symm
      have remaining := merging.lists.remove (Run.around order part.start).sibling split
      refine ih (by omega) nextStart (by omega) ⟨remaining.congr ?_, nextFull⟩
      intro run
      constructor
      · rintro ⟨⟨maximal, unmerged⟩, different⟩
        refine ⟨maximal, ?_⟩
        rintro ⟨merged, mergedLow, below, rfl⟩
        rcases Nat.lt_succ_iff_lt_or_eq.mp below with earlier | rfl
        · exact unmerged ⟨merged, mergedLow, earlier, rfl⟩
        · exact different rfl
      · rintro ⟨maximal, unmerged⟩
        refine ⟨⟨maximal, ?_⟩, ?_⟩
        · rintro ⟨merged, mergedLow, below, equal⟩
          exact unmerged ⟨merged, mergedLow, by omega, equal⟩
        · rintro rfl
          exact unmerged ⟨order, low, by omega, rfl⟩

/-! ## Seeding -/

section Seeding

variable {managed position : Nat} {run : Run}

theorem full_lt_iff : run.Full (· < managed) ↔ run.start + 2 ^ run.order ≤ managed := by
  have positive : 0 < 2 ^ run.order := Nat.two_pow_pos _
  constructor
  · intro full
    have inRun : run.Holds (run.start + 2 ^ run.order - 1) := holds_iff.mpr ⟨by omega, by omega⟩
    have last : run.start + 2 ^ run.order - 1 < managed := full _ inRun
    omega
  · intro fits point holds
    have bounds := holds_iff.mp holds
    exact Nat.lt_of_lt_of_le bounds.2 fits

/-- The order the seeding loop chooses is that of the maximal run which starts
at the position. -/
theorem seedOrder_eq (bounded : managed < 2 ^ 64) (maximal : run.Maximal maxOrder (· < managed))
    (startEq : run.start = position) :
    seedOrder managed position = run.order := by
  have fits := full_lt_iff.mp maximal.full
  have limited : run.order ≤ 10 := maximal.bounded
  have aligned : 2 ^ run.order ∣ position := by
    rw [← startEq]
    exact Nat.dvd_mul_left _ _
  have remaining : 2 ^ run.order ≤ managed - position := by omega
  have alignOrder : run.order ≤ trailingZeros position :=
    (le_trailingZeros_iff (by omega)).mpr aligned
  have fitOrder : run.order ≤ 63 - leadingZeros (managed - position) :=
    (le_sub_leadingZeros_iff (by omega) (by omega)).mpr remaining
  have reached : run.order ≤ seedOrder managed position := by
    simp only [seedOrder, maxOrder]
    omega
  by_contra larger
  have chosenBounded : seedOrder managed position ≤ 10 := by
    simp only [seedOrder, maxOrder]
    omega
  have chosenAligned : 2 ^ seedOrder managed position ∣ position := by
    apply (le_trailingZeros_iff (by omega)).mp
    simp only [seedOrder]
    omega
  have chosenFits : 2 ^ seedOrder managed position ≤ managed - position := by
    apply (le_sub_leadingZeros_iff (by omega) (by omega)).mp
    simp only [seedOrder]
    omega
  have chosenStart := start_around chosenAligned
  have chosenFull : (Run.around (seedOrder managed position) position).Full (· < managed) := by
    rw [full_lt_iff, chosenStart]
    simp only [Run.around]
    omega
  have below : run.order < maxOrder := by
    unfold maxOrder
    omega
  apply maximal.parentNotFull below
  have inRun : run.Holds position := by
    rw [← startEq]
    exact holds_start run
  apply chosenFull.nested _ (parent_holds inRun) (holds_around _ position)
  simp only [Run.parent, Run.around]
  omega

/-- What the seeding loop keeps: the maximal runs that start before the
position are listed, and none of them reaches past it. -/
structure Seeding (managed position : Nat) (freeLists : Nat → List Nat) : Prop where
  bounded : position ≤ managed
  lists : Lists (fun run => run.Maximal maxOrder (· < managed) ∧ run.start < position) freeLists
  boundary : ∀ run : Run, run.Maximal maxOrder (· < managed) →
    run.start < position → run.start + 2 ^ run.order ≤ position

variable {freeLists : Nat → List Nat}

section Seeding

variable (seeding : Seeding managed position freeLists)

include seeding

theorem Seeding.exists_next (more : position < managed) :
    ∃ run : Run, run.Maximal maxOrder (· < managed) ∧ run.start = position := by
  have found : ∃ largest : Run, largest.Maximal maxOrder (· < managed) ∧ largest.Holds position :=
    exists_maximal_of_free more
  obtain ⟨run, maximal, holds⟩ := found
  have bounds := holds_iff.mp holds
  refine ⟨run, maximal, ?_⟩
  by_contra different
  have reached := seeding.boundary run maximal (by omega)
  omega

theorem Seeding.next
    (maximal : run.Maximal maxOrder (· < managed)) (startEq : run.start = position) :
    Seeding managed (position + 2 ^ run.order)
      (withList freeLists run.order (freeLists run.order ++ [position])) := by
  have positive : 0 < 2 ^ run.order := Nat.two_pow_pos _
  have fits := full_lt_iff.mp maximal.full
  have inRun :
      ∀ other : Run, other.Maximal maxOrder (· < managed) →
        position ≤ other.start → other.start < position + 2 ^ run.order → other = run := by
    intro other otherMaximal low high
    have holds : run.Holds other.start := holds_iff.mpr ⟨by omega, by omega⟩
    exact otherMaximal.eq_of_holds maximal (holds_start other) holds
  have unwanted : ¬ (run.Maximal maxOrder (· < managed) ∧ run.start < position) := by
    omega
  refine ⟨by omega, ?_, ?_⟩
  · have pushed := seeding.lists.push unwanted
    rw [startEq] at pushed
    refine pushed.congr ?_
    intro other
    constructor
    · rintro (⟨otherMaximal, before⟩ | rfl)
      · exact ⟨otherMaximal, by omega⟩
      · exact ⟨maximal, by omega⟩
    · rintro ⟨otherMaximal, before⟩
      by_cases earlier : other.start < position
      · exact Or.inl ⟨otherMaximal, earlier⟩
      · exact Or.inr (inRun other otherMaximal (by omega) before)
  · intro other otherMaximal before
    by_cases earlier : other.start < position
    · have reached := seeding.boundary other otherMaximal earlier
      omega
    · have equal := inRun other otherMaximal (by omega) before
      subst equal
      omega

theorem Seeding.finished (reached : managed ≤ position) :
    Lists (Run.Maximal maxOrder (· < managed)) freeLists := by
  refine seeding.lists.congr ?_
  intro run
  constructor
  · exact And.left
  · intro maximal
    have runFits := full_lt_iff.mp maximal.full
    have positive : 0 < 2 ^ run.order := Nat.two_pow_pos _
    exact ⟨maximal, by omega⟩

theorem Seeding.room (more : position < managed) (startEq : run.start = position) :
    (freeLists run.order).length < managed := by
  apply seeding.lists.room
  · rintro _ ⟨_, before⟩
    omega
  · rintro ⟨_, before⟩
    omega
  · omega

end Seeding

theorem seedFrom_spec {rounds : Nat} (wordSized : managed < 2 ^ 64) (fits : managed ≤ capacity)
    (enough : managed ≤ position + rounds) (seeding : Seeding managed position freeLists) :
    ∃ result, seedFrom capacity managed rounds position freeLists = .ok (.ok result) ∧
      Lists (Run.Maximal maxOrder (· < managed)) result := by
  induction rounds generalizing position freeLists with
  | zero => exact ⟨freeLists, rfl, seeding.finished (by omega)⟩
  | succ rounds ih =>
    rw [seedFrom]
    by_cases more : position < managed
    · obtain ⟨run, maximal, startEq⟩ := seeding.exists_next more
      have positive : 0 < 2 ^ run.order := Nat.two_pow_pos _
      have room : (freeLists run.order).length < capacity :=
        Nat.lt_of_lt_of_le (seeding.room more startEq) fits
      obtain ⟨result, finished, lists⟩ := ih (by omega) (seeding.next maximal startEq)
      refine ⟨result, ?_, lists⟩
      simp only [seedOrder_eq wordSized maximal startEq]
      rw [if_pos more, if_neg (Nat.not_le_of_lt room), FreeList.push_eq_ok room]
      exact finished
    · exact ⟨freeLists, if_neg more, seeding.finished (by omega)⟩

theorem seeding_empty : Seeding managed 0 fun _ => [] where
  bounded := Nat.zero_le managed
  lists :=
    { nodup := fun _ => List.nodup_nil
      aligned := by
        intro order start member
        cases member
      mem_iff := by
        simp }
  boundary := by
    omega

end Seeding

end BuddyAllocator

end Xenith.Mm.Physical
