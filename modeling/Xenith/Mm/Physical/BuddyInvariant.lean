import Xenith.Lib.Execution
import Xenith.Mm.Physical.BuddyLists

/-!
# The invariant of the buddy allocator

A sound allocator lists exactly the maximal runs of the frames its backing
reports free, and no push overflows a list.
-/

namespace Xenith.Mm.Physical

open Xenith.Dyadic
open FrameBacking LawfulFrameBacking
open Run

/-! ## Marking frames -/

section Marking

variable {B : Type} [FrameBacking B]

structure Marks (mark : B → Nat → B) (free : Bool) : Prop where
  total : ∀ backing frame, totalFrames (mark backing frame) = totalFrames backing
  sets : ∀ backing frame other, frame < totalFrames backing →
    isFrameFree (mark backing frame) other =
      if other = frame then free else isFrameFree backing other

theorem marks_allocated [LawfulFrameBacking B] :
    Marks (markFrameAllocated : B → Nat → B) false where
  total := totalFrames_markFrameAllocated
  sets := by
    intro backing frame other tracked
    rw [isFrameFree_markFrameAllocated backing frame other tracked]
    by_cases same : other = frame <;> simp [same]

theorem marks_free [LawfulFrameBacking B] : Marks (markFrameFree : B → Nat → B) true where
  total := totalFrames_markFrameFree
  sets := by
    intro backing frame other tracked
    rw [isFrameFree_markFrameFree backing frame other tracked]
    by_cases same : other = frame <;> simp [same]

/-- Marking frames one after another sets exactly those frames. -/
theorem Marks.foldl
    {mark : B → Nat → B} {free : Bool} (marks : Marks mark free) (frames : List Nat) (backing : B)
    (tracked : ∀ frame ∈ frames, frame < totalFrames backing) :
    totalFrames (frames.foldl mark backing) = totalFrames backing ∧ ∀ other,
      isFrameFree (frames.foldl mark backing) other =
        if other ∈ frames then free else isFrameFree backing other := by
  induction frames generalizing backing with
  | nil => simp
  | cons frame rest ih =>
    have total := marks.total backing frame
    have headTracked := tracked frame (List.mem_cons_self ..)
    have restTracked : ∀ other ∈ rest, other < totalFrames (mark backing frame) := by
      intro other member
      rw [total]
      exact tracked other (List.mem_cons_of_mem _ member)
    obtain ⟨restTotal, restFree⟩ := ih (mark backing frame) restTracked
    refine ⟨restTotal.trans total, ?_⟩
    intro other
    rw [List.foldl_cons, restFree, marks.sets backing frame other headTracked]
    by_cases same : other = frame <;> by_cases member : other ∈ rest <;> simp [member]

end Marking

namespace BuddyAllocator

variable {B : Type} {capacity : Nat} {buddy : BuddyAllocator B capacity}

theorem afterCall_eq_some
    {Result : Type} {outcome : Except BuddyPanic (Result × BuddyAllocator B capacity)}
    {next : BuddyAllocator B capacity} (left : afterCall outcome = some next) :
    ∃ result, outcome = .ok (result, next) := by
  cases outcome with
  | error => cases left
  | ok returned =>
    cases left
    exact ⟨returned.1, rfl⟩

theorem add_cases (frame : PhysFrame) (count : Nat) :
    frame.add count = .error .addressOverflow ∨ ∃ later, frame.add count = .ok later := by
  unfold PhysFrame.add
  simp only
  split
  · exact Or.inr ⟨_, rfl⟩
  · exact Or.inl rfl

variable {count want start : Nat}

theorem spanning_cases (frame : PhysFrame) (positive : 0 < count) :
    PhysFrameRange.spanning frame count = .error .addressOverflow ∨
      ∃ range, PhysFrameRange.spanning frame count = .ok (some range) := by
  rw [PhysFrameRange.spanning, if_neg (by omega)]
  split
  · exact Or.inr ⟨_, rfl⟩
  · rename_i reason failed
    rcases add_cases frame (count - 1) with overflow | ⟨later, added⟩
    · rw [overflow] at failed
      cases failed
      exact Or.inl rfl
    · rw [added] at failed
      cases failed

variable {freeLists : Nat → List Nat}

theorem firstNonEmpty_eq_none (missing : firstNonEmpty freeLists want = none) :
    ∀ order, want ≤ order → order ≤ maxOrder → freeLists order = [] := by
  intro order low high
  rw [firstNonEmpty, List.find?_eq_none] at missing
  have member : order ∈ List.range' want (numOrders - want) := by
    rw [List.mem_range'_1]
    unfold numOrders
    omega
  have empty := missing order member
  simpa using empty

theorem firstNonEmpty_eq_some {found : Nat} (hit : firstNonEmpty freeLists want = some found) :
    want ≤ found ∧ found ≤ maxOrder ∧ freeLists found ≠ [] := by
  have member := List.mem_of_find?_eq_some hit
  have nonempty := List.find?_some hit
  rw [List.mem_range'_1] at member
  unfold numOrders at member
  refine ⟨member.1, by omega, ?_⟩
  simpa using nonempty

theorem inRegion_eq_true (inside : buddy.inRegion start count = true) :
    start + count ≤ buddy.managed := by
  unfold inRegion at inside
  split at inside
  · cases inside
  · rename_i stop added
    have sum := (checkedAdd_eq_some added).1
    have bounded : stop ≤ buddy.managed := by simpa using inside
    omega

variable [FrameBacking B]

/-- A managed frame the backing reports free. -/
def Free (buddy : BuddyAllocator B capacity) (frame : Nat) : Prop :=
  frame < buddy.managed ∧ isFrameFree buddy.backing (buddy.absolute frame) = true

structure Sound (buddy : BuddyAllocator B capacity) : Prop where
  wordSized : buddy.managed < 2 ^ 64
  fits : buddy.managed ≤ capacity
  tracked : ∀ frame, frame < buddy.managed → buddy.absolute frame < totalFrames buddy.backing
  lists : Lists (Run.Maximal maxOrder buddy.Free) buddy.freeLists

def absoluteFrames (buddy : BuddyAllocator B capacity) (start count : Nat) : List Nat :=
  (List.range count).map fun offset => buddy.absolute (start + offset)

omit [FrameBacking B] in
theorem mem_absoluteFrames {frame : Nat} (wordSized : buddy.managed < 2 ^ 64)
    (inside : start + count ≤ buddy.managed) (managed : frame < buddy.managed) :
    buddy.absolute frame ∈ buddy.absoluteFrames start count ↔
      start ≤ frame ∧ frame < start + count := by
  rw [absoluteFrames, List.mem_map]
  constructor
  · rintro ⟨_, offsetMember, same⟩
    have below := List.mem_range.mp offsetMember
    unfold absolute wrappingAdd at same
    omega
  · rintro ⟨low, _⟩
    refine ⟨frame - start, List.mem_range.mpr (by omega), ?_⟩
    rw [Nat.add_sub_cancel' low]

theorem start_lt_of_full {run : Run} (full : run.Full buddy.Free) : run.start < buddy.managed :=
  (full run.start run.holds_start).1

theorem stop_le_of_full {run : Run} (full : run.Full buddy.Free) :
    run.start + 2 ^ run.order ≤ buddy.managed := by
  apply full_lt_iff.mp
  intro frame holds
  exact (full frame holds).1

section Calls

variable {buddy : BuddyAllocator B capacity} {order : Nat} {range : PhysFrameRange}

/-- Marking the frames of a run changes their reports only. -/
theorem Sound.marked
    {mark : B → Nat → B} {free : Bool} (sound : buddy.Sound) (marks : Marks mark free)
    (aligned : 2 ^ order ∣ start) (inside : start + 2 ^ order ≤ buddy.managed)
    (next : BuddyAllocator B capacity) (based : next.baseFrame = buddy.baseFrame)
    (managed : next.managed = buddy.managed)
    (backing : next.backing = (List.range (2 ^ order)).foldl
      (fun backing offset => mark backing (buddy.absolute (start + offset))) buddy.backing) :
    (∀ frame, frame < next.managed →
      next.absolute frame < totalFrames next.backing) ∧
      ∀ frame, next.Free frame ↔ (around order start).Holds frame ∧ free = true ∨
        ¬ (around order start).Holds frame ∧ buddy.Free frame := by
  have tracked :
      ∀ frame ∈ buddy.absoluteFrames start (2 ^ order), frame < totalFrames buddy.backing := by
    intro frame member
    obtain ⟨_, offsetMember, rfl⟩ := List.mem_map.mp member
    have below := List.mem_range.mp offsetMember
    exact sound.tracked _ (by omega)
  obtain ⟨total, marked⟩ := marks.foldl _ buddy.backing tracked
  have folded :
      next.backing = (buddy.absoluteFrames start (2 ^ order)).foldl mark buddy.backing := by
    rw [backing, absoluteFrames, List.foldl_map]
  have absolute (frame : Nat) : next.absolute frame = buddy.absolute frame := by
    rw [BuddyAllocator.absolute, BuddyAllocator.absolute, based]
  refine ⟨?_, ?_⟩
  · intro frame below
    rw [folded, total, absolute]
    exact sound.tracked frame (managed ▸ below)
  · intro frame
    have holds : (around order start).Holds frame ↔ start ≤ frame ∧ frame < start + 2 ^ order := by
      rw [holds_iff, start_around aligned]
      rfl
    rw [Free, Free, managed, folded, marked, holds]
    by_cases below : frame < buddy.managed
    · have member := mem_absoluteFrames sound.wordSized inside below
      split <;> simp_all
    · have outside : ¬ (start ≤ frame ∧ frame < start + 2 ^ order) := by
        omega
      simp [below, outside]

theorem checkRange_eq_ok (checked : buddy.checkRange range = .ok (start, order)) :
    range.len = 2 ^ order ∧ order ≤ maxOrder ∧ 2 ^ order ∣ start ∧
      start + 2 ^ order ≤ buddy.managed ∧
      ∀ frame, start ≤ frame → frame < start + 2 ^ order → ¬ buddy.Free frame := by
  have rangeBounded := range.last.bounded
  revert checked
  fun_cases checkRange with
  | case6 first count inRegion power _ aligned claimed =>
    subst first count
    rintro ⟨⟩
    rw [not_not] at inRegion power aligned
    have inside := inRegion_eq_true inRegion
    have lenBounded : range.len < 2 ^ 64 := by
      unfold PhysFrameRange.len
      omega
    have lenEq := power.eq_two_pow_trailingZeros lenBounded
    rw [← lenEq]
    refine ⟨rfl, by omega, Nat.dvd_of_mod_eq_zero aligned, inside, ?_⟩
    intro frame low high isFree
    apply claimed
    rw [List.any_eq_true]
    refine ⟨frame - wrappingSub range.first.number buddy.baseFrame.number,
      List.mem_range.mpr (by omega), ?_⟩
    rw [Nat.add_sub_cancel' low]
    exact isFree.2
  | _ => rintro ⟨⟩

theorem checkRange_ne_freeListFull (range : PhysFrameRange) :
    buddy.checkRange range ≠ .error .freeListFull := by
  fun_cases checkRange <;> rintro ⟨⟩

variable [LawfulFrameBacking B]

theorem new_spec {backing : B} {baseFrame : PhysFrame} {managed : Nat}
    (positive : 1 ≤ managed) (fits : managed ≤ capacity) (wordSized : managed < 2 ^ 64)
    (allFree :
      ∀ frame, frame < managed → isFrameFree backing (wrappingAdd baseFrame.number frame) = true) :
    ∃ buddy : BuddyAllocator B capacity, new capacity backing baseFrame managed = .ok (.ok buddy) ∧
      buddy.Sound ∧ buddy.managed = managed ∧
      ∀ frame, frame < managed → buddy.Free frame := by
  obtain ⟨freeLists, seeded, lists⟩ :=
    seedFrom_spec wordSized fits (Nat.le_of_eq (Nat.zero_add managed).symm) seeding_empty
  refine
    ⟨{ backing := backing
       freeLists := freeLists
       baseFrame := baseFrame
       managed := managed }, ?_, ?_, rfl, ?_⟩
  · rw [new, if_neg (by omega), seeded]
  · refine ⟨wordSized, fits, ?_, ?_⟩
    · intro frame below
      exact lt_totalFrames_of_free backing _ (allFree frame below)
    · refine lists.congr ?_
      intro run
      have same :
          ∀ frame, frame < managed ↔
            frame < managed ∧ isFrameFree backing (wrappingAdd baseFrame.number frame) = true :=
        fun frame => ⟨fun below => ⟨below, allFree frame below⟩, And.left⟩
      exact ⟨Run.Maximal.congr same, Run.Maximal.congr fun frame => (same frame).symm⟩
  · intro frame below
    exact ⟨below, allFree frame below⟩

/-! ## Allocation -/

/-- The allocator after a block was split and the frames of its first part
were claimed. -/
def claim (buddy : BuddyAllocator B capacity) (freeLists : Nat → List Nat)
    (start order : Nat) : BuddyAllocator B capacity :=
  { buddy with freeLists := freeLists, backing := buddy.markAllocated start (2 ^ order) }

section Sound

variable (sound : buddy.Sound)

include sound

/-- Splitting a listed block leaves the lists of the allocator after the claim
of its first part. -/
theorem Sound.split {found : Nat} {frames : List Nat} (ordered : want ≤ found)
    (popped : buddy.freeLists found = frames ++ [start]) :
    ∃ freeLists,
      splitDown capacity start want found (withList buddy.freeLists found frames) = .ok freeLists ∧
        (buddy.claim freeLists start want).Sound := by
  have member : start ∈ buddy.freeLists found := by
    rw [popped]
    exact List.mem_append_right _ (List.mem_singleton_self start)
  have alignedFound := sound.lists.aligned found start member
  obtain ⟨maximal, startEq⟩ := sound.lists.wanted_of_mem member
  have splitList :
      (buddy.freeLists (around found start).order).Perm ((around found start).start :: frames) := by
    rw [startEq]
    change (buddy.freeLists found).Perm (start :: frames)
    rw [popped]
    exact List.perm_append_singleton start frames
  have remaining := sound.lists.remove (around found start) splitList
  have inBlock := holds_around found start
  have alignedWant : 2 ^ want ∣ start := (Nat.pow_dvd_pow 2 ordered).trans alignedFound
  obtain ⟨freeLists, finished, lists⟩ := splitDown_spec sound.fits alignedFound remaining
    (fun run wanted => start_lt_of_full wanted.1.full)
    (by
      intro order low high
      have siblingInBlock : (around found start).Holds (around order start).sibling.start :=
        sibling_around_holds high inBlock (holds_start _)
      refine ⟨?_, (maximal.full _ siblingInBlock).1⟩
      rintro ⟨siblingMaximal, different⟩
      exact different (siblingMaximal.eq_of_holds maximal (holds_start _) siblingInBlock))
  refine ⟨freeLists, finished, ?_⟩
  have blockInside := stop_le_of_full maximal.full
  have smaller : 2 ^ want ≤ 2 ^ found := Nat.pow_le_pow_right (by omega) ordered
  have inside : start + 2 ^ want ≤ buddy.managed := by
    rw [startEq] at blockInside
    exact Nat.le_trans (Nat.add_le_add_left smaller start) blockInside
  obtain ⟨tracked, marked⟩ :=
    sound.marked marks_allocated alignedWant inside (buddy.claim freeLists start want) rfl rfl rfl
  have claimed :
      ∀ frame, (buddy.claim freeLists start want).Free frame ↔
        buddy.Free frame ∧ ¬ (around want start).Holds frame := by
    intro frame
    rw [marked frame]
    simp [and_comm]
  refine ⟨sound.wordSized, sound.fits, tracked, lists.congr ?_⟩
  intro run
  have takeIff : run.Maximal maxOrder (buddy.claim freeLists start want).Free ↔ _ :=
    maximal_take_iff maximal ordered (holds_around want start) inBlock claimed
  exact takeIff.symm

/-- An allocation finds every list from the order on empty, or splits a block;
the only panic left is that of a frame beyond the address space. -/
theorem Sound.allocPages_cases (bounded : order ≤ maxOrder) :
    (buddy.allocPages order = .ok (none, buddy) ∧
        ∀ larger, order ≤ larger → larger ≤ maxOrder → buddy.freeLists larger = []) ∨
      (∃ larger, order ≤ larger ∧ larger ≤ maxOrder ∧ buddy.freeLists larger ≠ []) ∧
        (buddy.allocPages order = .error .addressOverflow ∨ ∃ range next,
          buddy.allocPages order = .ok (some range, next) ∧
            next.Sound ∧ next.managed = buddy.managed) := by
  rw [allocPages, if_neg (by omega)]
  cases hit : firstNonEmpty buddy.freeLists order with
  | none => exact Or.inl ⟨rfl, firstNonEmpty_eq_none hit⟩
  | some found =>
    obtain ⟨ordered, foundBounded, nonempty⟩ := firstNonEmpty_eq_some hit
    refine Or.inr ⟨⟨found, ordered, foundBounded, nonempty⟩, ?_⟩
    simp only
    cases popped : FreeList.pop (buddy.freeLists found) with
    | none => exact absurd popped (FreeList.pop_ne_none nonempty)
    | some result =>
      obtain ⟨start, _⟩ := result
      obtain ⟨freeLists, finished, claimed⟩ := sound.split ordered (FreeList.pop_eq_some popped)
      simp only [finished]
      rcases add_cases buddy.baseFrame start with
        failed | ⟨frame, added⟩
      · rw [failed]
        exact Or.inl rfl
      · rw [added]
        simp only
        rcases spanning_cases frame (Nat.two_pow_pos order) with
          failed | ⟨range, spanned⟩
        · rw [failed]
          exact Or.inl rfl
        · rw [spanned]
          exact Or.inr ⟨range, _, rfl, claimed, rfl⟩

theorem Sound.allocPages_outcome (order : Nat) :
    buddy.allocPages order = .error .addressOverflow ∨ ∃ result next,
      buddy.allocPages order = .ok (result, next) ∧ next.Sound ∧ next.managed = buddy.managed := by
  by_cases bounded : order ≤ maxOrder
  · rcases sound.allocPages_cases bounded with
      ⟨refused, _⟩ | ⟨_, failed | ⟨range, after, granted, claimed⟩⟩
    · exact Or.inr ⟨none, buddy, refused, sound, rfl⟩
    · exact Or.inl failed
    · exact Or.inr ⟨some range, after, granted, claimed⟩
  · refine Or.inr ⟨none, buddy, ?_, sound, rfl⟩
    rw [BuddyAllocator.allocPages, if_pos (by omega)]

variable {next : BuddyAllocator B capacity}

theorem Sound.allocPages {result : Option PhysFrameRange}
    (returned : buddy.allocPages order = .ok (result, next)) :
    next.Sound ∧ next.managed = buddy.managed := by
  rcases sound.allocPages_outcome order with
    failed | ⟨_, _, granted, claimed⟩
  · rw [failed] at returned
    cases returned
  · rw [granted] at returned
    cases returned
    exact claimed

theorem Sound.allocPages_ne_overflow (order : Nat) :
    buddy.allocPages order ≠ .error .freeListOverflow := by
  rcases sound.allocPages_outcome order with failed | ⟨_, _, granted, _⟩
  · rw [failed]
    nofun
  · rw [granted]
    nofun

/-! ## Release -/

/-- Merging and inserting a released block lists the maximal runs again. -/
theorem Sound.coalesceInsert (bounded : order ≤ maxOrder) (aligned : 2 ^ order ∣ start)
    (inside : start + 2 ^ order ≤ buddy.managed)
    (claimed : ∀ frame, start ≤ frame → frame < start + 2 ^ order → ¬ buddy.Free frame) :
    ∃ next, (buddy.release start (2 ^ order)).coalesceInsert start order = .ok (.ok (), next) ∧
      next.Sound ∧ next.managed = buddy.managed := by
  have partStart := start_around aligned
  have inPart := holds_around order start
  obtain ⟨tracked, marked⟩ :=
    sound.marked marks_free aligned inside (buddy.release start (2 ^ order)) rfl rfl rfl
  have released :
      ∀ frame, (buddy.release start (2 ^ order)).Free frame ↔
        buddy.Free frame ∨ (around order start).Holds frame := by
    intro frame
    rw [marked frame]
    tauto
  have fresh : ∀ frame, (around order start).Holds frame → ¬ buddy.Free frame := by
    intro frame holds
    have bounds := holds_iff.mp holds
    rw [partStart] at bounds
    exact claimed frame bounds.1 bounds.2
  have initially :
      Merging buddy.Free (buddy.release start (2 ^ order)).Free
        (around order start) order buddy.freeLists := by
    refine ⟨sound.lists.congr ?_, ?_⟩
    · intro run
      constructor
      · intro maximal
        refine ⟨maximal, ?_⟩
        have partOrder : (around order start).order = order := rfl
        omega
      · exact And.left
    · rw [partStart]
      intro frame holds
      exact (released frame).mpr (Or.inr holds)
  obtain ⟨last, freeLists, merged, low, high, merging, stopped⟩ :=
    mergeUp_spec (fun frame isFree => (released frame).mpr (Or.inl isFree))
      (Nat.add_sub_cancel' bounded) (by rw [partStart, partStart]) (Nat.le_refl order) initially
  obtain ⟨lists, full⟩ := merging
  rw [partStart] at merged lists full stopped
  have inBlock := holds_around last start
  have unlisted : ¬ (around last start).Maximal maxOrder buddy.Free :=
    fun maximal => fresh start inPart (maximal.full start inBlock)
  have blockInside : (around last start).start < buddy.managed := (full _ (holds_start _)).1
  have smallLists : (freeLists last).length < buddy.managed :=
    lists.room (fun run wanted => start_lt_of_full wanted.1.full)
      (fun wanted => unlisted wanted.1) blockInside
  have room : (freeLists last).length < capacity := Nat.lt_of_lt_of_le smallLists sound.fits
  refine
    ⟨{ buddy.release start (2 ^ order) with
        freeLists := withList freeLists last (freeLists last ++ [(around last start).start]) },
      ?_, ?_, rfl⟩
  · simp only [BuddyAllocator.coalesceInsert]
    have merged' :
        mergeUp (maxOrder - order) start order (buddy.release start (2 ^ order)).freeLists =
          ((around last start).start, last, freeLists) := merged
    rw [merged', if_neg (Nat.not_le_of_lt room), FreeList.push_eq_ok room]
  · refine ⟨sound.wordSized, sound.fits, tracked, ?_⟩
    have pushed :
        Lists _ (withList freeLists last (freeLists last ++ [(around last start).start])) :=
      lists.push fun wanted => unlisted wanted.1
    refine pushed.congr ?_
    intro run
    have addIff : run.Maximal maxOrder (buddy.release start (2 ^ order)).Free ↔ _ :=
      maximal_add_iff low high inPart inBlock released fresh full stopped
    exact Or.comm.trans addIff.symm

theorem Sound.freePages_cases (range : PhysFrameRange) :
    (∃ reason, reason ≠ .freeListFull ∧ buddy.freePages range = .ok (.error reason, buddy)) ∨
      ∃ next,
        buddy.freePages range = .ok (.ok (), next) ∧ next.Sound ∧ next.managed = buddy.managed := by
  cases checked : buddy.checkRange range with
  | error reason =>
    refine Or.inl ⟨reason, ?_, by rw [freePages, checked, releaseChecked]⟩
    rintro rfl
    exact checkRange_ne_freeListFull range checked
  | ok =>
    obtain ⟨lenEq, bounded, aligned, inside, claimed⟩ := checkRange_eq_ok checked
    have inserted := sound.coalesceInsert bounded aligned inside claimed
    rw [← lenEq] at inserted
    rw [freePages, checked, releaseChecked]
    exact Or.inr inserted

theorem Sound.step {call : Call} (taken : buddy.step call = some next) :
    next.Sound ∧ next.managed = buddy.managed := by
  cases call with
  | alloc =>
    obtain ⟨result, returned⟩ := afterCall_eq_some taken
    exact sound.allocPages returned
  | free range =>
    obtain ⟨result, returned⟩ := afterCall_eq_some taken
    rcases sound.freePages_cases range with
      ⟨reason, _, refused⟩ | ⟨after, released, afterSound⟩
    · rw [refused] at returned
      cases returned
      exact ⟨sound, rfl⟩
    · rw [released] at returned
      cases returned
      exact afterSound

end Sound

end Calls

end BuddyAllocator

end Xenith.Mm.Physical
