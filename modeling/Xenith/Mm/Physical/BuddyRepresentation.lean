import Xenith.Mm.Physical.BuddyInvariant

/-!
# What the free lists of the buddy allocator represent

The blocks on the free lists are aligned, pairwise disjoint, never two buddies,
and cover exactly the free frames.  An allocation is refused exactly when no
aligned run of its size is free.
-/

namespace Xenith.Mm.Physical

open Xenith.Dyadic
open FrameBacking
open Finset

/-- A backing that keeps a table of claimed frames. -/
structure TableBacking where
  allocated : List Bool

instance : FrameBacking TableBacking where
  totalFrames backing := backing.allocated.length
  isFrameFree backing frame := backing.allocated[frame]? == some false
  markFrameAllocated backing frame := ⟨backing.allocated.set frame true⟩
  markFrameFree backing frame := ⟨backing.allocated.set frame false⟩

instance : LawfulFrameBacking TableBacking where
  lt_totalFrames_of_free := by
    intro backing frame isFree
    have found : backing.allocated[frame]? = some false := by
      simpa [isFrameFree] using isFree
    exact (List.getElem?_eq_some_iff.mp found).1
  totalFrames_markFrameAllocated := by
    intro backing frame
    simp [totalFrames, markFrameAllocated]
  totalFrames_markFrameFree := by
    intro backing frame
    simp [totalFrames, markFrameFree]
  isFrameFree_markFrameAllocated := by
    intro backing frame other tracked
    have inTable : frame < backing.allocated.length := tracked
    by_cases same : other = frame
    · subst same
      simp [isFrameFree, markFrameAllocated, inTable]
    · have different : frame ≠ other := fun equal => same equal.symm
      simp [isFrameFree, markFrameAllocated, same, List.getElem?_set_ne different]
  isFrameFree_markFrameFree := by
    intro backing frame other tracked
    have inTable : frame < backing.allocated.length := tracked
    by_cases same : other = frame
    · subst same
      simp [isFrameFree, markFrameFree, inTable]
    · have different : frame ≠ other := fun equal => same equal.symm
      simp [isFrameFree, markFrameFree, same, List.getElem?_set_ne different]

namespace BuddyAllocator

variable {B : Type} {capacity : Nat}

theorem freeFrames_eq_sum (buddy : BuddyAllocator B capacity) :
    buddy.freeFrames = ∑ order ∈ range numOrders, (buddy.freeLists order).length * 2 ^ order := by
  unfold freeFrames
  generalize numOrders = count
  induction count with
  | zero => rfl
  | succ count ih =>
    rw [List.range_succ, List.map_append, List.sum_append, sum_range_succ, ih]
    simp

variable [FrameBacking B]

/-- The block of an order at a start holds a frame. -/
def InBlock (order start frame : Nat) : Prop :=
  start ≤ frame ∧ frame < start + 2 ^ order

structure Representation (buddy : BuddyAllocator B capacity) : Prop where
  noLargerOrder : ∀ order, maxOrder < order → buddy.freeLists order = []
  aligned : ∀ order, ∀ start ∈ buddy.freeLists order, 2 ^ order ∣ start
  inside : ∀ order, ∀ start ∈ buddy.freeLists order, start + 2 ^ order ≤ buddy.managed
  nodup : ∀ order, (buddy.freeLists order).Nodup
  disjoint : ∀ order, ∀ start ∈ buddy.freeLists order,
    ∀ other, ∀ otherStart ∈ buddy.freeLists other, (order, start) ≠ (other, otherStart) →
      start + 2 ^ order ≤ otherStart ∨ otherStart + 2 ^ other ≤ start
  covers : ∀ frame, frame < buddy.managed →
    (isFrameFree buddy.backing (buddy.absolute frame) = true ↔
      ∃ order, ∃ start ∈ buddy.freeLists order, InBlock order start frame)
  noBuddies : ∀ order, order < maxOrder → ∀ start ∈ buddy.freeLists order,
    start ^^^ 2 ^ order ∉ buddy.freeLists order
  withinCapacity : ∀ order, (buddy.freeLists order).length ≤ capacity
  freeFrames_eq : buddy.freeFrames = (List.range buddy.managed).countP fun frame =>
    isFrameFree buddy.backing (buddy.absolute frame)

section Sound

variable {buddy : BuddyAllocator B capacity}

theorem Sound.maximal_of_mem
    {order start : Nat} (sound : buddy.Sound) (member : start ∈ buddy.freeLists order) :
    (Run.around order start).Maximal maxOrder buddy.Free ∧ (Run.around order start).start = start :=
  sound.lists.wanted_of_mem member

theorem inBlock_iff {order start frame : Nat} (aligned : 2 ^ order ∣ start) :
    InBlock order start frame ↔ (Run.around order start).Holds frame := by
  rw [Run.holds_iff, Run.start_around aligned]
  rfl

theorem Sound.eq_of_inBlock {order start other otherStart frame : Nat} (sound : buddy.Sound)
    (member : start ∈ buddy.freeLists order) (otherMember : otherStart ∈ buddy.freeLists other)
    (holds : InBlock order start frame) (otherHolds : InBlock other otherStart frame) :
    (order, start) = (other, otherStart) := by
  obtain ⟨maximal, startEq⟩ := sound.maximal_of_mem member
  obtain ⟨otherMaximal, otherStartEq⟩ := sound.maximal_of_mem otherMember
  rw [inBlock_iff (sound.lists.aligned order start member)] at holds
  rw [inBlock_iff (sound.lists.aligned other otherStart otherMember)] at otherHolds
  have sameRun := maximal.eq_of_holds otherMaximal holds otherHolds
  have sameOrder : order = other := congrArg Run.order sameRun
  have sameStart := congrArg Run.start sameRun
  rw [startEq, otherStartEq] at sameStart
  rw [sameOrder, sameStart]

theorem Sound.free_iff {frame : Nat} (sound : buddy.Sound) :
    buddy.Free frame ↔ ∃ order, ∃ start ∈ buddy.freeLists order, InBlock order start frame := by
  constructor
  · intro isFree
    have found : ∃ largest : Run, largest.Maximal maxOrder buddy.Free ∧ largest.Holds frame :=
      Run.exists_maximal_of_free isFree
    obtain ⟨run, maximal, holds⟩ := found
    have listed := (sound.lists.mem_iff run).mpr maximal
    exact ⟨run.order, run.start, listed, Run.holds_iff.mp holds⟩
  · rintro ⟨order, start, member, holds⟩
    obtain ⟨maximal, _⟩ := sound.maximal_of_mem member
    rw [inBlock_iff (sound.lists.aligned order start member)] at holds
    exact maximal.full frame holds

/-! ## Counting the free frames -/

/-- The blocks on the lists, as pairs of order and start. -/
def blocks (buddy : BuddyAllocator B capacity) : Finset (Sigma fun _ : Nat => Nat) :=
  (range numOrders).sigma fun order => (buddy.freeLists order).toFinset

section

variable (sound : buddy.Sound)

include sound

theorem Sound.order_lt {order start : Nat} (member : start ∈ buddy.freeLists order) :
    order < numOrders := by
  obtain ⟨maximal, _⟩ := sound.maximal_of_mem member
  exact Nat.lt_succ_of_le maximal.bounded

theorem Sound.biUnion_blocks :
    (buddy.blocks.biUnion fun block =>
      Ico block.2 (block.2 + 2 ^ block.1)) =
      (range buddy.managed).filter fun frame =>
        isFrameFree buddy.backing (buddy.absolute frame) = true := by
  ext frame
  have freeIff : buddy.Free frame ↔ _ := sound.free_iff
  simp only [mem_biUnion, blocks, mem_sigma,
    mem_range, List.mem_toFinset, mem_Ico, mem_filter, Sigma.exists]
  constructor
  · rintro ⟨order, start, ⟨_, member⟩, holds⟩
    exact freeIff.mpr ⟨order, start, member, holds⟩
  · intro isFree
    obtain ⟨order, start, member, holds⟩ := freeIff.mp isFree
    exact ⟨order, start, ⟨sound.order_lt member, member⟩, holds⟩

theorem Sound.disjoint_blocks :
    ∀ block ∈ buddy.blocks, ∀ other ∈ buddy.blocks, block ≠ other →
      Disjoint (Ico block.2 (block.2 + 2 ^ block.1)) (Ico other.2 (other.2 + 2 ^ other.1)) := by
  rintro ⟨_, _⟩ member ⟨other, _⟩ otherMember different
  simp only [blocks, mem_sigma, List.mem_toFinset] at member otherMember
  rw [disjoint_left]
  intro frame holds otherHolds
  rw [mem_Ico] at holds otherHolds
  have same := sound.eq_of_inBlock member.2 otherMember.2 holds otherHolds
  obtain ⟨rfl, rfl⟩ := Prod.mk.inj same
  exact different rfl

theorem Sound.freeFrames_eq :
    buddy.freeFrames = (List.range buddy.managed).countP fun frame =>
      isFrameFree buddy.backing (buddy.absolute frame) := by
  have lengths : ∀ order, (buddy.freeLists order).toFinset.card = (buddy.freeLists order).length :=
    fun order => List.toFinset_card_of_nodup (sound.lists.nodup order)
  calc
    buddy.freeFrames = ∑ order ∈ range numOrders, (buddy.freeLists order).length * 2 ^ order :=
      freeFrames_eq_sum buddy
    _ = ∑ block ∈ buddy.blocks, (Ico block.2 (block.2 + 2 ^ block.1)).card := by
      simp [blocks, sum_sigma, lengths]
    _ = (buddy.blocks.biUnion fun block => Ico block.2 (block.2 + 2 ^ block.1)).card :=
      (card_biUnion sound.disjoint_blocks).symm
    _ = ((range buddy.managed).filter fun frame =>
          isFrameFree buddy.backing (buddy.absolute frame) = true).card := by
      rw [sound.biUnion_blocks]
    _ = (List.range buddy.managed).countP fun frame =>
          isFrameFree buddy.backing (buddy.absolute frame) := by
      rw [← Nat.count_eq_card_filter_range]
      simp [Nat.count]

/-! ## The representation -/

theorem Sound.representation : buddy.Representation where
  noLargerOrder := by
    intro order large
    refine List.eq_nil_iff_forall_not_mem.mpr ?_
    intro start member
    have small := sound.order_lt member
    unfold numOrders at small
    omega
  aligned := sound.lists.aligned
  inside := by
    intro order start member
    obtain ⟨maximal, startEq⟩ := sound.maximal_of_mem member
    have reaches := stop_le_of_full maximal.full
    rw [startEq] at reaches
    exact reaches
  nodup := sound.lists.nodup
  disjoint := by
    intro order start member other otherStart otherMember different
    by_contra overlap
    have positive : 0 < 2 ^ order := Nat.two_pow_pos _
    have otherPositive : 0 < 2 ^ other := Nat.two_pow_pos _
    have shared : InBlock order start (max start otherStart) := by
      unfold InBlock
      omega
    have otherShared : InBlock other otherStart (max start otherStart) := by
      unfold InBlock
      omega
    exact different (sound.eq_of_inBlock member otherMember shared otherShared)
  covers := by
    intro frame below
    rw [← sound.free_iff]
    constructor
    · exact fun isFree => ⟨below, isFree⟩
    · exact And.right
  noBuddies := by
    intro order small start member buddyMember
    obtain ⟨maximal, startEq⟩ := sound.maximal_of_mem member
    rw [← start_sibling_around (sound.lists.aligned order start member)] at buddyMember
    have buddyMaximal := (sound.lists.mem_iff (Run.around order start).sibling).mp buddyMember
    exact maximal.sibling_not_full small buddyMaximal.full
  withinCapacity := by
    intro order
    refine Nat.le_trans ?_ sound.fits
    have inRegion : buddy.freeLists order ⊆ List.range buddy.managed := by
      intro start member
      obtain ⟨maximal, startEq⟩ := sound.maximal_of_mem member
      rw [List.mem_range, ← startEq]
      exact start_lt_of_full maximal.full
    have bounded := (List.subperm_of_subset (sound.lists.nodup order) inRegion).length_le
    rw [List.length_range] at bounded
    exact bounded
  freeFrames_eq := sound.freeFrames_eq

end

end Sound

section Runs

variable [LawfulFrameBacking B]

theorem exec_sound
    {start final : BuddyAllocator B capacity} {calls : List Call} (sound : start.Sound)
    (reached : Execution.exec step start calls = some final) :
    final.Sound ∧ final.managed = start.managed := by
  induction calls generalizing start with
  | nil =>
    cases reached
    exact ⟨sound, rfl⟩
  | cons _ _ ih =>
    obtain ⟨_, taken, finished⟩ := Execution.exec_cons_eq_some.mp reached
    obtain ⟨nextSound, managedEq⟩ := sound.step taken
    obtain ⟨finalSound, finalManaged⟩ := ih nextSound finished
    exact ⟨finalSound, finalManaged.trans managedEq⟩

/-- **The representation invariant.**  The constructor succeeds, and in every
state reached from it the free lists represent the free frames, and no call
overflows a list. -/
theorem buddy_representation (capacity : Nat) (backing : B) (baseFrame : PhysFrame) (managed : Nat)
    (positive : 1 ≤ managed) (fits : managed ≤ capacity) (wordSized : managed < 2 ^ 64)
    (allFree :
      ∀ frame, frame < managed → isFrameFree backing (wrappingAdd baseFrame.number frame) = true) :
    ∃ start : BuddyAllocator B capacity, new capacity backing baseFrame managed = .ok (.ok start) ∧
      ∀ calls final, Execution.exec step start calls = some final →
        final.managed = managed ∧ final.Representation ∧
          (∀ order, final.allocPages order ≠ .error .freeListOverflow) ∧
          ∀ range, ∃ result next,
            final.freePages range = .ok (result, next) ∧ result ≠ .error .freeListFull := by
  obtain ⟨start, created, sound, managedEq, _⟩ := new_spec positive fits wordSized allFree
  refine ⟨start, created, ?_⟩
  intro calls final reached
  obtain ⟨finalSound, finalManaged⟩ := exec_sound sound reached
  refine
    ⟨finalManaged.trans managedEq, finalSound.representation, finalSound.allocPages_ne_overflow, ?_⟩
  intro range
  rcases finalSound.freePages_cases range with
    ⟨reason, notFull, refused⟩ | ⟨next, released, _⟩
  · refine ⟨.error reason, final, refused, ?_⟩
    rintro equal
    cases equal
    exact notFull rfl
  · exact ⟨.ok (), next, released, nofun⟩

def frameZero : PhysFrame := ⟨0, by decide⟩

/-- Thirteen free frames: one block each of orders 3, 2 and 0. -/
def thirteenFrames : TableBacking := ⟨List.replicate 13 false⟩

theorem thirteenFrames_representation :
    ∃ start : BuddyAllocator TableBacking 13, new 13 thirteenFrames frameZero 13 = .ok (.ok start) ∧
      ∀ calls final, Execution.exec step start calls = some final → final.Representation := by
  obtain ⟨start, created, represented⟩ :=
    buddy_representation 13 thirteenFrames frameZero 13 (by decide)
      (by decide) (by decide) (by decide +kernel)
  refine ⟨start, created, ?_⟩
  intro calls final reached
  exact (represented calls final reached).2.1

/-! ## Completeness -/

/-- An aligned run of free frames, inside the region. -/
def FreeRun (buddy : BuddyAllocator B capacity) (order start : Nat) : Prop :=
  2 ^ order ∣ start ∧ start + 2 ^ order ≤ buddy.managed ∧
    ∀ frame, InBlock order start frame → isFrameFree buddy.backing (buddy.absolute frame) = true

variable {buddy : BuddyAllocator B capacity}

omit [LawfulFrameBacking B] in
theorem freeRun_iff {order start : Nat} :
    buddy.FreeRun order start ↔ 2 ^ order ∣ start ∧ (Run.around order start).Full buddy.Free := by
  constructor
  · rintro ⟨aligned, inside, allFree⟩
    refine ⟨aligned, ?_⟩
    intro frame holds
    have inBlock := (inBlock_iff aligned).mpr holds
    exact ⟨Nat.lt_of_lt_of_le inBlock.2 inside, allFree frame inBlock⟩
  · rintro ⟨aligned, full⟩
    have reaches := stop_le_of_full full
    rw [Run.start_around aligned] at reaches
    refine ⟨aligned, reaches, ?_⟩
    intro frame inBlock
    exact (full frame ((inBlock_iff aligned).mp inBlock)).2

omit [LawfulFrameBacking B] in
/-- Some list from an order on is not empty exactly when a run of that order is
free. -/
theorem Sound.exists_listed_iff {order : Nat} (sound : buddy.Sound) (bounded : order ≤ maxOrder) :
    (∃ larger, order ≤ larger ∧ larger ≤ maxOrder ∧ buddy.freeLists larger ≠ []) ↔
      ∃ start, buddy.FreeRun order start := by
  constructor
  · rintro ⟨larger, ordered, _, nonempty⟩
    obtain ⟨start, member⟩ := List.exists_mem_of_ne_nil _ nonempty
    obtain ⟨maximal, _⟩ := sound.maximal_of_mem member
    refine ⟨start, freeRun_iff.mpr ⟨?_, ?_⟩⟩
    · exact (Nat.pow_dvd_pow 2 ordered).trans (sound.lists.aligned larger start member)
    · exact
        maximal.full.nested ordered (Run.holds_around order start) (Run.holds_around larger start)
  · rintro ⟨start, freeRun⟩
    obtain ⟨_, full⟩ := freeRun_iff.mp freeRun
    obtain ⟨largest, maximal, ordered, _⟩ :=
      full.exists_maximal bounded (Run.holds_around order start)
    refine ⟨largest.order, ordered, maximal.bounded, ?_⟩
    exact List.ne_nil_of_mem ((sound.lists.mem_iff largest).mpr maximal)

theorem Sound.allocPages_none_iff {order : Nat} (sound : buddy.Sound) (bounded : order ≤ maxOrder) :
    (∃ next, buddy.allocPages order = .ok (none, next)) ↔ ¬ ∃ start, buddy.FreeRun order start := by
  rw [← sound.exists_listed_iff bounded]
  constructor
  · rintro ⟨next, refused⟩ ⟨larger, ordered, largerBounded, nonempty⟩
    rcases sound.allocPages_cases bounded with
      ⟨_, empty⟩ | ⟨_, failed | ⟨range, after, granted, _⟩⟩
    · exact nonempty (empty larger ordered largerBounded)
    · rw [failed] at refused
      cases refused
    · rw [granted] at refused
      cases refused
  · intro noneListed
    rcases sound.allocPages_cases bounded with
      ⟨refused, _⟩ | ⟨listed, _⟩
    · exact ⟨buddy, refused⟩
    · exact absurd listed noneListed

omit [LawfulFrameBacking B] in
theorem Sound.freeLists_perm
    {other : BuddyAllocator B capacity} (sound : buddy.Sound) (otherSound : other.Sound)
    (same : ∀ frame, buddy.Free frame ↔ other.Free frame) (order : Nat) :
    (buddy.freeLists order).Perm (other.freeLists order) := by
  have otherLists : Lists (Run.Maximal maxOrder buddy.Free) other.freeLists := by
    refine otherSound.lists.congr ?_
    intro run
    exact ⟨Run.Maximal.congr fun frame => (same frame).symm, Run.Maximal.congr same⟩
  rw [List.perm_ext_iff_of_nodup (sound.lists.nodup order) (otherLists.nodup order)]
  intro start
  constructor
  · intro member
    obtain ⟨maximal, startEq⟩ := sound.lists.wanted_of_mem member
    have listed := (otherLists.mem_iff (Run.around order start)).mpr maximal
    rw [startEq] at listed
    exact listed
  · intro member
    obtain ⟨maximal, startEq⟩ := otherLists.wanted_of_mem member
    have listed := (sound.lists.mem_iff (Run.around order start)).mpr maximal
    rw [startEq] at listed
    exact listed

/-- **Completeness.**  In every state reached from the constructor, an
allocation is refused exactly when no aligned run of its size is free, and when
all frames are free again the lists hold the blocks of the seed. -/
theorem buddy_completeness (capacity : Nat) (backing : B) (baseFrame : PhysFrame) (managed : Nat)
    (positive : 1 ≤ managed) (fits : managed ≤ capacity) (wordSized : managed < 2 ^ 64)
    (allFree :
      ∀ frame, frame < managed → isFrameFree backing (wrappingAdd baseFrame.number frame) = true) :
    ∃ start : BuddyAllocator B capacity, new capacity backing baseFrame managed = .ok (.ok start) ∧
      ∀ calls final, Execution.exec step start calls = some final →
        (∀ order, order ≤ maxOrder → ((∃ next, final.allocPages order = .ok (none, next)) ↔
          ¬ ∃ first, final.FreeRun order first)) ∧
        ((∀ frame, frame < managed → isFrameFree final.backing (final.absolute frame) = true) →
          ∀ order, (final.freeLists order).Perm (start.freeLists order)) := by
  obtain ⟨start, created, sound, managedEq, startFree⟩ := new_spec positive fits wordSized allFree
  refine ⟨start, created, ?_⟩
  intro calls final reached
  obtain ⟨finalSound, finalManaged⟩ := exec_sound sound reached
  have sameManaged : final.managed = managed := finalManaged.trans managedEq
  refine ⟨fun order bounded => finalSound.allocPages_none_iff bounded, ?_⟩
  intro allFreed
  refine finalSound.freeLists_perm sound ?_
  intro frame
  constructor
  · rintro ⟨below, _⟩
    exact startFree frame (sameManaged ▸ below)
  · rintro ⟨below, _⟩
    rw [managedEq] at below
    exact ⟨sameManaged.symm ▸ below, allFreed frame below⟩

theorem thirteenFrames_completeness :
    ∃ start : BuddyAllocator TableBacking 13, new 13 thirteenFrames frameZero 13 = .ok (.ok start) ∧
      ∀ calls final, Execution.exec step start calls = some final →
        ((∃ next, final.allocPages 2 = .ok (none, next)) ↔ ¬ ∃ first, final.FreeRun 2 first) := by
  obtain ⟨start, created, complete⟩ := buddy_completeness 13 thirteenFrames frameZero 13 (by decide)
    (by decide) (by decide) (by decide +kernel)
  refine ⟨start, created, ?_⟩
  intro calls final reached
  exact (complete calls final reached).1 2 (by decide)

end Runs

end BuddyAllocator

end Xenith.Mm.Physical
