import Xenith.Mm.Heap

/-!
# What the heap's operations do to its blocks

The size-class map, the first-fit carver and the coalescing insert, for
requests that do not wrap around the address space.
-/

namespace Xenith.Mm

open Xenith.Interval

theorem roundUpPow2_eq_some {value rounded : Nat} (found : roundUpPow2 value = some rounded) :
    IsPowerOfTwo rounded ∧ value ≤ rounded := by
  unfold roundUpPow2 at found
  split at found
  · cases found
    exact ⟨isPowerOfTwo_two_pow 0, by omega⟩
  · rename_i above
    simp only at found
    split at found
    · rename_i narrow
      cases found
      refine ⟨isPowerOfTwo_two_pow _, ?_⟩
      have below : value - 1 < 2 ^ ((value - 1).log2 + 1) := Nat.lt_log2_self
      have exponent : 64 - leadingZeros (value - 1) = (value - 1).log2 + 1 := by
        unfold leadingZeros at narrow ⊢
        rw [if_neg (by omega)] at narrow ⊢
        omega
      rw [exponent]
      omega
    · cases found

theorem classIndex_eq_some {layout : Layout} {index : ClassIndex} {size : Nat}
    (found : classIndex layout = some (index, size)) :
    size = slabClasses.get index ∧ layout.size ≤ size ∧ layout.align ∣ size := by
  simp only [classIndex] at found
  split at found
  · cases found
  · rename_i rounded roundedEq
    obtain ⟨power, _⟩ := roundUpPow2_eq_some roundedEq
    have alignLe : layout.align ≤ rounded := by omega
    have alignDvd := layout.powerOfTwo.dvd power alignLe
    split at found
    · rename_i small
      cases found
      unfold minSlabSize at small ⊢
      have roundedDvd := power.dvd (isPowerOfTwo_two_pow 4) (by omega)
      exact ⟨rfl, by omega, alignDvd.trans roundedDvd⟩
    · split at found
      · cases found
      · obtain ⟨_, positionEq, pairEq⟩ := Option.map_eq_some_iff.mp found
        cases pairEq
        have listed := List.finIdxOf?_eq_some_iff.mp positionEq
        refine ⟨?_, by omega, alignDvd⟩
        simpa using listed.1.symm

theorem Layout.align_of_fromSizeAlign {size align : Nat} {layout : Layout}
    (valid : fromSizeAlign size align = some layout) : layout.align = align := by
  obtain ⟨_, ⟨⟩⟩ := Option.dite_none_right_eq_some.mp valid
  rfl

/-- The coarse tier has an empty layout only for its alignment. -/
theorem size_pos_of_classIndex_eq_none {layout other : Layout}
    (sameAlign : layout.align = other.align) (found : classIndex other ≠ none)
    (coarse : classIndex layout = none) : 0 < layout.size := by
  obtain ⟨⟨index, size⟩, slab⟩ := Option.ne_none_iff_exists'.mp found
  have classes :
      ∀ index : ClassIndex, 0 < slabClasses.get index ∧ slabClasses.get index ≤ 2 ^ 14 := by
    decide
  obtain ⟨rfl, _, divides⟩ := classIndex_eq_some slab
  have bounded := (Nat.le_of_dvd (classes index).1 divides).trans (classes index).2
  rw [← sameAlign, ← layout.powerOfTwo, Nat.pow_le_pow_iff_right (by decide)] at bounded
  by_contra zero
  unfold classIndex at coarse
  rw [Nat.eq_zero_of_not_pos zero, Nat.zero_max, ← layout.powerOfTwo] at coarse
  generalize layout.align.log2 = exponent at bounded coarse
  revert exponent
  decide

theorem minSlabSize_le_class (index : ClassIndex) : minSlabSize ≤ slabClasses.get index := by
  revert index
  decide

namespace Heap

/-! ## The first-fit walk -/

theorem alignUpPtr_eq_some {address align limit carve : Nat} (positive : 0 < align)
    (found : alignUpPtr address align limit = some carve) :
    address ≤ carve ∧ align ∣ carve ∧ carve ≤ limit := by
  unfold alignUpPtr at found
  simp only at found
  split at found
  · split at found
    · cases found
    · rename_i reached
      cases found
      have split := Nat.div_add_mod (address + (align - 1)) align
      have small := Nat.mod_lt (address + (align - 1)) positive
      rw [Nat.mul_comm] at split
      refine ⟨by omega, Nat.dvd_mul_left _ _, by omega⟩
  · cases found

variable {blocks : List Interval} {region : Interval}

theorem findFit_eq_some
    {limit size align : Nat} {fit : Fit} (found : findFit limit size align blocks = some fit) :
    blocks = fit.passed ++ fit.block :: fit.rest ∧
      alignUpPtr fit.block.start align limit = some fit.carve ∧
      wrappingAdd fit.carve size ≤ wrappingAdd fit.block.start fit.block.size := by
  induction blocks generalizing fit with
  | nil => cases found
  | cons block rest ih =>
    simp only [findFit] at found
    split at found
    · cases found
    · rename_i carve carveEq
      split at found
      · obtain ⟨_, innerEq, rfl⟩ := Option.map_eq_some_iff.mp found
        obtain ⟨listEq, alignedEq, fits⟩ := ih innerEq
        exact ⟨congrArg (block :: ·) listEq, alignedEq, fits⟩
      · rename_i fits
        cases found
        exact ⟨rfl, carveEq, Nat.le_of_not_lt fits⟩

/-- No free block is one in which the aligned carve would wrap around the
address space. -/
def CarvesInRange (heap : Heap) (size align : Nat) : Prop :=
  ∀ block ∈ heap.coarse, ∀ carve ∈ alignUpPtr block.start align heap.limit, carve + size < 2 ^ 64

instance (heap : Heap) (size align : Nat) : Decidable (heap.CarvesInRange size align) :=
  inferInstanceAs (Decidable (∀ block ∈ heap.coarse,
    ∀ carve ∈ alignUpPtr block.start align heap.limit, carve + size < 2 ^ 64))

/-- The walk found room: the carve lies in a block of the list, and nothing
wraps. -/
structure Carves (heap : Heap) (size align : Nat) (fit : Fit) : Prop where
  listed : heap.coarse = fit.passed ++ fit.block :: fit.rest
  aligned : align ∣ fit.carve
  low : fit.block.start ≤ fit.carve
  high : fit.carve + size ≤ fit.block.stop
  bounded : fit.block.stop < 2 ^ 64
  found : alignUpPtr fit.block.start align heap.limit = some fit.carve

/-- The block handed out, with the tail it may have absorbed. -/
def Fit.carved (fit : Fit) (size : Nat) : Interval :=
  ⟨fit.carve, blockSize fit.block fit.carve size⟩

/-- The coarse list without the block handed out. -/
def Fit.remaining (fit : Fit) (size : Nat) : List Interval :=
  fit.passed ++ splitPrefix fit.block fit.carve ++ splitTail fit.block fit.carve size ++ fit.rest

/-- The parts into which the block found is cut. -/
def Fit.parts (fit : Fit) (size : Nat) : List Interval :=
  splitPrefix fit.block fit.carve ++ fit.carved size :: splitTail fit.block fit.carve size

/-! ## Carving -/

section Carving

variable {heap : Heap} {size align : Nat} {fit : Fit}

section Carves

variable (carves : heap.Carves size align fit)

include carves

theorem Carves.prefix_cases :
    splitPrefix fit.block fit.carve = [⟨fit.block.start, fit.carve - fit.block.start⟩] ∧
        fit.block.start + 16 ≤ fit.carve ∨
      splitPrefix fit.block fit.carve = [] ∧ fit.carve < fit.block.start + 16 := by
  have high := carves.high
  have bounded := carves.bounded
  simp only [splitPrefix, freeHeaderSize, wrappingSub_eq carves.low (by omega)]
  by_cases wide : 16 ≤ fit.carve - fit.block.start
  · rw [if_pos wide]
    exact Or.inl ⟨rfl, by omega⟩
  · rw [if_neg wide]
    exact Or.inr ⟨rfl, by omega⟩

theorem Carves.tail_cases :
    splitTail fit.block fit.carve size = [⟨fit.carve + size, fit.block.stop - (fit.carve + size)⟩] ∧
        blockSize fit.block fit.carve size = size ∧
        fit.carve + size + 32 ≤ fit.block.stop ∨
      splitTail fit.block fit.carve size = [] ∧
        blockSize fit.block fit.carve size = fit.block.stop - fit.carve := by
  have low := carves.low
  have high := carves.high
  have bounded := carves.bounded
  have endEq : wrappingAdd fit.carve size = fit.carve + size := wrappingAdd_eq (by omega)
  have usedEq :
      wrappingSub (fit.carve + size) fit.block.start = fit.carve + size - fit.block.start :=
    wrappingSub_eq (by omega) (by omega)
  have tailEq : tailSize fit.block fit.carve size = fit.block.stop - (fit.carve + size) := by
    unfold stop at high bounded ⊢
    rw [tailSize, endEq, usedEq, wrappingSub_eq (by omega) (by omega)]
    omega
  simp only [splitTail, blockSize, endEq, tailEq, freeHeaderSize, minSlabSize]
  by_cases wide : 16 + 16 ≤ fit.block.stop - (fit.carve + size)
  · simp only [if_pos wide]
    exact Or.inl ⟨trivial, trivial, by omega⟩
  · simp only [if_neg wide]
    exact Or.inr ⟨trivial, by omega⟩

theorem Carves.carved_inside :
    (fit.carved size).Inside fit.block ∧ size ≤ (fit.carved size).size := by
  have low := carves.low
  have high := carves.high
  unfold Inside Fit.carved
  rcases carves.tail_cases with ⟨_, sizeEq, _⟩ | ⟨_, sizeEq⟩
  all_goals
    rw [sizeEq]
    simp only [stop_mk]
    omega

/-- What is cut from the block, and what of it goes back to the list. -/
theorem Carves.cuts (positive : 0 < size) :
    PairwiseApart (fit.parts size) ∧
      (∀ part ∈ fit.parts size, part.Inside fit.block) ∧
      (∀ part ∈ fit.parts size, 0 < part.size) ∧
      Separated (splitPrefix fit.block fit.carve ++ splitTail fit.block fit.carve size) := by
  have low := carves.low
  have high := carves.high
  unfold PairwiseApart Separated Fit.parts Fit.carved
  rcases carves.prefix_cases with ⟨prefixEq, _⟩ | ⟨prefixEq, _⟩ <;>
    rcases carves.tail_cases with
      ⟨tailEq, sizeEq, _⟩ | ⟨tailEq, sizeEq⟩
  all_goals
    rw [prefixEq, tailEq, sizeEq]
    simp [Apart, Inside]
    try omega

/-- Nothing is lost when the carve starts where the block does or leaves room
for a `FreeHeader` before it. -/
theorem Carves.parts_cover (whole : fit.carve = fit.block.start ∨ fit.block.start + 16 ≤ fit.carve)
    (address : Nat) (held : fit.block.Holds address) :
    Covered (fit.parts size) address := by
  have low := carves.low
  have high := carves.high
  have above := held.1
  have below := held.2
  unfold Fit.parts Fit.carved
  rcases carves.prefix_cases with ⟨prefixEq, _⟩ | ⟨prefixEq, _⟩ <;>
    rcases carves.tail_cases with
      ⟨tailEq, sizeEq, _⟩ | ⟨tailEq, sizeEq⟩
  all_goals
    rw [prefixEq, tailEq, sizeEq]
    simp [Covered, Holds]
    omega

end Carves

theorem perm_of_listed
    (listed : heap.coarse = fit.passed ++ fit.block :: fit.rest) (others : List Interval) :
    (heap.coarse ++ others).Perm (fit.block :: (fit.passed ++ fit.rest ++ others)) := by
  rw [listed]
  simp only [List.append_assoc, List.cons_append]
  exact List.perm_middle

theorem parts_perm_remaining (others : List Interval) :
    (fit.parts size ++ (fit.passed ++ fit.rest ++ others)).Perm
      (fit.remaining size ++ fit.carved size :: others) := by
  classical
  rw [List.perm_iff_count]
  intro piece
  simp only [Fit.parts, Fit.remaining, List.count_append, List.count_cons]
  omega

section Carves

variable (carves : heap.Carves size align fit)

include carves

variable {others : List Interval}

theorem Carves.packs (positive : 0 < size) (packs : Packs region (heap.coarse ++ others)) :
    Packs region (fit.remaining size ++ fit.carved size :: others) := by
  have opened := packs.perm (perm_of_listed carves.listed others)
  have cut :=
    opened.replace (carves.cuts positive).1 (carves.cuts positive).2.1 (carves.cuts positive).2.2.1
  exact cut.perm (parts_perm_remaining others)

theorem Carves.tiles (positive : 0 < size)
    (whole : fit.carve = fit.block.start ∨ fit.block.start + 16 ≤ fit.carve)
    (tiles : Tiles region (heap.coarse ++ others)) :
    Tiles region (fit.remaining size ++ fit.carved size :: others) := by
  have opened := tiles.perm (perm_of_listed carves.listed others)
  have cut := opened.replace (carves.cuts positive).1 (carves.cuts positive).2.1
    (carves.cuts positive).2.2.1 (carves.parts_cover whole)
  exact cut.perm (parts_perm_remaining others)

theorem Carves.remaining_separated (positive : 0 < size) (separated : Separated heap.coarse) :
    Separated (fit.remaining size) := by
  obtain ⟨_, inside, _, freed⟩ := carves.cuts positive
  rw [carves.listed] at separated
  have replaced := separated.replace freed fun part member => by
    refine inside part ?_
    simp only [Fit.parts, List.mem_append, List.mem_cons] at member ⊢
    tauto
  simpa only [Fit.remaining, List.append_assoc] using replaced

theorem Carves.remaining_roomy (roomy : ∀ block ∈ heap.coarse, freeHeaderSize ≤ block.size) :
    ∀ block ∈ fit.remaining size, freeHeaderSize ≤ block.size := by
  intro block member
  have low := carves.low
  simp only [Fit.remaining, List.mem_append] at member
  rcases member with ((passed | before) | after) | rest
  · exact roomy block (by simp [carves.listed, passed])
  · rcases carves.prefix_cases with ⟨prefixEq, wide⟩ | ⟨prefixEq, _⟩
    · rw [prefixEq, List.mem_singleton] at before
      subst before
      unfold freeHeaderSize
      simp only
      omega
    · rw [prefixEq] at before
      cases before
  · rcases carves.tail_cases with ⟨tailEq, _, wide⟩ | ⟨tailEq, _⟩
    · rw [tailEq, List.mem_singleton] at after
      subst after
      unfold freeHeaderSize
      simp only
      omega
    · rw [tailEq] at after
      cases after
  · exact roomy block (by simp [carves.listed, rest])

end Carves

/-- The carver either leaves the heap alone or hands out a carved block. -/
theorem coarseAllocRaw_cases
    {region : HeapRegion} (limitEq : heap.limit = wrappingAdd region.base region.size)
    (inside : ∀ block ∈ heap.coarse, block.Inside region.span)
    (positive : 0 < align) (inRange : heap.CarvesInRange size align) :
    heap.coarseAllocRaw size align = (none, heap) ∨ ∃ fit, heap.Carves size align fit ∧
      heap.coarseAllocRaw size align = (some (fit.carve, (fit.carved size).size),
        { heap with coarse := fit.remaining size }) := by
  cases found : findFit heap.limit size align heap.coarse with
  | none =>
    refine Or.inl ?_
    unfold coarseAllocRaw
    rw [found]
  | some fit =>
    obtain ⟨listed, alignedEq, fits⟩ := findFit_eq_some found
    obtain ⟨low, aligned, belowLimit⟩ := alignUpPtr_eq_some positive alignedEq
    have member : fit.block ∈ heap.coarse := by simp [listed]
    have blockInside := inside fit.block member
    have carveInRange := inRange fit.block member fit.carve (Option.mem_def.mpr alignedEq)
    have notNull := region.notNull
    have addressable := region.addressable
    have regionLow : region.base ≤ fit.block.start := blockInside.1
    have regionHigh : fit.block.stop ≤ region.base + region.size := blockInside.2
    have regionBounded : region.base + region.size < 2 ^ 64 := by
      rw [limitEq] at belowLimit
      unfold wrappingAdd at belowLimit
      omega
    have bounded : fit.block.stop < 2 ^ 64 := by omega
    have blockEnd : wrappingAdd fit.block.start fit.block.size = fit.block.stop :=
      wrappingAdd_eq bounded
    have high : fit.carve + size ≤ fit.block.stop := by
      rw [wrappingAdd_eq carveInRange, blockEnd] at fits
      exact fits
    have positiveCarve : fit.carve ≠ 0 := by omega
    have carveNotNull : nonNull fit.carve = some fit.carve := if_neg positiveCarve
    have carves : heap.Carves size align fit :=
      { listed, aligned, low, high, bounded, found := alignedEq }
    refine Or.inr ⟨fit, carves, ?_⟩
    simp only [coarseAllocRaw, found, carveNotNull]
    rfl

end Carving

/-! ## Returning a block -/

section Coalescing

variable {freed : Interval} {passed following others : List Interval}

theorem mergeSuccessor_spec (bounded : freed.stop < 2 ^ 64) (separated : Separated following)
    (later : ∀ node ∈ following, freed.stop ≤ node.start) :
    ∃ grown rest, mergeSuccessor freed following = grown :: rest ∧
      grown.start = freed.start ∧
      Separated (grown :: rest) ∧
      ∀ others, Coalesces (freed :: following ++ others) (grown :: rest ++ others) := by
  cases following with
  | nil =>
    exact ⟨freed, [], rfl, rfl, List.pairwise_singleton _ _,
      fun others => Coalesces.perm (List.Perm.refl _)⟩
  | cons successor rest =>
    have successorLater := later successor (List.mem_cons_self ..)
    obtain ⟨successorFirst, restSeparated⟩ := List.pairwise_cons.mp separated
    have endEq : wrappingAdd freed.start freed.size = freed.stop := wrappingAdd_eq bounded
    simp only [mergeSuccessor, endEq]
    by_cases adjacent : successor.start = freed.stop
    · rw [if_pos adjacent]
      refine ⟨freed.join successor, rest, rfl, rfl, ?_, fun others => Coalesces.join adjacent.symm⟩
      refine List.pairwise_cons.mpr ⟨?_, restSeparated⟩
      intro node member
      rw [stop_join adjacent.symm]
      exact successorFirst node member
    · rw [if_neg adjacent]
      refine
        ⟨freed, successor :: rest, rfl, rfl, ?_, fun others => Coalesces.perm (List.Perm.refl _)⟩
      refine List.pairwise_cons.mpr ⟨?_, separated⟩
      intro node member
      have gap : freed.stop < successor.start := by omega
      rcases List.mem_cons.mp member with rfl | inRest
      · exact gap
      · have farther := successorFirst node inRest
        have forward := successor.start_le_stop
        omega

theorem mergePredecessor_spec
    {grown : Interval} {rest : List Interval} (bounded : grown.start < 2 ^ 64)
    (passedSeparated : Separated passed) (restSeparated : Separated (grown :: rest))
    (earlier : ∀ node ∈ passed, node.stop ≤ grown.start) :
    Separated (mergePredecessor passed (grown :: rest)) ∧ ∀ others,
      Coalesces (passed ++ grown :: rest ++ others)
        (mergePredecessor passed (grown :: rest) ++ others) := by
  rcases List.eq_nil_or_concat' passed with rfl | ⟨nodes, node, rfl⟩
  · exact ⟨restSeparated, fun others => Coalesces.perm (List.Perm.refl _)⟩
  · have nodeEarlier := earlier node (by simp)
    have endEq : wrappingAdd node.start node.size = node.stop :=
      wrappingAdd_eq (by unfold stop at nodeEarlier; omega)
    obtain ⟨nodesSeparated, _, nodesFirst⟩ := List.pairwise_append.mp passedSeparated
    obtain ⟨grownFirst, tailSeparated⟩ := List.pairwise_cons.mp restSeparated
    simp only [mergePredecessor, List.getLast?_concat, endEq]
    by_cases adjacent : node.stop = grown.start
    · rw [if_pos adjacent, List.dropLast_concat]
      constructor
      · refine
          List.pairwise_append.mpr ⟨nodesSeparated, List.pairwise_cons.mpr ⟨?_, tailSeparated⟩, ?_⟩
        · intro later member
          rw [stop_join adjacent]
          exact grownFirst later member
        · intro first firstMember later laterMember
          have before := nodesFirst first firstMember node (by simp)
          rcases List.mem_cons.mp laterMember with rfl | inRest
          · exact before
          · have farther := grownFirst later inRest
            have nodeForward := node.start_le_stop
            have grownForward := grown.start_le_stop
            omega
      · intro others
        have opened :
            (nodes ++ [node] ++ grown :: rest ++ others).Perm
              (node :: grown :: (nodes ++ rest ++ others)) := by
          classical
          rw [List.perm_iff_count]
          intro piece
          simp only [List.count_append, List.count_cons, List.count_nil]
          omega
        have closed :
            (node.join grown :: (nodes ++ rest ++ others)).Perm
              (nodes ++ node.join grown :: rest ++ others) := by
          simp only [List.append_assoc, List.cons_append]
          exact List.perm_middle.symm
        have joined := Coalesces.trans (.perm opened) (.join adjacent)
        exact joined.trans (.perm closed)
    · rw [if_neg adjacent]
      refine ⟨?_, fun others => Coalesces.perm (List.Perm.refl _)⟩
      have gap : node.stop < grown.start := by omega
      refine List.pairwise_append.mpr ⟨passedSeparated, restSeparated, ?_⟩
      have nodeForward := node.start_le_stop
      have grownForward := grown.start_le_stop
      intro first firstMember later laterMember
      have firstReaches : first.stop < grown.start := by
        rcases List.mem_append.mp firstMember with inNodes | isNode
        · have before := nodesFirst first inNodes node (by simp)
          omega
        · rw [List.mem_singleton] at isNode
          subst isNode
          exact gap
      rcases List.mem_cons.mp laterMember with rfl | inRest
      · exact firstReaches
      · have farther := grownFirst later inRest
        omega

theorem takeWhile_stop_le
    (positive : 0 < freed.size) (apart : ∀ block ∈ blocks, block.Apart freed) :
    ∀ node ∈ blocks.takeWhile fun node => node.start ≤ freed.start, node.stop ≤ freed.start := by
  intro node member
  have below : node.start ≤ freed.start := by
    simpa using List.mem_takeWhile_imp member
  rcases apart node (List.takeWhile_sublist _ |>.mem member) with
    before | after
  · exact before
  · unfold stop at after
    omega

theorem stop_le_dropWhile
    (inhabited : ∀ block ∈ blocks, 0 < block.size) (separated : Separated blocks)
    (apart : ∀ block ∈ blocks, block.Apart freed) :
    ∀ node ∈ blocks.dropWhile fun node => node.start ≤ freed.start, freed.stop ≤ node.start := by
  have suffixOf :
      (blocks.dropWhile fun node => node.start ≤ freed.start).Sublist
        blocks :=
    List.dropWhile_sublist _
  have headLater :=
    List.head?_dropWhile_not (fun node : Interval => decide (node.start ≤ freed.start)) blocks
  have restSeparated := separated.sublist suffixOf
  generalize
    blocks.dropWhile (fun node => node.start ≤ freed.start) = nodes
    at suffixOf headLater restSeparated
  cases nodes with
  | nil =>
    intro node member
    cases member
  | cons first =>
    simp only [List.head?_cons, decide_eq_false_iff_not] at headLater
    have firstMember := suffixOf.mem (List.mem_cons_self ..)
    have firstLater : freed.stop ≤ first.start := by
      rcases apart first firstMember with before | after
      · have firstSize := inhabited first firstMember
        unfold stop at before
        omega
      · exact after
    intro node member
    rcases List.mem_cons.mp member with rfl | inRest
    · exact firstLater
    · have farther := (List.pairwise_cons.mp restSeparated).1 node inRest
      have forward := first.start_le_stop
      omega

/-- Returning a block adds it to the pieces of the coarse list and joins it
with its neighbours. -/
theorem coarseDealloc_spec
    {heap : Heap} (bounded : freed.stop < 2 ^ 64) (separated : Separated heap.coarse)
    (packs : Packs region (heap.coarse ++ freed :: others)) :
    Separated (heap.coarseDealloc freed.start freed.size).coarse ∧ ∀ kept,
      Coalesces (heap.coarse ++ freed :: kept)
        ((heap.coarseDealloc freed.start freed.size).coarse ++ kept) := by
  have apart : ∀ block ∈ heap.coarse, block.Apart freed := by
    intro block member
    obtain ⟨_, _, between⟩ := List.pairwise_append.mp packs.apart
    exact between block member freed (List.mem_cons_self ..)
  have positive : 0 < freed.size := packs.inhabited freed (by simp)
  have inhabited : ∀ block ∈ heap.coarse, 0 < block.size := by
    intro block member
    exact packs.inhabited block (List.mem_append_left _ member)
  have earlier := takeWhile_stop_le positive apart
  have later := stop_le_dropWhile inhabited separated apart
  have passedSeparated :=
    separated.sublist (List.takeWhile_sublist fun node => decide (node.start ≤ freed.start))
  have followingSeparated :=
    separated.sublist (List.dropWhile_sublist fun node => decide (node.start ≤ freed.start))
  have listed := List.takeWhile_append_dropWhile
    (p := fun node : Interval => decide (node.start ≤ freed.start)) (l := heap.coarse)
  obtain ⟨grown, rest, grownEq, startEq, restSeparated, grows⟩ :=
    mergeSuccessor_spec bounded followingSeparated later
  have startBounded : grown.start < 2 ^ 64 := by
    have forward := freed.start_le_stop
    omega
  obtain ⟨result, links⟩ := mergePredecessor_spec startBounded passedSeparated restSeparated
    (by rw [startEq]; exact earlier)
  simp only [coarseDealloc, grownEq]
  refine ⟨result, ?_⟩
  intro kept
  generalize heap.coarse.takeWhile (fun node => node.start ≤ freed.start) = passed at links listed ⊢
  generalize
    heap.coarse.dropWhile (fun node => node.start ≤ freed.start) = following at grows listed
  have opened : (heap.coarse ++ freed :: kept).Perm (freed :: following ++ (passed ++ kept)) := by
    classical
    rw [← listed, List.perm_iff_count]
    intro piece
    simp only [List.count_append, List.count_cons]
    omega
  have closed : (grown :: rest ++ (passed ++ kept)).Perm (passed ++ grown :: rest ++ kept) := by
    classical
    rw [List.perm_iff_count]
    intro piece
    simp only [List.count_append, List.count_cons]
    omega
  have grownPieces := Coalesces.trans (.perm opened) (grows _)
  have linked := grownPieces.trans (.perm closed)
  exact linked.trans (links kept)

end Coalescing

end Heap

end Xenith.Mm
