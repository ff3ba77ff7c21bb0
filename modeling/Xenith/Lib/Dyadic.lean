import Mathlib

/-!
# Dyadic runs

A dyadic run of order `k` is a block of `2 ^ k` consecutive naturals that starts
at a multiple of `2 ^ k`.  Among free points a run is maximal up to a limiting
order when it is full and its parent is not; the maximal runs partition the
free points.
-/

namespace Xenith.Dyadic

structure Run where
  order : Nat
  index : Nat
deriving DecidableEq, Repr

namespace Run

def Holds (run : Run) (point : Nat) : Prop :=
  point / 2 ^ run.order = run.index

def start (run : Run) : Nat :=
  run.index * 2 ^ run.order

def parent (run : Run) : Run :=
  ⟨run.order + 1, run.index / 2⟩

/-- The other half of the parent. -/
def sibling (run : Run) : Run :=
  ⟨run.order, run.index ^^^ 1⟩

/-- The run of the given order that holds a point. -/
def around (order point : Nat) : Run :=
  ⟨order, point / 2 ^ order⟩

theorem holds_around (order point : Nat) : (around order point).Holds point :=
  rfl

variable {point : Nat} {run : Run}

theorem eq_around (holds : run.Holds point) : run = around run.order point := by
  cases run with
  | mk order =>
    simp only [around, Run.mk.injEq, true_and]
    exact Eq.symm holds

theorem holds_start (run : Run) : run.Holds run.start := by
  have positive : 0 < 2 ^ run.order := Nat.two_pow_pos _
  exact Nat.mul_div_cancel run.index positive

theorem eq_of_start_eq {first second : Run} (sameOrder : first.order = second.order)
    (sameStart : first.start = second.start) : first = second := by
  cases first with
  | mk order =>
    cases second with
    | mk =>
      cases sameOrder
      have positive : 0 < 2 ^ order := Nat.two_pow_pos _
      simp only [start] at sameStart
      have sameIndex := Nat.eq_of_mul_eq_mul_right positive sameStart
      rw [sameIndex]

theorem start_around {order : Nat} (aligned : 2 ^ order ∣ point) :
    (around order point).start = point :=
  Nat.div_mul_cancel aligned

theorem holds_iff : run.Holds point ↔ run.start ≤ point ∧ point < run.start + 2 ^ run.order := by
  have positive : 0 < 2 ^ run.order := Nat.two_pow_pos _
  rw [Holds, start, Nat.div_eq_iff positive]
  constructor
  · rintro ⟨low, high⟩
    omega
  · rintro ⟨low, high⟩
    omega

theorem eq_of_holds {first second : Run} (sameOrder : first.order = second.order)
    (inFirst : first.Holds point) (inSecond : second.Holds point) :
    first = second := by
  rw [eq_around inFirst, eq_around inSecond, sameOrder]

/-- Runs that share a point are nested. -/
theorem holds_of_holds {inner outer : Run} {shared : Nat} (ordered : inner.order ≤ outer.order)
    (sharedInner : inner.Holds shared) (sharedOuter : outer.Holds shared)
    (holds : inner.Holds point) : outer.Holds point := by
  obtain ⟨_, orderEq⟩ := Nat.exists_eq_add_of_le ordered
  unfold Holds at *
  rw [orderEq, Nat.pow_add, ← Nat.div_div_eq_div_mul] at sharedOuter ⊢
  rw [holds, ← sharedOuter, sharedInner]

theorem parent_holds (holds : run.Holds point) : run.parent.Holds point := by
  unfold Holds at *
  simp only [parent, Nat.pow_succ, ← Nat.div_div_eq_div_mul, holds]

theorem parent_around (order point : Nat) :
    (around order point).parent = around (order + 1) point :=
  eq_around (parent_holds (holds_around order point))

theorem xor_one_div_two (index : Nat) : (index ^^^ 1) / 2 = index / 2 := by
  simp [Nat.xor_div_two]

theorem xor_one_cases (index : Nat) :
    index % 2 = 0 ∧ index ^^^ 1 = index + 1 ∨ index % 2 = 1 ∧ index ^^^ 1 = index - 1 := by
  have half := xor_one_div_two index
  have parity : (index ^^^ 1) % 2 = (index + 1) % 2 := by
    simp
  omega

theorem parent_sibling (run : Run) : run.sibling.parent = run.parent := by
  simp [parent, sibling, xor_one_div_two]

theorem sibling_ne (run : Run) : run.sibling ≠ run := by
  cases run with
  | mk _ index =>
    have cases := xor_one_cases index
    simp only [sibling, ne_eq, Run.mk.injEq]
    omega

theorem sibling_sibling (run : Run) : run.sibling.sibling = run := by
  cases run with
  | mk => simp [sibling]

/-- A parent consists of a run and its sibling. -/
theorem holds_parent_iff : run.parent.Holds point ↔ run.Holds point ∨ run.sibling.Holds point := by
  constructor
  · intro holds
    unfold Holds at *
    simp only [parent, Nat.pow_succ, ← Nat.div_div_eq_div_mul, sibling] at *
    have cases := xor_one_cases run.index
    omega
  · intro holds
    rcases holds with own | other
    · exact parent_holds own
    · rw [← parent_sibling]
      exact parent_holds other

theorem start_sibling (run : Run) : run.sibling.start = run.start ^^^ 2 ^ run.order := by
  have shifted := Nat.shiftLeft_xor_distrib (a := run.index) (b := 1) (i := run.order)
  simpa [start, sibling, Nat.shiftLeft_eq] using shifted

theorem min_start_sibling (run : Run) : min run.start run.sibling.start = run.parent.start := by
  have doubled : run.parent.start = 2 * (run.index / 2) * 2 ^ run.order := by
    simp only [start, parent]
    ring
  rw [doubled]
  simp only [start, sibling]
  rcases xor_one_cases run.index with ⟨even, up⟩ | ⟨odd, down⟩
  · have lower : 2 * (run.index / 2) = run.index := by omega
    rw [lower]
    exact Nat.min_eq_left (Nat.mul_le_mul_right _ (by omega))
  · have lower : 2 * (run.index / 2) = run.index - 1 := by omega
    rw [lower, down]
    exact Nat.min_eq_right (Nat.mul_le_mul_right _ (by omega))

/-! ## Full and maximal runs -/

def Full (free : Nat → Prop) (run : Run) : Prop :=
  ∀ point, run.Holds point → free point

structure Maximal (limit : Nat) (free : Nat → Prop) (run : Run) : Prop where
  bounded : run.order ≤ limit
  full : run.Full free
  parentNotFull : run.order < limit → ¬ run.parent.Full free

section Maximal

variable {limit : Nat} {free : Nat → Prop} {run other inner outer : Run} {point : Nat}

theorem Full.nested (full : outer.Full free) (ordered : inner.order ≤ outer.order)
    (inInner : inner.Holds point) (inOuter : outer.Holds point) :
    inner.Full free :=
  fun _ holds => full _ (holds_of_holds ordered inInner inOuter holds)

theorem Full.parent (full : run.Full free)
    (siblingFull : run.sibling.Full free) : run.parent.Full free := by
  intro point holds
  rcases holds_parent_iff.mp holds with own | other
  · exact full point own
  · exact siblingFull point other

theorem Maximal.eq_of_holds
    (maximal : run.Maximal limit free) (otherMaximal : other.Maximal limit free)
    (inRun : run.Holds point) (inOther : other.Holds point) :
    run = other := by
  have noLarger :
      ∀ {small large : Run}, small.Maximal limit free → large.Maximal limit free →
        small.Holds point → large.Holds point → large.order ≤ small.order := by
    intro small large smallMaximal largeMaximal inSmall inLarge
    by_contra larger
    have bounded := largeMaximal.bounded
    have below : small.order < limit := by omega
    have orderEq : small.parent.order = small.order + 1 := rfl
    apply smallMaximal.parentNotFull below
    apply largeMaximal.full.nested _ (parent_holds inSmall) inLarge
    omega
  have first := noLarger maximal otherMaximal inRun inOther
  have second := noLarger otherMaximal maximal inOther inRun
  exact Run.eq_of_holds (by omega) inRun inOther

/-- Every full run lies in a maximal one. -/
theorem Full.exists_maximal
    (full : run.Full free) (bounded : run.order ≤ limit) (holds : run.Holds point) :
    ∃ largest : Run,
      largest.Maximal limit free ∧ run.order ≤ largest.order ∧ largest.Holds point := by
  obtain ⟨gap, _⟩ := Nat.exists_eq_add_of_le bounded
  induction gap generalizing run with
  | zero =>
    refine ⟨run, ⟨bounded, full, ?_⟩, Nat.le_refl _, holds⟩
    omega
  | succ gap ih =>
    by_cases parentFull : run.parent.Full free
    · have parentOrder : run.parent.order = run.order + 1 := rfl
      obtain ⟨largest, maximal, _, inLargest⟩ :=
        ih parentFull (by omega) (parent_holds holds) (by omega)
      exact ⟨largest, maximal, by omega, inLargest⟩
    · exact ⟨run, ⟨bounded, full, fun _ => parentFull⟩, Nat.le_refl _, holds⟩

theorem exists_maximal_of_free (isFree : free point) :
    ∃ largest : Run, largest.Maximal limit free ∧ largest.Holds point := by
  have unitFull : (around 0 point).Full free := by
    intro other holds
    have equal : other = point := by
      simpa [Holds, around] using holds
    rw [equal]
    exact isFree
  obtain ⟨largest, maximal, _, holds⟩ :=
    unitFull.exists_maximal (Nat.zero_le limit) (holds_around 0 point)
  exact ⟨largest, maximal, holds⟩

/-- Two siblings are never both maximal below the limit. -/
theorem Maximal.sibling_not_full (maximal : run.Maximal limit free) (below : run.order < limit) :
    ¬ run.sibling.Full free := by
  intro siblingFull
  exact maximal.parentNotFull below (maximal.full.parent siblingFull)

theorem Maximal.congr {others : Nat → Prop} (same : ∀ point, free point ↔ others point)
    (maximal : run.Maximal limit free) : run.Maximal limit others where
  bounded := maximal.bounded
  full := fun point holds => (same point).mp (maximal.full point holds)
  parentNotFull := by
    intro below parentFull
    apply maximal.parentNotFull below
    intro point holds
    exact (same point).mpr (parentFull point holds)

end Maximal

/-! ## Taking and adding the points of one run -/

section Change

variable {limit : Nat} {free changed : Nat → Prop} {run part block : Run} {point : Nat}

theorem parent_holds_start (run : Run) : run.parent.Holds run.start :=
  parent_holds (holds_start run)

/-- A run apart from `part` whose parent meets `part` is the sibling of a run
around `part`. -/
theorem eq_sibling_around {shared : Nat} (apart : ∀ other, run.Holds other → ¬ part.Holds other)
    (inParent : run.parent.Holds shared) (sharedPart : part.Holds shared)
    (inPart : part.Holds point) :
    part.order ≤ run.order ∧ run = (around run.order point).sibling := by
  have ordered : part.order ≤ run.order := by
    by_contra larger
    have parentLe : run.parent.order ≤ part.order := by
      have parentOrder : run.parent.order = run.order + 1 := rfl
      omega
    have startInPart := holds_of_holds parentLe inParent sharedPart (parent_holds_start run)
    exact apart run.start (holds_start run) startInPart
  have inSibling : run.sibling.Holds shared := by
    rcases holds_parent_iff.mp inParent with own | other
    · exact absurd sharedPart (apart shared own)
    · exact other
  have pointInSibling : run.sibling.Holds point :=
    holds_of_holds ordered sharedPart inSibling inPart
  refine ⟨ordered, ?_⟩
  have siblingEq : run.sibling = around run.order point := eq_around pointInSibling
  rw [← siblingEq, sibling_sibling]

/-- The sibling of a run around `part` inside `block` lies in `block` and is
apart from `part`. -/
theorem sibling_around_holds
    {order other : Nat} (below : order < block.order) (inBlock : block.Holds point)
    (holds : (around order point).sibling.Holds other) :
    block.Holds other := by
  have parentLe : (around order point).parent.order ≤ block.order := below
  have inParent : (around order point).parent.Holds other := holds_parent_iff.mpr (Or.inr holds)
  exact holds_of_holds parentLe (parent_holds (holds_around order point)) inBlock inParent

theorem sibling_around_apart
    {order other : Nat} (ordered : part.order ≤ order) (inPart : part.Holds point)
    (holds : (around order point).sibling.Holds other) :
    ¬ part.Holds other := by
  intro otherInPart
  have inAround : (around order point).Holds other :=
    holds_of_holds ordered inPart (holds_around order point) otherInPart
  exact sibling_ne _ (Run.eq_of_holds rfl holds inAround)

/-- The maximal runs after the points of `part`, inside the maximal run
`block`, are taken away. -/
theorem maximal_take_iff (maximal : block.Maximal limit free) (ordered : part.order ≤ block.order)
    (inPart : part.Holds point) (inBlock : block.Holds point)
    (taken : ∀ other, changed other ↔ free other ∧ ¬ part.Holds other) :
    run.Maximal limit changed ↔ run.Maximal limit free ∧ run ≠ block ∨
      ∃ order, part.order ≤ order ∧ order < block.order ∧ run = (around order point).sibling := by
  have partInBlock : ∀ other, part.Holds other → block.Holds other :=
    fun _ => holds_of_holds ordered inPart inBlock
  constructor
  · intro runMaximal
    have runFull : run.Full free := fun other holds =>
      ((taken other).mp (runMaximal.full other holds)).1
    have apart : ∀ other, run.Holds other → ¬ part.Holds other :=
      fun other holds => ((taken other).mp (runMaximal.full other holds)).2
    have parentMeets :
        run.order < limit → run.parent.Full free →
          ∃ shared, run.parent.Holds shared ∧ part.Holds shared := by
      intro below parentFull
      by_contra noneShared
      apply runMaximal.parentNotFull below
      intro other holds
      refine (taken other).mpr ⟨parentFull other holds, ?_⟩
      intro otherInPart
      exact noneShared ⟨other, holds, otherInPart⟩
    by_cases meets : ∃ shared, run.Holds shared ∧ block.Holds shared
    · obtain ⟨shared, inRun, sharedInBlock⟩ := meets
      have smaller : run.order < block.order := by
        by_contra larger
        have pointInRun : run.Holds point := holds_of_holds (by omega) sharedInBlock inRun inBlock
        exact apart point pointInRun inPart
      have parentLe : run.parent.order ≤ block.order := smaller
      have parentFull : run.parent.Full free :=
        maximal.full.nested parentLe (parent_holds inRun) sharedInBlock
      have below : run.order < limit := Nat.lt_of_lt_of_le smaller maximal.bounded
      obtain ⟨meeting, inParent, meetingPart⟩ := parentMeets below parentFull
      obtain ⟨partLe, siblingEq⟩ := eq_sibling_around apart inParent meetingPart inPart
      exact Or.inr ⟨run.order, partLe, smaller, siblingEq⟩
    · refine Or.inl ⟨⟨runMaximal.bounded, runFull, ?_⟩, ?_⟩
      · intro below parentFull
        obtain ⟨meeting, inParent, meetingPart⟩ := parentMeets below parentFull
        have meetingBlock := partInBlock meeting meetingPart
        by_cases inside : run.parent.order ≤ block.order
        · have startInBlock := holds_of_holds inside inParent meetingBlock (parent_holds_start run)
          exact meets ⟨run.start, holds_start run, startInBlock⟩
        · have parentOrder : run.parent.order = run.order + 1 := rfl
          have blockParentOrder : block.parent.order = block.order + 1 := rfl
          apply maximal.parentNotFull (by omega)
          exact parentFull.nested (by omega) (parent_holds meetingBlock) inParent
      · rintro rfl
        exact meets ⟨point, inBlock, inBlock⟩
  · rintro (⟨runMaximal, different⟩ | ⟨order, partLe, below, rfl⟩)
    · refine ⟨runMaximal.bounded, ?_, ?_⟩
      · intro other holds
        refine (taken other).mpr ⟨runMaximal.full other holds, ?_⟩
        intro otherInPart
        exact different (runMaximal.eq_of_holds maximal holds (partInBlock other otherInPart))
      · intro below parentFull
        apply runMaximal.parentNotFull below
        intro other holds
        exact ((taken other).mp (parentFull other holds)).1
    · refine ⟨?_, ?_, ?_⟩
      · have bounded := maximal.bounded
        have orderEq : (around order point).sibling.order = order := rfl
        omega
      · intro other holds
        refine (taken other).mpr ⟨?_, ?_⟩
        · exact maximal.full other (sibling_around_holds below inBlock holds)
        · exact sibling_around_apart partLe inPart holds
      · intro _ parentFull
        rw [parent_sibling] at parentFull
        have pointFree := parentFull point (parent_holds (holds_around order point))
        exact ((taken point).mp pointFree).2 inPart

/-- The maximal runs after the points of `part` are added, where `block` is
the run around `part` up to which siblings were free. -/
theorem maximal_add_iff (ordered : part.order ≤ block.order) (bounded : block.order ≤ limit)
    (inPart : part.Holds point) (inBlock : block.Holds point)
    (added : ∀ other, changed other ↔ free other ∨ part.Holds other)
    (fresh : ∀ other, part.Holds other → ¬ free other) (full : block.Full changed)
    (stopped : block.order < limit → ¬ block.sibling.Maximal limit free) :
    run.Maximal limit changed ↔ run = block ∨ run.Maximal limit free ∧
      ¬ ∃ order, part.order ≤ order ∧ order < block.order ∧ run = (around order point).sibling := by
  have partInBlock : ∀ other, part.Holds other → block.Holds other :=
    fun _ => holds_of_holds ordered inPart inBlock
  have blockMaximal : block.Maximal limit changed := by
    refine ⟨bounded, full, ?_⟩
    intro below parentFull
    apply stopped below
    refine ⟨bounded, ?_, ?_⟩
    · intro other holds
      have otherChanged := parentFull other (holds_parent_iff.mpr (Or.inr holds))
      rcases (added other).mp otherChanged with isFree | otherInPart
      · exact isFree
      · have inBoth := partInBlock other otherInPart
        have equal : block.sibling = block := Run.eq_of_holds rfl holds inBoth
        exact absurd equal (sibling_ne block)
    · intro _ siblingParentFull
      rw [parent_sibling] at siblingParentFull
      exact fresh point inPart (siblingParentFull point (parent_holds inBlock))
  -- taking the points of `part` away again leads back to `free`
  have taken : ∀ other, free other ↔ changed other ∧ ¬ part.Holds other := by
    intro other
    rw [added other]
    tauto
  have maximalFree :
      run.Maximal limit free ↔ run.Maximal limit changed ∧ run ≠ block ∨
        ∃ order, part.order ≤ order ∧ order < block.order ∧ run = (around order point).sibling :=
    maximal_take_iff blockMaximal ordered inPart inBlock taken
  constructor
  · intro runMaximal
    by_cases same : run = block
    · exact Or.inl same
    · refine Or.inr ⟨maximalFree.mpr (Or.inl ⟨runMaximal, same⟩), ?_⟩
      rintro ⟨order, _, below, rfl⟩
      have startHolds := holds_start (around order point).sibling
      exact same (runMaximal.eq_of_holds blockMaximal startHolds
        (sibling_around_holds below inBlock startHolds))
  · rintro (rfl | ⟨runMaximal, notAbsorbed⟩)
    · exact blockMaximal
    · rcases maximalFree.mp runMaximal with kept | absorbed
      · exact kept.1
      · exact absurd absorbed notAbsorbed

end Change

end Run

end Xenith.Dyadic
