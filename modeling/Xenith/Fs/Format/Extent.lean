import Xenith.Lib.Word

/-!
# Extents of XenithFS

The extent map of an inode and its checks.
-/

namespace Xenith.Fs.Format

structure Extent where
  logicalBlock : Nat
  physicalBlock : Nat
  blockCount : Nat
  flags : UInt32
deriving DecidableEq, Repr

inductive ExtentError where
  | zeroLength
  | unsupportedFlags
  | logicalOverlap
  | physicalOutOfBounds
  | physicalOverlap
  | overflow
deriving DecidableEq, Repr

namespace Extent

def unwritten : UInt32 := 1

def logicalEnd (extent : Extent) : Option Nat :=
  checkedAdd extent.logicalBlock extent.blockCount

def physicalEnd (extent : Extent) : Option Nat :=
  checkedAdd extent.physicalBlock extent.blockCount

def physicalFits (extent : Extent) (dataStart totalBlocks : Nat) : Bool :=
  decide (dataStart ≤ extent.physicalBlock) &&
    match extent.physicalEnd with
    | none => false
    | some stop => decide (stop ≤ totalBlocks)

end Extent

/-- The first loop of `validate_extents`. -/
def checkExtents (dataStart totalBlocks : Nat) : Nat → List Extent → Except ExtentError Unit
  | _, [] => .ok ()
  | logicalEnd, extent :: rest =>
    if extent.blockCount = 0 then .error .zeroLength
    else if extent.flags &&& ~~~Extent.unwritten ≠ 0 then .error .unsupportedFlags
    else if extent.logicalBlock < logicalEnd then .error .logicalOverlap
    else if extent.physicalFits dataStart totalBlocks = false then .error .physicalOutOfBounds
    else
      match extent.logicalEnd with
      | none => .error .overflow
      | some stop => checkExtents dataStart totalBlocks stop rest

def checkOverlap (left : Extent) (leftEnd : Nat) : List Extent → Except ExtentError Unit
  | [] => .ok ()
  | right :: rest =>
    match right.physicalEnd with
    | none => .error .overflow
    | some rightEnd =>
      if left.physicalBlock < rightEnd ∧ right.physicalBlock < leftEnd then .error .physicalOverlap
      else checkOverlap left leftEnd rest

/-- The second loop of `validate_extents`. -/
def checkOverlaps : List Extent → Except ExtentError Unit
  | [] => .ok ()
  | left :: rest =>
    match left.physicalEnd with
    | none => .error .overflow
    | some leftEnd =>
      match checkOverlap left leftEnd rest with
      | .error error => .error error
      | .ok () => checkOverlaps rest

def validateExtents (extents : List Extent) (dataStart totalBlocks : Nat) :
    Except ExtentError Unit :=
  match checkExtents dataStart totalBlocks 0 extents with
  | .error error => .error error
  | .ok () => checkOverlaps extents

namespace Extent

structure InBounds (dataStart totalBlocks : Nat) (extent : Extent) : Prop where
  positive : 0 < extent.blockCount
  flags : extent.flags &&& ~~~unwritten = 0
  lower : dataStart ≤ extent.physicalBlock
  upper : extent.physicalBlock + extent.blockCount ≤ totalBlocks
  logical : extent.logicalBlock + extent.blockCount < 2 ^ 64

def Before (first second : Extent) : Prop :=
  first.logicalBlock + first.blockCount ≤ second.logicalBlock

def Apart (first second : Extent) : Prop :=
  first.physicalBlock + first.blockCount ≤ second.physicalBlock ∨
    second.physicalBlock + second.blockCount ≤ first.physicalBlock

end Extent

structure ValidExtents (dataStart totalBlocks : Nat) (extents : List Extent) : Prop where
  bounds : ∀ extent ∈ extents, extent.InBounds dataStart totalBlocks
  ordered : extents.Pairwise Extent.Before
  apart : extents.Pairwise Extent.Apart

section Checks

variable {dataStart totalBlocks : Nat}

theorem physicalFits_iff {extent : Extent} (word : totalBlocks < 2 ^ 64) :
    extent.physicalFits dataStart totalBlocks = true ↔ dataStart ≤ extent.physicalBlock ∧
      extent.physicalBlock + extent.blockCount ≤ totalBlocks := by
  unfold Extent.physicalFits Extent.physicalEnd
  by_cases fits : extent.physicalBlock + extent.blockCount < 2 ^ 64
  · rw [checkedAdd_of_lt fits]
    simp
  · cases added : checkedAdd extent.physicalBlock extent.blockCount with
    | none =>
      simp only [Bool.and_false, Bool.false_eq_true, false_iff]
      omega
    | some =>
      have sum := checkedAdd_eq_some added
      omega

variable {extents : List Extent}

theorem checkExtents_eq_ok (word : totalBlocks < 2 ^ 64) {logicalEnd : Nat} :
    checkExtents dataStart totalBlocks logicalEnd extents = .ok () ↔ (∀ extent ∈ extents,
      extent.InBounds dataStart totalBlocks ∧ logicalEnd ≤ extent.logicalBlock) ∧
      extents.Pairwise Extent.Before := by
  constructor
  · intro checked
    fun_induction checkExtents dataStart totalBlocks logicalEnd extents with
    | case1 => simp
    | case7 logicalEnd extent rest positive flags after fits stop added ih =>
      rw [Bool.not_eq_false, physicalFits_iff word] at fits
      obtain ⟨_, _⟩ := checkedAdd_eq_some added
      obtain ⟨later, ordered⟩ := ih checked
      have bounds : extent.InBounds dataStart totalBlocks :=
        ⟨by omega, not_not.mp flags, fits.1, fits.2, by omega⟩
      rw [List.pairwise_cons, List.forall_mem_cons]
      refine ⟨⟨⟨bounds, by omega⟩, ?_⟩, ?_, ordered⟩
      · intro other member
        have facts := later other member
        exact ⟨facts.1, by omega⟩
      · intro other member
        have facts := later other member
        unfold Extent.Before
        omega
    | _ => cases checked
  · induction extents generalizing logicalEnd with
    | nil => exact fun _ => rfl
    | cons extent rest ih =>
      rw [List.pairwise_cons, List.forall_mem_cons]
      rintro ⟨⟨⟨bounds, after⟩, later⟩, before, ordered⟩
      have positive := bounds.positive
      have fits : extent.physicalFits dataStart totalBlocks = true :=
        (physicalFits_iff word).mpr ⟨bounds.lower, bounds.upper⟩
      have stop : extent.logicalEnd = some (extent.logicalBlock + extent.blockCount) :=
        checkedAdd_of_lt bounds.logical
      rw [checkExtents, if_neg (by omega),
        if_neg (not_not.mpr bounds.flags), if_neg (by omega), fits, if_neg (by decide), stop]
      apply ih
      refine ⟨?_, ordered⟩
      intro other member
      exact ⟨(later other member).1, before other member⟩

theorem checkOverlap_eq_ok {left : Extent} {rest : List Extent}
    (fits : ∀ right ∈ rest, right.physicalBlock + right.blockCount < 2 ^ 64) :
    checkOverlap left (left.physicalBlock + left.blockCount) rest = .ok () ↔
      ∀ right ∈ rest, left.Apart right := by
  induction rest with
  | nil => simp [checkOverlap]
  | cons right rest ih =>
    have stop : right.physicalEnd = some (right.physicalBlock + right.blockCount) :=
      checkedAdd_of_lt (fits right (List.mem_cons_self ..))
    have later := ih fun other member => fits other (List.mem_cons_of_mem _ member)
    unfold checkOverlap
    rw [stop, List.forall_mem_cons]
    simp only
    split
    · next overlap =>
      simp only [reduceCtorEq, false_iff]
      intro apart
      unfold Extent.Apart at apart
      omega
    · next separate =>
      rw [later]
      constructor
      · intro rest
        refine ⟨?_, rest⟩
        unfold Extent.Apart
        omega
      · exact And.right

theorem checkOverlaps_eq_ok
    (fits : ∀ extent ∈ extents, extent.physicalBlock + extent.blockCount < 2 ^ 64) :
    checkOverlaps extents = .ok () ↔ extents.Pairwise Extent.Apart := by
  induction extents with
  | nil => simp [checkOverlaps]
  | cons left rest ih =>
    have stop : left.physicalEnd = some (left.physicalBlock + left.blockCount) :=
      checkedAdd_of_lt (fits left (List.mem_cons_self ..))
    have restFits : ∀ extent ∈ rest, extent.physicalBlock + extent.blockCount < 2 ^ 64 := by
      intro other member
      exact fits other (List.mem_cons_of_mem _ member)
    have first :
        checkOverlap left (left.physicalBlock + left.blockCount) rest = .ok () ↔
          ∀ right ∈ rest, left.Apart right :=
      checkOverlap_eq_ok restFits
    unfold checkOverlaps
    rw [stop, List.pairwise_cons, ← first, ← ih restFits]
    simp only
    cases checkOverlap left (left.physicalBlock + left.blockCount) rest with
    | error error => simp
    | ok => simp

theorem validateExtents_eq_ok (word : totalBlocks < 2 ^ 64) :
    validateExtents extents dataStart totalBlocks = .ok () ↔
      ValidExtents dataStart totalBlocks extents := by
  have first :
      checkExtents dataStart totalBlocks 0 extents = .ok () ↔
        (∀ extent ∈ extents, extent.InBounds dataStart totalBlocks) ∧
          extents.Pairwise Extent.Before := by
    rw [checkExtents_eq_ok word]
    simp
  unfold validateExtents
  constructor
  · intro validated
    cases checked : checkExtents dataStart totalBlocks 0 extents with
    | error error =>
      rw [checked] at validated
      cases validated
    | ok =>
      rw [checked] at validated
      obtain ⟨bounds, ordered⟩ := first.mp checked
      refine ⟨bounds, ordered, (checkOverlaps_eq_ok ?_).mp validated⟩
      intro extent member
      have upper := (bounds extent member).upper
      omega
  · rintro ⟨bounds, ordered, apart⟩
    rw [first.mpr ⟨bounds, ordered⟩]
    apply (checkOverlaps_eq_ok _).mpr apart
    intro extent member
    have upper := (bounds extent member).upper
    omega

end Checks

end Xenith.Fs.Format
