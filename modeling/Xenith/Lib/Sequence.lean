import Mathlib

/-!
# Sequence numbers that wrap

A number of 32 bits stands for every position of an unbounded stream that is
congruent to it.  Comparisons are those of the positions as long as these are
less than half of the number space apart.
-/

namespace Xenith.Sequence

abbrev Number := BitVec 32

/-- The sign of the difference is negative. -/
def before (left right : Number) : Bool :=
  decide (2 ^ 31 ≤ (left - right).toNat)

def beforeEq (left right : Number) : Bool :=
  decide (left = right) || before left right

def after (left right : Number) : Bool :=
  before right left

/-- The number of a position, counted from `base`. -/
def numberAt (base : Number) (position : Int) : Number :=
  base + BitVec.ofInt 32 position

section Positions

variable {base : Number} {left right : Int}

@[simp]
theorem numberAt_zero (base : Number) : numberAt base 0 = base := by
  simp [numberAt]

theorem numberAt_add (base : Number) (position count : Int) :
    numberAt base (position + count) = numberAt base position + BitVec.ofInt 32 count := by
  simp [numberAt, BitVec.ofInt_add, BitVec.add_assoc]

/-- Positions and their numbers have congruent differences. -/
theorem toNat_numberAt_sub (base : Number) (left right : Int) :
    ((numberAt base left - numberAt base right).toNat : Int) = (left - right) % 2 ^ 32 := by
  simp only [numberAt, BitVec.toNat_sub, BitVec.toNat_add, BitVec.toNat_ofInt]
  omega

theorem before_numberAt (low : left - right < 2 ^ 31) (high : right - left ≤ 2 ^ 31) :
    before (numberAt base left) (numberAt base right) = true ↔ left < right := by
  have difference := toNat_numberAt_sub base left right
  rw [before, decide_eq_true_eq]
  omega

theorem numberAt_inj (low : left - right < 2 ^ 32) (high : right - left < 2 ^ 32) :
    numberAt base left = numberAt base right ↔ left = right := by
  constructor
  · intro same
    have difference := toNat_numberAt_sub base left right
    rw [same, BitVec.sub_self] at difference
    simp only [BitVec.toNat_ofNat] at difference
    omega
  · intro same
    rw [same]

/-- Every number is that of a position within one turn of another one. -/
theorem exists_numberAt (base number : Number) (position : Int) :
    ∃ distance : Nat, distance < 2 ^ 32 ∧ number = numberAt base (position + distance) := by
  refine ⟨(number - numberAt base position).toNat, BitVec.isLt _, ?_⟩
  rw [numberAt_add, BitVec.ofInt_natCast, BitVec.ofNat_toNat]
  simp

/-- A number that is after one position but not after another, close one lies
between them. -/
theorem between_of_after {number : Number} (ordered : left ≤ right) (close : right - left < 2 ^ 31)
    (afterLeft : after number (numberAt base left) = true)
    (notAfterRight : after number (numberAt base right) = false) :
    ∃ position, left < position ∧ position ≤ right ∧ number = numberAt base position := by
  obtain ⟨distance, _, rfl⟩ := exists_numberAt base number left
  refine ⟨left + distance, ?_, ?_, rfl⟩
  all_goals
    have fromLeft := toNat_numberAt_sub base left (left + distance)
    have fromRight := toNat_numberAt_sub base right (left + distance)
    rw [after, before, decide_eq_true_eq] at afterLeft
    rw [after, before, decide_eq_false_iff_not] at notAfterRight
    omega

end Positions

attribute [irreducible] numberAt

end Xenith.Sequence
