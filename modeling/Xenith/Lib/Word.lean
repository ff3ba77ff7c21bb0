import Mathlib

/-!
# Arithmetic of 64-bit words

Words are naturals below `2 ^ 64`.  The operations are those of the machine:
wrapping addition and subtraction, powers of two and the counts of leading and
trailing zeros.
-/

namespace Xenith

def wrappingAdd (left right : Nat) : Nat :=
  (left + right) % 2 ^ 64

def wrappingSub (left right : Nat) : Nat :=
  (left + 2 ^ 64 - right) % 2 ^ 64

/-- The sum, or `none` when it does not fit a word. -/
def checkedAdd (left right : Nat) : Option Nat :=
  if left + right < 2 ^ 64 then some (left + right) else none

def toAsciiLowercase (byte : UInt8) : UInt8 :=
  if 65 ≤ byte ∧ byte ≤ 90 then byte + 32 else byte

variable {left right sum value exponent : Nat}

theorem checkedAdd_eq_some (fits : checkedAdd left right = some sum) :
    left + right = sum ∧ sum < 2 ^ 64 := by
  unfold checkedAdd at fits
  split at fits
  · cases fits
    exact ⟨rfl, by assumption⟩
  · cases fits

theorem checkedAdd_of_lt (bounded : left + right < 2 ^ 64) :
    checkedAdd left right = some (left + right) :=
  if_pos bounded

/-- The product, or `none` when it does not fit a word. -/
def checkedMul (left right : Nat) : Option Nat :=
  if left * right < 2 ^ 64 then some (left * right) else none

/-- The sum, or `none` when it does not fit 32 bits. -/
def checkedAdd32 (left right : Nat) : Option Nat :=
  if left + right < 2 ^ 32 then some (left + right) else none

theorem checkedAdd32_eq_some (fits : checkedAdd32 left right = some sum) :
    left + right = sum ∧ sum < 2 ^ 32 := by
  unfold checkedAdd32 at fits
  split at fits
  · cases fits
    exact ⟨rfl, by assumption⟩
  · cases fits

theorem wrappingAdd_eq (bounded : left + right < 2 ^ 64) : wrappingAdd left right = left + right :=
  Nat.mod_eq_of_lt bounded

theorem wrappingSub_eq (ordered : right ≤ left) (bounded : left < 2 ^ 64) :
    wrappingSub left right = left - right := by
  unfold wrappingSub
  omega

attribute [irreducible] wrappingAdd wrappingSub checkedAdd

def IsPowerOfTwo (value : Nat) : Prop :=
  2 ^ value.log2 = value

instance (value : Nat) : Decidable (IsPowerOfTwo value) :=
  inferInstanceAs (Decidable (_ = _))

theorem IsPowerOfTwo.pos (power : IsPowerOfTwo value) : 0 < value := by
  have positive : 0 < 2 ^ value.log2 := Nat.two_pow_pos _
  unfold IsPowerOfTwo at power
  omega

theorem isPowerOfTwo_two_pow (exponent : Nat) : IsPowerOfTwo (2 ^ exponent) := by
  unfold IsPowerOfTwo
  rw [Nat.log2_two_pow]

theorem IsPowerOfTwo.dvd
    {smaller larger : Nat} (smallerPower : IsPowerOfTwo smaller) (largerPower : IsPowerOfTwo larger)
    (ordered : smaller ≤ larger) : smaller ∣ larger := by
  rw [← smallerPower, ← largerPower] at ordered ⊢
  exact Nat.pow_dvd_pow 2 ((Nat.pow_le_pow_iff_right (by omega)).mp ordered)

/-- The bits below a power of two are the remainder. -/
theorem IsPowerOfTwo.and_pred {alignment : Nat} (power : IsPowerOfTwo alignment) :
    value &&& (alignment - 1) = value % alignment := by
  rw [← power]
  exact Nat.and_two_pow_sub_one_eq_mod value _

/-- Rounding up: the masked bits are taken off the sum with the mask. -/
theorem IsPowerOfTwo.round_up {alignment rounded : Nat} (power : IsPowerOfTwo alignment)
    (total : value + (alignment - 1) = sum)
    (isRounded : sum - (sum &&& (alignment - 1)) = rounded) :
    value ≤ rounded ∧ alignment ∣ rounded := by
  rw [power.and_pred] at isRounded
  have small := Nat.mod_lt sum power.pos
  refine ⟨by omega, ?_⟩
  rw [← isRounded]
  exact Nat.dvd_sub_mod sum

def leadingZeros (value : Nat) : Nat :=
  if value = 0 then 64 else 63 - value.log2

/-- The zeros below the lowest set bit, counted up to `limit`. -/
def trailingZerosUpTo : Nat → Nat → Nat
  | 0, _ => 0
  | limit + 1, value => if value % 2 = 1 then 0 else trailingZerosUpTo limit (value / 2) + 1

def trailingZeros (value : Nat) : Nat :=
  trailingZerosUpTo 64 value

theorem le_trailingZerosUpTo_iff {limit : Nat} (bounded : exponent ≤ limit) :
    exponent ≤ trailingZerosUpTo limit value ↔ 2 ^ exponent ∣ value := by
  induction limit generalizing value exponent with
  | zero =>
    have zero : exponent = 0 := by omega
    simp [zero]
  | succ limit ih =>
    cases exponent with
    | zero => simp
    | succ exponent =>
      rw [trailingZerosUpTo]
      by_cases odd : value % 2 = 1
      · rw [if_pos odd]
        have notDivides : ¬ 2 ^ (exponent + 1) ∣ value := by
          intro divides
          have even : 2 ∣ value := (Nat.dvd_mul_left 2 (2 ^ exponent)).trans divides
          omega
        simp [notDivides]
      · rw [if_neg odd]
        have halved : value = 2 * (value / 2) := by omega
        have divides : 2 ^ (exponent + 1) ∣ value ↔ 2 ^ exponent ∣ value / 2 := by
          nth_rewrite 1 [halved]
          rw [Nat.pow_succ, Nat.mul_comm]
          exact Nat.mul_dvd_mul_iff_left (by omega)
        rw [divides, ← ih (by omega)]
        omega

theorem le_trailingZeros_iff (bounded : exponent ≤ 64) :
    exponent ≤ trailingZeros value ↔ 2 ^ exponent ∣ value :=
  le_trailingZerosUpTo_iff bounded

theorem trailingZerosUpTo_le (limit value : Nat) : trailingZerosUpTo limit value ≤ limit := by
  induction limit generalizing value with
  | zero => exact Nat.le_refl 0
  | succ limit ih =>
    rw [trailingZerosUpTo]
    split
    · omega
    · exact Nat.succ_le_succ (ih (value / 2))

theorem IsPowerOfTwo.eq_two_pow_trailingZeros (power : IsPowerOfTwo value)
    (bounded : value < 2 ^ 64) : value = 2 ^ trailingZeros value := by
  have nonzero : value ≠ 0 := Nat.ne_of_gt power.pos
  have small : value.log2 < 64 := (Nat.log2_lt nonzero).mpr bounded
  have low : value.log2 ≤ trailingZeros value := by
    apply (le_trailingZeros_iff (Nat.le_of_lt small)).mpr
    exact dvd_of_eq power
  have high : trailingZeros value ≤ value.log2 := by
    have divides : 2 ^ trailingZeros value ∣ value :=
      (le_trailingZeros_iff (trailingZerosUpTo_le 64 value)).mp (Nat.le_refl _)
    exact (Nat.le_log2 nonzero).mpr (Nat.le_of_dvd power.pos divides)
  rw [Nat.le_antisymm high low]
  exact Eq.symm power

/-- The number of binary digits of a nonzero word, less one. -/
theorem le_sub_leadingZeros_iff (positive : 0 < value) (bounded : value < 2 ^ 64) :
    exponent ≤ 63 - leadingZeros value ↔ 2 ^ exponent ≤ value := by
  have nonzero : value ≠ 0 := by omega
  have small : value.log2 < 64 := (Nat.log2_lt nonzero).mpr bounded
  have exponentEq : 63 - leadingZeros value = value.log2 := by
    rw [leadingZeros, if_neg nonzero]
    omega
  rw [exponentEq]
  exact Nat.le_log2 nonzero

end Xenith
