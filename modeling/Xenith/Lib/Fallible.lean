import Mathlib

/-!
# Computations that can fail

Checks in sequence in the error monad, with one inversion rule for each way of
putting them together.
-/

namespace Xenith.Fallible

universe u v

variable {ε : Type u} {α β : Type v}

def require (condition : Prop) [Decidable condition] (error : ε) : Except ε Unit :=
  if condition then .ok () else .error error

def expect (value : Option α) (error : ε) : Except ε α :=
  match value with
  | some value => .ok value
  | none => .error error

variable {first : Except ε α}

theorem bind_eq_ok {next : α → Except ε β} {result : β} :
    (first >>= next) = .ok result ↔ ∃ value, first = .ok value ∧ next value = .ok result := by
  cases first with
  | error error => simp [Bind.bind, Except.bind]
  | ok value => simp [Bind.bind, Except.bind]

theorem map_eq_ok {change : α → β} {result : β} :
    change <$> first = .ok result ↔ ∃ value, first = .ok value ∧ change value = result := by
  cases first with
  | error error => simp
  | ok value => simp

theorem pure_eq_ok {value result : α} :
    (pure value : Except ε α) = .ok result ↔ value = result := by
  simp [pure, Except.pure]

theorem require_eq_ok {condition : Prop} [Decidable condition] {error : ε} {result : Unit} :
    require condition error = .ok result ↔ condition := by
  unfold require
  split
  · next holds => simp [holds]
  · next fails => simp [fails]

theorem expect_eq_ok {value : Option α} {error : ε} {result : α} :
    expect value error = .ok result ↔ value = some result := by
  cases value <;> simp [expect]

theorem toOption_eq_some {result : Except ε α} {value : α} :
    result.toOption = some value ↔ result = .ok value := by
  cases result <;> simp [Except.toOption]

end Xenith.Fallible
