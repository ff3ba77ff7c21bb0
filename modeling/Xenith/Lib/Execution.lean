import Mathlib

/-!
# Executions of labelled transition functions

A transition function maps a state and a label to the next state, or to
`none` when the label is not enabled.  An invariant which survives every
guarded transition holds in every state that a guarded execution reaches.
-/

namespace Xenith.Execution

universe u v

variable {State : Type u} {Label : Type v}

/-- Execute a list of labels from left to right. -/
def exec (step : State → Label → Option State) : State → List Label → Option State
  | state, [] => some state
  | state, label :: rest => (step state label).bind fun next => exec step next rest

/-- Every label of the execution satisfies `guard` in the state in which it
is taken. -/
def Guarded (step : State → Label → Option State) (guard : State → Label → Prop) :
    State → List Label → Prop
  | _, [] => True
  | state, label :: rest =>
    guard state label ∧ ∀ next, step state label = some next → Guarded step guard next rest

instance decidableGuarded {step : State → Label → Option State} {guard : State → Label → Prop}
    [∀ state label, Decidable (guard state label)] :
    (state : State) → (labels : List Label) → Decidable (Guarded step guard state labels)
  | _, [] => isTrue trivial
  | state, label :: rest =>
    match taken : step state label with
    | none => decidable_of_iff (guard state label) (by simp [Guarded, taken])
    | some next =>
      have : Decidable (Guarded step guard next rest) := decidableGuarded next rest
      decidable_of_iff (guard state label ∧ Guarded step guard next rest) (by simp [Guarded, taken])

/-- Whether a run ends in a state with a property can be computed. -/
instance decidableReached
    {result : Option State} {property : State → Prop} [DecidablePred property] :
    Decidable (∃ state, result = some state ∧ property state) :=
  inferInstanceAs (Decidable (∃ state ∈ result, property state))

theorem exists_reached {result : Option State} {conclusion : State → Prop}
    (runs : result.isSome = true) (follows : ∀ state, result = some state → conclusion state) :
    ∃ state, result = some state ∧ conclusion state := by
  obtain ⟨state, reached⟩ := Option.isSome_iff_exists.mp runs
  exact ⟨state, reached, follows state reached⟩

/-- What is computed of a run holds of the state that it reaches. -/
@[elab_as_elim]
theorem of_reached {result : Option State} {state : State} {fact : State → Prop}
    (reached : result = some state) (computed : ∃ state, result = some state ∧ fact state) :
    fact state := by
  obtain ⟨_, same, holds⟩ := computed
  cases reached.symm.trans same
  exact holds

section Rules

variable {step : State → Label → Option State} {guard : State → Label → Prop}

@[simp]
theorem exec_nil (state : State) : exec step state [] = some state :=
  rfl

theorem exec_cons_eq_some {state final : State} {label : Label} {rest : List Label} :
    exec step state (label :: rest) = some final ↔
      ∃ next, step state label = some next ∧ exec step next rest = some final := by
  simp [exec, Option.bind_eq_some_iff]

theorem exec_append_eq_some {state final : State} {front back : List Label} :
    exec step state (front ++ back) = some final ↔
      ∃ middle, exec step state front = some middle ∧ exec step middle back = some final := by
  induction front generalizing state with
  | nil => simp
  | cons _ _ ih =>
    rw [List.cons_append]
    simp only [exec_cons_eq_some, ih]
    constructor
    · rintro ⟨next, taken, middle, reached, finished⟩
      exact ⟨middle, ⟨next, taken, reached⟩, finished⟩
    · rintro ⟨middle, ⟨next, taken, reached⟩, finished⟩
      exact ⟨next, taken, middle, reached, finished⟩

/-- The invariant rule for guarded executions. -/
theorem invariant_of_guarded {invariant : State → Prop}
    (preserved : ∀ state label next,
      invariant state → guard state label → step state label = some next → invariant next)
    {start final : State} {labels : List Label} (initially : invariant start)
    (guarded : Guarded step guard start labels) (reached : exec step start labels = some final) :
    invariant final := by
  induction labels generalizing start with
  | nil =>
    cases reached
    exact initially
  | cons label _ ih =>
    obtain ⟨next, taken, finished⟩ := exec_cons_eq_some.mp reached
    have admissible := guarded.1
    have later := guarded.2 next taken
    exact ih (preserved start label next initially admissible taken) later finished

theorem Guarded.of_labels {admitted : Label → Prop} {start : State} {labels : List Label}
    (allAdmitted : ∀ label ∈ labels, admitted label) :
    Guarded step (fun _ label => admitted label) start labels := by
  induction labels generalizing start with
  | nil => trivial
  | cons label _ ih =>
    refine ⟨allAdmitted label (List.mem_cons_self ..), ?_⟩
    intro next taken
    apply ih
    intro other member
    exact allAdmitted other (List.mem_cons_of_mem _ member)

/-- The invariant rule for executions without a guard. -/
theorem invariant_of_exec {invariant : State → Prop}
    (preserved :
      ∀ state label next, invariant state → step state label = some next → invariant next)
    {start final : State} {labels : List Label} (initially : invariant start)
    (reached : exec step start labels = some final) :
    invariant final := by
  have guarded : Guarded step (fun _ _ => True) start labels := Guarded.of_labels fun _ _ => trivial
  exact invariant_of_guarded
    (fun state label next holds _ => preserved state label next holds) initially guarded reached

theorem Guarded.and {second : State → Label → Prop} {start : State} {labels : List Label}
    (guarded : Guarded step guard start labels) (secondGuarded : Guarded step second start labels) :
    Guarded step (fun state label => guard state label ∧ second state label) start labels := by
  induction labels generalizing start with
  | nil => trivial
  | cons label _ ih =>
    refine ⟨⟨guarded.1, secondGuarded.1⟩, ?_⟩
    intro next taken
    exact ih (guarded.2 next taken) (secondGuarded.2 next taken)

end Rules

end Xenith.Execution
