import Xenith.Lib.Execution
import Xenith.Winhost.Sync

/-!
# Laws of the waitable objects

What the fields of an object say about the operations it has seen.
-/

namespace Xenith.Winhost

open Execution

/-- An object with the units that waits may take, and those they took. -/
structure WaitLedger (Object : Type) where
  object : Object
  gained : Nat := 0
  taken : Nat := 0

def WaitLedger.record {Object : Type} (ledger : WaitLedger Object)
    (object : Object) (gain : Nat) (taken : Bool) : WaitLedger Object where
  object := object
  gained := ledger.gained + gain
  taken := ledger.taken + taken.toNat

namespace SemaphoreState

inductive Operation where
  | tryWait
  | release (releaseCount : Nat)

def step (ledger : WaitLedger SemaphoreState) : Operation → Option (WaitLedger SemaphoreState)
  | .tryWait =>
    let waited := ledger.object.tryWait
    some (ledger.record waited.2 0 (waited.1 = .satisfied))
  | .release releaseCount =>
    let released := ledger.object.release releaseCount
    some (ledger.record released.2 (if released.1.isOk then releaseCount else 0) false)

/-- The count is the initial one with the releases and without the waits. -/
structure Balanced (initial limit : Nat) (ledger : WaitLedger SemaphoreState) : Prop where
  count : ledger.object.count + ledger.taken = initial + ledger.gained
  bounded : ledger.object.count ≤ limit
  limit : ledger.object.limit = limit

theorem Balanced.step {initial limit : Nat} {ledger next : WaitLedger SemaphoreState}
    {operation : Operation} (balanced : Balanced initial limit ledger)
    (stepped : SemaphoreState.step ledger operation = some next) :
    Balanced initial limit next := by
  have ⟨_, bounded, isLimit⟩ := balanced
  cases operation with
  | tryWait =>
    cases stepped
    fun_cases SemaphoreState.tryWait with
    | case1 => exact balanced
    | case2 =>
      refine ⟨?_, ?_, isLimit⟩
      · simp only [WaitLedger.record, decide_true, Bool.toNat_true]
        omega
      · exact (Nat.sub_le _ _).trans bounded
  | release releaseCount =>
    cases stepped
    fun_cases SemaphoreState.release with
    | case1 | case2 => exact balanced
    | case3 _ sum fits =>
      obtain ⟨added, below⟩ := Option.filter_eq_some_iff.mp fits
      have isSum := (checkedAdd32_eq_some added).1
      rw [isLimit, decide_eq_true_iff] at below
      refine ⟨?_, below, isLimit⟩
      change sum + ledger.taken = initial + (ledger.gained + releaseCount)
      omega

end SemaphoreState

namespace EventState

inductive Operation where
  | set
  | reset
  | tryWait

/-- Every `set` is a signal that one wait may take. -/
def step (ledger : WaitLedger EventState) : Operation → Option (WaitLedger EventState)
  | .set => some (ledger.record ledger.object.set.2 1 false)
  | .reset => some (ledger.record ledger.object.reset.2 0 false)
  | .tryWait =>
    let waited := ledger.object.tryWait
    some (ledger.record waited.2 0 (waited.1 = .satisfied))

/-- A signal of a synchronization event satisfies at most one wait. -/
structure Spends (initially : Bool) (ledger : WaitLedger EventState) : Prop where
  kind : ledger.object.kind = .synchronization
  signals : ledger.object.signaled.toNat + ledger.taken ≤ initially.toNat + ledger.gained

theorem Spends.step {initially : Bool} {ledger next : WaitLedger EventState}
    {operation : Operation} (spends : Spends initially ledger)
    (stepped : EventState.step ledger operation = some next) :
    Spends initially next := by
  have ⟨kind, signals⟩ := spends
  cases operation with
  | set =>
    cases stepped
    refine ⟨kind, ?_⟩
    change 1 + ledger.taken ≤ initially.toNat + (ledger.gained + 1)
    omega
  | reset =>
    cases stepped
    refine ⟨kind, ?_⟩
    change 0 + ledger.taken ≤ initially.toNat + ledger.gained
    omega
  | tryWait =>
    cases stepped
    fun_cases EventState.tryWait with
    | case1 => exact spends
    | case2 signaled =>
      rw [Bool.not_eq_false] at signaled
      rw [signaled] at signals
      refine ⟨kind, ?_⟩
      change 0 + (ledger.taken + 1) ≤ initially.toNat + ledger.gained
      simp only [Bool.toNat_true] at signals
      omega
    | case3 _ notification => exact absurd kind notification

end EventState

/-! ## Mutants -/

namespace MutantState

inductive Operation where
  | tryWait (thread : NtThreadId)
  | release (thread : NtThreadId)
  | abandonIfOwned (thread : NtThreadId)

/-- A mutant with the acquisitions of one thread less its releases. -/
structure Held where
  mutant : MutantState
  held : Nat

def acquired : Except SyncError WaitSatisfaction → Bool
  | .ok .satisfied | .ok .abandoned => true
  | _ => false

/-- Abandonments are gained, and taken by the waits that report them. -/
def step (observed : NtThreadId) (ledger : WaitLedger Held) : Operation → Option (WaitLedger Held)
  | .tryWait thread =>
    let ⟨mutant, held⟩ := ledger.object
    let waited := mutant.tryWait thread
    let count := (thread = observed && acquired waited.1).toNat
    some (ledger.record ⟨waited.2, held + count⟩ 0 (waited.1 = .ok .abandoned))
  | .release thread =>
    let ⟨mutant, held⟩ := ledger.object
    let released := mutant.release thread
    let count := (thread = observed && released.1.isOk).toNat
    some (ledger.record ⟨released.2, held - count⟩ 0 false)
  | .abandonIfOwned thread =>
    let ⟨mutant, held⟩ := ledger.object
    let abandoned := mutant.abandonIfOwned thread
    let count := if thread = observed ∧ abandoned.1 then 0 else held
    some (ledger.record ⟨abandoned.2, count⟩ abandoned.1.toNat false)

/-- The acquisitions that a thread has still to release. -/
def recursionOf (mutant : MutantState) (thread : NtThreadId) : Nat :=
  if mutant.owner = some thread then mutant.recursion else 0

structure Exclusive (observed : NtThreadId) (ledger : WaitLedger Held) : Prop where
  held : ledger.object.held = ledger.object.mutant.recursionOf observed
  positive : ledger.object.mutant.owner ≠ none → 0 < ledger.object.mutant.recursion
  free : ledger.object.mutant.abandoned = true → ledger.object.mutant.owner = none
  reports : ledger.object.mutant.abandoned.toNat + ledger.taken = ledger.gained

theorem Exclusive.step {observed : NtThreadId} {ledger next : WaitLedger Held}
    {operation : Operation} (exclusive : Exclusive observed ledger)
    (stepped : MutantState.step observed ledger operation = some next) :
    Exclusive observed next := by
  obtain ⟨⟨mutant, held⟩, gained, taken⟩ := ledger
  have ⟨isHeld, positive, free, reports⟩ := exclusive
  simp only at isHeld positive free reports
  rw [recursionOf] at isHeld
  have enters (thread : NtThreadId) (unowned : mutant.owner = none) :
      held + (decide (thread = observed) && true).toNat =
        if some thread = some observed then 1 else 0 := by
    rw [isHeld, unowned]
    by_cases own : thread = observed <;> simp [own]
  have unabandoned {thread : NtThreadId} (owner : mutant.owner = some thread) :
      mutant.abandoned = false := by
    by_contra abandoned
    rw [free (by simpa using abandoned)] at owner
    cases owner
  cases operation with
  | tryWait thread =>
    cases stepped
    fun_cases MutantState.tryWait with
    | case1 unowned _ abandoned =>
      rw [abandoned, Nat.add_comm] at reports
      exact ⟨enters thread unowned, fun _ => Nat.one_pos, nofun, (Nat.zero_add _).trans reports⟩
    | case2 unowned _ unabandoned =>
      exact ⟨enters thread unowned, fun _ => Nat.one_pos, (absurd · unabandoned), reports⟩
    | case4 recursion added owner =>
      have isSum := (checkedAdd32_eq_some added).1
      refine ⟨?_, fun _ => isSum ▸ Nat.succ_pos _, free, reports⟩
      by_cases own : thread = observed
      · simp [WaitLedger.record, recursionOf, acquired, own, owner, isHeld, isSum]
      · simp [WaitLedger.record, recursionOf, own, owner, isHeld]
    | case3 | case5 => simpa [WaitLedger.record, acquired] using exclusive
  | release thread =>
    cases stepped
    fun_cases MutantState.release with
    | case1 => simpa [WaitLedger.record, Except.isOk, Except.toBool] using exclusive
    | case2 owned recursion =>
      simp only [not_or, not_not] at owned
      refine ⟨?_, ?_, ?_, reports⟩
      · change held - (decide (thread = observed) && true).toNat =
          if (if recursion = 0 then none else mutant.owner) = some observed then recursion
          else 0
        rw [isHeld, owned.1]
        by_cases own : thread = observed
        · by_cases last : recursion = 0
          · have gone : mutant.recursion - 1 = 0 := last
            simp [own, last, gone]
          · simp [own, recursion]
        · by_cases last : recursion = 0
          · simp [own]
          · simp [own]
      · intro owner
        by_contra none
        exact owner (if_pos (Nat.eq_zero_of_not_pos none))
      · intro abandoned
        cases (unabandoned owned.1).symm.trans abandoned
  | abandonIfOwned thread =>
    cases stepped
    fun_cases MutantState.abandonIfOwned with
    | case1 => simpa [WaitLedger.record] using exclusive
    | case2 owned =>
      rw [not_not] at owned
      rw [unabandoned owned] at reports
      rw [owned] at isHeld
      refine ⟨?_, (absurd rfl ·), fun _ => rfl, ?_⟩
      · by_cases own : thread = observed
        · simp [WaitLedger.record, recursionOf, own]
        · simp [WaitLedger.record, recursionOf, own, isHeld]
      · change 1 + taken = gained + 1
        change 0 + taken = gained at reports
        omega

end MutantState

/-! ## Timers -/

namespace TimerState

inductive Operation where
  | setRelative (now delay period : Nat)
  | cancel
  | refresh (now : Nat)
  | tryWait (now : Nat)

/-- A timer with the deadline it was last set to and the time it last saw. -/
structure Timed where
  timer : TimerState
  first : Nat := 0
  clock : Nat := 0

/-- The signals that a refresh raises. -/
def signals (timer : TimerState) (now : Nat) : Nat :=
  (timer.active && decide (timer.deadlineTicks ≤ now) && (timer.refresh now).1.isOk).toNat

def step (ledger : WaitLedger Timed) : Operation → Option (WaitLedger Timed)
  | .setRelative now delay period =>
    let ⟨timer, first, _⟩ := ledger.object
    let set := timer.setRelative now delay period
    let deadline := if set.1.isOk then set.2.deadlineTicks else first
    some (ledger.record ⟨set.2, deadline, now⟩ 0 false)
  | .cancel =>
    let ⟨timer, first, clock⟩ := ledger.object
    some (ledger.record ⟨timer.cancel.2, first, clock⟩ 0 false)
  | .refresh now =>
    let ⟨timer, first, _⟩ := ledger.object
    some (ledger.record ⟨(timer.refresh now).2, first, now⟩ (timer.signals now) false)
  | .tryWait now =>
    let ⟨timer, first, _⟩ := ledger.object
    let waited := timer.tryWait now
    some (ledger.record ⟨waited.2, first, now⟩ (timer.signals now) (waited.1 = .ok .satisfied))

/-- The times do not decrease. -/
def Timely (ledger : WaitLedger Timed) : Operation → Prop
  | .setRelative now _ _ | .refresh now | .tryWait now => ledger.object.clock ≤ now
  | .cancel => True

instance decidableTimely : DecidableRel Timely
  | ledger, .setRelative now _ _ | ledger, .refresh now
  | ledger, .tryWait now => inferInstanceAs (Decidable (ledger.object.clock ≤ now))
  | _, .cancel => isTrue trivial

structure Spends (initially : Bool) (ledger : WaitLedger Timed) : Prop where
  kind : ledger.object.timer.kind = .synchronization
  signals : ledger.object.timer.signaled.toNat + ledger.taken ≤ initially.toNat + ledger.gained

variable {timer : TimerState} {now first clock : Nat}

theorem refresh_signals :
    (timer.refresh now).2.kind = timer.kind ∧
      (timer.refresh now).2.signaled.toNat ≤ timer.signaled.toNat + timer.signals now := by
  unfold signals
  fun_cases refresh with
  | case1 | case3 => exact ⟨rfl, Nat.le_add_right ..⟩
  | case2 due | case4 due =>
    rw [not_or, not_lt] at due
    simp [due.1, due.2, Except.toBool]

variable {operation : Operation}

theorem Spends.step {initially : Bool} {ledger next : WaitLedger Timed}
    (spends : Spends initially ledger) (stepped : TimerState.step ledger operation = some next) :
    Spends initially next := by
  obtain ⟨⟨timer, _, _⟩, gained, taken⟩ := ledger
  obtain ⟨kind, signals⟩ := spends
  simp only at kind signals
  cases operation with
  | setRelative now =>
    cases stepped
    fun_cases setRelative with
    | case1 => exact ⟨kind, signals⟩
    | case2 =>
      refine ⟨kind, ?_⟩
      change 0 + taken ≤ initially.toNat + gained
      omega
  | cancel =>
    cases stepped
    refine ⟨kind, ?_⟩
    change 0 + taken ≤ initially.toNat + gained
    omega
  | refresh now =>
    cases stepped
    have ⟨sameKind, raised⟩ := @refresh_signals timer now
    refine ⟨sameKind.trans kind, ?_⟩
    change (timer.refresh now).2.signaled.toNat + taken ≤
      initially.toNat + (gained + timer.signals now)
    omega
  | tryWait now =>
    cases stepped
    have ⟨sameKind, raised⟩ := @refresh_signals timer now
    fun_cases TimerState.tryWait with
    | case1 _ refreshed isRefreshed | case2 _ refreshed isRefreshed =>
      rw [isRefreshed] at sameKind raised
      refine ⟨sameKind.trans kind, ?_⟩
      change refreshed.signaled.toNat ≤ _ at raised
      change refreshed.signaled.toNat + taken ≤ initially.toNat + (gained + timer.signals now)
      omega
    | case3 _ refreshed isRefreshed signaled =>
      rw [isRefreshed] at sameKind raised
      rw [Bool.not_eq_false] at signaled
      rw [signaled, Bool.toNat_true] at raised
      refine ⟨sameKind.trans kind, ?_⟩
      change 0 + (taken + 1) ≤ initially.toNat + (gained + timer.signals now)
      omega
    | case4 _ refreshed isRefreshed _ notification =>
      rw [isRefreshed] at sameKind
      exact absurd (sameKind.trans kind) notification

/-- The deadline of a periodic timer keeps its distance to the first one, and
is not further than a period away once the first one has passed. -/
def Rhythmic (timer : TimerState) (first clock : Nat) : Prop :=
  timer.active = true → timer.periodTicks ≠ 0 →
    timer.deadlineTicks ≡ first [MOD timer.periodTicks] ∧
      (timer.deadlineTicks ≤ clock + timer.periodTicks ∨ timer.deadlineTicks = first)

theorem nextDeadline_eq_some {next : Nat} (isNext : timer.nextDeadline now = some next) :
    timer.deadlineTicks +
        ((now - timer.deadlineTicks) / timer.periodTicks + 1) * timer.periodTicks = next := by
  unfold nextDeadline at isNext
  simp only [Option.bind_eq_bind, Option.bind_eq_some_iff] at isNext
  obtain ⟨_, isPeriods, _, isAdvance, isSum⟩ := isNext
  rw [(checkedAdd_eq_some isPeriods).1]
  unfold checkedMul at isAdvance
  split at isAdvance
  · cases isAdvance
    exact (checkedAdd_eq_some isSum).1
  · cases isAdvance

theorem Rhythmic.later (rhythmic : timer.Rhythmic first clock) (later : clock ≤ now) :
    timer.Rhythmic first now := by
  intro active periodic
  obtain ⟨congruent, near⟩ := rhythmic active periodic
  exact ⟨congruent, near.imp_left (by omega)⟩

theorem Rhythmic.refresh (rhythmic : timer.Rhythmic first clock) (later : clock ≤ now) :
    (timer.refresh now).2.Rhythmic first now := by
  fun_cases TimerState.refresh with
  | case1 | case3 => exact rhythmic.later later
  | case2 => exact nofun
  | case4 due periodic next isNext =>
    intro active _
    have isSum := nextDeadline_eq_some isNext
    rw [not_or, Bool.not_eq_false] at due
    refine ⟨.trans ?_ (rhythmic due.1 periodic).1, .inl ?_⟩
    · change next % _ = _
      rw [← isSum]
      exact Nat.add_mul_mod_self_right ..
    · change next ≤ now + timer.periodTicks
      have whole := Nat.div_mul_le_self (now - timer.deadlineTicks) timer.periodTicks
      rw [Nat.succ_mul] at isSum
      omega

theorem Rhythmic.step {ledger next : WaitLedger Timed}
    (rhythmic : ledger.object.timer.Rhythmic ledger.object.first ledger.object.clock)
    (timely : Timely ledger operation) (stepped : TimerState.step ledger operation = some next) :
    next.object.timer.Rhythmic next.object.first next.object.clock := by
  cases operation with
  | setRelative now =>
    cases stepped
    fun_cases setRelative with
    | case1 => exact rhythmic.later timely
    | case2 => exact fun _ _ => ⟨rfl, .inr rfl⟩
  | cancel =>
    cases stepped
    exact nofun
  | refresh now =>
    cases stepped
    exact rhythmic.refresh timely
  | tryWait now =>
    cases stepped
    have refreshed := rhythmic.refresh timely
    fun_cases TimerState.tryWait with
    | case1 _ _ isRefreshed | case2 _ _ isRefreshed
    | case3 _ _ isRefreshed | case4 _ _ isRefreshed =>
      rw [isRefreshed] at refreshed
      exact refreshed

end TimerState

end Xenith.Winhost
