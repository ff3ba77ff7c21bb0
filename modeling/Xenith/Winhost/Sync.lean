import Xenith.Lib.Word

/-!
# Waitable objects

The state machines of `user/winhost-core/src/sync.rs` and the statuses that
the runtime returns.  An operation returns its result and the new state.
-/

namespace Xenith.Winhost

inductive NtStatus where
  | success
  | timeout
  | abandoned
  | notImplemented
  | invalidHandle
  | invalidParameter
  | accessDenied
  | objectTypeMismatch
  | insufficientResources
  | mutantNotOwned
  | mutantLimitExceeded
  | semaphoreLimitExceeded
  | integerOverflow
deriving DecidableEq

/-- Nonzero thread identity. -/
structure NtThreadId where
  raw : Nat
  nonzero : raw ≠ 0
deriving DecidableEq

inductive WaitSatisfaction where
  | satisfied
  | abandoned
  | wouldBlock
deriving DecidableEq

inductive SyncError where
  | invalidParameter
  | mutantNotOwned
  | mutantLimitExceeded
  | semaphoreLimitExceeded
  | integerOverflow
deriving DecidableEq

def SyncError.status : SyncError → NtStatus
  | .invalidParameter => .invalidParameter
  | .mutantNotOwned => .mutantNotOwned
  | .mutantLimitExceeded => .mutantLimitExceeded
  | .semaphoreLimitExceeded => .semaphoreLimitExceeded
  | .integerOverflow => .integerOverflow

inductive ResetKind where
  | notification
  | synchronization
deriving DecidableEq

abbrev EventKind := ResetKind

abbrev TimerKind := ResetKind

structure EventState where
  kind : EventKind
  signaled : Bool
deriving DecidableEq

namespace EventState

def set (event : EventState) : Bool × EventState :=
  (event.signaled, { event with signaled := true })

def reset (event : EventState) : Bool × EventState :=
  (event.signaled, { event with signaled := false })

def tryWait (event : EventState) : WaitSatisfaction × EventState :=
  if event.signaled = false then (.wouldBlock, event)
  else if event.kind = .synchronization then (.satisfied, { event with signaled := false })
  else (.satisfied, event)

end EventState

structure MutantState where
  owner : Option NtThreadId
  recursion : Nat
  abandoned : Bool
deriving DecidableEq

namespace MutantState

def new (owner : Option NtThreadId) : MutantState where
  owner := owner
  recursion := if owner.isSome then 1 else 0
  abandoned := false

def tryWait (mutant : MutantState) (thread : NtThreadId) :
    Except SyncError WaitSatisfaction × MutantState :=
  match mutant.owner with
  | none =>
    let owned := { mutant with owner := some thread, recursion := 1 }
    if mutant.abandoned then (.ok .abandoned, { owned with abandoned := false })
    else (.ok .satisfied, owned)
  | some owner =>
    if owner = thread then
      match checkedAdd32 mutant.recursion 1 with
      | none => (.error .mutantLimitExceeded, mutant)
      | some recursion => (.ok .satisfied, { mutant with recursion := recursion })
    else (.ok .wouldBlock, mutant)

def release (mutant : MutantState) (thread : NtThreadId) : Except SyncError Nat × MutantState :=
  if mutant.owner ≠ some thread ∨ mutant.recursion = 0 then (.error .mutantNotOwned, mutant)
  else
    let recursion := mutant.recursion - 1
    (.ok mutant.recursion,
      { mutant with
        recursion := recursion
        owner := if recursion = 0 then none else mutant.owner })

def abandonIfOwned (mutant : MutantState) (thread : NtThreadId) : Bool × MutantState :=
  if mutant.owner ≠ some thread then (false, mutant)
  else (true, { owner := none, recursion := 0, abandoned := true })

end MutantState

structure SemaphoreState where
  count : Nat
  limit : Nat
deriving DecidableEq

namespace SemaphoreState

def tryNew (initial limit : Nat) : Except SyncError SemaphoreState :=
  if limit = 0 ∨ limit < initial then .error .invalidParameter
  else .ok { count := initial, limit := limit }

def tryWait (semaphore : SemaphoreState) : WaitSatisfaction × SemaphoreState :=
  if semaphore.count = 0 then (.wouldBlock, semaphore)
  else (.satisfied, { semaphore with count := semaphore.count - 1 })

def release (semaphore : SemaphoreState) (releaseCount : Nat) :
    Except SyncError Nat × SemaphoreState :=
  if releaseCount = 0 then (.error .invalidParameter, semaphore)
  else
    match (checkedAdd32 semaphore.count releaseCount).filter
        (fun next => decide (next ≤ semaphore.limit)) with
    | none => (.error .semaphoreLimitExceeded, semaphore)
    | some next => (.ok semaphore.count, { semaphore with count := next })

end SemaphoreState

structure TimerState where
  kind : TimerKind
  active : Bool
  signaled : Bool
  deadlineTicks : Nat
  periodTicks : Nat
deriving DecidableEq

namespace TimerState

def new (kind : TimerKind) : TimerState where
  kind := kind
  active := false
  signaled := false
  deadlineTicks := 0
  periodTicks := 0

def setRelative (timer : TimerState) (nowTicks delayTicks periodTicks : Nat) :
    Except SyncError Bool × TimerState :=
  match checkedAdd nowTicks delayTicks with
  | none => (.error .integerOverflow, timer)
  | some deadline =>
    (.ok timer.active,
      { timer with
        active := true
        signaled := false
        deadlineTicks := deadline
        periodTicks := periodTicks })

def cancel (timer : TimerState) : Bool × TimerState :=
  (timer.active,
    { timer with active := false, signaled := false, deadlineTicks := 0, periodTicks := 0 })

/-- The first deadline of a periodic timer behind the given time. -/
def nextDeadline (timer : TimerState) (nowTicks : Nat) : Option Nat := do
  let elapsed := nowTicks - timer.deadlineTicks
  let periods ← checkedAdd (elapsed / timer.periodTicks) 1
  let advance ← checkedMul periods timer.periodTicks
  checkedAdd timer.deadlineTicks advance

def refresh (timer : TimerState) (nowTicks : Nat) : Except SyncError Bool × TimerState :=
  if timer.active = false ∨ nowTicks < timer.deadlineTicks then (.ok timer.signaled, timer)
  else if timer.periodTicks = 0 then (.ok true, { timer with signaled := true, active := false })
  else
    match timer.nextDeadline nowTicks with
    | none => (.error .integerOverflow, timer)
    | some next => (.ok true, { timer with signaled := true, deadlineTicks := next })

def tryWait (timer : TimerState) (nowTicks : Nat) :
    Except SyncError WaitSatisfaction × TimerState :=
  match timer.refresh nowTicks with
  | (.error error, refreshed) => (.error error, refreshed)
  | (.ok _, refreshed) =>
    if refreshed.signaled = false then (.ok .wouldBlock, refreshed)
    else if refreshed.kind = .synchronization then
      (.ok .satisfied, { refreshed with signaled := false })
    else (.ok .satisfied, refreshed)

end TimerState

end Xenith.Winhost
