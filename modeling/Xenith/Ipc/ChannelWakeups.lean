import Xenith.Ipc.ChannelDelivery

/-!
# No lost wake-up

A task is registered only while it has to wait.  The section that ends this
state takes the registration away and wakes the task.
-/

namespace Xenith.Ipc

open DirectionState

variable {File : Type}

/-! ## Registrations of one direction -/

/-- The task on whose behalf a section changes the registrations. -/
def Action.task? : Action File → Option TaskId
  | .send task _ _ => some task
  | .beginReceive task _ _ _ => some task
  | .armRead task => some task
  | .armWrite task => some task
  | .disarmRead task => some task
  | .disarmWrite task => some task
  | _ => none

variable {other : TaskId}

namespace DirectionState

/-- What a section does to a registration, which is to end when the direction
gets ready. -/
inductive Registers (waiter : DirectionState File → Option TaskId)
    (ready : DirectionState File → Prop) (direction : DirectionState File)
    (action : Action File) (performed : Performed File) : Prop where
  | ended (removed : waiter performed.direction = none)
      (woken : ∀ task, waiter direction = some task → task ∈ performed.woken)
  | same (kept : waiter performed.direction = waiter direction)
      (quiet : ready performed.direction → ready direction)
  | cleared {task : TaskId} (actor : action.task? = some task)
      (kept : waiter performed.direction = clearWaiter (waiter direction) task)
      (quiet : ready performed.direction → ready direction)
  | claimed {task : TaskId} (actor : action.task? = some task)
      (unclaimed : ∀ other, waiter direction = some other → other = task)
      (waiting : ¬ ready performed.direction)

section Registers

variable {waiter : DirectionState File → Option TaskId} {ready : DirectionState File → Prop}
variable {direction : DirectionState File} {action : Action File}
variable {performed : Performed File} {task : TaskId}

variable (registers : Registers waiter ready direction action performed)

include registers

theorem Registers.not_ready (waiting : ∀ task, waiter direction = some task → ¬ ready direction)
    (registered : waiter performed.direction = some task) :
    ¬ ready performed.direction := by
  cases registers with
  | ended removed =>
    rw [removed] at registered
    cases registered
  | same kept quiet =>
    rw [kept] at registered
    exact mt quiet (waiting task registered)
  | cleared actor kept quiet =>
    rw [kept] at registered
    exact mt quiet (waiting task (clearWaiter_eq_some registered))
  | claimed actor _ waiting => exact waiting

/-- A section that makes the direction ready wakes the registered task. -/
theorem Registers.woken (registered : waiter direction = some task)
    (waiting : ¬ ready direction) (ended : ready performed.direction) :
    waiter performed.direction = none ∧ task ∈ performed.woken := by
  cases registers with
  | ended removed woken => exact ⟨removed, woken task registered⟩
  | same kept quiet | cleared actor kept quiet => exact absurd (quiet ended) waiting
  | claimed actor _ waiting => exact absurd ended waiting

/-- A section of another task keeps the registration or wakes the task. -/
theorem Registers.kept_or_woken
    (registered : waiter direction = some task) (foreign : action.task? ≠ some task) :
    waiter performed.direction = some task ∨ task ∈ performed.woken := by
  cases registers with
  | ended _ woken => exact Or.inr (woken task registered)
  | same kept quiet => exact Or.inl (kept.trans registered)
  | cleared actor kept quiet =>
    rw [kept, registered]
    refine Or.inl (clearWaiter_of_ne ?_)
    rintro rfl
    exact foreign actor
  | claimed actor unclaimed =>
    rw [unclaimed task registered] at foreign
    exact absurd actor foreign

end Registers

def Readable (direction : DirectionState File) : Prop :=
  direction.len ≠ 0 ∨ direction.senderOpen = false

def Writable (direction : DirectionState File) : Prop :=
  direction.len < channelQueueDepth ∨ direction.receiverOpen = false

variable {direction : DirectionState File} {waiter : Option TaskId}

theorem eq_of_clearWaiter {task : TaskId} (unclaimed : clearWaiter waiter task = none)
    (registered : waiter = some other) : other = task := by
  by_contra different
  rw [registered, clearWaiter_of_ne different] at unclaimed
  cases unclaimed

theorem eq_of_unclaimed {task : TaskId} (unclaimed : waiter = none ∨ waiter = some task)
    (registered : waiter = some other) : other = task := by
  rw [registered] at unclaimed
  rcases unclaimed with none | same
  · cases none
  · exact Option.some.inj same

theorem registers_reader (direction : DirectionState File) (action : Action File) :
    Registers (·.readerWaiter) Readable direction action (direction.perform action) := by
  generalize performed : direction.perform action = result
  cases DirectionState.outcome performed with
  | published | receiverClosed | senderClosed =>
    refine .ended rfl ?_
    intro task registered
    simp [closeReceiver, closeSender, registered]
  | refusedReceive | reserved | readDisarmed => exact .cleared rfl rfl id
  | parkedReceive _ empty isOpen unclaimed =>
    exact .claimed rfl (fun _ => eq_of_clearWaiter unclaimed) (by simp [Readable, empty, isOpen])
  | readArmed empty isOpen unclaimed =>
    exact .claimed rfl (fun _ => eq_of_unclaimed unclaimed) (by simp [Readable, empty, isOpen])
  | finished _ nonempty => exact .same rfl fun _ => Or.inl nonempty
  | _ => exact .same rfl id

theorem registers_writer (direction : DirectionState File) (action : Action File) :
    Registers (·.writerWaiter) Writable direction action (direction.perform action) := by
  generalize performed : direction.perform action = result
  cases DirectionState.outcome performed with
  | finished | receiverClosed | senderClosed =>
    refine .ended rfl ?_
    intro task registered
    simp [closeReceiver, closeSender, registered]
  | refusedSend | failedCopy | writeDisarmed => exact .cleared rfl rfl id
  | published _ isOpen room => exact .cleared rfl rfl fun _ => Or.inl room
  | parkedSend isOpen full unclaimed =>
    exact .claimed rfl (fun _ => eq_of_clearWaiter unclaimed) (by simp [Writable, full, isOpen])
  | writeArmed full isOpen unclaimed =>
    exact .claimed rfl (fun _ => eq_of_unclaimed unclaimed) (by simp [Writable, full, isOpen])
  | _ => exact .same rfl id

structure Waits (direction : DirectionState File) : Prop where
  reader :
    ∀ task, direction.readerWaiter = some task → direction.len = 0 ∧ direction.senderOpen = true
  writer : ∀ task, direction.writerWaiter = some task →
    direction.len = channelQueueDepth ∧ direction.receiverOpen = true

theorem Waits.not_readable
    (waits : direction.Waits) (task : TaskId) (registered : direction.readerWaiter = some task) :
    ¬ direction.Readable := by
  simp [Readable, waits.reader task registered]

theorem Waits.not_writable
    (waits : direction.Waits) (task : TaskId) (registered : direction.writerWaiter = some task) :
    ¬ direction.Writable := by
  simp [Writable, waits.writer task registered]

theorem Waits.perform (waits : direction.Waits) (clean : direction.Clean) (action : Action File) :
    (direction.perform action).direction.Waits where
  reader := by
    intro task registered
    simpa [Readable] using
      (registers_reader direction action).not_ready waits.not_readable registered
  writer := by
    intro task registered
    have waiting := (registers_writer direction action).not_ready waits.not_writable registered
    have bounded := (clean.perform action).bounded
    simp only [Writable, not_or, Bool.not_eq_false] at waiting
    exact ⟨by omega, waiting.2⟩

theorem registered_of_blocked
    {action : Action File} (blocked : (direction.perform action).reply.isBlocked = true) :
    (∃ task request moment, action = .send task request moment ∧
      (direction.perform action).direction.writerWaiter = some task) ∨
    ∃ task nonblocking deadline moment,
      action = .beginReceive task nonblocking deadline moment ∧
      (direction.perform action).direction.readerWaiter = some task := by
  generalize performed : direction.perform action = result at blocked ⊢
  cases DirectionState.outcome performed with
  | parkedSend => exact Or.inl ⟨_, _, _, rfl, rfl⟩
  | parkedReceive => exact Or.inr ⟨_, _, _, _, rfl, rfl⟩
  | @readUnarmed task reply signal | @writeUnarmed task reply signal =>
    cases reply <;> cases signal <;> cases blocked
  | _ => cases blocked

end DirectionState

/-! ## Tasks -/

namespace ChannelPair

/-- The task sleeps in a send or a receive and is registered for it. -/
def Parked (pair : ChannelPair File) (task : TaskId) : Prop :=
  (∃ side request, pair.control task = .sending side request ∧
    (pair.directions side.outgoing).writerWaiter = some task) ∨
  ∃ side nonblocking deadline,
    pair.control task = .receiving side nonblocking deadline ∧
    (pair.directions side.incoming).readerWaiter = some task

structure Attentive (pair : ChannelPair File) : Prop where
  refines : ∀ direction, pair.Refines direction
  waits : ∀ direction, (pair.directions direction).Waits
  parked : ∀ task, pair.asleep task = true → pair.Parked task

variable {control : Control File} {entered : Section File} {task : TaskId}

theorem section_task {moment : Moment} (found : control.section? task moment = some entered) :
    entered.action.task? = none ∨ entered.action.task? = some task := by
  cases control <;> cases found <;> simp [Action.task?]

theorem reply_eq_blocked {reply : Reply File} (blocked : reply.isBlocked = true) :
    reply = .blocked := by
  cases reply <;> first | rfl | cases blocked

section Advance

variable {pair : ChannelPair File} {task : TaskId} {moment : Moment} {entered : Section File}

theorem Attentive.parked_self (found : (pair.control task).section? task moment = some entered)
    (blocked :
      ((pair.directions entered.direction).perform entered.action).reply.isBlocked = true) :
    (pair.advance task entered).Parked task := by
  have isBlocked := reply_eq_blocked blocked
  have resumed : (pair.advance task entered).control task = entered.resume .blocked := by
    simp [advance, isBlocked]
  rcases registered_of_blocked blocked with
    ⟨sender, request, sent, isSend, registered⟩ |
      ⟨receiver, nonblocking, deadline, begun, isReceive, registered⟩
  -- Only the loops of send and receive block, and a blocked loop is at its head
  -- again.
  · cases own : pair.control task <;> rw [own] at found <;> cases found <;> cases isSend
    refine Or.inl ⟨_, _, resumed, ?_⟩
    rw [directions_advance_self]
    exact registered
  · cases own : pair.control task <;> rw [own] at found <;> cases found <;> cases isReceive
    refine Or.inr ⟨_, _, _, resumed, ?_⟩
    rw [directions_advance_self]
    exact registered

theorem waiter_after_advance (waiter : DirectionState File → Option TaskId) {direction : Side}
    (registered : waiter (pair.directions direction) = some other)
    (kept : ∀ state : DirectionState File, waiter state = some other →
      waiter (state.perform entered.action).direction = some other ∨
        other ∈ (state.perform entered.action).woken)
    (notWoken : other ∉ ((pair.directions entered.direction).perform entered.action).woken) :
    waiter ((pair.advance task entered).directions direction) = some other := by
  by_cases same : direction = entered.direction
  · subst same
    rw [directions_advance_self]
    exact (kept _ registered).resolve_right notWoken
  · rw [directions_advance_of_ne same]
    exact registered

theorem Attentive.parked_other
    (attentive : pair.Attentive) (found : (pair.control task).section? task moment = some entered)
    (different : other ≠ task) (slept : pair.asleep other = true)
    (notWoken : other ∉ ((pair.directions entered.direction).perform entered.action).woken) :
    (pair.advance task entered).Parked other := by
  have foreign : entered.action.task? ≠ some other := by
    intro own
    rcases section_task found with none | actor
    · rw [none] at own
      cases own
    · rw [actor] at own
      exact different (Option.some.inj own).symm
  have sameControl : (pair.advance task entered).control other = pair.control other := by
    simp [advance, different]
  rcases attentive.parked other slept with
    ⟨side, request, control, registered⟩ | ⟨side, nonblocking, deadline, control, registered⟩
  · exact Or.inl ⟨side, request, sameControl.trans control,
      waiter_after_advance (·.writerWaiter) registered
        (fun state held => (state.registers_writer _).kept_or_woken held foreign) notWoken⟩
  · exact Or.inr ⟨side, nonblocking, deadline, sameControl.trans control,
      waiter_after_advance (·.readerWaiter) registered
        (fun state held => (state.registers_reader _).kept_or_woken held foreign) notWoken⟩

theorem Attentive.advance
    (attentive : pair.Attentive) (found : (pair.control task).section? task moment = some entered) :
    (pair.advance task entered).Attentive where
  refines := fun direction => (attentive.refines direction).advance _ _
  waits := by
    intro direction
    by_cases same : direction = entered.direction
    · subst same
      rw [directions_advance_self]
      exact (attentive.waits _).perform (attentive.refines _).clean entered.action
    · rw [directions_advance_of_ne same]
      exact attentive.waits direction
  parked := by
    intro other sleeps
    simp only [ChannelPair.advance] at sleeps
    split at sleeps
    · cases sleeps
    · next notWoken =>
      split at sleeps
      · next own =>
        subst own
        exact Attentive.parked_self found sleeps
      · next different => exact attentive.parked_other found different sleeps notWoken

end Advance

/-- Every section, whichever task runs it, keeps the waiters attended. -/
theorem Attentive.step {pair next : ChannelPair File} {label : Label File}
    (attentive : pair.Attentive) (taken : pair.step label = some next) :
    next.Attentive := by
  have refines : ∀ direction, next.Refines direction := by
    intro direction
    exact (attentive.refines direction).step taken
  cases label with
  | start task side =>
    simp only [ChannelPair.step] at taken
    split at taken
    · next returned =>
      cases taken
      refine ⟨refines, attentive.waits, ?_⟩
      intro other sleeps
      have parked := attentive.parked other sleeps
      have different : other ≠ task := by
        intro same
        subst same
        rcases parked with ⟨side, request, control, _⟩ | ⟨side, nonblocking, deadline, control, _⟩
        all_goals
          rw [control] at returned
          cases returned
      simpa [Parked, different] using parked
    · cases taken
  | advance task =>
    simp only [ChannelPair.step] at taken
    split at taken
    · cases taken
    · obtain ⟨_, found, same⟩ := Option.map_eq_some_iff.mp taken
      rw [← same]
      exact attentive.advance found
  | rouse task =>
    cases taken
    refine ⟨refines, attentive.waits, ?_⟩
    intro other sleeps
    by_cases same : other = task
    · subst same
      simp at sleeps
    · simp only [Function.update_of_ne same] at sleeps
      exact attentive.parked other sleeps

/-! ## The theorem -/

/-- Registered tasks have to wait, the step that ends their wait removes the
registration and wakes them, and a sleeping task is registered. -/
structure NoLostWakeup (pair : ChannelPair File) : Prop where
  readers : ∀ direction task, (pair.directions direction).readerWaiter = some task →
    (pair.directions direction).len = 0 ∧ (pair.directions direction).senderOpen = true
  writers : ∀ direction task, (pair.directions direction).writerWaiter = some task →
    (pair.directions direction).len = channelQueueDepth ∧
      (pair.directions direction).receiverOpen = true
  readerWoken : ∀ label next direction task, pair.step label = some next →
    (pair.directions direction).readerWaiter = some task → ((next.directions direction).len ≠ 0 ∨
      (next.directions direction).senderOpen = false) →
      (next.directions direction).readerWaiter = none ∧
        next.asleep task = false ∧
        ∃ entry, next.history = pair.history ++ [entry] ∧ task ∈ entry.woken
  writerWoken : ∀ label next direction task, pair.step label = some next →
    (pair.directions direction).writerWaiter = some task →
      ((next.directions direction).len < channelQueueDepth ∨
        (next.directions direction).receiverOpen = false) →
        (next.directions direction).writerWaiter = none ∧
          next.asleep task = false ∧
          ∃ entry, next.history = pair.history ++ [entry] ∧ task ∈ entry.woken
  sleepers : ∀ task, pair.asleep task = true → pair.Parked task

/-- The step that ends a wait is the section that wakes the task. -/
theorem woken_of_step {pair next : ChannelPair File} {label : Label File} {direction : Side}
    (waiter : DirectionState File → Option TaskId)
    (finished : DirectionState File → Prop) (taken : pair.step label = some next)
    (waiting : ¬ finished (pair.directions direction))
    (wakes : ∀ action,
      finished ((pair.directions direction).perform action).direction →
      waiter ((pair.directions direction).perform action).direction = none ∧
        task ∈ ((pair.directions direction).perform action).woken)
    (ended : finished (next.directions direction)) :
    waiter (next.directions direction) = none ∧
      next.asleep task = false ∧
      ∃ entry, next.history = pair.history ++ [entry] ∧ task ∈ entry.woken := by
  rcases step_cases taken with
    ⟨sameDirections, _⟩ | ⟨actor, moment, entered, _, _, _, rfl⟩
  · rw [sameDirections] at ended
    exact absurd ended waiting
  · by_cases same : direction = entered.direction
    · subst same
      rw [directions_advance_self] at ended ⊢
      obtain ⟨removed, woken⟩ := wakes _ ended
      exact ⟨removed, by simp [advance, woken]⟩
    · rw [directions_advance_of_ne same] at ended
      exact absurd ended waiting

/-- **No wake-up is lost**, in every interleaving of the sections of all calls
by all tasks. -/
theorem channel_no_lost_wakeup (labels : List (Label File)) (final : ChannelPair File)
    (reached : Execution.exec step create labels = some final) :
    final.NoLostWakeup := by
  have attentive : final.Attentive := Execution.invariant_of_exec
    (fun _ _ _ attentive taken => attentive.step taken)
    ⟨refines_create, fun _ => ⟨nofun, nofun⟩, nofun⟩ reached
  refine ⟨fun direction => (attentive.waits direction).reader,
    fun direction => (attentive.waits direction).writer, ?_, ?_, attentive.parked⟩
  · intro label next direction task taken registered readable
    have waiting := (attentive.waits direction).not_readable task registered
    refine woken_of_step (·.readerWaiter) Readable taken waiting ?_ readable
    intro action ended
    exact (registers_reader _ _).woken registered waiting ended
  · intro label next direction task taken registered writable
    have waiting := (attentive.waits direction).not_writable task registered
    refine woken_of_step (·.writerWaiter) Writable taken waiting ?_ writable
    intro action ended
    exact (registers_writer _ _).woken registered waiting ended

/-- Task 2 falls asleep in a receive, and the send of task 1 wakes it. -/
def wakeRun : List (Label Unit) :=
  [ .start 2 .b (.beginReceive false none), .advance 2 quiet,
    .start 3 .a (.armWait 3), .advance 3 quiet, .advance 3 quiet,
    .start 1 .a (.send (greeting 7)), .advance 1 quiet ]

theorem wakeRun_noLostWakeup :
    ∃ asleep awake,
      Execution.exec step create (wakeRun.take 2) = some asleep ∧
      Execution.exec step create wakeRun = some awake ∧
      asleep.NoLostWakeup ∧ awake.NoLostWakeup ∧
      asleep.asleep 2 = true ∧ awake.asleep 2 = false ∧
      (awake.directions .b).readerWaiter = some 3 := by
  have first :
      ∃ pair, Execution.exec step create (wakeRun.take 2) = some pair ∧ pair.asleep 2 = true := by
    decide +kernel
  have second :
      ∃ pair, Execution.exec step create wakeRun = some pair ∧
        pair.asleep 2 = false ∧
        (pair.directions .b).readerWaiter = some 3 := by
    decide +kernel
  obtain ⟨asleep, reachedAsleep, sleeps⟩ := first
  obtain ⟨awake, reachedAwake, isAwake, registered⟩ := second
  exact ⟨asleep, awake, reachedAsleep, reachedAwake,
    channel_no_lost_wakeup _ asleep reachedAsleep,
    channel_no_lost_wakeup _ awake reachedAwake, sleeps, isAwake, registered⟩

end ChannelPair

end Xenith.Ipc
