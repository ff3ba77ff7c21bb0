import Xenith.Util.RingBuffer

/-!
# The display session

Ownership of the display, routing of input and the reading of events, after
`kernel/src/ui.rs`.  A section under the event lock is one step, together with
the wake that follows it.
-/

namespace Xenith.Ui

open Util

/-- Process zero is the kernel. -/
abbrev ProcessId := Nat

abbrev TaskId := Nat

def eventQueueCapacity : Nat := 512

instance : NeZero eventQueueCapacity :=
  ⟨by decide⟩

def keyboardQueueCapacity : Nat := 1024

def mouseQueueCapacity : Nat := 64

def uiMaxEventsPerRead : Nat := 32

def uiEventFlagOverflow : UInt16 := 0x8000

inductive UiError where
  | noDisplay
  | busy
  | notOwner
  | invalidArgument
  | fault
  | interrupted
deriving DecidableEq

/-- The time between two changes of ownership; the console owns the input as
process zero. -/
structure Period where
  number : Nat
  owner : ProcessId
deriving DecidableEq

inductive Device where
  | keyboard
  | mouse
deriving DecidableEq

/-- The record does not hold `sampled`, the period in which its decoder has
sampled the routing token. -/
structure UiInputEvent where
  sequence : Nat := 0
  flags : UInt16 := 0
  device : Device := .keyboard
  sampled : Period
deriving DecidableEq

structure EventState where
  events : RingBuffer UiInputEvent eventQueueCapacity := .new fun _ => { sampled := ⟨0, 0⟩ }
  nextSequence : Nat := 1
  waiter : Option TaskId := none
  dropped : Nat := 0
  overflowPending : Bool := false

namespace EventState

/-- The former waiter is woken by the caller. -/
def reset (state : EventState) : EventState :=
  { state with
    events := state.events.clear
    waiter := none
    dropped := 0
    overflowPending := false }

/-- The assertion that the slot is free or names the task is checked in debug
builds only. -/
def armWaiter (state : EventState) (task : TaskId) : EventState :=
  { state with waiter := some task }

def clearWaiter (state : EventState) (task : TaskId) : EventState :=
  if state.waiter = some task then { state with waiter := none } else state

def push (state : EventState) (event : UiInputEvent) : EventState :=
  let stamped := { event with sequence := state.nextSequence }
  let nextSequence := max ((state.nextSequence + 1) % 2 ^ 64) 1
  match state.events.push stamped with
  | (.ok (), events) => { state with events := events, nextSequence := nextSequence }
  | (.error refused, full) =>
    { state with
      events := ((full.popUpTo 1).2.push refused).2
      nextSequence := nextSequence
      dropped := min (state.dropped + 1) (2 ^ 64 - 1)
      overflowPending := true }

/-- An event that finds the queue full takes the place of the oldest one. -/
theorem push_cases (state : EventState) (event : UiInputEvent) :
    (state.push event).overflowPending = state.overflowPending ∧
        (state.push event).events.contents =
          state.events.contents ++ [{ event with sequence := state.nextSequence }] ∨
      (state.push event).overflowPending = true ∧ ∃ oldest rest,
        state.events.contents = oldest :: rest ∧
          (state.push event).events.contents =
            rest ++ [{ event with sequence := state.nextSequence }] := by
  unfold push
  rcases RingBuffer.push_cases state.events { event with sequence := state.nextSequence } with
    ⟨accepted, pushed⟩ | ⟨refused, full⟩
  · dsimp only
    rw [← Prod.eta (state.events.push _), accepted]
    exact Or.inl ⟨rfl, pushed⟩
  · simp only [refused, RingBuffer.contents_push_of_full full, true_and]
    cases contents : state.events.contents with
    | nil =>
      rw [← RingBuffer.length_contents, contents] at full
      cases full
    | cons oldest rest => exact Or.inr ⟨oldest, rest, rfl, rfl⟩

/-- The oldest events, which stay queued. -/
def stage (state : EventState) (capacity : Nat) : List UiInputEvent :=
  match state.events.contents.take capacity with
  | [] => []
  | first :: rest =>
    (if state.overflowPending then { first with flags := first.flags ||| uiEventFlagOverflow }
    else first) :: rest

def commit (state : EventState) (count : Nat) : EventState :=
  { state with
    events := (state.events.popUpTo count).2
    overflowPending := decide (count = 0) && state.overflowPending }

theorem contents_commit (state : EventState) (count : Nat) :
    (state.commit count).events.contents = state.events.contents.drop count :=
  (RingBuffer.contents_popUpTo ..).2

end EventState

/-! ## Tasks -/

/-- Without a timeout a read waits for ever. -/
structure ReadRequest where
  capacity : Nat
  timeout : Option Nat := none
deriving DecidableEq

/-- What a task is doing.  `parked` and `armed` end with the wake. -/
inductive Standing where
  | outside
  | reading (request : ReadRequest)
  | parked (request : ReadRequest)
  | waiting
  | armed
deriving DecidableEq

namespace Standing

/-- The task sleeps in `read_events` or relies on `arm_external_wait`, and
has not been woken since. -/
def registered : Standing → Bool
  | .parked _ => true
  | .armed => true
  | _ => false

def woken : Standing → Standing
  | .parked request => .reading request
  | .armed => .waiting
  | standing => standing

end Standing

/-- An event that its decoder has not routed yet. -/
structure Decoder where
  epoch : Nat
  event : UiInputEvent
deriving DecidableEq

/-- An event that a reader has got; `starts` marks the first of its read. -/
structure Delivery where
  event : UiInputEvent
  reader : ProcessId
  during : Period
  starts : Bool
deriving DecidableEq

/-- `changes` counts the changes of ownership, and `delivered` is the history
of what has been read. -/
structure Session where
  owner : ProcessId := 0
  activeInputEpoch : Nat := 0
  nextEpoch : Nat := 1
  state : EventState := {}
  keyboard : List UiInputEvent := []
  mouse : List UiInputEvent := []
  decoders : List Decoder := []
  tasks : TaskId → Standing := fun _ => .outside
  changes : Nat := 0
  delivered : List Delivery := []

namespace Session

def period (session : Session) : Period :=
  ⟨session.changes, session.owner⟩

def setTask (session : Session) (task : TaskId) (standing : Standing) : Session :=
  { session with tasks := Function.update session.tasks task standing }

def wakeWaiter (session : Session) : Option TaskId → Session
  | none => session
  | some task => session.setTask task (session.tasks task).woken

def wakeTaken (session : Session) : Session :=
  { session with state := { session.state with waiter := none } }.wakeWaiter session.state.waiter

/-- The next token and the counter behind it; token zero is skipped. -/
def nextInputEpoch (counter : Nat) : Nat × Nat :=
  if counter = 0 then (1, 2) else (counter, (counter + 1) % 2 ^ 64)

/-- The owner and the token change and the queues are cleared. -/
def transfer (session : Session) (owner : ProcessId) (epoch : Nat) : Session :=
  { session with
    owner := owner
    activeInputEpoch := epoch
    state := session.state.reset
    keyboard := []
    mouse := []
    changes := session.changes + 1 }

/-- `display` says whether the framebuffer can be suspended. -/
def acquire (session : Session) (pid : ProcessId) (display : Bool) : Except UiError Session :=
  if pid = 0 then .error .notOwner
  else if session.owner = pid then .ok session
  else if session.owner ≠ 0 then .error .busy
  else if display = false then .error .noDisplay
  else
    let issued := nextInputEpoch session.nextEpoch
    .ok ({ session with nextEpoch := issued.2 }.transfer pid issued.1)

def release (session : Session) (pid : ProcessId) : Except UiError Session :=
  if pid = 0 ∨ session.owner ≠ pid then .error .notOwner
  else .ok ((session.transfer 0 0).wakeWaiter session.state.waiter)

inductive EventRoute where
  | userspace
  | kernel
  | stale
deriving DecidableEq

def classifyEventRoute (sampledEpoch activeEpoch : Nat) : EventRoute :=
  if sampledEpoch ≠ activeEpoch then .stale
  else if activeEpoch = 0 then .kernel
  else .userspace

/-- The device queues of the console: a full keyboard queue drops its oldest
event, a full mouse queue the new one. -/
def kernelFallback (session : Session) (event : UiInputEvent) : Session :=
  match event.device with
  | .keyboard =>
    if session.keyboard.length = keyboardQueueCapacity then
      { session with keyboard := session.keyboard.tail ++ [event] }
    else { session with keyboard := session.keyboard ++ [event] }
  | .mouse =>
    if session.mouse.length = mouseQueueCapacity then session
    else { session with mouse := session.mouse ++ [event] }

def routeEvent (session : Session) (sampledEpoch : Nat) (event : UiInputEvent) : Session :=
  match classifyEventRoute sampledEpoch session.activeInputEpoch with
  | .kernel => session.kernelFallback event
  | .stale => session
  | .userspace => { session with state := session.state.push event }.wakeTaken

def notifySignal (session : Session) (pid : ProcessId) : Session :=
  if session.owner ≠ pid ∨ pid = 0 then session else session.wakeTaken

/-! ## Waiting and reading -/

inductive Readiness where
  | hangup
  | uiInput
  | pending
deriving DecidableEq

def armExternalWait (session : Session) (pid : ProcessId) (task : TaskId) :
    Except UiError Readiness × Session :=
  if session.owner ≠ pid ∨ pid = 0 then (.ok .hangup, session)
  else if session.state.events.len ≠ 0 then (.ok .uiInput, session)
  else if session.state.waiter = none ∨ session.state.waiter = some task then
    (.ok .pending, { session with state := session.state.armWaiter task })
  else (.error .busy, session)

def clearWaiter (session : Session) (task : TaskId) : Session :=
  { session with state := session.state.clearWaiter task }

/-- The checks of `read_events` in front of its loop; the result of a call
that does not enter it. -/
def enterRead (session : Session) (pid : ProcessId) (request : ReadRequest)
    (prepared : Bool) : Option (Except UiError Nat) :=
  if request.capacity = 0 then some (.ok 0)
  else if uiMaxEventsPerRead < request.capacity then some (.error .invalidArgument)
  else if session.owner ≠ pid ∨ pid = 0 then some (.error .notOwner)
  else if prepared = false then some (.error .fault)
  else none

/-- What an iteration of the loop finds outside of the session. -/
structure Moment where
  copies : Bool := true
  interrupted : Bool := false
  expired : Bool := false
  credit : Bool := false
deriving DecidableEq

/-- A read that finds no event does not wait. -/
def Moment.ends (moment : Moment) (request : ReadRequest) : Prop :=
  request.timeout = some 0 ∨ moment.interrupted = true ∨
    request.timeout.isSome = true ∧ moment.expired = true

instance (moment : Moment) (request : ReadRequest) : Decidable (moment.ends request) :=
  inferInstanceAs (Decidable (_ ∨ _ ∨ _))

/-- How an iteration ends.  It goes on `again` when the scheduler takes an
interrupt credit instead of parking the task. -/
inductive Reply where
  | parked
  | again
  | returned (result : Except UiError Nat)

/-- The read events, with the first of them marked. -/
def deliveries (session : Session) (reader : ProcessId) : List UiInputEvent → List Delivery
  | [] => []
  | first :: rest =>
    ⟨first, reader, session.period, true⟩ ::
      rest.map fun event => ⟨event, reader, session.period, false⟩

/-- One iteration of the loop of `read_events`. -/
def readSection (session : Session) (pid : ProcessId) (task : TaskId)
    (request : ReadRequest) (moment : Moment) : Reply × Session :=
  let staged := session.state.stage request.capacity
  if session.owner ≠ pid then (.returned (.error .notOwner), session.clearWaiter task)
  else if staged ≠ [] then
    if moment.copies = false then (.returned (.error .fault), session.clearWaiter task)
    else
      (.returned (.ok staged.length),
        { session with
          state := session.state.commit staged.length
          delivered := session.delivered ++ session.deliveries pid staged }.clearWaiter task)
  else if request.timeout = some 0 then (.returned (.ok 0), session.clearWaiter task)
  else if moment.interrupted then (.returned (.error .interrupted), session.clearWaiter task)
  else if request.timeout.isSome ∧ moment.expired = true then
    (.returned (.ok 0), session.clearWaiter task)
  else
    (if moment.credit then .again else .parked,
      { session with state := session.state.armWaiter task })

/-- An iteration returns without events, returns events, or registers the
task. -/
theorem readSection_cases (session : Session) (pid : ProcessId)
    (task : TaskId) (request : ReadRequest) (moment : Moment) :
    (∃ result,
      session.readSection pid task request moment = (.returned result, session.clearWaiter task)) ∨
      (session.owner = pid ∧ session.state.stage request.capacity ≠ [] ∧
        session.readSection pid task request moment =
          (.returned (.ok (session.state.stage request.capacity).length),
            { session with
              state := session.state.commit (session.state.stage request.capacity).length
              delivered := session.delivered ++
                session.deliveries pid (session.state.stage request.capacity) }.clearWaiter
              task)) ∨
      (session.owner = pid ∧ session.state.stage request.capacity = [] ∧ ¬ moment.ends request ∧
        session.readSection pid task request moment =
          (if moment.credit then .again else .parked,
            { session with state := session.state.armWaiter task })) := by
  fun_cases readSection with
  | case3 staged owned unstaged => exact Or.inr (Or.inl ⟨not_not.mp owned, unstaged, rfl⟩)
  | case7 staged owned unstaged waits unbroken early =>
    refine Or.inr (Or.inr ⟨not_not.mp owned, not_not.mp unstaged, ?_, rfl⟩)
    exact not_or.mpr ⟨waits, not_or.mpr ⟨unbroken, early⟩⟩
  | _ => exact Or.inl ⟨_, rfl⟩

def Reply.standing (request : ReadRequest) : Reply → Standing
  | .parked => .parked request
  | .again => .reading request
  | .returned _ => .outside

/-! ## Steps -/

inductive Label where
  | sample (flags : UInt16) (device : Device)
  | route (index : Nat)
  | popEvent (device : Device)
  | acquire (pid : ProcessId) (display : Bool)
  | release (pid : ProcessId)
  | notifySignal (pid : ProcessId)
  | armExternalWait (task : TaskId)
  | disarmExternalWait (task : TaskId)
  | readEvents (task : TaskId) (request : ReadRequest) (prepared : Bool)
  | iterate (task : TaskId) (moment : Moment)
  | rouse (task : TaskId)

def popEvent (session : Session) : Device → Session
  | .keyboard =>
    { session with
      keyboard := session.keyboard.tail
      delivered := session.delivered ++ session.deliveries 0 (session.keyboard.take 1) }
  | .mouse =>
    { session with
      mouse := session.mouse.tail
      delivered := session.delivered ++ session.deliveries 0 (session.mouse.take 1) }

/-- A decoder samples the token; what it decodes is up to the device. -/
def sample (session : Session) (flags : UInt16) (device : Device) : Session :=
  { session with
    decoders := session.decoders ++ [⟨session.activeInputEpoch, 0, flags, device, session.period⟩] }

/-- A call that fails leaves the session alone.  A task makes one call at a
time: a wait starts with `arm_external_wait` and ends with
`disarm_external_wait`. -/
def step (process : TaskId → ProcessId) (session : Session) : Label → Option Session
  | .sample flags device => some (session.sample flags device)
  | .route index =>
    session.decoders[index]?.map fun decoder =>
      { session with
        decoders := session.decoders.eraseIdx index }.routeEvent decoder.epoch decoder.event
  | .popEvent device => some (session.popEvent device)
  | .acquire pid display => some ((session.acquire pid display).toOption.getD session)
  | .release pid => some ((session.release pid).toOption.getD session)
  | .notifySignal pid => some (session.notifySignal pid)
  | .armExternalWait task =>
    match session.tasks task with
    | .reading _ | .parked _ => none
    | _ =>
      match session.armExternalWait (process task) task with
      | (.ok .pending, next) => some (next.setTask task .armed)
      | (_, next) => some (next.setTask task .waiting)
  | .disarmExternalWait task =>
    match session.tasks task with
    | .reading _ | .parked _ => none
    | _ => some ((session.clearWaiter task).setTask task .outside)
  | .readEvents task request prepared =>
    if session.tasks task = .outside then
      match session.enterRead (process task) request prepared with
      | some _ => some session
      | none => some (session.setTask task (.reading request))
    else none
  | .iterate task moment =>
    match session.tasks task with
    | .reading request =>
      let (reply, next) := session.readSection (process task) task request moment
      some (next.setTask task (Reply.standing request reply))
    | _ => none
  | .rouse task =>
    match session.tasks task with
    | .parked request => some (session.setTask task (.reading request))
    | _ => none

section Inversion

variable {process : TaskId → ProcessId} {session next : Session}
variable {pid : ProcessId} {task : TaskId} {request : ReadRequest}

theorem acquire_eq_ok {display : Bool} (acquired : session.acquire pid display = .ok next) :
    next = session ∨
      pid ≠ 0 ∧ session.owner = 0 ∧ display = true ∧
        next =
          { session with nextEpoch := (nextInputEpoch session.nextEpoch).2 }.transfer pid
              (nextInputEpoch session.nextEpoch).1 := by
  revert acquired
  fun_cases acquire with
  | case2 =>
    rintro ⟨⟩
    exact Or.inl rfl
  | case5 user _ unowned shown =>
    rintro ⟨⟩
    exact Or.inr ⟨user, not_not.mp unowned, Bool.eq_true_of_not_eq_false shown, rfl⟩
  | _ => nofun

theorem release_eq_ok (released : session.release pid = .ok next) :
    pid ≠ 0 ∧ session.owner = pid ∧
      next = (session.transfer 0 0).wakeWaiter session.state.waiter := by
  revert released
  fun_cases release with
  | case1 => nofun
  | case2 owned =>
    rintro ⟨⟩
    rw [not_or, not_not] at owned
    exact ⟨owned.1, owned.2, rfl⟩

/-- A wait takes the slot, which is free, or is told at once. -/
theorem step_armExternalWait (armed : step process session (.armExternalWait task) = some next) :
    next = session.setTask task .waiting ∨ (session.owner = process task ∧ process task ≠ 0) ∧
      session.state.events.len = 0 ∧
      (session.state.waiter = none ∨ session.state.waiter = some task) ∧
      next = { session with state := session.state.armWaiter task }.setTask task .armed := by
  unfold step at armed
  simp only at armed
  split at armed
  · cases armed
  · cases armed
  · revert armed
    fun_cases armExternalWait with
    | case3 owned empty free =>
      rintro ⟨⟩
      rw [not_or, not_not] at owned
      exact Or.inr ⟨owned, not_not.mp empty, free, rfl⟩
    | _ =>
      rintro ⟨⟩
      exact Or.inl rfl

theorem step_disarmExternalWait
    (disarmed : step process session (.disarmExternalWait task) = some next) :
    next = (session.clearWaiter task).setTask task .outside := by
  unfold step at disarmed
  simp only at disarmed
  split at disarmed <;> cases disarmed
  rfl

theorem step_readEvents {prepared : Bool}
    (read : step process session (.readEvents task request prepared) = some next) :
    next = session ∨
      0 < request.capacity ∧ process task ≠ 0 ∧ next = session.setTask task (.reading request) := by
  unfold step at read
  simp only at read
  split at read
  · revert read
    fun_cases enterRead with
    | case5 nonempty _ owned =>
      rintro ⟨⟩
      rw [not_or] at owned
      exact Or.inr ⟨Nat.pos_of_ne_zero nonempty, owned.2, rfl⟩
    | _ =>
      rintro ⟨⟩
      exact Or.inl rfl
  · cases read

theorem step_iterate {moment : Moment}
    (iterated : step process session (.iterate task moment) = some next) :
    ∃ request, session.tasks task = .reading request ∧ next =
      (session.readSection (process task) task request moment).2.setTask
        task
        (Reply.standing request (session.readSection (process task) task request moment).1) := by
  unfold step at iterated
  simp only at iterated
  split at iterated
  · next request reading =>
    cases iterated
    exact ⟨request, reading, rfl⟩
  · cases iterated

theorem step_rouse (roused : step process session (.rouse task) = some next) :
    ∃ request, session.tasks task = .parked request ∧
      next = session.setTask task (.reading request) := by
  unfold step at roused
  simp only at roused
  split at roused
  · next request parked =>
    cases roused
    exact ⟨request, parked, rfl⟩
  · cases roused

end Inversion

end Session

end Xenith.Ui
