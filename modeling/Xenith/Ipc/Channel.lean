import Xenith.Lib.Ring

/-!
# Message channels

The channels of `kernel/src/ipc/channel.rs`.  Every access to a direction is a
section that holds its lock, and the tasks of the system interleave at the
boundaries of their sections.  Calls on an endpoint are allowed at any time,
also after it has been dropped; the ownership rules of the source admit fewer
runs.  The model starts from a pair that has been created.
-/

namespace Xenith.Ipc

open Function

abbrev TaskId := Nat

abbrev channelMessageBytes : Nat := 4096

abbrev channelTransferCapacity : Nat := 4

abbrev channelQueueDepth : Nat := 8

instance channelQueueDepth_neZero : NeZero channelQueueDepth :=
  ⟨by decide⟩

abbrev Rights := BitVec 32

/-- A file reference in a message, with the rights it is to be installed
with. -/
structure ChannelTransfer (File : Type) where
  file : File
  rights : Rights
  tag : BitVec 64
deriving DecidableEq

abbrev ChannelTransfers (File : Type) :=
  Fin channelTransferCapacity → Option (ChannelTransfer File)

def noTransfers {File : Type} : ChannelTransfers File :=
  fun _ => none

inductive ChannelError where
  | fault
  | invalidMessage
  | messageTooLarge
  | tooManyTransfers
  | wouldBlock
  | brokenPipe
  | interrupted
  | timedOut
  | busy
  | noCurrentTask
  | stateCorrupt
  | resourceExhausted
deriving DecidableEq, Repr

abbrev Payload := Fin channelMessageBytes → UInt8

namespace Payload

def zero : Payload :=
  fun _ => 0

/-- `payload[..length].fill(0)`. -/
def fillTo (payload : Payload) (length : Nat) : Payload :=
  fun position => if position.val < length then 0 else payload position

/-- `payload[length..].fill(0)`. -/
def fillFrom (payload : Payload) (length : Nat) : Payload :=
  fun position => if length ≤ position.val then 0 else payload position

def ZeroFrom (payload : Payload) (length : Nat) : Prop :=
  ∀ position : Fin channelMessageBytes, length ≤ position.val → payload position = 0

theorem zeroFrom_zero (length : Nat) : zero.ZeroFrom length := by
  intro position _
  rfl

theorem zeroFrom_fillFrom (payload : Payload) (length : Nat) :
    (payload.fillFrom length).ZeroFrom length := by
  intro position behind
  simp only [fillFrom, if_pos behind]

theorem eq_zero_of_zeroFrom
    {payload : Payload} (allZero : payload.ZeroFrom 0) : payload = zero := by
  funext position
  exact allZero position (Nat.zero_le _)

theorem fillTo_eq_zero {payload : Payload} {length : Nat} (clean : payload.ZeroFrom length) :
    payload.fillTo length = zero := by
  funext position
  unfold fillTo zero
  split
  · rfl
  · exact clean position (by omega)

end Payload

/-! ## One direction -/

structure MessageSlot (File : Type) where
  length : Nat := 0
  transfers : ChannelTransfers File := noTransfers

structure DirectionState (File : Type) where
  slots : Fin channelQueueDepth → MessageSlot File := fun _ => {}
  payloads : Fin channelQueueDepth → Payload := fun _ => Payload.zero
  head : Fin channelQueueDepth := 0
  len : Nat := 0
  senderOpen : Bool := true
  receiverOpen : Bool := true
  readerWaiter : Option TaskId := none
  writerWaiter : Option TaskId := none
  receiveOwner : Option (TaskId × BitVec 64) := none
  nextReceiveToken : BitVec 64 := 1

def armWaiter (slot : Option TaskId) (task : TaskId) : Except ChannelError (Option TaskId) :=
  match slot with
  | none => .ok (some task)
  | some existing => if existing = task then .ok (some existing) else .error .busy

def clearWaiter (slot : Option TaskId) (task : TaskId) : Option TaskId :=
  if slot = some task then none else slot

/-- What a loop reads from its surroundings in one pass. -/
structure Moment where
  interrupted : Bool
  now : Nat

def Moment.expired (moment : Moment) (deadline : Option Nat) : Bool :=
  deadline.any fun limit => decide (limit ≤ moment.now)

/-- The arguments of `send_with`.  The copier writes into the payload slot and
then succeeds or fails. -/
structure SendRequest (File : Type) where
  length : Nat
  transfers : ChannelTransfers File
  nonblocking : Bool
  deadline : Option Nat
  copy : Payload → Payload × Except ChannelError Unit

structure PendingReceive (File : Type) where
  task : TaskId
  token : BitVec 64
  length : Nat
  transfers : ChannelTransfers File

/-- The result of a section: a return value of the call, or the decision to
sleep. -/
inductive Reply (File : Type) where
  | done
  | failed (error : ChannelError)
  | blocked
  | received (pending : PendingReceive File)
  | exposed (payload : Payload) (length : Nat) (result : Except ChannelError Unit)
  | observed (ready : BitVec 32)

def Reply.isBlocked {File : Type} : Reply File → Bool
  | .blocked => true
  | _ => false

/-- The replies of a section that only looks at a direction. -/
def Reply.isSignal {File : Type} : Reply File → Bool
  | .failed _ => true
  | .observed _ => true
  | _ => false

structure Performed (File : Type) where
  direction : DirectionState File
  reply : Reply File
  woken : List TaskId := []

def transferCount {File : Type} (transfers : ChannelTransfers File) : Nat :=
  (List.finRange channelTransferCapacity).countP fun index => (transfers index).isSome

/-- The checks before the loop of `send_with_task`. -/
def SendRequest.check {File : Type} (request : SendRequest File) : Except ChannelError Unit :=
  if channelMessageBytes < request.length then .error .messageTooLarge
  else
    let count := transferCount request.transfers
    if (List.finRange channelTransferCapacity).any (fun index =>
          decide (index.val < count) && (request.transfers index).isNone) ||
        (List.finRange channelTransferCapacity).any (fun index =>
          decide (count ≤ index.val) && (request.transfers index).isSome) then
      .error .tooManyTransfers
    else .ok ()

def waitInterestReadable : BitVec 32 := 1#32

def waitInterestWritable : BitVec 32 := 2#32

def waitReadyReadable : BitVec 32 := 1#32

def waitReadyWritable : BitVec 32 := 2#32

def waitReadyHangup : BitVec 32 := 8#32

namespace DirectionState

variable {File : Type}

def tail (direction : DirectionState File) : Fin channelQueueDepth :=
  Ring.cell direction.head direction.len

/-- `max(1)` on the token counter. -/
def nonzeroToken (token : BitVec 64) : BitVec 64 :=
  if token = 0 then 1 else token

def nextToken (direction : DirectionState File) : BitVec 64 × DirectionState File :=
  let token := nonzeroToken direction.nextReceiveToken
  (token, { direction with nextReceiveToken := nonzeroToken (token + 1) })

def setPayload (direction : DirectionState File) (index : Fin channelQueueDepth)
    (payload : Payload) : DirectionState File :=
  { direction with payloads := update direction.payloads index payload }

def clearSlot (direction : DirectionState File) (index : Fin channelQueueDepth) :
    DirectionState File :=
  { direction with
    payloads := update direction.payloads index
      ((direction.payloads index).fillTo (direction.slots index).length)
    slots := update direction.slots index {} }

/-- The successful end of a send: the copier has written `payload` into the
slot behind the queue. -/
def publish (direction : DirectionState File) (payload : Payload) (length : Nat)
    (transfers : ChannelTransfers File) : DirectionState File :=
  { direction with
    payloads := update direction.payloads direction.tail (payload.fillFrom length)
    slots := update direction.slots direction.tail ⟨length, transfers⟩
    len := direction.len + 1
    readerWaiter := none }

/-- One pass of the loop of `send_with_task`, on the outgoing direction.  The
checks before the loop depend on the request alone. -/
def sendWithTask (direction : DirectionState File) (task : TaskId)
    (request : SendRequest File) (moment : Moment) : Performed File :=
  match request.check with
  | .error error => { direction, reply := .failed error }
  | .ok () =>
    let direction := { direction with writerWaiter := clearWaiter direction.writerWaiter task }
    if direction.receiverOpen = false then { direction, reply := .failed .brokenPipe }
    else if direction.len < channelQueueDepth then
      match request.copy (direction.payloads direction.tail) with
      | (_, .error error) =>
        { direction := direction.setPayload direction.tail Payload.zero, reply := .failed error }
      | (payload, .ok ()) =>
        { direction := direction.publish payload request.length request.transfers
          reply := .done
          woken := direction.readerWaiter.toList }
    else if request.nonblocking then { direction, reply := .failed .wouldBlock }
    else if moment.interrupted then { direction, reply := .failed .interrupted }
    else if moment.expired request.deadline then { direction, reply := .failed .timedOut }
    else
      match armWaiter direction.writerWaiter task with
      | .error error => { direction, reply := .failed error }
      | .ok waiter =>
        { direction := { direction with writerWaiter := waiter }
          reply := .blocked }

/-- One pass of the loop of `begin_receive_for_task`, on the incoming
direction. -/
def beginReceiveForTask (direction : DirectionState File) (task : TaskId)
    (nonblocking : Bool) (deadline : Option Nat) (moment : Moment) :
    Performed File :=
  let direction := { direction with readerWaiter := clearWaiter direction.readerWaiter task }
  match direction.receiveOwner with
  | some (owner, _) =>
    { direction
      reply := if owner = task then .failed .stateCorrupt else .failed .busy }
  | none =>
    if direction.len ≠ 0 then
      let slot := direction.slots direction.head
      let (token, direction) := direction.nextToken
      { direction := { direction with receiveOwner := some (task, token) }
        reply :=
          .received
            { task, token
              length := slot.length
              transfers := slot.transfers } }
    else if direction.senderOpen = false then { direction, reply := .failed .brokenPipe }
    else if nonblocking then { direction, reply := .failed .wouldBlock }
    else if moment.interrupted then { direction, reply := .failed .interrupted }
    else if moment.expired deadline then { direction, reply := .failed .timedOut }
    else
      match armWaiter direction.readerWaiter task with
      | .error error => { direction, reply := .failed error }
      | .ok waiter =>
        { direction := { direction with readerWaiter := waiter }
          reply := .blocked }

/-- The receive that the pending record reserved is still reserved. -/
def ownedBy (direction : DirectionState File) (pending : PendingReceive File) : Bool :=
  decide (direction.receiveOwner = some (pending.task, pending.token))

def copyReceiveWith (direction : DirectionState File) (pending : PendingReceive File)
    (copy : Payload → Nat → Except ChannelError Unit) : Performed File :=
  if direction.ownedBy pending = false ∨ direction.len = 0 then
    { direction, reply := .failed .stateCorrupt }
  else
    let slot := direction.slots direction.head
    if slot.length ≠ pending.length then { direction, reply := .failed .stateCorrupt }
    else
      let payload := direction.payloads direction.head
      { direction
        reply := .exposed payload slot.length (copy payload slot.length) }

/-- The successful end of a receive. -/
def retireFront (direction : DirectionState File) : DirectionState File :=
  { direction.clearSlot direction.head with
    head := Ring.cell direction.head 1
    len := direction.len - 1
    receiveOwner := none
    writerWaiter := none }

def finishReceive (direction : DirectionState File) (pending : PendingReceive File) :
    Performed File :=
  if direction.ownedBy pending = false ∨ direction.len = 0 then
    { direction, reply := .failed .stateCorrupt }
  else
    { direction := direction.retireFront, reply := .done, woken := direction.writerWaiter.toList }

def cancelReceive (direction : DirectionState File) (pending : PendingReceive File) :
    Performed File :=
  if direction.ownedBy pending = false then { direction, reply := .failed .stateCorrupt }
  else
    { direction := { direction with receiveOwner := none }
      reply := .done }

/-- The readiness that `poll_ready` and `arm_wait` read off the incoming
direction. -/
def readReadiness (direction : DirectionState File) : BitVec 32 :=
  (if direction.len ≠ 0 then waitReadyReadable else 0) |||
    (if direction.senderOpen = false then waitReadyHangup else 0)

/-- The readiness that `poll_ready` and `arm_wait` read off the outgoing
direction. -/
def writeReadiness (direction : DirectionState File) : BitVec 32 :=
  (if direction.receiverOpen = true ∧ direction.len < channelQueueDepth then waitReadyWritable
    else 0) |||
    (if direction.receiverOpen = false then waitReadyHangup else 0)

/-- The section of `arm_wait` on the incoming direction. -/
def armRead (direction : DirectionState File) (task : TaskId) : Performed File :=
  if direction.readReadiness = 0 then
    match armWaiter direction.readerWaiter task with
    | .error error => { direction, reply := .failed error }
    | .ok waiter =>
      { direction := { direction with readerWaiter := waiter }
        reply := .observed 0 }
  else { direction, reply := .observed direction.readReadiness }

/-- The section of `arm_wait` on the outgoing direction. -/
def armWrite (direction : DirectionState File) (task : TaskId) : Performed File :=
  if direction.writeReadiness = 0 then
    match armWaiter direction.writerWaiter task with
    | .error error => { direction, reply := .failed error }
    | .ok waiter =>
      { direction := { direction with writerWaiter := waiter }
        reply := .observed 0 }
  else { direction, reply := .observed direction.writeReadiness }

def disarmRead (direction : DirectionState File) (task : TaskId) : Performed File :=
  { direction := { direction with readerWaiter := clearWaiter direction.readerWaiter task }
    reply := .done }

def disarmWrite (direction : DirectionState File) (task : TaskId) : Performed File :=
  { direction := { direction with writerWaiter := clearWaiter direction.writerWaiter task }
    reply := .done }

def clearQueued (direction : DirectionState File) : Nat → DirectionState File
  | 0 => direction
  | count + 1 =>
    let cleared := direction.clearQueued count
    cleared.clearSlot (Ring.cell direction.head count)

/-- The section of an endpoint's drop on the incoming direction. -/
def closeReceiver (direction : DirectionState File) : Performed File :=
  { direction :=
      { direction.clearQueued direction.len with
        receiverOpen := false
        head := 0
        len := 0
        receiveOwner := none
        readerWaiter := none
        writerWaiter := none }
    reply := .done
    woken := direction.readerWaiter.toList ++ direction.writerWaiter.toList }

/-- The section of an endpoint's drop on the outgoing direction. -/
def closeSender (direction : DirectionState File) : Performed File :=
  { direction :=
      { direction with senderOpen := false, readerWaiter := none, writerWaiter := none }
    reply := .done
    woken := direction.readerWaiter.toList ++ direction.writerWaiter.toList }

end DirectionState

/-- The sections that hold the lock of a direction. -/
inductive Action (File : Type) where
  | send (task : TaskId) (request : SendRequest File) (moment : Moment)
  | beginReceive (task : TaskId) (nonblocking : Bool) (deadline : Option Nat) (moment : Moment)
  | copyReceive (pending : PendingReceive File) (copy : Payload → Nat → Except ChannelError Unit)
  | finishReceive (pending : PendingReceive File)
  | cancelReceive (pending : PendingReceive File)
  | armRead (task : TaskId)
  | armWrite (task : TaskId)
  | disarmRead (task : TaskId)
  | disarmWrite (task : TaskId)
  | closeReceiver
  | closeSender

def DirectionState.perform {File : Type} (direction : DirectionState File) :
    Action File → Performed File
  | .send task request moment => direction.sendWithTask task request moment
  | .beginReceive task nonblocking deadline moment =>
    direction.beginReceiveForTask task nonblocking deadline moment
  | .copyReceive pending copy => direction.copyReceiveWith pending copy
  | .finishReceive pending => direction.finishReceive pending
  | .cancelReceive pending => direction.cancelReceive pending
  | .armRead task => direction.armRead task
  | .armWrite task => direction.armWrite task
  | .disarmRead task => direction.disarmRead task
  | .disarmWrite task => direction.disarmWrite task
  | .closeReceiver => direction.closeReceiver
  | .closeSender => direction.closeSender

/-! ## Endpoints and tasks -/

inductive Side where
  | a
  | b
deriving DecidableEq, Repr

def Side.peer : Side → Side
  | .a => .b
  | .b => .a

/-- A direction is named by the side that sends on it. -/
def Side.outgoing (side : Side) : Side :=
  side

def Side.incoming (side : Side) : Side :=
  side.peer

inductive Call (File : Type) where
  | send (request : SendRequest File)
  | beginReceive (nonblocking : Bool) (deadline : Option Nat)
  | copyReceive (pending : PendingReceive File) (copy : Payload → Nat → Except ChannelError Unit)
  | finishReceive (pending : PendingReceive File)
  | cancelReceive (pending : PendingReceive File)
  | armWait (interests : BitVec 32)
  | disarmWait (interests : BitVec 32)
  | drop

/-- Where a task is: outside of the channel with the result of its last call,
or in front of the next section of a call on one side's endpoint. -/
inductive Control (File : Type) where
  | returned (reply : Reply File)
  | sending (side : Side) (request : SendRequest File)
  | receiving (side : Side) (nonblocking : Bool) (deadline : Option Nat)
  | copying (side : Side) (pending : PendingReceive File)
      (copy : Payload → Nat → Except ChannelError Unit)
  | finishing (side : Side) (pending : PendingReceive File)
  | cancelling (side : Side) (pending : PendingReceive File)
  | armingRead (side : Side) (interests : BitVec 32)
  | armingWrite (side : Side) (ready : BitVec 32) (armedRead : Bool)
  | undoingRead (side : Side) (error : ChannelError)
  | disarmingRead (side : Side) (interests : BitVec 32)
  | disarmingWrite (side : Side)
  | closingIncoming (side : Side)
  | closingOutgoing (side : Side)

def interested (interests wanted : BitVec 32) : Bool :=
  decide (interests &&& wanted ≠ 0)

def Call.enter {File : Type} (side : Side) : Call File → Control File
  | .send request => .sending side request
  | .beginReceive nonblocking deadline => .receiving side nonblocking deadline
  | .copyReceive pending copy => .copying side pending copy
  | .finishReceive pending => .finishing side pending
  | .cancelReceive pending => .cancelling side pending
  | .armWait interests =>
    if interests = 0 ∨ interests &&& ~~~(waitInterestReadable ||| waitInterestWritable) ≠ 0 then
      .returned (.failed .invalidMessage)
    else if interested interests waitInterestReadable then .armingRead side interests
    else .armingWrite side 0 false
  | .disarmWait interests =>
    if interested interests waitInterestReadable then .disarmingRead side interests
    else if interested interests waitInterestWritable then .disarmingWrite side
    else .returned .done
  | .drop => .closingIncoming side

/-- The next section of a call: its direction, its action and how the call
goes on after the reply. -/
structure Section (File : Type) where
  direction : Side
  action : Action File
  resume : Reply File → Control File

def Control.section? {File : Type} (task : TaskId) (moment : Moment) :
    Control File → Option (Section File)
  | .returned _ => none
  | .sending side request =>
    some
      { direction := side.outgoing
        action := .send task request moment
        resume := fun
          | .blocked => .sending side request
          | reply => .returned reply }
  | .receiving side nonblocking deadline =>
    some
      { direction := side.incoming
        action := .beginReceive task nonblocking deadline moment
        resume := fun
          | .blocked => .receiving side nonblocking deadline
          | reply => .returned reply }
  | .copying side pending copy =>
    some
      { direction := side.incoming, action := .copyReceive pending copy, resume := .returned }
  | .finishing side pending =>
    some
      { direction := side.incoming, action := .finishReceive pending, resume := .returned }
  | .cancelling side pending =>
    some
      { direction := side.incoming, action := .cancelReceive pending, resume := .returned }
  | .armingRead side interests =>
    some
      { direction := side.incoming
        action := .armRead task
        resume := fun
          | .observed ready =>
            if interested interests waitInterestWritable then
              .armingWrite side ready (decide (ready = 0))
            else .returned (.observed ready)
          | reply => .returned reply }
  | .armingWrite side ready armedRead =>
    some
      { direction := side.outgoing
        action := .armWrite task
        resume := fun
          | .observed writeReady => .returned (.observed (ready ||| writeReady))
          | .failed error =>
            if armedRead then .undoingRead side error
            else .returned (.failed error)
          | reply => .returned reply }
  | .undoingRead side error =>
    some
      { direction := side.incoming
        action := .disarmRead task
        resume := fun _ => .returned (.failed error) }
  | .disarmingRead side interests =>
    some
      { direction := side.incoming
        action := .disarmRead task
        resume := fun reply =>
          if interested interests waitInterestWritable then .disarmingWrite side
          else .returned reply }
  | .disarmingWrite side =>
    some
      { direction := side.outgoing, action := .disarmWrite task, resume := .returned }
  | .closingIncoming side =>
    some
      { direction := side.incoming
        action := .closeReceiver
        resume := fun _ => .closingOutgoing side }
  | .closingOutgoing side =>
    some
      { direction := side.outgoing, action := .closeSender, resume := .returned }

def Control.hasReturned {File : Type} : Control File → Bool
  | .returned _ => true
  | _ => false

/-- An executed section, as recorded in the history of the pair. -/
structure Entry (File : Type) where
  direction : Side
  action : Action File
  reply : Reply File
  woken : List TaskId

/-- A channel pair and the tasks that use it. -/
structure ChannelPair (File : Type) where
  directions : Side → DirectionState File := fun _ => {}
  control : TaskId → Control File := fun _ => .returned .done
  asleep : TaskId → Bool := fun _ => false
  history : List (Entry File) := []

inductive Label (File : Type) where
  | start (task : TaskId) (side : Side) (call : Call File)
  | advance (task : TaskId) (moment : Moment)
  | rouse (task : TaskId)

namespace ChannelPair

variable {File : Type}

def create : ChannelPair File :=
  {}

/-- Execute one section.  A task whose section blocks goes to sleep in the same
step, since it publishes its sleep under the lock. -/
def advance (pair : ChannelPair File) (task : TaskId) (next : Section File) : ChannelPair File :=
  let performed := (pair.directions next.direction).perform next.action
  { directions := update pair.directions next.direction performed.direction
    control := update pair.control task (next.resume performed.reply)
    asleep := fun other =>
      if other ∈ performed.woken then false
      else if other = task then performed.reply.isBlocked
      else pair.asleep other
    history := pair.history ++ [⟨next.direction, next.action, performed.reply, performed.woken⟩] }

/-- A task enters a call, executes its next section, or is woken by a signal,
by its deadline or without a reason. -/
def step (pair : ChannelPair File) : Label File → Option (ChannelPair File)
  | .start task side call =>
    if (pair.control task).hasReturned then
      some { pair with control := update pair.control task (call.enter side) }
    else none
  | .advance task moment =>
    if pair.asleep task then none
    else ((pair.control task).section? task moment).map (pair.advance task)
  | .rouse task => some { pair with asleep := update pair.asleep task false }

/-- Every step leaves the directions and the history alone or executes one
section of one task. -/
theorem step_cases
    {pair next : ChannelPair File} {label : Label File} (taken : pair.step label = some next) :
    (next.directions = pair.directions ∧ next.history = pair.history) ∨ ∃ task moment entered,
      label = .advance task moment ∧ pair.asleep task = false ∧
        (pair.control task).section? task moment = some entered ∧
        next = pair.advance task entered := by
  cases label with
  | start task =>
    simp only [step] at taken
    split at taken
    · cases taken
      exact Or.inl ⟨rfl, rfl⟩
    · cases taken
  | advance task moment =>
    simp only [step] at taken
    split at taken
    · cases taken
    · next awake =>
      obtain ⟨entered, found, same⟩ := Option.map_eq_some_iff.mp taken
      have isAwake : pair.asleep task = false := by simpa using awake
      exact Or.inr ⟨task, moment, entered, rfl, isAwake, found, same.symm⟩
  | rouse task =>
    cases taken
    exact Or.inl ⟨rfl, rfl⟩

end ChannelPair

end Xenith.Ipc
