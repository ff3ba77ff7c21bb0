import Xenith.Ipc.ChannelFifo

/-!
# Delivery on a channel pair

Every history of a direction is a history of the bounded queue, in every
interleaving of the tasks of the pair.
-/

namespace Xenith.Ipc.ChannelPair

open DirectionState
open Execution

variable {File : Type}

def historyOf (pair : ChannelPair File) (direction : Side) : List (Entry File) :=
  pair.history.filter fun entry => decide (entry.direction = direction)

/-- The direction is clean, and the queue admits its history. -/
structure Refines (pair : ChannelPair File) (direction : Side) : Prop where
  clean : (pair.directions direction).Clean
  run : Fifo.Run {} (pair.historyOf direction) (pair.directions direction).toFifo

theorem refines_create (direction : Side) : (create : ChannelPair File).Refines direction where
  clean := ⟨Nat.zero_le _, fun _ => Nat.zero_le _, fun _ => Payload.zeroFrom_zero _, fun _ _ => rfl,
    fun isOwned => absurd rfl isOwned⟩
  run := rfl

theorem historyOf_advance_self (pair : ChannelPair File) (task : TaskId) (entered : Section File) :
    (pair.advance task entered).historyOf entered.direction = pair.historyOf entered.direction ++
      [⟨entered.direction, entered.action,
        ((pair.directions entered.direction).perform entered.action).reply,
        ((pair.directions entered.direction).perform entered.action).woken⟩] := by
  simp [historyOf, advance]

variable {direction : Side} {pair next : ChannelPair File} {entered : Section File}

theorem historyOf_advance_of_ne {task : TaskId} (other : direction ≠ entered.direction) :
    (pair.advance task entered).historyOf direction = pair.historyOf direction := by
  simp [historyOf, advance, other.symm]

theorem directions_advance_self (pair : ChannelPair File) (task : TaskId) (entered : Section File) :
    (pair.advance task entered).directions entered.direction =
      ((pair.directions entered.direction).perform entered.action).direction := by
  simp [advance]

theorem directions_advance_of_ne {task : TaskId} (other : direction ≠ entered.direction) :
    (pair.advance task entered).directions direction = pair.directions direction := by
  simp [advance, other]

theorem Refines.advance
    (refines : pair.Refines direction) (task : TaskId) (entered : Section File) :
    (pair.advance task entered).Refines direction := by
  by_cases same : direction = entered.direction
  · subst same
    constructor
    · rw [directions_advance_self]
      exact refines.clean.perform entered.action
    · rw [directions_advance_self, historyOf_advance_self]
      exact Fifo.run_snoc_iff.mpr ⟨_, refines.run, refines.clean.step_toFifo entered.action⟩
  · constructor
    · rw [directions_advance_of_ne same]
      exact refines.clean
    · rw [directions_advance_of_ne same, historyOf_advance_of_ne same]
      exact refines.run

/-- Each section of a call is at most one operation on the abstract queue. -/
theorem Refines.step {label : Label File}
    (refines : pair.Refines direction) (taken : pair.step label = some next) :
    next.Refines direction := by
  rcases step_cases taken with
    ⟨sameDirections, sameHistory⟩ | ⟨task, moment, entered, _, _, _, rfl⟩
  · constructor
    · rw [sameDirections]
      exact refines.clean
    · rw [sameDirections, historyOf, sameHistory]
      exact refines.run
  · exact refines.advance task entered

theorem refines_of_exec {labels : List (Label File)} {final : ChannelPair File}
    (reached : exec step create labels = some final)
    (direction : Side) : final.Refines direction := by
  have preserved :
      ∀ (pair : ChannelPair File) label next,
        pair.Refines direction → pair.step label = some next → next.Refines direction := by
    intro pair label next refines taken
    exact refines.step taken
  exact invariant_of_exec preserved (refines_create direction) reached

/-! ## Delivery -/

/-- What one direction delivers.

* `admitted`: its history is a history of the bounded queue.
* `queued`: while the receiver is open, the queue holds the accepted messages
  that have not been removed.
* `ordered`: an entry hands out or removes the first message that had not been
  removed before it.
* `paired`: a message is read or removed under the reservation of a receive
  that returned the same message.
* `available`: the first message can be reserved, and whoever has reserved it
  can read and remove it.
* `transactional`: a section that fails, waits or gives up a receive leaves the
  queue as it is. -/
structure Delivers (pair : ChannelPair File) (direction : Side) : Prop where
  admitted : Fifo.Run {} (pair.historyOf direction) (pair.directions direction).toFifo
  bounded : (pair.directions direction).contents.length ≤ channelQueueDepth
  queued : (pair.directions direction).receiverOpen = true →
    (pair.directions direction).contents = undelivered (pair.historyOf direction)
  ordered : ∀ before entry after,
    pair.historyOf direction = before ++ entry :: after → entry.ServesFront (undelivered before)
  paired : ∀ before entry after pending, pair.historyOf direction = before ++ entry :: after →
    entry.Completes pending → ReservedBy before pending.task pending.token
  available : ∀ message rest, (pair.directions direction).contents = message :: rest →
    ((pair.directions direction).receiveOwner = none → ∀ task nonblocking deadline moment, ∃ token,
      ((pair.directions direction).perform (.beginReceive task nonblocking deadline moment)).reply =
        .received ⟨task, token, message.length, message.transfers⟩) ∧
    ∀ pending, (pair.directions direction).receiveOwner = some (pending.task, pending.token) →
      (pending.length = message.length → ∀ copy,
        ((pair.directions direction).perform (.copyReceive pending copy)).reply =
          .exposed message.payload message.length (copy message.payload message.length)) ∧
      ((pair.directions direction).perform (.finishReceive pending)).reply = .done ∧
      ((pair.directions direction).perform (.finishReceive pending)).direction.contents = rest
  transactional : ∀ label next entry, pair.step label = some next →
    next.historyOf direction = pair.historyOf direction ++ [entry] → entry.Refuses →
      (next.directions direction).contents = (pair.directions direction).contents

variable {entry : Entry File} {before after : List (Entry File)} {message : Message File}

namespace Refines

variable {pair : ChannelPair File} {direction : Side}

theorem accounts (refines : pair.Refines direction) :
    (pair.directions direction).toFifo.Accounts (pair.historyOf direction) :=
  refines.run.accounts

theorem servesFront (refines : pair.Refines direction)
    (split : pair.historyOf direction = before ++ entry :: after) :
    entry.ServesFront (undelivered before) := by
  obtain ⟨fifo, _, first, taken⟩ := (split ▸ refines.run).step_at
  have serves := taken.servesFront
  cases closed : fifo.closed with
  | false =>
    rw [first.accounts.queue_eq closed] at serves
    exact serves
  | true =>
    rw [(first.accounts.onceClosed closed).1] at serves
    exact serves.of_nil _

theorem reservedBy (refines : pair.Refines direction) {pending : PendingReceive File}
    (split : pair.historyOf direction = before ++ entry :: after)
    (completes : entry.Completes pending) :
    ReservedBy before pending.task pending.token := by
  obtain ⟨_, _, first, taken⟩ := (split ▸ refines.run).step_at
  exact first.accounts.reservedBy _ _ (taken.reserved_of_completes completes)

end Refines

variable {rest : List (Message File)}

theorem available_of_front {direction : DirectionState File} (clean : direction.Clean)
    (front : direction.contents = message :: rest) :
    (direction.receiveOwner = none → ∀ task nonblocking deadline moment, ∃ token,
      (direction.perform (.beginReceive task nonblocking deadline moment)).reply =
        .received ⟨task, token, message.length, message.transfers⟩) ∧
    ∀ pending : PendingReceive File, direction.receiveOwner = some (pending.task, pending.token) →
      (pending.length = message.length → ∀ copy,
        (direction.perform (.copyReceive pending copy)).reply =
          .exposed message.payload message.length (copy message.payload message.length)) ∧
      (direction.perform (.finishReceive pending)).reply = .done ∧
      (direction.perform (.finishReceive pending)).direction.contents = rest := by
  have nonempty : direction.len ≠ 0 := by
    intro empty
    rw [contents_eq_nil empty] at front
    cases front
  have retired := clean.contents_retireFront nonempty
  rw [front] at retired
  obtain ⟨isFront, isRest⟩ := List.cons.inj retired
  subst isFront
  constructor
  · intro unowned task nonblocking deadline moment
    simp [perform, beginReceiveForTask, unowned, nonempty, message]
  · intro pending owned
    refine ⟨?_, ?_, ?_⟩
    · intro sameLength copy
      have matching : (direction.slots direction.head).length = pending.length := sameLength.symm
      simp [perform, copyReceiveWith, owned, nonempty, matching, message]
    · simp [perform, finishReceive, owned, nonempty]
    · simp [perform, finishReceive, owned, nonempty, isRest]

theorem Refines.contents_of_refuses
    {label : Label File} (refines : pair.Refines direction) (taken : pair.step label = some next)
    (recorded : next.historyOf direction = pair.historyOf direction ++ [entry])
    (refuses : entry.Refuses) :
    (next.directions direction).contents = (pair.directions direction).contents := by
  rcases step_cases taken with
    ⟨sameDirections, _⟩ | ⟨task, moment, entered, _, _, _, rfl⟩
  · rw [sameDirections]
  · by_cases same : direction = entered.direction
    · subst same
      rw [historyOf_advance_self] at recorded
      have isEntry := List.append_cancel_left recorded
      cases isEntry
      rw [directions_advance_self]
      exact Fifo.Step.queue_of_refuses (refines.clean.step_toFifo entered.action) refuses
    · rw [directions_advance_of_ne same]

/-- **Each direction of a channel refines a bounded queue**, in every
interleaving of the sections of all calls by all tasks. -/
theorem channel_refines_fifo (labels : List (Label File)) (final : ChannelPair File)
    (reached : exec step create labels = some final)
    (direction : Side) : final.Delivers direction := by
  have refines := refines_of_exec reached direction
  refine ⟨refines.run, ?_, ?_, ?_, ?_, ?_, ?_⟩
  · rw [length_contents]
    exact refines.clean.bounded
  · intro isOpen
    have notClosed : (final.directions direction).toFifo.closed = false := by
      simp [toFifo, isOpen]
    exact refines.accounts.queue_eq notClosed
  · intro before entry after split
    exact refines.servesFront split
  · intro before entry after pending split completes
    exact refines.reservedBy split completes
  · intro message rest front
    exact available_of_front refines.clean front
  · intro label next entry taken recorded refuses
    exact refines.contents_of_refuses taken recorded refuses

def writeByte (byte : UInt8) (_ : Payload) : Payload × Except ChannelError Unit :=
  (fun _ => byte, .ok ())

def greeting (byte : UInt8) : SendRequest Unit where
  length := 2
  transfers := noTransfers
  nonblocking := true
  deadline := none
  copy := writeByte byte

def pendingTwo (token : BitVec 64) : PendingReceive Unit where
  task := 2
  token := token
  length := 2
  transfers := noTransfers

def quiet : Moment where
  interrupted := false
  now := 0

/-- Task 1 sends two messages; task 2 reserves the first one, gives it up,
reserves it again, reads it and removes it. -/
def exchange : List (Label Unit) :=
  [ .start 1 .a (.send (greeting 7)), .advance 1 quiet,
    .start 1 .a (.send (greeting 9)), .advance 1 quiet,
    .start 2 .b (.beginReceive true none), .advance 2 quiet,
    .start 2 .b (.cancelReceive (pendingTwo 1)), .advance 2 quiet,
    .start 2 .b (.beginReceive true none), .advance 2 quiet,
    .start 2 .b (.copyReceive (pendingTwo 2) fun _ _ => .ok ()), .advance 2 quiet,
    .start 2 .b (.finishReceive (pendingTwo 2)), .advance 2 quiet ]

theorem exchange_delivers :
    ∃ final, exec step create exchange = some final ∧
      final.Delivers .a ∧
      removals (final.historyOf .a) = 1 ∧
      (final.directions .a).contents.length = 1 := by
  refine exists_reached (by decide +kernel) fun final reached => ?_
  exact ⟨channel_refines_fifo exchange final reached .a, of_reached reached (by decide +kernel)⟩

/-! ## Hygiene -/

/-- Every slot is zero behind its length and empty outside of the queue, and a
receiver was only shown what the copier of the first undelivered message wrote
into an empty slot, cut off at the length of that message. -/
structure Hygienic (pair : ChannelPair File) (direction : Side) : Prop where
  zeroTail : ∀ (index : Fin channelQueueDepth) (position : Fin channelMessageBytes),
    ((pair.directions direction).slots index).length ≤ position.val →
      (pair.directions direction).payloads index position = 0
  vacant : ∀ index : Fin channelQueueDepth,
    ¬ Ring.InWindow (pair.directions direction).head (pair.directions direction).len index →
      ((pair.directions direction).slots index).length = 0 ∧
        (∀ position, (pair.directions direction).payloads index position = 0) ∧
        ((pair.directions direction).slots index).transfers = noTransfers
  shown : ∀ before entry after payload length result,
    pair.historyOf direction = before ++ entry :: after →
      entry.reply = .exposed payload length result → ∃ early sent late task request moment,
        before = early ++ sent :: late ∧
          sent.action = .send task request moment ∧
          sent.reply = .done ∧
          (acceptedMessages early).length = removals before ∧
          length = request.length ∧
          ∀ position, payload position =
            if position.val < request.length then (request.copy Payload.zero).1 position
            else 0

/-- The send of the first undelivered message. -/
theorem exists_send_of_undelivered {history : List (Entry File)}
    (front : undelivered history = message :: rest) :
    ∃ early sent late, history = early ++ sent :: late ∧
      sent.accepted = some message ∧
      (acceptedMessages early).length = removals history := by
  have divided := List.take_append_drop (removals history) (acceptedMessages history)
  have long : removals history ≤ (acceptedMessages history).length := by
    by_contra beyond
    rw [undelivered, List.drop_eq_nil_of_le (by omega)] at front
    cases front
  rw [undelivered] at front
  rw [front] at divided
  obtain ⟨first, _, split, firstAccepted, secondAccepted⟩ :=
    List.filterMap_eq_append_iff.mp divided.symm
  obtain ⟨skipped, sent, late, secondSplit, noneAccepted, isSent, _⟩ :=
    List.filterMap_eq_cons_iff.mp secondAccepted
  refine ⟨first ++ skipped, sent, late, ?_, isSent, ?_⟩
  · rw [split, secondSplit, List.append_assoc]
  · have noneSkipped : skipped.filterMap Entry.accepted = [] :=
      List.filterMap_eq_nil_iff.mpr noneAccepted
    rw [acceptedMessages, List.filterMap_append, firstAccepted, noneSkipped,
      List.append_nil, List.length_take, Nat.min_eq_left long]

theorem accepted_eq_some (isAccepted : entry.accepted = some message) :
    ∃ task request moment, entry.action = .send task request moment ∧
      entry.reply = .done ∧ message = request.message := by
  obtain ⟨_, action, reply, _⟩ := entry
  cases action <;> cases reply <;> simp [Entry.accepted] at isAccepted
  exact ⟨_, _, _, rfl, rfl, isAccepted.symm⟩

theorem Refines.shown (refines : pair.Refines direction)
    {payload : Payload} {length : Nat} {result : Except ChannelError Unit}
    (split : pair.historyOf direction = before ++ entry :: after)
    (isExposed : entry.reply = .exposed payload length result) :
    ∃ message rest, undelivered before = message :: rest ∧
      payload = message.payload ∧ length = message.length := by
  obtain ⟨_, _, _, taken⟩ := (split ▸ refines.run).step_at
  have serves := refines.servesFront split
  obtain ⟨_, _, reply, _⟩ := entry
  subst isExposed
  cases taken with
  | expose => exact serves
  | armRead signal | armWrite signal => cases signal

/-- **Payload hygiene**, in every interleaving of the sections of all calls by
all tasks. -/
theorem channel_hygiene (labels : List (Label File)) (final : ChannelPair File)
    (reached : exec step create labels = some final)
    (direction : Side) : final.Hygienic direction := by
  have refines := refines_of_exec reached direction
  refine ⟨refines.clean.zeroTail, ?_, ?_⟩
  · intro index outside
    rw [refines.clean.payload_eq_zero outside, refines.clean.vacant index outside]
    exact ⟨rfl, fun _ => rfl, rfl⟩
  · intro before entry after payload length result split isExposed
    obtain ⟨message, _, front, samePayload, sameLength⟩ := refines.shown split isExposed
    obtain ⟨early, sent, late, sentSplit, isSent, position⟩ := exists_send_of_undelivered front
    obtain ⟨task, request, moment, isSend, isDone, isMessage⟩ := accepted_eq_some isSent
    refine ⟨early, sent, late, task, request, moment, sentSplit, isSend, isDone, position, ?_, ?_⟩
    · rw [sameLength, isMessage]
      rfl
    · intro position
      rw [samePayload, isMessage]
      simp only [SendRequest.message, Payload.fillFrom]
      split <;> split <;> first | rfl | omega

/-- A copier that fills the slot and then fails. -/
def spill : SendRequest Unit where
  length := 4096
  transfers := noTransfers
  nonblocking := true
  deadline := none
  copy := fun _ => (fun _ => 0xA5, .error .fault)

/-- The slot of a failed send is used by the first message of `exchange`. -/
def spilledExchange : List (Label Unit) :=
  [.start 1 .a (.send spill), .advance 1 quiet] ++ exchange

theorem spilledExchange_hygienic :
    ∃ final, exec step create spilledExchange = some final ∧
      final.Hygienic .a ∧
      (final.historyOf .a).length = 8 ∧
      ((final.directions .a).payloads 1 0, (final.directions .a).payloads 1 2) = (9, 0) := by
  refine exists_reached (by decide +kernel) fun final reached => ?_
  exact ⟨channel_hygiene spilledExchange final reached .a, of_reached reached (by decide +kernel)⟩

end Xenith.Ipc.ChannelPair
