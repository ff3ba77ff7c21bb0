import Xenith.Ipc.Channel

/-!
# The sections of a direction

The ways in which a section of a direction can end, with the condition under
which they occur and the direction they leave.
-/

namespace Xenith.Ipc

section Waiters

variable {task : TaskId} {slot waiter : Option TaskId}

theorem clearWaiter_eq_some {other : TaskId} (kept : clearWaiter slot task = some other) :
    slot = some other := by
  unfold clearWaiter at kept
  split at kept
  · cases kept
  · exact kept

theorem clearWaiter_of_ne {other : TaskId} (different : other ≠ task) :
    clearWaiter (some other) task = some other := by
  have distinct : some other ≠ some task := by
    intro same
    exact different (Option.some.inj same)
  rw [clearWaiter, if_neg distinct]

theorem armWaiter_eq_ok (armed : armWaiter slot task = .ok waiter) :
    waiter = some task ∧ (slot = none ∨ slot = some task) := by
  cases slot with
  | none =>
    cases armed
    exact ⟨rfl, Or.inl rfl⟩
  | some =>
    simp only [armWaiter] at armed
    split at armed
    · next same =>
      cases armed
      rw [same]
      exact ⟨rfl, Or.inr rfl⟩
    · cases armed

/-- After a task has cleared its own entry, the entry can only be claimed when
it is empty. -/
theorem clearWaiter_eq_none (armed : armWaiter (clearWaiter slot task) task = .ok waiter) :
    waiter = some task ∧ clearWaiter slot task = none := by
  obtain ⟨claimed, empty | own⟩ := armWaiter_eq_ok armed
  · exact ⟨claimed, empty⟩
  · have held := clearWaiter_eq_some own
    rw [clearWaiter, if_pos held] at own
    cases own

end Waiters

namespace DirectionState

variable {File : Type} {direction : DirectionState File} {pending : PendingReceive File}

@[simp]
theorem ownedBy_eq_true :
    direction.ownedBy pending = true ↔
      direction.receiveOwner = some (pending.task, pending.token) := by
  simp [ownedBy]

@[simp]
theorem ownedBy_eq_false :
    direction.ownedBy pending = false ↔
      direction.receiveOwner ≠ some (pending.task, pending.token) := by
  simp [ownedBy]

inductive Outcome (direction : DirectionState File) : Action File → Performed File → Prop where
  | invalidSend {task} {request : SendRequest File} {moment error}
      (invalid : request.check = .error error) :
      Outcome direction (.send task request moment) { direction, reply := .failed error }
  | refusedSend {task request moment error}
      (refused : direction.receiverOpen = false ∨ channelQueueDepth ≤ direction.len) :
      Outcome direction (.send task request moment)
        { direction := { direction with writerWaiter := clearWaiter direction.writerWaiter task }
          reply := .failed error }
  | failedCopy {task request moment error} (isOpen : direction.receiverOpen = true)
      (room : direction.len < channelQueueDepth) :
      Outcome direction (.send task request moment)
        { direction :=
            { direction with
              writerWaiter := clearWaiter direction.writerWaiter task
              payloads := Function.update direction.payloads direction.tail Payload.zero }
          reply := .failed error }
  | published {task} {request : SendRequest File} {moment payload}
      (valid : request.check = .ok ()) (isOpen : direction.receiverOpen = true)
      (room : direction.len < channelQueueDepth)
      (written : request.copy (direction.payloads direction.tail) = (payload, .ok ())) :
      Outcome direction (.send task request moment)
        { direction :=
            { direction with
              writerWaiter := clearWaiter direction.writerWaiter task
              payloads :=
                Function.update direction.payloads direction.tail (payload.fillFrom request.length)
              slots :=
                Function.update direction.slots direction.tail ⟨request.length, request.transfers⟩
              len := direction.len + 1
              readerWaiter := none }
          reply := .done
          woken := direction.readerWaiter.toList }
  | parkedSend {task request moment} (isOpen : direction.receiverOpen = true)
      (full : channelQueueDepth ≤ direction.len)
      (unclaimed : clearWaiter direction.writerWaiter task = none) :
      Outcome direction (.send task request moment)
        { direction := { direction with writerWaiter := some task }
          reply := .blocked }
  | refusedReceive {task nonblocking deadline moment error}
      (refused : direction.receiveOwner ≠ none ∨ direction.len = 0) :
      Outcome direction (.beginReceive task nonblocking deadline moment)
        { direction := { direction with readerWaiter := clearWaiter direction.readerWaiter task }
          reply := .failed error }
  | reserved {task nonblocking deadline moment token following}
      (unowned : direction.receiveOwner = none) (nonempty : direction.len ≠ 0) :
      Outcome direction (.beginReceive task nonblocking deadline moment)
        { direction :=
            { direction with
              readerWaiter := clearWaiter direction.readerWaiter task
              nextReceiveToken := following
              receiveOwner := some (task, token) }
          reply :=
            .received
              { task, token
                length := (direction.slots direction.head).length
                transfers := (direction.slots direction.head).transfers } }
  | parkedReceive {task nonblocking deadline moment} (unowned : direction.receiveOwner = none)
      (empty : direction.len = 0) (isOpen : direction.senderOpen = true)
      (unclaimed : clearWaiter direction.readerWaiter task = none) :
      Outcome direction (.beginReceive task nonblocking deadline moment)
        { direction := { direction with readerWaiter := some task }
          reply := .blocked }
  | refusedCopy {pending : PendingReceive File} {copy}
      (refused : direction.receiveOwner ≠ some (pending.task, pending.token) ∨
        direction.len = 0 ∨
        (direction.slots direction.head).length ≠ pending.length) :
      Outcome direction (.copyReceive pending copy) { direction, reply := .failed .stateCorrupt }
  | exposed {pending : PendingReceive File} {copy}
      (owned : direction.receiveOwner = some (pending.task, pending.token))
      (nonempty : direction.len ≠ 0) :
      Outcome direction (.copyReceive pending copy)
        { direction
          reply := .exposed (direction.payloads direction.head)
            (direction.slots direction.head).length
            (copy (direction.payloads direction.head) (direction.slots direction.head).length) }
  | refusedFinish {pending : PendingReceive File}
      (refused : direction.receiveOwner ≠ some (pending.task, pending.token) ∨ direction.len = 0) :
      Outcome direction (.finishReceive pending) { direction, reply := .failed .stateCorrupt }
  | finished {pending : PendingReceive File}
      (owned : direction.receiveOwner = some (pending.task, pending.token))
      (nonempty : direction.len ≠ 0) :
      Outcome direction (.finishReceive pending)
        { direction := direction.retireFront
          reply := .done
          woken := direction.writerWaiter.toList }
  | refusedCancel {pending : PendingReceive File}
      (refused : direction.receiveOwner ≠ some (pending.task, pending.token)) :
      Outcome direction (.cancelReceive pending) { direction, reply := .failed .stateCorrupt }
  | cancelled {pending : PendingReceive File}
      (owned : direction.receiveOwner = some (pending.task, pending.token)) :
      Outcome direction (.cancelReceive pending)
        { direction := { direction with receiveOwner := none }
          reply := .done }
  | readUnarmed {task} {reply : Reply File} (signal : reply.isSignal = true) :
      Outcome direction (.armRead task) { direction, reply }
  | readArmed {task} (empty : direction.len = 0) (isOpen : direction.senderOpen = true)
      (unclaimed : direction.readerWaiter = none ∨ direction.readerWaiter = some task) :
      Outcome direction (.armRead task)
        { direction := { direction with readerWaiter := some task }
          reply := .observed 0 }
  | writeUnarmed {task} {reply : Reply File} (signal : reply.isSignal = true) :
      Outcome direction (.armWrite task) { direction, reply }
  | writeArmed {task} (full : channelQueueDepth ≤ direction.len)
      (isOpen : direction.receiverOpen = true)
      (unclaimed : direction.writerWaiter = none ∨ direction.writerWaiter = some task) :
      Outcome direction (.armWrite task)
        { direction := { direction with writerWaiter := some task }
          reply := .observed 0 }
  | readDisarmed {task} :
      Outcome direction (.disarmRead task)
        { direction := { direction with readerWaiter := clearWaiter direction.readerWaiter task }
          reply := .done }
  | writeDisarmed {task} :
      Outcome direction (.disarmWrite task)
        { direction := { direction with writerWaiter := clearWaiter direction.writerWaiter task }
          reply := .done }
  | receiverClosed : Outcome direction .closeReceiver direction.closeReceiver
  | senderClosed : Outcome direction .closeSender direction.closeSender

theorem outcome_send (direction : DirectionState File) (task : TaskId)
    (request : SendRequest File) (moment : Moment) :
    Outcome direction (.send task request moment) (direction.sendWithTask task request moment) := by
  fun_cases sendWithTask with
  | case1 _ invalid => exact .invalidSend invalid
  | case2 _ _ closed => exact .refusedSend (Or.inl closed)
  | case3 _ _ notClosed room => exact .failedCopy (by simpa using notClosed) room
  | case4 valid _ notClosed room _ written =>
    exact .published valid (by simpa using notClosed) room written
  | case5 _ _ _ noRoom | case6 _ _ _ noRoom | case7 _ _ _ noRoom
    | case8 _ _ _ noRoom => exact .refusedSend (Or.inr (Nat.le_of_not_lt noRoom))
  | case9 _ _ notClosed noRoom _ _ _ _ armed =>
    obtain ⟨claimed, unclaimed⟩ := clearWaiter_eq_none armed
    rw [claimed]
    exact .parkedSend (by simpa using notClosed) (Nat.le_of_not_lt noRoom) unclaimed

theorem outcome_beginReceive (direction : DirectionState File) (task : TaskId)
    (nonblocking : Bool) (deadline : Option Nat) (moment : Moment) :
    Outcome direction (.beginReceive task nonblocking deadline moment)
      (direction.beginReceiveForTask task nonblocking deadline moment) := by
  fun_cases beginReceiveForTask with
  | case1 _ _ token owned =>
    have isOwned : direction.receiveOwner ≠ none := Option.ne_none_iff_exists'.mpr ⟨_, owned⟩
    split <;> exact .refusedReceive (Or.inl isOwned)
  | case2 _ unowned nonempty _ token after issued =>
    obtain rfl : _ = after := congrArg Prod.snd issued
    exact .reserved unowned nonempty
  | case3 _ _ empty | case4 _ _ empty | case5 _ _ empty | case6 _ _ empty
    | case7 _ _ empty => exact .refusedReceive (Or.inr (Decidable.not_not.mp empty))
  | case8 _ unowned empty notClosed _ _ _ _ armed =>
    obtain ⟨claimed, unclaimed⟩ := clearWaiter_eq_none armed
    rw [claimed]
    exact .parkedReceive unowned (Decidable.not_not.mp empty) (by simpa using notClosed) unclaimed

theorem readReadiness_eq_zero (notReady : direction.readReadiness = 0) :
    direction.len = 0 ∧ direction.senderOpen = true := by
  by_cases empty : direction.len = 0 <;>
    cases opened : direction.senderOpen <;>
    simp [readReadiness, empty, opened, waitReadyReadable, waitReadyHangup] at notReady ⊢

theorem writeReadiness_eq_zero (notReady : direction.writeReadiness = 0) :
    channelQueueDepth ≤ direction.len ∧ direction.receiverOpen = true := by
  by_cases room : direction.len < channelQueueDepth <;>
    cases opened : direction.receiverOpen <;>
    simp [writeReadiness, room, opened, waitReadyWritable, waitReadyHangup] at notReady ⊢
  exact Nat.le_of_not_lt room

/-- Every section has one of the outcomes. -/
theorem outcome {action : Action File} {result : Performed File}
    (performed : direction.perform action = result) : Outcome direction action result := by
  subst performed
  cases action with
  | send task request moment => exact outcome_send direction task request moment
  | beginReceive task nonblocking deadline moment =>
    exact outcome_beginReceive direction task nonblocking deadline moment
  | copyReceive =>
    rw [perform]
    fun_cases copyReceiveWith with
    | case1 refused =>
      rcases refused with notOwned | empty
      · exact .refusedCopy (Or.inl (ownedBy_eq_false.mp notOwned))
      · exact .refusedCopy (Or.inr (Or.inl empty))
    | case2 _ _ mismatch => exact .refusedCopy (Or.inr (Or.inr mismatch))
    | case3 admitted =>
      simp only [not_or, Bool.not_eq_false, ownedBy_eq_true] at admitted
      exact .exposed admitted.1 admitted.2
  | finishReceive =>
    rw [perform, finishReceive]
    split
    · next refused =>
      rw [ownedBy_eq_false] at refused
      exact .refusedFinish refused
    · next admitted =>
      simp only [not_or, Bool.not_eq_false, ownedBy_eq_true] at admitted
      exact .finished admitted.1 admitted.2
  | cancelReceive =>
    rw [perform, cancelReceive]
    split
    · next refused => exact .refusedCancel (ownedBy_eq_false.mp refused)
    · next admitted =>
      simp only [Bool.not_eq_false, ownedBy_eq_true] at admitted
      exact .cancelled admitted
  | armRead =>
    rw [perform]
    fun_cases armRead with
    | case2 notReady _ armed =>
      obtain ⟨empty, isOpen⟩ := readReadiness_eq_zero notReady
      obtain ⟨claimed, unclaimed⟩ := armWaiter_eq_ok armed
      rw [claimed]
      exact .readArmed empty isOpen unclaimed
    | _ => exact .readUnarmed rfl
  | armWrite =>
    rw [perform]
    fun_cases armWrite with
    | case2 notReady _ armed =>
      obtain ⟨full, isOpen⟩ := writeReadiness_eq_zero notReady
      obtain ⟨claimed, unclaimed⟩ := armWaiter_eq_ok armed
      rw [claimed]
      exact .writeArmed full isOpen unclaimed
    | _ => exact .writeUnarmed rfl
  | disarmRead => exact .readDisarmed
  | disarmWrite => exact .writeDisarmed
  | closeReceiver => exact .receiverClosed
  | closeSender => exact .senderClosed

end DirectionState

end Xenith.Ipc
