import Xenith.Ipc.ChannelSections
import Xenith.Lib.Execution

/-!
# A direction is a bounded queue of messages

The slots of a direction, read off from the head on, are the messages of an
abstract queue, and every section of the direction is a step of the queue.
-/

namespace Xenith.Ipc

open Function
open Payload

variable {File : Type}

/-! ## Clean slots -/

variable {payload : Payload} {request : SendRequest File}

namespace DirectionState

/-- The bytes behind the recorded length of every slot are zero, and the slots
outside of the queue are empty. -/
structure Clean (direction : DirectionState File) : Prop where
  bounded : direction.len ≤ channelQueueDepth
  fits : ∀ index, (direction.slots index).length ≤ channelMessageBytes
  zeroTail : ∀ index, (direction.payloads index).ZeroFrom (direction.slots index).length
  vacant : ∀ index, ¬ Ring.InWindow direction.head direction.len index → direction.slots index = {}
  owned : direction.receiveOwner ≠ none → direction.len ≠ 0

namespace Clean

variable {direction : DirectionState File}

theorem payload_eq_zero (clean : direction.Clean) {index : Fin channelQueueDepth}
    (outside : ¬ Ring.InWindow direction.head direction.len index) :
    direction.payloads index = zero := by
  apply eq_zero_of_zeroFrom
  have zeroTail := clean.zeroTail index
  rw [clean.vacant index outside] at zeroTail
  exact zeroTail

theorem nonempty (clean : direction.Clean) {owner : TaskId × BitVec 64}
    (owned : direction.receiveOwner = some owner) : direction.len ≠ 0 :=
  clean.owned (by simp [owned])

theorem payload_tail_eq_zero (clean : direction.Clean) (room : direction.len < channelQueueDepth) :
    direction.payloads direction.tail = zero :=
  clean.payload_eq_zero (Ring.not_inWindow_end room)

theorem update_tail_zero (clean : direction.Clean) (room : direction.len < channelQueueDepth) :
    update direction.payloads direction.tail zero = direction.payloads := by
  rw [← clean.payload_tail_eq_zero room, update_eq_self]

end Clean

variable {direction : DirectionState File} {place : Fin channelQueueDepth} {slot : MessageSlot File}

section

variable (zeroTail : ∀ index, (direction.payloads index).ZeroFrom (direction.slots index).length)

include zeroTail

theorem zeroTail_update (written : payload.ZeroFrom slot.length) (index : Fin channelQueueDepth) :
    (update direction.payloads place payload index).ZeroFrom
      (update direction.slots place slot index).length := by
  by_cases same : index = place
  · subst same
    rw [update_self, update_self]
    exact written
  · rw [update_of_ne same, update_of_ne same]
    exact zeroTail index

omit zeroTail in
theorem fits_update {slots : Fin channelQueueDepth → MessageSlot File}
    (fits : ∀ index, (slots index).length ≤ channelMessageBytes)
    (written : slot.length ≤ channelMessageBytes) (index : Fin channelQueueDepth) :
    (update slots place slot index).length ≤ channelMessageBytes :=
  (forall_update_iff slots fun _ slot => slot.length ≤ channelMessageBytes).mpr
    ⟨written, fun index _ => fits index⟩ index

omit zeroTail in
theorem length_le_of_check (valid : request.check = .ok ()) :
    request.length ≤ channelMessageBytes := by
  unfold SendRequest.check at valid
  split at valid
  · cases valid
  · next short => exact Nat.le_of_not_lt short

theorem clearSlot_zeroTail (place index : Fin channelQueueDepth) :
    ((direction.clearSlot place).payloads index).ZeroFrom
      ((direction.clearSlot place).slots index).length := by
  apply zeroTail_update zeroTail
  rw [fillTo_eq_zero (zeroTail place)]
  exact zeroFrom_zero _

theorem clearQueued_zeroTail (count : Nat) (index : Fin channelQueueDepth) :
    ((direction.clearQueued count).payloads index).ZeroFrom
      ((direction.clearQueued count).slots index).length := by
  induction count generalizing index with
  | zero => exact zeroTail index
  | succ count ih => exact clearSlot_zeroTail ih _ index

end

theorem clearQueued_slots
    (direction : DirectionState File) (count : Nat) (index : Fin channelQueueDepth) :
    (direction.clearQueued count).slots index = {} ∨ ¬ Ring.InWindow direction.head count index ∧
      (direction.clearQueued count).slots index = direction.slots index := by
  induction count with
  | zero => exact Or.inr ⟨Ring.not_inWindow_zero _ _, rfl⟩
  | succ count ih =>
    simp only [clearQueued, clearSlot]
    by_cases same : index = Ring.cell direction.head count
    · subst same
      exact Or.inl (update_self ..)
    · rw [update_of_ne same]
      rcases ih with cleared | ⟨outside, kept⟩
      · exact Or.inl cleared
      · refine Or.inr ⟨?_, kept⟩
        rw [Ring.inWindow_succ_iff]
        exact not_or.mpr ⟨outside, same⟩

section Clean

variable (clean : direction.Clean)

include clean

theorem clearQueued_eq_empty (index : Fin channelQueueDepth) :
    (direction.clearQueued direction.len).slots index = {} := by
  rcases clearQueued_slots direction direction.len index with
    cleared | ⟨outside, kept⟩
  · exact cleared
  · rw [kept]
    exact clean.vacant index outside

theorem Clean.published (room : direction.len < channelQueueDepth)
    (valid : request.check = .ok ()) {reader writer : Option TaskId} :
    Clean
      { direction with
        writerWaiter := writer
        payloads := update direction.payloads direction.tail (payload.fillFrom request.length)
        slots := update direction.slots direction.tail ⟨request.length, request.transfers⟩
        len := direction.len + 1
        readerWaiter := reader } where
  bounded := room
  fits := fits_update clean.fits (length_le_of_check valid)
  zeroTail := zeroTail_update clean.zeroTail (zeroFrom_fillFrom _ _)
  vacant := by
    intro index outside
    simp only [Ring.inWindow_succ_iff, not_or] at outside
    simp only [tail]
    rw [update_of_ne outside.2]
    exact clean.vacant index outside.1
  owned := fun _ => Nat.succ_ne_zero _

theorem Clean.retireFront (nonempty : direction.len ≠ 0) : direction.retireFront.Clean where
  bounded := Nat.le_trans (Nat.sub_le _ _) clean.bounded
  fits := fits_update clean.fits (Nat.zero_le _)
  zeroTail := clearSlot_zeroTail clean.zeroTail direction.head
  vacant := by
    intro index outside
    have positive : direction.len - 1 + 1 = direction.len := by omega
    have bounded : direction.len - 1 + 1 ≤ channelQueueDepth := by
      rw [positive]
      exact clean.bounded
    simp only [DirectionState.retireFront, clearSlot] at outside ⊢
    rw [Ring.inWindow_tail_iff bounded, positive] at outside
    by_cases isHead : index = direction.head
    · rw [isHead, update_self]
    · rw [update_of_ne isHead]
      apply clean.vacant
      intro inside
      exact outside ⟨inside, isHead⟩
  owned := fun isOwned => absurd rfl isOwned

theorem Clean.closeReceiver : direction.closeReceiver.direction.Clean where
  bounded := Nat.zero_le _
  fits := by
    intro index
    simp only [DirectionState.closeReceiver, clearQueued_eq_empty clean]
    exact Nat.zero_le _
  zeroTail := clearQueued_zeroTail clean.zeroTail direction.len
  vacant := fun index _ => clearQueued_eq_empty clean index
  owned := fun isOwned => absurd rfl isOwned

theorem Clean.perform (action : Action File) : (direction.perform action).direction.Clean := by
  have kept :
      ∀ {reader writer : Option TaskId},
        Clean { direction with readerWaiter := reader, writerWaiter := writer } :=
    ⟨clean.bounded, clean.fits, clean.zeroTail, clean.vacant, clean.owned⟩
  generalize performed : direction.perform action = result
  cases DirectionState.outcome performed with
  | invalidSend | refusedCopy | exposed | refusedFinish | refusedCancel
  | readUnarmed | writeUnarmed => exact clean
  | failedCopy isOpen room =>
    simp only [clean.update_tail_zero room]
    exact kept
  | published valid isOpen room => exact clean.published room valid
  | reserved _ nonempty =>
    exact ⟨clean.bounded, clean.fits, clean.zeroTail, clean.vacant, fun _ => nonempty⟩
  | finished owned nonempty => exact clean.retireFront nonempty
  | cancelled owned =>
    exact
      ⟨clean.bounded, clean.fits, clean.zeroTail, clean.vacant, fun isOwned => absurd rfl isOwned⟩
  | receiverClosed => exact clean.closeReceiver
  | senderClosed => exact ⟨clean.bounded, clean.fits, clean.zeroTail, clean.vacant, clean.owned⟩
  | _ => exact kept

end Clean

end DirectionState

/-! ## The abstract queue -/

/-- A message as its sender meant it. -/
structure Message (File : Type) where
  payload : Payload
  length : Nat
  transfers : ChannelTransfers File

/-- What the copier writes into an empty slot, cut off at the length. -/
def SendRequest.message (request : SendRequest File) : Message File where
  payload := (request.copy zero).1.fillFrom request.length
  length := request.length
  transfers := request.transfers

structure Fifo (File : Type) where
  queue : List (Message File) := []
  reserved : Option (TaskId × BitVec 64) := none
  closed : Bool := false

variable {start final : Fifo File}

namespace Fifo

/-- The sections of a bounded queue whose first message can be reserved.  A
section that fails or waits does not change the queue, and a receive can only
fail when the queue is empty or its first message is reserved. -/
inductive Step : Fifo File → Action File → Reply File → Fifo File → Prop where
  | accept {fifo : Fifo File} {task request moment} (isOpen : fifo.closed = false)
      (room : fifo.queue.length < channelQueueDepth) :
      Step fifo (.send task request moment) .done
        { fifo with queue := fifo.queue ++ [request.message] }
  | refuseSend {fifo task request moment error} :
      Step fifo (.send task request moment) (.failed error) fifo
  | delaySend {fifo : Fifo File} {task request moment} (isOpen : fifo.closed = false)
      (full : fifo.queue.length = channelQueueDepth) :
      Step fifo (.send task request moment) .blocked fifo
  | reserve {fifo : Fifo File} {task nonblocking deadline moment token message rest}
      (front : fifo.queue = message :: rest) (unreserved : fifo.reserved = none) :
      Step fifo (.beginReceive task nonblocking deadline moment)
        (.received ⟨task, token, message.length, message.transfers⟩)
        { fifo with reserved := some (task, token) }
  | refuseReceive {fifo : Fifo File} {task nonblocking deadline moment error}
      (unavailable : fifo.queue = [] ∨ fifo.reserved ≠ none) :
      Step fifo (.beginReceive task nonblocking deadline moment) (.failed error) fifo
  | delayReceive {fifo : Fifo File} {task nonblocking deadline moment} (empty : fifo.queue = []) :
      Step fifo (.beginReceive task nonblocking deadline moment) .blocked fifo
  | expose {fifo : Fifo File} {pending : PendingReceive File} {copy result message rest}
      (front : fifo.queue = message :: rest)
      (owned : fifo.reserved = some (pending.task, pending.token)) :
      Step fifo (.copyReceive pending copy) (.exposed message.payload message.length result) fifo
  | refuseCopy {fifo : Fifo File} {pending : PendingReceive File} {copy error}
      (mismatched : fifo.reserved = some (pending.task, pending.token) →
        ∃ message rest, fifo.queue = message :: rest ∧ message.length ≠ pending.length) :
      Step fifo (.copyReceive pending copy) (.failed error) fifo
  | remove {fifo : Fifo File} {pending : PendingReceive File} {message rest}
      (front : fifo.queue = message :: rest)
      (owned : fifo.reserved = some (pending.task, pending.token)) :
      Step fifo (.finishReceive pending) .done { fifo with queue := rest, reserved := none }
  | refuseFinish {fifo : Fifo File} {pending : PendingReceive File} {error}
      (notOwned : fifo.reserved ≠ some (pending.task, pending.token)) :
      Step fifo (.finishReceive pending) (.failed error) fifo
  | release {fifo : Fifo File} {pending : PendingReceive File}
      (owned : fifo.reserved = some (pending.task, pending.token)) :
      Step fifo (.cancelReceive pending) .done { fifo with reserved := none }
  | refuseCancel {fifo : Fifo File} {pending : PendingReceive File} {error}
      (notOwned : fifo.reserved ≠ some (pending.task, pending.token)) :
      Step fifo (.cancelReceive pending) (.failed error) fifo
  | armRead {fifo task} {reply : Reply File} (signal : reply.isSignal = true) :
      Step fifo (.armRead task) reply fifo
  | armWrite {fifo task} {reply : Reply File} (signal : reply.isSignal = true) :
      Step fifo (.armWrite task) reply fifo
  | disarmRead {fifo task} : Step fifo (.disarmRead task) .done fifo
  | disarmWrite {fifo task} : Step fifo (.disarmWrite task) .done fifo
  | closeReceiver {fifo} : Step fifo .closeReceiver .done { closed := true }
  | closeSender {fifo} : Step fifo .closeSender .done fifo

/-- A history that the queue admits. -/
def Run : Fifo File → List (Entry File) → Fifo File → Prop
  | start, [], final => final = start
  | start, entry :: rest, final =>
    ∃ middle, Step start entry.action entry.reply middle ∧ Run middle rest final

theorem run_append_iff {front back : List (Entry File)} :
    Run start (front ++ back) final ↔ ∃ middle, Run start front middle ∧ Run middle back final := by
  induction front generalizing start with
  | nil => simp [Run]
  | cons _ _ ih =>
    simp only [List.cons_append, Run, ih]
    constructor
    · rintro ⟨next, taken, middle, first, second⟩
      exact ⟨middle, ⟨next, taken, first⟩, second⟩
    · rintro ⟨middle, ⟨next, taken, first⟩, second⟩
      exact ⟨next, taken, middle, first, second⟩

theorem run_snoc_iff {history : List (Entry File)} {entry : Entry File} :
    Run start (history ++ [entry]) final ↔
      ∃ middle, Run start history middle ∧ Step middle entry.action entry.reply final := by
  simp [run_append_iff, Run]

end Fifo

namespace Entry

/-- The message of a send that returned without an error. -/
def accepted (entry : Entry File) : Option (Message File) :=
  match entry.action, entry.reply with
  | .send _ request _, .done => some request.message
  | _, _ => none

def removes (entry : Entry File) : Bool :=
  match entry.action, entry.reply with
  | .finishReceive _, .done => true
  | _, _ => false

/-- What the entry hands out or removes is the first of the messages. -/
def ServesFront (entry : Entry File) (messages : List (Message File)) : Prop :=
  match entry.action, entry.reply with
  | .beginReceive task _ _ _, .received pending =>
    ∃ message rest, messages = message :: rest ∧
      pending.task = task ∧ pending.length = message.length ∧
      pending.transfers = message.transfers
  | .copyReceive _ _, .exposed payload length _ =>
    ∃ message rest, messages = message :: rest ∧ payload = message.payload ∧ length = message.length
  | .finishReceive _, .done => messages ≠ []
  | _, _ => True

/-- The entry reads or removes the message that `pending` has reserved. -/
def Completes (entry : Entry File) (pending : PendingReceive File) : Prop :=
  match entry.action, entry.reply with
  | .copyReceive used _, .exposed _ _ _ => used = pending
  | .finishReceive used, .done => used = pending
  | _, _ => False

/-- A section that fails or waits, or that gives up a receive. -/
def Refuses (entry : Entry File) : Prop :=
  (∃ error, entry.reply = .failed error) ∨ entry.reply = .blocked ∨
    ∃ pending, entry.action = .cancelReceive pending

theorem ServesFront.of_nil {entry : Entry File} (serves : entry.ServesFront [])
    (messages : List (Message File)) : entry.ServesFront messages := by
  obtain ⟨_, action, reply, _⟩ := entry
  cases action <;> cases reply <;> simp [ServesFront] at serves ⊢

end Entry

def acceptedMessages (history : List (Entry File)) : List (Message File) :=
  history.filterMap Entry.accepted

def removals (history : List (Entry File)) : Nat :=
  history.countP Entry.removes

theorem acceptedMessages_snoc (history : List (Entry File)) (entry : Entry File) :
    acceptedMessages (history ++ [entry]) = acceptedMessages history ++ entry.accepted.toList := by
  cases found : entry.accepted <;> simp [acceptedMessages, found]

theorem removals_snoc (history : List (Entry File)) (entry : Entry File) :
    removals (history ++ [entry]) = removals history + entry.removes.toNat := by
  cases found : entry.removes <;> simp [removals, found]

/-- The reservation was made by an earlier entry, and nothing has been removed
since. -/
def ReservedBy (history : List (Entry File)) (task : TaskId) (token : BitVec 64) : Prop :=
  ∃ early begun late pending, history = early ++ begun :: late ∧ begun.reply = .received pending ∧
    pending.task = task ∧ pending.token = token ∧
    removals history = removals early

theorem ReservedBy.snoc
    {history : List (Entry File)} {entry : Entry File} {task : TaskId} {token : BitVec 64}
    (reservedBy : ReservedBy history task token) (notRemoving : entry.removes = false) :
    ReservedBy (history ++ [entry]) task token := by
  obtain ⟨early, begun, late, pending, split, received, sameTask, sameToken,
    sameRemovals⟩ := reservedBy
  refine ⟨early, begun, late ++ [entry], pending, ?_, received, sameTask, sameToken, ?_⟩
  · rw [split, List.append_assoc, List.cons_append]
  · rw [removals_snoc, notRemoving, sameRemovals]
    rfl

/-- The accepted messages that no finished receive has removed. -/
def undelivered (history : List (Entry File)) : List (Message File) :=
  (acceptedMessages history).drop (removals history)

namespace Fifo

/-- The queue holds the accepted messages but the removed ones; a closed queue
holds nothing. -/
structure Accounts (history : List (Entry File)) (fifo : Fifo File) : Prop where
  whileOpen : fifo.closed = false → ∃ removed, acceptedMessages history = removed ++ fifo.queue ∧
    removed.length = removals history
  onceClosed : fifo.closed = true → fifo.queue = [] ∧ fifo.reserved = none
  reservedBy : ∀ task token, fifo.reserved = some (task, token) → ReservedBy history task token

variable {history : List (Entry File)} {fifo : Fifo File}

theorem Accounts.queue_eq (accounts : fifo.Accounts history) (isOpen : fifo.closed = false) :
    fifo.queue = undelivered history := by
  obtain ⟨_, split, count⟩ := accounts.whileOpen isOpen
  rw [undelivered, split, ← count, List.drop_left]

variable {entry : Entry File}

/-- An entry that accepts and removes nothing keeps the accounts, with any
reservation that is accounted for. -/
theorem Accounts.neutral (accounts : fifo.Accounts history)
    {reservation : Option (TaskId × BitVec 64)}
    (unreserved : fifo.closed = true → reservation = none)
    (reservedBy :
      ∀ task token, reservation = some (task, token) → ReservedBy (history ++ [entry]) task token)
    (notAccepted : entry.accepted = none) (notRemoving : entry.removes = false) :
    Accounts (history ++ [entry]) { fifo with reserved := reservation } := by
  have sameAccepted : acceptedMessages (history ++ [entry]) = acceptedMessages history := by
    simp [acceptedMessages_snoc, notAccepted]
  have sameRemovals : removals (history ++ [entry]) = removals history := by
    simp [removals_snoc, notRemoving]
  refine ⟨?_, ?_, reservedBy⟩
  · intro isOpen
    rw [sameAccepted, sameRemovals]
    exact accounts.whileOpen isOpen
  · intro isClosed
    exact ⟨(accounts.onceClosed isClosed).1, unreserved isClosed⟩

variable {message : Message File}

theorem Accounts.accept (accounts : fifo.Accounts history)
    (isOpen : fifo.closed = false) (isAccepted : entry.accepted = some message)
    (notRemoving : entry.removes = false) :
    Accounts (history ++ [entry]) { fifo with queue := fifo.queue ++ [message] } := by
  refine ⟨?_, ?_, ?_⟩
  · intro _
    obtain ⟨removed, split, count⟩ := accounts.whileOpen isOpen
    refine ⟨removed, ?_, ?_⟩
    · simp [acceptedMessages_snoc, isAccepted, split]
    · simpa [removals_snoc, notRemoving] using count
  · intro isClosed
    rw [isOpen] at isClosed
    cases isClosed
  · intro task token isReserved
    exact (accounts.reservedBy task token isReserved).snoc notRemoving

theorem Accounts.remove {rest : List (Message File)}
    (accounts : fifo.Accounts history) (front : fifo.queue = message :: rest)
    (notAccepted : entry.accepted = none) (isRemoving : entry.removes = true) :
    Accounts (history ++ [entry]) { fifo with queue := rest, reserved := none } := by
  refine ⟨?_, ?_, nofun⟩
  · intro isOpen
    obtain ⟨removed, split, count⟩ := accounts.whileOpen isOpen
    refine ⟨removed ++ [message], ?_, ?_⟩
    · simp [acceptedMessages_snoc, notAccepted, split, front]
    · simpa [removals_snoc, isRemoving] using count
  · intro isClosed
    rw [(accounts.onceClosed isClosed).1] at front
    cases front

variable {fifo after : Fifo File}

theorem Accounts.snoc
    (accounts : fifo.Accounts history) (taken : Step fifo entry.action entry.reply after) :
    after.Accounts (history ++ [entry]) := by
  have unreserved : fifo.closed = true → fifo.reserved = none := by
    intro isClosed
    exact (accounts.onceClosed isClosed).2
  have kept :
      entry.removes = false → ∀ task token, fifo.reserved = some (task, token) →
        ReservedBy (history ++ [entry]) task token := by
    intro notRemoving task token isReserved
    exact (accounts.reservedBy task token isReserved).snoc notRemoving
  obtain ⟨_, action, reply, _⟩ := entry
  cases taken with
  | accept isOpen => exact accounts.accept isOpen rfl rfl
  | remove front owned => exact accounts.remove front rfl rfl
  | closeReceiver => exact ⟨nofun, fun _ => ⟨rfl, rfl⟩, nofun⟩
  | reserve front =>
    refine accounts.neutral ?_ ?_ rfl rfl
    · intro isClosed
      rw [(accounts.onceClosed isClosed).1] at front
      cases front
    · intro task token isReserved
      cases isReserved
      refine ⟨history, _, [], _, rfl, rfl, rfl, rfl, ?_⟩
      rw [removals_snoc]
      rfl
  | release owned => exact accounts.neutral (fun _ => rfl) nofun rfl rfl
  | _ => exact accounts.neutral unreserved (kept rfl) rfl rfl

theorem Run.accounts (run : Run {} history fifo) : fifo.Accounts history := by
  induction history using List.reverseRecOn generalizing fifo with
  | nil =>
    cases run
    exact ⟨fun _ => ⟨[], rfl, rfl⟩, nofun, nofun⟩
  | append_singleton history _ ih =>
    obtain ⟨_, before, last⟩ := run_snoc_iff.mp run
    exact (ih before).snoc last

/-- Before any entry of an admitted history the queue was in a state that
admits the entry. -/
theorem Run.step_at
    {before after : List (Entry File)} (run : Run start (before ++ entry :: after) final) :
    ∃ fifo next, Run start before fifo ∧ Step fifo entry.action entry.reply next := by
  obtain ⟨fifo, first, next, taken, _⟩ := run_append_iff.mp run
  exact ⟨fifo, next, first, taken⟩

section Taken

variable (taken : Step fifo entry.action entry.reply after)

include taken

theorem Step.reserved_of_completes
    {pending : PendingReceive File} (completes : entry.Completes pending) :
    fifo.reserved = some (pending.task, pending.token) := by
  obtain ⟨_, _, _, _⟩ := entry
  cases taken with
  | expose front owned | remove front owned =>
    cases completes
    exact owned
  | _ => exact completes.elim

theorem Step.queue_of_refuses (refuses : entry.Refuses) : after.queue = fifo.queue := by
  obtain ⟨_, _, _, _⟩ := entry
  rcases refuses with ⟨error, failed⟩ | waiting | ⟨pending, gaveUp⟩
  · subst failed
    cases taken <;> rfl
  · subst waiting
    cases taken <;> rfl
  · subst gaveUp
    cases taken <;> rfl

theorem Step.servesFront : entry.ServesFront fifo.queue := by
  obtain ⟨_, _, _, _⟩ := entry
  cases taken with
  | reserve front => exact ⟨_, _, front, rfl, rfl, rfl⟩
  | expose front owned => exact ⟨_, _, front, rfl, rfl⟩
  | remove front owned => simp [Entry.ServesFront, front]
  | _ => trivial

end Taken

end Fifo

/-! ## Every direction refines the queue -/

namespace DirectionState

def message (direction : DirectionState File) (index : Fin channelQueueDepth) : Message File :=
  ⟨direction.payloads index, (direction.slots index).length, (direction.slots index).transfers⟩

/-- The queued messages, first message first. -/
def contents (direction : DirectionState File) : List (Message File) :=
  Ring.window direction.message direction.head direction.len

def toFifo (direction : DirectionState File) : Fifo File where
  queue := direction.contents
  reserved := direction.receiveOwner
  closed := !direction.receiverOpen

variable {direction : DirectionState File}

theorem length_contents : direction.contents.length = direction.len :=
  Ring.length_window _ _ _

theorem contents_eq_nil (empty : direction.len = 0) : direction.contents = [] := by
  rw [contents, empty, Ring.window_zero]

theorem contents_eq_cons (nonempty : direction.len ≠ 0) :
    direction.contents = direction.message direction.head ::
      Ring.window direction.message (Ring.cell direction.head 1) (direction.len - 1) := by
  have positive : direction.len = direction.len - 1 + 1 := by omega
  rw [contents, ← Ring.window_eq_cons, ← positive]

theorem Clean.contents_published
    (clean : direction.Clean) (room : direction.len < channelQueueDepth)
    (written : request.copy (direction.payloads direction.tail) = (payload, .ok ()))
    (reader writer : Option TaskId) :
    contents
        { direction with
          writerWaiter := writer
          payloads := update direction.payloads direction.tail (payload.fillFrom request.length)
          slots := update direction.slots direction.tail ⟨request.length, request.transfers⟩
          len := direction.len + 1
          readerWaiter := reader } =
      direction.contents ++ [request.message] := by
  apply Ring.window_push room
  · rw [clean.payload_tail_eq_zero room] at written
    simp only [message, SendRequest.message, written, tail]
    rw [update_self, update_self]
  · intro index elsewhere
    simp only [message, tail]
    rw [update_of_ne elsewhere, update_of_ne elsewhere]

theorem Clean.contents_retireFront (clean : direction.Clean) (nonempty : direction.len ≠ 0) :
    direction.contents = direction.message direction.head :: direction.retireFront.contents := by
  have positive : direction.len = direction.len - 1 + 1 := by omega
  have bounded : direction.len - 1 + 1 ≤ channelQueueDepth := by
    rw [← positive]
    exact clean.bounded
  rw [contents, positive]
  apply Ring.window_pop bounded
  intro index elsewhere
  simp only [message, DirectionState.retireFront, clearSlot]
  rw [update_of_ne elsewhere, update_of_ne elsewhere]

/-- One section of a direction is one step of the queue. -/
theorem Clean.step_toFifo (clean : direction.Clean) (action : Action File) :
    Fifo.Step direction.toFifo action (direction.perform action).reply
      (direction.perform action).direction.toFifo := by
  generalize performed : direction.perform action = result
  cases DirectionState.outcome performed with
  | invalidSend => exact .refuseSend
  | refusedSend refused => exact .refuseSend
  | failedCopy isOpen room =>
    simp only [clean.update_tail_zero room]
    exact .refuseSend
  | @published task _ _ _ _ isOpen room written =>
    have appended :=
      clean.contents_published room written none (clearWaiter direction.writerWaiter task)
    simp only [toFifo, appended]
    have isOpenFifo : direction.toFifo.closed = false := by
      simp [toFifo, isOpen]
    have roomFifo : direction.toFifo.queue.length < channelQueueDepth := by
      simp only [toFifo, length_contents]
      exact room
    exact .accept isOpenFifo roomFifo
  | parkedSend isOpen full unclaimed =>
    have isOpenFifo : direction.toFifo.closed = false := by
      simp [toFifo, isOpen]
    have fullFifo : direction.toFifo.queue.length = channelQueueDepth := by
      simp only [toFifo, length_contents]
      exact Nat.le_antisymm clean.bounded full
    exact .delaySend isOpenFifo fullFifo
  | refusedReceive refused =>
    rcases refused with owned | empty
    · exact .refuseReceive (Or.inr owned)
    · exact .refuseReceive (Or.inl (contents_eq_nil empty))
  | reserved unowned nonempty =>
    have front : direction.toFifo.queue = direction.message direction.head :: _ :=
      contents_eq_cons nonempty
    exact .reserve front unowned
  | parkedReceive unowned empty isOpen unclaimed =>
    exact .delayReceive (contents_eq_nil empty)
  | refusedCopy refused =>
    apply Fifo.Step.refuseCopy
    intro owned
    have nonempty := clean.nonempty owned
    rcases refused with notOwned | empty | mismatch
    · exact absurd owned notOwned
    · exact absurd empty nonempty
    · exact ⟨_, _, contents_eq_cons nonempty, mismatch⟩
  | exposed owned nonempty =>
    have front : direction.toFifo.queue = direction.message direction.head :: _ :=
      contents_eq_cons nonempty
    exact .expose front owned
  | refusedFinish refused =>
    apply Fifo.Step.refuseFinish
    intro owned
    rcases refused with notOwned | empty
    · exact notOwned owned
    · exact clean.nonempty owned empty
  | finished owned nonempty => exact .remove (clean.contents_retireFront nonempty) owned
  | refusedCancel refused => exact .refuseCancel refused
  | cancelled owned => exact .release owned
  | readUnarmed signal => exact .armRead signal
  | readArmed => exact .armRead rfl
  | writeUnarmed signal => exact .armWrite signal
  | writeArmed => exact .armWrite rfl
  | readDisarmed => exact .disarmRead
  | writeDisarmed => exact .disarmWrite
  | receiverClosed => exact .closeReceiver
  | senderClosed => exact .closeSender

end DirectionState

end Xenith.Ipc
