import Xenith.Net.TcpStream

/-!
# Passive opens

The sockets that `deliver_tcp` creates for a SYN, from the handshake to
`accept`.  A child belongs to its listener through `parent_listener` until it
is accepted.
-/

namespace Xenith.Net

open Xenith.Sequence
open TcpControlBlock

namespace Socket

variable {socket : Socket} {source : Endpoint} {segment : TcpSegment}

/-- A segment that neither resets nor resynchronizes the socket. -/
def Spares (socket : Socket) (segment : TcpSegment) : Prop :=
  ¬ (socket.tcp.segmentAcceptable segment = true ∧
    (segment.has TcpFlags.rst = true ∨ segment.has TcpFlags.syn = true))

structure InHandshake (socket : Socket) : Prop where
  state : socket.tcp.state = .synReceived
  rx : socket.rx = []
  outOfOrder : socket.outOfOrder = []

/-- The segment ends the handshake of the socket with a FIN. -/
def Finishes (socket : Socket) (segment : TcpSegment) : Prop :=
  segment.has TcpFlags.fin = true ∧ segment.sequence = socket.tcp.rcvNxt ∧
    segment.acknowledgement = socket.tcp.sndNxt

theorem onData_state {tcb : TcpControlBlock}
    (noFin : ¬ (segment.has TcpFlags.fin = true ∧ segment.sequence = tcb.rcvNxt)) :
    (onData tcb segment).1.state = tcb.state := by
  fun_cases onData with
  | case2 inOrder _ _ fin =>
    have carries : segment.carries = true := by
      simp [TcpSegment.carries, fin]
    have same : segment.sequence = tcb.rcvNxt := by
      by_contra different
      exact inOrder ⟨different, carries⟩
    exact absurd ⟨fin, same⟩ noFin
  | _ => rfl

/-- The handshake goes on or is completed. -/
theorem onSegment_of_handshake (received : socket.tcp.state = .synReceived)
    (spares : Spares socket segment) (noFin : ¬ Finishes socket segment) :
    ((socket.tcp.onSegment segment).1.state = .synReceived ∧
        takenBy (socket.tcp.onSegment segment).2 = false) ∨
      ((socket.tcp.onSegment segment).1.state = .established ∧
        ∃ action, (socket.tcp.onSegment segment).2 = .ok action) := by
  have synchronized : isSynchronized socket.tcp.state = true := by
    rw [received]
    rfl
  rw [onSegment_synchronized segment synchronized]
  fun_cases onSynchronizedSegment with
  | case3 acceptable rst =>
    rw [Bool.not_eq_false] at acceptable
    exact absurd ⟨acceptable, Or.inl rst⟩ spares
  | case4 acceptable _ syn =>
    rw [Bool.not_eq_false] at acceptable
    exact absurd ⟨acceptable, Or.inr syn⟩ spares
  | case7 =>
    fun_cases onHandshake with
    | case1 => exact Or.inl ⟨received, rfl⟩
    | case2 => exact Or.inr ⟨rfl, _, rfl⟩
    | case3 _ whole =>
      rw [not_not] at whole
      refine Or.inr ⟨?_, _, rfl⟩
      exact onData_state (fun fin => noFin ⟨fin.1, fin.2, whole⟩)
  | case8 _ _ _ _ _ _ other => exact absurd received other
  | _ => exact Or.inl ⟨received, rfl⟩

/-- What the segments of a handshake do to the child. -/
theorem processTcpIngress_of_handshake
    (handshake : InHandshake socket) (spares : Spares socket segment)
    (noFin : ¬ Finishes socket segment) :
    InHandshake (socket.processTcpIngress source segment).1 ∨
      ((socket.processTcpIngress source segment).1.tcp.state = .established ∧
        ∃ action, (socket.processTcpIngress source segment).2 = .ok action) := by
  have inOrder : ¬ (canReorder socket.tcp.state = true ∧
      segment.carries = true ∧
      after segment.sequence socket.tcp.rcvNxt = true) := by
    rw [handshake.state]
    exact fun reorders => absurd reorders.1 Bool.false_ne_true
  unfold processTcpIngress
  rw [if_neg inOrder]
  have moves := onSegment_of_handshake handshake.state spares noFin
  fun_cases processInOrder with
  | case1 outcome _ error failed =>
    rcases moves with ⟨state, _⟩ | ⟨_, action, accepted⟩
    · exact Or.inl ⟨state, handshake.rx, handshake.outOfOrder⟩
    · rw [failed] at accepted
      cases accepted
  | case2 _ advanced _ _ _ error full =>
    have noRoom := full_of_queuePayload full
    rw [handshake.rx] at noRoom
    exact absurd noRoom (by decide)
  | case3 outcome advanced action accepted payload filled queues =>
    have fills := filled_of_queuePayload queues
    have tcp : filled.tcp = outcome.1 := congrArg Socket.tcp fills.same
    have outOfOrder : filled.outOfOrder = [] :=
      (congrArg Socket.outOfOrder fills.same).trans handshake.outOfOrder
    rw [outOfOrder, List.length_nil, drain, tcp]
    rcases moves with ⟨state, refused⟩ | ⟨state, _⟩
    · refine Or.inl ⟨tcp ▸ state, ?_, outOfOrder⟩
      rw [accepted] at refused
      have nothing : payload = [] := if_neg (Bool.eq_false_iff.mp refused)
      rw [nothing] at queues
      cases queues
      exact handshake.rx
    · exact Or.inr ⟨state, action, rfl⟩

theorem ingress_result (socket : Socket) (source : Endpoint) (segment : TcpSegment) :
    (socket.ingress source segment).2 = (socket.processTcpIngress source segment).2 := by
  fun_cases ingress with
  | case1 _ _ failed => exact failed.symm
  | case2 _ _ accepted => exact accepted.symm
  | case3 _ _ accepted => exact accepted.symm

theorem ingress_of_handshake (handshake : InHandshake socket) (spares : Spares socket segment)
    (noFin : ¬ Finishes socket segment) :
    InHandshake (socket.ingress source segment).1 ∨
      ((socket.ingress source segment).1.tcp.state = .established ∧
        ∃ action, (socket.ingress source segment).2 = .ok action) := by
  have settled : Settled (socket.processTcpIngress source segment).1 _ := ingress_settled segment
  rw [ingress_result]
  rcases processTcpIngress_of_handshake handshake spares noFin with
    ongoing | ⟨state, accepted⟩
  · refine Or.inl ⟨?_, ?_, ?_⟩
    · rw [settled.tcp]
      exact ongoing.state
    · rw [settled.rx]
      exact ongoing.rx
    · rcases settled.outOfOrder with same | empty
      · rw [same]
        exact ongoing.outOfOrder
      · exact empty
  · refine Or.inr ⟨?_, accepted⟩
    rw [settled.tcp]
    exact state

/-- A segment that spares the socket leaves it open. -/
theorem onSegment_receiving
    (receiving : isReceiving socket.tcp.state = true) (spares : Spares socket segment) :
    isReceiving (socket.tcp.onSegment segment).1.state = true := by
  unfold Spares at spares
  cases acceptable : socket.tcp.segmentAcceptable segment with
  | true =>
    simp only [acceptable, true_and, not_or, Bool.not_eq_true] at spares
    exact (onSegment_effect segment receiving).receiving receiving spares.1 spares.2
  | false =>
    rw [onSegment_synchronized segment
      (isSynchronized_of_receiving receiving), onSynchronizedSegment, if_pos acceptable]
    split
    · exact receiving
    · exact receiving

/-- What a property of the control block needs to survive the whole call. -/
theorem ingress_tcp (invariant : TcpControlBlock → Prop)
    (replays : ∀ (tcb : TcpControlBlock) (queued : OutOfOrderSegment),
      invariant tcb → invariant (tcb.onSegment (replay queued)).1)
    (initially : invariant socket.tcp) (first : invariant (socket.tcp.onSegment segment).1) :
    invariant (socket.ingress source segment).1.tcp := by
  have settled : Settled (socket.processTcpIngress source segment).1 _ := ingress_settled segment
  rw [settled.tcp]
  fun_cases processTcpIngress with
  | case2 _ _ queued queues =>
    rw [(queueOutOfOrder_cases queues).1]
    exact initially
  | case4 =>
    fun_cases processInOrder with
    | case3 _ _ _ _ _ _ queues =>
      refine drain_invariant (fun current => invariant current.tcp) ?_ ?_
      · intro current after result holds turn
        obtain ⟨queued, replayed⟩ := replayed_of_replayNext turn
        rw [replayed.tcp]
        exact replays current.tcp queued holds
      · rw [congrArg Socket.tcp (filled_of_queuePayload queues).same]
        exact first
    | _ => exact first
  | _ => exact initially

theorem ingress_receiving
    (receiving : isReceiving socket.tcp.state = true) (spares : Spares socket segment) :
    isReceiving (socket.ingress source segment).1.tcp.state = true := by
  refine ingress_tcp (fun tcb => isReceiving tcb.state = true) ?_ receiving
    (onSegment_receiving receiving spares)
  intro tcb queued receiving
  obtain ⟨noReset, noSyn, _, _⟩ := replay_flags queued
  exact (onSegment_effect _ receiving).receiving receiving noReset noSyn

theorem ingress_closed (closed : socket.tcp.state = .closed) :
    (socket.ingress source segment).1.tcp.state = .closed := by
  have stays (tcb : TcpControlBlock) (segment : TcpSegment)
      (closed : tcb.state = .closed) :
      (tcb.onSegment segment).1.state = .closed := by
    unfold onSegment
    rw [closed]
    exact closed
  exact ingress_tcp (fun tcb => tcb.state = .closed)
    (fun tcb queued closed => stays tcb _ closed) closed (stays socket.tcp segment closed)

end Socket

/-- A table with the sockets that were created for a SYN, and those of them
that `accept` has returned. -/
structure Ledger where
  table : SocketTable
  children : List SocketHandle
  accepted : List SocketHandle

inductive TableCall where
  | deliver (source destination : Endpoint) (segment : TcpSegment) (initialSequence : Number)
  | accept (listener : SocketHandle)
  | close (handle : SocketHandle)
  | discard (handle : SocketHandle)
  | track (handle : SocketHandle) (packet : SocketTx) (now : Nat)
  | poll (now : Nat)

namespace SocketTable

/-- The handle of the socket that a segment creates. -/
def createdChild (table : SocketTable) (source destination : Endpoint)
    (segment : TcpSegment) : Option SocketHandle :=
  match table.findTcpConnection source destination, table.findTcpListener destination with
  | none, some _ =>
    if isOpening segment then
      match (table.create .tcp).2 with
      | .ok child => some child
      | .error _ => none
    else none
  | _, _ => none

end SocketTable

namespace Ledger

/-- A table in which nothing is pending. -/
def ofTable (table : SocketTable) : Ledger where
  table := table
  children := []
  accepted := []

/-- One call.  A reused handle stands for its new socket. -/
def step (ledger : Ledger) : TableCall → Option Ledger
  | .deliver source destination segment initialSequence =>
    let delivered := (ledger.table.deliverTcp source destination segment initialSequence).1
    match ledger.table.createdChild source destination segment with
    | none => some { ledger with table := delivered }
    | some child =>
      some
        { table := delivered
          children := child :: ledger.children
          accepted := ledger.accepted.filter (fun other => other ≠ child) }
  | .accept listener =>
    match ledger.table.accept listener with
    | (table, .error _) => some { ledger with table := table }
    | (table, .ok child) =>
      some
        { ledger with table := table, accepted := child :: ledger.accepted }
  | .close handle => some { ledger with table := (ledger.table.close handle).1 }
  | .discard handle => some { ledger with table := (ledger.table.discard handle).1 }
  | .track handle packet now =>
    some { ledger with table := (ledger.table.trackTransmission handle packet now).1 }
  | .poll now => some { ledger with table := (ledger.table.pollRetransmissions now).1 }

/-- The segment neither resets a child that is not accepted nor ends its
handshake with a FIN. -/
def SparesChild (socket : Socket) (segment : TcpSegment) : Prop :=
  socket.parentListener ≠ none → socket.Spares segment ∧ (socket.tcp.state = .synReceived →
    ¬ (segment.has TcpFlags.fin = true ∧
      segment.sequence = socket.tcp.rcvNxt ∧
      segment.acknowledgement = socket.tcp.sndNxt))

/-- The oldest segment of the socket has not been given up. -/
def Retries (socket : Socket) (now : Nat) : Prop :=
  match socket.outstanding with
  | [] => True
  | front :: _ =>
    (now - front.sentAt < front.rtoNs ∧ socket.duplicateAcks < 3) ∨ front.retries < tcpMaxRetries

instance (socket : Socket) (segment : TcpSegment) : Decidable (SparesChild socket segment) := by
  unfold SparesChild Socket.Spares
  infer_instance

instance (socket : Socket) (now : Nat) : Decidable (Retries socket now) := by
  unfold Retries
  split <;> infer_instance

/-- The segment, for the slot that `deliver_tcp` selects. -/
def AdmittedSegment (table : SocketTable) (segment : TcpSegment) : Option Nat → Prop
  | some index => ∀ socket ∈ table.find (table.handleAt index), SparesChild socket segment
  | none => SocketTable.isOpening segment = true → segment.has TcpFlags.rst = false

instance (table : SocketTable) (segment : TcpSegment) :
    (selected : Option Nat) → Decidable (AdmittedSegment table segment selected)
  | some index =>
    inferInstanceAs
      (Decidable (∀ socket ∈ table.find (table.handleAt index), SparesChild socket segment))
  | none => inferInstanceAs (Decidable (_ = true → _ = false))

def Admitted (ledger : Ledger) : TableCall → Prop
  | .deliver source destination segment _ =>
    AdmittedSegment ledger.table segment (ledger.table.findTcpConnection source destination)
  | .close handle => ∀ socket ∈ ledger.table.find handle, socket.parentListener = none
  | .discard handle => ∀ socket ∈ ledger.table.find handle, socket.parentListener = none
  | .poll now =>
    ∀ slot ∈ ledger.table.slots, ∀ socket ∈ slot.socket,
      socket.parentListener ≠ none → Retries socket now
  | _ => True

instance (ledger : Ledger) (call : TableCall) : Decidable (Admitted ledger call) := by
  cases call <;> unfold Admitted <;> infer_instance

/-- A child is queued exactly once, in the list of its listener. -/
def Queued (table : SocketTable) (child : SocketHandle) : Prop :=
  ∃ socket parent listener, table.find child = some socket ∧ socket.parentListener = some parent ∧
    table.find parent = some listener ∧ listener.pending.count child = 1

def Handshaking (table : SocketTable) (child : SocketHandle) : Prop :=
  ∃ socket, table.find child = some socket ∧ socket.tcp.state = .synReceived

structure Orderly (ledger : Ledger) : Prop where
  lifecycle : ∀ child ∈ ledger.children,
    Handshaking ledger.table child ∨ Queued ledger.table child ∨
      child ∈ ledger.accepted ∨ ledger.table.find child = none
  /-- A child that was reset or timed out does not keep its slot. -/
  alive : ∀ child ∈ ledger.children, child ∉ ledger.accepted →
    ∀ socket, ledger.table.find child = some socket → socket.tcp.state ≠ .closed
  /-- The children of a closed listener are gone. -/
  owned : ∀ child ∈ ledger.children, child ∉ ledger.accepted →
    ∀ socket, ledger.table.find child = some socket →
      ∃ parent listener, socket.parentListener = some parent ∧
        ledger.table.find parent = some listener
  backlog : ∀ handle socket, ledger.table.find handle = some socket →
    socket.pending.length ≤ socket.listenBacklog

/-- A table before any passive open: no socket belongs to a listener, nothing
is pending, and no listener is detached. -/
structure Fresh (table : SocketTable) : Prop where
  unowned : ∀ handle socket, table.find handle = some socket →
    socket.parentListener = none ∧ socket.pending = []
  attached : ∀ handle socket, table.find handle = some socket →
    socket.tcp.state = .listen → socket.detachedAt = none

end Ledger

end Xenith.Net
