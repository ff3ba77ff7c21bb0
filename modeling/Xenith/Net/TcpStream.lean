import Xenith.Lib.Execution
import Xenith.Net.SocketEffect

/-!
# The receive stream

What `receive` has returned and what is still queued is the part of the stream
that `rcv_nxt` has passed, as long as the receive queue has room for what a
segment may release.
-/

namespace Xenith.Net

open Socket
open Xenith.Sequence
open TcpControlBlock
open TcpFlags

/-- The payload lies in the stream at a position, and only the last piece has
a FIN. -/
structure PieceOf
    (stream : List UInt8) (position : Nat) (payload : List UInt8) (fin : Bool) : Prop where
  within : position ≤ stream.length
  bytes : payload = (stream.drop position).take payload.length
  last : fin = true → position + payload.length = stream.length

section Pieces

variable {stream payload : List UInt8} {position : Nat} {fin : Bool}

theorem PieceOf.end_le (piece : PieceOf stream position payload fin) :
    position + payload.length ≤ stream.length := by
  have within := piece.within
  have length := congrArg List.length piece.bytes
  rw [List.length_take, List.length_drop] at length
  omega

/-- The prefix in front of a piece grows by the piece. -/
theorem PieceOf.take (piece : PieceOf stream position payload fin) :
    stream.take (position + (payload.length + fin.toNat)) = stream.take position ++ payload := by
  cases fin with
  | false => rw [Bool.toNat_false, Nat.add_zero, List.take_add, ← piece.bytes]
  | true =>
    have last := piece.last rfl
    have whole :
        stream.take (position + (payload.length + true.toNat)) =
          stream.take (position + payload.length) := by
      rw [List.take_of_length_le (by omega), List.take_of_length_le (by omega)]
    rw [whole, List.take_add, ← piece.bytes]

end Pieces

/-! ## The socket against the stream -/

/-- The socket has passed `position` numbers of the stream and of the FIN
behind it. -/
structure Receives (stream : List UInt8) (base : Number) (returned : List UInt8)
    (position : Nat) (socket : Socket) : Prop where
  receiving : isReceiving socket.tcp.state = true
  irs : socket.tcp.irs + 1 = base
  rcvNxt : socket.tcp.rcvNxt = numberAt base position
  within : position ≤ stream.length + 1
  bytes : returned ++ socket.queued = stream.take position
  held : ∀ queued ∈ socket.outOfOrder, ∃ start : Nat,
    queued.sequence = numberAt base start ∧ PieceOf stream start queued.payload queued.fin
  window : socket.outOfOrder ≠ [] → socket.tcp.rcvWnd ≠ 0

/-- The segment carries the piece of the stream at a position. -/
structure Cuts
    (stream : List UInt8) (base : Number) (start : Nat) (segment : TcpSegment) : Prop where
  noReset : segment.has rst = false
  noSyn : segment.has syn = false
  sequence : segment.sequence = numberAt base start
  piece : PieceOf stream start segment.payload (segment.has fin)

section Socket

variable {stream returned : List UInt8} {base : Number} {position : Nat}
variable {socket next : Socket} {segment : TcpSegment} {start : Nat} {tcb : TcpControlBlock}

section Receives

variable (receives : Receives stream base returned position socket)

include receives

theorem Receives.taken (short : stream.length + 1 < 2 ^ 32) (cuts : Cuts stream base start segment)
    {result : Except TcpStateError TcpAction} (taken : Taken socket.tcp tcb segment result) :
    start = position ∧ tcb.rcvNxt =
      numberAt base (position + (segment.payload.length + (segment.has fin).toNat) : Nat) := by
  have within := receives.within
  have last := cuts.piece.end_le
  have same : numberAt base start = numberAt base position := by
    rw [← cuts.sequence, ← receives.rcvNxt]
    exact taken.inOrder
  rw [numberAt_inj (by omega) (by omega)] at same
  refine ⟨by omega, ?_⟩
  have unclamped : clampLength segment.payload.length = segment.payload.length :=
    Nat.min_eq_left (by omega)
  rw [taken.rcvNxt, unclamped, receives.rcvNxt]
  push_cast
  rw [numberAt_add, BitVec.ofInt_add, BitVec.add_assoc]
  rw [BitVec.ofInt_natCast, BitVec.ofInt_natCast]

/-- The control block moves on and no segment is held anew. -/
theorem Receives.moved
    (cuts : Cuts stream base start segment) (tcp : next.tcp = (socket.tcp.onSegment segment).1)
    (outOfOrder : next.outOfOrder ⊆ socket.outOfOrder) {reached : Nat}
    (rcvNxt : (socket.tcp.onSegment segment).1.rcvNxt = numberAt base reached)
    (within : reached ≤ stream.length + 1) (bytes : returned ++ next.queued = stream.take reached) :
    Receives stream base returned reached next := by
  have effect := onSegment_effect segment receives.receiving
  refine ⟨?_, ?_, ?_, within, bytes, ?_, ?_⟩
  · rw [tcp]
    exact effect.receiving receives.receiving cuts.noReset cuts.noSyn
  · rw [tcp, effect.irs]
    exact receives.irs
  · rw [tcp]
    exact rcvNxt
  · exact fun queued member => receives.held queued (outOfOrder member)
  · intro some
    rw [tcp, effect.rcvWnd]
    apply receives.window
    intro nothing
    rw [nothing] at outOfOrder
    exact some (List.subset_nil.mp outOfOrder)

theorem Receives.ignored (cuts : Cuts stream base start segment)
    (refused : takenBy (socket.tcp.onSegment segment).2 = false)
    (tcp : next.tcp = (socket.tcp.onSegment segment).1) (queued : next.queued = socket.queued)
    (outOfOrder : next.outOfOrder ⊆ socket.outOfOrder) :
    Receives stream base returned position next := by
  refine receives.moved cuts tcp outOfOrder ?_ receives.within ?_
  · rcases (onSegment_effect segment receives.receiving).data with
      ignored | taken
    · rw [ignored.rcvNxt, receives.rcvNxt]
    · rw [taken.accepted] at refused
      cases refused
  · rw [queued, receives.bytes]

theorem Receives.filled (short : stream.length + 1 < 2 ^ 32) (cuts : Cuts stream base start segment)
    (taken :
      Taken socket.tcp (socket.tcp.onSegment segment).1 segment (socket.tcp.onSegment segment).2)
    (tcp : next.tcp = (socket.tcp.onSegment segment).1)
    (queued : next.queued = socket.queued ++ segment.payload)
    (outOfOrder : next.outOfOrder ⊆ socket.outOfOrder) :
    Receives stream base returned
      (position + (segment.payload.length + (segment.has fin).toNat))
      next := by
  obtain ⟨same, rcvNxt⟩ := receives.taken short cuts taken
  subst same
  refine receives.moved cuts tcp outOfOrder rcvNxt ?_ ?_
  · have last := cuts.piece.end_le
    have fin := Bool.toNat_le (segment.has fin)
    omega
  · rw [queued, ← List.append_assoc, receives.bytes, cuts.piece.take]

end Receives

/-! ## In-order data is taken -/

theorem segmentAcceptable_of_inOrder
    (window : tcb.rcvWnd ≠ 0) (inOrder : segment.sequence = tcb.rcvNxt) :
    tcb.segmentAcceptable segment = true := by
  have inWindow : seqInWindow segment.sequence tcb.rcvNxt tcb.rcvWnd = true := by
    have positive : 0 < tcb.rcvWnd.toNat := by
      rw [Nat.pos_iff_ne_zero]
      intro zero
      exact window (BitVec.eq_of_toNat_eq zero)
    rw [seqInWindow, inOrder, Bool.and_eq_true, Bool.not_eq_true']
    simp only [before, decide_eq_false_iff_not, decide_eq_true_eq,
      BitVec.sub_self, BitVec.toNat_sub, BitVec.toNat_add,
      BitVec.toNat_setWidth, BitVec.toNat_ofNat]
    omega
  unfold segmentAcceptable
  rw [if_neg window]
  split
  · exact inWindow
  · rw [inWindow, Bool.true_or]

theorem onAcknowledged_of_receiving (receiving : isReceiving tcb.state = true) :
    onAcknowledged tcb segment = onData tcb segment := by
  have other {state : TcpState} (outside : isReceiving state = false) : tcb.state ≠ state := by
    intro same
    rw [same, outside] at receiving
    cases receiving
  unfold onAcknowledged
  rw [if_neg (fun both => other rfl both.1),
    if_neg (fun both => other rfl both.1), if_neg (fun both => other rfl both.1)]

/-- A segment at `rcv_nxt` is taken unless its acknowledgement is refused. -/
theorem takenBy_of_inOrder (receiving : isReceiving tcb.state = true)
    (window : tcb.rcvWnd ≠ 0) (inOrder : segment.sequence = tcb.rcvNxt)
    (noReset : segment.has rst = false) (noSyn : segment.has syn = false)
    (carries : segment.carries = true) {action : TcpAction}
    (accepted : (tcb.onSegment segment).2 = .ok action) (ack : segment.has ack = true) :
    takenBy (tcb.onSegment segment).2 = true := by
  have synchronized := isSynchronized_of_receiving receiving
  have handshake : tcb.state ≠ .synReceived := by
    intro received
    rw [received] at receiving
    cases receiving
  rw [onSegment_synchronized segment synchronized] at accepted ⊢
  unfold onSynchronizedSegment at accepted ⊢
  rw [segmentAcceptable_of_inOrder window inOrder] at accepted ⊢
  simp only [noReset, noSyn, ack, Bool.true_eq_false, Bool.false_eq_true, if_false] at accepted ⊢
  split at accepted
  · cases accepted
  · next valid =>
    have acknowledged : isReceiving (tcb.acknowledge segment).state = true := receiving
    have unpromoted : ¬ (tcb.acknowledge segment).state = .synReceived := handshake
    rw [if_neg valid, if_neg unpromoted, onAcknowledged_of_receiving acknowledged]
    have taken : ¬ (segment.sequence ≠ (tcb.acknowledge segment).rcvNxt ∧ segment.carries = true) :=
      fun outOfOrder => outOfOrder.1 inOrder
    unfold onData
    rw [if_neg taken]
    split
    · rfl
    · next noFin =>
      have nonempty : segment.payload.length ≠ 0 := by
        rw [TcpSegment.carries, Bool.or_eq_true] at carries
        rcases carries with some | fin
        · rw [decide_eq_true_eq] at some
          exact fun zero => some (List.eq_nil_of_length_eq_zero zero)
        · exact absurd fin noFin
      rw [if_pos nonempty]
      rfl

/-! ## One call -/

/-- The receive queue can take every segment that is held. -/
def Roomy (socket : Socket) : Prop :=
  socket.rx.length + socket.outOfOrder.length ≤ maxRxPackets

section Receives

variable (receives : Receives stream base returned position socket)

include receives

theorem Receives.replayed (short : stream.length + 1 < 2 ^ 32) (roomy : Roomy socket)
    {queued : OutOfOrderSegment} {result : Except SocketError TcpAction}
    (turn : Socket.Replayed socket queued next result) :
    (∃ reached, Receives stream base returned reached next) ∧ Roomy next := by
  obtain ⟨noReset, noSyn, ack, fin⟩ := replay_flags queued
  obtain ⟨start, sequence, piece⟩ := receives.held queued turn.member
  rw [← fin] at piece
  have cuts : Cuts stream base start (Socket.replay queued) := ⟨noReset, noSyn, sequence, piece⟩
  have subset : next.outOfOrder ⊆ socket.outOfOrder := by
    rw [turn.outOfOrder]
    exact List.eraseP_subset
  have length : next.outOfOrder.length + 1 = socket.outOfOrder.length := by
    have shorter := List.length_eraseP_of_mem
      (p := fun queued => decide (queued.sequence = socket.tcp.rcvNxt))
      turn.member (by simp [turn.expected])
    have positive := List.length_pos_of_mem turn.member
    rw [turn.outOfOrder, shorter]
    omega
  have window : socket.tcp.rcvWnd ≠ 0 := receives.window (List.ne_nil_of_mem turn.member)
  have effect := onSegment_effect (Socket.replay queued) receives.receiving
  unfold Roomy at roomy ⊢
  rcases turn.filled with ⟨action, accepted, bytes, grown⟩ | ⟨_, rx, cause⟩
  · refine ⟨?_, by omega⟩
    rcases effect.data with ignored | taken
    · -- a queued segment that is not taken has no payload
      have empty : queued.payload = [] := by
        by_contra some
        have carries : (Socket.replay queued).carries = true := by
          simp [TcpSegment.carries, Socket.replay, some]
        have taken := takenBy_of_inOrder receives.receiving window turn.expected noReset
          noSyn carries accepted ack
        rw [ignored.refused] at taken
        cases taken
      rw [empty, List.append_nil] at bytes
      exact ⟨position, receives.ignored cuts ignored.refused turn.tcp bytes subset⟩
    · exact ⟨_, receives.filled short cuts taken turn.tcp bytes subset⟩
  · rcases cause with ⟨error, failed⟩ | full
    · refine ⟨⟨position, ?_⟩, ?_⟩
      · refine receives.ignored cuts ?_ turn.tcp ?_ subset
        · rw [failed]
          rfl
        · rw [Socket.queued, rx, Socket.queued]
      · rw [rx]
        omega
    · have positive := List.length_pos_of_mem turn.member
      omega

variable {source : Endpoint}

theorem Receives.drain
    (short : stream.length + 1 < 2 ^ 32) (roomy : Roomy socket) (turns : Nat) (action : TcpAction) :
    ∃ reached,
      Receives stream base returned reached (Socket.drain source turns socket action).1 := by
  have invariant :
      (∃ reached,
        Receives stream base returned reached (Socket.drain source turns socket action).1) ∧
        Roomy (Socket.drain source turns socket action).1 := by
    refine drain_invariant
      (fun current => (∃ reached, Receives stream base returned reached current) ∧ Roomy current)
      ?_ ⟨⟨position, receives⟩, roomy⟩
    rintro current _ _ ⟨⟨reached, receives⟩, roomy⟩ turn
    obtain ⟨_, replayed⟩ := replayed_of_replayNext turn
    exact receives.replayed short roomy replayed
  exact invariant.1

theorem Receives.processInOrder (short : stream.length + 1 < 2 ^ 32)
    (room : socket.rx.length + socket.outOfOrder.length < maxRxPackets)
    (cuts : Cuts stream base start segment) :
    ∃ reached, Receives stream base returned reached (socket.processInOrder source segment).1 := by
  fun_cases Socket.processInOrder with
  | case1 outcome advanced error failed =>
    refine ⟨position, receives.ignored cuts ?_ rfl rfl (List.Subset.refl _)⟩
    rw [failed]
    rfl
  | case2 outcome advanced action accepted payload error full =>
    have noRoom := full_of_queuePayload full
    change maxRxPackets ≤ socket.rx.length at noRoom
    omega
  | case3 outcome advanced action accepted payload filled queues =>
    have takes : takenBy outcome.2 = action.takesPayload := by
      rw [accepted]
      rfl
    obtain ⟨same, bytes, length⟩ := filled_of_queuePayload queues
    have tcp := congrArg Socket.tcp same
    have outOfOrder := congrArg Socket.outOfOrder same
    change filled.outOfOrder = socket.outOfOrder at outOfOrder
    change filled.rx.length ≤ socket.rx.length + 1 at length
    have roomy : Roomy filled := by
      unfold Roomy
      rw [outOfOrder]
      omega
    have subset : filled.outOfOrder ⊆ socket.outOfOrder := outOfOrder ▸ List.Subset.refl _
    rcases (onSegment_effect segment receives.receiving).data with
      ignored | taken
    · have nothing : payload = [] := if_neg (Bool.eq_false_iff.mp (takes ▸ ignored.refused))
      rw [nothing, List.append_nil] at bytes
      exact (receives.ignored cuts ignored.refused tcp bytes subset).drain short roomy _ _
    · have whole : payload = segment.payload := if_pos (takes ▸ taken.accepted)
      rw [whole] at bytes
      exact (receives.filled short cuts taken tcp bytes subset).drain short roomy _ _

theorem Receives.queueOutOfOrder
    (cuts : Cuts stream base start segment) (window : socket.tcp.rcvWnd ≠ 0)
    (queues : socket.queueOutOfOrder segment = .ok next) :
    Receives stream base returned position next := by
  obtain ⟨same, members⟩ := queueOutOfOrder_cases queues
  rw [same]
  refine ⟨receives.receiving, receives.irs, receives.rcvNxt, receives.within,
    receives.bytes, ?_, fun _ => window⟩
  intro queued member
  rcases members queued member with old | ⟨at_, payload, fin⟩
  · exact receives.held queued old
  · rw [at_, payload, fin]
    exact ⟨start, cuts.sequence, cuts.piece⟩

theorem Receives.processTcpIngress (short : stream.length + 1 < 2 ^ 32)
    (room : socket.rx.length + socket.outOfOrder.length < maxRxPackets)
    (cuts : Cuts stream base start segment) :
    ∃ reached,
      Receives stream base returned reached (socket.processTcpIngress source segment).1 := by
  fun_cases Socket.processTcpIngress with
  | case2 _ near _ queues =>
    have window : socket.tcp.rcvWnd ≠ 0 := by
      intro zero
      rw [zero] at near
      exact Nat.not_lt_zero _ near
    exact ⟨position, receives.queueOutOfOrder cuts window queues⟩
  | case4 => exact receives.processInOrder short room cuts
  | _ => exact ⟨position, receives⟩

theorem Receives.settled (settled : Socket.Settled socket next) :
    Receives stream base returned position next := by
  refine ⟨?_, ?_, ?_, receives.within, ?_, ?_, ?_⟩
  · rw [settled.tcp]
    exact receives.receiving
  · rw [settled.tcp]
    exact receives.irs
  · rw [settled.tcp]
    exact receives.rcvNxt
  · rw [Socket.queued, settled.rx]
    exact receives.bytes
  · intro queued member
    rcases settled.outOfOrder with same | empty
    · rw [same] at member
      exact receives.held queued member
    · rw [empty] at member
      cases member
  · intro some
    rw [settled.tcp]
    rcases settled.outOfOrder with same | empty
    · rw [same] at some
      exact receives.window some
    · exact absurd empty some

end Receives

end Socket

/-! ## Runs -/

/-- A segment that the peer cuts from its stream. -/
structure Cut where
  position : Nat
  length : Nat
  acknowledgement : Number
  flags : TcpFlags
  window : BitVec 16
deriving DecidableEq

namespace Cut

def segment (cut : Cut) (stream : List UInt8) (base : Number) : TcpSegment where
  sequence := numberAt base cut.position
  acknowledgement := cut.acknowledgement
  flags := cut.flags
  window := cut.window
  payload := (stream.drop cut.position).take cut.length

/-- The cut starts in the stream and only marks the end of the stream. -/
def Fits (cut : Cut) (stream : List UInt8) : Prop :=
  cut.position ≤ stream.length ∧
    contains cut.flags rst = false ∧
    contains cut.flags syn = false ∧
    (contains cut.flags fin = true → stream.length ≤ cut.position + cut.length)

instance (cut : Cut) (stream : List UInt8) : Decidable (cut.Fits stream) :=
  inferInstanceAs (Decidable (_ ∧ _ ∧ _ ∧ (_ → _)))

theorem Fits.cuts {cut : Cut} {stream : List UInt8} (fits : cut.Fits stream) (base : Number) :
    Cuts stream base cut.position (cut.segment stream base) := by
  obtain ⟨within, noReset, noSyn, last⟩ := fits
  refine ⟨noReset, noSyn, rfl, within, ?_, ?_⟩
  · simp [segment]
  · intro fin
    have ended := last fin
    simp only [segment, List.length_take, List.length_drop]
    omega

end Cut

/-- One connection of a table, and what its owner has received so far. -/
structure Reception where
  table : SocketTable
  returned : List UInt8

inductive Arrival where
  | deliver (cut : Cut)
  | receive
deriving DecidableEq

namespace Reception

variable (stream : List UInt8) (handle : SocketHandle)
variable (source destination : Endpoint) (base : Number)

/-- One call.  The peer only sends cuts of its stream. -/
def step (reception : Reception) : Arrival → Option Reception
  | .deliver cut =>
    if cut.Fits stream then
      let outcome := reception.table.deliverTcp source destination (cut.segment stream base) 0
      some { reception with table := outcome.1 }
    else none
  | .receive =>
    match reception.table.receive handle with
    | (table, .error _) => some { reception with table := table }
    | (table, .ok packet) => some ⟨table, reception.returned ++ packet.payload⟩

/-- The receive queue has room for the payload and all segments held. -/
def Admitted (reception : Reception) : Arrival → Prop
  | .deliver _ =>
    reception.table.find handle |>.all fun socket =>
      decide (socket.rx.length + socket.outOfOrder.length < maxRxPackets)
  | .receive => True

instance (reception : Reception) (arrival : Arrival) :
    Decidable (Admitted handle reception arrival) :=
  match arrival with
  | .deliver _ => inferInstanceAs (Decidable (_ = true))
  | .receive => isTrue trivial

/-- The socket of the handle is the connection, newly established. -/
structure Opened (reception : Reception) (socket : Socket) : Prop where
  connection : reception.table.findTcpConnection source destination = some handle.slot
  found : reception.table.find handle = some socket
  established : socket.tcp.state = .established
  rcvNxt : socket.tcp.rcvNxt = base
  irs : socket.tcp.irs + 1 = base
  rx : socket.rx = []
  outOfOrder : socket.outOfOrder = []
  returned : reception.returned = []

/-- What was returned and what is queued is the part of the stream that
`rcv_nxt` has passed. -/
def Intact (reception : Reception) : Prop :=
  ∃ socket, reception.table.find handle = some socket ∧
    (socket.tcp.rcvNxt - socket.tcp.irs - 1).toNat ≤ stream.length + 1 ∧
    reception.returned ++ socket.queued = stream.take (socket.tcp.rcvNxt - socket.tcp.irs - 1).toNat

structure Ongoing (reception : Reception) : Prop where
  connection : reception.table.findTcpConnection source destination = some handle.slot
  receives : ∃ socket position, reception.table.find handle = some socket ∧
    Receives stream base reception.returned position socket

section Steps

variable {stream handle source destination base} {reception next : Reception} {socket : Socket}

theorem Opened.ongoing (opened : Opened handle source destination base reception socket) :
    Ongoing stream handle source destination base reception := by
  refine ⟨opened.connection, socket, 0, opened.found, ?_⟩
  refine ⟨?_, opened.irs, ?_, Nat.zero_le _, ?_, ?_, ?_⟩
  · rw [opened.established]
    rfl
  · rw [opened.rcvNxt]
    exact (numberAt_zero base).symm
  · rw [opened.returned, Socket.queued, opened.rx]
    rfl
  · rw [opened.outOfOrder]
    exact fun _ member => absurd member List.not_mem_nil
  · exact fun some => absurd opened.outOfOrder some

theorem Ongoing.intact (short : stream.length + 1 < 2 ^ 32)
    (ongoing : Ongoing stream handle source destination base reception) :
    Intact stream handle reception := by
  obtain ⟨socket, position, found, receives⟩ := ongoing.receives
  have within := receives.within
  have passed : (socket.tcp.rcvNxt - socket.tcp.irs - 1).toNat = position := by
    have distance := toNat_numberAt_sub base position 0
    rw [numberAt_zero, ← receives.rcvNxt, ← receives.irs, ← sub_sub] at distance
    omega
  refine ⟨socket, found, ?_, ?_⟩
  · rw [passed]
    exact within
  · rw [passed]
    exact receives.bytes

theorem Ongoing.put (ongoing : Ongoing stream handle source destination base reception)
    (found : reception.table.find handle = some socket)
    {changed : Socket} (kept : Socket.Kept socket changed) {returned : List UInt8}
    {position before : Nat} (receives : Receives stream base reception.returned before socket)
    (receivesOn : Receives stream base returned position changed) :
    Ongoing stream handle source destination base
      ⟨reception.table.put handle.slot changed, returned⟩ := by
  have outside {socket : Socket}
      (receiving : isReceiving socket.tcp.state = true) :
      socket.tcp.state ≠ .listen := by
    intro listening
    rw [listening] at receiving
    cases receiving
  refine ⟨?_, changed, position, SocketTable.find_put_self found, receivesOn⟩
  rw [SocketTable.findTcpConnection_put found
    (kept.isConnection (outside receives.receiving) (outside receivesOn.receiving))]
  exact ongoing.connection

theorem Ongoing.deliver (short : stream.length + 1 < 2 ^ 32)
    (ongoing : Ongoing stream handle source destination base reception)
    {cut : Cut} (fits : cut.Fits stream) (admitted : Admitted handle reception (.deliver cut)) :
    Ongoing stream handle source destination base
      { reception with
        table :=
          (reception.table.deliverTcp source destination (cut.segment stream base) 0).1 } := by
  obtain ⟨socket, _, found, receives⟩ := ongoing.receives
  have room : socket.rx.length + socket.outOfOrder.length < maxRxPackets := by
    simp only [Admitted, found, Option.all_some, decide_eq_true_eq] at admitted
    exact admitted
  have connected (after : Socket) : socket.becameConnected after = false := by
    have receiving := receives.receiving
    rw [Socket.becameConnected, decide_eq_false_iff_not]
    rintro ⟨received, _⟩
    rw [received] at receiving
    cases receiving
  rw [SocketTable.deliverTcp_of_connection _ _ ongoing.connection found,
    SocketTable.deliverTcpTo_of_not_promoted _ _ (Or.inr (connected _))]
  obtain ⟨_, processed⟩ := receives.processTcpIngress short room (fits.cuts base)
  exact ongoing.put found (ingress_kept _) receives (processed.settled (ingress_settled _))

theorem Ongoing.receive (ongoing : Ongoing stream handle source destination base reception)
    (stepped : step stream handle source destination base reception .receive = some next) :
    Ongoing stream handle source destination base next := by
  obtain ⟨socket, _, found, receives⟩ := ongoing.receives
  have kept {rx : List ReceivedPacket} {lastError : Option SocketError} :
      Socket.Kept socket { socket with rx := rx, lastError := lastError } :=
    ⟨rfl, rfl, rfl, rfl, rfl, rfl, rfl⟩
  revert stepped
  simp only [step, SocketTable.receive, SocketTable.get_of_find found]
  cases socket.lastError with
  | some =>
    rintro ⟨⟩
    exact ongoing.put found kept receives { receives with }
  | none =>
    cases queued : socket.rx with
    | nil =>
      rintro ⟨⟩
      exact ongoing
    | cons =>
      rintro ⟨⟩
      refine ongoing.put found kept receives { receives with bytes := ?_ }
      have bytes := receives.bytes
      rw [Socket.queued, queued] at bytes
      simpa [Socket.queued] using bytes

theorem Ongoing.step (short : stream.length + 1 < 2 ^ 32)
    (ongoing : Ongoing stream handle source destination base reception)
    {arrival : Arrival} (admitted : Admitted handle reception arrival)
    (stepped : Reception.step stream handle source destination base reception arrival = some next) :
    Ongoing stream handle source destination base next := by
  cases arrival with
  | deliver =>
    simp only [Reception.step] at stepped
    split at stepped
    · next fits =>
      cases stepped
      exact ongoing.deliver short fits admitted
    · cases stepped
  | receive => exact ongoing.receive stepped

end Steps

/-! ## Every run -/

open Execution

/-- Whatever segments arrive, the reader gets the stream of the peer in its
order, without a gap or a repeated byte. -/
theorem stream_intact
    {stream : List UInt8} {handle : SocketHandle} {source destination : Endpoint} {base : Number}
    {start final : Reception} {socket : Socket} {arrivals : List Arrival}
    (short : stream.length + 1 < 2 ^ 32)
    (opened : Opened handle source destination base start socket)
    (guarded :
      Guarded (step stream handle source destination base) (Admitted handle) start arrivals)
    (reached : exec (step stream handle source destination base) start arrivals = some final) :
    Intact stream handle final := by
  have ongoing : Ongoing stream handle source destination base final := invariant_of_guarded
    (fun _ _ _ ongoing admitted stepped => Ongoing.step short ongoing admitted stepped)
    opened.ongoing guarded reached
  exact ongoing.intact short

def serverEndpoint : Endpoint := ⟨0x0a000001#32, 80#16⟩

def clientEndpoint : Endpoint := ⟨0x0a000002#32, 50000#16⟩

/-- An established connection with the next number 501. -/
def establishedSocket : Socket :=
  { Socket.new .tcp with
    localEndpoint := some serverEndpoint
    remote := some clientEndpoint
    tcp :=
      { TcpControlBlock.fresh 65535 with
        state := .established
        iss := 1000
        irs := 500
        sndUna := 1001
        sndNxt := 1001
        rcvNxt := 501
        sndWnd := 65535 } }

def establishedTable : Reception where
  table := ⟨[⟨1, some establishedSocket⟩]⟩
  returned := []

theorem establishedTable_opened :
    Opened ⟨0, 1⟩ clientEndpoint serverEndpoint 501 establishedTable
      establishedSocket :=
  ⟨by decide +kernel, rfl, rfl, rfl, rfl, rfl, rfl, rfl⟩

/-- The cut of some bytes without a FIN. -/
def plainCut (position length : Nat) : Arrival :=
  .deliver ⟨position, length, 1001, ack, 65535⟩

/-- Six bytes out of order, overlapping and twice, with the FIN first. -/
def shuffledArrivals : List Arrival :=
  [.deliver ⟨4, 2, 1001, ack.union fin, 65535⟩,
    plainCut 2 2, plainCut 1 3, plainCut 0 1, .receive, plainCut 0 4, plainCut 2 2, .receive]

theorem shuffledArrivals_intact :
    ∃ final,
      exec
          (step [1, 2, 3, 4, 5, 6] ⟨0, 1⟩ clientEndpoint serverEndpoint 501)
          establishedTable shuffledArrivals = some final ∧
        final.returned = [1, 2, 3, 4] ∧
        Intact [1, 2, 3, 4, 5, 6] ⟨0, 1⟩ final := by
  refine exists_reached (by decide +kernel) fun final reached => ?_
  exact ⟨of_reached reached (by decide +kernel),
    stream_intact (by decide) establishedTable_opened (by decide +kernel) reached⟩

/-- Without a `receive` the 129th segment is acknowledged and lost. -/
theorem stream_not_intact :
    ∃ final socket,
      exec
          (step (List.replicate 129 7) ⟨0, 1⟩ clientEndpoint serverEndpoint 501) establishedTable
          ((List.range 129).map (fun position => plainCut position 1)) =
        some final ∧
      final.table.find ⟨0, 1⟩ = some socket ∧
      (socket.tcp.rcvNxt - socket.tcp.irs - 1).toNat = 129 ∧
      (final.returned ++ socket.queued).length = 128 := by
  have run :
      ∃ final,
        exec
            (step (List.replicate 129 7) ⟨0, 1⟩ clientEndpoint serverEndpoint 501) establishedTable
            ((List.range 129).map (fun position => plainCut position 1)) =
          some final ∧
        ∃ socket, final.table.find ⟨0, 1⟩ = some socket ∧
          (socket.tcp.rcvNxt - socket.tcp.irs - 1).toNat = 129 ∧
          (final.returned ++ socket.queued).length = 128 := by
    decide +kernel
  obtain ⟨final, reached, socket, found, counts⟩ := run
  exact ⟨final, socket, reached, found, counts⟩

end Reception

end Xenith.Net
