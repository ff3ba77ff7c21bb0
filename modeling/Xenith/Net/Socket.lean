import Xenith.Net.Tcp

/-!
# The socket table

The TCP side of `kernel/src/net/socket.rs`.  A failing call may still have
changed the table, so the calls return the table along with their result.
Binding, active opens, datagrams and the ephemeral ports are left out.
-/

namespace Xenith.Net

open Xenith.Sequence
open TcpFlags

def maxSockets : Nat := 1024

def maxRxPackets : Nat := 128

def tcpMss : Nat := 1400

def tcpInitialCwnd : Nat := tcpMss * 4

def tcpInitialSsthresh : Nat := 65535

def tcpInitialRtoNs : Nat := 300000000

def tcpMaxRtoNs : Nat := 4800000000

def tcpMaxRetries : Nat := 6

def maxTcpOutstanding : Nat := 32

def maxOutOfOrderSegments : Nat := 32

def maxOutOfOrderBytes : Nat := 65535

def tcpDetachedTimeoutNs : Nat := 60000000000

structure Endpoint where
  address : BitVec 32
  port : BitVec 16
deriving DecidableEq

inductive SocketKind where
  | udp
  | tcp
  | rawIcmp
deriving DecidableEq

@[ext]
structure SocketHandle where
  slot : Nat
  generation : BitVec 16
deriving DecidableEq

inductive SocketError where
  | tableFull
  | invalidHandle
  | notBound
  | notConnected
  | wrongProtocol
  | invalidState
  | wouldBlock
  | receiveQueueFull
  | connectionReset
  | backlogFull
deriving DecidableEq

structure ReceivedPacket where
  source : Endpoint
  payload : List UInt8
deriving DecidableEq

structure TcpHeader where
  sequence : Number
  acknowledgement : Number
  flags : TcpFlags
  window : BitVec 16
deriving DecidableEq

structure SocketTx where
  protocol : SocketKind
  source : Endpoint
  destination : Endpoint
  payload : List UInt8
  tcp : Option TcpHeader
deriving DecidableEq

structure TcpIngress where
  handle : Option SocketHandle
  source : Endpoint
  destination : Endpoint
  action : TcpAction
deriving DecidableEq

structure TcpOutstanding where
  packet : SocketTx
  sequenceEnd : Number
  sentAt : Nat
  rtoNs : Nat
  retries : Nat
deriving DecidableEq

structure OutOfOrderSegment where
  sequence : Number
  acknowledgement : Number
  window : BitVec 16
  payload : List UInt8
  fin : Bool
deriving DecidableEq

/-- A socket.  The source has a control block in TCP sockets only; here the
others hold the closed one, which nothing reads. -/
structure Socket where
  kind : SocketKind
  localEndpoint : Option Endpoint
  remote : Option Endpoint
  tcp : TcpControlBlock
  rx : List ReceivedPacket
  pending : List SocketHandle
  parentListener : Option SocketHandle
  listenBacklog : Nat
  lastError : Option SocketError
  outstanding : List TcpOutstanding
  outOfOrder : List OutOfOrderSegment
  congestionWindow : Nat
  slowStartThreshold : Nat
  duplicateAcks : Nat
  detachedAt : Option Nat
deriving DecidableEq

/-! ## One socket -/

namespace Socket

def new (kind : SocketKind) : Socket where
  kind := kind
  localEndpoint := none
  remote := none
  tcp := TcpControlBlock.fresh 65535
  rx := []
  pending := []
  parentListener := none
  listenBacklog := 0
  lastError := none
  outstanding := []
  outOfOrder := []
  congestionWindow := tcpInitialCwnd
  slowStartThreshold := tcpInitialSsthresh
  duplicateAcks := 0
  detachedAt := none

def queueRx (socket : Socket) (packet : ReceivedPacket) : Except SocketError Socket :=
  if maxRxPackets ≤ socket.rx.length then .error .receiveQueueFull
  else .ok { socket with rx := socket.rx ++ [packet] }

/-- The payload is queued when there is some. -/
def queuePayload (socket : Socket) (source : Endpoint) (payload : List UInt8) :
    Except SocketError Socket :=
  if payload = [] then .ok socket else socket.queueRx ⟨source, payload⟩

def queueOutOfOrder (socket : Socket) (segment : TcpSegment) : Except SocketError Socket :=
  if socket.outOfOrder.any (fun queued => queued.sequence = segment.sequence)
  then .ok socket
  else if maxOutOfOrderSegments ≤ socket.outOfOrder.length ∨
      maxOutOfOrderBytes <
        (socket.outOfOrder.map (fun queued => queued.payload.length)).sum +
          segment.payload.length then
    .error .receiveQueueFull
  else
    let queued : OutOfOrderSegment :=
      { sequence := segment.sequence
        acknowledgement := segment.acknowledgement
        window := segment.window
        payload := segment.payload
        fin := segment.has fin }
    let index :=
      socket.outOfOrder.findIdx (fun existing => after existing.sequence segment.sequence)
    .ok { socket with outOfOrder := socket.outOfOrder.insertIdx index queued }

/-- The segment that is replayed for a queued one. -/
def replay (queued : OutOfOrderSegment) : TcpSegment where
  sequence := queued.sequence
  acknowledgement := queued.acknowledgement
  flags := if queued.fin then ack.union fin else ack
  window := queued.window
  payload := queued.payload

/-- One turn of the loop of `process_tcp_ingress`; `none` when no queued
segment is next. -/
def replayNext (socket : Socket) (source : Endpoint) :
    Option (Socket × Except SocketError TcpAction) :=
  let expected (queued : OutOfOrderSegment) : Bool := decide (queued.sequence = socket.tcp.rcvNxt)
  match socket.outOfOrder.find? expected with
  | none => none
  | some queued =>
    let outcome := socket.tcp.onSegment (replay queued)
    let replayed :=
      { socket with outOfOrder := socket.outOfOrder.eraseP expected, tcp := outcome.1 }
    match outcome.2 with
    | .error _ => some (replayed, .error .invalidState)
    | .ok action =>
      match replayed.queuePayload source queued.payload with
      | .error error => some (replayed, .error error)
      | .ok filled => some (filled, .ok action)

/-- The loop of `process_tcp_ingress`.  Every turn removes a queued segment, so
their number bounds the turns. -/
def drain (source : Endpoint) : Nat → Socket → TcpAction → Socket × Except SocketError TcpAction
  | 0, socket, action => (socket, .ok action)
  | turns + 1, socket, action =>
    match socket.replayNext source with
    | none => (socket, .ok action)
    | some (next, .error error) => (next, .error error)
    | some (next, .ok queuedAction) => drain source turns next queuedAction

def canReorder : TcpState → Bool
  | .established => true
  | .finWait1 => true
  | .finWait2 => true
  | .closeWait => true
  | _ => false

/-- The part of `process_tcp_ingress` behind the check for a gap. -/
def processInOrder (socket : Socket) (source : Endpoint) (segment : TcpSegment) :
    Socket × Except SocketError TcpAction :=
  let outcome := socket.tcp.onSegment segment
  let advanced := { socket with tcp := outcome.1 }
  match outcome.2 with
  | .error _ => (advanced, .error .invalidState)
  | .ok action =>
    let payload := if action.takesPayload then segment.payload else []
    match advanced.queuePayload source payload with
    | .error error => (advanced, .error error)
    | .ok filled => drain source filled.outOfOrder.length filled action

def processTcpIngress (socket : Socket) (source : Endpoint) (segment : TcpSegment) :
    Socket × Except SocketError TcpAction :=
  if canReorder socket.tcp.state ∧ segment.carries ∧ after segment.sequence socket.tcp.rcvNxt then
    if (segment.sequence - socket.tcp.rcvNxt).toNat < socket.tcp.rcvWnd.toNat then
      match socket.queueOutOfOrder segment with
      | .error error => (socket, .error error)
      | .ok queued => (queued, .ok (.send queued.tcp.ackReply))
    else (socket, .ok (.send socket.tcp.ackReply))
  else socket.processInOrder source segment

def acknowledgeTransmissions (socket : Socket) (segment : TcpSegment) (previousUna : Number) :
    Socket :=
  if segment.has ack = false then socket
  else
    let sndUna := socket.tcp.sndUna
    let acknowledges (entry : TcpOutstanding) : Bool := !after entry.sequenceEnd sndUna
    let acknowledged :=
      (socket.outstanding.takeWhile acknowledges).foldl
        (fun sum entry => clampLength (sum + max (clampLength entry.packet.payload.length) 1)) 0
    let remaining := { socket with outstanding := socket.outstanding.dropWhile acknowledges }
    if after sndUna previousUna then
      if socket.congestionWindow < socket.slowStartThreshold then
        { remaining with
          duplicateAcks := 0
          congestionWindow :=
            min (clampLength (socket.congestionWindow + max acknowledged 1)) 65535 }
      else
        let increase := max (tcpMss * tcpMss / max socket.congestionWindow 1) 1
        { remaining with
          duplicateAcks := 0
          congestionWindow := min (clampLength (socket.congestionWindow + increase)) 65535 }
    else if remaining.outstanding ≠ [] ∧ segment.payload = [] ∧
        segment.acknowledgement = sndUna then
      { remaining with duplicateAcks := min (socket.duplicateAcks + 1) 255 }
    else remaining

/-- What `deliver_tcp_to` does with the selected socket. -/
def ingress (socket : Socket) (source : Endpoint) (segment : TcpSegment) :
    Socket × Except SocketError TcpAction :=
  let outcome := socket.processTcpIngress source segment
  match outcome.2 with
  | .error error => (outcome.1, .error error)
  | .ok action =>
    let acknowledged := outcome.1.acknowledgeTransmissions segment socket.tcp.sndUna
    if action = .reset then
      ({ acknowledged with
          lastError := some .connectionReset
          outstanding := []
          outOfOrder := [] },
        .ok action)
    else (acknowledged, .ok action)

/-- The segment completed the handshake of a passive open. -/
def becameConnected (before after : Socket) : Bool :=
  decide (before.tcp.state = .synReceived ∧ after.tcp.state = .established)

def buildTcpTx (socket : Socket) (reply : TcpReply) (payload : List UInt8) :
    Except SocketError SocketTx :=
  match socket.localEndpoint with
  | none => .error .notBound
  | some source =>
    match socket.remote with
    | none => .error .notConnected
    | some destination =>
      .ok
        { protocol := .tcp
          source := source
          destination := destination
          payload := payload
          tcp :=
            some
              { sequence := reply.sequence
                acknowledgement := reply.acknowledgement
                flags := reply.flags
                window := socket.tcp.rcvWnd } }

/-- The address filter of the lookups. -/
def isBoundTo (socket : Socket) (destination : Endpoint) : Bool :=
  match socket.localEndpoint with
  | none => false
  | some bound =>
    decide
      (bound.port = destination.port ∧ (bound.address = 0 ∨ bound.address = destination.address))

def isConnection (socket : Socket) (source destination : Endpoint) : Bool :=
  decide (socket.kind = .tcp) && socket.isBoundTo destination &&
    decide (socket.remote = some source) &&
    decide (socket.tcp.state ≠ .listen)

def isListener (socket : Socket) (destination : Endpoint) : Bool :=
  decide (socket.kind = .tcp) && socket.isBoundTo destination && decide (socket.tcp.state = .listen)

/-- What `poll_retransmissions` does with the first unacknowledged segment. -/
def retransmit (socket : Socket) (now : Nat) : Socket × Option SocketTx :=
  match socket.outstanding with
  | [] => (socket, none)
  | front :: rest =>
    if now - front.sentAt < front.rtoNs ∧ socket.duplicateAcks < 3 then (socket, none)
    else if tcpMaxRetries ≤ front.retries then
      ({ socket with
          lastError := some .connectionReset
          outstanding := []
          outOfOrder := []
          tcp := TcpControlBlock.fresh socket.tcp.rcvWnd },
        none)
    else
      ({ socket with
          slowStartThreshold := max (socket.congestionWindow / 2) (tcpMss * 2)
          congestionWindow := tcpMss
          duplicateAcks := 0
          outstanding :=
            { front with
              retries := min (front.retries + 1) 255
              sentAt := now
              rtoNs := min (front.rtoNs * 2) tcpMaxRtoNs } :: rest },
        some front.packet)

/-- A detached socket that is closed or has been kept long enough. -/
def isReaped (socket : Socket) (now : Nat) : Bool :=
  match socket.detachedAt with
  | none => false
  | some detachedAt => decide (socket.tcp.state = .closed ∨ tcpDetachedTimeoutNs ≤ now - detachedAt)

end Socket

/-! ## The table -/

structure Slot where
  generation : BitVec 16
  socket : Option Socket
deriving DecidableEq

structure SocketTable where
  slots : List Slot
deriving DecidableEq

/-- The generation behind a removal. -/
def nextGeneration (generation : BitVec 16) : BitVec 16 :=
  if generation + 1 = 0 then 1 else generation + 1

def Slot.vacate (slot : Slot) : Slot where
  generation := nextGeneration slot.generation
  socket := none

/-- One slot under `poll_retransmissions`. -/
def Slot.poll (now : Nat) (slot : Slot) : Slot × Option SocketTx :=
  match slot.socket with
  | none => (slot, none)
  | some socket =>
    if socket.isReaped now then (slot.vacate, none)
    else if socket.kind ≠ .tcp then (slot, none)
    else
      let outcome := socket.retransmit now
      ({ slot with socket := some outcome.1 }, outcome.2)

namespace SocketTable

/-- The socket of a handle that is still valid. -/
def find (table : SocketTable) (handle : SocketHandle) : Option Socket :=
  match table.slots[handle.slot]? with
  | none => none
  | some slot => if slot.generation = handle.generation then slot.socket else none

def get (table : SocketTable) (handle : SocketHandle) : Except SocketError Socket :=
  match table.find handle with
  | none => .error .invalidHandle
  | some socket => .ok socket

def put (table : SocketTable) (index : Nat) (socket : Socket) : SocketTable :=
  ⟨table.slots.modify index (fun slot => { slot with socket := some socket })⟩

def vacate (table : SocketTable) (index : Nat) : SocketTable :=
  ⟨table.slots.modify index Slot.vacate⟩

def handleAt (table : SocketTable) (index : Nat) : SocketHandle where
  slot := index
  generation := (table.slots[index]?.map Slot.generation).getD 0

def create (table : SocketTable) (kind : SocketKind) :
    SocketTable × Except SocketError SocketHandle :=
  match table.slots.findIdx? (fun slot => slot.socket.isNone) with
  | some index => (table.put index (Socket.new kind), .ok (table.handleAt index))
  | none =>
    if maxSockets ≤ table.slots.length then (table, .error .tableFull)
    else (⟨table.slots ++ [⟨1, some (Socket.new kind)⟩]⟩, .ok ⟨table.slots.length, 1⟩)

/-- The sockets that a listener has not handed out, in slot order. -/
def childrenOf (table : SocketTable) (handle : SocketHandle) : List SocketHandle :=
  ((List.range table.slots.length).map table.handleAt).filter fun child =>
    match table.find child with
    | none => false
    | some socket => decide (socket.parentListener = some handle)

/-- `discard` with a bound on the depth of its recursion. -/
def discardWithin : Nat → SocketTable → SocketHandle → SocketTable × Except SocketError Unit
  | 0, table, _ => (table, .error .invalidHandle)
  | depth + 1, table, handle =>
    match table.get handle with
    | .error error => (table, .error error)
    | .ok _ =>
      ((table.childrenOf handle).foldl
          (fun remaining child => (discardWithin depth remaining child).1)
          (table.vacate handle.slot),
        .ok ())

/-- Each level of the recursion removes a socket. -/
def discard (table : SocketTable) (handle : SocketHandle) : SocketTable × Except SocketError Unit :=
  discardWithin (table.slots.length + 1) table handle

def close (table : SocketTable) (handle : SocketHandle) :
    SocketTable × Except SocketError (Option SocketTx) :=
  match table.get handle with
  | .error error => (table, .error error)
  | .ok socket =>
    if socket.kind = .tcp ∧ (socket.tcp.state = .established ∨ socket.tcp.state = .closeWait) then
      match socket.tcp.close with
      | .error _ => (table, .error .invalidState)
      | .ok (tcp, reply) =>
        let closing := { socket with tcp := tcp }
        let changed := table.put handle.slot closing
        match closing.buildTcpTx reply [] with
        | .error error => (changed, .error error)
        | .ok packet => (changed, .ok (some packet))
    else
      match table.discard handle with
      | (changed, .error error) => (changed, .error error)
      | (changed, .ok ()) => (changed, .ok none)

def accept (table : SocketTable) (listener : SocketHandle) :
    SocketTable × Except SocketError SocketHandle :=
  match table.get listener with
  | .error error => (table, .error error)
  | .ok socket =>
    if socket.kind ≠ .tcp then (table, .error .wrongProtocol)
    else if socket.tcp.state ≠ .listen then (table, .error .invalidState)
    else
      match socket.pending with
      | [] => (table, .error .wouldBlock)
      | child :: rest =>
        let popped := table.put listener.slot { socket with pending := rest }
        match popped.get child with
        | .error error => (popped, .error error)
        | .ok accepted =>
          (popped.put child.slot { accepted with parentListener := none }, .ok child)

def receive (table : SocketTable) (handle : SocketHandle) :
    SocketTable × Except SocketError ReceivedPacket :=
  match table.get handle with
  | .error error => (table, .error error)
  | .ok socket =>
    match socket.lastError with
    | some error => (table.put handle.slot { socket with lastError := none }, .error error)
    | none =>
      match socket.rx with
      | [] => (table, .error .wouldBlock)
      | packet :: rest => (table.put handle.slot { socket with rx := rest }, .ok packet)

def findTcpConnection (table : SocketTable) (source destination : Endpoint) : Option Nat :=
  table.slots.findIdx? fun slot =>
    slot.socket.any (fun socket => socket.isConnection source destination)

def findTcpListener (table : SocketTable) (destination : Endpoint) : Option Nat :=
  table.slots.findIdx? fun slot => slot.socket.any (fun socket => socket.isListener destination)

/-- A connected child is handed to its listener. -/
def promote (table : SocketTable) (parent handle : SocketHandle) :
    SocketTable × Except SocketError Unit :=
  match table.get parent with
  | .error error => ((table.discard handle).1, .error error)
  | .ok listener =>
    if listener.listenBacklog ≤ listener.pending.length then
      ((table.discard handle).1, .error .backlogFull)
    else (table.put parent.slot { listener with pending := listener.pending ++ [handle] }, .ok ())

/-- `deliver_tcp_to`, with the socket in the selected slot. -/
def deliverTcpTo (table : SocketTable) (index : Nat) (socket : Socket)
    (source destination : Endpoint) (segment : TcpSegment) :
    SocketTable × Except SocketError TcpIngress :=
  let handle := table.handleAt index
  let outcome := socket.ingress source segment
  let advanced := table.put index outcome.1
  match outcome.2 with
  | .error error => (advanced, .error error)
  | .ok action =>
    let delivered : TcpIngress := ⟨some handle, source, destination, action⟩
    match outcome.1.parentListener with
    | none => (advanced, .ok delivered)
    | some parent =>
      if socket.becameConnected outcome.1 then
        match advanced.promote parent handle with
        | (promoted, .error error) => (promoted, .error error)
        | (promoted, .ok ()) => (promoted, .ok delivered)
      else (advanced, .ok delivered)

/-- The socket that `deliver_tcp` creates for a SYN. -/
def newChild (listener : SocketHandle) (source destination : Endpoint)
    (initialSequence : Number) : Socket :=
  { Socket.new .tcp with
    localEndpoint := some destination
    remote := some source
    parentListener := some listener
    tcp :=
      { TcpControlBlock.fresh 65535 with
        iss := initialSequence
        sndUna := initialSequence
        sndNxt := initialSequence
        state := .listen } }

/-- The answer of `deliver_tcp` without a socket. -/
def refuse (source destination : Endpoint) (segment : TcpSegment) : TcpIngress :=
  ⟨none, source, destination, TcpControlBlock.onClosedSegment segment⟩

/-- The segment opens a connection at the listener of its destination. -/
def isOpening (segment : TcpSegment) : Bool :=
  segment.has syn && !segment.has ack

/-- `deliver_tcp`, with the initial sequence number drawn for a new socket. -/
def deliverTcp (table : SocketTable) (source destination : Endpoint)
    (segment : TcpSegment) (initialSequence : Number) :
    SocketTable × Except SocketError TcpIngress :=
  match table.findTcpConnection source destination with
  | some index =>
    match table.find (table.handleAt index) with
    | none => (table, .error .invalidHandle)
    | some socket => table.deliverTcpTo index socket source destination segment
  | none =>
    match table.findTcpListener destination with
    | none => (table, .ok (refuse source destination segment))
    | some listenerIndex =>
      if isOpening segment = false then (table, .ok (refuse source destination segment))
      else
        match table.create .tcp with
        | (unchanged, .error error) => (unchanged, .error error)
        | (created, .ok child) =>
          let socket := newChild (table.handleAt listenerIndex) source destination initialSequence
          (created.put child.slot socket).deliverTcpTo child.slot socket source destination segment

def trackTransmission (table : SocketTable) (handle : SocketHandle) (packet : SocketTx)
    (now : Nat) : SocketTable × Except SocketError Unit :=
  if packet.protocol ≠ .tcp then (table, .ok ())
  else
    match packet.tcp with
    | none => (table, .error .invalidState)
    | some header =>
      let sequenceLen :=
        clampLength (clampLength packet.payload.length +
          ((header.flags.contains syn).toNat + (header.flags.contains fin).toNat))
      if sequenceLen = 0 then (table, .ok ())
      else
        let sequenceEnd := header.sequence + BitVec.ofNat 32 sequenceLen
        match table.get handle with
        | .error error => (table, .error error)
        | .ok socket =>
          if socket.kind ≠ .tcp then (table, .error .wrongProtocol)
          else if after sequenceEnd socket.tcp.sndUna = false then (table, .ok ())
          else
            let isSame (existing : TcpOutstanding) : Bool :=
              decide (existing.sequenceEnd = sequenceEnd) &&
                existing.packet.tcp.any (fun queued =>
                  decide (queued.sequence = header.sequence ∧ queued.flags = header.flags))
            match socket.outstanding.findIdx? isSame with
            | some index =>
              (table.put handle.slot
                  { socket with
                    outstanding := socket.outstanding.modify index
                      (fun existing => { existing with sentAt := now }) },
                .ok ())
            | none =>
              if maxTcpOutstanding ≤ socket.outstanding.length then (table, .error .wouldBlock)
              else
                (table.put handle.slot
                    { socket with
                      duplicateAcks :=
                        if socket.outstanding = [] then 0
                        else socket.duplicateAcks
                      outstanding :=
                        socket.outstanding ++
                          [{ packet := packet
                             sequenceEnd := sequenceEnd
                             sentAt := now
                             rtoNs := tcpInitialRtoNs
                             retries := 0 }] },
                  .ok ())

def pollRetransmissions (table : SocketTable) (now : Nat) : SocketTable × List SocketTx :=
  (⟨table.slots.map (fun slot => (slot.poll now).1)⟩,
    table.slots.filterMap (fun slot => (slot.poll now).2))

/-! ## Slots and handles -/

section Slots

variable {table : SocketTable} {handle : SocketHandle} {socket changed : Socket}

theorem find_eq_some :
    table.find handle = some socket ↔
      table.slots[handle.slot]? = some ⟨handle.generation, some socket⟩ := by
  unfold find
  cases table.slots[handle.slot]? with
  | none => simp
  | some slot =>
    obtain ⟨generation, _⟩ := slot
    simp only
    split
    · next same => simp [same]
    · next different => simp [different]

theorem get_of_find (found : table.find handle = some socket) : table.get handle = .ok socket := by
  rw [get, found]

theorem find_of_get (got : table.get handle = .ok socket) : table.find handle = some socket := by
  revert got
  fun_cases get with
  | case1 => rintro ⟨⟩
  | case2 _ found =>
    rintro ⟨⟩
    exact found

theorem handleAt_of_find (found : table.find handle = some socket) :
    table.handleAt handle.slot = handle := by
  rw [handleAt, find_eq_some.mp found]
  rfl

theorem find_handleAt {index : Nat} {slot : Slot} (present : table.slots[index]? = some slot) :
    table.find (table.handleAt index) = slot.socket := by
  simp [find, handleAt, present]

theorem find_put_self (found : table.find handle = some socket) :
    (table.put handle.slot changed).find handle = some changed := by
  rw [find_eq_some] at found ⊢
  simp [put, found]

end Slots

end SocketTable

end Xenith.Net
