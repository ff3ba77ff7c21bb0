import Xenith.Lib.Sequence

/-!
# The TCP control block

The connection state machine of `kernel/src/net/tcp.rs`.  A call that returns
an error may still have changed the control block.  The fields of a segment
that the state machine does not read are left out.
-/

namespace Xenith.Net

open Xenith.Sequence

abbrev TcpFlags := BitVec 16

namespace TcpFlags

def fin : TcpFlags := 0x01#16

def syn : TcpFlags := 0x02#16

def rst : TcpFlags := 0x04#16

def ack : TcpFlags := 0x10#16

def contains (flags other : TcpFlags) : Bool :=
  decide (flags &&& other = other)

def union (flags other : TcpFlags) : TcpFlags :=
  flags ||| other

end TcpFlags

open TcpFlags

structure TcpSegment where
  sequence : Number
  acknowledgement : Number
  flags : TcpFlags
  window : BitVec 16
  payload : List UInt8
deriving DecidableEq

/-- A length as a `u32`, the greatest one if it does not fit. -/
def clampLength (length : Nat) : Nat :=
  min length (2 ^ 32 - 1)

namespace TcpSegment

def has (segment : TcpSegment) (flag : TcpFlags) : Bool :=
  contains segment.flags flag

def sequenceLen (segment : TcpSegment) : Nat :=
  clampLength
    (clampLength segment.payload.length + ((segment.has syn).toNat + (segment.has fin).toNat))

def carries (segment : TcpSegment) : Bool :=
  decide (segment.payload ≠ []) || segment.has fin

end TcpSegment

inductive TcpState where
  | closed
  | listen
  | synSent
  | synReceived
  | established
  | finWait1
  | finWait2
  | closeWait
  | closing
  | lastAck
  | timeWait
deriving DecidableEq, Repr

structure TcpReply where
  sequence : Number
  acknowledgement : Number
  flags : TcpFlags
deriving DecidableEq

inductive TcpAction where
  | none
  | send (reply : TcpReply)
  | connected (reply : Option TcpReply)
  | deliver (length : Nat) (reply : Option TcpReply)
  | peerClosed (reply : TcpReply)
  | closed
  | reset
deriving DecidableEq

/-- The actions with which the socket takes the payload of the segment over. -/
def TcpAction.takesPayload : TcpAction → Bool
  | .deliver _ _ => true
  | .peerClosed _ => true
  | _ => false

inductive TcpStateError where
  | invalidState
  | invalidAcknowledgement
  | unacceptableSequence
deriving DecidableEq, Repr

structure TcpControlBlock where
  state : TcpState
  iss : Number
  irs : Number
  sndUna : Number
  sndNxt : Number
  rcvNxt : Number
  sndWnd : BitVec 16
  rcvWnd : BitVec 16
deriving DecidableEq

def seqInWindow (sequence start : Number) (window : BitVec 16) : Bool :=
  !before sequence start && before sequence (start + window.setWidth 32)

namespace TcpControlBlock

/-- `TcpControlBlock::closed` -/
def fresh (receiveWindow : BitVec 16) : TcpControlBlock where
  state := .closed
  iss := 0
  irs := 0
  sndUna := 0
  sndNxt := 0
  rcvNxt := 0
  sndWnd := 0
  rcvWnd := receiveWindow

def listen (tcb : TcpControlBlock) (initialSequence : Number) :
    Except TcpStateError TcpControlBlock :=
  if tcb.state ≠ .closed then .error .invalidState
  else
    .ok
      { tcb with
        iss := initialSequence
        sndUna := initialSequence
        sndNxt := initialSequence
        state := .listen }

def connect (tcb : TcpControlBlock) (initialSequence : Number) :
    Except TcpStateError (TcpControlBlock × TcpReply) :=
  if tcb.state ≠ .closed then .error .invalidState
  else
    .ok
      ({ tcb with
          iss := initialSequence
          sndUna := initialSequence
          sndNxt := initialSequence + 1
          state := .synSent },
        ⟨initialSequence, 0, syn⟩)

/-- The state behind `close`, in the states that can be closed. -/
def closeState : TcpState → Option TcpState
  | .established => some .finWait1
  | .closeWait => some .lastAck
  | _ => none

def close (tcb : TcpControlBlock) : Except TcpStateError (TcpControlBlock × TcpReply) :=
  match closeState tcb.state with
  | none => .error .invalidState
  | some next =>
    .ok ({ tcb with sndNxt := tcb.sndNxt + 1, state := next },
      ⟨tcb.sndNxt, tcb.rcvNxt, fin.union ack⟩)

def ackReply (tcb : TcpControlBlock) : TcpReply :=
  ⟨tcb.sndNxt, tcb.rcvNxt, ack⟩

def segmentAcceptable (tcb : TcpControlBlock) (segment : TcpSegment) : Bool :=
  let length := segment.sequenceLen
  if tcb.rcvWnd = 0 then decide (length = 0) && decide (segment.sequence = tcb.rcvNxt)
  else if length = 0 then seqInWindow segment.sequence tcb.rcvNxt tcb.rcvWnd
  else
    seqInWindow segment.sequence tcb.rcvNxt tcb.rcvWnd ||
      seqInWindow (segment.sequence + BitVec.ofNat 32 (length - 1)) tcb.rcvNxt tcb.rcvWnd

/-- What `on_segment` does in the state `Closed`. -/
def onClosedSegment (segment : TcpSegment) : TcpAction :=
  if segment.has rst then .none
  else if segment.has ack then .send ⟨segment.acknowledgement, 0, rst⟩
  else .send ⟨0, segment.sequence + BitVec.ofNat 32 segment.sequenceLen, rst.union ack⟩

def onListenSegment (tcb : TcpControlBlock) (segment : TcpSegment) : TcpControlBlock × TcpAction :=
  if segment.has rst then (tcb, .none)
  else if segment.has ack then (tcb, .send ⟨segment.acknowledgement, 0, rst⟩)
  else if segment.has syn = false then (tcb, .none)
  else
    ({ tcb with
        irs := segment.sequence
        rcvNxt := segment.sequence + 1
        sndUna := tcb.iss
        sndNxt := tcb.iss + 1
        sndWnd := segment.window
        state := .synReceived },
      .send ⟨tcb.iss, segment.sequence + 1, syn.union ack⟩)

/-- The control block behind an accepted SYN in the state `SynSent`. -/
def onSynSentSyn (tcb : TcpControlBlock) (segment : TcpSegment) : TcpControlBlock × TcpAction :=
  let received : TcpControlBlock :=
    { tcb with
      irs := segment.sequence
      rcvNxt := segment.sequence + 1
      sndWnd := segment.window
      sndUna :=
        if segment.has ack then segment.acknowledgement
        else tcb.sndUna }
  if segment.has ack ∧ after received.sndUna received.iss then
    let connected := { received with state := .established }
    (connected, .connected (some connected.ackReply))
  else
    ({ received with state := .synReceived }, .send ⟨received.iss, received.rcvNxt, syn.union ack⟩)

def onSynSentSegment (tcb : TcpControlBlock) (segment : TcpSegment) : TcpControlBlock × TcpAction :=
  if segment.has ack ∧
      (beforeEq segment.acknowledgement tcb.iss ∨ after segment.acknowledgement tcb.sndNxt) then
    if segment.has rst then (tcb, .none)
    else (tcb, .send ⟨segment.acknowledgement, 0, rst⟩)
  else if segment.has rst then
    if segment.has ack then ({ tcb with state := .closed }, .reset)
    else (tcb, .none)
  else if segment.has syn = false then (tcb, .none)
  else onSynSentSyn tcb segment

def finState : TcpState → TcpState
  | .established => .closeWait
  | .synReceived => .closeWait
  | .finWait1 => .closing
  | .finWait2 => .timeWait
  | state => state

/-- The end of `on_segment`: payload and FIN. -/
def onData (tcb : TcpControlBlock) (segment : TcpSegment) : TcpControlBlock × TcpAction :=
  if segment.sequence ≠ tcb.rcvNxt ∧ segment.carries then (tcb, .send tcb.ackReply)
  else
    let delivered := segment.payload.length
    let received := { tcb with rcvNxt := tcb.rcvNxt + BitVec.ofNat 32 (clampLength delivered) }
    if segment.has fin then
      let finished :=
        { received with rcvNxt := received.rcvNxt + 1, state := finState received.state }
      (finished, .peerClosed finished.ackReply)
    else if delivered ≠ 0 then (received, .deliver delivered (some received.ackReply))
    else (received, .none)

/-- The part of `on_segment` between the acknowledgement and the data, from
the state `SynReceived` on behind its promotion. -/
def onAcknowledged (tcb : TcpControlBlock) (segment : TcpSegment) : TcpControlBlock × TcpAction :=
  let whole := segment.acknowledgement = tcb.sndNxt
  if tcb.state = .finWait1 ∧ whole then onData { tcb with state := .finWait2 } segment
  else if tcb.state = .closing ∧ whole then ({ tcb with state := .timeWait }, .closed)
  else if tcb.state = .lastAck ∧ whole then ({ tcb with state := .closed }, .closed)
  else onData tcb segment

/-- The control block behind the acknowledgement of a segment. -/
def acknowledge (tcb : TcpControlBlock) (segment : TcpSegment) : TcpControlBlock :=
  { tcb with
    sndUna :=
      if after segment.acknowledgement tcb.sndUna then segment.acknowledgement
      else tcb.sndUna
    sndWnd := segment.window }

/-- The acknowledgement in the state `SynReceived`. -/
def onHandshake (tcb : TcpControlBlock) (segment : TcpSegment) :
    TcpControlBlock × Except TcpStateError TcpAction :=
  let acknowledged := tcb.acknowledge segment
  if segment.acknowledgement ≠ acknowledged.sndNxt then
    (acknowledged, .error .invalidAcknowledgement)
  else
    let promoted := { acknowledged with state := .established }
    if segment.carries = false then (promoted, .ok (.connected none))
    else
      let result := onAcknowledged promoted segment
      (result.1, .ok result.2)

/-- `on_segment` in the states from `SynReceived` on. -/
def onSynchronizedSegment (tcb : TcpControlBlock) (segment : TcpSegment) :
    TcpControlBlock × Except TcpStateError TcpAction :=
  if tcb.segmentAcceptable segment = false then
    if segment.has rst then (tcb, .ok .none)
    else (tcb, .ok (.send tcb.ackReply))
  else if segment.has rst then ({ tcb with state := .closed }, .ok .reset)
  else if segment.has syn then ({ tcb with state := .closed }, .ok .reset)
  else if segment.has ack = false then (tcb, .ok .none)
  else if after segment.acknowledgement tcb.sndNxt then (tcb, .error .invalidAcknowledgement)
  else
    let acknowledged := tcb.acknowledge segment
    if acknowledged.state = .synReceived then tcb.onHandshake segment
    else
      let result := onAcknowledged acknowledged segment
      (result.1, .ok result.2)

def onSegment (tcb : TcpControlBlock) (segment : TcpSegment) :
    TcpControlBlock × Except TcpStateError TcpAction :=
  match tcb.state with
  | .closed => (tcb, .ok (onClosedSegment segment))
  | .listen =>
    let result := onListenSegment tcb segment
    (result.1, .ok result.2)
  | .synSent =>
    let result := onSynSentSegment tcb segment
    (result.1, .ok result.2)
  | _ => onSynchronizedSegment tcb segment

/-- The bytes that `SocketTable::send` may send. -/
def sendAllowance (tcb : TcpControlBlock) (congestionWindow : BitVec 32) : Nat :=
  min tcb.sndWnd.toNat congestionWindow.toNat - (tcb.sndNxt - tcb.sndUna).toNat

/-- What `SocketTable::send` does with the control block; `none` when the
send is refused. -/
def send (tcb : TcpControlBlock) (congestionWindow : BitVec 32) (length : Nat) :
    Option TcpControlBlock :=
  if tcb.state ≠ .established then none
  else if tcb.sendAllowance congestionWindow < clampLength length then none
  else some { tcb with sndNxt := tcb.sndNxt + BitVec.ofNat 32 (clampLength length) }

/-- What `SocketTable::rollback_send` does with the control block; `none` when
it refuses. -/
def rollbackSend (tcb : TcpControlBlock) (sequence : Number) (length : Nat) :
    Option TcpControlBlock :=
  if tcb.sndNxt ≠ sequence + BitVec.ofNat 32 (clampLength length) then none
  else some { tcb with sndNxt := sequence }

/-- What `SocketTable::cancel_connect` does with the control block; `none`
when it refuses. -/
def cancelConnect (tcb : TcpControlBlock) : Option TcpControlBlock :=
  if tcb.state ≠ .synSent then none
  else some (fresh tcb.rcvWnd)

end TcpControlBlock

end Xenith.Net
