import Xenith.Net.Tcp

/-!
# What a segment does to a control block

One statement for each kind of state: how a segment moves the send side, what
it does with the data it carries, and which states it can lead to.
-/

namespace Xenith.Net

open Xenith.Sequence
open TcpFlags

/-- The payload that the socket takes over from a segment. -/
def TcpAction.delivered (segment : TcpSegment) : TcpAction → Nat
  | .deliver length _ => length
  | .peerClosed _ => segment.payload.length
  | _ => 0

def TcpAction.isPeerClosed : TcpAction → Bool
  | .peerClosed _ => true
  | _ => false

/-- The same for the result of a call. -/
def deliveredBy (segment : TcpSegment) : Except TcpStateError TcpAction → Nat
  | .ok action => action.delivered segment
  | .error _ => 0

def reportsPeerClosed : Except TcpStateError TcpAction → Bool
  | .ok action => action.isPeerClosed
  | .error _ => false

def takenBy : Except TcpStateError TcpAction → Bool
  | .ok action => action.takesPayload
  | .error _ => false

namespace TcpControlBlock

/-! ## What a segment does -/

structure Ignored (tcb next : TcpControlBlock) (result : Except TcpStateError TcpAction) :
    Prop where
  rcvNxt : next.rcvNxt = tcb.rcvNxt
  refused : takenBy result = false

structure Taken (tcb next : TcpControlBlock) (segment : TcpSegment)
    (result : Except TcpStateError TcpAction) : Prop where
  inOrder : segment.sequence = tcb.rcvNxt
  carries : segment.carries = true
  rcvNxt : next.rcvNxt = tcb.rcvNxt + BitVec.ofNat 32 (clampLength segment.payload.length) +
    BitVec.ofNat 32 (segment.has fin).toNat
  delivered : deliveredBy segment result = segment.payload.length
  reported : reportsPeerClosed result = segment.has fin
  accepted : takenBy result = true

variable {segment : TcpSegment} {result : Except TcpStateError TcpAction}
variable {state : TcpState} {tcb : TcpControlBlock}

theorem delivered_of_refused
    (refused : takenBy result = false) : deliveredBy segment result = 0 := by
  cases result with
  | error error => rfl
  | ok action => cases action <;> first | rfl | cases refused

theorem silent_of_refused (refused : takenBy result = false) :
    reportsPeerClosed result = false := by
  cases result with
  | error error => rfl
  | ok action => cases action <;> first | rfl | cases refused

/-- The states behind the start of the handshake. -/
def isStarted : TcpState → Bool
  | .closed => false
  | .listen => false
  | _ => true

/-- The states behind a handshake of both sides. -/
def isSynchronized : TcpState → Bool
  | .closed => false
  | .listen => false
  | .synSent => false
  | _ => true

/-- The started states in which no FIN has been sent. -/
def isBeforeFin : TcpState → Bool
  | .synSent => true
  | .synReceived => true
  | .established => true
  | .closeWait => true
  | _ => false

/-- The states in which the peer may send and no FIN has been sent. -/
def isReceiving : TcpState → Bool
  | .established => true
  | .closeWait => true
  | _ => false

/-- What a segment does in a synchronized state. -/
structure SegmentEffect (tcb next : TcpControlBlock) (segment : TcpSegment)
    (result : Except TcpStateError TcpAction) : Prop where
  iss : next.iss = tcb.iss
  sndNxt : next.sndNxt = tcb.sndNxt
  sndUna : next.sndUna = tcb.sndUna ∨ (next.sndUna = segment.acknowledgement ∧
    after segment.acknowledgement tcb.sndUna = true ∧
    after segment.acknowledgement tcb.sndNxt = false)
  beforeFin : isBeforeFin next.state = true → isBeforeFin tcb.state = true
  forward : next.state ≠ .synSent ∧ next.state ≠ .listen
  data : Ignored tcb next result ∨ Taken tcb next segment result
  irs : next.irs = tcb.irs
  rcvWnd : next.rcvWnd = tcb.rcvWnd
  receiving : isReceiving tcb.state = true → segment.has rst = false →
    segment.has syn = false → isReceiving next.state = true

theorem finState_cases (state : TcpState) :
    (isBeforeFin (finState state) = true → isBeforeFin state = true) ∧
      (isSynchronized state = true → finState state ≠ .synSent ∧ finState state ≠ .listen) ∧
      (isReceiving state = true → isReceiving (finState state) = true) := by
  cases state <;> decide

theorem forward_of_synchronized (synchronized : isSynchronized state = true) :
    state ≠ .synSent ∧ state ≠ .listen := by
  cases state <;> first | decide | cases synchronized

theorem isStarted_of_synchronized (synchronized : isSynchronized state = true) :
    isStarted state = true := by
  cases state <;> first | rfl | cases synchronized

theorem isStarted_of_beforeFin (early : isBeforeFin state = true) : isStarted state = true := by
  cases state <;> first | rfl | cases early

theorem onData_effect (segment : TcpSegment) (synchronized : isSynchronized tcb.state = true) :
    SegmentEffect tcb (onData tcb segment).1 segment (.ok (onData tcb segment).2) := by
  have forward := forward_of_synchronized synchronized
  unfold onData
  by_cases outOfOrder : segment.sequence ≠ tcb.rcvNxt ∧ segment.carries
  · rw [if_pos outOfOrder]
    exact ⟨rfl, rfl, Or.inl rfl, id, forward, Or.inl ⟨rfl, rfl⟩, rfl, rfl,
      fun receiving _ _ => receiving⟩
  · have inOrder (carries : segment.carries = true) : segment.sequence = tcb.rcvNxt := by
      by_contra different
      exact outOfOrder ⟨different, carries⟩
    rw [if_neg outOfOrder]
    by_cases fin : segment.has fin = true
    · have carries : segment.carries = true := by
        simp [TcpSegment.carries, fin]
      have finished := finState_cases tcb.state
      rw [if_pos fin]
      refine ⟨rfl, rfl, Or.inl rfl, finished.1, finished.2.1 synchronized,
        Or.inr ?_, rfl, rfl, fun receiving _ _ => finished.2.2 receiving⟩
      exact ⟨inOrder carries, carries, by rw [fin]; rfl, rfl, fin.symm, rfl⟩
    · rw [if_neg fin]
      rw [Bool.not_eq_true] at fin
      by_cases nonempty : segment.payload.length ≠ 0
      · have carries : segment.carries = true := by
          have some : segment.payload ≠ [] := by
            intro nothing
            rw [nothing] at nonempty
            exact nonempty rfl
          simp [TcpSegment.carries, some]
        rw [if_pos nonempty]
        refine ⟨rfl, rfl, Or.inl rfl, id, forward, Or.inr ?_, rfl, rfl,
          fun receiving _ _ => receiving⟩
        refine ⟨inOrder carries, carries, ?_, rfl, fin.symm, rfl⟩
        rw [fin]
        exact (BitVec.add_zero _).symm
      · rw [if_neg nonempty]
        rw [not_not] at nonempty
        refine ⟨rfl, rfl, Or.inl rfl, id, forward, Or.inl ⟨?_, rfl⟩, rfl, rfl,
          fun receiving _ _ => receiving⟩
        rw [nonempty]
        exact BitVec.add_zero _

theorem onAcknowledged_effect
    (segment : TcpSegment) (synchronized : isSynchronized tcb.state = true) :
    SegmentEffect tcb (onAcknowledged tcb segment).1 segment
      (.ok (onAcknowledged tcb segment).2) := by
  unfold onAcknowledged
  simp only
  split
  · next acknowledged =>
    -- the FIN is acknowledged, and the data of the segment comes next
    have effect : SegmentEffect { tcb with state := .finWait2 } _ segment _ :=
      onData_effect segment rfl
    refine ⟨effect.iss, effect.sndNxt, effect.sndUna, ?_, effect.forward, ?_,
      effect.irs, effect.rcvWnd, ?_⟩
    · intro early
      have impossible := effect.beforeFin early
      cases impossible
    · rcases effect.data with ignored | taken
      · exact Or.inl ⟨ignored.rcvNxt, ignored.refused⟩
      · exact Or.inr ⟨taken.inOrder, taken.carries, taken.rcvNxt,
          taken.delivered, taken.reported, taken.accepted⟩
    · intro receiving
      rw [acknowledged.1] at receiving
      cases receiving
  · split
    · next closing =>
      refine ⟨rfl, rfl, Or.inl rfl, nofun, ⟨nofun, nofun⟩, Or.inl ⟨rfl, rfl⟩, rfl, rfl, ?_⟩
      intro receiving
      rw [closing.1] at receiving
      cases receiving
    · split
      · next lastAck =>
        refine ⟨rfl, rfl, Or.inl rfl, nofun, ⟨nofun, nofun⟩, Or.inl ⟨rfl, rfl⟩, rfl, rfl, ?_⟩
        intro receiving
        rw [lastAck.1] at receiving
        cases receiving
      · exact onData_effect segment synchronized

/-- The data of a segment does not depend on the send side. -/
theorem SegmentEffect.of_acknowledge
    {acknowledged next : TcpControlBlock} (effect : SegmentEffect acknowledged next segment result)
    (iss : acknowledged.iss = tcb.iss) (sndNxt : acknowledged.sndNxt = tcb.sndNxt)
    (rcvNxt : acknowledged.rcvNxt = tcb.rcvNxt)
    (sndUna : acknowledged.sndUna =
      if after segment.acknowledgement tcb.sndUna then segment.acknowledgement
      else tcb.sndUna)
    (valid : after segment.acknowledgement tcb.sndNxt = false)
    (beforeFin : isBeforeFin acknowledged.state = true → isBeforeFin tcb.state = true)
    (irs : acknowledged.irs = tcb.irs) (rcvWnd : acknowledged.rcvWnd = tcb.rcvWnd)
    (receiving : isReceiving tcb.state = true → isReceiving acknowledged.state = true) :
    SegmentEffect tcb next segment result := by
  refine ⟨effect.iss.trans iss, effect.sndNxt.trans sndNxt, ?_,
    fun early => beforeFin (effect.beforeFin early), effect.forward, ?_,
    effect.irs.trans irs, effect.rcvWnd.trans rcvWnd,
    fun before => effect.receiving (receiving before)⟩
  · by_cases newer : after segment.acknowledgement tcb.sndUna = true
    · rw [if_pos newer] at sndUna
      refine Or.inr ⟨?_, newer, valid⟩
      rcases effect.sndUna with same | ⟨same, _, _⟩
      · exact same.trans sndUna
      · exact same
    · rw [if_neg newer] at sndUna
      rcases effect.sndUna with same | ⟨_, again, _⟩
      · exact Or.inl (same.trans sndUna)
      · rw [sndUna] at again
        exact absurd again newer
  · rcases effect.data with ignored | taken
    · exact Or.inl ⟨ignored.rcvNxt.trans rcvNxt, ignored.refused⟩
    · refine Or.inr ⟨taken.inOrder.trans rcvNxt, taken.carries, ?_,
        taken.delivered, taken.reported, taken.accepted⟩
      rw [taken.rcvNxt, rcvNxt]

theorem onHandshake_effect (segment : TcpSegment) (received : tcb.state = .synReceived)
    (valid : after segment.acknowledgement tcb.sndNxt = false) :
    SegmentEffect tcb (onHandshake tcb segment).1 segment (onHandshake tcb segment).2 := by
  have early : isBeforeFin tcb.state = true := by
    rw [received]
    rfl
  have outside {state : TcpState} (receiving : isReceiving tcb.state = true) :
      isReceiving state = true := by
    rw [received] at receiving
    cases receiving
  have forward : tcb.state ≠ .synSent ∧ tcb.state ≠ .listen := by
    rw [received]
    exact ⟨nofun, nofun⟩
  unfold onHandshake
  simp only
  split
  · have same :
        SegmentEffect (tcb.acknowledge segment) (tcb.acknowledge segment)
          segment (.error .invalidAcknowledgement) :=
      ⟨rfl, rfl, Or.inl rfl, id, forward, Or.inl ⟨rfl, rfl⟩, rfl, rfl,
        fun receiving _ _ => receiving⟩
    exact same.of_acknowledge rfl rfl rfl rfl valid id rfl rfl id
  · split
    · have connected :
          SegmentEffect
            { tcb.acknowledge segment with state := .established }
            { tcb.acknowledge segment with state := .established }
            segment (.ok (.connected none)) :=
        ⟨rfl, rfl, Or.inl rfl, id, ⟨nofun, nofun⟩, Or.inl ⟨rfl, rfl⟩, rfl,
          rfl, fun receiving _ _ => receiving⟩
      exact connected.of_acknowledge rfl rfl rfl rfl valid (fun _ => early) rfl rfl outside
    · have effect :
          SegmentEffect
            { tcb.acknowledge segment with state := .established } _ segment
            _ :=
        onAcknowledged_effect segment rfl
      exact effect.of_acknowledge rfl rfl rfl rfl valid (fun _ => early) rfl rfl outside

theorem onSynchronizedSegment_effect
    (segment : TcpSegment) (synchronized : isSynchronized tcb.state = true) :
    SegmentEffect tcb (onSynchronizedSegment tcb segment).1 segment
      (onSynchronizedSegment tcb segment).2 := by
  have forward := forward_of_synchronized synchronized
  have ignored (result : Except TcpStateError TcpAction)
      (refused : takenBy result = false) :
      SegmentEffect tcb tcb segment result :=
    ⟨rfl, rfl, Or.inl rfl, id, forward, Or.inl ⟨rfl, refused⟩, rfl, rfl,
      fun receiving _ _ => receiving⟩
  have closed
      (reset : segment.has rst = true ∨ segment.has syn = true) :
      SegmentEffect tcb { tcb with state := .closed } segment (.ok .reset) := by
    refine ⟨rfl, rfl, Or.inl rfl, nofun, ⟨nofun, nofun⟩, Or.inl ⟨rfl, rfl⟩, rfl, rfl, ?_⟩
    intro _ noReset noSyn
    rcases reset with rst | syn
    · rw [noReset] at rst
      cases rst
    · rw [noSyn] at syn
      cases syn
  fun_cases onSynchronizedSegment with
  | case3 _ rst => exact closed (Or.inl rst)
  | case4 _ _ syn => exact closed (Or.inr syn)
  | case7 _ _ _ _ valid _ received =>
    rw [Bool.not_eq_true] at valid
    exact onHandshake_effect segment received valid
  | case8 _ _ _ _ valid =>
    rw [Bool.not_eq_true] at valid
    have effect : SegmentEffect (tcb.acknowledge segment) _ segment _ :=
      onAcknowledged_effect segment synchronized
    exact effect.of_acknowledge rfl rfl rfl rfl valid id rfl rfl id
  | _ => exact ignored _ rfl

/-- What a segment does behind a SYN of its own. -/
structure SynSentEffect (tcb next : TcpControlBlock) (segment : TcpSegment) (action : TcpAction) :
    Prop where
  iss : next.iss = tcb.iss
  sndNxt : next.sndNxt = tcb.sndNxt
  sndUna : next.sndUna = tcb.sndUna ∨ (next.sndUna = segment.acknowledgement ∧
    next.state ≠ .synSent ∧
    after segment.acknowledgement tcb.iss = true ∧
    after segment.acknowledgement tcb.sndNxt = false)
  delivered : action.delivered segment = 0
  silent : action.isPeerClosed = false
  forward : tcb.state = .synSent → next.state ≠ .listen

/-- A number that is not behind the other one is the same or before it. -/
theorem after_of_not_beforeEq {left right : Number} (behind : ¬ beforeEq left right = true) :
    after left right = true := by
  rw [beforeEq, Bool.or_eq_true, decide_eq_true_eq] at behind
  rw [after]
  rw [before, decide_eq_true_eq] at behind ⊢
  bv_omega

theorem onSynSentSyn_effect
    (valid : segment.has ack = true →
      after segment.acknowledgement tcb.iss = true ∧
      after segment.acknowledgement tcb.sndNxt = false) :
    SynSentEffect tcb (onSynSentSyn tcb segment).1 segment (onSynSentSyn tcb segment).2 := by
  cases ack : segment.has ack with
  | true =>
    have newer := (valid ack).1
    simp only [onSynSentSyn, ack, newer, if_true]
    exact ⟨rfl, rfl, Or.inr ⟨rfl, nofun, valid ack⟩, rfl, rfl, nofun⟩
  | false =>
    simp only [onSynSentSyn, ack]
    exact ⟨rfl, rfl, Or.inl rfl, rfl, rfl, nofun⟩

theorem onSynSentSegment_effect (tcb : TcpControlBlock) (segment : TcpSegment) :
    SynSentEffect tcb (onSynSentSegment tcb segment).1 segment
      (onSynSentSegment tcb segment).2 := by
  have waits (action : TcpAction) (delivered : action.delivered segment = 0)
      (silent : action.isPeerClosed = false) :
      SynSentEffect tcb tcb segment action := by
    refine ⟨rfl, rfl, Or.inl rfl, delivered, silent, ?_⟩
    intro synSent
    rw [synSent]
    exact nofun
  fun_cases onSynSentSegment with
  | case3 => exact ⟨rfl, rfl, Or.inl rfl, rfl, rfl, nofun⟩
  | case6 refused =>
    apply onSynSentSyn_effect
    intro ack
    rw [not_and, not_or] at refused
    have refused := refused ack
    exact ⟨after_of_not_beforeEq refused.1, Bool.eq_false_iff.mpr refused.2⟩
  | _ => exact waits _ rfl rfl

theorem onListenSegment_cases (tcb : TcpControlBlock) (segment : TcpSegment) :
    ((onListenSegment tcb segment).1 = tcb ∧
      (onListenSegment tcb segment).2.delivered segment = 0 ∧
      (onListenSegment tcb segment).2.isPeerClosed = false) ∨
    ((onListenSegment tcb segment).1.state = .synReceived ∧
      (onListenSegment tcb segment).1.iss = tcb.iss ∧
      (onListenSegment tcb segment).1.sndUna = tcb.iss ∧
      (onListenSegment tcb segment).1.sndNxt = tcb.iss + 1) := by
  fun_cases onListenSegment with
  | case4 => exact Or.inr ⟨rfl, rfl, rfl, rfl⟩
  | _ => exact Or.inl ⟨rfl, rfl, rfl⟩

theorem onSegment_synchronized
    (segment : TcpSegment) (synchronized : isSynchronized tcb.state = true) :
    onSegment tcb segment = onSynchronizedSegment tcb segment := by
  unfold onSegment
  split
  · next state =>
    rw [state] at synchronized
    cases synchronized
  · next state =>
    rw [state] at synchronized
    cases synchronized
  · next state =>
    rw [state] at synchronized
    cases synchronized
  · rfl

theorem onSegment_not_listen (segment : TcpSegment) (notListening : tcb.state ≠ .listen) :
    (tcb.onSegment segment).1.state ≠ .listen := by
  cases synchronized : isSynchronized tcb.state with
  | true =>
    rw [onSegment_synchronized segment synchronized]
    exact (onSynchronizedSegment_effect segment synchronized).forward.2
  | false =>
    unfold onSegment
    split
    · exact notListening
    · next listening => exact absurd listening notListening
    · next synSent => exact (onSynSentSegment_effect tcb segment).forward synSent
    · next notClosed _ notSynSent =>
      cases state : tcb.state <;>
        first
        | exact absurd state notClosed
        | exact absurd state notListening
        | exact absurd state notSynSent
        | (rw [state] at synchronized; cases synchronized)

end TcpControlBlock

end Xenith.Net
