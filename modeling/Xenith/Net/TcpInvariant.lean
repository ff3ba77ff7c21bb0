import Xenith.Lib.Execution
import Xenith.Net.TcpEffect

/-!
# The control block against any peer

Runs of the calls on one control block, with the counts that the control block
itself does not keep.
-/

namespace Xenith.Net

open Xenith.Sequence
open TcpFlags

/-! ## Runs -/

/-- A control block with the counts of its current connection. -/
structure Connection where
  tcb : TcpControlBlock
  /-- The sends whose dispatch may still fail. -/
  sends : List (Number × Nat)
  sent : Int
  acknowledged : Int
  finsCounted : Nat
  peerClosedReports : Nat
  bytesBehindFin : Nat

inductive Call where
  | listen (initialSequence : Number)
  | connect (initialSequence : Number)
  | send (congestionWindow : BitVec 32) (length : Nat)
  | rollbackSend (sequence : Number) (length : Nat)
  | close
  | cancelConnect
  | onSegment (segment : TcpSegment)

namespace Connection

open TcpControlBlock

def idle (receiveWindow : BitVec 16) : Connection where
  tcb := fresh receiveWindow
  sends := []
  sent := 0
  acknowledged := 0
  finsCounted := 0
  peerClosedReports := 0
  bytesBehindFin := 0

/-- The counts of a connection that starts. -/
def started (connection : Connection) (tcb : TcpControlBlock) (sent : Int) : Connection :=
  { connection with
    tcb := tcb
    sent := sent
    acknowledged := 0
    finsCounted := 0
    peerClosedReports := 0
    bytesBehindFin := 0 }

/-- The counts behind a segment of the connection. -/
def received (connection : Connection) (segment : TcpSegment) (next : TcpControlBlock)
    (result : Except TcpStateError TcpAction) : Connection :=
  let tcb := connection.tcb
  let delivered := deliveredBy segment result
  let counted :=
    if isSynchronized tcb.state then
      (next.rcvNxt - tcb.rcvNxt - BitVec.ofNat 32 (clampLength delivered)).toNat
    else 0
  { connection with
    tcb := next
    acknowledged := connection.acknowledged + (next.sndUna - tcb.sndUna).toNat
    finsCounted := connection.finsCounted + counted
    peerClosedReports := connection.peerClosedReports + (reportsPeerClosed result).toNat
    bytesBehindFin :=
      connection.bytesBehindFin + if connection.finsCounted = 0 then 0 else delivered }

/-- One call.  A refused call changes nothing; a rollback is only made for a
send. -/
def step (connection : Connection) : Call → Option Connection
  | .listen initialSequence =>
    match connection.tcb.listen initialSequence with
    | .error _ => some connection
    | .ok tcb => some (connection.started tcb 0)
  | .connect initialSequence =>
    match connection.tcb.connect initialSequence with
    | .error _ => some connection
    | .ok (tcb, _) => some (connection.started tcb 1)
  | .send congestionWindow length =>
    match connection.tcb.send congestionWindow length with
    | none => some connection
    | some tcb =>
      some
        { connection with
          tcb := tcb
          sends := (connection.tcb.sndNxt, length) :: connection.sends
          sent := connection.sent + clampLength length }
  | .rollbackSend sequence length =>
    if (sequence, length) ∈ connection.sends then
      match connection.tcb.rollbackSend sequence length with
      | none => some connection
      | some tcb =>
        some
          { connection with tcb := tcb, sent := connection.sent - clampLength length }
    else none
  | .close =>
    match connection.tcb.close with
    | .error _ => some connection
    | .ok (tcb, _) => some { connection with tcb := tcb, sent := connection.sent + 1 }
  | .cancelConnect =>
    match connection.tcb.cancelConnect with
    | none => some connection
    | some tcb => some { connection with tcb := tcb }
  | .onSegment segment =>
    let outcome := connection.tcb.onSegment segment
    if connection.tcb.state = .listen ∧ outcome.1.state = .synReceived then
      some (connection.started outcome.1 1)
    else some (connection.received segment outcome.1 outcome.2)

/-- What is asked of the environment: the peer sends no payload and no FIN
behind its FIN, and a send is only rolled back while nothing of it is
acknowledged. -/
def Admitted (connection : Connection) : Call → Prop
  | .onSegment segment =>
    connection.finsCounted ≠ 0 →
      ¬ (segment.sequence = connection.tcb.rcvNxt ∧ segment.carries = true)
  | .rollbackSend sequence _ => before sequence connection.tcb.sndUna = false
  | _ => True

instance (connection : Connection) (call : Call) : Decidable (Admitted connection call) := by
  cases call <;> unfold Admitted <;> infer_instance

/-- The send side lies between the initial sequence number and `snd_nxt`, and
at most one FIN of the peer counts. -/
structure Orderly (connection : Connection) : Prop where
  sndUna : isStarted connection.tcb.state = true →
    connection.tcb.sndUna = numberAt connection.tcb.iss connection.acknowledged
  sndNxt : isStarted connection.tcb.state = true →
    connection.tcb.sndNxt = numberAt connection.tcb.iss connection.sent
  between : isStarted connection.tcb.state = true →
    0 ≤ connection.acknowledged ∧ connection.acknowledged ≤ connection.sent
  oneFin : connection.finsCounted ≤ 1
  oneReport : connection.peerClosedReports ≤ 1
  nothingBehindFin : connection.bytesBehindFin = 0

/-! ## The invariant -/

structure Invariant (connection : Connection) : Prop extends Orderly connection where
  window : isStarted connection.tcb.state = true → connection.sent - connection.acknowledged ≤ 65536
  beforeFin :
    isBeforeFin connection.tcb.state = true → connection.sent - connection.acknowledged ≤ 65535
  unanswered : connection.tcb.state = .synSent → connection.acknowledged = 0
  shortSends : ∀ made ∈ connection.sends, clampLength made.2 ≤ 65535
  reports : connection.peerClosedReports = connection.finsCounted

theorem idle_invariant (receiveWindow : BitVec 16) : Invariant (idle receiveWindow) :=
  ⟨⟨nofun, nofun, nofun, Nat.zero_le _, Nat.zero_le _, rfl⟩, nofun, nofun, nofun, nofun, rfl⟩

section Steps

variable {connection : Connection} {tcb : TcpControlBlock}

variable (invariant : Invariant connection)

include invariant

theorem Invariant.started
    {sent : Int} (sndUna : tcb.sndUna = tcb.iss) (sndNxt : tcb.sndNxt = numberAt tcb.iss sent)
    (few : 0 ≤ sent ∧ sent ≤ 1) : Invariant (connection.started tcb sent) := by
  refine ⟨⟨?_, fun _ => sndNxt, fun _ => ⟨Int.le_refl 0, few.1⟩, Nat.zero_le _, Nat.zero_le _, rfl⟩,
    ?_, ?_, fun _ => rfl, invariant.shortSends, rfl⟩
  · intro _
    change tcb.sndUna = numberAt tcb.iss 0
    rw [numberAt_zero, sndUna]
  · intro _
    change sent - 0 ≤ 65536
    omega
  · intro _
    change sent - 0 ≤ 65535
    omega

omit invariant in
theorem numberAt_one (base : Number) : base + 1 = numberAt base 1 := by
  have shifted := numberAt_add base 0 1
  rw [numberAt_zero] at shifted
  exact shifted.symm

theorem Invariant.inFlight (isStarted : isStarted connection.tcb.state = true) :
    ((connection.tcb.sndNxt - connection.tcb.sndUna).toNat : Int) =
      connection.sent - connection.acknowledged := by
  have between := invariant.between isStarted
  have window := invariant.window isStarted
  rw [invariant.sndNxt isStarted, invariant.sndUna isStarted, toNat_numberAt_sub]
  omega

theorem Invariant.send {congestionWindow : BitVec 32} {length : Nat}
    (sent : connection.tcb.send congestionWindow length = some tcb) :
    Invariant
      { connection with
        tcb := tcb
        sends := (connection.tcb.sndNxt, length) :: connection.sends
        sent := connection.sent + clampLength length } := by
  revert sent
  fun_cases TcpControlBlock.send with
  | case3 established allowed =>
    rintro ⟨⟩
    have established := not_not.mp established
    have started : isStarted connection.tcb.state = true := by
      rw [established]
      rfl
    have between := invariant.between started
    have inFlight := invariant.inFlight started
    have fits : clampLength length +
        (connection.tcb.sndNxt - connection.tcb.sndUna).toNat ≤ 65535 ∨
        clampLength length = 0 := by
      unfold sendAllowance at allowed
      omega
    have beforeFin := invariant.beforeFin (by rw [established]; rfl)
    refine
      { invariant with
        sndNxt := ?_, between := ?_, window := ?_, beforeFin := ?_,
        shortSends := ?_ }
    · intro _
      rw [invariant.sndNxt started, numberAt_add, BitVec.ofInt_natCast]
    · intro _
      simp only
      omega
    · intro _
      simp only
      omega
    · intro _
      simp only
      omega
    · intro made member
      rcases List.mem_cons.mp member with last | earlier
      · rw [last]
        simp only
        omega
      · exact invariant.shortSends made earlier
  | _ => nofun

theorem Invariant.rollbackSend
    {sequence : Number} {length : Nat} (made : (sequence, length) ∈ connection.sends)
    (unacknowledged : before sequence connection.tcb.sndUna = false)
    (rolledBack : connection.tcb.rollbackSend sequence length = some tcb) :
    Invariant
      { connection with
        tcb := tcb
        sent := connection.sent - clampLength length } := by
  have short := invariant.shortSends _ made
  simp only at short
  revert rolledBack
  fun_cases TcpControlBlock.rollbackSend with
  | case1 => nofun
  | case2 expected =>
    rintro ⟨⟩
    have expected := not_not.mp expected
    have rewound (started : isStarted connection.tcb.state = true) :
        sequence = numberAt connection.tcb.iss (connection.sent - clampLength length) := by
      have ended :=
        numberAt_add connection.tcb.iss (connection.sent - clampLength length) (clampLength length)
      rw [Int.sub_add_cancel, ← invariant.sndNxt started, expected] at ended
      exact add_right_cancel ended
    have ordered (started : isStarted connection.tcb.state = true) :
        connection.acknowledged ≤ connection.sent - clampLength length := by
      have between := invariant.between started
      have window := invariant.window started
      rw [rewound started, invariant.sndUna started,
        Bool.eq_false_iff, Ne, before_numberAt (by omega) (by omega)] at unacknowledged
      omega
    refine
      { invariant with
        sndNxt := rewound
        between := fun started => ⟨(invariant.between started).1, ordered started⟩
        window := ?_, beforeFin := ?_ }
    · intro started
      have window := invariant.window started
      simp only
      omega
    · intro early
      have beforeFin := invariant.beforeFin early
      simp only
      omega

theorem Invariant.close {reply : TcpReply} (closed : connection.tcb.close = .ok (tcb, reply)) :
    Invariant { connection with tcb := tcb, sent := connection.sent + 1 } := by
  unfold TcpControlBlock.close at closed
  split at closed
  · cases closed
  · next next closing =>
    cases closed
    have early : isBeforeFin connection.tcb.state = true := by
      cases state : connection.tcb.state <;> rw [state] at closing <;> first | rfl | cases closing
    have started := isStarted_of_beforeFin early
    have late : isBeforeFin next = false ∧ next ≠ .synSent := by
      cases state : connection.tcb.state <;> rw [state] at closing <;> cases closing <;> decide
    have between := invariant.between started
    have beforeFin := invariant.beforeFin early
    refine
      { invariant with
        sndUna := fun _ => invariant.sndUna started
        beforeFin := fun again => absurd again (Bool.eq_false_iff.mp late.1)
        unanswered := fun unanswered => absurd unanswered late.2
        sndNxt := ?_, between := ?_, window := ?_ }
    · intro _
      rw [invariant.sndNxt started, numberAt_add]
      rfl
    · intro _
      simp only
      omega
    · intro _
      simp only
      omega

/-- A closed control block carries nothing over. -/
theorem Invariant.of_closed
    (closed : tcb.state = .closed) : Invariant { connection with tcb := tcb } := by
  have notStarted : ¬ isStarted tcb.state = true := by
    rw [closed]
    decide
  have notEarly : ¬ isBeforeFin tcb.state = true := by
    rw [closed]
    decide
  have answered : tcb.state ≠ .synSent := by
    rw [closed]
    decide
  exact
    { invariant with
      sndUna := fun started => absurd started notStarted
      sndNxt := fun started => absurd started notStarted
      between := fun started => absurd started notStarted
      window := fun started => absurd started notStarted
      beforeFin := fun early => absurd early notEarly
      unanswered := fun unanswered => absurd unanswered answered }

structure Progress (connection : Connection) (segment : TcpSegment) (next : TcpControlBlock)
    (result : Except TcpStateError TcpAction) : Prop where
  ofStarted : isStarted next.state = true → isStarted connection.tcb.state = true
  beforeFin : isBeforeFin next.state = true → isBeforeFin connection.tcb.state = true
  unanswered :
    next.state = .synSent → connection.tcb.state = .synSent ∧ next.sndUna = connection.tcb.sndUna
  iss : next.iss = connection.tcb.iss
  sndNxt : next.sndNxt = connection.tcb.sndNxt
  sndUna : isStarted connection.tcb.state = true → ∃ position,
    connection.acknowledged ≤ position ∧ position ≤ connection.sent ∧
    next.sndUna = numberAt connection.tcb.iss position
  counted : (connection.received segment next result).finsCounted =
    connection.finsCounted + (reportsPeerClosed result).toNat
  behindFin :
    connection.finsCounted ≠ 0 → deliveredBy segment result = 0 ∧ reportsPeerClosed result = false

variable {result : Except TcpStateError TcpAction} {segment : TcpSegment} {next : TcpControlBlock}

theorem Invariant.received (progress : Progress connection segment next result) :
    Invariant (connection.received segment next result) := by
  have moved (started : isStarted connection.tcb.state = true) :
      ∃ position,
        connection.acknowledged ≤ position ∧ position ≤ connection.sent ∧
        next.sndUna = numberAt connection.tcb.iss position ∧
        connection.acknowledged + (next.sndUna - connection.tcb.sndUna).toNat = position := by
    obtain ⟨position, low, high, sndUna⟩ := progress.sndUna started
    have window := invariant.window started
    refine ⟨position, low, high, sndUna, ?_⟩
    rw [sndUna, invariant.sndUna started, toNat_numberAt_sub]
    omega
  have reports : connection.peerClosedReports + (reportsPeerClosed result).toNat =
      (connection.received segment next result).finsCounted := by
    rw [progress.counted, invariant.reports]
  have oneFin : (connection.received segment next result).finsCounted ≤ 1 := by
    rw [progress.counted]
    by_cases none : connection.finsCounted = 0
    · rw [none, Nat.zero_add]
      exact Bool.toNat_le _
    · rw [(progress.behindFin none).2]
      exact invariant.oneFin
  refine ⟨⟨?_, ?_, ?_, oneFin, reports.trans_le oneFin, ?_⟩, ?_, ?_, ?_,
    invariant.shortSends, reports⟩
  · intro started
    obtain ⟨position, _, _, sndUna, acknowledged⟩ := moved (progress.ofStarted started)
    change next.sndUna = numberAt next.iss (connection.acknowledged + _)
    rw [acknowledged, progress.iss, sndUna]
  · intro started
    change next.sndNxt = numberAt next.iss connection.sent
    rw [progress.sndNxt, progress.iss]
    exact invariant.sndNxt (progress.ofStarted started)
  · intro started
    have between := invariant.between (progress.ofStarted started)
    obtain ⟨position, _, _, _, acknowledged⟩ := moved (progress.ofStarted started)
    change 0 ≤ connection.acknowledged + _ ∧ connection.acknowledged + _ ≤ connection.sent
    omega
  · change connection.bytesBehindFin + ite _ _ _ = 0
    rw [invariant.nothingBehindFin]
    split
    · rfl
    · next some => rw [(progress.behindFin some).1]
  · intro started
    have window := invariant.window (progress.ofStarted started)
    change connection.sent - (connection.acknowledged + _) ≤ 65536
    omega
  · intro early
    have beforeFin := invariant.beforeFin (progress.beforeFin early)
    change connection.sent - (connection.acknowledged + _) ≤ 65535
    omega
  · intro unanswered
    obtain ⟨before, same⟩ := progress.unanswered unanswered
    change connection.acknowledged + (next.sndUna - connection.tcb.sndUna).toNat = 0
    rw [same, BitVec.sub_self, invariant.unanswered before]
    rfl

theorem Progress.same
    (delivered : deliveredBy segment result = 0) (silent : reportsPeerClosed result = false) :
    Progress connection segment connection.tcb result := by
  refine ⟨id, id, fun unanswered => ⟨unanswered, rfl⟩, rfl, rfl, ?_, ?_,
    fun _ => ⟨delivered, silent⟩⟩
  · exact fun started =>
    ⟨connection.acknowledged, Int.le_refl _,
      (invariant.between started).2, invariant.sndUna started⟩
  · simp [Connection.received, delivered, silent, clampLength]

omit invariant in
/-- The FINs that `rcv_nxt` counts are those that are reported. -/
theorem counted_of_effect
    (data : Ignored connection.tcb next result ∨ Taken connection.tcb next segment result) :
    (next.rcvNxt - connection.tcb.rcvNxt -
        BitVec.ofNat 32 (clampLength (deliveredBy segment result))).toNat =
      (reportsPeerClosed result).toNat := by
  rcases data with ignored | taken
  · rw [ignored.rcvNxt, delivered_of_refused ignored.refused, silent_of_refused ignored.refused]
    simp [clampLength]
  · rw [taken.rcvNxt, taken.delivered, taken.reported]
    have cancelled (base payload fin : Number) : base + payload + fin - base - payload = fin := by
      bv_omega
    rw [cancelled]
    cases segment.has fin <;> rfl

theorem Invariant.acknowledged (started : isStarted connection.tcb.state = true) {number : Number}
    (newer : after number connection.tcb.sndUna = true)
    (valid : after number connection.tcb.sndNxt = false) :
    ∃ position,
      connection.acknowledged ≤ position ∧ position ≤ connection.sent ∧
      number = numberAt connection.tcb.iss position := by
  have between := invariant.between started
  have window := invariant.window started
  rw [invariant.sndUna started] at newer
  rw [invariant.sndNxt started] at valid
  obtain ⟨position, _, high, same⟩ := between_of_after between.2 (by omega) newer valid
  exact ⟨position, by omega, high, same⟩

theorem Progress.of_effect (synchronized : isSynchronized connection.tcb.state = true)
    (admitted : Admitted connection (.onSegment segment))
    (effect : SegmentEffect connection.tcb next segment result) :
    Progress connection segment next result := by
  have started := isStarted_of_synchronized synchronized
  refine ⟨fun _ => started, effect.beforeFin,
    fun unanswered => absurd unanswered effect.forward.1, effect.iss, effect.sndNxt, ?_, ?_, ?_⟩
  · intro _
    rcases effect.sndUna with same | ⟨same, newer, valid⟩
    · rw [same]
      exact ⟨connection.acknowledged, Int.le_refl _,
        (invariant.between started).2, invariant.sndUna started⟩
    · rw [same]
      exact invariant.acknowledged started newer valid
  · simp only [Connection.received, synchronized, if_true, counted_of_effect effect.data]
  · intro some
    rcases effect.data with ignored | taken
    · exact ⟨delivered_of_refused ignored.refused, silent_of_refused ignored.refused⟩
    · exact absurd ⟨taken.inOrder, taken.carries⟩ (admitted some)

theorem Progress.of_synSent {action : TcpAction} (synSent : connection.tcb.state = .synSent)
    (effect : SynSentEffect connection.tcb next segment action) :
    Progress connection segment next (.ok action) := by
  have started : isStarted connection.tcb.state = true := by
    rw [synSent]
    rfl
  have early : isBeforeFin connection.tcb.state = true := by
    rw [synSent]
    rfl
  have unsynchronized : isSynchronized connection.tcb.state = false := by
    rw [synSent]
    rfl
  have between := invariant.between started
  have base : connection.tcb.sndUna = connection.tcb.iss := by
    rw [invariant.sndUna started, invariant.unanswered synSent, numberAt_zero]
  have same : ∃ position,
      connection.acknowledged ≤ position ∧ position ≤ connection.sent ∧
      connection.tcb.sndUna = numberAt connection.tcb.iss position :=
    ⟨connection.acknowledged, Int.le_refl _, between.2, invariant.sndUna started⟩
  refine ⟨fun _ => started, fun _ => early, ?_, effect.iss, effect.sndNxt,
    ?_, ?_, fun _ => ⟨effect.delivered, effect.silent⟩⟩
  · intro unanswered
    refine ⟨synSent, ?_⟩
    rcases effect.sndUna with same | ⟨_, answered, _⟩
    · exact same
    · exact absurd unanswered answered
  · intro _
    rcases effect.sndUna with unchanged | ⟨answer, _, newer, valid⟩
    · rw [unchanged]
      exact same
    · rw [answer]
      rw [← base] at newer
      exact invariant.acknowledged started newer valid
  · simp [Connection.received, unsynchronized, reportsPeerClosed, effect.silent]

theorem Invariant.opened
    (opening :
      connection.tcb.state = .listen ∧ (connection.tcb.onSegment segment).1.state = .synReceived) :
    Invariant (connection.started (connection.tcb.onSegment segment).1 1) := by
  have outcome :
      connection.tcb.onSegment segment = ((onListenSegment connection.tcb segment).1,
        .ok (onListenSegment connection.tcb segment).2) := by
    unfold TcpControlBlock.onSegment
    rw [opening.1]
  rw [outcome] at opening ⊢
  rcases onListenSegment_cases connection.tcb segment with
    ⟨same, _, _⟩ | ⟨_, iss, sndUna, sndNxt⟩
  · rw [same, opening.1] at opening
    cases opening.2
  · refine invariant.started (sndUna.trans iss.symm) ?_ ⟨by decide, le_rfl⟩
    rw [← numberAt_one, iss]
    exact sndNxt

theorem Invariant.onSegment (admitted : Admitted connection (.onSegment segment))
    (noOpening : ¬ (connection.tcb.state = .listen ∧
      (connection.tcb.onSegment segment).1.state = .synReceived)) :
    Invariant (connection.received segment (connection.tcb.onSegment segment).1
      (connection.tcb.onSegment segment).2) := by
  refine invariant.received ?_
  revert noOpening
  fun_cases TcpControlBlock.onSegment with
  | case1 =>
    intro _
    apply Progress.same invariant <;> fun_cases onClosedSegment <;> rfl
  | case2 listening =>
    intro noOpening
    rcases onListenSegment_cases connection.tcb segment with
      ⟨same, delivered, silent⟩ | ⟨state, _⟩
    · change Progress connection segment (onListenSegment connection.tcb segment).1 _
      rw [same]
      exact Progress.same invariant delivered silent
    · exact absurd ⟨listening, state⟩ noOpening
  | case3 synSent =>
    intro _
    exact Progress.of_synSent invariant synSent (onSynSentSegment_effect connection.tcb segment)
  | case4 =>
    intro _
    have synchronized : isSynchronized connection.tcb.state = true := by
      cases state : connection.tcb.state <;> first | rfl | contradiction
    exact Progress.of_effect invariant synchronized admitted
      (onSynchronizedSegment_effect segment synchronized)

/-- Every admitted call keeps the invariant. -/
theorem Invariant.step {call : Call} (admitted : Admitted connection call) {next : Connection}
    (stepped : connection.step call = some next) : Invariant next := by
  revert stepped
  fun_cases Connection.step with
  | case2 initialSequence tcb opened =>
    rintro ⟨⟩
    unfold TcpControlBlock.listen at opened
    split at opened
    · cases opened
    · cases opened
      exact invariant.started rfl (numberAt_zero _).symm ⟨le_rfl, by decide⟩
  | case4 initialSequence tcb reply opened =>
    rintro ⟨⟩
    unfold TcpControlBlock.connect at opened
    split at opened
    · cases opened
    · cases opened
      exact invariant.started rfl (numberAt_one _) ⟨by decide, le_rfl⟩
  | case6 _ length tcb sent =>
    rintro ⟨⟩
    exact invariant.send sent
  | case8 _ length made tcb rolledBack =>
    rintro ⟨⟩
    exact invariant.rollbackSend made admitted rolledBack
  | case9 => nofun
  | case11 tcb reply closed =>
    rintro ⟨⟩
    exact invariant.close closed
  | case13 tcb cancelled =>
    rintro ⟨⟩
    unfold TcpControlBlock.cancelConnect at cancelled
    split at cancelled
    · cases cancelled
    · cases cancelled
      exact invariant.of_closed rfl
  | case14 segment outcome opening =>
    rintro ⟨⟩
    exact invariant.opened opening
  | case15 segment outcome noOpening =>
    rintro ⟨⟩
    exact invariant.onSegment admitted noOpening
  | case1 | case3 | case5 | case7 | case10 | case12 =>
    rintro ⟨⟩
    exact invariant

end Steps

/-! ## Every run -/

open Execution

/-- In every run of a connection the send side is orderly and one FIN of the
peer counts. -/
theorem orderly_of_guarded {receiveWindow : BitVec 16} {calls : List Call} {final : Connection}
    (guarded : Guarded step Admitted (idle receiveWindow) calls)
    (reached : exec step (idle receiveWindow) calls = some final) :
    Orderly final := by
  have invariant : Invariant final := invariant_of_guarded
    (fun _ _ _ invariant admitted stepped => invariant.step admitted stepped)
    (idle_invariant receiveWindow) guarded reached
  exact invariant.toOrderly

/-- An active open up to `Established`. -/
def opened : List Call :=
  [.connect 1000, .onSegment ⟨500, 1001, syn.union ack, 100, []⟩]

/-- Data in both directions, a failed send, and an orderly end. -/
def wholeConversation : List Call :=
  opened ++ [.send 4096 10,
    .onSegment ⟨501, 1011, ack, 100, [1, 2, 3]⟩, .send 4096 5, .rollbackSend 1011 5,
    .onSegment ⟨504, 1011, fin.union ack, 100, [4]⟩, .close, .onSegment ⟨506, 1012, ack, 100, []⟩]

theorem wholeConversation_orderly :
    ∃ final, exec step (idle 4096) wholeConversation = some final ∧
      final.finsCounted = 1 ∧ Orderly final := by
  refine exists_reached (by decide +kernel) fun final reached => ?_
  exact ⟨of_reached reached (by decide +kernel), orderly_of_guarded (by decide +kernel) reached⟩

/-- A second FIN behind the first one is counted and reported again, with its
payload; and the peer acknowledges a send before it is rolled back. -/
theorem not_orderly :
    (∃ final,
      exec step (idle 4096)
          (opened ++ [.onSegment ⟨501, 1001, fin.union ack, 100, []⟩,
            .onSegment ⟨502, 1001, fin.union ack, 100, [7]⟩]) =
          some final ∧
        final.finsCounted = 2 ∧ final.peerClosedReports = 2 ∧
        final.bytesBehindFin = 1) ∧
    ∃ final,
      exec step (idle 4096)
          (opened ++ [.send 4096 10, .onSegment ⟨501, 1011, ack, 100, []⟩, .rollbackSend 1001 10]) =
          some final ∧
        final.tcb.state = .established ∧ final.tcb.sndUna = 1011 ∧
        final.tcb.sndNxt = 1001 ∧ final.sent < final.acknowledged := by
  decide +kernel

end Connection

end Xenith.Net
