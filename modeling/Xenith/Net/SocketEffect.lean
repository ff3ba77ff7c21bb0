import Xenith.Lib.ListEdit
import Xenith.Net.Socket
import Xenith.Net.TcpEffect

/-!
# What a segment does to its socket

The parts of a socket that `deliver_tcp_to` never touches, the rule for the
loop over the queued segments, and the states it can lead to.
-/

namespace Xenith.Net

open Xenith.Sequence
open TcpControlBlock

namespace Socket

/-- What identifies a socket and ties it to its listener. -/
structure Kept (before after : Socket) : Prop where
  kind : after.kind = before.kind
  localEndpoint : after.localEndpoint = before.localEndpoint
  remote : after.remote = before.remote
  pending : after.pending = before.pending
  parentListener : after.parentListener = before.parentListener
  listenBacklog : after.listenBacklog = before.listenBacklog
  detachedAt : after.detachedAt = before.detachedAt

theorem Kept.refl (socket : Socket) : Kept socket socket :=
  ⟨rfl, rfl, rfl, rfl, rfl, rfl, rfl⟩

theorem Kept.trans
    {first second third : Socket} (left : Kept first second) (right : Kept second third) :
    Kept first third :=
  ⟨right.kind.trans left.kind,
    right.localEndpoint.trans left.localEndpoint,
    right.remote.trans left.remote,
    right.pending.trans left.pending,
    right.parentListener.trans left.parentListener,
    right.listenBacklog.trans left.listenBacklog,
    right.detachedAt.trans left.detachedAt⟩

section Parts

variable {socket next : Socket} {source : Endpoint}

/-- The bytes that wait for `receive`. -/
def queued (socket : Socket) : List UInt8 :=
  (socket.rx.map ReceivedPacket.payload).flatten

structure Filled (before : Socket) (payload : List UInt8) (after : Socket) : Prop where
  same : after = { before with rx := after.rx }
  queued : after.queued = before.queued ++ payload
  length : after.rx.length ≤ before.rx.length + 1

variable {payload : List UInt8}

theorem filled_of_queuePayload (queues : socket.queuePayload source payload = .ok next) :
    Filled socket payload next := by
  revert queues
  fun_cases queuePayload with
  | case1 nothing =>
    rintro ⟨⟩
    refine ⟨rfl, ?_, Nat.le_succ _⟩
    rw [nothing, List.append_nil]
  | case2 =>
    fun_cases queueRx with
    | case1 => nofun
    | case2 =>
      rintro ⟨⟩
      exact ⟨rfl, by simp [Socket.queued], by simp⟩

theorem full_of_queuePayload {error : SocketError}
    (fails : socket.queuePayload source payload = .error error) :
    maxRxPackets ≤ socket.rx.length := by
  unfold queuePayload queueRx at fails
  split at fails
  · cases fails
  · split at fails
    · next full => exact full
    · cases fails

theorem Filled.kept (filled : Filled socket payload next) : Kept socket next := by
  rw [filled.same]
  exact ⟨rfl, rfl, rfl, rfl, rfl, rfl, rfl⟩

/-! ## The loop over the queued segments -/

/-- What one turn does: the first queued segment that is next is replayed. -/
structure Replayed (socket : Socket) (queued : OutOfOrderSegment) (next : Socket)
    (result : Except SocketError TcpAction) : Prop where
  member : queued ∈ socket.outOfOrder
  expected : queued.sequence = socket.tcp.rcvNxt
  tcp : next.tcp = (socket.tcp.onSegment (replay queued)).1
  outOfOrder : next.outOfOrder =
    socket.outOfOrder.eraseP (fun queued => decide (queued.sequence = socket.tcp.rcvNxt))
  kept : Kept socket next
  filled : (∃ action, (socket.tcp.onSegment (replay queued)).2 = .ok action ∧
      next.queued = socket.queued ++ queued.payload ∧
      next.rx.length ≤ socket.rx.length + 1) ∨
    ((∃ error, result = .error error) ∧ next.rx = socket.rx ∧
      ((∃ error, (socket.tcp.onSegment (replay queued)).2 = .error error) ∨
        maxRxPackets ≤ socket.rx.length))

theorem replayed_of_replayNext {result : Except SocketError TcpAction}
    (turn : socket.replayNext source = some (next, result)) :
    ∃ queued, Replayed socket queued next result := by
  have expected {queued : OutOfOrderSegment}
      (found :
        socket.outOfOrder.find? (fun queued => decide (queued.sequence = socket.tcp.rcvNxt)) =
          some queued) :
      queued.sequence = socket.tcp.rcvNxt := by
    simpa using List.find?_some found
  revert turn
  fun_cases replayNext with
  | case1 => nofun
  | case2 _ queued found _ _ error failed =>
    rw [Option.some.injEq, Prod.mk.injEq]
    rintro ⟨rfl, rfl⟩
    refine ⟨queued, List.mem_of_find?_eq_some found,
      expected found, rfl, rfl, ⟨rfl, rfl, rfl, rfl, rfl, rfl, rfl⟩, ?_⟩
    exact Or.inr ⟨⟨_, rfl⟩, rfl, Or.inl ⟨error, failed⟩⟩
  | case3 _ queued found _ _ _ _ error full =>
    rw [Option.some.injEq, Prod.mk.injEq]
    rintro ⟨rfl, rfl⟩
    refine ⟨queued, List.mem_of_find?_eq_some found,
      expected found, rfl, rfl, ⟨rfl, rfl, rfl, rfl, rfl, rfl, rfl⟩, ?_⟩
    have noRoom := full_of_queuePayload full
    exact Or.inr ⟨⟨_, rfl⟩, rfl, Or.inr noRoom⟩
  | case4 _ queued found _ replayed action accepted _ queues =>
    rintro ⟨⟩
    have fills := filled_of_queuePayload queues
    have kept : Kept socket replayed := ⟨rfl, rfl, rfl, rfl, rfl, rfl, rfl⟩
    refine ⟨queued, List.mem_of_find?_eq_some found, expected found,
      congrArg Socket.tcp fills.same, congrArg Socket.outOfOrder fills.same,
      kept.trans fills.kept, ?_⟩
    exact Or.inl ⟨action, accepted, fills.queued, fills.length⟩

/-- What every turn preserves, the loop preserves. -/
theorem drain_invariant (invariant : Socket → Prop)
    (turn : ∀ socket next result, invariant socket →
      socket.replayNext source = some (next, result) → invariant next)
    {turns : Nat} {action : TcpAction} (initially : invariant socket) :
    invariant (drain source turns socket action).1 := by
  fun_induction drain with
  | case1 => exact initially
  | case2 => exact initially
  | case3 _ _ _ next _ replayed => exact turn _ _ _ initially replayed
  | case4 _ _ _ next _ replayed ih => exact ih (turn _ _ _ initially replayed)

theorem drain_kept (turns : Nat) (action : TcpAction) :
    Kept socket (drain source turns socket action).1 := by
  refine drain_invariant (Kept socket) ?_ (Kept.refl socket)
  intro current next result kept turn
  obtain ⟨_, replayed⟩ := replayed_of_replayNext turn
  exact kept.trans replayed.kept

/-! ## The whole call -/

theorem processInOrder_kept (segment : TcpSegment) :
    Kept socket (socket.processInOrder source segment).1 := by
  have advanced : Kept socket { socket with tcp := (socket.tcp.onSegment segment).1 } :=
    ⟨rfl, rfl, rfl, rfl, rfl, rfl, rfl⟩
  fun_cases processInOrder with
  | case3 _ _ _ _ _ _ queues =>
    exact (advanced.trans (filled_of_queuePayload queues).kept).trans (drain_kept _ _)
  | _ => exact advanced

theorem queueOutOfOrder_cases
    {segment : TcpSegment} (queues : socket.queueOutOfOrder segment = .ok next) :
    next = { socket with outOfOrder := next.outOfOrder } ∧ ∀ queued ∈ next.outOfOrder,
      queued ∈ socket.outOfOrder ∨ (queued.sequence = segment.sequence ∧
        queued.payload = segment.payload ∧
        queued.fin = segment.has TcpFlags.fin) := by
  revert queues
  fun_cases queueOutOfOrder with
  | case1 =>
    rintro ⟨⟩
    exact ⟨rfl, fun queued member => Or.inl member⟩
  | case2 => nofun
  | case3 =>
    rintro ⟨⟩
    refine ⟨rfl, ?_⟩
    intro queued member
    rcases List.eq_or_mem_of_mem_insertIdx member with new | old
    · rw [new]
      exact Or.inr ⟨rfl, rfl, rfl⟩
    · exact Or.inl old

theorem processTcpIngress_kept (segment : TcpSegment) :
    Kept socket (socket.processTcpIngress source segment).1 := by
  fun_cases processTcpIngress with
  | case2 _ _ _ queues =>
    rw [(queueOutOfOrder_cases queues).1]
    exact ⟨rfl, rfl, rfl, rfl, rfl, rfl, rfl⟩
  | case4 => exact processInOrder_kept segment
  | _ => exact Kept.refl socket

/-- What `deliver_tcp_to` adds to `process_tcp_ingress`. -/
structure Settled (processed after : Socket) : Prop where
  tcp : after.tcp = processed.tcp
  rx : after.rx = processed.rx
  outOfOrder : after.outOfOrder = processed.outOfOrder ∨ after.outOfOrder = []
  kept : Kept processed after

/-- Acknowledgements only change the send side. -/
theorem acknowledgeTransmissions_settled
    (socket : Socket) (segment : TcpSegment) (previousUna : Number) :
    Settled socket (socket.acknowledgeTransmissions segment previousUna) := by
  fun_cases acknowledgeTransmissions with
  | _ => exact ⟨rfl, rfl, Or.inl rfl, ⟨rfl, rfl, rfl, rfl, rfl, rfl, rfl⟩⟩

theorem ingress_settled (segment : TcpSegment) :
    Settled (socket.processTcpIngress source segment).1 (socket.ingress source segment).1 := by
  have acknowledged := acknowledgeTransmissions_settled
    (socket.processTcpIngress source segment).1 segment socket.tcp.sndUna
  fun_cases ingress with
  | case1 => exact ⟨rfl, rfl, Or.inl rfl, Kept.refl _⟩
  | case2 =>
    exact { acknowledged with outOfOrder := Or.inr rfl, kept := { acknowledged.kept with } }
  | case3 => exact acknowledged

theorem ingress_kept (segment : TcpSegment) : Kept socket (socket.ingress source segment).1 :=
  (processTcpIngress_kept segment).trans (ingress_settled segment).kept

/-! ## A socket whose peer may send -/

theorem replay_flags (queued : OutOfOrderSegment) :
    (replay queued).has TcpFlags.rst = false ∧
      (replay queued).has TcpFlags.syn = false ∧
      (replay queued).has TcpFlags.ack = true ∧
      (replay queued).has TcpFlags.fin = queued.fin := by
  simp only [TcpSegment.has, replay]
  cases queued.fin <;> decide

theorem isSynchronized_of_receiving {state : TcpState} (receiving : isReceiving state = true) :
    isSynchronized state = true := by
  cases state <;> first | rfl | cases receiving

theorem onSegment_effect
    {tcb : TcpControlBlock} (segment : TcpSegment) (receiving : isReceiving tcb.state = true) :
    SegmentEffect tcb (tcb.onSegment segment).1 segment (tcb.onSegment segment).2 := by
  have synchronized := isSynchronized_of_receiving receiving
  rw [onSegment_synchronized segment synchronized]
  exact onSynchronizedSegment_effect segment synchronized

theorem Kept.isConnection {source destination : Endpoint} (kept : Kept socket next)
    (before : socket.tcp.state ≠ .listen) (after : next.tcp.state ≠ .listen) :
    next.isConnection source destination = socket.isConnection source destination := by
  simp [Socket.isConnection, isBoundTo, kept.kind, kept.localEndpoint, kept.remote, before, after]

end Parts

end Socket

namespace SocketTable

variable {table : SocketTable} {handle : SocketHandle}
variable {socket changed : Socket} {source destination : Endpoint}

theorem findTcpConnection_put (found : table.find handle = some socket)
    (same : changed.isConnection source destination = socket.isConnection source destination) :
    (table.put handle.slot changed).findTcpConnection source destination =
      table.findTcpConnection source destination := by
  apply ListEdit.findIdx?_modify
  intro slot present
  rw [find_eq_some.mp found] at present
  cases present
  simp [same]

/-- Only a child whose handshake ends is handed to its listener. -/
theorem deliverTcpTo_of_not_promoted (index : Nat) (segment : TcpSegment)
    (unpromoted : socket.parentListener = none ∨
      socket.becameConnected (socket.ingress source segment).1 = false) :
    (table.deliverTcpTo index socket source destination segment).1 =
      table.put index (socket.ingress source segment).1 := by
  unfold deliverTcpTo
  simp only
  split
  · rfl
  · split
    · rfl
    · next parent owned =>
      rw [(Socket.ingress_kept segment).parentListener] at owned
      have unconnected : socket.becameConnected (socket.ingress source segment).1 = false := by
        rcases unpromoted with unowned | unconnected
        · rw [unowned] at owned
          cases owned
        · exact unconnected
      rw [unconnected]
      rfl

theorem deliverTcpTo_of_promoted (index : Nat) (segment : TcpSegment) {parent : SocketHandle}
    {action : TcpAction} (owned : socket.parentListener = some parent)
    (connected : socket.becameConnected (socket.ingress source segment).1 = true)
    (accepted : (socket.ingress source segment).2 = .ok action) :
    (table.deliverTcpTo index socket source destination segment).1 =
      ((table.put index (socket.ingress source segment).1).promote parent
        (table.handleAt index)).1 := by
  have ownedAfter : (socket.ingress source segment).1.parentListener = some parent :=
    (Socket.ingress_kept segment).parentListener.trans owned
  unfold deliverTcpTo
  simp only [accepted, ownedAfter, connected, if_true]
  split
  · next promoted error outcome => rw [outcome]
  · next promoted outcome => rw [outcome]

theorem deliverTcp_of_connection (segment : TcpSegment) (initialSequence : Number)
    (connection : table.findTcpConnection source destination = some handle.slot)
    (found : table.find handle = some socket) :
    table.deliverTcp source destination segment initialSequence =
      table.deliverTcpTo handle.slot socket source destination segment := by
  unfold deliverTcp
  rw [connection]
  simp only
  rw [handleAt_of_find found, found]

variable {child : SocketHandle}

theorem find_put_of_ne_handle
    {other : SocketHandle} {slot : Slot} (present : table.slots[child.slot]? = some slot)
    (generation : slot.generation = child.generation) (different : other ≠ child) :
    (table.put child.slot changed).find other = table.find other := by
  by_cases sameSlot : other.slot = child.slot
  · have otherGeneration : slot.generation ≠ other.generation := by
      intro same
      exact different (SocketHandle.ext sameSlot (same.symm.trans generation))
    simp [find, put, sameSlot, present, otherGeneration]
  · simp [find, put, Ne.symm sameSlot]

theorem find_put (found : table.find handle = some socket) (other : SocketHandle) :
    (table.put handle.slot changed).find other =
      if other = handle then some changed else table.find other := by
  split
  · next same =>
    rw [same]
    exact find_put_self found
  · next different => exact find_put_of_ne_handle (find_eq_some.mp found) rfl different

/-- A new socket takes a handle that was not valid. -/
structure Created (table : SocketTable) (child : SocketHandle) (socket : Socket)
    (created : SocketTable) : Prop where
  fresh : table.find child = none
  found : created.find child = some socket
  others : ∀ other, other ≠ child → created.find other = table.find other

theorem created_of_create {kind : SocketKind} {created : SocketTable}
    (creates : table.create kind = (created, .ok child)) :
    Created table child (Socket.new kind) created := by
  revert creates
  fun_cases create with
  | case1 index free =>
    rintro ⟨⟩
    obtain ⟨bounded, vacant, _⟩ := List.findIdx?_eq_some_iff_getElem.mp free
    have present : table.slots[index]? = some table.slots[index] := List.getElem?_eq_getElem bounded
    have empty : (table.slots[index]).socket = none := by
      simpa using vacant
    have generation : (table.slots[index]).generation = (table.handleAt index).generation := by
      simp [handleAt, present]
    refine ⟨?_, ?_, ?_⟩
    · rw [find_handleAt present, empty]
    · rw [find_eq_some]
      simp [put, handleAt, present]
    · intro other different
      exact find_put_of_ne_handle present generation different
  | case2 => rintro ⟨⟩
  | case3 =>
    rintro ⟨⟩
    refine ⟨by simp [find], by simp [find], ?_⟩
    intro other different
    by_cases last : other.slot = table.slots.length
    · have otherGeneration : ¬ 1#16 = other.generation :=
        fun same => different (SocketHandle.ext last same.symm)
      simp [find, last, otherGeneration]
    · rcases Nat.lt_or_ge other.slot table.slots.length with inside | outside
      · simp [find, List.getElem?_append_left inside]
      · have beyond : table.slots.length + 1 ≤ other.slot := by omega
        have before : table.slots[other.slot]? = none := List.getElem?_eq_none (by omega)
        have after : (table.slots ++ [⟨1, some (Socket.new kind)⟩])[other.slot]? = none :=
          List.getElem?_eq_none (by simpa using beyond)
        simp only [find, before, after]

/-! ## Removal -/

theorem find_vacate (index : Nat) (other : SocketHandle) :
    (table.vacate index).find other = if other.slot = index then none else table.find other := by
  unfold find vacate
  by_cases same : other.slot = index
  · rw [same]
    cases slot : table.slots[index]? <;> simp [slot, Slot.vacate]
  · rw [if_neg same]
    simp [Ne.symm same]

/-- Exactly the named handles are no longer valid. -/
def Removed (table : SocketTable) (gone : SocketHandle → Prop) (remaining : SocketTable) : Prop :=
  ∀ other, (gone other → remaining.find other = none) ∧
    (¬ gone other → remaining.find other = table.find other)

theorem removed_vacate (found : table.find handle = some socket) :
    Removed table (fun other => other = handle) (table.vacate handle.slot) := by
  intro other
  rw [find_vacate]
  constructor
  · intro same
    rw [same, if_pos rfl]
  · intro different
    split
    · next sameSlot =>
      cases foundOther : table.find other with
      | none => rfl
      | some =>
        rw [find_eq_some] at found foundOther
        rw [sameSlot, found] at foundOther
        have generation := congrArg Slot.generation (Option.some.inj foundOther)
        exact absurd (SocketHandle.ext sameSlot generation.symm) different
    · rfl

theorem mem_childrenOf :
    child ∈ table.childrenOf handle ↔
      ∃ socket, table.find child = some socket ∧ socket.parentListener = some handle := by
  unfold childrenOf
  rw [List.mem_filter]
  constructor
  · rintro ⟨_, isChild⟩
    cases found : table.find child with
    | none =>
      rw [found] at isChild
      cases isChild
    | some socket =>
      rw [found] at isChild
      exact ⟨socket, rfl, of_decide_eq_true isChild⟩
  · rintro ⟨socket, found, parent⟩
    constructor
    · have present := find_eq_some.mp found
      have bounded : child.slot < table.slots.length := (List.getElem?_eq_some_iff.mp present).1
      exact List.mem_map.mpr ⟨child.slot, List.mem_range.mpr bounded, handleAt_of_find found⟩
    · rw [found]
      exact decide_eq_true parent

theorem Removed.trans {first second : SocketHandle → Prop} {middle remaining : SocketTable}
    (left : Removed table first middle) (right : Removed middle second remaining) :
    Removed table (fun other => first other ∨ second other) remaining := by
  intro other
  constructor
  · rintro (gone | gone)
    · by_cases again : second other
      · exact (right other).1 again
      · rw [(right other).2 again, (left other).1 gone]
    · exact (right other).1 gone
  · intro kept
    rw [not_or] at kept
    rw [(right other).2 kept.2, (left other).2 kept.1]

/-- A socket without sockets of its own is removed alone. -/
theorem discardWithin_leaf {depth : Nat} (found : table.find handle = some socket)
    (leaf : ∀ other socket, table.find other = some socket → socket.parentListener ≠ some handle) :
    Removed table (fun other => other = handle) (discardWithin (depth + 1) table handle).1 := by
  have none : table.childrenOf handle = [] := by
    rw [List.eq_nil_iff_forall_not_mem]
    intro child member
    obtain ⟨socket, foundChild, parent⟩ := mem_childrenOf.mp member
    exact leaf child socket foundChild parent
  rw [discardWithin, get_of_find found]
  simp only [none]
  exact removed_vacate found

/-- The sockets of a listener are removed one after the other. -/
theorem removed_foldl_discardWithin {depth : Nat} {children : List SocketHandle}
    (alive : ∀ child ∈ children, (table.find child).isSome) (distinct : children.Nodup)
    (leaves : ∀ child ∈ children, ∀ other socket, table.find other = some socket →
      socket.parentListener ≠ some child) :
    Removed table (fun other => other ∈ children) (children.foldl
      (fun remaining child => (discardWithin (depth + 1) remaining child).1) table) := by
  induction children generalizing table with
  | nil =>
    intro other
    exact ⟨fun member => (nomatch member), fun _ => rfl⟩
  | cons child rest ih =>
    obtain ⟨notLater, distinctRest⟩ := List.nodup_cons.mp distinct
    obtain ⟨socket, found⟩ := Option.isSome_iff_exists.mp (alive child (List.mem_cons_self ..))
    have first :
        Removed table (fun other => other = child) (discardWithin (depth + 1) table child).1 :=
      discardWithin_leaf found (leaves child (List.mem_cons_self ..))
    have later : Removed (discardWithin (depth + 1) table child).1 (fun other => other ∈ rest) _ :=
      ih
        (fun other member => by
          have different : other ≠ child := by
            intro same
            rw [same] at member
            exact notLater member
          rw [(first other).2 different]
          exact alive other (List.mem_cons_of_mem _ member))
        distinctRest
        (fun parent member other socket foundOther => by
          by_cases same : other = child
          · rw [(first other).1 same] at foundOther
            cases foundOther
          · rw [(first other).2 same] at foundOther
            exact leaves parent (List.mem_cons_of_mem _ member) other socket foundOther)
    intro other
    have both := (first.trans later) other
    constructor
    · intro member
      exact both.1 (List.mem_cons.mp member)
    · intro outside
      exact both.2 (fun gone => outside (List.mem_cons.mpr gone))

theorem childrenOf_nodup : (table.childrenOf handle).Nodup := by
  refine List.Nodup.filter _ (List.Nodup.map_on ?_ List.nodup_range)
  intro left _ right _ same
  exact congrArg SocketHandle.slot same

/-- A socket is removed together with the sockets it has not handed out, when
these have none of their own. -/
theorem removed_discard
    (found : table.find handle = some socket) (notOwn : socket.parentListener ≠ some handle)
    (leaves : ∀ child childSocket, table.find child = some childSocket →
      childSocket.parentListener = some handle →
      ∀ other otherSocket, table.find other = some otherSocket →
        otherSocket.parentListener ≠ some child) :
    Removed table
      (fun other =>
        other = handle ∨ ∃ otherSocket, table.find other = some otherSocket ∧
          otherSocket.parentListener = some handle)
      (table.discard handle).1 := by
  have present := find_eq_some.mp found
  have bounded : handle.slot < table.slots.length := (List.getElem?_eq_some_iff.mp present).1
  obtain ⟨depth, nonempty⟩ : ∃ depth, table.slots.length = depth + 1 :=
    ⟨table.slots.length - 1, by omega⟩
  have first := removed_vacate found
  have notSelf (child : SocketHandle)
      (member : child ∈ table.childrenOf handle) : child ≠ handle := by
    intro same
    obtain ⟨childSocket, foundChild, parent⟩ := mem_childrenOf.mp member
    rw [same, found] at foundChild
    cases foundChild
    exact notOwn parent
  have later :
      Removed (table.vacate handle.slot)
        (fun other => other ∈ table.childrenOf handle)
        ((table.childrenOf handle).foldl
          (fun remaining child => (discardWithin (depth + 1) remaining child).1)
          (table.vacate handle.slot)) := by
    apply removed_foldl_discardWithin
    · intro child member
      rw [(first child).2 (notSelf child member)]
      obtain ⟨childSocket, foundChild, _⟩ := mem_childrenOf.mp member
      rw [foundChild]
      rfl
    · exact childrenOf_nodup
    · intro child member other otherSocket foundOther
      obtain ⟨childSocket, foundChild, parent⟩ := mem_childrenOf.mp member
      by_cases same : other = handle
      · rw [(first other).1 same] at foundOther
        cases foundOther
      · rw [(first other).2 same] at foundOther
        exact leaves child childSocket foundChild parent other otherSocket foundOther
  unfold discard
  rw [nonempty, discardWithin, get_of_find found]
  intro other
  have both := (first.trans later) other
  simp only [mem_childrenOf] at both
  exact both

end SocketTable

end Xenith.Net
