import Xenith.Net.PassiveOpen

/-!
# The lifecycle of passive opens

The invariant behind the lifecycle, one preservation lemma for each call, and
the runs that leave it.
-/

namespace Xenith.Net

open SocketTable
open Xenith.Sequence
open TcpControlBlock
open TcpFlags

namespace Ledger

/-! ## The invariant -/

/-- A socket that may own children. -/
structure Listens (socket : Socket) : Prop where
  unowned : socket.parentListener = none
  kind : socket.kind = .tcp
  state : socket.tcp.state = .listen ∨ socket.tcp.state = .closed
  attached : socket.detachedAt = none

/-- The state of a child that is not accepted. -/
structure Child (table : SocketTable) (handle : SocketHandle) (socket : Socket)
    (parent : SocketHandle) : Prop where
  attached : socket.detachedAt = none
  listener : ∃ listener, table.find parent = some listener ∧ Listens listener ∧
    ((socket.InHandshake ∧ handle ∉ listener.pending) ∨
      (isReceiving socket.tcp.state = true ∧ handle ∈ listener.pending))

/-- What the invariant says about a socket by itself. -/
structure Sound (socket : Socket) : Prop where
  distinct : socket.pending.Nodup
  backlog : socket.pending.length ≤ socket.listenBacklog
  attached : socket.tcp.state = .listen → socket.detachedAt = none

structure At (ledger : Ledger) (handle : SocketHandle) (socket : Socket) : Prop where
  tracked : handle ∈ ledger.children → handle ∉ ledger.accepted → socket.parentListener ≠ none
  child : ∀ parent, socket.parentListener = some parent → Child ledger.table handle socket parent
  pending : ∀ child ∈ socket.pending, ∃ owned,
    ledger.table.find child = some owned ∧ owned.parentListener = some handle
  sound : Sound socket

def Invariant (ledger : Ledger) : Prop :=
  ∀ ⦃handle socket⦄, ledger.table.find handle = some socket → At ledger handle socket

variable {table : SocketTable} {changed : Socket} {child : SocketHandle}

section Invariant

variable {ledger : Ledger}

theorem Fresh.invariant (fresh : Fresh table) : Invariant (ofTable table) := by
  intro handle socket found
  obtain ⟨unowned, empty⟩ := fresh.unowned handle socket found
  refine ⟨fun member => (nomatch member), ?_, ?_, ?_, ?_, ?_⟩
  · intro parent owned
    rw [unowned] at owned
    cases owned
  · intro child member
    rw [empty] at member
    cases member
  · rw [empty]
    exact List.nodup_nil
  · rw [empty]
    exact Nat.zero_le _
  · exact fresh.attached handle socket found

theorem Invariant.orderly (invariant : Invariant ledger) : Orderly ledger := by
  have unaccepted (child : SocketHandle) (member : child ∈ ledger.children)
      (pending : child ∉ ledger.accepted) (socket : Socket)
      (found : ledger.table.find child = some socket) :
      ∃ parent, socket.parentListener = some parent ∧ Child ledger.table child socket parent := by
    have owned := (invariant found).tracked member pending
    obtain ⟨parent, owned⟩ := Option.ne_none_iff_exists'.mp owned
    exact ⟨parent, owned, (invariant found).child parent owned⟩
  refine ⟨?_, ?_, ?_, fun _ _ found => (invariant found).sound.backlog⟩
  · intro child member
    by_cases accepted : child ∈ ledger.accepted
    · exact Or.inr (Or.inr (Or.inl accepted))
    · cases found : ledger.table.find child with
      | none => exact Or.inr (Or.inr (Or.inr rfl))
      | some socket =>
        obtain ⟨parent, owned, state⟩ := unaccepted child member accepted socket found
        obtain ⟨listener, foundParent, _, handshake | queued⟩ := state.listener
        · exact Or.inl ⟨socket, found, handshake.1.state⟩
        · refine Or.inr (Or.inl ⟨socket, parent, listener, found, owned, foundParent, ?_⟩)
          exact List.count_eq_one_of_mem (invariant foundParent).sound.distinct queued.2
  · intro child member accepted socket found
    obtain ⟨parent, owned, state⟩ := unaccepted child member accepted socket found
    obtain ⟨listener, _, _, handshake | queued⟩ := state.listener
    · rw [handshake.1.state]
      exact nofun
    · intro closed
      rw [closed] at queued
      exact absurd queued.1 Bool.false_ne_true
  · intro child member accepted socket found
    obtain ⟨parent, owned, state⟩ := unaccepted child member accepted socket found
    obtain ⟨listener, foundParent, _⟩ := state.listener
    exact ⟨parent, listener, owned, foundParent⟩

end Invariant

/-! ## Calls that keep the children -/

/-- What a socket keeps over a call. -/
structure Goes (before after : Socket) : Prop where
  kept : Socket.Kept before after
  handshake : before.parentListener ≠ none → before.InHandshake → after.InHandshake
  receiving : before.parentListener ≠ none → isReceiving before.tcp.state = true →
    isReceiving after.tcp.state = true
  listens : Listens before → Listens after
  listening : after.tcp.state = .listen → before.tcp.state = .listen

theorem Goes.sound {before after : Socket}
    (goes : Goes before after) (sound : Sound before) : Sound after := by
  refine ⟨?_, ?_, ?_⟩
  · rw [goes.kept.pending]
    exact sound.distinct
  · rw [goes.kept.pending, goes.kept.listenBacklog]
    exact sound.backlog
  · intro listening
    rw [goes.kept.detachedAt]
    exact sound.attached (goes.listening listening)

theorem Goes.refl (socket : Socket) : Goes socket socket :=
  ⟨Socket.Kept.refl socket, fun _ => id, fun _ => id, id, id⟩

/-- Every socket goes on, or is removed without leaving children behind. -/
structure Evolves (before after : SocketTable) : Prop where
  forward : ∀ handle socket, before.find handle = some socket →
    (∃ changed, after.find handle = some changed ∧ Goes socket changed) ∨
      (after.find handle = none ∧ socket.parentListener = none ∧ ¬ Listens socket)
  backward : ∀ handle changed, after.find handle = some changed →
    ∃ socket, before.find handle = some socket ∧ Goes socket changed

theorem Evolves.refl (table : SocketTable) : Evolves table table :=
  ⟨fun _ socket found => Or.inl ⟨socket, found, Goes.refl socket⟩,
    fun _ changed found => ⟨changed, found, Goes.refl changed⟩⟩

theorem evolves_put {handle : SocketHandle} {socket : Socket}
    (found : table.find handle = some socket) (goes : Goes socket changed) :
    Evolves table (table.put handle.slot changed) := by
  constructor
  · intro other otherSocket foundOther
    rw [find_put found]
    split
    · next same =>
      rw [same, found] at foundOther
      cases foundOther
      exact Or.inl ⟨changed, rfl, goes⟩
    · exact Or.inl ⟨otherSocket, foundOther, Goes.refl otherSocket⟩
  · intro other otherSocket foundOther
    rw [find_put found] at foundOther
    split at foundOther
    · next same =>
      cases foundOther
      rw [same]
      exact ⟨socket, found, goes⟩
    · exact ⟨otherSocket, foundOther, Goes.refl otherSocket⟩

section Steps

variable {ledger : Ledger} {after : SocketTable}

theorem Invariant.evolves (invariant : Invariant ledger) (evolves : Evolves ledger.table after) :
    Invariant { ledger with table := after } := by
  intro handle changed found
  obtain ⟨socket, foundBefore, goes⟩ := evolves.backward _ _ found
  refine ⟨?_, ?_, ?_, goes.sound (invariant foundBefore).sound⟩
  · intro member pending
    rw [goes.kept.parentListener]
    exact (invariant foundBefore).tracked member pending
  · intro parent owned
    rw [goes.kept.parentListener] at owned
    have unaccepted := Option.ne_none_iff_exists'.mpr ⟨_, owned⟩
    obtain ⟨attached, listener, foundParent, listens, state⟩ :=
      (invariant foundBefore).child parent owned
    refine ⟨goes.kept.detachedAt.trans attached, ?_⟩
    rcases evolves.forward parent listener foundParent with
      ⟨listenerAfter, foundAfter, goesParent⟩ | ⟨_, _, removed⟩
    · refine ⟨listenerAfter, foundAfter, goesParent.listens listens, ?_⟩
      rw [goesParent.kept.pending]
      rcases state with ⟨handshake, notQueued⟩ | ⟨receiving, queued⟩
      · exact Or.inl ⟨goes.handshake unaccepted handshake, notQueued⟩
      · exact Or.inr ⟨goes.receiving unaccepted receiving, queued⟩
    · exact absurd listens removed
  · intro child member
    rw [goes.kept.pending] at member
    obtain ⟨owned, foundChild, isOwned⟩ := (invariant foundBefore).pending child member
    rcases evolves.forward child owned foundChild with
      ⟨ownedAfter, foundAfter, goesChild⟩ | ⟨_, unowned, _⟩
    · exact ⟨ownedAfter, foundAfter, goesChild.kept.parentListener.trans isOwned⟩
    · rw [unowned] at isOwned
      cases isOwned

theorem goes_of_same {socket : Socket} (kept : Socket.Kept socket changed)
    (tcp : changed.tcp = socket.tcp) (rx : changed.rx = socket.rx)
    (outOfOrder : changed.outOfOrder = socket.outOfOrder) :
    Goes socket changed := by
  refine ⟨kept, ?_, ?_, ?_, ?_⟩
  · intro _ handshake
    refine ⟨?_, rx.trans handshake.rx, outOfOrder.trans handshake.outOfOrder⟩
    rw [tcp]
    exact handshake.state
  · intro _ receiving
    rw [tcp]
    exact receiving
  · intro listens
    refine ⟨kept.parentListener.trans listens.unowned,
      kept.kind.trans listens.kind, ?_, kept.detachedAt.trans listens.attached⟩
    rw [tcp]
    exact listens.state
  · intro listening
    rw [tcp] at listening
    exact listening

variable {socket : Socket}

theorem goes_retransmit {now : Nat} (retries : socket.parentListener ≠ none → Retries socket now) :
    Goes socket (socket.retransmit now).1 := by
  fun_cases Socket.retransmit with
  | case3 _ _ outstanding due =>
    have accepted : socket.parentListener = none := by
      by_contra unaccepted
      have again := retries unaccepted
      rw [Retries, outstanding] at again
      rcases again with early | again
      · exact due early
      · omega
    refine ⟨⟨rfl, rfl, rfl, rfl, rfl, rfl, rfl⟩, ?_, ?_, ?_, nofun⟩
    · exact fun unaccepted => absurd accepted unaccepted
    · exact fun unaccepted => absurd accepted unaccepted
    · exact fun listens =>
      ⟨listens.unowned, listens.kind, Or.inr rfl, listens.attached⟩
  | case4 => exact goes_of_same ⟨rfl, rfl, rfl, rfl, rfl, rfl, rfl⟩ rfl rfl rfl
  | _ => exact Goes.refl socket

theorem Invariant.evolves_poll
    (invariant : Invariant ledger) {now : Nat} (admitted : Admitted ledger (.poll now)) :
    Evolves ledger.table (ledger.table.pollRetransmissions now).1 := by
  have slotAt (handle : SocketHandle) :
      ((ledger.table.pollRetransmissions now).1).slots[handle.slot]? =
        (ledger.table.slots[handle.slot]?).map (fun slot => (slot.poll now).1) := by
    simp [pollRetransmissions]
  have retries (handle : SocketHandle) (socket : Socket)
      (found : ledger.table.find handle = some socket) :
      socket.parentListener ≠ none → Retries socket now := by
    have present := find_eq_some.mp found
    exact admitted _ (List.mem_of_getElem? present) socket rfl
  constructor
  · intro handle socket found
    have present := find_eq_some.mp found
    have after := slotAt handle
    rw [present, Option.map_some] at after
    unfold Slot.poll at after
    simp only at after
    split at after
    · next reaped =>
      have detached : socket.detachedAt ≠ none := by
        intro attached
        rw [Socket.isReaped, attached] at reaped
        cases reaped
      refine Or.inr ⟨?_, ?_, ?_⟩
      · rw [SocketTable.find, after]
        exact ite_self none
      · cases owned : socket.parentListener with
        | none => rfl
        | some parent =>
          have child := (invariant found).child parent owned
          exact absurd child.attached detached
      · exact fun listens => detached listens.attached
    · split at after
      · exact Or.inl ⟨socket, find_eq_some.mpr after, Goes.refl socket⟩
      · exact Or.inl ⟨_, find_eq_some.mpr after, goes_retransmit (retries handle socket found)⟩
  · intro handle changed found
    have after := find_eq_some.mp found
    rw [slotAt, Option.map_eq_some_iff] at after
    obtain ⟨⟨_, _⟩, present, polled⟩ := after
    unfold Slot.poll at polled
    simp only at polled
    split at polled
    · cases polled
    · next socket =>
      split at polled
      · have vacant := congrArg Slot.socket polled
        cases vacant
      · split at polled
        · cases polled
          have before := find_eq_some.mpr present
          exact ⟨changed, before, Goes.refl changed⟩
        · cases polled
          have before := find_eq_some.mpr present
          exact ⟨socket, before, goes_retransmit (retries _ _ before)⟩

theorem evolves_track
    (table : SocketTable) (handle : SocketHandle) (packet : SocketTx) (now : Nat) :
    Evolves table (table.trackTransmission handle packet now).1 := by
  have queues {socket : Socket} {outstanding : List TcpOutstanding}
      {acks : Nat} (got : table.get handle = .ok socket) :
      Evolves table
        (table.put handle.slot { socket with outstanding := outstanding, duplicateAcks := acks }) :=
    evolves_put (find_of_get got) (goes_of_same ⟨rfl, rfl, rfl, rfl, rfl, rfl, rfl⟩ rfl rfl rfl)
  fun_cases trackTransmission with
  | case7 _ _ _ _ _ _ _ got => exact queues got
  | case9 _ _ _ _ _ _ _ got => exact queues got
  | _ => exact Evolves.refl table

variable {source destination : Endpoint} {index : Nat} {listener : Socket}

/-- A found connection is a socket of the table that does not listen. -/
theorem connection_of_find (selected : table.findTcpConnection source destination = some index) :
    ∃ handle socket, handle.slot = index ∧ table.handleAt index = handle ∧
      table.find handle = some socket ∧ socket.tcp.state ≠ .listen := by
  obtain ⟨bounded, isConnection, _⟩ := List.findIdx?_eq_some_iff_getElem.mp selected
  have present : table.slots[index]? = some table.slots[index] := List.getElem?_eq_getElem bounded
  obtain ⟨socket, occupant, isConnection⟩ := (Option.any_eq_true _ _).mp isConnection
  refine ⟨table.handleAt index, socket, rfl, rfl, ?_, ?_⟩
  · rw [find_handleAt present]
    exact occupant
  · simp only [Socket.isConnection, Bool.and_eq_true, decide_eq_true_eq] at isConnection
    exact isConnection.2

variable {segment : TcpSegment}

theorem goes_ingress {source : Endpoint} (notListening : socket.tcp.state ≠ .listen)
    (receiving :
      socket.parentListener ≠ none → isReceiving socket.tcp.state = true → socket.Spares segment)
    (handshake : socket.parentListener ≠ none → socket.InHandshake →
      (socket.ingress source segment).1.InHandshake) :
    Goes socket (socket.ingress source segment).1 := by
  have kept : Socket.Kept socket (socket.ingress source segment).1 := Socket.ingress_kept segment
  refine ⟨kept, handshake, ?_, ?_, ?_⟩
  · intro unaccepted before
    exact Socket.ingress_receiving before (receiving unaccepted before)
  · intro listens
    have closed : socket.tcp.state = .closed := by
      rcases listens.state with listening | closed
      · exact absurd listening notListening
      · exact closed
    exact ⟨kept.parentListener.trans listens.unowned,
      kept.kind.trans listens.kind, Or.inr (Socket.ingress_closed closed),
      kept.detachedAt.trans listens.attached⟩
  · intro listening
    have never : (socket.ingress source segment).1.tcp.state ≠ .listen :=
      Socket.ingress_tcp (fun tcb => tcb.state ≠ .listen)
        (fun tcb queued before => onSegment_not_listen _ before)
        notListening (onSegment_not_listen _ notListening)
    exact absurd listening never

variable {handle : SocketHandle}

section Invariant

variable (invariant : Invariant ledger)

include invariant

variable {parent : SocketHandle}

/-- Children are not among the sockets that own children. -/
theorem Invariant.not_own
    (found : ledger.table.find handle = some socket) (owned : socket.parentListener = some parent) :
    ∀ other otherSocket, ledger.table.find other = some otherSocket →
      otherSocket.parentListener ≠ some handle := by
  intro other otherSocket foundOther ownedOther
  obtain ⟨_, _, foundParent, listens, _⟩ := (invariant foundOther).child handle ownedOther
  cases found.symm.trans foundParent
  cases owned.symm.trans listens.unowned

theorem Invariant.owner_ne (found : ledger.table.find handle = some socket)
    (owned : socket.parentListener = some parent) : parent ≠ handle := by
  rintro rfl
  exact invariant.not_own found owned _ _ found owned

theorem Invariant.owned_of_pending
    (foundParent : ledger.table.find parent = some listener) (member : handle ∈ listener.pending)
    (found : ledger.table.find handle = some socket) :
    socket.parentListener = some parent := by
  obtain ⟨_, foundQueued, owned⟩ := (invariant foundParent).pending handle member
  cases found.symm.trans foundQueued
  exact owned

/-- Sockets are removed with all their children, and queued children only with
their listener. -/
theorem Invariant.removed
    {gone : SocketHandle → Prop} (removed : SocketTable.Removed ledger.table gone after)
    (downward : ∀ handle socket parent, ledger.table.find handle = some socket →
      socket.parentListener = some parent → gone parent → gone handle)
    (unqueued : ∀ handle listener, ledger.table.find handle = some listener →
      ¬ gone handle → ∀ child ∈ listener.pending, ¬ gone child) :
    Invariant { ledger with table := after } := by
  intro handle socket found
  have remains : ¬ gone handle := by
    intro isGone
    rw [(removed handle).1 isGone] at found
    cases found
  rw [(removed handle).2 remains] at found
  refine ⟨?_, ?_, ?_, (invariant found).sound⟩
  · intro member pending
    exact (invariant found).tracked member pending
  · intro parent owned
    obtain ⟨attached, listener, foundParent, listens, state⟩ := (invariant found).child parent owned
    have parentRemains : ¬ gone parent :=
      fun isGone => remains (downward handle socket parent found owned isGone)
    refine ⟨attached, listener, ?_, listens, state⟩
    rw [(removed parent).2 parentRemains]
    exact foundParent
  · intro child member
    obtain ⟨owned, foundChild, isOwned⟩ := (invariant found).pending child member
    refine ⟨owned, ?_, isOwned⟩
    rw [(removed child).2 (unqueued handle socket found remains child member)]
    exact foundChild

theorem Invariant.discard
    (admitted : ∀ socket ∈ ledger.table.find handle, socket.parentListener = none) :
    Invariant { ledger with table := (ledger.table.discard handle).1 } := by
  cases found : ledger.table.find handle with
  | none =>
    have unchanged : (ledger.table.discard handle).1 = ledger.table := by
      unfold SocketTable.discard
      rw [discardWithin, SocketTable.get, found]
    rw [unchanged]
    exact invariant
  | some socket =>
    have unowned := admitted socket found
    have removed := removed_discard found (by rw [unowned]; exact (Option.some_ne_none _).symm)
      (fun child childSocket foundChild owned => invariant.not_own foundChild owned)
    refine invariant.removed removed ?_ ?_
    · rintro other otherSocket parent foundOther owned
        (same | ⟨parentSocket, foundParent, parentOwned⟩)
      · rw [same] at owned
        exact Or.inr ⟨otherSocket, foundOther, owned⟩
      · exact absurd owned (invariant.not_own foundParent parentOwned other otherSocket foundOther)
    · rintro parent _ foundParent remains child member (same | ⟨childSocket, foundChild, owned⟩)
      · have owned := invariant.owned_of_pending foundParent (same ▸ member) found
        rw [unowned] at owned
        cases owned
      · have parentOwned := invariant.owned_of_pending foundParent member foundChild
        rw [owned] at parentOwned
        cases parentOwned
        exact remains (Or.inl rfl)

variable {socket : Socket} {handle : SocketHandle}

section

variable (found : ledger.table.find handle = some socket)

include found

/-- A child changes, and its listener queues it or hands it out. -/
theorem Invariant.relink {queue accepted : List SocketHandle}
    (owned : socket.parentListener = some parent)
    (foundParent : ledger.table.find parent = some listener)
    (atParent : after.find parent = some { listener with pending := queue })
    (atHandle : after.find handle = some changed)
    (elsewhere :
      ∀ other, other ≠ parent → other ≠ handle → after.find other = ledger.table.find other)
    (members : ∀ other, other ≠ handle → (other ∈ queue ↔ other ∈ listener.pending))
    (distinct : queue.Nodup) (bounded : queue.length ≤ listener.listenBacklog)
    (pending : changed.pending = socket.pending) (sound : Sound changed)
    (accepts : ∀ other, other ∈ ledger.accepted → other ∈ accepted)
    (state : (changed.parentListener = none ∧ handle ∈ accepted ∧ handle ∉ queue) ∨
      (changed.parentListener = some parent ∧ changed.detachedAt = none ∧
        isReceiving changed.tcp.state = true ∧ handle ∈ queue)) :
    Invariant { ledger with table := after, accepted := accepted } := by
  obtain ⟨_, _, foundAgain, listens, _⟩ := (invariant found).child parent owned
  cases foundParent.symm.trans foundAgain
  have stillListens : Listens { listener with pending := queue } :=
    ⟨listens.unowned, listens.kind, listens.state, listens.attached⟩
  -- the other children stay where they are
  have sibling {other owner : SocketHandle} {otherSocket : Socket}
      (foundOther : ledger.table.find other = some otherSocket)
      (ownedOther : otherSocket.parentListener = some owner)
      (notHandle : other ≠ handle) : after.find other = some otherSocket := by
    rw [elsewhere other ?_ notHandle]
    · exact foundOther
    · rintro rfl
      rw [foundParent] at foundOther
      cases foundOther
      rw [listens.unowned] at ownedOther
      cases ownedOther
  intro other otherSocket foundAfter
  -- every socket behind the call is the listener, the child or an old one
  by_cases isParent : other = parent
  · subst isParent
    cases foundAfter.symm.trans atParent
    refine ⟨?_, ?_, ?_, distinct, bounded, fun _ => listens.attached⟩
    · intro member pending
      exact (invariant foundParent).tracked member fun before => pending (accepts other before)
    · intro owner ownedParent
      rw [listens.unowned] at ownedParent
      cases ownedParent
    · intro child member
      by_cases isHandle : child = handle
      · rcases state with ⟨_, _, notQueued⟩ | ⟨stillOwned, _⟩
        · exact absurd (isHandle ▸ member) notQueued
        · rw [isHandle]
          exact ⟨changed, atHandle, stillOwned⟩
      · obtain ⟨childSocket, foundChild, ownedChild⟩ :=
          (invariant foundParent).pending child ((members child isHandle).mp member)
        exact ⟨childSocket, sibling foundChild ownedChild isHandle, ownedChild⟩
  by_cases isHandle : other = handle
  · subst isHandle
    cases foundAfter.symm.trans atHandle
    refine ⟨?_, ?_, ?_, sound⟩
    · intro _ notAccepted
      rcases state with ⟨_, isAccepted, _⟩ | ⟨stillOwned, _⟩
      · exact absurd isAccepted notAccepted
      · rw [stillOwned]
        exact nofun
    · intro owner ownedChild
      rcases state with ⟨handedOut, _⟩ | ⟨stillOwned, attached, queued⟩
      · rw [handedOut] at ownedChild
        cases ownedChild
      · rw [stillOwned] at ownedChild
        cases ownedChild
        exact ⟨attached, _, atParent, stillListens, Or.inr queued⟩
    · intro child member
      rw [pending] at member
      obtain ⟨childSocket, foundChild, ownedChild⟩ := (invariant found).pending child member
      exact absurd ownedChild (invariant.not_own found owned child childSocket foundChild)
  rw [elsewhere other isParent isHandle] at foundAfter
  refine ⟨?_, ?_, ?_, (invariant foundAfter).sound⟩
  · intro member notAccepted
    exact (invariant foundAfter).tracked member fun before => notAccepted (accepts other before)
  · intro owner ownedOther
    obtain ⟨attached, owner', foundOwner, listensOwner, stage⟩ :=
      (invariant foundAfter).child owner ownedOther
    by_cases same : owner = parent
    · rw [same, foundParent] at foundOwner
      cases foundOwner
      rw [same]
      refine ⟨attached, _, atParent, stillListens, ?_⟩
      rw [members other isHandle]
      exact stage
    · have notChild : owner ≠ handle := by
        rintro rfl
        exact invariant.not_own found owned _ _ foundAfter ownedOther
      refine ⟨attached, owner', ?_, listensOwner, stage⟩
      rw [elsewhere owner same notChild]
      exact foundOwner
  · intro child member
    obtain ⟨childSocket, foundChild, ownedChild⟩ := (invariant foundAfter).pending child member
    have notHandle : child ≠ handle := by
      rintro rfl
      have owner := invariant.owned_of_pending foundAfter member found
      rw [owned] at owner
      cases owner
      exact isParent rfl
    exact ⟨childSocket, sibling foundChild ownedChild notHandle, ownedChild⟩

theorem Invariant.promote (owned : socket.parentListener = some parent)
    (handshake : socket.InHandshake) (kept : Socket.Kept socket changed)
    (established : changed.tcp.state = .established) :
    Invariant
      { ledger with
        table := ((ledger.table.put handle.slot changed).promote parent handle).1 } := by
  obtain ⟨attached, listener, foundParent, _, state⟩ := (invariant found).child parent owned
  have notQueued : handle ∉ listener.pending := by
    rcases state with ⟨_, notQueued⟩ | ⟨receiving, _⟩
    · exact notQueued
    · rw [handshake.state] at receiving
      cases receiving
  have different := invariant.owner_ne found owned
  have lookup (other : SocketHandle) :
      (ledger.table.put handle.slot changed).find other =
        if other = handle then some changed else ledger.table.find other :=
    find_put found other
  have foundAfter : (ledger.table.put handle.slot changed).find parent = some listener := by
    rw [lookup, if_neg different]
    exact foundParent
  unfold SocketTable.promote
  rw [get_of_find foundAfter]
  simp only
  split
  · have removed :
        SocketTable.Removed (ledger.table.put handle.slot changed)
          (fun other => other = handle)
          ((ledger.table.put handle.slot changed).discard handle).1 := by
      apply discardWithin_leaf (find_put_self found)
      intro other otherSocket foundOther
      rw [lookup] at foundOther
      split at foundOther
      · cases foundOther
        rw [kept.parentListener, owned]
        exact fun same => different (Option.some.inj same)
      · exact invariant.not_own found owned other otherSocket foundOther
    have removedBefore :
        SocketTable.Removed ledger.table (fun other => other = handle)
          ((ledger.table.put handle.slot changed).discard handle).1 := by
      intro other
      refine ⟨(removed other).1, ?_⟩
      intro remains
      rw [(removed other).2 remains, lookup, if_neg remains]
    refine invariant.removed removedBefore ?_ ?_
    · intro other otherSocket owner foundOther ownedOther same
      rw [same] at ownedOther
      exact absurd ownedOther (invariant.not_own found owned other otherSocket foundOther)
    · intro owner owner' foundOwner _ child member same
      rw [same] at member
      have ownedChild := invariant.owned_of_pending foundOwner member found
      rw [owned] at ownedChild
      cases ownedChild
      cases foundParent.symm.trans foundOwner
      exact notQueued member
  · next room =>
    have sound := (invariant found).sound
    have distinct := (invariant foundParent).sound.distinct
    refine invariant.relink found owned foundParent
      (find_put_self foundAfter) ?_ ?_ ?_ ?_ ?_ kept.pending
      ⟨?_, ?_, ?_⟩ (fun _ member => member) (Or.inr ⟨?_, ?_, ?_, ?_⟩)
    · rw [find_put foundAfter, if_neg (Ne.symm different), lookup, if_pos rfl]
    · intro other notParent notHandle
      rw [find_put foundAfter, if_neg notParent, lookup, if_neg notHandle]
    · intro other notHandle
      simp [notHandle]
    · exact ListEdit.nodup_append_singleton distinct notQueued
    · simpa using Nat.not_le.mp room
    · rw [kept.pending]
      exact sound.distinct
    · rw [kept.pending, kept.listenBacklog]
      exact sound.backlog
    · intro listening
      rw [established] at listening
      cases listening
    · exact kept.parentListener.trans owned
    · exact kept.detachedAt.trans attached
    · rw [established]
      rfl
    · exact List.mem_append_right _ (List.mem_singleton_self handle)

theorem Invariant.deliverTo (notListening : socket.tcp.state ≠ .listen)
    (spares : SparesChild socket segment) (source destination : Endpoint) :
    Invariant
      { ledger with
        table := (ledger.table.deliverTcpTo handle.slot socket source destination segment).1 } := by
  have kept : Socket.Kept socket (socket.ingress source segment).1 := Socket.ingress_kept segment
  have goesOn
      (unpromoted : socket.parentListener = none ∨
        socket.becameConnected (socket.ingress source segment).1 = false)
      (handshake : socket.parentListener ≠ none → socket.InHandshake →
        (socket.ingress source segment).1.InHandshake) :
      Invariant
        { ledger with
          table :=
            (ledger.table.deliverTcpTo handle.slot socket source destination segment).1 } := by
    rw [deliverTcpTo_of_not_promoted _ _ unpromoted]
    exact invariant.evolves (evolves_put found
      (goes_ingress notListening (fun unaccepted _ => (spares unaccepted).1) handshake))
  cases owned : socket.parentListener with
  | none => exact goesOn (Or.inl owned) (fun unaccepted => absurd owned unaccepted)
  | some parent =>
    have unaccepted := Option.ne_none_iff_exists'.mpr ⟨_, owned⟩
    obtain ⟨_, _, _, _, ⟨handshake, _⟩ | ⟨receiving, _⟩⟩ := (invariant found).child parent owned
    · have progress : (socket.ingress source segment).1.InHandshake ∨ _ :=
        Socket.ingress_of_handshake handshake (spares unaccepted).1
          ((spares unaccepted).2 handshake.state)
      rcases progress with ongoing | ⟨established, action, accepted⟩
      · refine goesOn (Or.inr ?_) (fun _ _ => ongoing)
        simp [Socket.becameConnected, ongoing.state]
      · have connected : socket.becameConnected (socket.ingress source segment).1 = true := by
          simp [Socket.becameConnected, handshake.state, established]
        rw [deliverTcpTo_of_promoted _ _ owned connected accepted, handleAt_of_find found]
        exact invariant.promote found owned handshake kept established
    · have open_ : socket.tcp.state ≠ .synReceived := by
        intro received
        rw [received] at receiving
        cases receiving
      refine goesOn (Or.inr ?_) (fun _ handshake => absurd handshake.state open_)
      simp [Socket.becameConnected, open_]

end

theorem Invariant.newChild (fresh : ledger.table.find child = none)
    (foundParent : ledger.table.find parent = some listener)
    (listening : listener.tcp.state = .listen) (kind : listener.kind = .tcp)
    (owned : socket.parentListener = some parent)
    (handshake : socket.InHandshake) (attached : socket.detachedAt = none)
    (pending : socket.pending = [])
    (lookup :
      ∀ other, after.find other = if other = child then some socket else ledger.table.find other) :
    Invariant
      { table := after
        children := child :: ledger.children
        accepted := ledger.accepted.filter (fun other => other ≠ child) } := by
  have alive {other : SocketHandle} {otherSocket : Socket}
      (found : ledger.table.find other = some otherSocket) :
      other ≠ child := by
    intro same
    rw [same, fresh] at found
    cases found
  have old {other : SocketHandle} {otherSocket : Socket}
      (found : ledger.table.find other = some otherSocket) :
      after.find other = some otherSocket := by
    rw [lookup, if_neg (alive found)]
    exact found
  have listens : Listens listener := by
    refine ⟨?_, kind, Or.inl listening, (invariant foundParent).sound.attached listening⟩
    cases ownedParent : listener.parentListener with
    | none => rfl
    | some owner =>
      obtain ⟨_, _, _, _, ⟨handshake, _⟩ | ⟨receiving, _⟩⟩ :=
        (invariant foundParent).child owner ownedParent
      · rw [handshake.state] at listening
        cases listening
      · rw [listening] at receiving
        cases receiving
  intro other otherSocket found
  rw [lookup] at found
  split at found
  · next same =>
    cases found
    refine ⟨?_, ?_, ?_, by simp [pending], by simp [pending], fun _ => attached⟩
    · intro _ _
      rw [owned]
      exact nofun
    · intro owner isOwner
      rw [owned] at isOwner
      cases isOwner
      refine ⟨attached, listener, old foundParent, listens, Or.inl ⟨handshake, ?_⟩⟩
      intro member
      obtain ⟨_, foundChild, _⟩ := (invariant foundParent).pending other member
      exact alive foundChild same
    · intro queued member
      rw [pending] at member
      cases member
  · next different =>
    refine ⟨?_, ?_, ?_, (invariant found).sound⟩
    · intro member notAccepted
      have memberBefore : other ∈ ledger.children := by
        rcases List.mem_cons.mp member with same | old
        · exact absurd same different
        · exact old
      refine (invariant found).tracked memberBefore ?_
      intro accepted
      exact notAccepted (List.mem_filter.mpr ⟨accepted, decide_eq_true different⟩)
    · intro owner isOwner
      obtain ⟨attachedOther, owner', foundOwner, listensOwner, state⟩ :=
        (invariant found).child owner isOwner
      exact ⟨attachedOther, owner', old foundOwner, listensOwner, state⟩
    · intro queued member
      obtain ⟨queuedSocket, foundQueued, isOwned⟩ := (invariant found).pending queued member
      exact ⟨queuedSocket, old foundQueued, isOwned⟩

end Invariant

variable {initialSequence : Number}

/-- A SYN without a RST starts the handshake of a new child. -/
theorem ingress_newChild {listener : SocketHandle} (opening : isOpening segment = true)
    (noReset : segment.has rst = false) :
    ((SocketTable.newChild listener source destination
      initialSequence).ingress source segment).1.InHandshake := by
  have settled :
      Socket.Settled ((SocketTable.newChild listener source destination
        initialSequence).processTcpIngress source segment).1 _ :=
    Socket.ingress_settled segment
  rw [isOpening, Bool.and_eq_true, Bool.not_eq_true'] at opening
  have processed :
      ((SocketTable.newChild listener source destination
        initialSequence).processTcpIngress source segment).1.InHandshake := by
    unfold Socket.processTcpIngress
    simp only [Socket.processInOrder, SocketTable.newChild, onSegment,
      onListenSegment, noReset, opening.1, opening.2, Bool.false_eq_true,
      Bool.true_eq_false, if_false, TcpAction.takesPayload, Socket.queuePayload, if_true]
    exact ⟨rfl, rfl, rfl⟩
  refine ⟨?_, ?_, ?_⟩
  · rw [settled.tcp]
    exact processed.state
  · rw [settled.rx]
    exact processed.rx
  · rcases settled.outOfOrder with same | empty
    · rw [same]
      exact processed.outOfOrder
    · exact empty

/-- A found listener is a TCP socket of the table in the state `Listen`. -/
theorem listener_of_find
    {destination : Endpoint} (selected : table.findTcpListener destination = some index) :
    ∃ listener, table.find (table.handleAt index) = some listener ∧
      listener.kind = .tcp ∧ listener.tcp.state = .listen := by
  obtain ⟨bounded, isListener, _⟩ := List.findIdx?_eq_some_iff_getElem.mp selected
  have present : table.slots[index]? = some table.slots[index] := List.getElem?_eq_getElem bounded
  obtain ⟨listener, occupant, isListener⟩ := (Option.any_eq_true _ _).mp isListener
  simp only [Socket.isListener, Bool.and_eq_true, decide_eq_true_eq] at isListener
  refine ⟨listener, ?_, isListener.1.1, isListener.2⟩
  rw [find_handleAt present]
  exact occupant

section Invariant

variable (invariant : Invariant ledger)

include invariant

theorem Invariant.open
    {created : SocketTable} (selected : ledger.table.findTcpListener destination = some index)
    (opening : isOpening segment = true) (noReset : segment.has rst = false)
    (creates : ledger.table.create .tcp = (created, .ok child)) :
    Invariant
      { table :=
          ((created.put child.slot (SocketTable.newChild (ledger.table.handleAt index) source
            destination initialSequence)).deliverTcpTo child.slot
            (SocketTable.newChild (ledger.table.handleAt index) source destination initialSequence)
            source destination segment).1
        children := child :: ledger.children
        accepted := ledger.accepted.filter (fun other => other ≠ child) } := by
  generalize isNew :
    SocketTable.newChild (ledger.table.handleAt index) source destination initialSequence = socket
  have creation := created_of_create creates
  obtain ⟨_, foundParent, kind, listening⟩ := listener_of_find selected
  have kept : Socket.Kept socket (socket.ingress source segment).1 := Socket.ingress_kept segment
  have handshake : (socket.ingress source segment).1.InHandshake := by
    rw [← isNew]
    exact ingress_newChild opening noReset
  have unconnected : socket.becameConnected (socket.ingress source segment).1 = false := by
    simp [Socket.becameConnected, handshake.state]
  rw [deliverTcpTo_of_not_promoted _ _ (Or.inr unconnected)]
  refine invariant.newChild creation.fresh foundParent listening kind ?_ handshake ?_ ?_ ?_
  · rw [kept.parentListener, ← isNew]
    rfl
  · rw [kept.detachedAt, ← isNew]
    rfl
  · rw [kept.pending, ← isNew]
    rfl
  · intro other
    have placed : (created.put child.slot socket).find child = some socket :=
      find_put_self creation.found
    rw [find_put placed, find_put creation.found]
    split
    · rfl
    · next different => exact creation.others other different

variable {next : Ledger}

theorem Invariant.deliver
    (admitted : Admitted ledger (.deliver source destination segment initialSequence))
    (stepped : ledger.step (.deliver source destination segment initialSequence) = some next) :
    Invariant next := by
  simp only [Admitted] at admitted
  revert stepped
  rw [step]
  fun_cases SocketTable.deliverTcp with
  | case1 index selected missing =>
    obtain ⟨handle, socket, _, handleAt, found, _⟩ := connection_of_find selected
    rw [handleAt, found] at missing
    cases missing
  | case2 index selected socket found =>
    obtain ⟨handle, same, slot, handleAt, foundAgain, notListening⟩ := connection_of_find selected
    rw [handleAt, foundAgain] at found
    cases found
    rw [createdChild, selected]
    rintro ⟨⟩
    rw [selected] at admitted
    rw [← slot]
    refine invariant.deliverTo foundAgain notListening ?_ source destination
    exact admitted socket (by rw [handleAt]; exact foundAgain)
  | case3 selected listener =>
    rw [createdChild, selected, listener]
    rintro ⟨⟩
    exact invariant
  | case4 selected index listener closed =>
    rw [createdChild, selected, listener, closed]
    rintro ⟨⟩
    exact invariant
  | case5 selected index listener opening unchanged _ creates =>
    rw [Bool.not_eq_false] at opening
    rw [createdChild, selected, listener, opening, creates]
    rintro ⟨⟩
    have same : unchanged = ledger.table := by
      revert creates
      fun_cases SocketTable.create with
      | case2 =>
        rintro ⟨⟩
        rfl
      | _ => rintro ⟨⟩
    rw [same]
    exact invariant
  | case6 selected index listener opening _ _ creates =>
    rw [Bool.not_eq_false] at opening
    rw [createdChild, selected, listener, opening, creates]
    rintro ⟨⟩
    rw [selected] at admitted
    exact invariant.open listener opening (admitted opening) creates

theorem Invariant.handOut
    {rest : List SocketHandle} (found : ledger.table.find handle = some listener)
    (pending : listener.pending = child :: rest) :
    ∃ socket,
      (ledger.table.put handle.slot { listener with pending := rest }).get child = .ok socket ∧
        Invariant
          { ledger with
            table := (ledger.table.put handle.slot
              { listener with pending := rest }).put child.slot
              { socket with parentListener := none }
            accepted := child :: ledger.accepted } := by
  have member : child ∈ listener.pending := by
    rw [pending]
    exact List.mem_cons_self ..
  obtain ⟨socket, foundChild, owned⟩ := (invariant found).pending child member
  have different := Ne.symm (invariant.owner_ne foundChild owned)
  have foundPopped :
      (ledger.table.put handle.slot { listener with pending := rest }).find
        child = some socket := by
    rw [find_put found, if_neg different]
    exact foundChild
  have sound := (invariant found).sound
  have distinct := sound.distinct
  rw [pending, List.nodup_cons] at distinct
  have bounded := sound.backlog
  rw [pending] at bounded
  have childSound := (invariant foundChild).sound
  refine ⟨socket, get_of_find foundPopped, ?_⟩
  refine invariant.relink foundChild owned found ?_
    (find_put_self foundPopped) ?_ ?_ distinct.2 (Nat.le_of_succ_le bounded) rfl
    ⟨childSound.distinct, childSound.backlog, childSound.attached⟩
    (fun _ => List.mem_cons_of_mem child) (Or.inl ⟨rfl, List.mem_cons_self .., distinct.1⟩)
  · rw [find_put foundPopped, if_neg (Ne.symm different), find_put found, if_pos rfl]
  · intro other notParent notHandle
    rw [find_put foundPopped, if_neg notHandle, find_put found, if_neg notParent]
  · intro other notChild
    simp [pending, notChild]

theorem Invariant.accept (stepped : ledger.step (.accept handle) = some next) : Invariant next := by
  revert stepped
  rw [step]
  fun_cases SocketTable.accept with
  | case5 listener got _ _ child rest pending _ _ missing =>
    obtain ⟨socket, gotChild, _⟩ := invariant.handOut (find_of_get got) pending
    cases gotChild.symm.trans missing
  | case6 listener got _ _ child rest pending _ socket gotChild =>
    obtain ⟨_, gotAgain, handed⟩ := invariant.handOut (find_of_get got) pending
    cases gotAgain.symm.trans gotChild
    rintro ⟨⟩
    exact handed
  | _ =>
    rintro ⟨⟩
    exact invariant

theorem Invariant.close
    (admitted : ∀ socket ∈ ledger.table.find handle, socket.parentListener = none) :
    Invariant { ledger with table := (ledger.table.close handle).1 } := by
  have goesOn {socket : Socket} {tcp : TcpControlBlock} {reply : TcpReply}
      (got : ledger.table.get handle = .ok socket)
      (closable : socket.tcp.state = .established ∨ socket.tcp.state = .closeWait)
      (closed : socket.tcp.close = .ok (tcp, reply)) :
      Invariant
        { ledger with
          table := ledger.table.put handle.slot { socket with tcp := tcp } } := by
    have found := find_of_get got
    have unowned := admitted socket found
    refine invariant.evolves (evolves_put found
      ⟨⟨rfl, rfl, rfl, rfl, rfl, rfl, rfl⟩, ?_, ?_, ?_, ?_⟩)
    · exact fun unaccepted => absurd unowned unaccepted
    · exact fun unaccepted => absurd unowned unaccepted
    · intro listens
      rcases closable with state | state <;>
        rcases listens.state with other | other <;>
        · rw [state] at other
          cases other
    · intro listening
      unfold TcpControlBlock.close at closed
      rcases closable with state | state <;>
        · rw [state] at closed
          cases closed
          cases listening
  have discarded := invariant.discard admitted
  fun_cases SocketTable.close with
  | case3 socket got closable tcp reply closed => exact goesOn got closable.2 closed
  | case4 socket got closable tcp reply closed => exact goesOn got closable.2 closed
  | case5 _ _ _ changed _ outcome =>
    rw [outcome] at discarded
    exact discarded
  | case6 _ _ _ changed outcome =>
    rw [outcome] at discarded
    exact discarded
  | _ => exact invariant

/-- Every admitted call of the table keeps the invariant. -/
theorem Invariant.step {call : TableCall} (admitted : Admitted ledger call)
    (stepped : ledger.step call = some next) : Invariant next := by
  cases call with
  | deliver => exact invariant.deliver admitted stepped
  | accept => exact invariant.accept stepped
  | close handle =>
    cases stepped
    exact invariant.close admitted
  | discard handle =>
    cases stepped
    exact invariant.discard admitted
  | track handle packet now =>
    cases stepped
    exact invariant.evolves (evolves_track _ handle packet now)
  | poll now =>
    cases stepped
    exact invariant.evolves (invariant.evolves_poll admitted)

end Invariant

end Steps

/-! ## Every run -/

open Execution

/-- Every child of a listener is in its handshake, queued once, accepted or
gone; none outlives its listener, and no queue exceeds its backlog. -/
theorem passive_open_orderly
    {table : SocketTable} {calls : List TableCall} {final : Ledger} (fresh : Fresh table)
    (guarded : Guarded step Admitted (ofTable table) calls)
    (reached : exec step (ofTable table) calls = some final) :
    Orderly final := by
  have invariant : Invariant final := invariant_of_guarded
    (fun _ _ _ invariant admitted stepped => invariant.step admitted stepped)
    fresh.invariant guarded reached
  exact invariant.orderly

/-- The conditions of `Fresh`, slot by slot. -/
theorem fresh_of_slots
    (slots : ∀ slot ∈ table.slots, ∀ socket ∈ slot.socket,
      (socket.parentListener = none ∧ socket.pending = []) ∧
        (socket.tcp.state = .listen → socket.detachedAt = none)) :
    Fresh table := by
  have atHandle (handle : SocketHandle) (socket : Socket)
      (found : table.find handle = some socket) :=
    slots _ (List.mem_of_getElem? (find_eq_some.mp found)) socket rfl
  exact ⟨fun handle socket found => (atHandle handle socket found).1,
    fun handle socket found => (atHandle handle socket found).2⟩

/-- A table with one listener and a backlog of two. -/
def listeningTable : SocketTable where
  slots :=
    [⟨1, some
      { Socket.new .tcp with
        localEndpoint := some Reception.serverEndpoint
        tcp := { TcpControlBlock.fresh 65535 with state := .listen }
        listenBacklog := 2 }⟩]

def fromClient (port : BitVec 16) (segment : TcpSegment) : TableCall :=
  .deliver ⟨0x0a000002#32, port⟩ Reception.serverEndpoint segment 1000

def synSegment : TcpSegment := ⟨100, 0, syn, 4096, []⟩

/-- A handshake that ends with data, an `accept`, and a second handshake that
is open when the listener is closed. -/
def servedCalls : List TableCall :=
  [fromClient 1 synSegment, .poll 5,
    fromClient 1 ⟨101, 1001, ack, 4096, [1, 2]⟩,
    fromClient 2 synSegment, .accept ⟨0, 1⟩, .close ⟨0, 1⟩]

theorem servedCalls_orderly :
    ∃ final, exec step (ofTable listeningTable) servedCalls = some final ∧
      final.children = [⟨2, 1⟩, ⟨1, 1⟩] ∧ final.accepted = [⟨1, 1⟩] ∧
      Orderly final := by
  refine exists_reached (by decide +kernel) fun final reached => ⟨?_, ?_, ?_⟩
  · exact of_reached reached (by decide +kernel)
  · exact of_reached reached (by decide +kernel)
  · exact passive_open_orderly (fresh_of_slots (by decide +kernel)) (by decide +kernel) reached

/-- A child that has left its handshake and is neither queued nor accepted. -/
def isLeaked (ledger : Ledger) (child : SocketHandle) : Bool :=
  decide (child ∈ ledger.children) && decide (child ∉ ledger.accepted) &&
    (ledger.table.find child).any (fun socket => decide (socket.tcp.state ≠ .synReceived)) &&
    ledger.table.slots.all (fun slot =>
      slot.socket.all (fun socket => decide (child ∉ socket.pending)))

theorem not_orderly_of_isLeaked {ledger : Ledger}
    (leaked : ledger.isLeaked child = true) : ¬ Orderly ledger := by
  intro orderly
  simp only [isLeaked, Bool.and_eq_true, decide_eq_true_eq] at leaked
  obtain ⟨⟨⟨member, notAccepted⟩, present⟩, notQueued⟩ := leaked
  obtain ⟨_, found, connected⟩ := (Option.any_eq_true _ _).mp present
  rw [decide_eq_true_eq] at connected
  rcases orderly.lifecycle child member with
    ⟨again, foundAgain, handshake⟩ |
      ⟨_, parent, listener, _, _, foundParent, once⟩ | accepted | removed
  · rw [found] at foundAgain
    cases foundAgain
    exact connected handshake
  · have slot := List.mem_of_getElem? (find_eq_some.mp foundParent)
    have absent := List.all_eq_true.mp notQueued _ slot
    simp only [Option.all_some, decide_eq_true_eq] at absent
    rw [List.count_eq_zero_of_not_mem absent] at once
    cases once
  · exact notAccepted accepted
  · rw [found] at removed
    cases removed

/-- The SYN-ACK of the first child, as it is tracked. -/
def synAck : SocketTx where
  protocol := .tcp
  source := Reception.serverEndpoint
  destination := ⟨0x0a000002#32, 1⟩
  payload := []
  tcp := some ⟨1000, 101, syn.union ack, 65535⟩

/-- A SYN with a RST; a FIN on the last segment of the handshake; a RST in the
handshake; and a handshake that times out. -/
def leakingCalls : List (List TableCall) :=
  [[fromClient 1 ⟨100, 0, syn.union rst, 4096, []⟩],
    [fromClient 1 synSegment, fromClient 1 ⟨101, 1001, ack.union fin, 4096, []⟩],
    [fromClient 1 synSegment, fromClient 1 ⟨101, 0, rst, 4096, []⟩],
    [fromClient 1 synSegment, .track ⟨1, 1⟩ synAck 0] ++
      (List.range 7).map (fun turn => .poll ((turn + 1) * 10000000000))]

theorem passive_open_not_orderly :
    leakingCalls.Forall fun calls =>
      ∃ final, exec step (ofTable listeningTable) calls = some final ∧ ¬ Orderly final := by
  rw [List.forall_iff_forall_mem]
  intro calls member
  have leaks :
      ∀ calls ∈ leakingCalls, ∃ final, exec step (ofTable listeningTable) calls = some final ∧
        final.isLeaked ⟨1, 1⟩ = true := by
    decide +kernel
  obtain ⟨final, reached, leaked⟩ := leaks calls member
  exact ⟨final, reached, not_orderly_of_isLeaked leaked⟩

end Ledger

end Xenith.Net
