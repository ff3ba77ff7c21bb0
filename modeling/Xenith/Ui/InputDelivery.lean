import Xenith.Lib.Execution
import Xenith.Ui.Session

/-!
# Input stays in its period

A decoder holds its token for any time.  An event is delivered in the period in
which it was sampled as long as no token becomes active again while a decoder
still holds it.
-/

namespace Xenith.Ui.Session

open Execution
open Util

/-- A later event of a period has a greater number.  A number is left out only
in front of a read that reports the overflow. -/
def Follows (earlier later : Delivery) : Prop :=
  earlier.event.sequence < later.event.sequence ∧
    (later.event.sequence = earlier.event.sequence + 1 ∨
      later.starts = true ∧ later.event.flags &&& uiEventFlagOverflow ≠ 0)

def log (session : Session) (period : Period) : List Delivery :=
  session.delivered.filter fun delivery => delivery.during = period

/-- Events reach the owner of the period in which they were sampled, in order,
and a read that fails removes nothing. -/
structure Separated (session : Session) : Prop where
  confined : ∀ delivery ∈ session.delivered,
    delivery.event.sampled = delivery.during ∧ delivery.reader = delivery.during.owner
  ordered : ∀ period, period.owner ≠ 0 → (session.log period).IsChain Follows
  failed : ∀ pid task request moment error,
    (session.readSection pid task request moment).1 = .returned (.error error) →
      (session.readSection pid task request moment).2.state.events = session.state.events

/-- A token that becomes active is held by no decoder, and the sequence numbers
are not used up. -/
def tokenFresh (session : Session) : Label → Bool
  | .acquire pid display =>
    decide (pid = 0 ∨ session.owner ≠ 0 ∨ display = false) ||
      session.decoders.all fun decoder => decoder.epoch ≠ (nextInputEpoch session.nextEpoch).1
  | .release pid =>
    decide (pid = 0 ∨ session.owner ≠ pid) || session.decoders.all fun decoder => decoder.epoch ≠ 0
  | .route _ => decide (session.state.nextSequence < 2 ^ 64 - 1)
  | _ => true

/-- The events carry consecutive numbers. -/
def Numbered : Nat → List UiInputEvent → Prop
  | _, [] => True
  | first, event :: rest => event.sequence = first ∧ Numbered (first + 1) rest

structure Orderly (session : Session) : Prop where
  token : session.activeInputEpoch = 0 ↔ session.owner = 0
  decoders : ∀ decoder ∈ session.decoders,
    decoder.epoch = session.activeInputEpoch → decoder.event.sampled = session.period
  queued : ∀ event ∈ session.state.events.contents, event.sampled = session.period
  console :
    ∀ event ∈ session.keyboard ++ session.mouse, event.sampled = session.period ∧ session.owner = 0
  past : ∀ delivery ∈ session.delivered, delivery.during.number ≤ session.changes
  confined : ∀ delivery ∈ session.delivered,
    delivery.event.sampled = delivery.during ∧ delivery.reader = delivery.during.owner
  ordered : ∀ period, period.owner ≠ 0 → (session.log period).IsChain Follows
  numbered : ∃ first, first + session.state.events.len = session.state.nextSequence ∧
    Numbered first session.state.events.contents ∧
    (session.owner ≠ 0 → ∀ last ∈ (session.log session.period).getLast?,
      last.event.sequence < first ∧
        (session.state.overflowPending = false → last.event.sequence + 1 = first))

variable {session next : Session}

/-! ## Numbers -/

variable {first : Nat} {pid reader : ProcessId}

theorem numbered_append {front back : List UiInputEvent} :
    Numbered first (front ++ back) ↔
      Numbered first front ∧ Numbered (first + front.length) back := by
  induction front generalizing first with
  | nil => simp [Numbered]
  | cons _ _ ih =>
    rw [List.cons_append, Numbered, Numbered, ih,
      List.length_cons, and_assoc, Nat.add_right_comm, ← Nat.add_assoc]

/-- Behind an event the numbers go on without a gap. -/
theorem isChain_numbered {events : List UiInputEvent} {previous : Delivery} {period : Period}
    (numbered : Numbered (previous.event.sequence + 1) events) :
    (previous :: events.map fun event => ⟨event, reader, period, false⟩).IsChain Follows := by
  induction events generalizing previous with
  | nil => exact List.isChain_singleton _
  | cons event rest ih =>
    obtain ⟨isNext, rest⟩ := numbered
    rw [List.map_cons, List.isChain_cons_cons]
    refine ⟨⟨by rw [isNext]; exact Nat.lt_succ_self _, Or.inl isNext⟩, ?_⟩
    apply ih
    rw [isNext]
    exact rest

variable {staged : List UiInputEvent}

theorem isChain_deliveries (numbered : Numbered first staged) :
    (session.deliveries reader staged).IsChain Follows := by
  cases staged with
  | nil => exact List.isChain_nil
  | cons _ rest =>
    obtain ⟨isFirst, rest⟩ := numbered
    rw [← isFirst] at rest
    exact isChain_numbered rest

theorem getLast?_deliveries (numbered : Numbered first staged) {last : Delivery}
    (isLast : last ∈ (session.deliveries reader staged).getLast?) :
    last.event.sequence + 1 = first + staged.length := by
  induction staged using List.reverseRecOn with
  | nil => cases isLast
  | append_singleton front event =>
    obtain ⟨_, _, _⟩ := numbered_append.mp numbered
    have sameEvent : last.event = event := by
      cases front with
      | nil =>
        cases isLast
        rfl
      | cons =>
        simp only [deliveries, List.cons_append, List.map_append,
          List.map_cons, List.map_nil, Option.mem_def] at isLast
        rw [← List.cons_append, List.getLast?_concat] at isLast
        cases isLast
        rfl
    rw [sameEvent, List.length_append, List.length_singleton]
    omega

/-- What the invariant depends on. -/
def core (session : Session) : Session :=
  { session with
    nextEpoch := 0
    tasks := fun _ => .outside
    state := { session.state with waiter := none, dropped := 0 } }

theorem Orderly.of_core (orderly : Orderly session) (same : next.core = session.core) :
    Orderly next := by
  have seen : Orderly session.core := { orderly with }
  rw [← same] at seen
  exact { seen with }

theorem core_wakeWaiter (waiter : Option TaskId) :
    (session.wakeWaiter waiter).core = session.core := by
  cases waiter <;> rfl

theorem core_wakeTaken : session.wakeTaken.core = session.core := by
  rw [wakeTaken, core_wakeWaiter]
  rfl

theorem core_clearWaiter (task : TaskId) : (session.clearWaiter task).core = session.core := by
  unfold Session.clearWaiter EventState.clearWaiter
  split <;> rfl

/-! ## Delivery -/

section Delivery

variable {events keyboard mouse : List UiInputEvent} {reader : ProcessId}

theorem during_deliveries
    {delivery : Delivery} (member : delivery ∈ session.deliveries reader events) :
    delivery.during = session.period ∧ delivery.reader = reader ∧ delivery.event ∈ events := by
  cases events with
  | nil => cases member
  | cons =>
    simp only [deliveries, List.mem_cons, List.mem_map] at member ⊢
    rcases member with rfl | ⟨event, inside, rfl⟩
    · exact ⟨rfl, rfl, Or.inl rfl⟩
    · exact ⟨rfl, rfl, Or.inr inside⟩

/-- What is read belongs to the current period. -/
theorem log_append
    (delivered : next.delivered = session.delivered ++ session.deliveries reader events)
    (period : Period) :
    next.log period =
      if period = session.period then session.log period ++ session.deliveries reader events
      else session.log period := by
  rw [log, delivered, List.filter_append]
  split
  · next current =>
    congr 1
    rw [List.filter_eq_self]
    intro delivery member
    rw [(during_deliveries member).1, current]
    exact decide_eq_true rfl
  · next other =>
    refine (congrArg _ (List.filter_eq_nil_iff.mpr ?_)).trans (List.append_nil _)
    intro delivery member
    rw [(during_deliveries member).1, decide_eq_true_eq]
    exact Ne.symm other

/-- Events of the current period go to its owner. -/
theorem Orderly.confined_append (orderly : Orderly session)
    (delivered : next.delivered = session.delivered ++ session.deliveries reader events)
    (current : ∀ event ∈ events, event.sampled = session.period)
    (owner : events ≠ [] → reader = session.owner) :
    ∀ delivery ∈ next.delivered, delivery.during.number ≤ session.changes ∧
      delivery.event.sampled = delivery.during ∧
      delivery.reader = delivery.during.owner := by
  intro delivery member
  rw [delivered, List.mem_append] at member
  rcases member with old | new
  · exact ⟨orderly.past delivery old, orderly.confined delivery old⟩
  · obtain ⟨during, isReader, inside⟩ := during_deliveries new
    rw [during, isReader]
    exact ⟨Nat.le_refl _, current _ inside, owner (List.ne_nil_of_mem inside)⟩

variable {capacity : Nat} {state : EventState}

theorem sampled_stage {period : Period}
    (queued : ∀ event ∈ state.events.contents, event.sampled = period) :
    ∀ event ∈ state.stage capacity, event.sampled = period := by
  intro event member
  revert member
  fun_cases EventState.stage with
  | case1 => nofun
  | case2 first rest taken =>
    have inside : ∀ event ∈ first :: rest, event.sampled = period := by
      rw [← taken]
      exact fun event member => queued event (List.mem_of_mem_take member)
    intro member
    rcases List.mem_cons.mp member with rfl | later
    · split <;> exact inside first (List.mem_cons_self ..)
    · exact inside event (List.mem_cons_of_mem _ later)

theorem length_stage (state : EventState) (capacity : Nat) :
    (state.stage capacity).length = (state.events.contents.take capacity).length := by
  fun_cases EventState.stage with
  | case1 none => rw [none]
  | case2 _ _ taken =>
    rw [taken]
    rfl

theorem numbered_stage (numbered : Numbered first state.events.contents) (capacity : Nat) :
    Numbered first (state.stage capacity) ∧ Numbered (first + (state.stage capacity).length)
      (state.commit (state.stage capacity).length).events.contents := by
  have whole := numbered
  rw [← List.take_append_drop capacity state.events.contents, numbered_append] at whole
  have taken : Numbered first (state.stage capacity) := by
    fun_cases EventState.stage with
    | case1 => trivial
    | case2 _ _ isTaken =>
      rw [isTaken] at whole
      refine ⟨?_, whole.1.2⟩
      split <;> exact whole.1.1
  have dropped :
      state.events.contents.drop (state.events.contents.take capacity).length =
        state.events.contents.drop capacity := by
    rw [List.length_take]
    rcases Nat.le_total capacity state.events.contents.length with short | long
    · rw [Nat.min_eq_left short]
    · rw [Nat.min_eq_right long, List.drop_length, List.drop_of_length_le long]
  rw [state.contents_commit, length_stage, dropped]
  exact ⟨taken, whole.2⟩

/-- The first event of a read follows the last one of the read before. -/
theorem follows_stage {last head : Delivery} (numbered : Numbered first state.events.contents)
    (before : last.event.sequence < first ∧
      (state.overflowPending = false → last.event.sequence + 1 = first))
    (isHead : head ∈ (session.deliveries reader (state.stage capacity)).head?) :
    Follows last head := by
  have staged := (numbered_stage numbered capacity).1
  unfold EventState.stage at isHead staged
  split at isHead
  · cases isHead
  · next event rest taken =>
    rw [taken] at staged
    cases isHead
    obtain ⟨isFirst, _⟩ := staged
    refine ⟨by rw [isFirst]; exact before.1, ?_⟩
    cases overflow : state.overflowPending with
    | false =>
      rw [overflow] at isFirst
      exact Or.inl (isFirst.trans (before.2 overflow).symm)
    | true =>
      refine Or.inr ⟨rfl, ?_⟩
      intro zero
      have bit := congrArg (fun flags => flags.toBitVec.getLsbD 15) zero
      simp [uiEventFlagOverflow] at bit

theorem Orderly.read (orderly : Orderly session) (nonempty : session.state.stage capacity ≠ [])
    (read :
      next =
        { session with
          state := session.state.commit (session.state.stage capacity).length
          delivered := session.delivered ++
            session.deliveries session.owner (session.state.stage capacity) }) :
    Orderly next := by
  have delivered := congrArg Session.delivered read
  have logs := log_append delivered
  have confined := orderly.confined_append delivered (sampled_stage orderly.queued) (fun _ => rfl)
  obtain ⟨first, total, numbered, before⟩ := orderly.numbered
  obtain ⟨staged, remaining⟩ := numbered_stage numbered capacity
  subst read
  refine
    { orderly with
      queued := fun event member => orderly.queued event
        (List.mem_of_mem_drop (session.state.contents_commit _ ▸ member))
      past := fun _ member => (confined _ member).1
      confined := fun _ member => (confined _ member).2
      ordered := ?_
      numbered := ⟨first + (session.state.stage capacity).length, ?_, remaining, ?_⟩ }
  · intro period user
    rw [logs]
    split
    · next current =>
      rw [current] at user ⊢
      refine (orderly.ordered _ user).append (isChain_deliveries staged) ?_
      intro last isLast head isHead
      exact follows_stage numbered (before user last isLast) isHead
    · exact orderly.ordered period user
  · have fits := length_stage session.state capacity
    rw [List.length_take] at fits
    rw [← RingBuffer.length_contents, session.state.contents_commit, List.length_drop]
    rw [← RingBuffer.length_contents] at total
    dsimp only [EventState.commit]
    omega
  · intro _ last isLast
    change last ∈ (Session.log _ session.period).getLast? at isLast
    rw [logs, if_pos rfl, List.getLast?_append_of_ne_nil] at isLast
    · have isNext := getLast?_deliveries staged isLast
      exact ⟨by omega, fun _ => isNext⟩
    · cases isStaged : session.state.stage capacity with
      | nil => exact absurd isStaged nonempty
      | cons event => exact List.cons_ne_nil _ _

theorem Orderly.pop (orderly : Orderly session)
    (sampled : ∀ event ∈ events, event.sampled = session.period ∧ session.owner = 0)
    (fewer : ∀ event ∈ keyboard ++ mouse, event ∈ session.keyboard ++ session.mouse)
    (popped :
      next =
        { session with
          keyboard := keyboard
          mouse := mouse
          delivered := session.delivered ++ session.deliveries 0 events }) :
    Orderly next := by
  have delivered := congrArg Session.delivered popped
  have logs := log_append delivered
  have confined := orderly.confined_append delivered
    (fun event member => (sampled event member).1)
    (fun nonempty => by
      obtain ⟨event, member⟩ := List.exists_mem_of_ne_nil _ nonempty
      exact (sampled event member).2.symm)
  have same (period : Period) (user : period.owner ≠ 0) : next.log period = session.log period := by
    rw [logs]
    split
    · next current =>
      cases events with
      | nil => exact List.append_nil _
      | cons event =>
        rw [current] at user
        exact absurd (sampled event (List.mem_cons_self ..)).2 user
    · rfl
  obtain ⟨first, total, numbered, before⟩ := orderly.numbered
  subst popped
  refine
    { orderly with
      console := fun event member => orderly.console event (fewer event member)
      past := fun _ member => (confined _ member).1
      confined := fun _ member => (confined _ member).2
      ordered := fun period user => ?_
      numbered := ⟨first, total, numbered, fun user => ?_⟩ }
  · rw [same period user]
    exact orderly.ordered period user
  · have unchanged := same session.period user
    intro last isLast
    exact before user last (by rw [← unchanged]; exact isLast)

end Delivery

/-! ## Routing and ownership -/

variable {event : UiInputEvent}

/-- An event of the current period is queued for its owner. -/
theorem Orderly.push (orderly : Orderly session) (sampled : event.sampled = session.period)
    (bounded : session.state.nextSequence < 2 ^ 64 - 1) :
    Orderly { session with state := session.state.push event } := by
  obtain ⟨first, total, numbered, before⟩ := orderly.numbered
  have queued := orderly.queued
  have counted :
      (session.state.push event).nextSequence =
        max ((session.state.nextSequence + 1) % 2 ^ 64) 1 := by
    fun_cases EventState.push <;> rfl
  rw [← RingBuffer.length_contents] at total
  rcases session.state.push_cases event with
    ⟨flagged, pushed⟩ | ⟨flagged, oldest, rest, contents, pushed⟩
  · refine
      { orderly with
        queued := ?_
        numbered := ⟨first, ?_, ?_, ?_⟩ }
    · rw [pushed]
      exact List.forall_mem_append.mpr ⟨queued, List.forall_mem_singleton.mpr sampled⟩
    · rw [← RingBuffer.length_contents, pushed, List.length_append, List.length_singleton, counted]
      omega
    · rw [pushed]
      exact numbered_append.mpr ⟨numbered, total.symm, trivial⟩
    · rw [flagged]
      exact before
  · rw [contents] at total numbered queued
    rw [List.length_cons] at total
    refine
      { orderly with
        queued := ?_
        numbered := ⟨first + 1, ?_, ?_, ?_⟩ }
    · rw [pushed]
      exact List.forall_mem_append.mpr
        ⟨(List.forall_mem_cons.mp queued).2, List.forall_mem_singleton.mpr sampled⟩
    · rw [← RingBuffer.length_contents, pushed, List.length_append, List.length_singleton, counted]
      omega
    · rw [pushed]
      exact numbered_append.mpr ⟨numbered.2, by dsimp only; omega, trivial⟩
    · intro user last isLast
      have below := (before user last isLast).1
      exact ⟨by omega, by simp [flagged]⟩

/-- An event of the current period goes to the console. -/
theorem Orderly.kernelFallback (orderly : Orderly session)
    (sampled : event.sampled = session.period) (unowned : session.owner = 0) :
    Orderly (session.kernelFallback event) := by
  have more
      {keyboard mouse : List UiInputEvent}
      (members :
        ∀ other ∈ keyboard ++ mouse, other ∈ session.keyboard ++ session.mouse ∨ other = event) :
      Orderly { session with keyboard := keyboard, mouse := mouse } := by
    refine { orderly with console := ?_ }
    intro other member
    rcases members other member with old | rfl
    · exact orderly.console other old
    · exact ⟨sampled, unowned⟩
  fun_cases Session.kernelFallback with
  | case3 => exact orderly
  | _ =>
    apply more
    intro other member
    have tail := List.mem_of_mem_tail (a := other) (l := session.keyboard)
    simp only [List.mem_append, List.mem_singleton] at member ⊢
    tauto

theorem Orderly.transfer
    (orderly : Orderly session) {owner : ProcessId} {epoch : Nat} (token : epoch = 0 ↔ owner = 0)
    (fresh : ∀ decoder ∈ session.decoders, decoder.epoch ≠ epoch) :
    Orderly (session.transfer owner epoch) := by
  have empty : (session.transfer owner epoch).log (session.transfer owner epoch).period = [] := by
    rw [log, List.filter_eq_nil_iff]
    intro delivery member
    have past := orderly.past delivery member
    rw [decide_eq_true_eq]
    intro during
    rw [during] at past
    exact absurd past (Nat.not_succ_le_self _)
  have cleared : (session.transfer owner epoch).state.events.contents = [] :=
    RingBuffer.contents_clear
  refine ⟨token, ?_, by simp [cleared], by simp [Session.transfer], ?_, orderly.confined,
    orderly.ordered, session.state.nextSequence, ?_, by rw [cleared]; trivial, ?_⟩
  · intro decoder member active
    exact absurd active (fresh decoder member)
  · intro delivery member
    exact Nat.le_succ_of_le (orderly.past delivery member)
  · rw [← RingBuffer.length_contents, cleared]
    rfl
  · intro _ last isLast
    rw [empty] at isLast
    cases isLast

theorem nextInputEpoch_ne_zero (counter : Nat) : (nextInputEpoch counter).1 ≠ 0 := by
  unfold nextInputEpoch
  split
  · exact Nat.one_ne_zero
  · assumption

/-! ## Steps -/

section Orderly

variable (orderly : Orderly session)

include orderly

theorem Orderly.routeEvent {decoder : Decoder}
    (sampled : decoder.epoch = session.activeInputEpoch → decoder.event.sampled = session.period)
    (bounded : session.state.nextSequence < 2 ^ 64 - 1) :
    Orderly (session.routeEvent decoder.epoch decoder.event) := by
  unfold Session.routeEvent
  fun_cases classifyEventRoute with
  | case1 => exact orderly
  | case2 active console =>
    exact orderly.kernelFallback (sampled (not_not.mp active)) (orderly.token.mp console)
  | case3 active =>
    exact (orderly.push (sampled (not_not.mp active)) bounded).of_core core_wakeTaken

theorem orderly_acquire {display : Bool} (fresh : tokenFresh session (.acquire pid display) = true)
    (acquired : session.acquire pid display = .ok next) : Orderly next := by
  rcases acquire_eq_ok acquired with rfl | ⟨user, unowned, shown, rfl⟩
  · exact orderly
  · have counted :
        Orderly
          { session with nextEpoch := (nextInputEpoch session.nextEpoch).2 } :=
      { orderly with }
    refine counted.transfer ?_ ?_
    · exact iff_of_false (nextInputEpoch_ne_zero _) user
    · simpa [tokenFresh, user, unowned, shown] using fresh

theorem orderly_release (fresh : tokenFresh session (.release pid) = true)
    (released : session.release pid = .ok next) : Orderly next := by
  obtain ⟨user, owned, rfl⟩ := release_eq_ok released
  have moved : Orderly (session.transfer 0 0) :=
    orderly.transfer Iff.rfl (by simpa [tokenFresh, user, owned] using fresh)
  exact moved.of_core (core_wakeWaiter _)

theorem orderly_iterate {task : TaskId} {request : ReadRequest} {moment : Moment} :
    Orderly (session.readSection pid task request moment).2 := by
  rcases readSection_cases session pid task request moment with
    ⟨result, read⟩ | ⟨owned, nonempty, read⟩ | ⟨_, _, _, read⟩
  · rw [read]
    exact (orderly.of_core (core_clearWaiter task)).of_core rfl
  · rw [read, ← owned]
    exact (orderly.read nonempty rfl).of_core (core_clearWaiter task)
  · rw [read]
    exact orderly.of_core rfl

/-- Every step of a task or a device keeps the events in order and in their period. -/
theorem orderly_step
    {process : TaskId → ProcessId} {label : Label} (fresh : tokenFresh session label = true)
    (taken : step process session label = some next) : Orderly next := by
  cases label with
  | sample _ device =>
    cases taken
    exact { orderly with
      decoders := List.forall_mem_append.mpr
        ⟨orderly.decoders, List.forall_mem_singleton.mpr fun _ => rfl⟩ }
  | route index =>
    obtain ⟨decoder, found, rfl⟩ := Option.map_eq_some_iff.mp taken
    have fewer : Orderly { session with decoders := session.decoders.eraseIdx index } :=
      { orderly with
        decoders := fun decoder member =>
          orderly.decoders decoder (List.mem_of_mem_eraseIdx member) }
    exact fewer.routeEvent
      (orderly.decoders decoder (List.mem_of_getElem? found)) (of_decide_eq_true fresh)
  | popEvent device =>
    cases taken
    cases device
    all_goals
      refine orderly.pop ?_ ?_ rfl
      · intro event member
        have queued := List.mem_of_mem_take member
        exact orderly.console event (by simp [queued])
      · intro event member
        have keyboard := List.mem_of_mem_tail (a := event) (l := session.keyboard)
        have mouse := List.mem_of_mem_tail (a := event) (l := session.mouse)
        simp only [List.mem_append] at member ⊢
        tauto
  | acquire pid display =>
    cases taken
    cases acquired : session.acquire pid display with
    | error error => exact orderly
    | ok next => exact orderly_acquire orderly fresh acquired
  | release pid =>
    cases taken
    cases released : session.release pid with
    | error error => exact orderly
    | ok next => exact orderly_release orderly fresh released
  | notifySignal pid =>
    cases taken
    fun_cases Session.notifySignal with
    | case1 => exact orderly
    | case2 => exact orderly.of_core core_wakeTaken
  | armExternalWait task =>
    rcases step_armExternalWait taken with rfl | ⟨_, _, _, rfl⟩
    · exact orderly.of_core rfl
    · exact orderly.of_core rfl
  | disarmExternalWait task =>
    rw [step_disarmExternalWait taken]
    exact (orderly.of_core (core_clearWaiter task)).of_core rfl
  | readEvents task request =>
    rcases step_readEvents taken with rfl | ⟨_, _, rfl⟩
    · exact orderly
    · exact orderly.of_core rfl
  | iterate task =>
    obtain ⟨request, _, rfl⟩ := step_iterate taken
    exact (orderly_iterate orderly).of_core rfl
  | rouse task =>
    obtain ⟨request, _, rfl⟩ := step_rouse taken
    exact orderly.of_core rfl

theorem Orderly.separated : Separated session := by
  refine ⟨orderly.confined, orderly.ordered, ?_⟩
  intro pid task request moment error returned
  rcases readSection_cases session pid task request moment with
    ⟨result, read⟩ | ⟨_, _, read⟩ | ⟨_, _, _, read⟩
  · rw [read]
    exact congrArg (fun core => core.state.events) (core_clearWaiter task)
  · rw [read] at returned
    cases returned
  · rw [read]
    rfl

end Orderly

/-- **Input never crosses sessions** in a run in which no token becomes active
while a decoder still holds it. -/
theorem input_confined (process : TaskId → ProcessId) (labels : List Label) (final : Session)
    (fresh :
      Guarded (step process) (fun session label => tokenFresh session label = true) {} labels)
    (reached : exec (step process) {} labels = some final) :
    Separated final := by
  have initially : Orderly {} := ⟨Iff.rfl, by simp, by rintro _ ⟨⟩, by simp, by simp, by simp,
    fun _ _ => List.isChain_nil, 1, rfl, trivial, fun user => absurd rfl user⟩
  have orderly : Orderly final := invariant_of_guarded
    (fun _ _ _ orderly fresh taken => orderly_step orderly fresh taken) initially fresh reached
  exact orderly.separated

/-- Process 7 reads one event of its period; an event of the console that is
routed meanwhile is discarded. -/
def confinedRun : List Label :=
  [.sample 0 .keyboard, .acquire 7 true, .sample 1 .mouse, .route 0, .route 0,
    .readEvents 1 ⟨4, none⟩ true, .iterate 1 {}]

theorem confinedRun_separated :
    ∃ final, exec (step fun _ => 7) {} confinedRun = some final ∧
      final.delivered = [⟨⟨1, 1, .mouse, ⟨1, 7⟩⟩, 7, ⟨1, 7⟩, true⟩] ∧
      Separated final := by
  refine exists_reached (by decide +kernel) fun final reached => ?_
  exact ⟨of_reached reached (by decide +kernel),
    input_confined _ confinedRun final (by decide +kernel) reached⟩

/-- The console gets, after process 7 has owned the display, an event that was
sampled before: both periods of the console have token zero. -/
theorem stale_console_event :
    ∃ final,
      exec (step fun _ => 7) {}
          [.sample 0 .keyboard, .acquire 7 true, .release 7, .route 0,
            .popEvent .keyboard] = some final ∧
        ¬ Separated final := by
  refine exists_reached (by decide +kernel) fun final reached separated => ?_
  have delivered : final.delivered = [⟨⟨0, 0, .keyboard, ⟨0, 0⟩⟩, 0, ⟨2, 0⟩, true⟩] :=
    of_reached reached (by decide +kernel)
  have crossed := separated.confined ⟨⟨0, 0, .keyboard, ⟨0, 0⟩⟩, 0, ⟨2, 0⟩, true⟩
    (by rw [delivered]; exact List.mem_singleton_self _)
  exact absurd crossed.1 (by decide)

end Xenith.Ui.Session
