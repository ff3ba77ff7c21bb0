import Xenith.Lib.Execution
import Xenith.Ui.Session

/-!
# Readers of events are woken

A task that is registered and has not been woken is the one in the slot, as
long as no task parks over the registration of another one.
-/

namespace Xenith.Ui.Session

open Execution
open Function
open Util

/-- No task relies on a wake while there is something to read, or while its
process does not own the display. -/
def Attended (process : TaskId → ProcessId) (session : Session) : Prop :=
  ∀ task, session.state.events.len ≠ 0 ∨ session.owner ≠ process task →
    (session.tasks task).registered = false

/-- An iteration of the owner that finds no event and has to wait finds the
slot free or its own. -/
def slotFree (process : TaskId → ProcessId) (session : Session) : Label → Bool
  | .iterate task moment =>
    match session.tasks task with
    | .reading request =>
      decide (session.owner ≠ process task ∨ session.state.events.len ≠ 0 ∨ moment.ends request ∨
        session.state.waiter = none ∨ session.state.waiter = some task)
    | _ => true
  | _ => true

structure Attentive (process : TaskId → ProcessId) (session : Session) : Prop where
  slot : ∀ task, (session.tasks task).registered = true →
    session.state.waiter = some task ∧ session.state.events.len = 0 ∧
      session.owner = process task ∧ process task ≠ 0
  callers : ∀ task request,
    session.tasks task = .reading request ∨ session.tasks task = .parked request →
      0 < request.capacity ∧ process task ≠ 0

variable {process : TaskId → ProcessId} {session next : Session}
variable {task : TaskId} {standing : Standing} {request : ReadRequest}

theorem registered_woken (standing : Standing) : standing.woken.registered = false := by
  cases standing <;> rfl

theorem tasks_wakeWaiter {waiter : Option TaskId} (other : TaskId) :
    (session.wakeWaiter waiter).tasks other =
      if waiter = some other then (session.tasks other).woken
      else session.tasks other := by
  cases waiter with
  | none => rfl
  | some =>
    simp only [wakeWaiter, setTask]
    grind

variable {state : EventState}

theorem tasks_wakeTaken (waiter : state.waiter = session.state.waiter) :
    ({ session with state := state } : Session).wakeTaken.tasks =
      (session.wakeWaiter session.state.waiter).tasks := by
  funext other
  simp only [wakeTaken, tasks_wakeWaiter, waiter]

theorem clearWaiter_other {other : TaskId} (different : other ≠ task)
    (waits : state.waiter = some other) :
    state.clearWaiter task = state := by
  rw [EventState.clearWaiter, if_neg]
  rw [waits]
  exact fun same => different (Option.some.inj same)

theorem stage_eq_nil {capacity : Nat} (positive : 0 < capacity)
    (staged : state.stage capacity = []) : state.events.len = 0 := by
  unfold EventState.stage at staged
  split at staged
  · next none =>
    rw [← RingBuffer.length_contents,
      (List.take_eq_nil_iff.mp none).resolve_left (Nat.ne_of_gt positive), List.length_nil]
  · cases staged

theorem len_commit {count : Nat} (empty : state.events.len = 0) :
    (state.commit count).events.len = 0 := by
  rw [← RingBuffer.length_contents] at empty ⊢
  rw [state.contents_commit, List.length_drop, empty, Nat.zero_sub]

section Attentive

variable (attentive : Attentive process session)

include attentive

theorem Attentive.attended : Attended process session := by
  intro task changed
  rw [Bool.eq_false_iff]
  intro registered
  obtain ⟨_, empty, owner, _⟩ := attentive.slot task registered
  rcases changed with nonempty | foreign
  · exact nonempty empty
  · exact foreign owner

/-- One task changes its standing and is not registered afterwards. -/
theorem Attentive.unregister
    (tasks : next.tasks = update session.tasks task standing) (quiet : standing.registered = false)
    (reads : ∀ request, standing = .reading request → 0 < request.capacity ∧ process task ≠ 0)
    (kept : ∀ other, other ≠ task → session.state.waiter = some other →
      session.state.events.len = 0 → next.state.waiter = some other ∧ next.state.events.len = 0)
    (owner : next.owner = session.owner) : Attentive process next := by
  refine ⟨?_, ?_⟩
  · intro other registered
    rw [tasks, update_apply] at registered
    split at registered
    · rw [quiet] at registered
      cases registered
    · next different =>
      obtain ⟨waiter, empty, owned⟩ := attentive.slot other registered
      obtain ⟨stillWaiter, stillEmpty⟩ := kept other different waiter empty
      rw [owner]
      exact ⟨stillWaiter, stillEmpty, owned⟩
  · intro other request calls
    rw [tasks, update_apply] at calls
    split at calls
    · next same =>
      rw [same]
      rcases calls with reading | parked
      · exact reads request reading
      · rw [parked] at quiet
        cases quiet
    · exact attentive.callers other request calls

/-- A task takes the slot, which nobody else relies on. -/
theorem Attentive.register (tasks : next.tasks = update session.tasks task standing)
    (reads :
      ∀ request, standing = .reading request ∨ standing = .parked request → 0 < request.capacity)
    (free : session.state.waiter = none ∨ session.state.waiter = some task)
    (waiter : next.state.waiter = some task)
    (empty : next.state.events.len = 0) (owner : next.owner = process task)
    (user : process task ≠ 0) : Attentive process next := by
  refine ⟨?_, ?_⟩
  · intro other registered
    rw [tasks, update_apply] at registered
    split at registered
    · next same =>
      rw [same]
      exact ⟨waiter, empty, owner, user⟩
    · next different =>
      have waits := (attentive.slot other registered).1
      rcases free with unused | own
      · rw [unused] at waits
        cases waits
      · rw [own] at waits
        exact absurd (Option.some.inj waits).symm different
  · intro other request calls
    rw [tasks, update_apply] at calls
    split at calls
    · next same =>
      rw [same]
      exact ⟨reads request calls, user⟩
    · exact attentive.callers other request calls

/-- The waiter is woken, so that no task is registered. -/
theorem Attentive.wake (tasks : next.tasks = (session.wakeWaiter session.state.waiter).tasks) :
    Attentive process next := by
  refine ⟨?_, ?_⟩
  · intro other registered
    rw [tasks, tasks_wakeWaiter] at registered
    split at registered
    · rw [registered_woken] at registered
      cases registered
    · next notWaiter => exact absurd (attentive.slot other registered).1 notWaiter
  · intro other request calls
    rw [tasks, tasks_wakeWaiter] at calls
    refine attentive.callers other request ?_
    split at calls
    · cases stands : session.tasks other <;> simp_all [Standing.woken]
    · exact calls

theorem Attentive.acquire
    {pid : ProcessId} {display : Bool} (acquired : session.acquire pid display = .ok next) :
    Attentive process next := by
  rcases acquire_eq_ok acquired with rfl | ⟨_, unowned, _, rfl⟩
  · exact attentive
  · -- nobody is registered while the console owns the display
    refine ⟨?_, attentive.callers⟩
    intro task registered
    obtain ⟨_, _, owner, user⟩ := attentive.slot task registered
    exact absurd (owner.symm.trans unowned) user

theorem Attentive.release {pid : ProcessId}
    (released : session.release pid = .ok next) : Attentive process next := by
  obtain ⟨_, _, rfl⟩ := release_eq_ok released
  apply attentive.wake
  funext other
  simp only [tasks_wakeWaiter, transfer]

theorem Attentive.routeEvent (epoch : Nat) (event : UiInputEvent) :
    Attentive process (session.routeEvent epoch event) := by
  fun_cases Session.routeEvent with
  | case1 =>
    fun_cases kernelFallback with
    | _ => exact { attentive with }
  | case2 => exact attentive
  | case3 =>
    apply attentive.wake
    apply tasks_wakeTaken
    fun_cases EventState.push with
    | _ => rfl

theorem Attentive.iterate
    {moment : Moment} (free : slotFree process session (.iterate task moment) = true)
    (reading : session.tasks task = .reading request) :
    Attentive process ((session.readSection (process task) task request moment).2.setTask task
      (Reply.standing request (session.readSection (process task) task request moment).1)) := by
  obtain ⟨capacity, user⟩ := attentive.callers task request (Or.inl reading)
  simp only [slotFree, reading, decide_eq_true_eq] at free
  rcases readSection_cases session (process task) task request moment with
    ⟨result, read⟩ | ⟨_, _, read⟩ | ⟨owned, unstaged, waits, read⟩
  · rw [read]
    refine attentive.unregister rfl rfl (by simp [Reply.standing]) ?_ rfl
    intro other different waiter empty
    simp only [Session.clearWaiter, clearWaiter_other different waiter]
    exact ⟨waiter, empty⟩
  · rw [read]
    refine attentive.unregister rfl rfl (by simp [Reply.standing]) ?_ rfl
    intro other different waiter empty
    have stillWaits (count : Nat) : (session.state.commit count).waiter = some other := waiter
    simp only [setTask, Session.clearWaiter, clearWaiter_other different (stillWaits _)]
    exact ⟨waiter, len_commit empty⟩
  · have empty := stage_eq_nil capacity unstaged
    have vacant : session.state.waiter = none ∨ session.state.waiter = some task := by
      simpa [owned, empty, waits] using free
    rw [read]
    refine attentive.register rfl ?_ vacant rfl empty owned user
    intro other calls
    cases credit : moment.credit <;>
      simp [credit, Reply.standing] at calls <;> exact calls ▸ capacity

theorem attentive_step {label : Label} (free : slotFree process session label = true)
    (taken : step process session label = some next) :
    Attentive process next := by
  cases label with
  | sample _ device =>
    cases taken
    exact { attentive with }
  | route index =>
    obtain ⟨decoder, _, rfl⟩ := Option.map_eq_some_iff.mp taken
    have moved : Attentive process { session with decoders := session.decoders.eraseIdx index } :=
      { attentive with }
    exact moved.routeEvent decoder.epoch decoder.event
  | popEvent device =>
    cases taken
    cases device <;> exact { attentive with }
  | acquire pid display =>
    cases taken
    cases acquired : session.acquire pid display with
    | error error => exact attentive
    | ok next => exact attentive.acquire acquired
  | release pid =>
    cases taken
    cases released : session.release pid with
    | error error => exact attentive
    | ok next => exact attentive.release released
  | notifySignal pid =>
    cases taken
    fun_cases Session.notifySignal with
    | case1 => exact attentive
    | case2 => exact attentive.wake (tasks_wakeTaken rfl)
  | armExternalWait task =>
    rcases step_armExternalWait taken with
      rfl | ⟨⟨owner, user⟩, empty, free, rfl⟩
    · exact attentive.unregister rfl rfl (by simp) (fun _ _ waiter empty => ⟨waiter, empty⟩) rfl
    · exact attentive.register rfl (by simp) free rfl empty owner user
  | disarmExternalWait task =>
    rw [step_disarmExternalWait taken]
    refine attentive.unregister rfl rfl (by simp) ?_ rfl
    intro other different waiter empty
    simp only [Session.clearWaiter, clearWaiter_other different waiter]
    exact ⟨waiter, empty⟩
  | readEvents task request =>
    rcases step_readEvents taken with rfl | ⟨capacity, user, rfl⟩
    · exact attentive
    · refine attentive.unregister rfl rfl ?_ (fun _ _ waiter empty => ⟨waiter, empty⟩) rfl
      rintro other ⟨⟩
      exact ⟨capacity, user⟩
  | iterate task =>
    obtain ⟨request, reading, rfl⟩ := step_iterate taken
    exact attentive.iterate free reading
  | rouse task =>
    obtain ⟨request, parked, rfl⟩ := step_rouse taken
    refine attentive.unregister rfl rfl ?_ (fun _ _ waiter empty => ⟨waiter, empty⟩) rfl
    rintro other ⟨⟩
    exact attentive.callers task request (Or.inr parked)

end Attentive

/-- **No reader is left asleep** in a run in which no task parks over the
registration of another one. -/
theorem readers_woken (process : TaskId → ProcessId) (labels : List Label) (final : Session)
    (free : Guarded (step process)
      (fun session label => slotFree process session label = true) {} labels)
    (reached : exec (step process) {} labels = some final) :
    Attended process final := by
  have initially : Attentive process {} := ⟨by simp [Standing.registered], by simp⟩
  have attentive : Attentive process final := invariant_of_guarded
    (fun _ _ _ attentive free taken => attentive_step attentive free taken) initially free reached
  exact attentive.attended

/-- Task 1 of process 7 parks, an event arrives and wakes it. -/
def wokenRun : List Label :=
  [.acquire 7 true, .readEvents 1 ⟨4, none⟩ true, .iterate 1 {}, .sample 1 .keyboard, .route 0]

theorem wokenRun_attended :
    ∃ final, exec (step fun _ => 7) {} wokenRun = some final ∧
      final.state.events.len = 1 ∧
      final.tasks 1 = .reading ⟨4, none⟩ ∧ Attended (fun _ => 7) final := by
  refine exists_reached (by decide +kernel) fun final reached => ⟨?_, ?_, ?_⟩
  · exact of_reached reached (by decide +kernel)
  · exact of_reached reached (by decide +kernel)
  · exact readers_woken _ wokenRun final (by decide +kernel) reached

/-- Task 2 parks over the registration of task 1, which then sleeps on while
there is an event to read. -/
theorem overwritten_reader_sleeps :
    ∃ final,
      exec (step fun _ => 7) {}
          [.acquire 7 true, .readEvents 1 ⟨4, none⟩ true, .iterate 1 {},
            .readEvents 2 ⟨4, none⟩ true, .iterate 2 {},
            .sample 1 .keyboard, .route 0] = some final ∧
        ¬ Attended (fun _ => 7) final := by
  refine exists_reached (by decide +kernel) fun final reached attended => ?_
  have nonempty : final.state.events.len ≠ 0 := of_reached reached (by decide +kernel)
  have stands : final.tasks 1 = .parked ⟨4, none⟩ := of_reached reached (by decide +kernel)
  have asleep := attended 1 (Or.inl nonempty)
  rw [stands] at asleep
  cases asleep

end Xenith.Ui.Session
