import Xenith.Lib.Execution
import Xenith.Sched.TaskTracking

/-!
# Queue discipline

Every task is in exactly one place in every state of every run.
-/

namespace Xenith.Sched.Scheduler

open Function
open Execution

/-! ## Processors -/

/-- What a processor knows about itself. -/
structure View where
  phase : Phase
  current : Option TaskId
  retired : Option TaskId
  idle : Option TaskId
  executing : Option TaskId

def view (scheduler : Scheduler) (cpu : Cpu) : View where
  phase := scheduler.phase cpu
  current := scheduler.currentNode cpu
  retired := scheduler.retiredTask cpu
  idle := scheduler.idleTasks cpu
  executing := scheduler.executing cpu

/-- The slots of a processor agree with how far it has come in a call. -/
def Controlled (view : View) : Prop :=
  match view.phase with
  | .offline => view.current = none ∧ view.retired = none ∧ view.idle = none ∧ view.executing = none
  | .running => view.idle.isSome ∧ view.retired = none ∧ view.executing = view.current
  | .picked handover previous next =>
    view.idle.isSome ∧ view.retired = none ∧ view.current = none ∧
      view.executing = some previous ∧ view.idle ≠ some previous ∧
      next.isSome ∧ (handover = .sleeping → next ≠ some previous)
  | .exiting =>
    view.idle.isSome ∧ view.current.isSome ∧ view.retired = view.current ∧
      view.executing = view.current
  | .switching (some previous) next =>
    view.idle.isSome ∧ view.retired = none ∧ view.current = some next ∧
      view.executing = some previous ∧ previous ≠ next
  | .switching none next =>
    view.idle.isSome ∧ view.current = some next ∧ view.executing = view.retired
  | .switched => view.idle.isSome ∧ view.current.isSome ∧ view.executing = view.current
  | .reclaiming _ =>
    view.idle.isSome ∧ view.current.isSome ∧ view.retired = none ∧ view.executing = view.current

/-- The processor runs on the stack of the task or has yet to reclaim it. -/
def View.Occupies (seen : View) (id : TaskId) : Prop :=
  seen.executing = some id ∨ seen.retired = some id ∨ seen.phase = .reclaiming id

/-- What a step other than a switch does to a processor. -/
structure Carried (scheduler next : Scheduler) (before after : View) : Prop where
  executing : after.executing = before.executing
  occupied : ∀ id, (next.allTasks id).isSome → before.Occupies id → after.Occupies id
  idle : ∀ id, after.idle = some id → before.idle = some id ∨ scheduler.allTasks id = none

/-- What a step other than a switch does to all processors; it stages only a
fresh task. -/
structure Continues (scheduler next : Scheduler) : Prop where
  carried : ∀ cpu, Carried scheduler next (scheduler.view cpu) (next.view cpu)
  staged : ∀ token ∈ next.staged, token ∈ scheduler.staged ∨ token.id = scheduler.nextTaskId

/-- No processor changes, and no task is staged or taken. -/
def Undisturbed (scheduler next : Scheduler) : Prop :=
  next.view = scheduler.view ∧ next.staged = scheduler.staged

/-- One processor changes, and no task is staged or taken. -/
def Changes (scheduler next : Scheduler) (cpu : Cpu) (changed : View) : Prop :=
  next.view = update scheduler.view cpu changed ∧ next.staged = scheduler.staged

variable {seen : View} {call : Call}

section Views

variable {scheduler next later : Scheduler} {position : TaskId → Position}
variable {cpu other : Cpu} {id : TaskId} {changed : View}

theorem Changes.refl : Changes scheduler scheduler cpu (scheduler.view cpu) :=
  ⟨(update_eq_self ..).symm, rfl⟩

theorem Changes.followed (changes : Changes scheduler next cpu changed)
    (same : Undisturbed next later) : Changes scheduler later cpu changed :=
  ⟨same.1.trans changes.1, same.2.trans changes.2⟩

variable {phase : Phase}

section Changes

variable (changes : Changes scheduler next cpu changed)

include changes

theorem Changes.setPhase (phase : Phase) :
    Changes scheduler (next.setPhase cpu phase) cpu { changed with phase := phase } := by
  refine ⟨?_, changes.2⟩
  have seen : (next.setPhase cpu phase).view =
      update next.view cpu { next.view cpu with phase := phase } := by
    simp +contextual [eq_update_iff, view, Scheduler.setPhase]
  simp [seen, changes.1]

theorem Changes.setCurrentNode (node : Option TaskId) :
    Changes scheduler (next.setCurrentNode cpu node) cpu { changed with current := node } := by
  refine ⟨?_, changes.2⟩
  have seen : (next.setCurrentNode cpu node).view =
      update next.view cpu { next.view cpu with current := node } := by
    simp +contextual [eq_update_iff, view, Scheduler.setCurrentNode]
  simp [seen, changes.1]

theorem Changes.resume (id : TaskId) :
    Changes scheduler (next.resume cpu id) cpu
      { changed with current := some id, phase := .running } :=
  ((changes.followed ⟨rfl, rfl⟩).setCurrentNode _).setPhase _

theorem Changes.publish (id : TaskId) (phase : Phase) :
    Changes scheduler ((next.publishNext cpu id).setPhase cpu phase) cpu
      { changed with current := some id, phase := phase } :=
  ((changes.followed ⟨rfl, rfl⟩).setCurrentNode _).setPhase _

end Changes

theorem changes_leaveCurrent (scheduler : Scheduler) (cpu : Cpu) (id : TaskId) (state : TaskState) :
    Changes scheduler (scheduler.leaveCurrent cpu id state) cpu
      { scheduler.view cpu with current := none } :=
  (Changes.refl.setCurrentNode none).followed ⟨rfl, rfl⟩

theorem Changes.pickNext (changes : Changes scheduler next cpu changed) {queued : Scheduler}
    {picked : Option TaskId} (picks : queued.pickNext cpu = (picked, later))
    (same : Undisturbed next queued) : Changes scheduler later cpu changed := by
  rcases pickNext_cases picks with ⟨_, _, _, _, rfl⟩ | ⟨_, _, rfl⟩ <;> exact changes.followed same

/-! ## The invariant -/

structure Invariant (scheduler : Scheduler) : Prop where
  placed : ∃ position, Resting scheduler position
  controlled : ∀ cpu, Controlled (scheduler.view cpu)

/-- The invariant is kept by a step that is not a switch. -/
structure Proceeds (scheduler next : Scheduler) : Prop where
  invariant : Invariant next
  continues : Continues scheduler next

theorem controlled_of_changes (controlled : ∀ cpu, Controlled (scheduler.view cpu))
    (changes : Changes scheduler next cpu changed) (here : Controlled changed) :
    ∀ cpu, Controlled (next.view cpu) := by
  rw [changes.1]
  exact (forall_update_iff _ fun _ => Controlled).mpr ⟨here, fun other _ => controlled other⟩

theorem Carried.refl : Carried scheduler next seen seen :=
  ⟨rfl, fun _ _ occupied => occupied, fun _ isIdle => Or.inl isIdle⟩

section Invariant

variable (invariant : Invariant scheduler) (placed : ∃ position, Resting next position)

include invariant placed

theorem Invariant.watched (views : next.view = scheduler.view)
    (staged : ∀ token ∈ next.staged, token ∈ scheduler.staged ∨ token.id = scheduler.nextTaskId) :
    Proceeds scheduler next := by
  refine ⟨⟨placed, ?_⟩, ?_, staged⟩ <;> intro cpu <;> rw [views]
  · exact invariant.controlled cpu
  · exact Carried.refl

theorem Invariant.undisturbed (same : Undisturbed scheduler next) : Proceeds scheduler next :=
  invariant.watched placed same.1 fun _ member => Or.inl (same.2 ▸ member)

theorem Invariant.replaced
    (changes : Changes scheduler next cpu changed) (here : Controlled changed)
    (carried : Carried scheduler next (scheduler.view cpu) changed) :
    Proceeds scheduler next := by
  refine ⟨⟨placed, controlled_of_changes invariant.controlled changes here⟩, ?_,
    fun _ member => Or.inl (changes.2 ▸ member)⟩
  rw [changes.1]
  exact (forall_update_iff _ fun cpu => Carried scheduler next (scheduler.view cpu)).mpr
    ⟨carried, fun _ _ => Carried.refl⟩

/-- A processor that reclaims nothing goes on in its call. -/
theorem Invariant.moved {slot : Option TaskId}
    (changes :
      Changes scheduler next cpu { scheduler.view cpu with current := slot, phase := phase })
    (notReclaiming : ∀ id, scheduler.phase cpu ≠ .reclaiming id)
    (here : Controlled { scheduler.view cpu with current := slot, phase := phase }) :
    Proceeds scheduler next := by
  refine invariant.replaced placed changes here ⟨rfl, ?_, fun _ isIdle => Or.inl isIdle⟩
  rintro id _ (executing | retired | reclaiming)
  · exact Or.inl executing
  · exact Or.inr (Or.inl retired)
  · exact absurd reclaiming (notReclaiming id)

end Invariant

theorem Controlled.during (controlled : Controlled seen) (isPhase : seen.phase = phase) :
    Controlled { seen with phase := phase } := by
  subst isPhase
  exact controlled

end Views

/-! ## Steps that no processor notices -/

/-- The step moves tasks between queues. -/
structure Quiet (related : Option TaskNode → Option TaskNode → Prop)
    (task : TaskId) (scheduler next : Scheduler) : Prop where
  placed : ∃ position, Resting next position
  undisturbed : Undisturbed scheduler next
  tracks : Tracks related scheduler next task

/-- A step that keeps the invariant, is not a switch and is tracked. -/
structure Advances (related : Option TaskNode → Option TaskNode → Prop)
    (task : TaskId) (scheduler next : Scheduler) : Prop
    extends Proceeds scheduler next where
  tracks : Tracks related scheduler next task

/-- What has to be known of a task for the steps that treat it in a special
way. -/
structure Excused (related : Option TaskNode → Option TaskNode → Prop)
    (scheduler : Scheduler) (call : Call) (task : TaskId) : Prop where
  idle : ∀ cpu, IdlePublished related scheduler cpu task
  consumed : ∀ cpu deadline node,
    (call = .blockCurrentUntilReleasing cpu deadline ∨
      call = .blockCurrentInterruptible cpu deadline) →
    scheduler.currentNode cpu = some task →
    scheduler.allTasks task = some node → node.interruptPending = true →
      related (some node) (some { node with interruptPending := false })
  woken : ∀ cpu node, call = .wakeSleepingTaskFromIrq cpu task →
    task ∈ scheduler.sleepQueue → scheduler.allTasks task = some node → ∀ later, later.cpu = cpu →
      later.interruptPending = node.interruptPending →
        later.contextSaved = node.contextSaved → related (some node) (some later)
  committed : ∀ node, scheduler.allTasks task = some node →
    task ∈ scheduler.staged.map StagedTask.id →
      ∀ later, later.interruptPending = node.interruptPending →
        later.contextSaved = node.contextSaved → related (some node) (some later)
  reclaimed : ∀ cpu node, call = .reclaim cpu → scheduler.phase cpu = .reclaiming task →
    scheduler.allTasks task = some node → related (some node) none
  dropped : ∀ cpu node, call = .dropStaged cpu task → task ∈ scheduler.staged.map StagedTask.id →
    scheduler.allTasks task = some node → related (some node) none
  switched : ∀ cpu, call = .doSwitch cpu → ∀ node saved,
    related (some node) (some { node with contextSaved := saved })

section Steps

variable {related : Option TaskNode → Option TaskNode → Prop}
variable {scheduler next : Scheduler} {position : TaskId → Position} {cpu : Cpu} {id task : TaskId}

theorem Quiet.advances
    (quiet : Quiet related task scheduler next) (invariant : Invariant scheduler) :
    Advances related task scheduler next :=
  ⟨invariant.undisturbed quiet.placed quiet.undisturbed, quiet.tracks⟩

section Tracking

variable (tracking : Tracking related)

include tracking

theorem Quiet.wakeExpired (placed : Placed next (update position id .moving))
    (settled : Settled position) (same : Undisturbed scheduler next)
    (tracks : Tracks related scheduler next task)
    (online : ∀ node, next.allTasks id = some node → next.isOnline node.cpu = true) :
    Quiet related task scheduler (next.wakeExpired id) := by
  refine ⟨placed.wakeExpired settled, ?_, tracking.compose tracks (tracking.wakeExpired online)⟩
  unfold Scheduler.wakeExpired
  split <;> exact same

section Placed

variable (placed : Resting scheduler position)

include placed

theorem Quiet.refl : Quiet related task scheduler scheduler :=
  ⟨⟨position, placed⟩, ⟨rfl, rfl⟩, tracking.refl scheduler task⟩

theorem quiet_setInterruptPending :
    Quiet related task scheduler (scheduler.setInterruptPending id) :=
  ⟨⟨position, placed.setInterruptPending id, placed.settled⟩, ⟨rfl, rfl⟩,
    tracking.modifyKeeping (by simp)⟩

theorem quiet_wakeBlocked_getD
    {otherwise : Scheduler} (elsewhere : Quiet related task scheduler otherwise) :
    Quiet related task scheduler ((scheduler.wakeBlocked id).getD otherwise) := by
  cases wakes : scheduler.wakeBlocked id with
  | none => exact elsewhere
  | some =>
    obtain ⟨_, member, present, rfl⟩ := wakeBlocked_cases wakes
    refine ⟨⟨_, (placed.removeBlocked member).makeReady
      (update_self ..) ?_, placed.settled.move (by simp)⟩,
      ⟨rfl, rfl⟩, tracking.compose tracking.removeBlocked (tracking.makeReady ?_)⟩
    · intro taken found
      obtain ⟨_, same, rfl⟩ := allTasks_modifyTask.mp found
      rw [present] at same
      cases same
      exact ⟨rfl, rfl⟩
    · intro taken _ _
      exact tracking.keeps taken _ rfl (fun set => set) rfl

theorem quiet_drainPendingBlockedWakes :
    Quiet related task scheduler scheduler.drainPendingBlockedWakes := by
  unfold drainPendingBlockedWakes
  split
  · exact Quiet.refl tracking placed
  · have drained : Resting { scheduler with pendingBlockedWake := 0 } position :=
      ⟨placed.setPendingBlockedWake 0, placed.settled⟩
    obtain ⟨places, same, tracks⟩ :=
      quiet_wakeBlocked_getD tracking drained (quiet_setInterruptPending tracking drained)
    exact ⟨places, same, tracks⟩

theorem quiet_wakeSleepingTaskFromIrq
    (excused : Excused related scheduler (.wakeSleepingTaskFromIrq cpu id) task) :
    Quiet related task scheduler (scheduler.wakeSleepingTaskFromIrq cpu id) := by
  unfold wakeSleepingTaskFromIrq takeSleeping
  cases found : scheduler.sleepQueue.findIdx? (fun other => other == id) with
  | none => exact Quiet.refl tracking placed
  | some =>
    have sleeps := sleeping_at found
    refine ⟨⟨_, (placed.removeSleeping sleeps).makeReady
      (update_self ..) ?_, placed.settled.move (by simp)⟩, ⟨rfl, rfl⟩, ?_⟩
    · exact fun _ _ => ⟨rfl, rfl⟩
    · -- the edits of the node are related as one
      refine tracking.replace id
        (Option.map fun node =>
          { node with wakeDeadline := none, state := .ready, cpu := cpu, waitTicks := 0 })
        ?_ rfl ?_
      · simp [enqueue, setRunQueue, removeSleeping, modifyTask, comp_def]
      · rintro node present rfl
        exact excused.woken cpu node rfl (List.mem_of_getElem? sleeps) present
          _ rfl rfl rfl

theorem quiet_tick {now : Instant} : Quiet related task scheduler (scheduler.tick now) := by
  refine tick_induction (motive := Quiet related task scheduler)
    ?_ ?_ ?_ ?_ (Quiet.refl tracking placed)
  · rintro later _ id ⟨⟨position, placed⟩, same, tracks⟩ found
    have stands := (placed.shape.stands .sleepQueue id).mp (List.mem_of_getElem? found)
    refine Quiet.wakeExpired tracking (placed.removeSleeping found)
      placed.settled same (tracking.compose tracks (tracking.modifyKeeping (by simp))) ?_
    intro node present
    obtain ⟨old, isOld, rfl⟩ := allTasks_modifyTask.mp present
    exact (placed.suited.suits id _ old stands isOld).2
  · rintro later id ⟨⟨position, placed⟩, same, tracks⟩ member
    have stands := (placed.shape.stands .blockedQueue id).mp member
    refine Quiet.wakeExpired tracking (placed.removeBlocked member)
      placed.settled same (tracking.compose tracks tracking.removeBlocked) ?_
    intro node present
    obtain ⟨old, isOld, rfl⟩ := allTasks_modifyTask.mp present
    exact (placed.suited.suits id _ old stands isOld).2
  · rintro later id ⟨⟨position, placed⟩, same, tracks⟩
    exact ⟨⟨position, placed.modifyKeeping (by simp), placed.settled⟩, same,
      tracking.compose tracks (tracking.modifyKeeping (by simp))⟩
  · rintro later _ id ⟨⟨position, placed⟩, same, tracks⟩ member
    exact ⟨⟨position, placed.promoteFront member, placed.settled⟩, same,
      tracking.compose tracks (tracking.modifyKeeping (by simp))⟩

end Placed

end Tracking

/-! ## Calls of the current task -/

theorem whenRunning_cases {result : Option Scheduler}
    (taken : scheduler.whenRunning cpu result = some next) :
    scheduler.phase cpu = .running ∧ result = some next := by
  unfold whenRunning at taken
  split at taken
  · next running => exact ⟨running, taken⟩
  · cases taken

theorem byCurrent_cases {result : TaskId → Option Scheduler}
    (taken : scheduler.byCurrent cpu result = some next) :
    ∃ id, Ordinary scheduler cpu id ∧ result id = some next := by
  obtain ⟨running, taken⟩ := whenRunning_cases taken
  split at taken
  · cases taken
  · next current isCurrent =>
    split at taken
    · cases taken
    · next notIdle => exact ⟨current, ⟨running, isCurrent, notIdle⟩, taken⟩

theorem Controlled.switching (controlled : Controlled seen) {previous : Option TaskId}
    {incoming : TaskId} (switching : seen.phase = .switching previous incoming) :
    seen.idle.isSome ∧ seen.current = some incoming ∧
      previous ≠ some incoming ∧
      (previous = none → seen.executing = seen.retired) ∧
      (∀ id, previous = some id → seen.executing = some id ∧ seen.retired = none) := by
  have controlled := controlled.during switching
  cases previous with
  | none =>
    obtain ⟨idle, current, executing⟩ := controlled
    exact ⟨idle, current, by simp, fun _ => executing, by simp⟩
  | some previous =>
    obtain ⟨idle, retired, current, executing, different⟩ := controlled
    refine ⟨idle, current, by simpa using different, by simp, ?_⟩
    rintro id same
    cases same
    exact ⟨executing, retired⟩

/-- The switch replaces the task on whose stack the processor runs. -/
theorem changes_doSwitch (switches : scheduler.doSwitch cpu = some next) :
    ∃ previous incoming,
      scheduler.phase cpu = .switching previous incoming ∧
      Changes scheduler next cpu
        { scheduler.view cpu with
          executing := some incoming, phase := .switched } := by
  unfold doSwitch at switches
  split at switches
  · next previous incoming phase =>
    cases switches
    refine ⟨previous, incoming, phase, ?_, by cases previous <;> rfl⟩
    cases previous <;> simp +contextual [eq_update_iff, view, setPhase, modifyTask]
  · cases switches

theorem changes_enter :
    Changes scheduler (scheduler.enter cpu) cpu { scheduler.view cpu with phase := .running } := by
  unfold enter
  split
  · exact Changes.refl.setPhase .running
  · exact (Changes.refl.followed ⟨rfl, rfl⟩).setPhase .running

theorem allTasks_enter (missing : scheduler.allTasks id = none) :
    (scheduler.enter cpu).allTasks id = none := by
  unfold enter
  split
  · exact missing
  · next current _ =>
    by_cases same : id = current
    · rw [← same]
      simp [setPhase, modifyTask, missing]
    · simp [setPhase, modifyTask, same, missing]

theorem allTasks_reclaim
    (phase : scheduler.phase cpu = .reclaiming id) (reclaims : scheduler.reclaim cpu = some next) :
    next.allTasks id = none := by
  revert reclaims
  fun_cases reclaim with
  | case2 _ isRetired =>
    rintro ⟨⟩
    rw [phase] at isRetired
    cases isRetired
    exact allTasks_enter (update_self ..)
  | _ => rintro ⟨⟩

theorem changes_initAp :
    Changes scheduler (scheduler.initAp cpu) cpu
      { scheduler.view cpu with
        current := none
        idle := some scheduler.nextTaskId
        phase := .running } := by
  refine ⟨?_, rfl⟩
  simp +contextual [eq_update_iff, view, initAp, createTask, setPhase, setCurrentNode]

section Invariant

variable (invariant : Invariant scheduler)

include invariant

theorem Ordinary.view_eq (ordinary : Ordinary scheduler cpu id) :
    (∃ idle, scheduler.idleTasks cpu = some idle) ∧
      scheduler.retiredTask cpu = none ∧
      scheduler.executing cpu = some id := by
  obtain ⟨idle, retired, executing⟩ := (invariant.controlled cpu).during ordinary.phase
  exact ⟨Option.isSome_iff_exists.mp idle, retired, executing.trans ordinary.current⟩

theorem placed_leaveExit {position : TaskId → Position} (placed : Resting scheduler position)
    (exiting : scheduler.phase cpu = .exiting) :
    Resting (scheduler.leaveExit cpu) position := by
  obtain ⟨_, _, retired, _⟩ := (invariant.controlled cpu).during exiting
  refine ⟨placed.congr rfl rfl rfl (fun _ => isOnline_setPhase (by simp))
    placed.distinct ?_, placed.settled⟩
  intro place id
  -- the slot does not count, and its task is not the idle one
  have notIdle (current : scheduler.currentNode cpu = some id) :
      scheduler.idleTasks cpu ≠ some id :=
    placed.shape.not_idle_of_place
      ((placed.shape.stands (.retired cpu) id).mp (retired.trans current)) (by simp) cpu
  cases place <;>
    simp only [Holds, leaveExit, setPhase, setCurrentNode] <;>
    grind [pickedTask]

theorem invariant_doSwitch (switches : scheduler.doSwitch cpu = some next) : Invariant next := by
  obtain ⟨position, placed⟩ := invariant.placed
  refine ⟨⟨position, placed_doSwitch placed.toPlaced switches, placed.settled⟩, ?_⟩
  obtain ⟨_, incoming, phase, changes⟩ := changes_doSwitch switches
  obtain ⟨idle, current, _⟩ := (invariant.controlled cpu).switching phase
  refine controlled_of_changes invariant.controlled changes ?_
  exact ⟨idle, Option.isSome_iff_exists.mpr ⟨incoming, current⟩, current.symm⟩

theorem Invariant.unstaged
    (placed : ∃ position, Resting next position) (views : next.view = scheduler.view)
    (staged : next.staged = scheduler.staged.filter (fun other => other.id ≠ id)) :
    Proceeds scheduler next :=
  invariant.watched placed views fun _ member => Or.inl (List.mem_of_mem_filter (staged ▸ member))

end Invariant

section Tracking

variable (tracking : Tracking related)

include tracking

/-- What `schedule_next` makes of the slots of its processor. -/
theorem scheduleNext_effect (placed : Resting scheduler position)
    (running : scheduler.phase cpu = .running) {idleTask : TaskId}
    (isIdle : scheduler.idleTasks cpu = some idleTask)
    (idle : IdlePublished related scheduler cpu task) :
    ∃ first phase,
      (∃ position, Resting (scheduler.scheduleNext cpu) position) ∧
      Changes scheduler (scheduler.scheduleNext cpu) cpu
        { scheduler.view cpu with current := some first, phase := phase } ∧
      ((scheduler.currentNode cpu = some first ∧ phase = .running) ∨
        (scheduler.currentNode cpu ≠ some first ∧
          phase = .switching (scheduler.currentNode cpu) first)) ∧
      Tracks related scheduler (scheduler.scheduleNext cpu) task := by
  rcases requeueCurrent_cases placed.toPlaced running with
    ⟨same, idleOnly⟩ | ⟨id, ordinary, same⟩
  · obtain ⟨first, picked, picks⟩ := pickNext_of_idle isIdle
    have changes := Changes.refl.pickNext picks ⟨rfl, rfl⟩
    rw [scheduleNext, same, picks]
    simp only
    split
    · next current =>
      exact ⟨first, .running,
        ⟨position, placed.resumeIdle running current (idleOnly first current) picks⟩,
        changes.resume _, Or.inl ⟨current, rfl⟩,
        tracking.compose (tracking.pickNext picks) tracking.resume⟩
    · next different =>
      exact ⟨first, _,
        placed.redispatch running idleOnly picks rfl (by simp),
        changes.publish _ _, Or.inr ⟨different, rfl⟩, tracking.dispatch placed idle picks⟩
  · obtain ⟨_, requeued⟩ := ordinary.requeue placed
    obtain ⟨first, picked, picks⟩ := pickNext_enqueue (scheduler.leaveCurrent cpu id .ready) cpu id
    have changes := (changes_leaveCurrent scheduler cpu id .ready).pickNext picks ⟨rfl, rfl⟩
    have leaves :
        Tracks related scheduler ((scheduler.leaveCurrent cpu id .ready).enqueue cpu id) task :=
      tracking.compose tracking.leaveCurrent tracking.enqueue
    rw [scheduleNext, same, picks]
    simp only
    split
    · next current =>
      cases ordinary.current.symm.trans current
      exact ⟨id, .running, ordinary.resume requeued picks,
        changes.resume _, Or.inl ⟨current, rfl⟩,
        tracking.compose leaves (tracking.compose (tracking.pickNext picks) tracking.resume)⟩
    · next different =>
      refine ⟨first, _,
        requeued.dispatch (update_self ..) ordinary.isPlain picks
          (by rw [ordinary.current]; rfl) (by simp),
        changes.publish _ _, Or.inr ⟨different, rfl⟩,
        tracking.compose leaves
          (tracking.dispatch requeued (idle.of_others rfl ?_ ordinary.notIdle) picks)⟩
      intro other different
      simp [enqueue, setRunQueue, leaveCurrent, setCurrentNode, modifyTask, different]

variable (invariant : Invariant scheduler) (placed : Resting scheduler position)

include invariant placed

theorem advances_publish (idle : IdlePublished related scheduler cpu task)
    (publishes : scheduler.publish cpu = some next) :
    Advances related task scheduler next := by
  cases phase : scheduler.phase cpu with
  | picked handover _ picked =>
    obtain ⟨hasIdle, retired, empty, executing, notIdle, isSome, different⟩ :=
      (invariant.controlled cpu).during phase
    obtain ⟨first, rfl⟩ := Option.isSome_iff_exists.mp isSome
    have places := placed_publish placed phase empty notIdle publishes
    rw [publish, phase] at publishes
    simp only at publishes
    split at publishes
    · cases publishes
      exact ⟨invariant.moved places (Changes.refl.resume _)
        (by simp [phase]) ⟨hasIdle, retired, executing⟩, tracking.resume⟩
    · next notSame =>
      cases publishes
      refine ⟨invariant.moved places (Changes.refl.publish _ _)
        (by simp [phase]) ⟨hasIdle, retired, rfl, executing, ?_⟩, tracking.publishNext ?_⟩
      · rintro rfl
        cases handover with
        | yielding => exact notSame ⟨rfl, rfl⟩
        | sleeping => exact different rfl rfl
      · intro node present isTask
        by_cases isIdle : scheduler.idleTasks cpu = some first
        · rw [← isTask] at isIdle present
          exact idle node isIdle present
        · have stands :=
            (placed.shape.stands (.picked cpu) first).mp ⟨by rw [phase, pickedTask], isIdle⟩
          exact Or.inl (placed.suited.suits first _ node stands present).2
  | _ =>
    rw [publish, phase] at publishes
    cases publishes

section Ordinary

variable (ordinary : Ordinary scheduler cpu id)

include ordinary

theorem advances_yieldNow : Advances related task scheduler (scheduler.yieldNow cpu id) := by
  obtain ⟨⟨_, isIdle⟩, retired, executing⟩ := ordinary.view_eq invariant
  obtain ⟨_, requeued⟩ := ordinary.requeue placed
  obtain ⟨_, picked, picks⟩ := pickNext_enqueue (scheduler.leaveCurrent cpu id .ready) cpu id
  have changes := (changes_leaveCurrent scheduler cpu id .ready).pickNext picks ⟨rfl, rfl⟩
  have tracks : Tracks related scheduler picked task := tracking.compose tracking.leaveCurrent
    (tracking.compose tracking.enqueue (tracking.pickNext picks))
  rw [yieldNow, picks]
  exact ⟨invariant.moved (requeued.pick ordinary.isPlain picks .yielding id)
    (changes.setPhase _) (by simp [ordinary.phase])
    ⟨by simp [view, isIdle], retired, rfl, executing, ordinary.notIdle, rfl, by simp⟩, tracks⟩

theorem advances_sleepUntil (deadline : Instant) :
    Advances related task scheduler (scheduler.sleepUntil cpu id deadline) := by
  obtain ⟨⟨_, isIdle⟩, retired, executing⟩ := ordinary.view_eq invariant
  obtain ⟨_, asleep, stands⟩ := ordinary.sleep placed deadline
  obtain ⟨_, picked, picks, different⟩ :=
    asleep.picks_other stands (by simp) isIdle ordinary.notIdle
  have changes := (changes_leaveCurrent scheduler cpu id .sleeping).pickNext picks ⟨rfl, rfl⟩
  have tracks : Tracks related scheduler picked task := tracking.compose tracking.leaveCurrent
    (tracking.compose tracking.addSleeping (tracking.pickNext picks))
  rw [sleepUntil, picks]
  exact ⟨invariant.moved (asleep.pick ordinary.isPlain picks .sleeping id)
    (changes.setPhase _) (by simp [ordinary.phase])
    ⟨by simp [view, isIdle], retired, rfl, executing, ordinary.notIdle, rfl,
      by simpa using different⟩, tracks⟩

theorem advances_blockCurrent
    {deadline : Option Instant} (excused : Excused related scheduler call task)
    (isBlock : call = .blockCurrentUntilReleasing cpu deadline ∨
      call = .blockCurrentInterruptible cpu deadline) :
    Advances related task scheduler (scheduler.blockCurrent cpu id deadline) := by
  obtain ⟨⟨_, isIdle⟩, retired, executing⟩ := ordinary.view_eq invariant
  unfold blockCurrent
  simp only
  split
  · next pending =>
    refine ⟨invariant.undisturbed ⟨position, placed.modifyKeeping (by simp), placed.settled⟩
      ⟨rfl, rfl⟩, tracking.modifyTask ?_⟩
    rintro node present rfl
    rw [present] at pending
    exact excused.consumed cpu deadline node isBlock ordinary.current present pending
  · obtain ⟨_, parked, stands⟩ := ordinary.block placed deadline
    obtain ⟨_, _, picks, different⟩ := parked.picks_other stands (by simp) isIdle ordinary.notIdle
    have changes := (changes_leaveCurrent scheduler cpu id .blocked).pickNext picks ⟨rfl, rfl⟩
    rw [picks]
    refine ⟨invariant.moved
      (parked.dispatch (update_self ..) ordinary.isPlain picks rfl
        (by simp)) (changes.publish _ _) (by simp [ordinary.phase])
      ⟨by simp [view, isIdle], retired, rfl, executing, Ne.symm different⟩, ?_⟩
    refine tracking.compose tracking.leaveCurrent (tracking.compose tracking.addBlocked
      (tracking.dispatch parked ((excused.idle cpu).of_others rfl ?_ ordinary.notIdle) picks))
    intro other different
    simp [addBlocked, leaveCurrent, modifyTask, setCurrentNode, different]

theorem advances_exit (exits : scheduler.exit cpu id = some next) :
    Advances related task scheduler next := by
  obtain ⟨⟨_, isIdle⟩, empty, executing⟩ := ordinary.view_eq invariant
  have places := placed_exit placed ordinary exits
  revert exits
  fun_cases exit with
  | case1 =>
    rintro ⟨⟩
    refine ⟨invariant.replaced places
      (show Changes _ _ cpu { scheduler.view cpu with retired := some id, phase := .exiting }
        from ⟨?_, rfl⟩)
      ⟨by simp [view, isIdle], by simp [view, ordinary.current],
        ordinary.current.symm, executing.trans ordinary.current.symm⟩
      ⟨rfl, ?_, fun _ isIdle => Or.inl isIdle⟩,
      tracking.modifyKeeping (by simp)⟩
    · simp +contextual [eq_update_iff, view, setPhase, modifyTask]
    · rintro task _ (executing | retired | reclaiming)
      · exact Or.inl executing
      · cases empty.symm.trans retired
      · cases ordinary.phase.symm.trans reclaiming
  | case2 => rintro ⟨⟩

end Ordinary

theorem advances_scheduleNext
    (running : scheduler.phase cpu = .running) (idle : IdlePublished related scheduler cpu task) :
    Advances related task scheduler (scheduler.scheduleNext cpu) := by
  obtain ⟨hasIdle, retired, executing⟩ := (invariant.controlled cpu).during running
  obtain ⟨_, isIdle⟩ := Option.isSome_iff_exists.mp hasIdle
  obtain ⟨_, phase, places, changes, result, tracks⟩ :=
    scheduleNext_effect tracking placed running isIdle idle
  refine ⟨invariant.moved places changes (by simp [running]) ?_, tracks⟩
  rcases result with ⟨current, rfl⟩ | ⟨different, rfl⟩
  · exact ⟨hasIdle, retired, executing.trans current⟩
  · cases current : scheduler.currentNode cpu with
    | none => exact ⟨hasIdle, rfl, executing.trans (current.trans retired.symm)⟩
    | some =>
      rw [current] at different
      exact ⟨hasIdle, retired, rfl, executing.trans current, by
        simpa using different⟩

/-- The rest of `exit`: its processor switches without a task to save. -/
theorem advances_scheduleNext_of_exiting
    (exiting : scheduler.phase cpu = .exiting) (idle : IdlePublished related scheduler cpu task) :
    Advances related task scheduler ((scheduler.leaveExit cpu).scheduleNext cpu) := by
  obtain ⟨hasIdle, _, retired, executing⟩ := (invariant.controlled cpu).during exiting
  obtain ⟨_, isIdle⟩ := Option.isSome_iff_exists.mp hasIdle
  have running : (scheduler.leaveExit cpu).phase cpu = .running := by
    simp [leaveExit, setPhase]
  have empty : (scheduler.leaveExit cpu).currentNode cpu = none := by
    simp [leaveExit, setPhase, setCurrentNode]
  have left :
      Changes scheduler (scheduler.leaveExit cpu) cpu
        { scheduler.view cpu with current := none, phase := .running } :=
    (Changes.refl.setCurrentNode none).setPhase .running
  obtain ⟨first, phase, places, scheduled, ⟨current, _⟩ | ⟨_, rfl⟩, tracks⟩ :=
    scheduleNext_effect tracking (placed_leaveExit invariant placed exiting) running isIdle idle
  · rw [empty] at current
    cases current
  · have changes :
        Changes scheduler ((scheduler.leaveExit cpu).scheduleNext cpu) cpu
          { scheduler.view cpu with
            current := some first, phase := .switching none first } := by
      refine ⟨?_, scheduled.2.trans left.2⟩
      rw [scheduled.1, left.1, empty]
      simp
    exact ⟨invariant.moved places changes (by simp [exiting])
      ⟨hasIdle, rfl, executing.trans retired.symm⟩, tracks⟩

theorem advances_takeRetired (takes : scheduler.takeRetired cpu = some next) :
    Advances related task scheduler next := by
  revert takes
  fun_cases takeRetired with
  | case1 phase empty =>
    rintro ⟨⟩
    obtain ⟨idle, _, executing⟩ := (invariant.controlled cpu).during phase
    exact ⟨invariant.moved
      ⟨position, placed.enter (by rw [phase]; rfl), placed.settled⟩
      changes_enter (by simp [phase]) ⟨idle, empty, executing⟩, tracking.enter⟩
  | case2 phase retired full =>
    rintro ⟨⟩
    obtain ⟨idle, current, executing⟩ := (invariant.controlled cpu).during phase
    refine ⟨invariant.replaced
      ⟨_, placed.takeRetired phase full, placed.settled.update (by simp)⟩
      (show Changes _ _ cpu
          { scheduler.view cpu with retired := none, phase := .reclaiming retired }
        from ⟨?_, rfl⟩)
      ⟨idle, current, rfl, executing⟩
      ⟨rfl, ?_, fun _ isIdle => Or.inl isIdle⟩, tracking.of_same rfl⟩
    · simp +contextual [eq_update_iff, view, setPhase]
    · rintro task _ (executing | isRetired | reclaiming)
      · exact Or.inl executing
      · cases full.symm.trans isRetired
        exact Or.inr (Or.inr rfl)
      · cases phase.symm.trans reclaiming
  | case3 => rintro ⟨⟩

theorem advances_reclaim (excused : Excused related scheduler (.reclaim cpu) task)
    (reclaims : scheduler.reclaim cpu = some next) :
    Advances related task scheduler next := by
  have gone (id : TaskId) (phase : scheduler.phase cpu = .reclaiming id) :=
    allTasks_reclaim phase reclaims
  revert reclaims gone
  fun_cases reclaim with
  | case2 retired phase =>
    rintro ⟨⟩ gone
    obtain ⟨idle, _, empty, executing⟩ := (invariant.controlled cpu).during phase
    have plain : isPlain ((scheduler.setPhase cpu .running).phase cpu) = true := by
      simp [setPhase, isPlain]
    have removed := (placed.leaveReclaiming phase).remove (update_self ..)
    refine ⟨invariant.replaced
      ⟨update (update position retired .moving) retired
        .nowhere, ?_, placed.settled.move (by simp)⟩ changes_enter
      ⟨idle, empty, executing⟩ ⟨rfl, ?_, fun _ isIdle => Or.inl isIdle⟩,
      tracking.compose (tracking.remove ?_) tracking.enter⟩
    · rw [← enter_setPhase .running]
      exact removed.enter plain
    · rintro task owned (executing | isRetired | reclaiming)
      · exact Or.inl executing
      · exact Or.inr (Or.inl isRetired)
      · rw [gone task reclaiming] at owned
        cases owned
    · rintro node present rfl
      exact excused.reclaimed cpu node rfl phase present
  | _ => rintro ⟨⟩

theorem advances_initAp (offline : scheduler.phase cpu = .offline) :
    Advances related task scheduler (scheduler.initAp cpu) := by
  obtain ⟨empty, retired, noIdle, executing⟩ := (invariant.controlled cpu).during offline
  refine ⟨invariant.replaced (placed_initAp placed offline noIdle empty)
    changes_initAp ⟨rfl, retired, executing⟩ ⟨rfl, ?_, ?_⟩, tracking.createTask placed⟩
  · rintro id _ (executing | retired | reclaiming)
    · exact Or.inl executing
    · exact Or.inr (Or.inl retired)
    · cases offline.symm.trans reclaiming
  · intro id isIdle
    cases isIdle
    exact Or.inr (placed.suited.fresh _ (Nat.le_refl _))

theorem advances_stageSpawn (requested : Option Cpu) :
    Advances related task scheduler (scheduler.stageSpawn cpu requested) := by
  have created := placed.createTask
  have fresh (node : TaskNode)
      (present : scheduler.createTask.2.allTasks scheduler.nextTaskId = some node) :
      node.state = .ready ∧ node.started = false := by
    simp only [createTask, update_self] at present
    cases present
    exact ⟨rfl, rfl⟩
  have places : ∃ position, Resting (scheduler.stageSpawn cpu requested) position := by
    cases requested with
    | some target =>
      exact ⟨_, created.stage (update_self ..) fresh target, placed.settled.move (by simp)⟩
    | none =>
      exact ⟨_, (created.selectLeastLoadedCpu cpu).stage
        (update_self ..) fresh _, placed.settled.move (by simp)⟩
  refine ⟨invariant.watched places (by cases requested <;> rfl) ?_, tracking.stageSpawn placed⟩
  intro token member
  cases requested <;>
  · rcases List.mem_append.mp member with old | added
    · exact Or.inl old
    · exact Or.inr (by rw [List.mem_singleton.mp added])

theorem advances_commit (excused : Excused related scheduler (.commit cpu id) task)
    (commits : scheduler.commit cpu id = some next) :
    Advances related task scheduler next := by
  obtain ⟨⟨_, _⟩, takes, same⟩ := Option.map_eq_some_iff.mp commits
  obtain ⟨moved, fresh⟩ := placed.takeStaged takes
  have owned : update position id Position.moving id ≠ .nowhere := by
    simp
  obtain ⟨node, present⟩ := moved.suited.isSome owned
  obtain ⟨member, rfl⟩ := takeStaged_cases takes
  -- the choice of the processor leaves the nodes and the slots alone
  have enters (start : Scheduler) (target : Cpu)
      (started : Placed start (update position id .moving))
      (nodes : start.allTasks = scheduler.allTasks) (views : start.view = scheduler.view)
      (staged : start.staged = scheduler.staged.filter (fun other => other.id ≠ id)) :
      Advances related task scheduler
        ((start.modifyTask id (fun node => { node with cpu := target })).enqueue target id) := by
    refine ⟨invariant.unstaged ⟨_, started.makeReady (update_self ..)
      (fun old found => ⟨(fresh old (nodes ▸ found)).1, rfl⟩),
      placed.settled.move (by simp)⟩ views staged,
      tracking.compose (tracking.of_same (congrFun nodes task)) (tracking.makeReady ?_)⟩
    rintro node present rfl
    rw [nodes] at present
    exact excused.committed node present member _ rfl rfl
  simp only at same present
  rw [present] at same
  simp only at same
  split at same
  · cases same
    exact enters _ _ moved rfl rfl rfl
  · cases same
    exact enters _ _ (moved.selectLeastLoadedCpu cpu) rfl rfl rfl

theorem advances_dropStaged (excused : Excused related scheduler (.dropStaged cpu id) task)
    (drops : scheduler.dropStaged id = some next) :
    Advances related task scheduler next := by
  obtain ⟨member, places, rfl⟩ := dropStaged_cases placed.toPlaced drops
  refine ⟨invariant.unstaged ⟨_, places, placed.settled.move (by simp)⟩ rfl rfl, tracking.remove ?_⟩
  rintro node present rfl
  exact excused.dropped cpu node rfl member present

omit placed in
theorem advances_step
    (excused : Excused related scheduler call task) (notSwitch : ∀ cpu, call ≠ .doSwitch cpu)
    (taken : scheduler.step call = some next) :
    Advances related task scheduler next := by
  obtain ⟨position, placed⟩ := invariant.placed
  cases call with
  | initAp cpu =>
    rw [step] at taken
    split at taken
    · next offline =>
      cases taken
      exact advances_initAp tracking invariant placed offline
    · cases taken
  | stageSpawn cpu requested =>
    obtain ⟨_, taken⟩ := whenRunning_cases taken
    split at taken
    · cases taken
      exact advances_stageSpawn tracking invariant placed requested
    · cases taken
  | commit cpu id =>
    obtain ⟨_, taken⟩ := whenRunning_cases taken
    exact advances_commit tracking invariant placed excused taken
  | dropStaged cpu id =>
    obtain ⟨_, taken⟩ := whenRunning_cases taken
    exact advances_dropStaged tracking invariant placed excused taken
  | yieldNow cpu =>
    obtain ⟨id, ordinary, taken⟩ := byCurrent_cases taken
    cases taken
    exact advances_yieldNow tracking invariant placed ordinary
  | sleepUntil cpu deadline =>
    obtain ⟨id, ordinary, taken⟩ := byCurrent_cases taken
    cases taken
    exact advances_sleepUntil tracking invariant placed ordinary deadline
  | publish cpu => exact advances_publish tracking invariant placed (excused.idle cpu) taken
  | blockCurrentUntilReleasing cpu deadline
  | blockCurrentInterruptible cpu deadline =>
    obtain ⟨id, ordinary, taken⟩ := byCurrent_cases taken
    cases taken
    exact advances_blockCurrent tracking invariant placed ordinary excused (by simp)
  | exit cpu =>
    obtain ⟨id, ordinary, taken⟩ := byCurrent_cases taken
    exact advances_exit tracking invariant placed ordinary taken
  | scheduleNext cpu =>
    rw [step] at taken
    split at taken
    · next exiting =>
      cases taken
      exact advances_scheduleNext_of_exiting tracking invariant placed exiting (excused.idle cpu)
    · obtain ⟨running, taken⟩ := whenRunning_cases taken
      cases taken
      exact advances_scheduleNext tracking invariant placed running (excused.idle cpu)
  | doSwitch cpu => exact absurd rfl (notSwitch cpu)
  | takeRetired cpu => exact advances_takeRetired tracking invariant placed taken
  | reclaim cpu => exact advances_reclaim tracking invariant placed excused taken
  | tick =>
    obtain ⟨_, taken⟩ := whenRunning_cases taken
    cases taken
    exact (quiet_tick tracking placed).advances invariant
  | wakeBlockedTask cpu id =>
    obtain ⟨_, taken⟩ := whenRunning_cases taken
    cases taken
    refine Quiet.advances ?_ invariant
    unfold wakeBlockedTask
    split
    · exact Quiet.refl tracking placed
    · exact ⟨⟨position, placed.setPendingBlockedWake id, placed.settled⟩,
        ⟨rfl, rfl⟩, tracking.of_same rfl⟩
  | drainPendingBlockedWakes cpu =>
    rw [step] at taken
    split at taken
    · cases taken
      exact (quiet_drainPendingBlockedWakes tracking placed).advances invariant
    · cases taken
  | wakeBlockedTaskFromTask cpu id =>
    obtain ⟨_, taken⟩ := whenRunning_cases taken
    cases taken
    refine Quiet.advances ?_ invariant
    unfold wakeBlockedTaskFromTask
    split
    · exact Quiet.refl tracking placed
    · exact quiet_wakeBlocked_getD tracking placed (Quiet.refl tracking placed)
  | interruptTaskFromTask cpu id =>
    obtain ⟨_, taken⟩ := whenRunning_cases taken
    cases taken
    refine Quiet.advances ?_ invariant
    unfold interruptTaskFromTask
    split
    · exact Quiet.refl tracking placed
    · exact quiet_wakeBlocked_getD tracking placed (quiet_setInterruptPending tracking placed)
  | wakeSleepingTaskFromIrq cpu id =>
    obtain ⟨_, taken⟩ := whenRunning_cases taken
    cases taken
    exact (quiet_wakeSleepingTaskFromIrq tracking placed excused).advances invariant

end Tracking

theorem invariant_booted : Invariant booted := by
  refine ⟨⟨fun id => if id = 1 then .at (.idle globalTickCpu) else .nowhere,
    ⟨⟨?_, fun _ => List.nodup_nil, List.nodup_nil, List.nodup_nil,
      List.nodup_nil, ?_⟩, ?_, ?_, ?_⟩, ?_⟩, ?_⟩
  · intro place id
    cases place <;> simp only [Holds, booted] <;> grind [pickedTask]
  · intro cpu id isIdle
    simp only [booted] at isIdle
    grind
  · intro id
    simp only [booted]
    grind
  · intro id place node stands _
    by_cases boot : id = 1
    · simp only [if_pos boot] at stands
      cases stands
      exact trivial
    · simp only [if_neg boot] at stands
      cases stands
  · intro id bound
    have later : id ≠ 1 := Nat.ne_of_gt (Nat.lt_of_lt_of_le (by decide) bound)
    simp [booted, later]
  · intro id
    by_cases boot : id = 1
    · simp [boot]
    · simp [boot]
  · intro cpu
    by_cases boot : cpu = globalTickCpu
    · simp [Controlled, view, booted, boot]
    · simp [Controlled, view, booted, boot]

theorem proceeds_step (invariant : Invariant scheduler) (notSwitch : ∀ cpu, call ≠ .doSwitch cpu)
    (taken : scheduler.step call = some next) :
    Proceeds scheduler next := by
  have tracking : Tracking (fun _ _ => True) :=
    ⟨trivial, fun _ => trivial, fun _ _ _ _ _ => trivial, fun _ _ _ _ _ => trivial⟩
  have excused : Excused (fun _ _ => True) scheduler call 0 := by
    constructor <;> intros
    · exact fun _ _ _ => Or.inr trivial
    all_goals trivial
  exact (advances_step tracking invariant excused notSwitch taken).toProceeds

/-- Every step keeps the invariant, those inside a switch included. -/
theorem invariant_step (invariant : Invariant scheduler)
    (taken : scheduler.step call = some next) : Invariant next := by
  by_cases isSwitch : ∃ cpu, call = .doSwitch cpu
  · obtain ⟨cpu, rfl⟩ := isSwitch
    exact invariant_doSwitch invariant taken
  · exact (proceeds_step invariant (fun cpu same => isSwitch ⟨cpu, same⟩) taken).invariant

theorem Tracking.step (tracking : Tracking related) (invariant : Invariant scheduler)
    (excused : Excused related scheduler call task) (taken : scheduler.step call = some next) :
    Tracks related scheduler next task := by
  by_cases isSwitch : ∃ cpu, call = .doSwitch cpu
  · obtain ⟨cpu, rfl⟩ := isSwitch
    exact tracking.doSwitch (excused.switched cpu rfl) taken
  · exact (advances_step tracking invariant excused
      (fun cpu same => isSwitch ⟨cpu, same⟩) taken).tracks

end Steps

/-! ## The discipline -/

/-- Every task is in exactly one place, and only tasks are in places. -/
structure Disciplined (scheduler : Scheduler) : Prop where
  placed : ∀ id node, scheduler.allTasks id = some node →
    ∃ place, scheduler.Holds place id ∧ scheduler.Suits place node ∧
      ∀ other, scheduler.Holds other id → other = place
  once : (∀ cpu, (scheduler.runQueues cpu).Nodup) ∧ scheduler.sleepQueue.Nodup ∧
    scheduler.blockedQueue.Nodup ∧
    (scheduler.staged.map StagedTask.id).Nodup
  owned : ∀ place id, scheduler.Holds place id → (scheduler.allTasks id).isSome
  idle : ∀ cpu queue id, scheduler.idleTasks cpu = some id → id ∉ scheduler.runQueues queue

/-- A credit is cleared by a blocking call of its task, which goes on
running. -/
def CreditsKept (scheduler : Scheduler) (call : Call) (next : Scheduler) : Prop :=
  ∀ id node later, scheduler.allTasks id = some node →
    next.allTasks id = some later → node.interruptPending = true → later.interruptPending = false →
      ∃ cpu deadline,
        (call = .blockCurrentUntilReleasing cpu deadline ∨
          call = .blockCurrentInterruptible cpu deadline) ∧
        scheduler.currentNode cpu = some id ∧
        next.view cpu = scheduler.view cpu ∧
        next.blockedQueue = scheduler.blockedQueue

section Discipline

variable {scheduler next : Scheduler} {cpu : Cpu} {id : TaskId}

theorem Invariant.disciplined (invariant : Invariant scheduler) : Disciplined scheduler := by
  obtain ⟨position, placed⟩ := invariant.placed
  refine ⟨?_, placed.distinct, ?_, ?_⟩
  · intro id node present
    cases stands : position id with
    | nowhere =>
      rw [(placed.suited.owned id).mpr stands] at present
      cases present
    | moving => exact absurd stands (placed.settled id)
    | «at» place =>
      refine ⟨place, (placed.shape.stands place id).mpr stands,
        placed.suited.suits id place node stands present, ?_⟩
      intro other holds
      rw [placed.shape.stands, stands] at holds
      cases holds
      rfl
  · intro place id holds
    rw [placed.shape.stands] at holds
    have owned : position id ≠ .nowhere := by simp [holds]
    obtain ⟨node, present⟩ := placed.suited.isSome owned
    simp [present]
  · intro cpu queue id isIdle member
    have stands := (placed.shape.stands (.runQueue queue) id).mp member
    exact placed.shape.not_idle_of_place stands (by simp) cpu isIdle

theorem creditTracking :
    Tracking (Stays (fun node later =>
      node.interruptPending = true → later.interruptPending = true)) :=
  Tracking.stays (fun _ _ _ kept => kept) (fun _ _ _ first second set => second (first set))

/-- A blocking call that finds a credit takes it and returns. -/
theorem blockCurrent_of_pending
    {deadline : Option Instant} {node : TaskNode} (present : scheduler.allTasks id = some node)
    (pending : node.interruptPending = true) :
    (scheduler.blockCurrent cpu id deadline).view = scheduler.view ∧
      (scheduler.blockCurrent cpu id deadline).blockedQueue = scheduler.blockedQueue := by
  have credit : (scheduler.allTasks id).any (fun node => node.interruptPending) = true := by
    rw [present]
    exact pending
  rw [blockCurrent]
  simp only [if_pos credit]
  exact ⟨rfl, rfl⟩

theorem creditsKept_of_step
    (invariant : Invariant scheduler) (taken : scheduler.step call = some next) :
    CreditsKept scheduler call next := by
  intro id node later present stays pending cleared
  by_contra exception
  have excused :
      Excused
        (Stays (fun node later => node.interruptPending = true → later.interruptPending = true))
        scheduler call id := by
    refine ⟨fun _ _ _ _ => Or.inr (Stays.of_related (fun set => set)), ?_,
      fun _ _ _ _ _ _ _ same _ => Stays.of_related (fun set => same.trans set),
      fun _ _ _ _ same _ => Stays.of_related (fun set => same.trans set),
      ?_, ?_, fun _ _ _ _ => Stays.of_related (fun set => set)⟩
    · intro cpu deadline old isBlock current found credit
      exfalso
      apply exception
      refine ⟨cpu, deadline, isBlock, current, ?_⟩
      rcases isBlock with rfl | rfl
      all_goals
        obtain ⟨_, ordinary, taken⟩ := byCurrent_cases taken
        rw [ordinary.current] at current
        cases current
        cases taken
        obtain ⟨views, queue⟩ := blockCurrent_of_pending found credit
        exact ⟨congrFun views cpu, queue⟩
    · rintro cpu _ rfl phase _
      rw [allTasks_reclaim phase taken] at stays
      cases stays
    · rintro cpu _ rfl _ _
      obtain ⟨_, taken⟩ := whenRunning_cases taken
      obtain ⟨_, placed⟩ := invariant.placed
      obtain ⟨_, _, rfl⟩ := dropStaged_cases placed.toPlaced taken
      simp at stays
  obtain ⟨found, isFound, kept⟩ := creditTracking.step invariant excused taken node present
  rw [stays] at isFound
  cases isFound
  rw [kept pending] at cleared
  cases cleared

/-- After every step of every run the tasks are disciplined. -/
theorem queue_discipline {state : Scheduler} {calls : List Call} {call : Call}
    (reached : exec step booted calls = some state) (taken : state.step call = some next) :
    Disciplined next ∧ CreditsKept state call next := by
  have invariant : Invariant state := invariant_of_exec
    (fun _ _ _ invariant taken => invariant_step invariant taken) invariant_booted reached
  exact ⟨(invariant_step invariant taken).disciplined, creditsKept_of_step invariant taken⟩

end Discipline

/-- Two processors; the tasks 3 and 4 are ready on the first one, which then
runs task 3. -/
def twoReady : List Call :=
  [.initAp 1, .stageSpawn 0 (some 0), .commit 0 3, .stageSpawn 0 (some 0),
    .commit 0 4, .scheduleNext 0, .doSwitch 0, .takeRetired 0]

/-- Task 3 yields to task 4, which exits; task 3 is interrupted and then tries
to block. -/
def interruptedRun : List Call :=
  twoReady ++ [.yieldNow 0, .publish 0, .doSwitch 0, .takeRetired 0, .exit 0,
    .scheduleNext 0, .doSwitch 0, .takeRetired 0, .reclaim 0, .interruptTaskFromTask 1 3]

theorem interruptedRun_disciplined :
    ∃ state next, exec step booted interruptedRun = some state ∧
      state.currentNode 0 = some 3 ∧ state.allTasks 4 = none ∧
      state.step (.blockCurrentInterruptible 0 none) = some next ∧
      Disciplined next ∧
      CreditsKept state (.blockCurrentInterruptible 0 none) next := by
  have runs :
      ∃ state, exec step booted interruptedRun = some state ∧
        state.currentNode 0 = some 3 ∧ state.allTasks 4 = none ∧
        (state.step (.blockCurrentInterruptible 0 none)).isSome := by
    decide +kernel
  obtain ⟨state, reached, current, removed, taken⟩ := runs
  obtain ⟨next, taken⟩ := Option.isSome_iff_exists.mp taken
  obtain ⟨disciplined, credits⟩ := queue_discipline reached taken
  exact ⟨state, next, reached, current, removed, taken, disciplined, credits⟩

/-- While task 3 yields, task 4 has left its run queue and is in no slot yet
when the other processor stages a task. -/
theorem picked_task_in_no_queue :
    ∃ state,
      exec step booted (twoReady ++ [.yieldNow 0, .stageSpawn 1 (some 1)]) = some state ∧
      (state.allTasks 4).isSome = true ∧
      ∀ place, state.Holds place 4 → place = .picked 0 := by
  have runs :
      ∃ state,
        exec step booted (twoReady ++ [.yieldNow 0, .stageSpawn 1 (some 1)]) = some state ∧
        (state.allTasks 4).isSome = true ∧
        pickedTask (state.phase 0) = some 4 ∧
        state.idleTasks 0 = some 1 := by
    decide +kernel
  obtain ⟨state, reached, owned, picked, idle⟩ := runs
  refine ⟨state, reached, owned, ?_⟩
  have invariant : Invariant state := invariant_of_exec
    (fun _ _ _ invariant taken => invariant_step invariant taken) invariant_booted reached
  have holds : state.Holds (.picked 0) 4 := ⟨picked, by simp [idle]⟩
  obtain ⟨node, present⟩ := Option.isSome_iff_exists.mp owned
  obtain ⟨place, _, _, only⟩ := invariant.disciplined.placed 4 node present
  intro other otherHolds
  rw [only other otherHolds, only _ holds]

end Xenith.Sched.Scheduler
