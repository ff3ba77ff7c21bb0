import Xenith.Sched.PlacementEffect

/-!
# Tracking a task

What happens to the node of one task over a step, for any transitive relation
that holds when the task keeps its processor and its context and loses no
interrupt credit.
-/

namespace Xenith.Sched.Scheduler

open Function

/-- The entry of the task in `all_tasks` is related to what it was. -/
def Tracks (related : Option TaskNode → Option TaskNode → Prop)
    (scheduler next : Scheduler) (task : TaskId) : Prop :=
  related (scheduler.allTasks task) (next.allTasks task)

structure Tracking (related : Option TaskNode → Option TaskNode → Prop) : Prop where
  absent : related none none
  created : ∀ cpu, related none (some { cpu := cpu })
  keeps : ∀ node later, later.cpu = node.cpu →
    (node.interruptPending = true → later.interruptPending = true) →
      later.contextSaved = node.contextSaved → related (some node) (some later)
  trans : ∀ first second third, related first second → related second third → related first third

def Stays (related : TaskNode → TaskNode → Prop) (before after : Option TaskNode) : Prop :=
  ∀ node, before = some node → ∃ later, after = some later ∧ related node later

variable {related : TaskNode → TaskNode → Prop}

theorem Stays.of_related {node later : TaskNode}
    (holds : related node later) : Stays related (some node) (some later) := by
  intro old same
  cases same
  exact ⟨later, rfl, holds⟩

theorem Tracking.stays
    (keeps : ∀ node later, later.cpu = node.cpu →
      (node.interruptPending = true → later.interruptPending = true) → related node later)
    (trans :
      ∀ first second third, related first second → related second third → related first third) :
    Tracking (Stays related) := by
  refine ⟨by simp [Stays], by simp [Stays], ?_, ?_⟩
  · intro node later home credit _
    exact Stays.of_related (keeps node later home credit)
  · intro before between after first second node present
    obtain ⟨middle, found, isFirst⟩ := first node present
    obtain ⟨later, reached, isSecond⟩ := second middle found
    exact ⟨later, reached, trans node middle later isFirst isSecond⟩

section Tracks

variable {related : Option TaskNode → Option TaskNode → Prop} {scheduler middle next : Scheduler}
variable {position : TaskId → Position} {cpu : Cpu} {id task : TaskId}

variable (tracking : Tracking related)

include tracking

theorem Tracking.same : ∀ entry, related entry entry
  | none => tracking.absent
  | some node => tracking.keeps node node rfl (fun set => set) rfl

theorem Tracking.of_same (same : next.allTasks task = scheduler.allTasks task) :
    Tracks related scheduler next task := by
  rw [Tracks, same]
  exact tracking.same _

theorem Tracking.refl (scheduler : Scheduler) (task : TaskId) :
    Tracks related scheduler scheduler task :=
  tracking.of_same rfl

theorem Tracking.compose
    (first : Tracks related scheduler middle task) (second : Tracks related middle next task) :
    Tracks related scheduler next task :=
  tracking.trans _ _ _ first second

theorem Tracking.replace (id : TaskId) (entry : Option TaskNode → Option TaskNode)
    (nodes : next.allTasks = update scheduler.allTasks id (entry (scheduler.allTasks id)))
    (missing : entry none = none)
    (replaced : ∀ node, scheduler.allTasks id = some node → task = id →
      related (some node) (entry (some node))) :
    Tracks related scheduler next task := by
  by_cases same : task = id
  · rw [Tracks, nodes, same, update_self]
    cases present : scheduler.allTasks id with
    | none =>
      rw [missing]
      exact tracking.absent
    | some node => exact replaced node present same
  · apply tracking.of_same
    rw [nodes, update_of_ne same]

variable {edit : TaskNode → TaskNode}

theorem Tracking.modifyTask
    (edited : ∀ node, scheduler.allTasks id = some node → task = id →
      related (some node) (some (edit node))) :
    Tracks related scheduler (scheduler.modifyTask id edit) task :=
  tracking.replace id (Option.map edit) rfl rfl edited

/-- An edit that keeps the processor, the credit and the context. -/
theorem Tracking.modifyKeeping
    (keeps : ∀ node, (edit node).cpu = node.cpu ∧
      (node.interruptPending = true → (edit node).interruptPending = true) ∧
      (edit node).contextSaved = node.contextSaved) :
    Tracks related scheduler (scheduler.modifyTask id edit) task := by
  refine tracking.modifyTask (fun node _ _ => ?_)
  obtain ⟨home, credit, context⟩ := keeps node
  exact tracking.keeps node (edit node) home credit context

theorem Tracking.enqueue : Tracks related scheduler (scheduler.enqueue cpu id) task :=
  tracking.modifyKeeping (by simp)

theorem Tracking.leaveCurrent {state : TaskState} :
    Tracks related scheduler (scheduler.leaveCurrent cpu id state) task :=
  tracking.modifyKeeping (by simp)

variable {picked : Option TaskId}

omit tracking in
theorem allTasks_pickNext (picks : scheduler.pickNext cpu = (picked, next)) :
    next.allTasks = scheduler.allTasks := by
  rcases pickNext_cases picks with ⟨_, _, _, _, rfl⟩ | ⟨_, _, rfl⟩ <;> rfl

theorem Tracking.addSleeping {deadline : Instant} :
    Tracks related scheduler (scheduler.addSleeping id deadline) task :=
  tracking.modifyKeeping (by simp)

theorem Tracking.addBlocked {deadline : Option Instant} :
    Tracks related scheduler (scheduler.addBlocked id deadline) task :=
  tracking.modifyKeeping (by simp)

theorem Tracking.pickNext (picks : scheduler.pickNext cpu = (picked, next)) :
    Tracks related scheduler next task :=
  tracking.of_same (congrFun (allTasks_pickNext picks) task)

/-- Publishing a task with another processor needs a reason of its own. -/
theorem Tracking.publishNext
    (published : ∀ node, scheduler.allTasks id = some node → task = id →
      node.cpu = cpu ∨ related (some node) (some { node with state := .running, cpu := cpu })) :
    Tracks related scheduler (scheduler.publishNext cpu id) task := by
  refine tracking.modifyTask ?_
  intro node present same
  rcases published node present same with home | reason
  · exact tracking.keeps node _ home.symm (fun set => set) rfl
  · exact reason

/-- The idle task may be published for the first time. -/
def IdlePublished (related : Option TaskNode → Option TaskNode → Prop)
    (scheduler : Scheduler) (cpu : Cpu) (task : TaskId) : Prop :=
  ∀ node, scheduler.idleTasks cpu = some task → scheduler.allTasks task = some node →
    node.cpu = cpu ∨ related (some node) (some { node with state := .running, cpu := cpu })

omit tracking in
/-- A change to another task than the idle one. -/
theorem IdlePublished.of_others (idle : IdlePublished related scheduler cpu task)
    (idleTasks : next.idleTasks = scheduler.idleTasks)
    (others : ∀ other, other ≠ id → next.allTasks other = scheduler.allTasks other)
    (notIdle : scheduler.idleTasks cpu ≠ some id) :
    IdlePublished related next cpu task := by
  intro node isIdle present
  rw [idleTasks] at isIdle
  rw [others task fun same => notIdle (same ▸ isIdle)] at present
  exact idle node isIdle present

theorem Tracking.dispatch
    (placed : Resting scheduler position) (idle : IdlePublished related scheduler cpu task)
    (picks : scheduler.pickNext cpu = (some id, next)) {phase : Phase} :
    Tracks related scheduler ((next.publishNext cpu id).setPhase cpu phase) task := by
  refine tracking.compose (tracking.pickNext picks) (tracking.publishNext ?_)
  intro node present isTask
  rw [allTasks_pickNext picks] at present
  rcases pickNext_cases picks with
    ⟨popped, rest, queue, isPopped, _⟩ | ⟨_, isIdle, _⟩
  · cases isPopped
    exact Or.inl (placed.ready_of_queue queue present).2
  · rw [← isTask] at isIdle present
    exact idle node isIdle.symm present

theorem Tracking.resume : Tracks related scheduler (scheduler.resume cpu id) task :=
  tracking.modifyKeeping (by simp)

theorem Tracking.doSwitch
    (switched : ∀ node saved, related (some node) (some { node with contextSaved := saved }))
    (switches : scheduler.doSwitch cpu = some next) :
    Tracks related scheduler next task := by
  have saves (scheduler : Scheduler) (id : TaskId) (saved : Bool) :
      Tracks related scheduler
        (scheduler.modifyTask id (fun node => { node with contextSaved := saved })) task :=
    tracking.modifyTask (fun node _ _ => switched node saved)
  revert switches
  fun_cases Scheduler.doSwitch with
  | case1 previous incoming =>
    rintro ⟨⟩
    cases previous with
    | none => exact saves scheduler incoming false
    | some previous =>
      exact tracking.compose (saves scheduler previous true) (saves _ incoming false)
  | case2 => nofun

theorem Tracking.enter : Tracks related scheduler (scheduler.enter cpu) task := by
  unfold Scheduler.enter
  split
  · exact tracking.of_same rfl
  · exact tracking.modifyKeeping (by simp)

theorem Tracking.remove
    (removed : ∀ node, scheduler.allTasks id = some node → task = id → related (some node) none) :
    Tracks related scheduler
      { scheduler with allTasks := update scheduler.allTasks id none } task :=
  tracking.replace id (fun _ => none) rfl rfl removed

theorem Tracking.removeBlocked : Tracks related scheduler (scheduler.removeBlocked id) task :=
  tracking.modifyKeeping (by simp)

theorem Tracking.makeReady
    (edited : ∀ node, scheduler.allTasks id = some node → task = id →
      related (some node) (some (edit node))) :
    Tracks related scheduler ((scheduler.modifyTask id edit).enqueue cpu id) task :=
  tracking.compose (tracking.modifyTask edited) tracking.enqueue

omit tracking in
theorem wakeTargetCpu_of_online {last : Cpu} (online : scheduler.isOnline last = true) :
    scheduler.wakeTargetCpu last = last := by
  rw [wakeTargetCpu, if_pos online]

/-- A task that waits on an online processor is woken there. -/
theorem Tracking.wakeExpired
    (online : ∀ node, scheduler.allTasks id = some node → scheduler.isOnline node.cpu = true) :
    Tracks related scheduler (scheduler.wakeExpired id) task := by
  unfold Scheduler.wakeExpired
  split
  · exact tracking.refl scheduler task
  · next node present =>
    rw [wakeTargetCpu_of_online (online node present)]
    apply tracking.makeReady
    intro old found _
    rw [present] at found
    cases found
    exact tracking.keeps node _ rfl (fun set => set) rfl

theorem Tracking.createTask (placed : Resting scheduler position) :
    Tracks related scheduler scheduler.createTask.2 task := by
  by_cases same : task = scheduler.nextTaskId
  · have missing := placed.suited.fresh task (Nat.le_of_eq same.symm)
    rw [Tracks, missing]
    simp only [Scheduler.createTask, same, update_self]
    exact tracking.created 0
  · exact tracking.of_same (update_of_ne same ..)

theorem Tracking.stageSpawn (placed : Resting scheduler position) {requested : Option Cpu} :
    Tracks related scheduler (scheduler.stageSpawn cpu requested) task := by
  by_cases same : task = scheduler.nextTaskId
  · have missing := placed.suited.fresh task (Nat.le_of_eq same.symm)
    rw [Tracks, missing]
    cases requested <;>
    · simp only [Scheduler.stageSpawn, Scheduler.createTask,
        selectLeastLoadedCpu, Scheduler.modifyTask, same, update_self, Option.map_some]
      exact tracking.created _
  · apply tracking.of_same
    cases requested <;>
      simp [Scheduler.stageSpawn, Scheduler.createTask, selectLeastLoadedCpu,
        Scheduler.modifyTask, same]

end Tracks

end Xenith.Sched.Scheduler
