import Xenith.Sched.Scheduler

/-!
# Where a task is

The places that can hold a task, and how every edit of the scheduler moves a
task from one place to another.  Inside of a step a task may be on its way
between two places.
-/

namespace Xenith.Sched.Scheduler

open Function

inductive Place where
  | current (cpu : Cpu)
  | runQueue (cpu : Cpu)
  | sleepQueue
  | blockedQueue
  | staged
  | idle (cpu : Cpu)
  | retired (cpu : Cpu)
  | picked (cpu : Cpu)
  | reclaiming (cpu : Cpu)
deriving DecidableEq

/-- The task that a processor has picked and not published yet. -/
def pickedTask : Phase → Option TaskId
  | .picked _ _ next => next
  | _ => none

/-- The place holds the task.  A processor inside of `exit` has not emptied
its current slot yet, which does not count. -/
def Holds (scheduler : Scheduler) : Place → TaskId → Prop
  | .current cpu, id => scheduler.currentNode cpu = some id ∧ scheduler.phase cpu ≠ .exiting
  | .runQueue cpu, id => id ∈ scheduler.runQueues cpu
  | .sleepQueue, id => id ∈ scheduler.sleepQueue
  | .blockedQueue, id => id ∈ scheduler.blockedQueue
  | .staged, id => id ∈ scheduler.staged.map StagedTask.id
  | .idle cpu, id => scheduler.idleTasks cpu = some id ∧ scheduler.currentNode cpu ≠ some id
  | .retired cpu, id => scheduler.retiredTask cpu = some id
  | .picked cpu, id =>
    pickedTask (scheduler.phase cpu) = some id ∧ scheduler.idleTasks cpu ≠ some id
  | .reclaiming cpu, id => scheduler.phase cpu = .reclaiming id

/-- What the place says about the task in it. -/
def Suits (scheduler : Scheduler) : Place → TaskNode → Prop
  | .current cpu, node => node.state = .running ∧ node.cpu = cpu
  | .runQueue cpu, node => node.state = .ready ∧ node.cpu = cpu
  | .sleepQueue, node => node.state = .sleeping ∧ scheduler.isOnline node.cpu = true
  | .blockedQueue, node => node.state = .blocked ∧ scheduler.isOnline node.cpu = true
  | .staged, node => node.state = .ready ∧ node.started = false
  | .idle _, _ => True
  | .retired cpu, node => node.state = .zombie ∧ node.cpu = cpu
  | .picked cpu, node => node.state = .ready ∧ node.cpu = cpu
  | .reclaiming cpu, node => node.state = .zombie ∧ node.cpu = cpu

inductive Position where
  | nowhere
  | moving
  | at (place : Place)
deriving DecidableEq

/-- The positions describe the queues and slots. -/
structure Shape (scheduler : Scheduler) (position : TaskId → Position) : Prop where
  stands : ∀ place id, scheduler.Holds place id ↔ position id = .at place
  runQueues : ∀ cpu, (scheduler.runQueues cpu).Nodup
  sleepQueue : scheduler.sleepQueue.Nodup
  blockedQueue : scheduler.blockedQueue.Nodup
  staged : (scheduler.staged.map StagedTask.id).Nodup
  idle : ∀ cpu id, scheduler.idleTasks cpu = some id →
    position id = .at (.idle cpu) ∨ position id = .at (.current cpu)

/-- The nodes are as their positions say. -/
structure Suited (scheduler : Scheduler) (position : TaskId → Position) : Prop where
  owned : ∀ id, scheduler.allTasks id = none ↔ position id = .nowhere
  suits : ∀ id place node, position id = .at place →
    scheduler.allTasks id = some node → scheduler.Suits place node
  fresh : ∀ id, scheduler.nextTaskId ≤ id → scheduler.allTasks id = none

structure Placed (scheduler : Scheduler) (position : TaskId → Position) : Prop where
  shape : Shape scheduler position
  suited : Suited scheduler position

def Distinct (scheduler : Scheduler) : Prop :=
  (∀ cpu, (scheduler.runQueues cpu).Nodup) ∧ scheduler.sleepQueue.Nodup ∧
    scheduler.blockedQueue.Nodup ∧
    (scheduler.staged.map StagedTask.id).Nodup

/-- A step keeps the idle tasks and the online processors, and edits no node
but the given one. -/
structure Edits (scheduler next : Scheduler) (id : TaskId) (edit : TaskNode → TaskNode) : Prop where
  nodes : next.allTasks = update scheduler.allTasks id ((scheduler.allTasks id).map edit)
  nextTaskId : next.nextTaskId = scheduler.nextTaskId
  idleTasks : next.idleTasks = scheduler.idleTasks
  online : ∀ cpu, scheduler.isOnline cpu = true → next.isOnline cpu = true

section Moves

variable {scheduler next : Scheduler} {position : TaskId → Position}
variable {cpu : Cpu} {id : TaskId} {place : Place} {edit : TaskNode → TaskNode}

theorem isOnline_setPhase {phase : Phase} (online : phase ≠ .offline)
    {other : Cpu} (isOnline : scheduler.isOnline other = true) :
    (scheduler.setPhase cpu phase).isOnline other = true := by
  simp only [Scheduler.isOnline, Scheduler.setPhase, update_apply] at isOnline ⊢
  split
  · simpa using online
  · exact isOnline

theorem Suits.mono {node : TaskNode} (suits : scheduler.Suits place node)
    (online : ∀ cpu, scheduler.isOnline cpu = true → next.isOnline cpu = true) :
    next.Suits place node := by
  cases place with
  | sleepQueue => exact ⟨suits.1, online _ suits.2⟩
  | blockedQueue => exact ⟨suits.1, online _ suits.2⟩
  | _ => exact suits

theorem Suited.isSome (suited : Suited scheduler position) (present : position id ≠ .nowhere) :
    ∃ node, scheduler.allTasks id = some node := by
  cases found : scheduler.allTasks id with
  | none => exact absurd ((suited.owned id).mp found) present
  | some node => exact ⟨node, rfl⟩

section Shape

variable (shape : Shape scheduler position)

include shape

theorem Shape.idle_unique {left right : Cpu} (leftIdle : scheduler.idleTasks left = some id)
    (rightIdle : scheduler.idleTasks right = some id) : left = right := by
  rcases shape.idle left id leftIdle with atLeft | atLeft <;>
    rcases shape.idle right id rightIdle with atRight | atRight <;>
    rw [atLeft] at atRight <;> cases atRight <;> rfl

/-- Only a current slot or an idle slot holds an idle task. -/
theorem Shape.not_idle
    (notCurrent : position id ≠ .at (.current cpu)) (notAtRest : position id ≠ .at (.idle cpu)) :
    scheduler.idleTasks cpu ≠ some id := by
  intro isIdle
  rcases shape.idle cpu id isIdle with stands | stands
  · exact notAtRest stands
  · exact notCurrent stands

theorem Shape.not_idle_of_place (stands : position id = .at place)
    (apart : ∀ cpu, place ≠ .current cpu ∧ place ≠ .idle cpu) (cpu : Cpu) :
    scheduler.idleTasks cpu ≠ some id :=
  shape.not_idle (by simp [stands, apart]) (by simp [stands, apart])

theorem Shape.not_idle_of_current (stands : position id = .at (.current cpu))
    (notIdle : scheduler.idleTasks cpu ≠ some id) (other : Cpu) :
    scheduler.idleTasks other ≠ some id := by
  by_cases same : other = cpu
  · rw [same]
    exact notIdle
  · exact shape.not_idle (by simp [stands, Ne.symm same]) (by simp [stands])

theorem Shape.absent (moving : position id = .moving)
    (place : Place) : ¬ scheduler.Holds place id := by
  rw [shape.stands, moving]
  simp

end Shape

theorem Placed.distinct (placed : Placed scheduler position) : Distinct scheduler :=
  ⟨placed.shape.runQueues, placed.shape.sleepQueue, placed.shape.blockedQueue, placed.shape.staged⟩

theorem Distinct.setRunQueue (distinct : Distinct scheduler) {queue : List TaskId}
    (nodup : queue.Nodup) : Distinct (scheduler.setRunQueue cpu queue) := by
  refine ⟨?_, distinct.2⟩
  intro other
  simp only [Scheduler.setRunQueue, update_apply]
  split
  · exact nodup
  · exact distinct.1 other

theorem Placed.move (placed : Placed scheduler position) {target : Position}
    (holds : ∀ place other, next.Holds place other ↔
      (other ≠ id ∧ scheduler.Holds place other) ∨ (other = id ∧ target = .at place))
    (distinct : Distinct next)
    (idle : ∀ cpu other, next.idleTasks cpu = some other →
      (other ≠ id ∧ scheduler.idleTasks cpu = some other) ∨
        (other = id ∧ (target = .at (.idle cpu) ∨ target = .at (.current cpu))))
    (others : ∀ other, other ≠ id → next.allTasks other = scheduler.allTasks other)
    (owned : next.allTasks id = none ↔ target = .nowhere)
    (suits :
      ∀ place node, target = .at place → next.allTasks id = some node → next.Suits place node)
    (fresh : ∀ other, next.nextTaskId ≤ other → next.allTasks other = none)
    (online : ∀ cpu, scheduler.isOnline cpu = true → next.isOnline cpu = true) :
    Placed next (update position id target) := by
  refine ⟨⟨?_, distinct.1, distinct.2.1, distinct.2.2.1, distinct.2.2.2, ?_⟩, ?_, ?_, fresh⟩
  · intro place other
    rw [holds place other]
    by_cases same : other = id
    · simp [same]
    · simp [same, placed.shape.stands place other]
  · intro cpu other isIdle
    rcases idle cpu other isIdle with ⟨different, wasIdle⟩ | ⟨rfl, arrives⟩
    · rw [update_of_ne different]
      exact placed.shape.idle cpu other wasIdle
    · rw [update_self]
      exact arrives
  · intro other
    by_cases same : other = id
    · rw [same, update_self]
      exact owned
    · rw [others other same, update_of_ne same]
      exact placed.suited.owned other
  · intro other place node stands present
    by_cases same : other = id
    · rw [same, update_self] at stands
      rw [same] at present
      exact suits place node stands present
    · rw [update_of_ne same] at stands
      rw [others other same] at present
      exact (placed.suited.suits other place node stands present).mono online

theorem Edits.allTasks_eq_none (edits : Edits scheduler next id edit) {other : TaskId} :
    next.allTasks other = none ↔ scheduler.allTasks other = none := by
  rw [edits.nodes, update_apply]
  split
  · next same => rw [same, Option.map_eq_none_iff]
  · rfl

theorem Edits.of_same (id : TaskId) (nodes : next.allTasks = scheduler.allTasks)
    (nextTaskId : next.nextTaskId = scheduler.nextTaskId)
    (idleTasks : next.idleTasks = scheduler.idleTasks)
    (online : ∀ cpu, scheduler.isOnline cpu = true → next.isOnline cpu = true) :
    Edits scheduler next id (fun node => node) := by
  refine ⟨?_, nextTaskId, idleTasks, online⟩
  rw [nodes, Option.map_id', update_eq_self]

section Placed

variable (placed : Placed scheduler position)

include placed

/-- A task is moved and edited. -/
theorem Placed.relocate
    {target : Position} (edits : Edits scheduler next id edit) (distinct : Distinct next)
    (before : position id ≠ .nowhere) (after : target ≠ .nowhere)
    (holds : ∀ place other, next.Holds place other ↔
      (other ≠ id ∧ scheduler.Holds place other) ∨ (other = id ∧ target = .at place))
    (idle : ∀ cpu, scheduler.idleTasks cpu = some id →
      target = .at (.idle cpu) ∨ target = .at (.current cpu))
    (suits : ∀ place node, target = .at place → scheduler.allTasks id = some node →
      next.Suits place (edit node)) :
    Placed next (update position id target) := by
  refine placed.move holds distinct ?_ ?_ ?_ ?_ ?_ edits.online
  · intro cpu other isIdle
    rw [edits.idleTasks] at isIdle
    by_cases same : other = id
    · exact Or.inr ⟨same, idle cpu (same ▸ isIdle)⟩
    · exact Or.inl ⟨same, isIdle⟩
  · intro other different
    rw [edits.nodes, update_of_ne different]
  · rw [edits.allTasks_eq_none, placed.suited.owned]
    exact iff_of_false before after
  · intro place node arrives present
    rw [edits.nodes, update_self] at present
    obtain ⟨old, found, rfl⟩ := Option.map_eq_some_iff.mp present
    exact suits place old arrives found
  · intro other bound
    rw [edits.nextTaskId] at bound
    exact edits.allTasks_eq_none.mpr (placed.suited.fresh other bound)

/-- A task that is not idle leaves its place. -/
theorem Placed.leave
    (stands : position id = .at place) (notIdle : ∀ cpu, scheduler.idleTasks cpu ≠ some id)
    (edits : Edits scheduler next id edit) (distinct : Distinct next)
    (holds : ∀ other, (∀ there, scheduler.Holds there id ↔ there = place) →
      ∀ there, next.Holds there other ↔ other ≠ id ∧ scheduler.Holds there other) :
    Placed next (update position id .moving) := by
  refine placed.relocate edits distinct (by simp [stands]) (by simp) ?_
    (fun cpu isIdle => absurd isIdle (notIdle cpu)) (by simp)
  intro there other
  rw [holds other]
  · simp
  · intro there
    rw [placed.shape.stands, stands, Position.at.injEq, eq_comm]

theorem Placed.arrive (moving : position id = .moving)
    (edits : Edits scheduler next id edit) (distinct : Distinct next)
    (holds : ∀ other, (∀ there, ¬ scheduler.Holds there id) →
      (∀ cpu, scheduler.idleTasks cpu ≠ some id) → ∀ there, next.Holds there other ↔
        scheduler.Holds there other ∨ (other = id ∧ there = place))
    (suits : ∀ node, scheduler.allTasks id = some node → next.Suits place (edit node)) :
    Placed next (update position id (.at place)) := by
  have absent := placed.shape.absent moving
  have notIdle (cpu : Cpu) : scheduler.idleTasks cpu ≠ some id :=
    placed.shape.not_idle (by simp [moving]) (by simp [moving])
  refine placed.relocate edits distinct (by simp [moving]) (by simp) ?_
    (fun cpu isIdle => absurd isIdle (notIdle cpu)) ?_
  · intro there other
    rw [holds other absent notIdle, Position.at.injEq, eq_comm (a := place)]
    by_cases same : other = id
    · simp [same, absent there]
    · simp [same]
  · intro there node arrives present
    cases arrives
    exact suits node present

theorem Placed.stay (edits : Edits scheduler next id edit) (distinct : Distinct next)
    (holds : ∀ there other, next.Holds there other ↔ scheduler.Holds there other)
    (suits : ∀ place node, position id = .at place →
      scheduler.allTasks id = some node → scheduler.Suits place node →
        scheduler.Suits place (edit node)) :
    Placed next position := by
  refine ⟨⟨?_, distinct.1, distinct.2.1, distinct.2.2.1, distinct.2.2.2, ?_⟩, ?_, ?_, ?_⟩
  · intro place other
    exact (holds place other).trans (placed.shape.stands place other)
  · rw [edits.idleTasks]
    exact placed.shape.idle
  · intro other
    exact edits.allTasks_eq_none.trans (placed.suited.owned other)
  · intro other place node stands present
    rw [edits.nodes, update_apply] at present
    split at present
    · next same =>
      rw [same] at stands
      obtain ⟨old, found, rfl⟩ := Option.map_eq_some_iff.mp present
      exact (suits place old stands found
        (placed.suited.suits id place old stands found)).mono edits.online
    · exact (placed.suited.suits other place node stands present).mono edits.online
  · intro other bound
    rw [edits.nextTaskId] at bound
    exact edits.allTasks_eq_none.mpr (placed.suited.fresh other bound)

theorem Placed.congr (nodes : next.allTasks = scheduler.allTasks)
    (nextTaskId : next.nextTaskId = scheduler.nextTaskId)
    (idleTasks : next.idleTasks = scheduler.idleTasks)
    (online : ∀ cpu, scheduler.isOnline cpu = true → next.isOnline cpu = true)
    (distinct : Distinct next)
    (holds : ∀ there other, next.Holds there other ↔ scheduler.Holds there other) :
    Placed next position :=
  placed.stay (Edits.of_same 0 nodes nextTaskId idleTasks online)
    distinct holds (fun _ _ _ _ suits => suits)

end Placed

/-- The phases in which a processor holds no task back. -/
def isPlain : Phase → Bool
  | .picked _ _ _ => false
  | .exiting => false
  | .reclaiming _ => false
  | _ => true

structure PlainPhase (phase : Phase) : Prop where
  notExiting : phase ≠ .exiting
  notPicked : pickedTask phase = none
  notReclaiming : ∀ retired, phase ≠ .reclaiming retired

theorem plainPhase_of_isPlain {phase : Phase} (plain : isPlain phase = true) :
    PlainPhase phase := by
  cases phase with
  | picked => cases plain
  | exiting => cases plain
  | reclaiming => cases plain
  | _ => exact ⟨by simp, rfl, by simp⟩

theorem allTasks_modifyTask {node : TaskNode} :
    (scheduler.modifyTask id edit).allTasks id = some node ↔
      ∃ old, scheduler.allTasks id = some old ∧ edit old = node := by
  simp [Scheduler.modifyTask]

end Moves

end Xenith.Sched.Scheduler
