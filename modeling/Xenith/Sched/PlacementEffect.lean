import Xenith.Sched.Placement

/-!
# Effects of the calls on the places

Every section of the scheduler as a sequence of moves.
-/

namespace Xenith.Sched.Scheduler

open Function
open ListEdit

def Settled (position : TaskId → Position) : Prop :=
  ∀ id, position id ≠ .moving

structure Resting (scheduler : Scheduler) (position : TaskId → Position) :
    Prop extends Placed scheduler position where
  settled : Settled position

section Effects

variable {scheduler next : Scheduler} {position : TaskId → Position}
variable {cpu : Cpu} {id : TaskId} {edit : TaskNode → TaskNode}

theorem Settled.update (settled : Settled position) {target : Position} (stops : target ≠ .moving) :
    Settled (update position id target) :=
  (forall_update_iff position fun _ place => place ≠ .moving).mpr
    ⟨stops, fun other _ => settled other⟩

theorem Settled.move (settled : Settled position) {target : Position} (stops : target ≠ .moving) :
    Settled (Function.update (Function.update position id .moving) id target) := by
  rw [update_idem]
  exact settled.update stops

variable {phase : Phase} {handover : Handover} {previous : TaskId}

section Placed

variable (placed : Placed scheduler position)

include placed

theorem Placed.modifyTask
    (kept : ∀ place node, position id = .at place → scheduler.allTasks id = some node →
      scheduler.Suits place node → scheduler.Suits place (edit node)) :
    Placed (scheduler.modifyTask id edit) position :=
  placed.stay ⟨rfl, rfl, rfl, fun _ online => online⟩ placed.distinct
    (fun place _ => by cases place <;> rfl) kept

theorem Placed.modifyMoving (moving : position id = .moving) (edit : TaskNode → TaskNode) :
    Placed (scheduler.modifyTask id edit) position := by
  apply placed.modifyTask
  intro place _ stands
  rw [moving] at stands
  cases stands

/-- An edit that keeps the state, the processor and the start mark. -/
theorem Placed.modifyKeeping
    (keeps : ∀ node, (edit node).state = node.state ∧ (edit node).cpu = node.cpu ∧
      (edit node).started = node.started) :
    Placed (scheduler.modifyTask id edit) position := by
  apply placed.modifyTask
  intro place node _ _ suits
  cases place <;> simp only [Suits, keeps node] at suits ⊢ <;> exact suits

/-! ## Slots and run queues -/

theorem Placed.leaveCurrent (stands : position id = .at (.current cpu))
    (notIdle : scheduler.idleTasks cpu ≠ some id) (state : TaskState) :
    Placed (scheduler.leaveCurrent cpu id state) (update position id .moving) := by
  refine placed.leave stands (placed.shape.not_idle_of_current stands notIdle)
    ⟨rfl, rfl, rfl, fun _ online => online⟩ placed.distinct ?_
  intro other held there
  have here := held there
  have slot := held (.current cpu)
  cases there <;>
    simp only [Holds, Scheduler.leaveCurrent, setCurrentNode,
      Scheduler.modifyTask, update_apply] at here slot ⊢ <;>
    grind

theorem Placed.enqueue (moving : position id = .moving)
    (ready : ∀ node, scheduler.allTasks id = some node → node.state = .ready ∧ node.cpu = cpu) :
    Placed (scheduler.enqueue cpu id) (update position id (.at (.runQueue cpu))) := by
  have nodup :=
    nodup_append_singleton (placed.shape.runQueues cpu) (placed.shape.absent moving (.runQueue cpu))
  refine placed.arrive moving ⟨rfl, rfl, rfl, fun _ online => online⟩
    (placed.distinct.setRunQueue nodup) ?_ ready
  intro other _ _ there
  cases there <;>
    simp only [Holds, Scheduler.enqueue, setRunQueue, Scheduler.modifyTask] <;>
    grind

variable {rest : List TaskId}

section Queue

variable (queue : scheduler.runQueues cpu = id :: rest)

include queue

theorem Placed.stands_of_queue : position id = .at (.runQueue cpu) := by
  rw [← placed.shape.stands]
  simp [Holds, queue]

theorem Placed.popFront : Placed (scheduler.setRunQueue cpu rest) (update position id .moving) := by
  have stands := placed.stands_of_queue queue
  have nodup := placed.shape.runQueues cpu
  rw [queue, List.nodup_cons] at nodup
  refine placed.leave stands (placed.shape.not_idle_of_place stands (by simp))
    (Edits.of_same id rfl rfl rfl (fun _ online => online)) (placed.distinct.setRunQueue nodup.2) ?_
  intro other held there
  have here := held there
  cases there <;>
    simp only [Holds, setRunQueue] at here ⊢ <;>
    grind

theorem Placed.ready_of_queue {node : TaskNode} (present : scheduler.allTasks id = some node) :
    node.state = .ready ∧ node.cpu = cpu :=
  placed.suited.suits id _ node (placed.stands_of_queue queue) present

end Queue

/-- The slot is filled with a task on its way. -/
theorem Placed.enterCurrent (moving : position id = .moving)
    (edit : TaskNode → TaskNode) (empty : scheduler.currentNode cpu = none)
    (notExiting : scheduler.phase cpu ≠ .exiting)
    (runs : ∀ node, scheduler.allTasks id = some node →
      (edit node).state = .running ∧ (edit node).cpu = cpu) :
    Placed ((scheduler.modifyTask id edit).setCurrentNode cpu (some id))
      (update position id (.at (.current cpu))) := by
  refine placed.arrive moving ⟨rfl, rfl, rfl, fun _ online => online⟩ placed.distinct ?_ runs
  intro other absent notIdle there
  cases there <;>
    simp only [Holds, setCurrentNode, Scheduler.modifyTask] <;>
    grind

theorem Placed.publishMoving
    (moving : position id = .moving) (empty : scheduler.currentNode cpu = none)
    (notExiting : scheduler.phase cpu ≠ .exiting) :
    Placed (scheduler.publishNext cpu id) (update position id (.at (.current cpu))) :=
  placed.enterCurrent moving _ empty notExiting (fun _ _ => ⟨rfl, rfl⟩)

theorem Placed.publishIdle
    (isIdle : scheduler.idleTasks cpu = some id) (empty : scheduler.currentNode cpu = none)
    (notExiting : scheduler.phase cpu ≠ .exiting) :
    Placed (scheduler.publishNext cpu id) (update position id (.at (.current cpu))) := by
  have stands : position id = .at (.idle cpu) := by
    rw [← placed.shape.stands]
    exact ⟨isIdle, by simp [empty]⟩
  refine placed.relocate ⟨rfl, rfl, rfl, fun _ online => online⟩
    placed.distinct (by simp [stands]) (by simp) ?_ ?_ ?_
  · intro place other
    have before := placed.shape.stands place id
    cases place <;>
      simp only [Holds, publishNext, setCurrentNode, Scheduler.modifyTask,
        update_apply] at before ⊢ <;>
      grind
  · intro other otherIdle
    rw [placed.shape.idle_unique otherIdle isIdle]
    exact Or.inr rfl
  · intro place node arrives _
    cases arrives
    exact ⟨rfl, rfl⟩

theorem Placed.restIdle
    (isIdle : scheduler.idleTasks cpu = some id) (stands : position id = .at (.current cpu)) :
    Placed (scheduler.setCurrentNode cpu none) (update position id (.at (.idle cpu))) := by
  refine placed.relocate (Edits.of_same id rfl rfl rfl (fun _ online => online))
    placed.distinct (by simp [stands]) (by simp) ?_ ?_ ?_
  · intro place other
    have before := placed.shape.stands place id
    have slot := placed.shape.stands (.current cpu) id
    cases place <;>
      simp only [Holds, setCurrentNode] at before slot ⊢ <;>
      grind
  · intro other otherIdle
    rw [placed.shape.idle_unique otherIdle isIdle]
    exact Or.inl rfl
  · intro place node arrives _
    cases arrives
    exact trivial

/-! ## Phases -/

/-- A processor in the phase holds no task back but its idle task. -/
structure FreePhase (idle : Option TaskId) (phase : Phase) : Prop where
  notExiting : phase ≠ .exiting
  picked : pickedTask phase = none ∨ pickedTask phase = idle
  notReclaiming : ∀ retired, phase ≠ .reclaiming retired

variable {idle : Option TaskId}

omit placed in
theorem freePhase_of_isPlain (plain : isPlain phase = true) : FreePhase idle phase :=
  have ⟨notExiting, notPicked, notReclaiming⟩ := plainPhase_of_isPlain plain
  ⟨notExiting, Or.inl notPicked, notReclaiming⟩

omit placed in
theorem freePhase_of_idle : FreePhase idle (.picked handover previous idle) :=
  ⟨by simp, Or.inr rfl, by simp⟩

theorem Placed.setFreePhase (before : FreePhase (scheduler.idleTasks cpu) (scheduler.phase cpu))
    (after : FreePhase (scheduler.idleTasks cpu) phase) (online : phase ≠ .offline) :
    Placed (scheduler.setPhase cpu phase) position := by
  refine placed.congr rfl rfl rfl (fun _ => isOnline_setPhase online) placed.distinct ?_
  intro place other
  obtain ⟨_, _, _⟩ := before
  obtain ⟨_, _, _⟩ := after
  cases place <;>
    simp only [Holds, Scheduler.setPhase] <;>
    grind

theorem Placed.setPhase (before : isPlain (scheduler.phase cpu) = true)
    (after : isPlain phase = true) (online : phase ≠ .offline) :
    Placed (scheduler.setPhase cpu phase) position :=
  placed.setFreePhase (freePhase_of_isPlain before) (freePhase_of_isPlain after) online

theorem Placed.pick (moving : position id = .moving) (plain : isPlain (scheduler.phase cpu) = true)
    (ready : ∀ node, scheduler.allTasks id = some node → node.state = .ready ∧ node.cpu = cpu) :
    Placed (scheduler.setPhase cpu (.picked handover previous (some id)))
      (update position id (.at (.picked cpu))) := by
  obtain ⟨_, _, _⟩ := plainPhase_of_isPlain plain
  refine placed.arrive moving
    (Edits.of_same id rfl rfl rfl (fun _ => isOnline_setPhase (by simp))) placed.distinct ?_ ready
  intro other absent notIdle there
  have idle := notIdle cpu
  cases there <;>
    simp only [Holds, Scheduler.setPhase, update_apply] <;>
    grind [pickedTask]

theorem Placed.unpick (stands : position id = .at (.picked cpu))
    (picked : scheduler.phase cpu = .picked handover previous (some id))
    (plain : isPlain phase = true) (online : phase ≠ .offline) :
    Placed (scheduler.setPhase cpu phase) (update position id .moving) := by
  obtain ⟨_, _, _⟩ := plainPhase_of_isPlain plain
  refine placed.leave stands (placed.shape.not_idle_of_place stands (by simp))
    (Edits.of_same id rfl rfl rfl (fun _ => isOnline_setPhase online)) placed.distinct ?_
  intro other held there
  have here := held there
  cases there <;>
    simp only [Holds, Scheduler.setPhase] at here ⊢ <;>
    grind

end Placed

theorem pickNext_cases {picked : Option TaskId} (picks : scheduler.pickNext cpu = (picked, next)) :
    (∃ id rest, scheduler.runQueues cpu = id :: rest ∧ picked = some id ∧
      next = scheduler.setRunQueue cpu rest) ∨
      (scheduler.runQueues cpu = [] ∧ picked = scheduler.idleTasks cpu ∧ next = scheduler) := by
  unfold pickNext at picks
  split at picks
  · next id rest queue =>
    cases picks
    exact Or.inl ⟨id, rest, queue, rfl, rfl⟩
  · next queue =>
    cases picks
    exact Or.inr ⟨queue, rfl, rfl⟩

/-- A processor with an empty slot picks its next task and publishes it. -/
theorem Resting.dispatch
    (placed : Resting scheduler position) (empty : scheduler.currentNode cpu = none)
    (plain : isPlain (scheduler.phase cpu) = true)
    (picks : scheduler.pickNext cpu = (some id, next))
    (after : isPlain phase = true) (online : phase ≠ .offline) :
    ∃ position, Resting ((next.publishNext cpu id).setPhase cpu phase) position := by
  have notExiting := (plainPhase_of_isPlain plain).notExiting
  rcases pickNext_cases picks with
    ⟨popped, rest, queue, same, rfl⟩ | ⟨_, isIdle, rfl⟩
  · cases same
    have published := (placed.popFront queue).publishMoving (update_self ..) empty notExiting
    exact ⟨_, published.setPhase plain after online, placed.settled.move (by simp)⟩
  · have published := placed.publishIdle isIdle.symm empty notExiting
    exact ⟨_, published.setPhase plain after online, placed.settled.update (by simp)⟩

/-- A processor with an empty slot picks its next task and holds it. -/
theorem Resting.pick
    (placed : Resting scheduler position) (plain : isPlain (scheduler.phase cpu) = true)
    (picks : scheduler.pickNext cpu = (some id, next)) (handover : Handover) (previous : TaskId) :
    ∃ position, Resting (next.setPhase cpu (.picked handover previous (some id))) position := by
  rcases pickNext_cases picks with
    ⟨popped, rest, queue, same, rfl⟩ | ⟨_, isIdle, rfl⟩
  · cases same
    exact ⟨_, (placed.popFront queue).pick (update_self ..) plain
      (fun _ present => placed.ready_of_queue queue present), placed.settled.move (by simp)⟩
  · refine ⟨_, ?_, placed.settled⟩
    rw [isIdle]
    exact placed.setFreePhase (freePhase_of_isPlain plain) freePhase_of_idle (by simp)

/-! ## Calls of the current task -/

/-- A task of its own runs on the processor. -/
structure Ordinary (scheduler : Scheduler) (cpu : Cpu) (id : TaskId) : Prop where
  phase : scheduler.phase cpu = .running
  current : scheduler.currentNode cpu = some id
  notIdle : scheduler.idleTasks cpu ≠ some id

section Ordinary

variable (ordinary : Ordinary scheduler cpu id)

include ordinary

theorem Ordinary.isPlain : isPlain (scheduler.phase cpu) = true := by
  rw [ordinary.phase]
  rfl

theorem Ordinary.stands (placed : Placed scheduler position) :
    position id = .at (.current cpu) := by
  rw [← placed.shape.stands]
  exact ⟨ordinary.current, by simp [ordinary.phase]⟩

/-- The node of a task that has left the slot of its processor. -/
theorem Ordinary.left (placed : Placed scheduler position) {state : TaskState} {node : TaskNode}
    (present : (scheduler.leaveCurrent cpu id state).allTasks id = some node) :
    node.state = state ∧ node.cpu = cpu := by
  obtain ⟨old, found, rfl⟩ := allTasks_modifyTask.mp present
  exact ⟨rfl, (placed.suited.suits id _ old (ordinary.stands placed) found).2⟩

theorem Ordinary.requeue (placed : Resting scheduler position) :
    ∃ position, Resting ((scheduler.leaveCurrent cpu id .ready).enqueue cpu id) position := by
  have left := placed.leaveCurrent (ordinary.stands placed.toPlaced) ordinary.notIdle .ready
  exact ⟨_, left.enqueue (update_self ..)
    (fun node present => ordinary.left placed.toPlaced present), placed.settled.move (by simp)⟩

theorem Ordinary.isOnline : scheduler.isOnline cpu = true := by
  simp [Scheduler.isOnline, ordinary.phase]

theorem Ordinary.sleep (placed : Resting scheduler position) (deadline : Instant) :
    ∃ position,
      Resting ((scheduler.leaveCurrent cpu id .sleeping).addSleeping id deadline) position ∧
        position id = .at .sleepQueue := by
  have left := placed.leaveCurrent (ordinary.stands placed.toPlaced) ordinary.notIdle .sleeping
  have moving := update_self id Position.moving position
  have nodup := nodup_append_singleton left.shape.sleepQueue (left.shape.absent moving .sleepQueue)
  refine ⟨update _ id (.at .sleepQueue), ⟨left.arrive moving
    ⟨rfl, rfl, rfl, fun _ online => online⟩ ⟨left.distinct.1, nodup, left.distinct.2.2⟩ ?_ ?_,
    placed.settled.move (by simp)⟩, update_self ..⟩
  · intro other _ _ there
    cases there <;> simp [Holds, addSleeping, Scheduler.modifyTask]
  · intro node found
    obtain ⟨state, home⟩ := ordinary.left placed.toPlaced found
    exact ⟨state, by simp only [home]; exact ordinary.isOnline⟩

theorem Ordinary.block (placed : Resting scheduler position) (deadline : Option Instant) :
    ∃ position, Resting ((scheduler.leaveCurrent cpu id .blocked).addBlocked id deadline) position ∧
      position id = .at .blockedQueue := by
  have left := placed.leaveCurrent (ordinary.stands placed.toPlaced) ordinary.notIdle .blocked
  have moving := update_self id Position.moving position
  have nodup :=
    nodup_append_singleton left.shape.blockedQueue (left.shape.absent moving .blockedQueue)
  refine ⟨update _ id (.at .blockedQueue), ⟨left.arrive moving
    ⟨rfl, rfl, rfl, fun _ online => online⟩
    ⟨left.distinct.1, left.distinct.2.1, nodup, left.distinct.2.2.2⟩ ?_ ?_,
    placed.settled.move (by simp)⟩, update_self ..⟩
  · intro other _ _ there
    cases there <;> simp [Holds, addBlocked, Scheduler.modifyTask]
  · intro node found
    obtain ⟨state, home⟩ := ordinary.left placed.toPlaced found
    exact ⟨state, by simp only [home]; exact ordinary.isOnline⟩

end Ordinary

theorem pickNext_enqueue (scheduler : Scheduler) (cpu : Cpu) (id : TaskId) :
    ∃ first next, (scheduler.enqueue cpu id).pickNext cpu = (some first, next) := by
  cases queue : scheduler.runQueues cpu with
  | nil =>
    exact ⟨id, (scheduler.enqueue cpu id).setRunQueue cpu [], by
      simp [pickNext, Scheduler.enqueue, setRunQueue, queue]⟩
  | cons first rest =>
    exact ⟨first, (scheduler.enqueue cpu id).setRunQueue cpu (rest ++ [id]),
      by simp [pickNext, Scheduler.enqueue, setRunQueue, queue]⟩

/-- There is always a next task on a processor with an idle task. -/
theorem pickNext_of_idle {idle : TaskId} (isIdle : scheduler.idleTasks cpu = some idle) :
    ∃ first next, scheduler.pickNext cpu = (some first, next) := by
  unfold pickNext
  split
  · exact ⟨_, _, rfl⟩
  · rw [isIdle]
    exact ⟨_, _, rfl⟩

section

variable (placed : Resting scheduler position)

include placed

/-- The picked task is not one that waits elsewhere. -/
theorem Resting.picks_other {place : Place}
    (stands : position id = .at place) (elsewhere : place ≠ .runQueue cpu)
    {idle : TaskId} (isIdle : scheduler.idleTasks cpu = some idle)
    (notIdle : scheduler.idleTasks cpu ≠ some id) :
    ∃ first next, scheduler.pickNext cpu = (some first, next) ∧ first ≠ id := by
  obtain ⟨first, next, picks⟩ := pickNext_of_idle isIdle
  refine ⟨first, next, picks, ?_⟩
  rintro rfl
  rcases pickNext_cases picks with
    ⟨popped, rest, queue, isPopped, _⟩ | ⟨_, isPicked, _⟩
  · cases isPopped
    rw [placed.stands_of_queue queue] at stands
    cases stands
    exact elsewhere rfl
  · exact notIdle isPicked.symm

theorem placed_exit (ordinary : Ordinary scheduler cpu id)
    (exits : scheduler.exit cpu id = some next) :
    ∃ position, Resting next position := by
  unfold exit at exits
  split at exits
  · next empty =>
    cases exits
    have stands := ordinary.stands placed.toPlaced
    have notIdle := placed.shape.not_idle_of_current stands ordinary.notIdle
    obtain ⟨_, _, _⟩ := plainPhase_of_isPlain ordinary.isPlain
    refine ⟨update position id (.at (.retired cpu)),
      placed.relocate
        ⟨rfl, rfl, rfl, fun _ => isOnline_setPhase (by simp)⟩
        placed.distinct (by simp [stands]) (by simp) ?_
        (fun cpu isIdle => absurd isIdle (notIdle cpu)) ?_,
      placed.settled.update (by simp)⟩
    · intro place other
      have before := placed.shape.stands place id
      have slot := placed.shape.stands (.current cpu) id
      cases place <;>
        simp only [Holds, Scheduler.setPhase, Scheduler.modifyTask,
          update_apply] at before slot ⊢ <;>
        grind [pickedTask]
    · intro place node arrives found
      cases arrives
      exact ⟨rfl, (placed.suited.suits id _ node stands found).2⟩
  · cases exits

theorem placed_publish (picked : scheduler.phase cpu = .picked handover previous (some id))
    (empty : scheduler.currentNode cpu = none) (notIdle : scheduler.idleTasks cpu ≠ some previous)
    (publishes : scheduler.publish cpu = some next) :
    ∃ position, Resting next position := by
  have stands (notIdle : scheduler.idleTasks cpu ≠ some id) : position id = .at (.picked cpu) := by
    rw [← placed.shape.stands]
    exact ⟨by rw [picked, pickedTask], notIdle⟩
  rw [publish, picked] at publishes
  simp only at publishes
  split at publishes
  · next same =>
    cases publishes
    rw [← same.2] at notIdle ⊢
    have left :=
      placed.unpick (stands notIdle) picked (rfl : Scheduler.isPlain .running = true) (by simp)
    exact ⟨_, left.enterCurrent (update_self ..) _ empty
      (by simp [Scheduler.setPhase])
      (fun node present => ⟨rfl, (placed.suited.suits id _ node (stands notIdle) present).2⟩),
      placed.settled.move (by simp)⟩
  · cases publishes
    by_cases isIdle : scheduler.idleTasks cpu = some id
    · have free : FreePhase (scheduler.idleTasks cpu) (scheduler.phase cpu) := by
        rw [picked, isIdle]
        exact freePhase_of_idle
      have left :
          Placed (scheduler.setPhase cpu (.switching (some previous) id))
            position :=
        placed.setFreePhase free (freePhase_of_isPlain rfl) (by simp)
      exact ⟨_, left.publishIdle isIdle empty (by simp [Scheduler.setPhase]),
        placed.settled.update (by simp)⟩
    · have left := placed.unpick (stands isIdle) picked
        (rfl : Scheduler.isPlain (.switching (some previous) id) = true) (by simp)
      exact ⟨_, left.publishMoving (update_self ..) empty
        (by simp [Scheduler.setPhase]), placed.settled.move (by simp)⟩

/-! ## Dispatch -/

omit placed in
/-- The current task goes back to its run queue unless it is the idle one. -/
theorem requeueCurrent_cases
    (placed : Placed scheduler position) (running : scheduler.phase cpu = .running) :
    (scheduler.requeueCurrent cpu = scheduler ∧
      ∀ id, scheduler.currentNode cpu = some id → scheduler.idleTasks cpu = some id) ∨
    ∃ id, Ordinary scheduler cpu id ∧
      scheduler.requeueCurrent cpu = (scheduler.leaveCurrent cpu id .ready).enqueue cpu id := by
  unfold requeueCurrent
  cases current : scheduler.currentNode cpu with
  | none => exact Or.inl ⟨rfl, nofun⟩
  | some id =>
    have stands := (placed.shape.stands (.current cpu) id).mp ⟨current, by simp [running]⟩
    have owned : position id ≠ .nowhere := by simp [stands]
    obtain ⟨node, present⟩ := placed.suited.isSome owned
    have isRunning := (placed.suited.suits id _ node stands present).1
    by_cases isIdle : scheduler.idleTasks cpu = some id
    · simp [present, shouldRequeueForDispatch, isIdle]
    · simp only [present, isRunning, isIdle]
      exact Or.inr ⟨id, ⟨running, current, isIdle⟩, rfl⟩

omit placed in
theorem pickNext_setCurrentNode {node : Option TaskId}
    (picks : scheduler.pickNext cpu = (some id, next)) :
    (scheduler.setCurrentNode cpu node).pickNext cpu = (some id, next.setCurrentNode cpu node) := by
  rcases pickNext_cases picks with
    ⟨popped, rest, queue, same, rfl⟩ | ⟨queue, isIdle, rfl⟩
  · cases same
    simp [pickNext, setCurrentNode, setRunQueue, queue]
  · simp [pickNext, setCurrentNode, queue, ← isIdle]

/-- A processor that runs its idle task or none picks another task. -/
theorem Resting.redispatch (running : scheduler.phase cpu = .running)
    (idleOnly : ∀ id, scheduler.currentNode cpu = some id → scheduler.idleTasks cpu = some id)
    (picks : scheduler.pickNext cpu = (some id, next))
    (after : isPlain phase = true) (online : phase ≠ .offline) :
    ∃ position, Resting ((next.publishNext cpu id).setPhase cpu phase) position := by
  have rested : ∃ position, Resting (scheduler.setCurrentNode cpu none) position := by
    cases current : scheduler.currentNode cpu with
    | none =>
      rw [setCurrentNode, ← current, update_eq_self]
      exact ⟨position, placed⟩
    | some id =>
      have stands := (placed.shape.stands (.current cpu) id).mp ⟨current, by simp [running]⟩
      exact ⟨_, placed.restIdle (idleOnly id current) stands, placed.settled.update (by simp)⟩
  obtain ⟨_, rested⟩ := rested
  have overwritten :
      (next.setCurrentNode cpu none).publishNext cpu id = next.publishNext cpu id := by
    simp [publishNext, setCurrentNode, Scheduler.modifyTask]
  have plain : isPlain ((scheduler.setCurrentNode cpu none).phase cpu) = true := by
    simp [setCurrentNode, running, isPlain]
  rw [← overwritten]
  exact rested.dispatch (update_self ..) plain (pickNext_setCurrentNode picks) after online

/-- A processor goes on with its idle task. -/
theorem Resting.resumeIdle (running : scheduler.phase cpu = .running)
    (current : scheduler.currentNode cpu = some id) (isIdle : scheduler.idleTasks cpu = some id)
    (picks : scheduler.pickNext cpu = (some id, next)) :
    Resting (next.resume cpu id) position := by
  have stands := (placed.shape.stands (.current cpu) id).mp ⟨current, by simp [running]⟩
  rcases pickNext_cases picks with
    ⟨popped, rest, queue, same, _⟩ | ⟨_, _, rfl⟩
  · -- the queue does not hold the idle task
    cases same
    rw [placed.stands_of_queue queue] at stands
    cases stands
  · have edited :
        Placed (next.modifyTask id (fun node => { node with state := .running })) position := by
      apply placed.modifyTask
      intro place node atPlace _ suits
      rw [stands] at atPlace
      cases atPlace
      exact ⟨rfl, suits.2⟩
    have unchanged : update next.currentNode cpu (some id) = next.currentNode := by
      rw [← current, update_eq_self]
    refine ⟨?_, placed.settled⟩
    rw [resume, setCurrentNode, show (next.modifyTask id _).currentNode =
      next.currentNode from rfl, unchanged]
    exact edited.setPhase (show isPlain (next.phase cpu) = true by rw [running]; rfl) rfl (by simp)

end

/-- A task that has been requeued is picked again. -/
theorem Ordinary.resume (ordinary : Ordinary scheduler cpu id)
    (requeued : Resting ((scheduler.leaveCurrent cpu id .ready).enqueue cpu id) position)
    (picks :
      ((scheduler.leaveCurrent cpu id .ready).enqueue cpu id).pickNext cpu = (some id, next)) :
    ∃ position, Resting (next.resume cpu id) position := by
  rcases pickNext_cases picks with
    ⟨popped, rest, queue, isFirst, rfl⟩ | ⟨noQueue, _, _⟩
  · cases isFirst
    have resumed := (requeued.popFront queue).enterCurrent (update_self ..)
      (fun node => { node with state := .running }) (update_self ..)
      (plainPhase_of_isPlain ordinary.isPlain).notExiting
      (fun node present => ⟨rfl, (requeued.ready_of_queue queue present).2⟩)
    exact ⟨_, resumed.setPhase ordinary.isPlain rfl (by simp), requeued.settled.move (by simp)⟩
  · simp [Scheduler.enqueue, setRunQueue] at noQueue

/-! ## Switches -/

section Placed

variable (placed : Placed scheduler position)

include placed

theorem Placed.setExecuting (executing : Cpu → Option TaskId) :
    Placed { scheduler with executing := executing } position :=
  placed.congr rfl rfl rfl (fun _ online => online) placed.distinct
    (fun place _ => by cases place <;> rfl)

theorem Placed.saves (id : TaskId) (saved : Bool) :
    Placed (scheduler.modifyTask id (fun node => { node with contextSaved := saved })) position :=
  placed.modifyKeeping (by simp)

theorem placed_doSwitch (switches : scheduler.doSwitch cpu = some next) : Placed next position := by
  unfold doSwitch at switches
  split at switches
  · next previous incoming phase =>
    have plain : Scheduler.isPlain (scheduler.phase cpu) = true := by
      rw [phase]
      rfl
    cases previous with
    | none =>
      cases switches
      exact ((placed.saves incoming false).setExecuting _).setPhase plain rfl (by simp)
    | some previous =>
      cases switches
      exact (((placed.saves previous true).saves incoming false).setExecuting
        _).setPhase plain rfl (by simp)
  · cases switches

omit placed in
theorem enter_setPhase (phase : Phase) :
    (scheduler.setPhase cpu phase).enter cpu = scheduler.enter cpu := by
  unfold enter
  cases current : scheduler.currentNode cpu <;>
    simp [Scheduler.setPhase, Scheduler.modifyTask, current]

theorem Placed.enter (plain : Scheduler.isPlain (scheduler.phase cpu) = true) :
    Placed (scheduler.enter cpu) position := by
  unfold Scheduler.enter
  split
  · exact placed.setPhase plain rfl (by simp)
  · next current isCurrent =>
    have edited :
        Placed
          (scheduler.modifyTask current (fun node => { node with started := true })) position := by
      apply placed.modifyTask
      intro place node stands _ suits
      have slot : position current = .at (.current cpu) := by
        rw [← placed.shape.stands]
        exact ⟨isCurrent, (plainPhase_of_isPlain plain).notExiting⟩
      rw [slot] at stands
      cases stands
      exact suits
    exact edited.setPhase plain rfl (by simp)

theorem Placed.takeRetired
    (switched : scheduler.phase cpu = .switched) (isRetired : scheduler.retiredTask cpu = some id) :
    Placed
      ({ scheduler with retiredTask := update scheduler.retiredTask cpu none }.setPhase cpu
        (.reclaiming id))
      (update position id (.at (.reclaiming cpu))) := by
  have stands := (placed.shape.stands (.retired cpu) id).mp isRetired
  refine placed.relocate (Edits.of_same id rfl rfl rfl (fun _ => isOnline_setPhase (by simp)))
    placed.distinct (by simp [stands]) (by simp) ?_
    (fun cpu isIdle => absurd isIdle (placed.shape.not_idle_of_place stands (by simp) cpu)) ?_
  · intro place other
    have before := placed.shape.stands place id
    rw [stands] at before
    cases place <;>
      simp only [Holds, Scheduler.setPhase] at before ⊢ <;>
      grind [pickedTask]
  · intro place node arrives present
    cases arrives
    exact placed.suited.suits id _ node stands present

/-- A task on its way is dropped from the list of all tasks. -/
theorem Placed.remove (moving : position id = .moving) :
    Placed
      { scheduler with allTasks := update scheduler.allTasks id none }
      (update position id .nowhere) := by
  have notIdle (cpu : Cpu) : scheduler.idleTasks cpu ≠ some id :=
    placed.shape.not_idle (by simp [moving]) (by simp [moving])
  refine placed.move ?_ placed.distinct ?_ ?_ (by simp) (by simp) ?_ (fun _ online => online)
  · intro place other
    have absent := placed.shape.absent moving place
    cases place <;> simp only [Holds] at absent ⊢ <;> grind
  · intro cpu other isIdle
    exact Or.inl ⟨fun same => notIdle cpu (same ▸ isIdle), isIdle⟩
  · intro other different
    exact update_of_ne different ..
  · intro other bound
    have missing := placed.suited.fresh other bound
    simp only [update_apply]
    split
    · rfl
    · exact missing

/-- The task that is reclaimed leaves its processor. -/
theorem Placed.leaveReclaiming (reclaiming : scheduler.phase cpu = .reclaiming id) :
    Placed (scheduler.setPhase cpu .running) (update position id .moving) := by
  have stands := (placed.shape.stands (.reclaiming cpu) id).mp reclaiming
  refine placed.leave stands (placed.shape.not_idle_of_place stands (by simp))
    (Edits.of_same id rfl rfl rfl (fun _ => isOnline_setPhase (by simp))) placed.distinct ?_
  intro other held there
  have here := held there
  cases there <;>
    simp only [Holds, Scheduler.setPhase] at here ⊢ <;>
    grind [pickedTask]

/-! ## Waking -/

theorem Placed.removeBlocked (member : id ∈ scheduler.blockedQueue) :
    Placed (scheduler.removeBlocked id) (update position id .moving) := by
  have stands := (placed.shape.stands .blockedQueue id).mp member
  have nodup := placed.shape.blockedQueue
  refine placed.leave stands (placed.shape.not_idle_of_place stands (by simp))
    ⟨rfl, rfl, rfl, fun _ online => online⟩
    ⟨placed.distinct.1, placed.distinct.2.1, nodup.erase id, placed.distinct.2.2.2⟩ ?_
  intro other held there
  have here := held there
  cases there <;>
    simp only [Holds, Scheduler.removeBlocked, Scheduler.modifyTask] at here ⊢ <;>
    grind

theorem Placed.removeSleeping {index : Nat} (found : scheduler.sleepQueue[index]? = some id) :
    Placed (scheduler.removeSleeping index id) (update position id .moving) := by
  have perm : scheduler.sleepQueue.Perm (id :: swapRemove scheduler.sleepQueue index) :=
    perm_cons_swapRemove found
  have stands := (placed.shape.stands .sleepQueue id).mp (List.mem_of_getElem? found)
  have nodup := perm.nodup_iff.mp placed.shape.sleepQueue
  rw [List.nodup_cons] at nodup
  refine placed.leave stands (placed.shape.not_idle_of_place stands (by simp))
    ⟨rfl, rfl, rfl, fun _ online => online⟩ ⟨placed.distinct.1, nodup.2, placed.distinct.2.2⟩ ?_
  intro other held there
  have here := held there
  cases there <;>
    simp only [Holds, Scheduler.removeSleeping, Scheduler.modifyTask] at here ⊢ <;>
    grind

theorem Placed.makeReady (moving : position id = .moving) {edit : TaskNode → TaskNode}
    (ready : ∀ node, scheduler.allTasks id = some node →
      (edit node).state = .ready ∧ (edit node).cpu = cpu) :
    Placed ((scheduler.modifyTask id edit).enqueue cpu id)
      (update position id (.at (.runQueue cpu))) := by
  apply (placed.modifyMoving moving edit).enqueue moving
  intro node present
  obtain ⟨old, found, rfl⟩ := allTasks_modifyTask.mp present
  exact ready old found

omit placed in
/-- What `wakeBlocked` does to a task in the blocked queue. -/
theorem wakeBlocked_cases (wakes : scheduler.wakeBlocked id = some next) :
    ∃ node, id ∈ scheduler.blockedQueue ∧
      scheduler.allTasks id = some node ∧
      next = ((scheduler.removeBlocked id).modifyTask id
        (fun node => { node with state := .ready })).enqueue node.cpu id := by
  unfold wakeBlocked takeBlocked at wakes
  by_cases member : id ∈ scheduler.blockedQueue
  · rw [if_pos member] at wakes
    cases present : scheduler.allTasks id with
    | none =>
      rw [present] at wakes
      cases wakes
    | some node =>
      rw [present] at wakes
      cases wakes
      exact ⟨node, member, rfl, rfl⟩
  · rw [if_neg member] at wakes
    cases wakes

theorem Placed.setInterruptPending (id : TaskId) :
    Placed (scheduler.setInterruptPending id) position :=
  placed.modifyKeeping (by simp)

theorem Placed.setPendingBlockedWake (pending : TaskId) :
    Placed { scheduler with pendingBlockedWake := pending } position :=
  placed.congr rfl rfl rfl (fun _ online => online) placed.distinct
    (fun place _ => by cases place <;> rfl)

end Placed

theorem sleeping_at {index : Nat}
    (found : scheduler.sleepQueue.findIdx? (fun other => other == id) = some index) :
    scheduler.sleepQueue[index]? = some id := by
  obtain ⟨_, _, _, queue, rfl, same, _⟩ := split_of_findIdx?_eq_some found
  rw [queue, getElem?_append_cons, eq_of_beq same]

/-! ## Ticks -/

section Tick

variable {motive : Scheduler → Prop} {now : Instant}

theorem drainExpired_induction
    (wakes : ∀ scheduler index id, motive scheduler → scheduler.sleepQueue[index]? = some id →
      motive ((removeSleeping scheduler index id).wakeExpired id))
    (turns index : Nat) (holds : motive scheduler) :
    motive (drainExpired now turns index scheduler) := by
  fun_induction drainExpired now turns index scheduler with
  | case1 => exact holds
  | case2 => exact holds
  | case3 _ index scheduler id found _ ih => exact ih (wakes scheduler index id holds found)
  | case4 _ _ _ _ _ _ ih => exact ih holds

theorem expireBlocked_induction
    (wakes : ∀ scheduler id, motive scheduler → id ∈ scheduler.blockedQueue →
      motive ((removeBlocked scheduler id).wakeExpired id))
    (turns : Nat) (holds : motive scheduler) :
    motive (expireBlocked now turns scheduler) := by
  fun_induction expireBlocked now turns scheduler with
  | case1 => exact holds
  | case2 => exact holds
  | case3 _ scheduler id found ih =>
    exact ih (wakes scheduler id holds (List.mem_of_find?_eq_some found))

theorem mem_promoteFront (member : id ∈ scheduler.runQueues cpu) (other : TaskId) :
    other ∈ (scheduler.promoteFront cpu id).runQueues cpu ↔ other ∈ scheduler.runQueues cpu := by
  have queue :
      (scheduler.promoteFront cpu id).runQueues cpu = id :: (scheduler.runQueues cpu).erase id :=
    update_self ..
  rw [queue, ← (List.perm_cons_erase member).mem_iff]

theorem tickAging_induction
    (bumps : ∀ scheduler id, motive scheduler → motive (bumpWaitTicks scheduler id))
    (promotes : ∀ scheduler id, motive scheduler → id ∈ scheduler.runQueues cpu →
      motive (promoteFront scheduler cpu id))
    (holds : motive scheduler) : motive (scheduler.tickAging cpu) := by
  let queue := scheduler.runQueues cpu
  let aged := queue.foldl bumpWaitTicks scheduler
  have bumped : motive aged ∧ aged.runQueues cpu = queue := List.foldlRecOn queue bumpWaitTicks
    (motive := fun aged => motive aged ∧ aged.runQueues cpu = queue) ⟨holds, rfl⟩
    (fun aged ⟨holds, same⟩ id _ => ⟨bumps aged id holds, same⟩)
  -- a promotion keeps the tasks of the queue
  have promoted := List.foldlRecOn (queue.filter aged.isStarved).reverse
    (fun aged id => aged.promoteFront cpu id)
    (motive := fun aged => motive aged ∧ ∀ id, id ∈ aged.runQueues cpu ↔ id ∈ queue)
    ⟨bumped.1, fun id => by rw [bumped.2]⟩
    (by
      rintro aged ⟨holds, same⟩ id member
      rw [List.mem_reverse] at member
      have queued := (same id).mpr (List.mem_filter.mp member).1
      exact ⟨promotes aged id holds queued, fun other =>
        (mem_promoteFront queued other).trans (same other)⟩)
  exact promoted.1

/-- A property that every move of a tick keeps. -/
theorem tick_induction
    (sleepers : ∀ scheduler index id, motive scheduler → scheduler.sleepQueue[index]? = some id →
      motive ((removeSleeping scheduler index id).wakeExpired id))
    (blocked : ∀ scheduler id, motive scheduler → id ∈ scheduler.blockedQueue →
      motive ((removeBlocked scheduler id).wakeExpired id))
    (bumps : ∀ scheduler id, motive scheduler → motive (bumpWaitTicks scheduler id))
    (promotes : ∀ scheduler cpu id, motive scheduler →
      id ∈ scheduler.runQueues cpu → motive (promoteFront scheduler cpu id))
    (holds : motive scheduler) : motive (scheduler.tick now) := by
  exact List.foldlRecOn _ tickAging
    (expireBlocked_induction blocked _ (drainExpired_induction sleepers _ _ holds))
    (fun scheduler holds cpu _ =>
      tickAging_induction bumps (fun scheduler => promotes scheduler cpu) holds)

end Tick

theorem Placed.wakeExpired
    (placed : Placed scheduler (update position id .moving)) (settled : Settled position) :
    ∃ position, Resting (scheduler.wakeExpired id) position := by
  have owned : update position id .moving id ≠ .nowhere := by simp
  obtain ⟨_, present⟩ := placed.suited.isSome owned
  rw [Scheduler.wakeExpired, present]
  exact ⟨_, placed.makeReady (update_self ..) (fun _ _ => ⟨rfl, rfl⟩), settled.move (by simp)⟩

section Placed

variable (placed : Placed scheduler position)

include placed

theorem Placed.promoteFront (member : id ∈ scheduler.runQueues cpu) :
    Placed (scheduler.promoteFront cpu id) position := by
  have perm := (List.perm_cons_erase member).symm
  refine placed.stay ⟨rfl, rfl, rfl, fun _ online => online⟩
    (placed.distinct.setRunQueue (perm.nodup_iff.mpr (placed.shape.runQueues cpu))) ?_ ?_
  · intro place other
    cases place <;> simp only [Holds, Scheduler.promoteFront, setRunQueue, Scheduler.modifyTask]
    grind
  · intro place node _ _ suits
    cases place <;> exact suits

/-! ## Spawning -/

theorem Placed.createTask :
    Placed scheduler.createTask.2 (update position scheduler.nextTaskId .moving) := by
  have missing := placed.suited.fresh _ (Nat.le_refl scheduler.nextTaskId)
  have nowhere := (placed.suited.owned _).mp missing
  refine placed.move ?_ placed.distinct ?_ ?_ (by simp [Scheduler.createTask])
    (by simp) ?_ (fun _ online => online)
  · intro place other
    have absent := placed.shape.stands place scheduler.nextTaskId
    cases place <;> simp only [Holds, Scheduler.createTask] at absent ⊢ <;> grind
  · intro cpu other isIdle
    refine Or.inl ⟨?_, isIdle⟩
    rintro rfl
    exact placed.shape.not_idle (by simp [nowhere]) (by simp [nowhere]) isIdle
  · intro other different
    exact update_of_ne different ..
  · intro other bound
    have later : scheduler.nextTaskId < other := bound
    simp only [Scheduler.createTask, update_of_ne (Nat.ne_of_gt later)]
    exact placed.suited.fresh other (Nat.le_of_lt later)

theorem Placed.selectLeastLoadedCpu (cpu : Cpu) :
    Placed (scheduler.selectLeastLoadedCpu cpu).2 position :=
  placed.congr rfl rfl rfl (fun _ online => online) placed.distinct
    (fun place _ => by cases place <;> rfl)

theorem Placed.stage (moving : position id = .moving)
    (fresh : ∀ node, scheduler.allTasks id = some node → node.state = .ready ∧ node.started = false)
    (target : Cpu) :
    Placed
      { scheduler.modifyTask id (fun node => { node with cpu := target }) with
        staged := scheduler.staged ++ [⟨id, target⟩] }
      (update position id (.at .staged)) := by
  have nodup := nodup_append_singleton placed.shape.staged (placed.shape.absent moving .staged)
  refine placed.arrive moving ⟨rfl, rfl, rfl, fun _ online => online⟩
    ⟨placed.distinct.1, placed.distinct.2.1, placed.distinct.2.2.1,
      by rw [List.map_append]; exact nodup⟩ ?_ fresh
  intro other _ _ there
  cases there <;> simp [Holds, Scheduler.modifyTask]

omit placed in
theorem takeStaged_cases
    {token : StagedTask} (takes : scheduler.takeStaged id = some (token, next)) :
    id ∈ scheduler.staged.map StagedTask.id ∧
      next =
        { scheduler with
          staged := scheduler.staged.filter (fun other => other.id ≠ id) } := by
  obtain ⟨_, isFound, same⟩ := Option.map_eq_some_iff.mp takes
  cases same
  refine ⟨List.mem_map.mpr ⟨token, List.mem_of_find?_eq_some isFound, ?_⟩, rfl⟩
  have matched := List.find?_some isFound
  simpa using matched

theorem Placed.takeStaged
    {token : StagedTask} (takes : scheduler.takeStaged id = some (token, next)) :
    Placed next (update position id .moving) ∧
      ∀ node, next.allTasks id = some node → node.state = .ready ∧ node.started = false := by
  obtain ⟨member, rfl⟩ := takeStaged_cases takes
  have stands := (placed.shape.stands .staged id).mp member
  refine ⟨placed.leave stands
    (placed.shape.not_idle_of_place stands (by simp))
    (Edits.of_same id rfl rfl rfl (fun _ online => online))
    ⟨placed.distinct.1, placed.distinct.2.1, placed.distinct.2.2.1,
      placed.shape.staged.sublist (List.filter_sublist.map _)⟩ ?_,
    fun node present => placed.suited.suits id _ node stands present⟩
  intro other held there
  have here := held there
  cases there <;>
    simp only [Holds] at here ⊢ <;>
    grind

/-- A staged task that is dropped is removed. -/
theorem dropStaged_cases (drops : scheduler.dropStaged id = some next) :
    id ∈ scheduler.staged.map StagedTask.id ∧
      Placed next (update (update position id .moving) id .nowhere) ∧
      next =
        { scheduler with
          staged := scheduler.staged.filter (fun other => other.id ≠ id)
          allTasks := update scheduler.allTasks id none } := by
  obtain ⟨⟨_, taken⟩, takes, same⟩ := Option.map_eq_some_iff.mp drops
  obtain ⟨moved, fresh⟩ := placed.takeStaged takes
  have moving := update_self id Position.moving position
  have owned : update position id Position.moving id ≠ .nowhere := by
    simp
  obtain ⟨node, present⟩ := moved.suited.isSome owned
  obtain ⟨ready, notStarted⟩ := fresh node present
  have unlinked : taken.isUnlinked id = true := by
    rw [isUnlinked, Bool.and_eq_true, decide_eq_true_eq, decide_eq_true_eq]
    exact ⟨fun cpu => moved.shape.absent moving (.runQueue cpu),
      moved.shape.absent moving .blockedQueue⟩
  simp only [present, unlinked, notStarted, ready] at same
  obtain ⟨member, rfl⟩ := takeStaged_cases takes
  cases same
  exact ⟨member, moved.remove moving, rfl⟩

end Placed

theorem placed_initAp
    (placed : Resting scheduler position) (offline : scheduler.phase cpu = .offline)
    (noIdle : scheduler.idleTasks cpu = none) (empty : scheduler.currentNode cpu = none) :
    ∃ position, Resting (scheduler.initAp cpu) position := by
  have created := placed.createTask
  have moving := update_self scheduler.nextTaskId Position.moving position
  have notIdle (other : Cpu) : scheduler.idleTasks other ≠ some scheduler.nextTaskId :=
    created.shape.not_idle (by simp) (by simp)
  refine ⟨update _ scheduler.nextTaskId (.at (.idle cpu)),
    created.move ?_ created.distinct ?_ (fun _ _ => rfl) ?_ ?_
      created.suited.fresh ?_, placed.settled.move (by simp)⟩
  · intro place other
    have absent := created.shape.absent moving place
    cases place <;>
      simp only [Holds, initAp, Scheduler.createTask, setCurrentNode,
        Scheduler.setPhase, update_apply] at absent ⊢ <;>
      grind [pickedTask]
  · intro other idle isIdle
    simp only [initAp, Scheduler.createTask, setCurrentNode,
      Scheduler.setPhase, update_apply] at isIdle ⊢
    grind
  · simp [initAp, Scheduler.createTask, setCurrentNode, Scheduler.setPhase]
  · intro place node arrives _
    cases arrives
    exact trivial
  · intro other
    exact isOnline_setPhase (by simp)

end Effects

end Xenith.Sched.Scheduler
