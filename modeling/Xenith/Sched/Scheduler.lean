import Xenith.Lib.ListEdit

/-!
# The scheduler

Queues and task states of `kernel/src/sched/scheduler.rs`.  A processor takes
one step at a time: a section under the scheduler lock, the code between two
sections, or a stack switch.  Interrupts are off from the section to the end of
the switch, so a processor takes the remaining steps of a call before anything
else, while the other processors go on.
-/

namespace Xenith.Sched

open Function

def maxCpus : Nat := 64

instance : NeZero maxCpus := ⟨Nat.succ_ne_zero 63⟩

abbrev Cpu := Fin maxCpus

abbrev TaskId := Nat

abbrev Instant := Nat

def globalTickCpu : Cpu := 0

def agingThresholdTicks : Nat := 20

def defaultPriority : Nat := 100

inductive TaskState where
  | ready
  | running
  | sleeping
  | blocked
  | zombie
  | dead
deriving DecidableEq

structure TaskNode where
  state : TaskState := .ready
  cpu : Cpu := 0
  priority : Nat := defaultPriority
  waitTicks : Nat := 0
  wakeDeadline : Option Instant := none
  interruptPending : Bool := false
  started : Bool := false
  contextSaved : Bool := true
deriving DecidableEq

/-- An allocated task that is not runnable yet. -/
structure StagedTask where
  id : TaskId
  targetCpu : Cpu
deriving DecidableEq

/-- The calls that publish the picked task behind their section. -/
inductive Handover where
  | yielding
  | sleeping
deriving DecidableEq

/-- How far a processor has come in a call. -/
inductive Phase where
  | offline
  | running
  | picked (handover : Handover) (previous : TaskId) (next : Option TaskId)
  | exiting
  | switching (previous : Option TaskId) (next : TaskId)
  | switched
  | reclaiming (retired : TaskId)
deriving DecidableEq

/-- `executing` is the task on whose stack a processor runs. -/
structure Scheduler where
  allTasks : TaskId → Option TaskNode
  runQueues : Cpu → List TaskId
  sleepQueue : List TaskId
  blockedQueue : List TaskId
  idleTasks : Cpu → Option TaskId
  currentNode : Cpu → Option TaskId
  retiredTask : Cpu → Option TaskId
  executing : Cpu → Option TaskId
  phase : Cpu → Phase
  staged : List StagedTask
  pendingBlockedWake : TaskId
  nextTaskId : TaskId
  nextPlacementCpu : Nat

namespace Scheduler

def isOnline (scheduler : Scheduler) (cpu : Cpu) : Bool :=
  decide (scheduler.phase cpu ≠ .offline)

def modifyTask (scheduler : Scheduler) (id : TaskId) (edit : TaskNode → TaskNode) : Scheduler :=
  { scheduler with allTasks := update scheduler.allTasks id ((scheduler.allTasks id).map edit) }

def setCurrentNode (scheduler : Scheduler) (cpu : Cpu) (node : Option TaskId) : Scheduler :=
  { scheduler with currentNode := update scheduler.currentNode cpu node }

def setPhase (scheduler : Scheduler) (cpu : Cpu) (phase : Phase) : Scheduler :=
  { scheduler with phase := update scheduler.phase cpu phase }

def setRunQueue (scheduler : Scheduler) (cpu : Cpu) (queue : List TaskId) : Scheduler :=
  { scheduler with runQueues := update scheduler.runQueues cpu queue }

/-- `RunQueue::enqueue`. -/
def enqueue (scheduler : Scheduler) (cpu : Cpu) (id : TaskId) : Scheduler :=
  (scheduler.modifyTask id (fun node => { node with waitTicks := 0 })).setRunQueue
    cpu (scheduler.runQueues cpu ++ [id])

/-- The head of the run queue of the processor, or its idle task. -/
def pickNext (scheduler : Scheduler) (cpu : Cpu) : Option TaskId × Scheduler :=
  match scheduler.runQueues cpu with
  | id :: rest => (some id, scheduler.setRunQueue cpu rest)
  | [] => (scheduler.idleTasks cpu, scheduler)

/-- `SleepQueue::add`. -/
def addSleeping (scheduler : Scheduler) (id : TaskId) (deadline : Instant) : Scheduler :=
  { scheduler.modifyTask id
      (fun node => { node with waitTicks := 0, wakeDeadline := some deadline }) with
    sleepQueue := scheduler.sleepQueue ++ [id] }

/-- The entry at the position leaves the sleep queue. -/
def removeSleeping (scheduler : Scheduler) (index : Nat) (id : TaskId) : Scheduler :=
  { scheduler.modifyTask id (fun node => { node with wakeDeadline := none }) with
    sleepQueue := ListEdit.swapRemove scheduler.sleepQueue index }

/-- `SleepQueue::take_task`. -/
def takeSleeping (scheduler : Scheduler) (id : TaskId) : Option Scheduler :=
  (scheduler.sleepQueue.findIdx? (fun other => other == id)).map
    (fun index => scheduler.removeSleeping index id)

/-- `BlockedQueue::add`. -/
def addBlocked (scheduler : Scheduler) (id : TaskId) (deadline : Option Instant) : Scheduler :=
  { scheduler.modifyTask id
      (fun node => { node with waitTicks := 0, wakeDeadline := deadline }) with
    blockedQueue := scheduler.blockedQueue ++ [id] }

def removeBlocked (scheduler : Scheduler) (id : TaskId) : Scheduler :=
  { scheduler.modifyTask id (fun node => { node with wakeDeadline := none }) with
    blockedQueue := scheduler.blockedQueue.erase id }

/-- `BlockedQueue::take_task`. -/
def takeBlocked (scheduler : Scheduler) (id : TaskId) : Option Scheduler :=
  if id ∈ scheduler.blockedQueue then some (scheduler.removeBlocked id)
  else none

def isExpired (scheduler : Scheduler) (now : Instant) (id : TaskId) : Bool :=
  match scheduler.allTasks id with
  | none => false
  | some node =>
    match node.wakeDeadline with
    | none => false
    | some deadline => decide (deadline ≤ now)

def isUnlinked (scheduler : Scheduler) (id : TaskId) : Bool :=
  decide (∀ cpu, id ∉ scheduler.runQueues cpu) && decide (id ∉ scheduler.blockedQueue)

/-- A task leaves the blocked queue for the run queue of its last
processor. -/
def wakeBlocked (scheduler : Scheduler) (id : TaskId) : Option Scheduler :=
  match scheduler.takeBlocked id, scheduler.allTasks id with
  | some taken, some node =>
    some ((taken.modifyTask id (fun node => { node with state := .ready })).enqueue node.cpu id)
  | _, _ => none

def setInterruptPending (scheduler : Scheduler) (id : TaskId) : Scheduler :=
  scheduler.modifyTask id (fun node => { node with interruptPending := true })

def wakeBlockedTaskFromTask (scheduler : Scheduler) (id : TaskId) : Scheduler :=
  if id = 0 then scheduler
  else (scheduler.wakeBlocked id).getD scheduler

def interruptTaskFromTask (scheduler : Scheduler) (id : TaskId) : Scheduler :=
  if id = 0 then scheduler
  else (scheduler.wakeBlocked id).getD (scheduler.setInterruptPending id)

/-- The swap of `wake_blocked_task`, which a drain follows. -/
def wakeBlockedTask (scheduler : Scheduler) (id : TaskId) : Scheduler :=
  if id = 0 then scheduler else { scheduler with pendingBlockedWake := id }

/-- One turn of `drain_pending_blocked_wakes`. -/
def drainPendingBlockedWakes (scheduler : Scheduler) : Scheduler :=
  if scheduler.pendingBlockedWake = 0 then scheduler
  else
    let requested := scheduler.pendingBlockedWake
    let drained := { scheduler with pendingBlockedWake := 0 }
    (drained.wakeBlocked requested).getD (drained.setInterruptPending requested)

def wakeSleepingTaskFromIrq (scheduler : Scheduler) (cpu : Cpu) (id : TaskId) : Scheduler :=
  match scheduler.takeSleeping id with
  | none => scheduler
  | some taken =>
    (taken.modifyTask id (fun node => { node with state := .ready, cpu := cpu })).enqueue cpu id

/-! ## Ticks -/

def wakeTargetCpu (scheduler : Scheduler) (lastCpu : Cpu) : Cpu :=
  if scheduler.isOnline lastCpu then lastCpu else globalTickCpu

/-- A task that has left its wait queue goes to its last processor. -/
def wakeExpired (scheduler : Scheduler) (id : TaskId) : Scheduler :=
  match scheduler.allTasks id with
  | none => scheduler
  | some node =>
    let target := scheduler.wakeTargetCpu node.cpu
    (scheduler.modifyTask id (fun node => { node with state := .ready, cpu := target })).enqueue
      target id

/-- The loop of `SleepQueue::drain_expired` from a position on; every turn
brings the end of the queue one entry nearer. -/
def drainExpired (now : Instant) : Nat → Nat → Scheduler → Scheduler
  | 0, _, scheduler => scheduler
  | turns + 1, index, scheduler =>
    match scheduler.sleepQueue[index]? with
    | none => scheduler
    | some id =>
      if scheduler.isExpired now id then
        drainExpired now turns index ((scheduler.removeSleeping index id).wakeExpired id)
      else drainExpired now turns (index + 1) scheduler

/-- The loop over `BlockedQueue::take_expired`. -/
def expireBlocked (now : Instant) : Nat → Scheduler → Scheduler
  | 0, scheduler => scheduler
  | turns + 1, scheduler =>
    match scheduler.blockedQueue.find? (scheduler.isExpired now) with
    | none => scheduler
    | some id => expireBlocked now turns ((scheduler.removeBlocked id).wakeExpired id)

/-- Addition of one that stops at the greatest 64-bit number. -/
def saturatingSucc (ticks : Nat) : Nat :=
  min (ticks + 1) (2 ^ 64 - 1)

def bumpWaitTicks (scheduler : Scheduler) (id : TaskId) : Scheduler :=
  scheduler.modifyTask id (fun node => { node with waitTicks := saturatingSucc node.waitTicks })

def isStarved (scheduler : Scheduler) (id : TaskId) : Bool :=
  match scheduler.allTasks id with
  | none => false
  | some node => decide (agingThresholdTicks ≤ node.waitTicks ∧ 0 < node.priority)

def promoteFront (scheduler : Scheduler) (cpu : Cpu) (id : TaskId) : Scheduler :=
  (scheduler.modifyTask id
      (fun node => { node with priority := node.priority - 1, waitTicks := 0 })).setRunQueue
    cpu (id :: (scheduler.runQueues cpu).erase id)

/-- `RunQueue::tick_aging`. -/
def tickAging (scheduler : Scheduler) (cpu : Cpu) : Scheduler :=
  let queue := scheduler.runQueues cpu
  let aged := queue.foldl bumpWaitTicks scheduler
  (queue.filter aged.isStarved).reverse.foldl (fun aged id => aged.promoteFront cpu id) aged

def tick (scheduler : Scheduler) (now : Instant) : Scheduler :=
  let woken := drainExpired now scheduler.sleepQueue.length 0 scheduler
  let expired := expireBlocked now woken.blockedQueue.length woken
  ((List.finRange maxCpus).filter expired.isOnline).foldl tickAging expired

/-! ## Spawning -/

def createTask (scheduler : Scheduler) : TaskId × Scheduler :=
  (scheduler.nextTaskId,
    { scheduler with
      allTasks := update scheduler.allTasks scheduler.nextTaskId (some {})
      nextTaskId := scheduler.nextTaskId + 1 })

/-- The shortest run queue of the online processors, from a rotating start
on. -/
def selectLeastLoadedCpu (scheduler : Scheduler) (cpu : Cpu) : Cpu × Scheduler :=
  let start := scheduler.nextPlacementCpu
  let selection :=
    (List.finRange maxCpus).foldl
      (fun (selection : Cpu × Option Nat) offset =>
        let candidate := Fin.ofNat maxCpus (start + offset)
        let length := (scheduler.runQueues candidate).length
        if scheduler.isOnline candidate = false then selection
        else
          match selection.2 with
          | none => (candidate, some length)
          | some best => if length < best then (candidate, some length) else selection)
      (cpu, none)
  (selection.1, { scheduler with nextPlacementCpu := start + 1 })

/-- `stage_spawn_inner` with memory for the task. -/
def stageSpawn (scheduler : Scheduler) (cpu : Cpu) (requested : Option Cpu) : Scheduler :=
  let (id, created) := scheduler.createTask
  let (target, selected) :=
    match requested with
    | some target => (target, created)
    | none => created.selectLeastLoadedCpu cpu
  { selected.modifyTask id (fun node => { node with cpu := target }) with
    staged := selected.staged ++ [⟨id, target⟩] }

def takeStaged (scheduler : Scheduler) (id : TaskId) : Option (StagedTask × Scheduler) :=
  (scheduler.staged.find? (fun token => token.id == id)).map
    (fun token =>
      (token,
        { scheduler with staged := scheduler.staged.filter (fun other => other.id ≠ id) }))

/-- `StagedTask::commit`. -/
def commit (scheduler : Scheduler) (cpu : Cpu) (id : TaskId) : Option Scheduler :=
  (scheduler.takeStaged id).map fun (token, taken) =>
    match taken.allTasks id with
    | none => taken
    | some _ =>
      let (target, selected) :=
        if taken.isOnline token.targetCpu then (token.targetCpu, taken)
        else taken.selectLeastLoadedCpu cpu
      (selected.modifyTask id (fun node => { node with cpu := target })).enqueue target id

def stagedNodeCancellable (unlinked started : Bool) (state : TaskState) : Bool :=
  unlinked && !started && decide (state = .ready)

/-- The drop of a `StagedTask` that was not committed. -/
def dropStaged (scheduler : Scheduler) (id : TaskId) : Option Scheduler :=
  (scheduler.takeStaged id).map fun (_, taken) =>
    match taken.allTasks id with
    | none => taken
    | some node =>
      if stagedNodeCancellable (taken.isUnlinked id) node.started node.state
      then { taken with allTasks := update taken.allTasks id none }
      else taken

/-! ## Switching -/

/-- The picked task becomes the current one. -/
def publishNext (scheduler : Scheduler) (cpu : Cpu) (id : TaskId) : Scheduler :=
  (scheduler.modifyTask id (fun node => { node with state := .running, cpu := cpu })).setCurrentNode
    cpu (some id)

/-- The current task leaves its slot in the given state. -/
def leaveCurrent (scheduler : Scheduler) (cpu : Cpu) (id : TaskId)
    (state : TaskState) : Scheduler :=
  (scheduler.setCurrentNode cpu none).modifyTask id (fun node => { node with state := state })

/-- The section of `yield_now`. -/
def yieldNow (scheduler : Scheduler) (cpu : Cpu) (current : TaskId) : Scheduler :=
  let (next, picked) :=
    ((scheduler.leaveCurrent cpu current .ready).enqueue cpu current).pickNext cpu
  picked.setPhase cpu (.picked .yielding current next)

/-- The section of `sleep_until`. -/
def sleepUntil (scheduler : Scheduler) (cpu : Cpu) (current : TaskId)
    (deadline : Instant) : Scheduler :=
  let (next, picked) :=
    ((scheduler.leaveCurrent cpu current .sleeping).addSleeping current deadline).pickNext cpu
  picked.setPhase cpu (.picked .sleeping current next)

/-- The processor stays with the task. -/
def resume (scheduler : Scheduler) (cpu : Cpu) (id : TaskId) : Scheduler :=
  ((scheduler.modifyTask id (fun node => { node with state := .running })).setCurrentNode cpu
    (some id)).setPhase cpu .running

/-- What `yield_now` and `sleep_until` do behind their section. -/
def publish (scheduler : Scheduler) (cpu : Cpu) : Option Scheduler :=
  match scheduler.phase cpu with
  | .picked _ previous none => some (scheduler.resume cpu previous)
  | .picked handover previous (some next) =>
    if handover = .yielding ∧ next = previous then some (scheduler.resume cpu previous)
    else some ((scheduler.publishNext cpu next).setPhase cpu (.switching (some previous) next))
  | _ => none

/-- The sections of `block_current_until_releasing` and of
`block_current_interruptible`, which are the same. -/
def blockCurrent (scheduler : Scheduler) (cpu : Cpu) (current : TaskId)
    (deadline : Option Instant) : Scheduler :=
  let pending := (scheduler.allTasks current).any (fun node => node.interruptPending)
  if pending then scheduler.modifyTask current (fun node => { node with interruptPending := false })
  else
    let (next, picked) :=
      ((scheduler.leaveCurrent cpu current .blocked).addBlocked current deadline).pickNext cpu
    match next with
    | none => (picked.removeBlocked current).resume cpu current
    | some next => (picked.publishNext cpu next).setPhase cpu (.switching (some current) next)

/-- The section of `exit`. -/
def exit (scheduler : Scheduler) (cpu : Cpu) (current : TaskId) : Option Scheduler :=
  if scheduler.retiredTask cpu = none then
    some
      ({ scheduler.modifyTask current (fun node => { node with state := .zombie }) with
        retiredTask := update scheduler.retiredTask cpu (some current) }.setPhase
        cpu .exiting)
  else none

/-- `exit` empties its slot in front of its `schedule_next`. -/
def leaveExit (scheduler : Scheduler) (cpu : Cpu) : Scheduler :=
  (scheduler.setCurrentNode cpu none).setPhase cpu .running

def shouldRequeueForDispatch (currentIsIdle : Bool) (state : TaskState) : Bool :=
  !currentIsIdle && decide (state = .running)

/-- The current task goes back to its run queue if it can still run. -/
def requeueCurrent (scheduler : Scheduler) (cpu : Cpu) : Scheduler :=
  match scheduler.currentNode cpu with
  | none => scheduler
  | some current =>
    match scheduler.allTasks current with
    | none => scheduler
    | some node =>
      if shouldRequeueForDispatch (decide (scheduler.idleTasks cpu = some current)) node.state
      then (scheduler.leaveCurrent cpu current .ready).enqueue cpu current
      else scheduler

/-- The section of `schedule_next`. -/
def scheduleNext (scheduler : Scheduler) (cpu : Cpu) : Scheduler :=
  let current := scheduler.currentNode cpu
  match (scheduler.requeueCurrent cpu).pickNext cpu with
  | (none, picked) => picked.setCurrentNode cpu current
  | (some next, picked) =>
    if current = some next then picked.resume cpu next
    else (picked.publishNext cpu next).setPhase cpu (.switching current next)

/-- `do_switch`: the outgoing context is saved and the incoming one loaded. -/
def doSwitch (scheduler : Scheduler) (cpu : Cpu) : Option Scheduler :=
  match scheduler.phase cpu with
  | .switching previous next =>
    let saved :=
      match previous with
      | none => scheduler
      | some previous =>
        scheduler.modifyTask previous (fun node => { node with contextSaved := true })
    some
      ({ saved.modifyTask next (fun node => { node with contextSaved := false }) with
        executing := update scheduler.executing cpu (some next) }.setPhase
        cpu .switched)
  | _ => none

/-- The current task has been switched to; a fresh one marks itself as
started. -/
def enter (scheduler : Scheduler) (cpu : Cpu) : Scheduler :=
  match scheduler.currentNode cpu with
  | none => scheduler.setPhase cpu .running
  | some current =>
    (scheduler.modifyTask current (fun node => { node with started := true })).setPhase cpu .running

/-- The first half of `reclaim_retired_after_switch`, in front of its
section. -/
def takeRetired (scheduler : Scheduler) (cpu : Cpu) : Option Scheduler :=
  match scheduler.phase cpu with
  | .switched =>
    match scheduler.retiredTask cpu with
    | none => some (scheduler.enter cpu)
    | some retired =>
      some
        ({ scheduler with retiredTask := update scheduler.retiredTask cpu none }.setPhase cpu
          (.reclaiming retired))
  | _ => none

/-- The section of `reclaim_retired_after_switch`. -/
def reclaim (scheduler : Scheduler) (cpu : Cpu) : Option Scheduler :=
  match scheduler.phase cpu with
  | .reclaiming retired =>
    match scheduler.allTasks retired with
    | none => none
    | some node =>
      if node.state = .zombie then
        some
          ({ scheduler with allTasks := update scheduler.allTasks retired none }.enter cpu)
      else none
  | _ => none

/-! ## Runs -/

/-- `init_ap`, up to the processor being online. -/
def initAp (scheduler : Scheduler) (cpu : Cpu) : Scheduler :=
  let (idle, created) := scheduler.createTask
  ({ created with idleTasks := update created.idleTasks cpu (some idle) }.setCurrentNode cpu
    none).setPhase cpu .running

/-- The state behind `init`: the boot processor has its idle task. -/
def booted : Scheduler where
  allTasks := update (fun _ => none) 1 (some {})
  runQueues _ := []
  sleepQueue := []
  blockedQueue := []
  idleTasks := update (fun _ => none) globalTickCpu (some 1)
  currentNode _ := none
  retiredTask _ := none
  executing _ := none
  phase := update (fun _ => .offline) globalTickCpu .running
  staged := []
  pendingBlockedWake := 0
  nextTaskId := 2
  nextPlacementCpu := 0

inductive Call where
  | initAp (cpu : Cpu)
  | stageSpawn (cpu : Cpu) (requested : Option Cpu)
  | commit (cpu : Cpu) (id : TaskId)
  | dropStaged (cpu : Cpu) (id : TaskId)
  | yieldNow (cpu : Cpu)
  | sleepUntil (cpu : Cpu) (deadline : Instant)
  | publish (cpu : Cpu)
  | blockCurrentUntilReleasing (cpu : Cpu) (deadline : Option Instant)
  | blockCurrentInterruptible (cpu : Cpu) (deadline : Option Instant)
  | exit (cpu : Cpu)
  | scheduleNext (cpu : Cpu)
  | doSwitch (cpu : Cpu)
  | takeRetired (cpu : Cpu)
  | reclaim (cpu : Cpu)
  | tick (now : Instant)
  | wakeBlockedTask (cpu : Cpu) (id : TaskId)
  | drainPendingBlockedWakes (cpu : Cpu)
  | wakeBlockedTaskFromTask (cpu : Cpu) (id : TaskId)
  | interruptTaskFromTask (cpu : Cpu) (id : TaskId)
  | wakeSleepingTaskFromIrq (cpu : Cpu) (id : TaskId)
deriving DecidableEq

/-- The processor is not inside of a call. -/
def whenRunning (scheduler : Scheduler) (cpu : Cpu) (next : Option Scheduler) : Option Scheduler :=
  if scheduler.phase cpu = .running then next else none

/-- The call is made by the current task; an idle task makes none of these
calls. -/
def byCurrent (scheduler : Scheduler) (cpu : Cpu)
    (next : TaskId → Option Scheduler) : Option Scheduler :=
  scheduler.whenRunning cpu (match scheduler.currentNode cpu with
    | none => none
    | some current =>
      if scheduler.idleTasks cpu = some current then none
      else next current)

def step (scheduler : Scheduler) : Call → Option Scheduler
  | .initAp cpu =>
    if scheduler.phase cpu = .offline then some (scheduler.initAp cpu)
    else none
  | .stageSpawn cpu requested =>
    scheduler.whenRunning cpu
      (if requested.all scheduler.isOnline then some (scheduler.stageSpawn cpu requested)
      else none)
  | .commit cpu id => scheduler.whenRunning cpu (scheduler.commit cpu id)
  | .dropStaged cpu id => scheduler.whenRunning cpu (scheduler.dropStaged id)
  | .yieldNow cpu => scheduler.byCurrent cpu (fun current => some (scheduler.yieldNow cpu current))
  | .sleepUntil cpu deadline =>
    scheduler.byCurrent cpu (fun current => some (scheduler.sleepUntil cpu current deadline))
  | .publish cpu => scheduler.publish cpu
  | .blockCurrentUntilReleasing cpu deadline =>
    scheduler.byCurrent cpu (fun current => some (scheduler.blockCurrent cpu current deadline))
  | .blockCurrentInterruptible cpu deadline =>
    scheduler.byCurrent cpu (fun current => some (scheduler.blockCurrent cpu current deadline))
  | .exit cpu => scheduler.byCurrent cpu (scheduler.exit cpu)
  | .scheduleNext cpu =>
    if scheduler.phase cpu = .exiting then some ((scheduler.leaveExit cpu).scheduleNext cpu)
    else scheduler.whenRunning cpu (some (scheduler.scheduleNext cpu))
  | .doSwitch cpu => scheduler.doSwitch cpu
  | .takeRetired cpu => scheduler.takeRetired cpu
  | .reclaim cpu => scheduler.reclaim cpu
  | .tick now => scheduler.whenRunning globalTickCpu (some (scheduler.tick now))
  | .wakeBlockedTask cpu id => scheduler.whenRunning cpu (some (scheduler.wakeBlockedTask id))
  | .drainPendingBlockedWakes cpu =>
    if scheduler.isOnline cpu then some scheduler.drainPendingBlockedWakes
    else none
  | .wakeBlockedTaskFromTask cpu id =>
    scheduler.whenRunning cpu (some (scheduler.wakeBlockedTaskFromTask id))
  | .interruptTaskFromTask cpu id =>
    scheduler.whenRunning cpu (some (scheduler.interruptTaskFromTask id))
  | .wakeSleepingTaskFromIrq cpu id =>
    scheduler.whenRunning cpu (some (scheduler.wakeSleepingTaskFromIrq cpu id))

end Scheduler

end Xenith.Sched
