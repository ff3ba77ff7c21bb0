import Xenith.Sched.QueueDiscipline

/-!
# One processor per stack

A task that sleeps is woken on the run queue of the interrupted processor.  If
its own processor has not switched away from it yet, the other one loads a
context that is not saved.
-/

namespace Xenith.Sched.Scheduler

open Function
open Execution

/-- A waking interrupt finds its task asleep only when every processor has
left the stack of the task. -/
def LeftBehind (scheduler : Scheduler) : Call → Prop
  | .wakeSleepingTaskFromIrq _ id =>
    id ∈ scheduler.sleepQueue → ∀ cpu, scheduler.executing cpu ≠ some id
  | _ => True

instance (scheduler : Scheduler) (call : Call) : Decidable (LeftBehind scheduler call) := by
  cases call <;> unfold LeftBehind <;> infer_instance

/-! ## Stacks and contexts -/

def Unsaved (entry : Option TaskNode) : Prop :=
  ∃ node, entry = some node ∧ node.contextSaved = false

theorem contextTracking : Tracking (fun before after => Unsaved after → Unsaved before) := by
  refine ⟨fun unsaved => unsaved, ?_, ?_, ?_⟩
  · rintro _ ⟨node, same, unsaved⟩
    cases same
    cases unsaved
  · rintro node _ _ _ context ⟨_, same, unsaved⟩
    cases same
    exact ⟨node, rfl, context.symm.trans unsaved⟩
  · intro before between after first second unsaved
    exact first (second unsaved)

theorem homeTracking : Tracking (Stays (fun node later => later.cpu = node.cpu)) :=
  Tracking.stays (fun _ _ home _ => home) (fun _ _ _ first second => second.trans first)

/-- A task belongs to the processor on its stack, and a context that is not
saved to one that runs on it. -/
structure Housed (scheduler : Scheduler) : Prop where
  home : ∀ cpu id, scheduler.executing cpu = some id →
    ∃ node, scheduler.allTasks id = some node ∧ node.cpu = cpu
  unstaged : ∀ cpu id, scheduler.executing cpu = some id → id ∉ scheduler.staged.map StagedTask.id
  idle : ∀ cpu other id, scheduler.executing cpu = some id →
    scheduler.idleTasks other = some id → other = cpu
  saved : ∀ id, Unsaved (scheduler.allTasks id) → ∃ cpu, (scheduler.view cpu).Occupies id

section Housed

variable {scheduler next : Scheduler} {cpu : Cpu} {id : TaskId}

/-- The reclaimed task is not the one on whose stack its processor runs. -/
theorem Invariant.not_reclaiming (invariant : Invariant scheduler) {node : TaskNode}
    (present : scheduler.allTasks id = some node)
    (executing : scheduler.executing node.cpu = some id) :
    scheduler.phase cpu ≠ .reclaiming id := by
  intro reclaiming
  obtain ⟨position, placed⟩ := invariant.placed
  have stands := (placed.shape.stands (.reclaiming cpu) id).mp reclaiming
  obtain ⟨_, home⟩ := placed.suited.suits id _ node stands present
  obtain ⟨_, _, _, isCurrent⟩ := (invariant.controlled cpu).during reclaiming
  have atSlot : position id = .at (.current cpu) := by
    rw [← placed.shape.stands]
    rw [home] at executing
    exact ⟨isCurrent.symm.trans executing, by simp [reclaiming]⟩
  rw [stands] at atSlot
  cases atSlot

variable {call : Call} {previous : Option TaskId}

theorem Housed.excused
    (housed : Housed scheduler) (invariant : Invariant scheduler) (left : LeftBehind scheduler call)
    (executing : scheduler.executing cpu = some id) :
    Excused (Stays (fun node later => later.cpu = node.cpu)) scheduler call id := by
  obtain ⟨node, present, home⟩ := housed.home cpu id executing
  refine ⟨?_, fun _ _ _ _ _ _ _ => Stays.of_related rfl, ?_, ?_, ?_, ?_,
    fun _ _ _ _ => Stays.of_related rfl⟩
  · intro other old isIdle found
    rw [present] at found
    cases found
    exact Or.inl (home.trans (housed.idle cpu other id executing isIdle).symm)
  · rintro other old rfl member _ later _ _ _
    exact absurd executing (left member cpu)
  · intro old _ member
    exact absurd member (housed.unstaged cpu id executing)
  · rintro other old rfl reclaiming _
    rw [← home] at executing
    exact absurd reclaiming (invariant.not_reclaiming present executing)
  · rintro other old _ member _
    exact absurd member (housed.unstaged cpu id executing)

theorem excused_contexts (notSwitch : ∀ cpu, call ≠ .doSwitch cpu) :
    Excused (fun before after => Unsaved after → Unsaved before) scheduler call id := by
  have keeps (node later : TaskNode)
      (context : later.contextSaved = node.contextSaved) :
      Unsaved (some later) → Unsaved (some node) := by
    rintro ⟨_, same, unsaved⟩
    cases same
    exact ⟨node, rfl, context.symm.trans unsaved⟩
  have gone (node : TaskNode) : Unsaved none → Unsaved (some node) := by
    rintro ⟨_, same, _⟩
    cases same
  exact ⟨fun _ node _ _ => Or.inr (keeps node _ rfl),
    fun _ _ node _ _ _ _ => keeps node _ rfl,
    fun _ node _ _ _ later _ _ => keeps node later,
    fun node _ _ later _ => keeps node later,
    fun _ node _ _ _ => gone node, fun _ node _ _ _ => gone node,
    fun cpu same => absurd same (notSwitch cpu)⟩

theorem Housed.step
    (housed : Housed scheduler) (invariant : Invariant scheduler) (left : LeftBehind scheduler call)
    (notSwitch : ∀ cpu, call ≠ .doSwitch cpu)
    (taken : scheduler.step call = some next) : Housed next := by
  obtain ⟨carried, staged⟩ := (proceeds_step invariant notSwitch taken).continues
  have executing (cpu : Cpu) : next.executing cpu = scheduler.executing cpu :=
    (carried cpu).executing
  obtain ⟨_, placed⟩ := invariant.placed
  refine ⟨?_, ?_, ?_, ?_⟩
  · intro cpu id runs
    rw [executing] at runs
    obtain ⟨node, present, home⟩ := housed.home cpu id runs
    obtain ⟨later, stays, same⟩ :=
      homeTracking.step invariant (housed.excused invariant left runs) taken node present
    exact ⟨later, stays, same.trans home⟩
  · intro cpu id runs member
    rw [executing] at runs
    obtain ⟨node, present, _⟩ := housed.home cpu id runs
    obtain ⟨token, isToken, rfl⟩ := List.mem_map.mp member
    rcases staged token isToken with old | fresh
    · exact housed.unstaged cpu token.id runs (List.mem_map_of_mem old)
    · rw [fresh, placed.suited.fresh _ (Nat.le_refl _)] at present
      cases present
  · intro cpu other id runs isIdle
    rw [executing] at runs
    obtain ⟨node, present, _⟩ := housed.home cpu id runs
    rcases (carried other).idle id isIdle with old | missing
    · exact housed.idle cpu other id runs old
    · rw [present] at missing
      cases missing
  · intro id unsaved
    have before := contextTracking.step invariant (excused_contexts notSwitch) taken unsaved
    obtain ⟨cpu, occupied⟩ := housed.saved id before
    obtain ⟨node, present, _⟩ := unsaved
    exact ⟨cpu, (carried cpu).occupied id (by simp [present]) occupied⟩

/-! ## The switch -/

theorem unsaved_doSwitch
    {incoming : TaskId} (phase : scheduler.phase cpu = .switching previous incoming)
    (switches : scheduler.doSwitch cpu = some next) (unsaved : Unsaved (next.allTasks id)) :
    id = incoming ∨ (previous ≠ some id ∧ Unsaved (scheduler.allTasks id)) := by
  by_cases isIncoming : id = incoming
  · exact Or.inl isIncoming
  · refine Or.inr ?_
    rw [doSwitch, phase] at switches
    cases previous with
    | none =>
      cases switches
      simpa [setPhase, modifyTask, isIncoming] using unsaved
    | some previous =>
      cases switches
      by_cases isPrevious : id = previous
      · obtain ⟨_, present, context⟩ := unsaved
        simp only [setPhase, modifyTask] at present
        rw [update_of_ne isIncoming, isPrevious, update_self] at present
        obtain ⟨_, _, rfl⟩ := Option.map_eq_some_iff.mp present
        cases context
      · refine ⟨by simpa using Ne.symm isPrevious, ?_⟩
        simpa [setPhase, modifyTask, isIncoming, isPrevious] using unsaved

/-- A task that is about to be loaded stands in the slot of its processor. -/
theorem Invariant.incoming (invariant : Invariant scheduler) {position : TaskId → Position}
    (placed : Resting scheduler position) {incoming : TaskId}
    (phase : scheduler.phase cpu = .switching previous incoming) :
    position incoming = .at (.current cpu) := by
  obtain ⟨_, current, _⟩ := (invariant.controlled cpu).switching phase
  rw [← placed.shape.stands]
  exact ⟨current, by simp [phase]⟩

/-- No processor runs on the stack of a task that is about to be loaded. -/
theorem Housed.incoming_free
    (housed : Housed scheduler) (invariant : Invariant scheduler) {incoming : TaskId}
    (phase : scheduler.phase cpu = .switching previous incoming)
    (other : Cpu) : scheduler.executing other ≠ some incoming := by
  intro runs
  obtain ⟨_, placed⟩ := invariant.placed
  have stands := invariant.incoming placed phase
  obtain ⟨node, present, home⟩ := housed.home other incoming runs
  obtain ⟨_, here⟩ := placed.suited.suits incoming _ node stands present
  rw [← home, here] at runs
  obtain ⟨_, _, different, noPrevious, hasPrevious⟩ := (invariant.controlled cpu).switching phase
  cases previous with
  | none =>
    have retired :=
      (placed.shape.stands (.retired cpu) incoming).mp ((noPrevious rfl).symm.trans runs)
    rw [stands] at retired
    cases retired
  | some previous =>
    have executing : scheduler.executing cpu = some previous := (hasPrevious previous rfl).1
    rw [runs] at executing
    exact different executing.symm

theorem Housed.incoming_saved
    (housed : Housed scheduler) (invariant : Invariant scheduler) {incoming : TaskId}
    (phase : scheduler.phase cpu = .switching previous incoming) :
    ¬ Unsaved (scheduler.allTasks incoming) := by
  intro unsaved
  obtain ⟨_, placed⟩ := invariant.placed
  have stands := invariant.incoming placed phase
  obtain ⟨other, executing | retired | reclaiming⟩ := housed.saved incoming unsaved
  · exact housed.incoming_free invariant phase other executing
  · have atSlot := (placed.shape.stands (.retired other) _).mp retired
    rw [stands] at atSlot
    cases atSlot
  · have atSlot := (placed.shape.stands (.reclaiming other) _).mp reclaiming
    rw [stands] at atSlot
    cases atSlot

theorem Housed.doSwitch (housed : Housed scheduler) (invariant : Invariant scheduler)
    (switches : scheduler.doSwitch cpu = some next) : Housed next := by
  obtain ⟨position, placed⟩ := invariant.placed
  obtain ⟨previous, incoming, phase, views, staged⟩ := changes_doSwitch switches
  have stands := invariant.incoming placed phase
  have idle (other : Cpu) : next.idleTasks other = scheduler.idleTasks other := by
    have same := congrArg View.idle (congrFun views other)
    by_cases here : other = cpu
    · rw [here, update_self] at same
      rw [here]
      exact same
    · rw [update_of_ne here] at same
      exact same
  have executing (other : Cpu) (id : TaskId)
      (runs : next.executing other = some id) :
      (other = cpu ∧ id = incoming) ∨ scheduler.executing other = some id := by
    have same := congrArg View.executing (congrFun views other)
    by_cases here : other = cpu
    · rw [here] at same
      rw [here] at runs
      exact Or.inl ⟨here, by simpa using runs.symm.trans same⟩
    · rw [update_of_ne here] at same
      exact Or.inr (same.symm.trans runs)
  have tracks (id : TaskId) :
      Tracks (Stays (fun node later => later.cpu = node.cpu)) scheduler next
        id :=
    homeTracking.doSwitch (fun _ _ => Stays.of_related rfl) switches
  refine ⟨?_, ?_, ?_, ?_⟩
  · intro other id runs
    rcases executing other id runs with ⟨rfl, rfl⟩ | before
    · have owned : position id ≠ .nowhere := by simp [stands]
      obtain ⟨node, present⟩ := placed.suited.isSome owned
      obtain ⟨later, stays, same⟩ := tracks id node present
      obtain ⟨_, home⟩ := placed.suited.suits id _ node stands present
      exact ⟨later, stays, same.trans home⟩
    · obtain ⟨node, present, home⟩ := housed.home other id before
      obtain ⟨later, stays, same⟩ := tracks id node present
      exact ⟨later, stays, same.trans home⟩
  · intro other id runs member
    rw [staged] at member
    rcases executing other id runs with ⟨rfl, rfl⟩ | before
    · have atToken := (placed.shape.stands .staged id).mp member
      rw [stands] at atToken
      cases atToken
    · exact housed.unstaged other id before member
  · intro other owner id runs isIdle
    rw [idle] at isIdle
    rcases executing other id runs with ⟨rfl, rfl⟩ | before
    · rcases placed.shape.idle owner id isIdle with atRest | atSlot
      · rw [stands] at atRest
        cases atRest
      · rw [stands] at atSlot
        cases atSlot
        rfl
    · exact housed.idle other owner id before isIdle
  · intro id unsaved
    rcases unsaved_doSwitch phase switches unsaved with
      rfl | ⟨notPrevious, before⟩
    · refine ⟨cpu, Or.inl ?_⟩
      rw [views, update_self]
    · obtain ⟨other, occupied⟩ := housed.saved id before
      refine ⟨other, ?_⟩
      rw [views]
      by_cases here : other = cpu
      · rw [here] at occupied ⊢
        rw [update_self]
        obtain ⟨_, _, _, noPrevious, hasPrevious⟩ := (invariant.controlled cpu).switching phase
        rcases occupied with runs | retired | reclaiming
        · cases previous with
          | none => exact Or.inr (Or.inl ((noPrevious rfl).symm.trans runs))
          | some previous =>
            rw [(hasPrevious previous rfl).1] at runs
            exact absurd runs notPrevious
        · exact Or.inr (Or.inl retired)
        · rw [show (scheduler.view cpu).phase = .switching previous incoming
            from phase] at reclaiming
          cases reclaiming
      · rw [update_of_ne here]
        exact occupied

theorem housed_booted : Housed booted := by
  refine ⟨?_, ?_, ?_, ?_⟩
  · intro cpu id runs
    cases runs
  · intro cpu id runs
    cases runs
  · intro cpu other id runs
    cases runs
  · rintro id ⟨_, present, unsaved⟩
    by_cases boot : id = 1
    · rw [boot] at present
      cases present
      cases unsaved
    · simp [booted, boot] at present

theorem housed_step
    (housed : Housed scheduler) (invariant : Invariant scheduler) (left : LeftBehind scheduler call)
    (taken : scheduler.step call = some next) : Housed next := by
  by_cases isSwitch : ∃ cpu, call = .doSwitch cpu
  · obtain ⟨cpu, rfl⟩ := isSwitch
    exact housed.doSwitch invariant taken
  · exact housed.step invariant left (fun cpu same => isSwitch ⟨cpu, same⟩) taken

theorem housed_of_guarded {calls : List Call} (guarded : Guarded step LeftBehind booted calls)
    (reached : exec step booted calls = some scheduler) :
    Invariant scheduler ∧ Housed scheduler := by
  have preserved (state : Scheduler) (call : Call) (later : Scheduler)
      (both : Invariant state ∧ Housed state) (left : LeftBehind state call)
      (taken : state.step call = some later) :
      Invariant later ∧ Housed later :=
    ⟨invariant_step both.1 taken, housed_step both.2 both.1 left taken⟩
  exact invariant_of_guarded preserved ⟨invariant_booted, housed_booted⟩ guarded reached

end Housed

/-- No two processors run on one stack, and a switch loads a context that is
saved and on whose stack no processor runs. -/
theorem single_execution
    {state : Scheduler} {calls : List Call} (guarded : Guarded step LeftBehind booted calls)
    (reached : exec step booted calls = some state) :
    (∀ left right id, state.executing left = some id →
      state.executing right = some id → left = right) ∧
    ∀ cpu next, state.step (.doSwitch cpu) = some next →
      ∃ incoming node, next.executing cpu = some incoming ∧
        state.allTasks incoming = some node ∧ node.contextSaved = true ∧
        ∀ other, state.executing other ≠ some incoming := by
  obtain ⟨invariant, housed⟩ := housed_of_guarded guarded reached
  refine ⟨?_, ?_⟩
  · intro left right id onLeft onRight
    obtain ⟨node, present, home⟩ := housed.home left id onLeft
    obtain ⟨same, found, other⟩ := housed.home right id onRight
    rw [present] at found
    cases found
    exact home.symm.trans other
  · intro cpu next taken
    obtain ⟨position, placed⟩ := invariant.placed
    obtain ⟨_, incoming, phase, views, _⟩ := changes_doSwitch taken
    have stands := invariant.incoming placed phase
    have owned : position incoming ≠ .nowhere := by simp [stands]
    obtain ⟨node, present⟩ := placed.suited.isSome owned
    refine ⟨incoming, node, ?_, present, ?_, housed.incoming_free invariant phase⟩
    · have same := congrArg View.executing (congrFun views cpu)
      rw [update_self] at same
      exact same
    · by_contra unsaved
      exact housed.incoming_saved invariant phase ⟨node, present, by simpa using unsaved⟩

/-- Task 3 sleeps on the first processor. -/
def sleeping : List Call :=
  [.initAp 1, .stageSpawn 0 (some 0), .commit 0 3, .scheduleNext 0,
    .doSwitch 0, .takeRetired 0, .sleepUntil 0 9]

/-- The first processor leaves the stack before the interrupt. -/
theorem migrating_single_execution :
    ∃ state next,
      exec step booted
          (sleeping ++ [.publish 0, .doSwitch 0, .wakeSleepingTaskFromIrq 1 3, .scheduleNext 1]) =
        some state ∧
      state.step (.doSwitch 1) = some next ∧ next.executing 1 = some 3 ∧
      ∀ other, state.executing other ≠ some 3 := by
  have runs :
      ∃ state,
        exec step booted
            (sleeping ++ [.publish 0, .doSwitch 0, .wakeSleepingTaskFromIrq 1 3, .scheduleNext 1]) =
          some state ∧
        ∃ next, state.step (.doSwitch 1) = some next ∧ next.executing 1 = some 3 := by
    decide +kernel
  obtain ⟨state, reached, next, taken, executing⟩ := runs
  obtain ⟨_, loads⟩ := single_execution (by decide +kernel) reached
  obtain ⟨_, _, loaded, _, _, free⟩ := loads 1 next taken
  rw [executing] at loaded
  cases loaded
  exact ⟨state, next, reached, taken, executing, free⟩

/-- The interrupt comes before the first processor has left the stack: the
second one loads a context that is not saved. -/
theorem woken_task_runs_twice :
    ∃ state next node,
      exec step booted (sleeping ++ [.wakeSleepingTaskFromIrq 1 3, .scheduleNext 1]) = some state ∧
      state.step (.doSwitch 1) = some next ∧
      state.executing 0 = some 3 ∧ state.allTasks 3 = some node ∧
      node.contextSaved = false ∧
      next.executing 0 = some 3 ∧ next.executing 1 = some 3 := by
  have runs :
      ∃ state,
        exec step booted (sleeping ++ [.wakeSleepingTaskFromIrq 1 3, .scheduleNext 1]) =
          some state ∧
        state.executing 0 = some 3 ∧
        (∃ next, state.step (.doSwitch 1) = some next ∧
          next.executing 0 = some 3 ∧ next.executing 1 = some 3) ∧
        ∃ node, state.allTasks 3 = some node ∧ node.contextSaved = false := by
    decide +kernel
  obtain ⟨state, reached, executing, ⟨next, taken, twice⟩, node, present, unsaved⟩ := runs
  exact ⟨state, next, node, reached, taken, executing, present, unsaved, twice⟩

end Xenith.Sched.Scheduler
