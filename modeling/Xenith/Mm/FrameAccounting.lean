import Xenith.Lib.Execution
import Xenith.Mm.VmEffect

/-!
# The shared-frame table counts the mappings

The table holds the number of mappings of every frame that has at least two,
and the physical allocator hands out and takes back a frame in turn.
-/

namespace Xenith.Mm

open AddressSpace
open Execution

/-- Follow one frame through the calls of the physical allocator.  Handing
out a held frame and taking back a free one are errors. -/
def holdStep (frame : PhysFrame) (held : Bool) : FrameEvent → Option Bool
  | .allocate other =>
    if other = frame then if held then none else some true
    else some held
  | .deallocate other =>
    if other = frame then if held then some false else none
    else some held

namespace VmState

/-- Whether the physical allocator has handed the frame out, when its calls
are in order. -/
def held (state : VmState) (frame : PhysFrame) : Option Bool :=
  exec (holdStep frame) false state.events

/-- The physical allocator hands out frames that it does not hold out
already, and every unmapped frame is released. -/
def OwnsFrames (state : VmState) : VmOp → Prop
  | .mapUser _ _ frame _ _ => state.held frame ≠ some true
  | .resolveCowFault _ _ (some destination) => state.held destination ≠ some true
  | .unmap _ _ release => release = true
  | _ => True

instance (state : VmState) : DecidablePred state.OwnsFrames := by
  intro op
  unfold OwnsFrames
  split <;> infer_instance

structure Accounted (state : VmState) : Prop where
  represented : Represents state.frames state.mappings
  heldWhileMapped : ∀ frame, state.held frame = some (decide (0 < state.mappings frame))

theorem initial_accounted : initial.Accounted where
  represented := by
    intro frame
    rfl
  heldWhileMapped := by
    intro frame
    rfl

section Steps

variable {state next : VmState} {frame : PhysFrame}

theorem Accounted.unmapped_of_fresh
    (accounted : state.Accounted) (fresh : state.held frame ≠ some true) :
    state.mappings frame = 0 := by
  rw [accounted.heldWhileMapped frame] at fresh
  simpa using fresh

theorem held_append {events : List FrameEvent} (logged : next.events = state.events ++ events)
    {before after : Bool} (heldBefore : state.held frame = some before)
    (followed : exec (holdStep frame) before events = some after) :
    next.held frame = some after := by
  unfold held
  rw [logged]
  exact exec_append_eq_some.mpr ⟨before, heldBefore, followed⟩

section Accounted

variable (accounted : state.Accounted)

include accounted

/-- A step that changes no count and calls no allocator. -/
theorem Accounted.congr (frames : next.frames = state.frames) (events : next.events = state.events)
    (counts : ∀ frame, next.mappings frame = state.mappings frame) :
    next.Accounted where
  represented := by
    rw [frames]
    exact accounted.represented.congr fun frame => .inl (counts frame).symm
  heldWhileMapped := by
    intro frame
    rw [counts frame, ← accounted.heldWhileMapped frame]
    simp only [held, events]

theorem Accounted.mapFailed (fresh : state.held frame ≠ some true) :
    ((state.allocateZeroed frame).log (.deallocate frame)).Accounted where
  represented := accounted.represented
  heldWhileMapped := by
    intro tested
    have unmapped := accounted.unmapped_of_fresh fresh
    have logged :
        ((state.allocateZeroed frame).log (.deallocate frame)).events =
          state.events ++ [.allocate frame, .deallocate frame] := by
      simp [allocateZeroed, log]
    refine held_append logged (accounted.heldWhileMapped tested) ?_
    change _ = some (decide (0 < state.mappings tested))
    by_cases same : frame = tested
    · subst same
      simp [exec, holdStep, unmapped]
    · simp [exec, holdStep, same]

theorem Accounted.allocated (fresh : state.held frame ≠ some true)
    (logged : next.events = state.events ++ [.allocate frame])
    (mapped : ∀ tested, 0 < next.mappings tested ↔ frame = tested ∨ 0 < state.mappings tested)
    (tested : PhysFrame) :
    next.held tested = some (decide (0 < next.mappings tested)) := by
  have unmapped := accounted.unmapped_of_fresh fresh
  refine held_append logged (accounted.heldWhileMapped tested) ?_
  by_cases same : frame = tested
  · subst same
    simp [exec, holdStep, unmapped, mapped]
  · simp [exec, holdStep, same, mapped]

variable {index : Nat} {page : Page} {leaf : Leaf}

theorem Accounted.mapped (fresh : state.held leaf.frame ≠ some true)
    (exchanges : Exchanges state next index page none (some leaf))
    (frames : next.frames = state.frames)
    (logged : next.events = state.events ++ [.allocate leaf.frame]) :
    next.Accounted := by
  have unmapped := accounted.unmapped_of_fresh fresh
  have counts := exchanges.counts
  simp only [mapsTo_none, mapsTo_some] at counts
  refine ⟨?_, accounted.allocated fresh logged ?_⟩
  · rw [frames]
    refine accounted.represented.congr fun tested => ?_
    grind
  · grind

theorem Accounted.forked {space : AddressSpace} {frames : List SharedUserFrame}
    {requests : Nat → Page → Option VmProtection} (found : state.spaces[index]? = some space)
    (counted : Represents frames fun frame => state.mappings frame + space.mappings frame) :
    (state.forkedState index space frames requests).Accounted where
  represented := counted.congr fun frame => .inl (mappings_forked found frame).symm
  heldWhileMapped := by
    intro frame
    have bounded := mappings_le found frame
    rw [mappings_forked found frame]
    refine (accounted.heldWhileMapped frame).trans ?_
    rw [Option.some.injEq, decide_eq_decide]
    omega

theorem Accounted.split {changed : Leaf} (shared : sharedUserFrame state.frames leaf.frame = true)
    (fresh : state.held changed.frame ≠ some true)
    (exchanges : Exchanges state next index page (some leaf) (some changed))
    (frames : next.frames = (releaseUserFrame state.frames leaf.frame).2)
    (logged : next.events = state.events ++ [.allocate changed.frame]) :
    next.Accounted := by
  have unmapped := accounted.unmapped_of_fresh fresh
  have several := accounted.represented.sharedUserFrame_iff.mp shared
  have counts := exchanges.counts
  simp only [mapsTo_some] at counts
  refine ⟨?_, accounted.allocated fresh logged ?_⟩
  · rw [frames]
    refine (accounted.represented.release (by omega)).1.congr ?_
    grind
  · grind

theorem Accounted.released (exchanges : Exchanges state next index page (some leaf) none)
    (frames : next.frames = (releaseUserFrame state.frames leaf.frame).2)
    (logged : next.events = state.events ++
      if (releaseUserFrame state.frames leaf.frame).1 then [.deallocate leaf.frame]
      else []) :
    next.Accounted := by
  have positive := mappings_pos_of_leaf?_eq_some exchanges.held
  obtain ⟨releasedCounts, last⟩ := accounted.represented.release positive
  have counts := exchanges.counts
  simp only [mapsTo_none, mapsTo_some] at counts
  refine ⟨?_, ?_⟩
  · rw [frames]
    refine releasedCounts.congr fun tested => ?_
    grind
  · intro tested
    refine held_append logged (accounted.heldWhileMapped tested) ?_
    have count := counts tested
    by_cases same : leaf.frame = tested
    · subst same
      rw [if_pos rfl] at count
      by_cases single : state.mappings leaf.frame = 1
      · have none : next.mappings leaf.frame = 0 := by omega
        rw [if_pos (last.mpr single)]
        simp [exec, holdStep, single, none]
      · rw [if_neg (mt last.mp single)]
        simp only [exec_nil, Option.some.injEq, decide_eq_decide]
        omega
    · rw [if_neg same, Nat.add_zero] at count
      rw [count]
      split
      · simp [exec, holdStep, same]
      · rfl

theorem Accounted.step {op : VmOp} (owns : state.OwnsFrames op)
    (effect : Effect state op next) : next.Accounted := by
  cases effect with
  | rejected op => exact accounted
  | created => exact accounted.congr rfl rfl fun frame => mappings_created state frame
  | mapFailed => exact accounted.mapFailed owns
  | mapped _ found missing flags =>
    exact accounted.mapped owns (exchanges_put found missing rfl) rfl rfl
  | protectionChanged found present sameFrame
  | reclaimed found present _ _ sameFrame =>
    exact accounted.congr rfl rfl ((exchanges_put found present rfl).counts_eq sameFrame)
  | forkFailed kept =>
    have same := kept accounted.represented.wellCounted
    exact accounted.congr same rfl fun _ => rfl
  | forked found counted =>
    exact accounted.forked found (counted state.mappings (mappings_le found) accounted.represented)
  | split _ found present _ shared flags =>
    exact accounted.split shared owns (exchanges_put found present rfl) rfl rfl
  | unmapped found present => cases owns
  | released found present => exact accounted.released (exchanges_erase found present rfl) rfl rfl
  | stored => exact accounted.congr rfl rfl fun _ => rfl

end Accounted

end Steps

theorem accounted_of_ownsFrames
    {ops : List VmOp} {final : VmState} (owns : Execution.Guarded transition OwnsFrames initial ops)
    (reached : exec transition initial ops = some final) :
    final.Accounted := by
  refine invariant_of_guarded ?_ initial_accounted owns reached
  intro state op next accounted guarded taken
  cases taken
  exact accounted.step guarded (effect_step state op)

/-- In every state of every run the table has no entry for a frame with at
most one mapping and exactly one, carrying the number of mappings, for every
other; a release reports exactly the last mapping; and the calls of the
physical allocator alternate for every frame, which is held exactly while it
is mapped. -/
theorem shared_frame_accounting
    {ops : List VmOp} {final : VmState} (owns : Execution.Guarded transition OwnsFrames initial ops)
    (reached : exec transition initial ops = some final) :
    (∀ frame,
      recordedReferences final.frames frame =
        if final.mappings frame ≤ 1 then [] else [final.mappings frame]) ∧
      (∀ index page leaf, final.leaf? index page = some leaf →
        ((releaseUserFrame final.frames leaf.frame).1 = true ↔ final.mappings leaf.frame = 1)) ∧
        ∀ frame,
          exec (holdStep frame) false final.events = some (decide (0 < final.mappings frame)) := by
  have accounted := accounted_of_ownsFrames owns reached
  refine ⟨accounted.represented, ?_, accounted.heldWhileMapped⟩
  intro index page leaf mapped
  exact (accounted.represented.release (mappings_pos_of_leaf?_eq_some mapped)).2

/-- A page shared by two spaces, split by a write, and released by both. -/
def sharedPageRun : List VmOp :=
  [.newEmpty,
    .mapUser 0 3 7 { writable := true, executable := false } true, .fork 0 true [],
    .fork 0 true [{ tables := false }], .resolveCowFault 0 3 (some 8), .unmap 1 3 true]

theorem sharedPageRun_accounting :
    ∃ final, exec transition initial sharedPageRun = some final ∧
      final.events = [.allocate 7, .allocate 8, .deallocate 7] ∧
        recordedReferences final.frames 8 = [] ∧
          exec (holdStep 8) false final.events = some true := by
  have reached : exec transition initial sharedPageRun = some _ := rfl
  have accounting := shared_frame_accounting (by decide) reached
  exact ⟨_, reached, by decide, accounting.1 8, accounting.2.2 8⟩

end VmState

end Xenith.Mm
