import Xenith.Lib.Execution
import Xenith.Winhost.RuntimeEffect

/-!
# Handles account for objects

In every state that the runtime reaches the references of an object are its
handles, and every operation respects what handles grant.
-/

namespace Xenith.Winhost.NtRuntime

open Function
open ReferenceCount
open Execution

variable {runtime next final : NtRuntime} {purpose : Purpose}
variable {succeeded : Bool} {issued : Option GuestHandle}

theorem invariant_tryNew {handles objects : Nat} (created : tryNew handles objects = .ok runtime) :
    Invariant runtime := by
  unfold tryNew at created
  split at created
  · cases created
  · cases created
  · next handleTable objectTable newHandles newObjects =>
    cases created
    unfold HandleTable.tryNew at newHandles
    unfold ObjectTable.tryNew at newObjects
    split at newHandles
    · cases newHandles
    · next handleBound =>
      split at newObjects
      · cases newObjects
      · next objectBound =>
        cases newHandles
        cases newObjects
        rw [not_or, not_lt] at handleBound objectBound
        refine ⟨HandleTable.wellFormed_empty handleBound.2,
          ObjectTable.wellFormed_empty objectBound.2, ?_, ?_⟩
        · rw [HandleTable.find_empty, ObjectTable.find_empty]
          exact exact_empty
        · intro handle entry counted found
          rw [HandleTable.find_empty] at found
          cases found

/-- The references as they are counted by the library. -/
theorem references_update
    {objects : ObjectId → Option Counted} {id : ObjectId} {value : Option Counted} :
    (fun other =>
      (update objects id value other).map Counted.references) =
      update (fun other => (objects other).map Counted.references)
        id (value.map Counted.references) := by
  funext other
  by_cases same : other = id
  · simp [same]
  · simp [same]

theorem Effect.extends (effect : Effect runtime purpose succeeded issued next) :
    HandleTable.Extends runtime.handles next.handles := by
  cases effect with
  | kept handles | used _ _ _ _ _ handles | abandoned _ handles =>
    rw [handles]
    exact .refl
  | created | duplicated | closed => assumption

theorem Effect.wellFormed (effect : Effect runtime purpose succeeded issued next) :
    next.objects.WellFormed := by
  cases effect <;> assumption

section Invariant

variable (invariant : Invariant runtime)

include invariant

theorem Effect.exact (effect : Effect runtime purpose succeeded issued next) :
    Exact HandleEntry.objectId next.handles.find
      (fun id => (next.objects.find id).map Counted.references) := by
  cases effect with
  | kept handles objects =>
    rw [handles, objects]
    exact invariant.exact
  | created _ fresh unissued objects handles =>
    rw [objects, handles, references_update]
    exact invariant.exact.insert unissued (by simp [fresh])
  | @duplicated _ _ _ _ _ _ _ isCounted same _ unissued objects handles =>
    rw [objects, handles, references_update, ← same.1]
    exact invariant.exact.insert unissued (by simp [same.1, isCounted])
  | @closed _ _ counted _ found isCounted objects handles =>
    have erased :=
      invariant.exact.erase found (Option.map_eq_some_iff.mpr ⟨counted, isCounted, rfl⟩)
    rw [objects, references_update]
    convert erased using 2
    split <;> rfl
  | used _ _ isCounted _ objects handles =>
    rw [objects, handles, references_update]
    convert invariant.exact using 1
    simp [isCounted]
  | abandoned objects handles =>
    rw [objects, handles]
    simpa [comp_def, ObjectTable.abandonObject_references] using invariant.exact

theorem Effect.typed (effect : Effect runtime purpose succeeded issued next) :
    ∀ handle entry counted, next.handles.find handle = some entry →
      next.objects.find entry.objectId = some counted →
        counted.object.objectType = entry.objectType := by
  have before := invariant.typed
  intro handle entry counted found isFound
  have edited {id old value} (isCounted : runtime.objects.find id = some old)
      (objects : next.objects.find = update runtime.objects.find id value)
      (typed : ∀ after ∈ value, after.object.objectType = old.object.objectType)
      (found : runtime.handles.find handle = some entry) :
      counted.object.objectType = entry.objectType := by
    rw [objects, update_apply] at isFound
    split at isFound
    · next isSame =>
      rw [← isSame] at isCounted
      exact (typed counted isFound).trans (before handle entry old found isCounted)
    · exact before handle entry counted found isFound
  cases effect with
  | kept handles objects =>
    rw [handles] at found
    rw [objects] at isFound
    exact before handle entry counted found isFound
  | @created issued issuedEntry _ _ typed fresh _ objects handles =>
    rw [handles, update_apply] at found
    rw [objects, update_apply] at isFound
    split at found
    · cases found
      rw [if_pos rfl] at isFound
      cases isFound
      exact typed
    · have other : entry.objectId ≠ issuedEntry.objectId := by
        intro same
        obtain ⟨_, present, _⟩ := invariant.resolve found
        rw [same, fresh] at present
        cases present
      rw [if_neg other] at isFound
      exact before handle entry counted found isFound
  | duplicated sourceFound isCounted same _ _ objects handles =>
    rw [handles, update_apply] at found
    split at found
    · cases found
      rw [objects, same.1, update_self] at isFound
      cases isFound
      exact (before _ _ _ sourceFound isCounted).trans same.2.symm
    · exact edited isCounted objects (by rintro _ ⟨⟩; rfl) found
  | closed _ isCounted objects handles =>
    rw [handles, update_apply] at found
    split at found
    · cases found
    · refine edited isCounted objects ?_ found
      split <;> rintro _ ⟨⟩
      rfl
  | used _ _ isCounted typed objects handles =>
    rw [handles] at found
    exact edited isCounted objects (by rintro _ ⟨⟩; exact typed) found
  | abandoned objects handles =>
    rw [handles] at found
    rw [objects] at isFound
    obtain ⟨old, isOld, rfl⟩ := Option.map_eq_some_iff.mp isFound
    rw [ObjectTable.abandonObject_objectType]
    exact before handle entry old found isOld

theorem Invariant.effect (effect : Effect runtime purpose succeeded issued next) :
    Invariant next where
  handles := effect.extends.wellFormed invariant.handles
  objects := effect.wellFormed
  exact := effect.exact invariant
  typed := effect.typed invariant

theorem Invariant.of_step {operation : Operation} (stepped : runtime.step operation = some next) :
    Invariant next ∧ HandleTable.Extends runtime.handles next.handles := by
  obtain ⟨_, _, performed, effect⟩ := effect_perform invariant operation
  rw [step, performed] at stepped
  cases stepped
  exact ⟨invariant.effect effect, effect.extends⟩

theorem Invariant.runs (operations : List Operation) :
    ∃ final, exec step runtime operations = some final ∧ Invariant final := by
  induction operations generalizing runtime with
  | nil => exact ⟨runtime, rfl, invariant⟩
  | cons operation _ ih =>
    obtain ⟨_, next, performed, effect⟩ := effect_perform invariant operation
    have stepped : runtime.step operation = some next := by
      rw [step, performed]
    obtain ⟨final, reached, after⟩ := ih (invariant.effect effect)
    exact ⟨final, exec_cons_eq_some.mpr ⟨next, stepped, reached⟩, after⟩

theorem Invariant.rejects
    {handle : GuestHandle} {operations : List Operation} (rejects : runtime.handles.Rejects handle)
    (reached : exec step runtime operations = some final) :
    final.handles.Rejects handle := by
  have preserved :
      ∀ state operation next, Invariant state ∧ state.handles.Rejects handle →
        state.step operation = some next → Invariant next ∧ next.handles.Rejects handle := by
    rintro state operation next ⟨invariant, rejects⟩ stepped
    obtain ⟨after, extended⟩ := invariant.of_step stepped
    exact ⟨after, extended.rejects handle rejects⟩
  exact (invariant_of_exec preserved ⟨invariant, rejects⟩ reached).2

end Invariant

def naming (runtime : NtRuntime) (id : ObjectId) : Set GuestHandle :=
  {handle | ∃ entry, runtime.handles.find handle = some entry ∧ entry.objectId = id}

structure Accounted (runtime : NtRuntime) : Prop where
  references : ∀ id counted, runtime.objects.find id = some counted →
    counted.references = (runtime.naming id).ncard ∧ 1 ≤ counted.references
  objects : ∀ handle entry, runtime.handles.find handle = some entry → ∃ object,
    runtime.objects.reference entry.objectId none = .ok object ∧
      object.objectType = entry.objectType

/-- What an operation may do. -/
structure Conduct (runtime : NtRuntime) (operation : Operation)
    (result : Result) (next : NtRuntime) : Prop where
  closed : ∀ handle, operation.purpose = .close handle → result.succeeded = true →
    ∀ operations final, exec step next operations = some final →
      ∀ expected access, final.handles.reference handle expected access = .error .invalidHandle
  contained : ∀ source handle, operation.purpose = .duplicate source → result.issued = some handle →
    ∃ entry copy, runtime.handles.find source = some entry ∧
      next.handles.find handle = some copy ∧
      copy.objectId = entry.objectId ∧
      AccessMask.contains entry.access copy.access = true
  permitted : ∀ id before after, runtime.objects.find id = some before →
    next.objects.find id = some after → after.object ≠ before.object →
      (∃ thread, operation.purpose = .abandon thread) ∨
        ∃ handle access entry, operation.purpose = .use handle access ∧
          runtime.handles.find handle = some entry ∧
          entry.objectId = id ∧
          AccessMask.contains entry.access access = true
  transactional : (operation.purpose = .create ∨ ∃ source, operation.purpose = .duplicate source) →
    result.issued = none →
      next.handles.find = runtime.handles.find ∧ next.objects.find = runtime.objects.find

theorem Invariant.accounted (invariant : Invariant runtime) : Accounted runtime where
  references := by
    intro id counted found
    exact invariant.exact.counted id counted.references
      (Option.map_eq_some_iff.mpr ⟨counted, found, rfl⟩)
  objects := by
    intro handle entry found
    obtain ⟨counted, isCounted, used, typed⟩ := invariant.resolve found
    refine ⟨counted.object, ObjectTable.reference_of_find isCounted used ?_, typed⟩
    rintro _ ⟨⟩

theorem Effect.closed_rejects
    {handle : GuestHandle} (effect : Effect runtime (.close handle) true issued next) :
    next.handles.Rejects handle := by
  cases effect with
  | closed _ _ _ _ _ _ rejects => exact rejects

theorem Effect.duplicate_contained {source handle : GuestHandle}
    (effect : Effect runtime (.duplicate source) succeeded (some handle) next) :
    ∃ entry copy, runtime.handles.find source = some entry ∧
      next.handles.find handle = some copy ∧
      copy.objectId = entry.objectId ∧
      AccessMask.contains entry.access copy.access = true := by
  cases effect with
  | duplicated found _ same contained _ _ handles =>
    exact ⟨_, _, found, by rw [handles, update_self], same.1, contained⟩

theorem Effect.permitted
    {id : ObjectId} {before after : Counted} (effect : Effect runtime purpose succeeded issued next)
    (isBefore : runtime.objects.find id = some before) (isAfter : next.objects.find id = some after)
    (changed : after.object ≠ before.object) :
    (∃ thread, purpose = .abandon thread) ∨ ∃ handle access entry, purpose = .use handle access ∧
      runtime.handles.find handle = some entry ∧ entry.objectId = id ∧
      AccessMask.contains entry.access access = true := by
  have untouched : next.objects.find id ≠ runtime.objects.find id := by
    rw [isAfter, isBefore]
    intro same
    exact changed (congrArg Counted.object (Option.some.inj same))
  have touched {other value} (objects : next.objects.find = update runtime.objects.find other value) :
      other = id ∧ value = some after := by
    rw [objects, update_apply] at isAfter untouched
    split at isAfter
    · next same => exact ⟨same.symm, isAfter⟩
    · next different => exact absurd (if_neg different) untouched
  cases effect with
  | kept _ objects => exact absurd (congrFun objects id) untouched
  | created _ fresh _ objects =>
    obtain ⟨rfl, _⟩ := touched objects
    cases fresh.symm.trans isBefore
  | duplicated _ isCounted _ _ _ objects =>
    obtain ⟨rfl, same⟩ := touched objects
    cases isCounted.symm.trans isBefore
    cases same
    exact absurd rfl changed
  | closed _ isCounted objects =>
    obtain ⟨rfl, same⟩ := touched objects
    cases isCounted.symm.trans isBefore
    split at same
    · cases same
    · cases same
      exact absurd rfl changed
  | used found permitted _ _ objects =>
    exact Or.inr ⟨_, _, _, rfl, found, (touched objects).1, permitted⟩
  | abandoned => exact Or.inl ⟨_, rfl⟩

theorem Effect.transactional (issues : purpose = .create ∨ ∃ source, purpose = .duplicate source)
    (effect : Effect runtime purpose succeeded none next) :
    next.handles.find = runtime.handles.find ∧ next.objects.find = runtime.objects.find := by
  cases effect with
  | kept handles objects => exact ⟨by rw [handles], objects⟩
  | closed | used | abandoned => simp at issues

theorem Invariant.conduct {operation : Operation} {result : Result} (invariant : Invariant runtime)
    (effect : Effect runtime operation.purpose result.succeeded result.issued next) :
    Conduct runtime operation result next where
  closed := by
    intro handle isClose isSuccess operations final reached expected access
    rw [isClose, isSuccess] at effect
    have after := invariant.effect effect
    have rejects := after.rejects effect.closed_rejects reached
    rw [HandleTable.reference, rejects.find_eq_none]
  contained := by
    intro source handle isDuplicate isIssued
    rw [isDuplicate, isIssued] at effect
    exact effect.duplicate_contained
  permitted := by
    intro id before after isBefore isAfter changed
    exact effect.permitted isBefore isAfter changed
  transactional := by
    intro issues isFailure
    rw [isFailure] at effect
    exact effect.transactional issues

/-- Every sequence of operations runs through; in the state it reaches the
handles account for the objects, and so they do in every operation from
there. -/
theorem handle_object_accounting
    {handles objects : Nat} {start : NtRuntime} (created : tryNew handles objects = .ok start)
    (operations : List Operation) :
    ∃ final, exec step start operations = some final ∧
      Accounted final ∧
      ∀ operation, ∃ result next,
        final.perform operation = (some result, next) ∧ Conduct final operation result next := by
  obtain ⟨final, reached, invariant⟩ := (invariant_tryNew created).runs operations
  refine ⟨final, reached, invariant.accounted, ?_⟩
  intro operation
  obtain ⟨result, next, performed, effect⟩ := effect_perform invariant operation
  exact ⟨result, next, performed, invariant.conduct effect⟩

/-- An event is created, duplicated, set, closed and used again. -/
def eventRun : List Operation :=
  [.dispatch (.createEvent .notification false eventAllowedAccess false),
    .duplicate 0x1001 (some AccessMask.synchronize) none,
    .dispatch (.setEvent 0x1001), .close 0x1001, .dispatch (.setEvent 0x1001)]

theorem eventRun_accounted :
    tryNew 2 2 = .ok (empty 2 2) ∧
      (exec step (empty 2 2) eventRun).map
          (fun final =>
            (final.handles.find 0x1001, final.handles.find 0x1002, final.objects.find 0x10001)) =
        some (none,
          some ⟨0x10001, .event, AccessMask.synchronize, false⟩,
          some ⟨1, .event ⟨.notification, true⟩⟩) ∧
      ∃ final, exec step (empty 2 2) eventRun = some final ∧
        Accounted final ∧
        ∀ operation, ∃ result next,
          final.perform operation = (some result, next) ∧ Conduct final operation result next :=
  ⟨by decide +kernel, by decide +kernel,
    handle_object_accounting (show tryNew 2 2 = .ok (empty 2 2) by decide +kernel) eventRun⟩

end Xenith.Winhost.NtRuntime
