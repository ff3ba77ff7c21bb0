import Xenith.Lib.ReferenceCount
import Xenith.Winhost.Runtime
import Xenith.Winhost.TableEffect

/-!
# What an operation does to the runtime

An operation has one of five purposes.  It either leaves what the handles and
the object identifiers find as it was, or edits it in the way of its purpose.
-/

namespace Xenith.Winhost

open ObjectTable HandleTable Function

inductive Purpose where
  | create
  | duplicate (source : GuestHandle)
  | close (handle : GuestHandle)
  | use (handle : GuestHandle) (access : AccessMask)
  | abandon (thread : NtThreadId)
deriving DecidableEq

/-- The access that a service needs, beside what it is for. -/
def NtServiceCall.purpose : NtServiceCall → Purpose
  | .close handle => .close handle
  | .duplicateObject source _ _ => .duplicate source
  | .createEvent _ _ _ _ => .create
  | .setEvent handle => .use handle AccessMask.eventModifyState
  | .resetEvent handle => .use handle AccessMask.eventModifyState
  | .createMutant _ _ _ => .create
  | .releaseMutant handle _ => .use handle AccessMask.mutantQueryState
  | .createSemaphore _ _ _ _ => .create
  | .releaseSemaphore handle _ => .use handle AccessMask.semaphoreModifyState
  | .createTimer _ _ _ => .create
  | .setTimer handle _ _ _ => .use handle AccessMask.timerModifyState
  | .cancelTimer handle => .use handle AccessMask.timerModifyState
  | .waitForSingleObject handle _ _ _ => .use handle AccessMask.synchronize

namespace NtRuntime

def Operation.purpose : Operation → Purpose
  | .insertConsole _ _ _ _ => .create
  | .dispatch call => call.purpose
  | .dispatchSymbol _ _ call => call.purpose
  | .duplicate source _ _ => .duplicate source
  | .close handle => .close handle
  | .abandonThread thread => .abandon thread

def Result.succeeded : Result → Bool
  | .handle result => result.isOk
  | .closed result => result.isOk
  | .reply given => decide (given.status = .success)
  | .abandoned _ => true

def Result.issued : Result → Option GuestHandle
  | .handle result => result.toOption
  | .closed _ => none
  | .reply given =>
    match given.value with
    | .handle returned => some returned
    | _ => none
  | .abandoned _ => none

/-- No error is reported as a success. -/
def Honest {α : Type} (result : Except NtStatus α) : Prop :=
  ∀ status, result = .error status → status ≠ .success

theorem honest_ok {α : Type} {value : α} : Honest (.ok value : Except NtStatus α) := by
  rintro _ ⟨⟩

variable {status : NtStatus}

theorem honest_error {α : Type} (isError : status ≠ .success) :
    Honest (.error status : Except NtStatus α) := by
  rintro _ ⟨⟩
  exact isError

theorem handleError_status (error : HandleError) : error.status ≠ .success := by
  cases error <;> simp [HandleError.status]

theorem objectError_status (error : ObjectError) : error.status ≠ .success := by
  cases error <;> simp [ObjectError.status]

theorem syncError_status (error : SyncError) : error.status ≠ .success := by
  cases error <;> simp [SyncError.status]

/-! ## Effects -/

/-- The effect of an operation with a purpose that succeeds or not and may
return a handle. -/
inductive Effect (runtime : NtRuntime) : Purpose → Bool → Option GuestHandle → NtRuntime → Prop
  | kept {purpose} {next : NtRuntime} (handles : next.handles = runtime.handles)
      (objects : next.objects.find = runtime.objects.find) (wellFormed : next.objects.WellFormed) :
      Effect runtime purpose false none next
  | created {handle} {entry : HandleEntry} {object : RuntimeObject} {next : NtRuntime}
      (typed : object.objectType = entry.objectType)
      (fresh : runtime.objects.find entry.objectId = none)
      (unissued : runtime.handles.find handle = none)
      (objects : next.objects.find = update runtime.objects.find entry.objectId (some ⟨1, object⟩))
      (handles : next.handles.find = update runtime.handles.find handle (some entry))
      (wellFormed : next.objects.WellFormed)
      (extended : HandleTable.Extends runtime.handles next.handles) :
      Effect runtime .create true (some handle) next
  | duplicated {source copy} {entry narrowed : HandleEntry} {counted : Counted} {next : NtRuntime}
      (found : runtime.handles.find source = some entry)
      (isCounted : runtime.objects.find entry.objectId = some counted)
      (same : narrowed.objectId = entry.objectId ∧ narrowed.objectType = entry.objectType)
      (contained : AccessMask.contains entry.access narrowed.access = true)
      (unissued : runtime.handles.find copy = none)
      (objects : next.objects.find = update runtime.objects.find entry.objectId
        (some { counted with references := counted.references + 1 }))
      (handles : next.handles.find = update runtime.handles.find copy (some narrowed))
      (wellFormed : next.objects.WellFormed)
      (extended : HandleTable.Extends runtime.handles next.handles) :
      Effect runtime (.duplicate source) true (some copy) next
  | closed {handle} {entry : HandleEntry} {counted : Counted} {next : NtRuntime}
      (found : runtime.handles.find handle = some entry)
      (isCounted : runtime.objects.find entry.objectId = some counted)
      (objects : next.objects.find = update runtime.objects.find entry.objectId
        (if counted.references - 1 = 0 then none
          else some { counted with references := counted.references - 1 }))
      (handles : next.handles.find = update runtime.handles.find handle none)
      (wellFormed : next.objects.WellFormed)
      (extended : HandleTable.Extends runtime.handles next.handles)
      (rejects : next.handles.Rejects handle) :
      Effect runtime (.close handle) true none next
  | used {handle access succeeded} {entry : HandleEntry} {counted : Counted}
      {changed : RuntimeObject} {next : NtRuntime}
      (found : runtime.handles.find handle = some entry)
      (permitted : AccessMask.contains entry.access access = true)
      (isCounted : runtime.objects.find entry.objectId = some counted)
      (typed : changed.objectType = counted.object.objectType) (objects : next.objects.find =
        update runtime.objects.find entry.objectId (some { counted with object := changed }))
      (handles : next.handles = runtime.handles) (wellFormed : next.objects.WellFormed) :
      Effect runtime (.use handle access) succeeded none next
  | abandoned {thread} {next : NtRuntime} (objects : next.objects.find =
        fun id => (runtime.objects.find id).map (fun counted => (abandonObject thread counted).2))
      (handles : next.handles = runtime.handles) (wellFormed : next.objects.WellFormed) :
      Effect runtime (.abandon thread) true none next

structure Invariant (runtime : NtRuntime) : Prop where
  handles : runtime.handles.WellFormed
  objects : runtime.objects.WellFormed
  exact : ReferenceCount.Exact HandleEntry.objectId runtime.handles.find
    (fun id => (runtime.objects.find id).map Counted.references)
  typed : ∀ handle entry counted, runtime.handles.find handle = some entry →
    runtime.objects.find entry.objectId = some counted →
      counted.object.objectType = entry.objectType

section Effects

variable {runtime next : NtRuntime} {handle : GuestHandle} {entry : HandleEntry} {purpose : Purpose}

section Invariant

variable (invariant : Invariant runtime)

include invariant

theorem effect_unchanged : Effect runtime purpose false none runtime :=
  .kept rfl rfl invariant.objects

theorem refused {α : Type} (isError : status ≠ .success) :
    Effect runtime purpose false none runtime ∧ Honest (.error status : Except NtStatus α) :=
  ⟨effect_unchanged invariant, honest_error isError⟩

/-- A live handle leads to an object of its type. -/
theorem Invariant.resolve (found : runtime.handles.find handle = some entry) :
    ∃ counted, runtime.objects.find entry.objectId = some counted ∧
      counted.references ≠ 0 ∧
      counted.object.objectType = entry.objectType := by
  obtain ⟨references, present⟩ := invariant.exact.present handle entry found
  have positive := (invariant.exact.counted _ _ present).2
  obtain ⟨counted, isCounted, rfl⟩ := Option.map_eq_some_iff.mp present
  exact ⟨counted, isCounted, Nat.ne_of_gt positive,
    invariant.typed handle entry counted found isCounted⟩

theorem Invariant.reference (found : runtime.handles.find handle = some entry) :
    ∃ counted, runtime.objects.find entry.objectId = some counted ∧
      counted.references ≠ 0 ∧
      runtime.objects.reference entry.objectId (some entry.objectType) = .ok counted.object := by
  obtain ⟨counted, isCounted, used, typed⟩ := invariant.resolve found
  refine ⟨counted, isCounted, used, reference_of_find isCounted used ?_⟩
  rintro _ ⟨⟩
  exact typed

end Invariant

variable {access : AccessMask} {object : RuntimeObject}

/-- What a call that may return a handle does. -/
def Yields (runtime : NtRuntime) (purpose : Purpose)
    (outcome : Except NtStatus GuestHandle × NtRuntime) : Prop :=
  Effect runtime purpose outcome.1.isOk outcome.1.toOption outcome.2 ∧ Honest outcome.1

variable {inheritable : Bool}

section Invariant

variable (invariant : Invariant runtime)

include invariant

theorem yields_insertObjectHandle :
    Yields runtime .create (runtime.insertObjectHandle object access inheritable) := by
  fun_cases insertObjectHandle with
  | case1 error objects inserted =>
    cases insert_eq_error inserted
    exact refused invariant (objectError_status error)
  | case2 id objects inserted handle handles published =>
    obtain ⟨fresh, edited, wellFormed⟩ := insert_eq_ok invariant.objects inserted
    obtain ⟨unissued, extension, extended⟩ := insert_eq_ok invariant.handles published
    exact ⟨.created (Eq.refl object.objectType) fresh unissued edited
      extension wellFormed extended, honest_ok⟩
  | case3 id objects inserted error handles published =>
    cases insert_eq_error published
    obtain ⟨fresh, edited, wellFormed⟩ := insert_eq_ok invariant.objects inserted
    refine ⟨?_, honest_error (handleError_status error)⟩
    -- The object that no handle names is released again.
    obtain ⟨_, releasedWellFormed, released⟩ := release_cases wellFormed
      (by rw [edited, update_self]) (Nat.one_ne_zero) (Prod.eta (objects.release id)).symm
    refine .kept rfl ?_ releasedWellFormed
    rw [released, edited, update_idem, ← fresh]
    exact update_eq_self id runtime.objects.find

theorem yields_insertConsole {descriptor : Int} {readable writable : Bool} :
    Yields runtime .create (runtime.insertConsole descriptor readable writable inheritable) := by
  fun_cases insertConsole with
  | case1 error => exact refused invariant (objectError_status error)
  | case2 => exact yields_insertObjectHandle invariant

theorem effect_close (handle : GuestHandle) :
    Effect runtime (.close handle) (runtime.close handle).1.isOk none (runtime.close handle).2 ∧
      Honest (runtime.close handle).1 := by
  fun_cases close with
  | case1 error => exact refused invariant (handleError_status error)
  | case2 _ _ error => exact refused invariant (objectError_status error)
  | case3 _ _ _ _ error handles closed =>
    cases close_eq_error closed
    exact refused invariant (handleError_status error)
  | case4 entry referenced _ _ _ handles closed error objects released =>
    obtain ⟨counted, isCounted, used, _⟩ := invariant.reference (reference_eq_ok referenced).1
    have ⟨⟨_, isOk⟩, _⟩ := release_cases invariant.objects isCounted used released
    cases isOk
  | case5 entry referenced _ _ _ handles closed _ objects released =>
    have found := (reference_eq_ok referenced).1
    obtain ⟨counted, isCounted, used, _⟩ := invariant.reference found
    obtain ⟨_, erased, extended, rejects⟩ := close_eq_ok closed
    obtain ⟨_, wellFormed, edited⟩ := release_cases invariant.objects isCounted used released
    exact ⟨.closed found isCounted edited erased wellFormed extended rejects, honest_ok⟩

theorem yields_duplicate
    {source : GuestHandle} {desired : Option AccessMask} {inheritable : Option Bool} :
    Yields runtime (.duplicate source) (runtime.duplicate source desired inheritable) := by
  fun_cases NtRuntime.duplicate with
  | case1 error => exact refused invariant (handleError_status error)
  | case2 => exact refused invariant (by simp)
  | case3 _ _ _ error => exact refused invariant (objectError_status error)
  | case4 _ _ _ _ _ error objects retained =>
    cases retain_eq_error retained
    exact refused invariant (objectError_status error)
  | case5 entry referenced _ _ _ _ objects retained copy handles copied =>
    have found := (reference_eq_ok referenced).1
    obtain ⟨counted, isCounted, _⟩ := invariant.reference found
    obtain ⟨wellFormed, edited⟩ := retain_eq_ok invariant.objects isCounted retained
    obtain ⟨_, isSource, contained, unissued, extension, extended⟩ :=
      duplicate_eq_ok invariant.handles copied
    rw [found] at isSource
    cases isSource
    refine ⟨.duplicated found isCounted ?_ contained unissued edited
      extension wellFormed extended, honest_ok⟩
    exact ⟨rfl, rfl⟩
  | case6 entry referenced _ _ _ _ objects retained error handles copied =>
    cases duplicate_eq_error copied
    obtain ⟨counted, isCounted, used, _⟩ := invariant.reference (reference_eq_ok referenced).1
    obtain ⟨wellFormed, edited⟩ := retain_eq_ok invariant.objects isCounted retained
    refine ⟨?_, honest_error (handleError_status error)⟩
    -- The reference taken for the copy is given back.
    obtain ⟨_, releasedWellFormed, released⟩ := release_cases wellFormed
      (by rw [edited, update_self]) (Nat.succ_ne_zero _)
      (Prod.eta (objects.release entry.objectId)).symm
    refine .kept rfl ?_ releasedWellFormed
    rw [released, edited, update_idem, Nat.add_sub_cancel, if_neg used, ← isCounted]
    exact update_eq_self entry.objectId runtime.objects.find

end Invariant

variable {expected : ObjectType}

theorem objectMut_eq_ok {id : ObjectId} (invariant : Invariant runtime)
    (resolved : runtime.objectMut handle expected access = .ok (id, object)) :
    ∃ entry counted, runtime.handles.find handle = some entry ∧
      AccessMask.contains entry.access access = true ∧
      entry.objectId = id ∧ runtime.objects.find id = some counted ∧
      counted.references ≠ 0 ∧ counted.object = object := by
  revert resolved
  fun_cases objectMut with
  | case3 _ entry referenced _ resolved =>
    rintro ⟨⟩
    obtain ⟨isEntry, isType, contained⟩ := reference_eq_ok referenced
    obtain ⟨counted, isCounted, used, typed⟩ := invariant.resolve isEntry
    rw [reference_of_find isCounted used] at resolved
    · cases resolved
      exact ⟨entry, counted, isEntry, contained, rfl, isCounted, used, rfl⟩
    · intro type isExpected
      rcases Option.or_eq_some_iff.mp isExpected with
        isExpected | ⟨_, isExpected⟩
      · rw [typed, isType type isExpected]
      · rw [typed, Option.some.inj isExpected]
  | _ => nofun

theorem objectMut_error (failed : runtime.objectMut handle expected access = .error status) :
    status ≠ .success := by
  revert failed
  fun_cases objectMut with
  | case1 _ error =>
    rintro ⟨⟩
    exact handleError_status error
  | case2 _ _ _ error =>
    rintro ⟨⟩
    exact objectError_status error
  | case3 => nofun

/-- The sentinel type is never the reason of a failure. -/
theorem objectMut_invalid_error (invariant : Invariant runtime)
    (failed : runtime.objectMut handle .invalid access = .error status) :
    status ≠ .objectTypeMismatch := by
  unfold objectMut at failed
  simp only [if_true] at failed
  split at failed
  · next error referenced =>
    cases failed
    exact reference_error_of_any referenced
  · next entry referenced =>
    obtain ⟨_, _, _, resolved⟩ := invariant.reference (reference_eq_ok referenced).1
    rw [Option.none_or, resolved] at failed
    cases failed

theorem effect_store {id : ObjectId} {object changed : RuntimeObject} {succeeded : Bool}
    (invariant : Invariant runtime)
    (resolved : runtime.objectMut handle expected access = .ok (id, object))
    (typed : changed.objectType = object.objectType) :
    Effect runtime (.use handle access) succeeded none (runtime.store id changed) := by
  obtain ⟨_, _, found, contained, rfl, isCounted, used, rfl⟩ := objectMut_eq_ok invariant resolved
  exact .used found contained isCounted typed
    (store_find isCounted used) rfl invariant.objects.store

/-! ## Services -/

def Answers (runtime : NtRuntime) (purpose : Purpose)
    (outcome : Option NtServiceReply × NtRuntime) : Prop :=
  ∃ reply, outcome.1 = some reply ∧
    Effect runtime purpose (Result.reply reply).succeeded (Result.reply reply).issued outcome.2

theorem answers_status
    (isError : status ≠ .success) (effect : Effect runtime purpose false none next) :
    Answers runtime purpose (some (.ofStatus status), next) := by
  refine ⟨_, rfl, ?_⟩
  simpa [Result.succeeded, Result.issued, NtServiceReply.ofStatus, isError] using effect

theorem answers_handleReply
    {outcome : Except NtStatus GuestHandle × NtRuntime} (yields : Yields runtime purpose outcome) :
    Answers runtime purpose (answer (handleReply outcome)) := by
  obtain ⟨result, _⟩ := outcome
  obtain ⟨effect, honest⟩ := yields
  cases result with
  | ok handle => exact ⟨.ofHandle handle, rfl, effect⟩
  | error status => exact answers_status (honest status rfl) effect

theorem validateAccess_error
    {allowed : AccessMask} (refused : validateAccess access allowed = .error status) :
    status ≠ .success := by
  unfold validateAccess at refused
  split at refused
  · cases refused
  · cases refused
    simp

theorem issued_countReply {α : Type} {outcome : Except SyncError Nat × α} :
    (Result.reply (countReply outcome)).issued = none := by
  unfold countReply
  split <;> rfl

theorem issued_waitReply {mode : NtWaitMode} {result : Option (Except SyncError WaitSatisfaction)} :
    (Result.reply (waitReply mode result)).issued = none := by
  unfold waitReply
  split
  case h_4 => split <;> rfl
  all_goals rfl

section Invariant

variable (invariant : Invariant runtime)

include invariant

theorem answers_withObject {operation : RuntimeObject → NtServiceReply × RuntimeObject}
    (plain : ∀ object, (operation object).2.objectType = object.objectType ∧
      (Result.reply (operation object).1).issued = none) :
    Answers runtime (.use handle access)
      (answer (runtime.withObject handle expected access operation)) := by
  unfold withObject
  split
  · next status failed => exact answers_status (objectMut_error failed) (effect_unchanged invariant)
  · next id object resolved =>
    refine ⟨(operation object).1, rfl, ?_⟩
    rw [(plain object).2]
    exact effect_store invariant resolved (plain object).1

theorem answers_createObject {allowed : AccessMask} :
    Answers runtime .create (answer (runtime.createObject object access allowed inheritable)) := by
  fun_cases createObject with
  | case1 _ refused =>
    exact answers_status (validateAccess_error refused) (effect_unchanged invariant)
  | case2 => exact answers_handleReply (yields_insertObjectHandle invariant)

theorem answers_createSemaphore {initial limit : Nat} :
    Answers runtime .create
      (answer (runtime.createSemaphore initial limit access inheritable)) := by
  fun_cases createSemaphore with
  | case1 _ refused =>
    exact answers_status (validateAccess_error refused) (effect_unchanged invariant)
  | case2 _ error => exact answers_status (syncError_status error) (effect_unchanged invariant)
  | case3 => exact answers_handleReply (yields_insertObjectHandle invariant)

/-- Every service answers; in particular a wait never takes the branch
without a reply. -/
theorem answers_waitSingle {thread : NtThreadId} {now : Nat} {mode : NtWaitMode} :
    Answers runtime (.use handle AccessMask.synchronize)
      (runtime.waitSingle handle thread now mode) := by
  unfold waitSingle
  split
  · next failed => exact absurd rfl (objectMut_invalid_error invariant failed)
  · next status _ failed =>
    exact answers_status (objectMut_error failed) (effect_unchanged invariant)
  · next id object resolved =>
    refine ⟨_, rfl, ?_⟩
    rw [issued_waitReply]
    exact effect_store invariant resolved (by cases object <;> rfl)

theorem answers_dispatch (call : NtServiceCall) :
    Answers runtime call.purpose (runtime.dispatch call) := by
  cases call with
  | close handle =>
    have effect := effect_close invariant handle
    unfold dispatch
    simp only
    split
    · next closed =>
      rw [closed] at effect
      exact ⟨.ofStatus .success, rfl, effect.1⟩
    · next status _ closed =>
      rw [closed] at effect
      exact answers_status (effect.2 status rfl) effect.1
  | duplicateObject => exact answers_handleReply (yields_duplicate invariant)
  | createEvent | createMutant | createTimer => exact answers_createObject invariant
  | createSemaphore => exact answers_createSemaphore invariant
  | setEvent handle | resetEvent handle | cancelTimer handle =>
    apply answers_withObject invariant
    intro object
    cases object <;> exact ⟨rfl, rfl⟩
  | releaseMutant handle thread =>
    apply answers_withObject invariant
    intro object
    cases object
    case mutant => exact ⟨rfl, issued_countReply⟩
    all_goals exact ⟨rfl, rfl⟩
  | releaseSemaphore handle =>
    apply answers_withObject invariant
    intro object
    cases object
    case semaphore => exact ⟨rfl, issued_countReply⟩
    all_goals exact ⟨rfl, rfl⟩
  | setTimer handle nowTicks =>
    apply answers_withObject invariant
    intro object
    cases object
    case timer => simp only; split <;> exact ⟨rfl, rfl⟩
    all_goals exact ⟨rfl, rfl⟩
  | waitForSingleObject handle thread nowTicks => exact answers_waitSingle invariant

theorem answers_dispatchSymbol (moduleName symbol : List UInt8) (call : NtServiceCall) :
    Answers runtime call.purpose (runtime.dispatchSymbol moduleName symbol call) := by
  unfold dispatchSymbol
  simp only
  split
  · exact answers_status (by simp) (effect_unchanged invariant)
  · split
    · exact answers_status (by simp) (effect_unchanged invariant)
    · exact answers_dispatch invariant call

theorem effect_perform (operation : Operation) :
    ∃ result next, runtime.perform operation = (some result, next) ∧
      Effect runtime operation.purpose result.succeeded result.issued next := by
  cases operation with
  | insertConsole => exact ⟨_, _, rfl, (yields_insertConsole invariant).1⟩
  | dispatch call =>
    obtain ⟨reply, isReply, effect⟩ := answers_dispatch invariant call
    refine ⟨.reply reply, (runtime.dispatch call).2, ?_, effect⟩
    simp [perform, isReply]
  | dispatchSymbol moduleName symbol call =>
    obtain ⟨reply, isReply, effect⟩ := answers_dispatchSymbol invariant moduleName symbol call
    refine ⟨.reply reply, (runtime.dispatchSymbol moduleName symbol call).2, ?_, effect⟩
    simp [perform, isReply]
  | duplicate => exact ⟨_, _, rfl, (yields_duplicate invariant).1⟩
  | close handle => exact ⟨_, _, rfl, (effect_close invariant handle).1⟩
  | abandonThread =>
    exact ⟨_, _, rfl, .abandoned abandonMutants_find rfl invariant.objects.abandonMutants⟩

end Invariant

end Effects

end NtRuntime

end Xenith.Winhost
