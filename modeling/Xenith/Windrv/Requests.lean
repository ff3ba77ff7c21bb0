import Xenith.Lib.Execution
import Xenith.Windrv.Objects

/-!
# Lifecycle of I/O requests

The pool of `user/windrv-core/src/request.rs`.  The operations on a request
share their way through the pool, and differ in what they do to the request.
-/

namespace Xenith.Windrv

open SlotTable Execution

abbrev NtStatus := Nat

def NtStatus.success : NtStatus := 0

def NtStatus.pending : NtStatus := 0x103

inductive MajorFunction where
  | create | createNamedPipe | close | read | write
  | queryInformation | setInformation | queryEa | setEa | flushBuffers
  | queryVolumeInformation | setVolumeInformation | directoryControl
  | fileSystemControl | deviceControl | internalDeviceControl | shutdown
  | lockControl | cleanup | createMailslot | querySecurity | setSecurity
  | power | systemControl | deviceChange | queryQuota | setQuota | pnp
deriving DecidableEq

inductive RequestState where
  | allocated
  | dispatched
  | pending
  | cancelRequested
  | completed
deriving DecidableEq

abbrev RequestId := Nat

/-- The arguments of `allocate`, which a request and its completion keep. -/
structure IoTarget where
  device : DeviceId
  major : MajorFunction
  minor : Nat
  controlCode : Option Nat
  inputLen : Nat
  outputLen : Nat
deriving DecidableEq

structure IoRequest extends IoTarget where
  state : RequestState := .allocated
  status : NtStatus := .success
  information : Nat := 0
  cancelRequested : Bool := false
deriving DecidableEq

def IoRequest.empty : IoRequest where
  device := 0
  major := .create
  minor := 0
  controlCode := none
  inputLen := 0
  outputLen := 0

structure Completion extends IoTarget where
  status : NtStatus
  information : Nat
  cancelRequested : Bool
deriving DecidableEq

inductive RequestError where
  | invalidCapacity (capacity maximum : Nat)
  | poolFull
  | invalidRequest
  | invalidDevice
  | transferTooLarge
  | invalidControlCode
  | invalidState (state : RequestState)
  | invalidInformation (information maximum : Nat)
  | invalidCompletionStatus
deriving DecidableEq

def IoTarget.informationLimit (target : IoTarget) : Option Nat :=
  match target.major with
  | .read => some target.outputLen
  | .write => some target.inputLen
  | .queryInformation | .queryEa | .queryVolumeInformation
  | .directoryControl | .fileSystemControl | .deviceControl
  | .internalDeviceControl | .querySecurity | .systemControl
  | .queryQuota => some target.outputLen
  | .create | .createNamedPipe | .createMailslot => some 5
  | .close | .setInformation | .setEa | .flushBuffers
  | .setVolumeInformation | .shutdown | .lockControl | .cleanup
  | .setSecurity | .power | .deviceChange | .setQuota => some 0
  | .pnp => none

/-- Neither pending nor with more bytes than the major function allows. -/
def Completion.Valid (completion : Completion) : Prop :=
  completion.status ≠ .pending ∧
    ∀ maximum ∈ completion.informationLimit, completion.information ≤ maximum

def Completion.outcome (completion : Completion) : NtStatus × Nat × Bool :=
  (completion.status, completion.information, completion.cancelRequested)

/-! ## Operations on a request -/

inductive Operation where
  | markDispatched
  | markPending
  | requestCancel
  | complete (status : NtStatus) (information : Nat)
  | releaseUnsubmitted
  | reap

inductive Value where
  | unit
  | cancelled (won : Bool)
  | reaped (completion : Completion)

namespace IoRequest

/-- The value that is returned and the request afterwards, if its slot is
not released. -/
abbrev Result := Except RequestError (Value × Option IoRequest)

def requireState (request : IoRequest) (expected : RequestState)
    (result : Value × Option IoRequest) : Result :=
  if request.state = expected then .ok result
  else .error (.invalidState request.state)

def markDispatched (request : IoRequest) : Result :=
  request.requireState .allocated (.unit, some { request with state := .dispatched })

def markPending (request : IoRequest) : Result :=
  match request.state with
  | .dispatched => .ok (.unit, some { request with state := .pending, status := .pending })
  | .cancelRequested =>
    if request.status = .pending then .error (.invalidState request.state)
    else .ok (.unit, some { request with status := .pending })
  | state => .error (.invalidState state)

def requestCancel (request : IoRequest) : Result :=
  match request.state with
  | .dispatched | .pending =>
    .ok (.cancelled true, some { request with state := .cancelRequested, cancelRequested := true })
  | .cancelRequested | .completed => .ok (.cancelled false, some request)
  | state => .error (.invalidState state)

def complete (request : IoRequest) (status : NtStatus) (information : Nat) : Result :=
  if request.state = .allocated ∨ request.state = .completed then
    .error (.invalidState request.state)
  else if status = .pending then .error .invalidCompletionStatus
  else
    match request.informationLimit.filter (· < information) with
    | some maximum => .error (.invalidInformation information maximum)
    | none => .ok (.unit, some { request with status, information, state := .completed })

def releaseUnsubmitted (request : IoRequest) : Result :=
  request.requireState .allocated (.unit, none)

def completion (request : IoRequest) : Completion :=
  { request with }

def reap (request : IoRequest) : Result :=
  request.requireState .completed (.reaped request.completion, none)

def perform (request : IoRequest) : Operation → Result
  | .markDispatched => request.markDispatched
  | .markPending => request.markPending
  | .requestCancel => request.requestCancel
  | .complete status information => request.complete status information
  | .releaseUnsubmitted => request.releaseUnsubmitted
  | .reap => request.reap

end IoRequest

/-! ## The pool -/

structure RequestPool where
  slots : List (Slot IoRequest)
  len : Nat

namespace RequestPool

def indexBits : Nat := 12

def maxIssuedGeneration : Nat := 1 <<< (32 - indexBits) - 1 - 1

def maxRequests : Nat := 1024

def maxIoTransferBytes : Nat := 1024 * 1024

def decode (raw : Nat) : Option Key :=
  decodeIssued indexBits maxIssuedGeneration raw

def tryNew (capacity : Nat) : Except RequestError RequestPool :=
  if capacity = 0 ∨ maxRequests < capacity then .error (.invalidCapacity capacity maxRequests)
  else .ok ⟨List.replicate capacity (Slot.fresh .empty), 0⟩

def allocate (pool : RequestPool) (target : IoTarget) :
    Except RequestError RequestId × RequestPool :=
  if Windrv.decode target.device = none then (.error .invalidDevice, pool)
  else if decide (target.major = .deviceControl ∨
      target.major = .internalDeviceControl) ≠ target.controlCode.isSome then
    (.error .invalidControlCode, pool)
  else if (checkedAdd target.inputLen target.outputLen).all (maxIoTransferBytes < ·) then
    (.error .transferTooLarge, pool)
  else
    match freeKey pool.slots with
    | none => (.error .poolFull, pool)
    | some key =>
      (.ok (encode indexBits key), ⟨insert pool.slots key { target with }, pool.len + 1⟩)

def request (pool : RequestPool) (id : RequestId) : Option IoRequest :=
  (decode id).bind (lookup pool.slots)

/-- The slot of the identifier is looked up, and the request in it is edited
or leaves it. -/
def access (pool : RequestPool) (id : RequestId) (operation : Operation) :
    Except RequestError Value × RequestPool :=
  match decode id with
  | none => (.error .invalidRequest, pool)
  | some key =>
    match lookup pool.slots key with
    | none => (.error .invalidRequest, pool)
    | some request =>
      match request.perform operation with
      | .error error => (.error error, pool)
      | .ok (value, some next) =>
        (.ok value, { pool with slots := update pool.slots key fun _ => next })
      | .ok (value, none) =>
        (.ok value, ⟨remove maxIssuedGeneration .empty pool.slots key, pool.len - 1⟩)

/-! ## What has happened to a request -/

/-- The successful calls that named an identifier: what it was allocated for,
how often it was dispatched, cancelled and released unsubmitted, the results
it was completed with and whether it was cancelled before, and what was
reaped. -/
structure Account where
  allocated : List IoTarget := []
  dispatched : Nat := 0
  cancelled : Nat := 0
  completed : List (NtStatus × Nat × Bool) := []
  released : Nat := 0
  reaped : List Completion := []

def Account.record (account : Account) : Operation → Value → Account
  | .markDispatched, _ => { account with dispatched := account.dispatched + 1 }
  | .requestCancel, .cancelled won => { account with cancelled := account.cancelled + won.toNat }
  | .complete status information, _ =>
    { account with
      completed := account.completed ++ [(status, information, decide (0 < account.cancelled))] }
  | .releaseUnsubmitted, _ => { account with released := account.released + 1 }
  | .reap, .reaped completion => { account with reaped := account.reaped ++ [completion] }
  | _, _ => account

inductive Call where
  | allocate (target : IoTarget)
  | access (id : RequestId) (operation : Operation)

structure Ledger where
  pool : RequestPool
  accounts : RequestId → Account := fun _ => {}

def Ledger.step (ledger : Ledger) : Call → Option Ledger
  | .allocate target =>
    match ledger.pool.allocate target with
    | (.error _, pool) => some { ledger with pool }
    | (.ok id, pool) =>
      let account := ledger.accounts id
      some ⟨pool, Function.update ledger.accounts id
        { account with allocated := account.allocated ++ [target] }⟩
  | .access id operation =>
    match ledger.pool.access id operation with
    | (.error _, pool) => some { ledger with pool }
    | (.ok value, pool) =>
      some ⟨pool, Function.update ledger.accounts id ((ledger.accounts id).record operation value)⟩

/-- A completion is the only one of its request, and has not changed. -/
structure Account.CompletedAs (account : Account) (completion : Completion) : Prop where
  allocated : account.allocated = [completion.toIoTarget]
  completed : account.completed = [completion.outcome]
  valid : completion.Valid

/-- A live request shows what has happened to it. -/
structure Account.Tracks (account : Account) (request : IoRequest) : Prop where
  allocated : account.allocated = [request.toIoTarget]
  dispatched : account.dispatched = 0 ↔ request.state = .allocated
  cancelled : request.cancelRequested = decide (0 < account.cancelled)
  completed :
    if request.state = .completed then account.CompletedAs request.completion
    else account.completed = []

/-- An identifier is allocated once, and then live, released or reaped. -/
structure Account.Lawful (account : Account) (live : Option IoRequest) : Prop where
  unborn : account.allocated = [] → account = {}
  once : account.allocated.length ≤ 1
  freed : live.toList.length + account.released + account.reaped.length = account.allocated.length
  unsubmitted : account.released = 0 ∨ account.dispatched = 0
  reaped : ∀ completion ∈ account.reaped, account.CompletedAs completion
  live : ∀ request ∈ live, account.Tracks request

/-! ## One operation -/

variable {request next : IoRequest} {account : Account} {operation : Operation} {value : Value}

theorem Account.Tracks.lawful (tracks : account.Tracks request) (unreleased : account.released = 0)
    (unreaped : account.reaped = []) : account.Lawful (some request) where
  unborn isEmpty := by simp [tracks.allocated] at isEmpty
  once := by simp [tracks.allocated]
  freed := by simp [tracks.allocated, unreleased, unreaped]
  unsubmitted := .inl unreleased
  reaped := by simp [unreaped]
  live := by simpa using tracks

theorem Account.Lawful.live_cases (lawful : account.Lawful (some request)) :
    account.Tracks request ∧ account.released = 0 ∧ account.reaped = [] := by
  have tracks := lawful.live request rfl
  have freed := lawful.freed
  rw [tracks.allocated] at freed
  simp only [Option.toList_some, List.length_singleton] at freed
  exact ⟨tracks, by omega, List.length_eq_zero_iff.mp (by omega)⟩

theorem Account.Tracks.unfinished (tracks : account.Tracks request)
    (isOpen : request.state ≠ .completed) : account.completed = [] := by
  simpa [isOpen] using tracks.completed

theorem requireState_eq_ok {expected : RequestState} {result produced : Value × Option IoRequest}
    (required : request.requireState expected result = .ok produced) :
    request.state = expected ∧ produced = result := by
  unfold IoRequest.requireState at required
  split at required
  · next reached => exact ⟨reached, (Except.ok.inj required).symm⟩
  · cases required

variable {after : Option IoRequest}

theorem Account.Lawful.complete {status : NtStatus} {information : Nat}
    (lawful : account.Lawful (some request))
    (performed : request.complete status information = .ok (value, after)) :
    (account.record (.complete status information) value).Lawful after := by
  obtain ⟨tracks, unreleased, unreaped⟩ := lawful.live_cases
  revert performed
  fun_cases IoRequest.complete with
  | case4 submitted finished unlimited =>
    rintro ⟨⟩
    rw [not_or] at submitted
    refine Account.Tracks.lawful ?_ unreleased unreaped
    refine ⟨tracks.allocated, ?_, tracks.cancelled, ?_⟩
    · simpa [Account.record, submitted.1] using tracks.dispatched
    · refine ⟨tracks.allocated, ?_, finished, ?_⟩
      · simp [Account.record, tracks.unfinished submitted.2, Completion.outcome,
          IoRequest.completion, tracks.cancelled]
      · intro maximum isMaximum
        have allowed := Option.filter_eq_none_iff.mp unlimited maximum isMaximum
        simpa [IoRequest.completion] using allowed
  | _ => rintro ⟨⟩

/-- A dispatched request that is not completed stays so. -/
theorem Account.Tracks.edit {noted : Account} (tracks : account.Tracks request)
    (target : next.toIoTarget = request.toIoTarget)
    (isOpen : request.state ≠ .allocated ∧ request.state ≠ .completed)
    (stays : next.state ≠ .allocated ∧ next.state ≠ .completed)
    (sameAccount : noted = { account with cancelled := noted.cancelled })
    (cancelled : next.cancelRequested = decide (0 < noted.cancelled)) :
    noted.Tracks next := by
  have dispatched := tracks.dispatched
  have unfinished := tracks.unfinished isOpen.2
  rw [sameAccount]
  exact ⟨target ▸ tracks.allocated, by simpa [isOpen.1, stays.1] using dispatched,
    cancelled, by simpa [stays.2] using unfinished⟩

theorem Account.Lawful.perform (lawful : account.Lawful (some request))
    (performed : request.perform operation = .ok (value, after)) :
    (account.record operation value).Lawful after := by
  obtain ⟨tracks, unreleased, unreaped⟩ := lawful.live_cases
  cases operation with
  | markDispatched =>
    obtain ⟨isAllocated, isResult⟩ := requireState_eq_ok performed
    cases isResult
    refine Account.Tracks.lawful ?_ unreleased unreaped
    have unfinished := tracks.unfinished (by simp [isAllocated])
    exact ⟨tracks.allocated, by simp [Account.record], tracks.cancelled,
      by simpa [Account.record] using unfinished⟩
  | markPending =>
    change request.markPending = _ at performed
    revert performed
    fun_cases IoRequest.markPending with
    | case1 isDispatched =>
      rintro ⟨⟩
      exact Account.Tracks.lawful (tracks.edit rfl (by simp [isDispatched]) (by simp) rfl
        tracks.cancelled) unreleased unreaped
    | case3 isCancelled =>
      rintro ⟨⟩
      exact Account.Tracks.lawful (tracks.edit rfl (by simp [isCancelled])
        (by simp [isCancelled]) rfl tracks.cancelled) unreleased unreaped
    | _ => rintro ⟨⟩
  | requestCancel =>
    change request.requestCancel = _ at performed
    revert performed
    fun_cases IoRequest.requestCancel with
    | case1 isOpen | case2 isOpen =>
      rintro ⟨⟩
      exact Account.Tracks.lawful (tracks.edit rfl (by simp [isOpen]) (by simp) rfl
        (by simp [Account.record])) unreleased unreaped
    | case3 | case4 =>
      rintro ⟨⟩
      exact lawful
    | case5 => rintro ⟨⟩
  | complete => exact lawful.complete performed
  | releaseUnsubmitted =>
    obtain ⟨isAllocated, isResult⟩ := requireState_eq_ok performed
    cases isResult
    have undispatched := tracks.dispatched.mpr isAllocated
    refine ⟨?_, lawful.once, ?_, .inr undispatched, ?_, by simp⟩
    · simp [Account.record, tracks.allocated]
    · simp [Account.record, unreleased, unreaped, tracks.allocated]
    · simp [Account.record, unreaped]
  | reap =>
    obtain ⟨isCompleted, isResult⟩ := requireState_eq_ok performed
    cases isResult
    have isCompletion := tracks.completed
    rw [if_pos isCompleted] at isCompletion
    refine ⟨?_, lawful.once, ?_, lawful.unsubmitted, ?_, by simp⟩
    · simp [Account.record, tracks.allocated]
    · simp [Account.record, unreleased, unreaped, tracks.allocated]
    · simpa [Account.record, unreaped] using
        ⟨isCompletion.allocated, isCompletion.completed, isCompletion.valid⟩

/-! ## Runs -/

namespace Ledger

variable {ledger : Ledger}

structure Invariant (ledger : Ledger) : Prop where
  table : ∃ capacity ≤ maxRequests, WellFormed maxIssuedGeneration capacity ledger.pool.slots
  len : ledger.pool.len = liveCount ledger.pool.slots
  lawful : ∀ id, (ledger.accounts id).Lawful (ledger.pool.request id)
  spent : ∀ id, (ledger.accounts id).allocated ≠ [] →
    ledger.pool.request id = none → ∃ key, decode id = some key ∧ Spent ledger.pool.slots key

variable {key : Key}

/-- One identifier gets another account and its key another request. -/
theorem Invariant.change {pool : RequestPool} {id : RequestId} {account : Account}
    {live : Option IoRequest} (invariant : Invariant ledger)
    (table : ∃ capacity ≤ maxRequests, WellFormed maxIssuedGeneration capacity pool.slots)
    (len : pool.len = liveCount pool.slots) (decoded : decode id = some key)
    (lookups : ∀ other, lookup pool.slots other =
      if other = key then live else lookup ledger.pool.slots other)
    (later : ∀ key, Spent ledger.pool.slots key → Spent pool.slots key)
    (lawful : account.Lawful live) (spent : live = none → Spent pool.slots key) :
    Invariant ⟨pool, Function.update ledger.accounts id account⟩ := by
  have requests (other : RequestId) :
      pool.request other = Function.update ledger.pool.request id live other :=
    congrFun (find_of_lookup decodeIssued_injective decoded lookups) other
  refine ⟨table, len, ?_, ?_⟩
  · intro other
    rw [requests]
    by_cases same : other = id
    · simpa [same] using lawful
    · simpa [same] using invariant.lawful other
  · intro other allocated missing
    rw [requests] at missing
    by_cases same : other = id
    · rw [same] at missing ⊢
      exact ⟨key, decoded, spent (by simpa using missing)⟩
    · obtain ⟨otherKey, isKey, isSpent⟩ :=
        invariant.spent other (by simpa [same] using allocated) (by simpa [same] using missing)
      exact ⟨otherKey, isKey, later otherKey isSpent⟩

theorem Invariant.allocated {target : IoTarget} (invariant : Invariant ledger)
    (free : freeKey ledger.pool.slots = some key) :
    let id := encode indexBits key
    let account := ledger.accounts id
    Invariant ⟨⟨insert ledger.pool.slots key { target with }, ledger.pool.len + 1⟩,
      Function.update ledger.accounts id
        { account with allocated := account.allocated ++ [target] }⟩ := by
  intro id account
  obtain ⟨capacity, bound, wellFormed⟩ := invariant.table
  obtain ⟨_, present, _, _, generation⟩ := freeKey_eq_some free
  have decoded : decode id = some key :=
    wellFormed.decodeIssued_encode (Nat.lt_of_le_of_lt bound (by decide)) present generation
  have missing : ledger.pool.request id = none := by
    simp [request, decoded, lookup_freeKey free]
  have unborn : account = {} := by
    apply (invariant.lawful id).unborn
    by_contra born
    obtain ⟨_, isKey, spent⟩ := invariant.spent id born missing
    rw [decoded] at isKey
    cases isKey
    exact spent.freeKey_ne free
  refine invariant.change ⟨capacity, bound, wellFormed.insert free⟩
    (by rw [invariant.len, liveCount_insert free]) decoded
    (fun _ => lookup_insert free) (fun _ => Spent.insert) ?_ nofun
  rw [unborn]
  exact Account.Tracks.lawful ⟨rfl, by simp, rfl, by simp⟩ rfl rfl

theorem Invariant.lawful_of_lookup {id : RequestId} (invariant : Invariant ledger)
    (decoded : decode id = some key) (found : lookup ledger.pool.slots key = some request) :
    (ledger.accounts id).Lawful (some request) := by
  have lawful := invariant.lawful id
  rwa [RequestPool.request, decoded, Option.bind_some, found] at lawful

theorem Invariant.step {next : Ledger} {call : Call} (invariant : Invariant ledger)
    (stepped : ledger.step call = some next) : Invariant next := by
  cases call with
  | allocate target =>
    unfold Ledger.step at stepped
    simp only at stepped
    revert stepped
    fun_cases allocate ledger.pool target with
    | case5 _ _ _ key free =>
      rintro ⟨⟩
      exact invariant.allocated free
    | _ =>
      rintro ⟨⟩
      exact invariant
  | access id operation =>
    unfold Ledger.step at stepped
    simp only at stepped
    revert stepped
    fun_cases access ledger.pool id operation with
    | case4 key decoded request found value _ performed =>
      rintro ⟨⟩
      obtain ⟨capacity, bound, wellFormed⟩ := invariant.table
      have lawful := invariant.lawful_of_lookup decoded found
      exact invariant.change ⟨capacity, bound, wellFormed.update⟩
        (invariant.len.trans (liveCount_update found).symm) decoded
        (fun _ => lookup_update found) (fun _ => Spent.update) (lawful.perform performed) nofun
    | case5 key decoded request found value performed =>
      rintro ⟨⟩
      obtain ⟨capacity, bound, wellFormed⟩ := invariant.table
      have lawful := invariant.lawful_of_lookup decoded found
      exact invariant.change ⟨capacity, bound, wellFormed.remove⟩
        (by rw [invariant.len, liveCount_remove found]) decoded
        (fun _ => lookup_remove found) (fun _ => Spent.remove)
        (lawful.perform performed) (fun _ => spent_remove found)
    | _ =>
      rintro ⟨⟩
      exact invariant

theorem invariant_tryNew {capacity : Nat} {pool : RequestPool}
    (created : tryNew capacity = .ok pool) : Invariant { pool } := by
  revert created
  fun_cases tryNew with
  | case1 => rintro ⟨⟩
  | case2 admitted =>
    rintro ⟨⟩
    rw [not_or, Nat.not_lt] at admitted
    refine ⟨⟨capacity, admitted.2, wellFormed_replicate (by decide)⟩, ?_, ?_,
      fun _ allocated => absurd rfl allocated⟩
    · simp [liveCount, List.countP_replicate, Slot.fresh, Slot.accepts]
    · intro id
      rw [request, bind_lookup_replicate_fresh]
      exact ⟨fun _ => rfl, by simp, by simp, .inl rfl, by simp, by simp⟩

end Ledger

theorem access_of_request_eq_none
    {pool : RequestPool} {id : RequestId} (missing : pool.request id = none) :
    pool.access id operation = (.error .invalidRequest, pool) := by
  unfold request at missing
  fun_cases access with
  | case1 | case2 => rfl
  | _ => simp_all

/-- In every run each request is freed at most once, and an access through the
identifier of a freed one is refused. -/
theorem requests_freed_once
    {capacity : Nat} {pool : RequestPool} {calls : List Call} {final : Ledger}
    (created : tryNew capacity = .ok pool)
    (reached : exec Ledger.step { pool } calls = some final) :
    final.pool.len = liveCount final.pool.slots ∧ ∀ id,
      (final.accounts id).Lawful (final.pool.request id) ∧
      ((final.accounts id).released + (final.accounts id).reaped.length ≠ 0 →
        ∀ operation, final.pool.access id operation = (.error .invalidRequest, final.pool)) := by
  have invariant : final.Invariant :=
    invariant_of_exec (fun _ _ _ => Ledger.Invariant.step) (Ledger.invariant_tryNew created) reached
  refine ⟨invariant.len, fun id => ⟨invariant.lawful id, ?_⟩⟩
  intro freed operation
  apply access_of_request_eq_none
  have once := (invariant.lawful id).once
  have total := (invariant.lawful id).freed
  cases live : final.pool.request id with
  | none => rfl
  | some request =>
    rw [live, Option.toList_some, List.length_singleton] at total
    omega

def firstRequest : RequestId := encode indexBits ⟨0, 1⟩

/-- A read that is cancelled before it is pending, completed and reaped. -/
def cancelledRead : List Call :=
  [.allocate { IoRequest.empty with device := 257, major := .read },
    .access firstRequest .markDispatched, .access firstRequest .requestCancel,
    .access firstRequest .markPending, .access firstRequest (.complete 0xC0000120 0),
    .access firstRequest .requestCancel, .access firstRequest .reap]

theorem cancelledRead_freed_once :
    ∃ pool final, tryNew 1 = .ok pool ∧ exec Ledger.step { pool } cancelledRead = some final ∧
      (final.accounts firstRequest).reaped.length = 1 ∧
      final.pool.access firstRequest .reap = (.error .invalidRequest, final.pool) := by
  have runs :
      ∃ final, exec Ledger.step { pool := ⟨[Slot.fresh .empty], 0⟩ } cancelledRead = some final ∧
        (final.accounts firstRequest).reaped.length = 1 := by
    decide +kernel
  obtain ⟨final, reached, reaped⟩ := runs
  have freed := (requests_freed_once (show tryNew 1 = _ from rfl) reached).2 firstRequest
  exact ⟨_, final, rfl, reached, reaped, freed.2 (by omega) _⟩

end RequestPool

end Xenith.Windrv
