import Xenith.Lib.Execution
import Xenith.Lib.ListEdit
import Xenith.Lib.Word

/-!
# Creation of shared-memory objects

`SharedMemoryObject::create` and its drop.  Every load, exchange, subtraction
and frame allocation is a step, so creations interleave between any two of them.
-/

namespace Xenith.Ipc.SharedMemory

open Execution

def pageSize : Nat := 4096

def maxSharedMemoryObjectBytes : Nat := 16 * 1024 * 1024

def maxSharedMemoryGlobalBytes : Nat := 64 * 1024 * 1024

def minFreeReserveBytes : Nat := 8 * 1024 * 1024

inductive SharedMemoryError where
  | invalidLength
  | quotaExceeded
deriving DecidableEq

def validateLength (requested : Nat) : Except SharedMemoryError Nat :=
  if requested = 0 then .error .invalidLength
  else
    match checkedAdd requested (pageSize - 1) with
    | none => .error .invalidLength
    | some value =>
      let length := value - value % pageSize
      if length = 0 ∨ maxSharedMemoryObjectBytes < length then .error .quotaExceeded
      else .ok length

def physicalBudgetAllows (freeBytes promisedBytes length : Nat) : Bool :=
  decide (minFreeReserveBytes ≤ freeBytes - promisedBytes) && decide (length ≤ freeBytes / 4)

/-- `free_count().saturating_mul(PAGE_SIZE)`. -/
def freeBytes (freeFrames : Nat) : Nat :=
  min (freeFrames * pageSize) (2 ^ 64 - 1)

/-- Where a creation, and later its object, stands. -/
inductive Phase where
  | quotaLoad
  | quotaExchange (current : Nat)
  | budgetLoad
  | freeRead (current : Nat)
  | budgetExchange (current freeFrames : Nat)
  | frameTable
  | allocating (held : Nat)
  | draining (held : Nat)
  | committing
  | releasing
  | live
  | dropping (held : Nat)
  | finished
deriving DecidableEq

structure Creation where
  length : Nat
  phase : Phase
deriving DecidableEq

structure Counters where
  committed : Nat
  inFlight : Nat
  freeFrames : Nat
deriving DecidableEq

/-- One step of a creation.  `lucky` resolves what the code cannot know: a weak
exchange may fail without reason, and so may an allocation. -/
def advance (counters : Counters) (creation : Creation) (lucky : Bool) :
    Option (Counters × Phase) :=
  match creation.phase with
  | .quotaLoad => some (counters, .quotaExchange counters.committed)
  | .quotaExchange current =>
    match checkedAdd current creation.length with
    | none => some (counters, .finished)
    | some next =>
      if maxSharedMemoryGlobalBytes < next then some (counters, .finished)
      else if counters.committed = current ∧ lucky = true then
        some ({ counters with committed := next }, .budgetLoad)
      else some (counters, .quotaExchange counters.committed)
  | .budgetLoad => some (counters, .freeRead counters.inFlight)
  | .freeRead current =>
    match checkedAdd current creation.length with
    | none => some (counters, .releasing)
    | some next =>
      if physicalBudgetAllows (freeBytes counters.freeFrames) next creation.length then
        some (counters, .budgetExchange current counters.freeFrames)
      else some (counters, .releasing)
  | .budgetExchange current _ =>
    if counters.inFlight = current ∧ lucky = true then
      some ({ counters with inFlight := current + creation.length }, .frameTable)
    else some (counters, .freeRead counters.inFlight)
  | .frameTable => some (counters, if lucky then .allocating 0 else .draining 0)
  | .allocating held =>
    if lucky = false then some (counters, .draining held)
    else if counters.freeFrames = 0 then none
    else
      some ({ counters with freeFrames := counters.freeFrames - 1 },
        if (held + 1) * pageSize = creation.length then .committing
        else .allocating (held + 1))
  | .draining 0 =>
    some ({ counters with inFlight := wrappingSub counters.inFlight creation.length }, .releasing)
  | .draining (held + 1) =>
    some ({ counters with freeFrames := counters.freeFrames + 1 }, .draining held)
  | .committing =>
    some ({ counters with inFlight := wrappingSub counters.inFlight creation.length }, .live)
  | .dropping (held + 1) =>
    some ({ counters with freeFrames := counters.freeFrames + 1 }, .dropping held)
  | .releasing | .dropping 0 =>
    some ({ counters with committed := wrappingSub counters.committed creation.length }, .finished)
  | .live | .finished => none

structure State where
  counters : Counters
  creations : List Creation

inductive Label where
  | create (requested : Nat)
  | advance (index : Nat) (lucky : Bool)
  | drop (index : Nat)

def State.setPhase (state : State) (index : Nat) (creation : Creation)
    (counters : Counters) (phase : Phase) : State where
  counters := counters
  creations := state.creations.set index { creation with phase := phase }

def step (state : State) : Label → Option State
  | .create requested =>
    match validateLength requested with
    | .error _ => some state
    | .ok length => some { state with creations := state.creations ++ [⟨length, .quotaLoad⟩] }
  | .advance index lucky =>
    state.creations[index]?.bind fun creation =>
      (advance state.counters creation lucky).map fun advanced =>
        state.setPhase index creation advanced.1 advanced.2
  | .drop index =>
    state.creations[index]?.bind fun creation =>
      if creation.phase = .live then
        some (state.setPhase index creation state.counters (.dropping (creation.length / pageSize)))
      else none

/-! ## What a creation accounts for -/

namespace Creation

/-- Its length from the quota reservation to the end. -/
def charged (creation : Creation) : Nat :=
  match creation.phase with
  | .quotaLoad | .quotaExchange _ | .finished => 0
  | _ => creation.length

/-- Its length while it is in flight. -/
def promised (creation : Creation) : Nat :=
  match creation.phase with
  | .frameTable | .allocating _ | .draining _ | .committing => creation.length
  | _ => 0

/-- The bytes it has been granted and does not hold. -/
def owed (creation : Creation) : Nat :=
  match creation.phase with
  | .frameTable => creation.length
  | .allocating held | .draining held => creation.length - held * pageSize
  | _ => 0

structure WellFormed (creation : Creation) : Prop where
  pages : creation.length % pageSize = 0
  nonempty : 0 < creation.length
  allocating : ∀ held, creation.phase = .allocating held → held * pageSize < creation.length
  draining : ∀ held, creation.phase = .draining held → held * pageSize ≤ creation.length
  budget : ∀ current freeFrames, creation.phase = .budgetExchange current freeFrames →
    minFreeReserveBytes + (current + creation.length) ≤ freeFrames * pageSize

end Creation

open Creation

def State.total (state : State) (part : Creation → Nat) : Nat :=
  (state.creations.map part).sum

/-- The free memory without what creations in flight may still take is at
least the reserve. -/
def State.Floor (state : State) : Prop :=
  minFreeReserveBytes + state.total owed ≤ state.counters.freeFrames * pageSize

structure State.Accounted (state : State) : Prop where
  wellFormed : ∀ creation ∈ state.creations, creation.WellFormed
  committed : state.counters.committed = state.total charged
  inFlight : state.counters.inFlight = state.total promised
  quota : state.counters.committed ≤ maxSharedMemoryGlobalBytes

/-- No creation is under way, and the reserve is free. -/
structure State.Quiet (state : State) : Prop where
  live : ∀ creation ∈ state.creations,
    creation.phase = .live ∧ 0 < creation.length ∧ creation.length % pageSize = 0
  committed : state.counters.committed = state.total charged
  inFlight : state.counters.inFlight = 0
  quota : state.counters.committed ≤ maxSharedMemoryGlobalBytes
  reserve : minFreeReserveBytes ≤ state.counters.freeFrames * pageSize

/-- An exchange of the in-flight counter succeeds only while at least as many
frames are free as its creator has read. -/
def fresh (state : State) : Label → Bool
  | .advance index lucky =>
    match state.creations[index]?.map Creation.phase with
    | some (.budgetExchange current freeFrames) =>
      !decide (state.counters.inFlight = current ∧ lucky = true) ||
        decide (freeFrames ≤ state.counters.freeFrames)
    | _ => true
  | _ => true

/-! ## What a step conserves -/

theorem wellFormed_of_validateLength {requested length : Nat}
    (valid : validateLength requested = .ok length) :
    WellFormed ⟨length, .quotaLoad⟩ := by
  unfold validateLength at valid
  split at valid
  · cases valid
  split at valid
  · cases valid
  simp only at valid
  split at valid
  · cases valid
  rename_i value _ bounded
  cases valid
  refine ⟨?_, by simp only; omega, nofun, nofun, nofun⟩
  exact Nat.mod_eq_zero_of_dvd (Nat.dvd_sub_mod value)

section Advance

variable {counters next : Counters} {creation : Creation} {lucky : Bool} {phase : Phase}

theorem budget_of_allows {freeFrames promised length : Nat}
    (allowed : physicalBudgetAllows (freeBytes freeFrames) promised length = true) :
    minFreeReserveBytes + promised ≤ freeFrames * pageSize := by
  simp only [physicalBudgetAllows, Bool.and_eq_true, decide_eq_true_eq] at allowed
  have atMost : freeBytes freeFrames ≤ freeFrames * pageSize := Nat.min_le_left ..
  have reserve : 0 < minFreeReserveBytes := by decide
  omega

theorem wellFormed_advance (wellFormed : creation.WellFormed)
    (taken : advance counters creation lucky = some (next, phase)) :
    WellFormed { creation with phase := phase } := by
  obtain ⟨pages, nonempty, _, _, _⟩ := wellFormed
  refine ⟨pages, nonempty, ?_, ?_, ?_⟩
  all_goals unfold advance at taken
  all_goals grind [pageSize, → budget_of_allows, → checkedAdd_eq_some]

/-- A step moves what the counters record along with the creation. -/
theorem counters_advance (quota : counters.committed ≤ maxSharedMemoryGlobalBytes)
    (charged : creation.charged ≤ counters.committed)
    (promised : creation.promised ≤ counters.inFlight)
    (inFlight : counters.inFlight ≤ counters.committed)
    (taken : advance counters creation lucky = some (next, phase)) :
    next.committed + creation.charged =
        counters.committed + Creation.charged { creation with phase := phase } ∧
      next.inFlight + creation.promised =
        counters.inFlight + Creation.promised { creation with phase := phase } ∧
      next.committed ≤ maxSharedMemoryGlobalBytes := by
  have word : counters.committed < 2 ^ 64 := Nat.lt_of_le_of_lt quota (by decide)
  unfold Creation.charged Creation.promised at *
  unfold advance at taken
  split at taken
  all_goals grind [→ checkedAdd_eq_some, wrappingSub_eq]

/-- Every step but a grant keeps the free memory above what is owed. -/
theorem owed_advance (wellFormed : creation.WellFormed)
    (taken : advance counters creation lucky = some (next, phase)) :
    counters.freeFrames * pageSize + owed { creation with phase := phase } ≤
      next.freeFrames * pageSize + creation.owed ∨
    ∃ current freeFrames, creation.phase = .budgetExchange current freeFrames ∧
      counters.inFlight = current ∧ lucky = true ∧
      next.freeFrames = counters.freeFrames ∧ phase = .frameTable := by
  obtain ⟨_, _, _, _, _⟩ := wellFormed
  unfold pageSize owed at *
  unfold advance at taken
  split at taken
  all_goals grind [pageSize]

end Advance

/-! ## Whole runs -/

namespace State

variable {state next : State} {label : Label} {index : Nat} {creation : Creation}

theorem total_setPhase (part : Creation → Nat) (counters : Counters)
    (phase : Phase) (found : state.creations[index]? = some creation) :
    (state.setPhase index creation counters phase).total part + part creation =
      state.total part + part { creation with phase := phase } :=
  ListEdit.sum_map_set part _ found

theorem total_append (part : Creation → Nat) :
    total { state with creations := state.creations ++ [creation] } part =
      state.total part + part creation := by
  simp [total]

theorem total_mono {part other : Creation → Nat}
    (ordered : ∀ creation, part creation ≤ other creation) :
    state.total part ≤ state.total other :=
  List.sum_le_sum fun creation _ => ordered creation

theorem promised_le_charged (creation : Creation) : creation.promised ≤ creation.charged := by
  unfold promised charged
  grind

theorem owed_le_promised (creation : Creation) : creation.owed ≤ creation.promised := by
  unfold owed promised
  grind

theorem Accounted.setPhase (accounted : state.Accounted)
    {counters : Counters} {phase : Phase} (found : state.creations[index]? = some creation)
    (wellFormed : WellFormed { creation with phase := phase })
    (committed : counters.committed + creation.charged =
      state.counters.committed + charged { creation with phase := phase })
    (inFlight : counters.inFlight + creation.promised =
      state.counters.inFlight + promised { creation with phase := phase })
    (quota : counters.committed ≤ maxSharedMemoryGlobalBytes) :
    (state.setPhase index creation counters phase).Accounted where
  wellFormed := by
    intro other member
    rcases List.mem_or_eq_of_mem_set member with before | rfl
    · exact accounted.wellFormed other before
    · exact wellFormed
  committed := by
    have total := total_setPhase charged counters phase found
    rw [← accounted.committed] at total
    exact Nat.add_right_cancel (committed.trans total.symm)
  inFlight := by
    have total := total_setPhase promised counters phase found
    rw [← accounted.inFlight] at total
    exact Nat.add_right_cancel (inFlight.trans total.symm)
  quota := quota

theorem Accounted.step (accounted : state.Accounted)
    (taken : step state label = some next) : next.Accounted := by
  cases label with
  | create =>
    simp only [SharedMemory.step] at taken
    split at taken
    · cases taken
      exact accounted
    · rename_i length valid
      cases taken
      refine ⟨?_, ?_, ?_, accounted.quota⟩
      · exact List.forall_mem_append.mpr ⟨accounted.wellFormed,
          List.forall_mem_singleton.mpr (wellFormed_of_validateLength valid)⟩
      · rw [total_append]
        exact accounted.committed
      · rw [total_append]
        exact accounted.inFlight
  | advance index =>
    obtain ⟨creation, found, later⟩ := Option.bind_eq_some_iff.mp taken
    obtain ⟨⟨counters, _⟩, advanced, rfl⟩ := Option.map_eq_some_iff.mp later
    have member := List.mem_of_getElem? found
    have ordered : state.counters.inFlight ≤ state.counters.committed := by
      rw [accounted.inFlight, accounted.committed]
      exact total_mono promised_le_charged
    obtain ⟨committed, inFlight, quota⟩ := counters_advance accounted.quota
      (accounted.committed ▸ ListEdit.le_sum_map _ member)
      (accounted.inFlight ▸ ListEdit.le_sum_map _ member) ordered advanced
    exact accounted.setPhase found
      (wellFormed_advance (accounted.wellFormed creation member) advanced) committed inFlight quota
  | drop index =>
    obtain ⟨creation, found, later⟩ := Option.bind_eq_some_iff.mp taken
    split at later
    · rename_i isLive
      cases later
      have wellFormed := accounted.wellFormed creation (List.mem_of_getElem? found)
      refine accounted.setPhase found
        ⟨wellFormed.pages, wellFormed.nonempty, nofun, nofun, nofun⟩ ?_ ?_ accounted.quota
      · simp [charged, isLive]
      · simp [promised, isLive]
    · cases later

theorem Floor.step (floor : state.Floor) (accounted : state.Accounted)
    (isFresh : fresh state label = true) (taken : step state label = some next) : next.Floor := by
  unfold Floor at *
  cases label with
  | create =>
    simp only [SharedMemory.step] at taken
    split at taken
    · cases taken
      exact floor
    · cases taken
      rw [total_append]
      exact floor
  | advance index =>
    obtain ⟨creation, found, later⟩ := Option.bind_eq_some_iff.mp taken
    obtain ⟨⟨counters, phase⟩, advanced, rfl⟩ := Option.map_eq_some_iff.mp later
    have wellFormed := accounted.wellFormed creation (List.mem_of_getElem? found)
    have total := total_setPhase owed counters phase found
    rcases owed_advance wellFormed advanced with
      kept | ⟨current, freeFrames, isPhase, isCurrent, isLucky, same, rfl⟩
    · simp only [setPhase] at total ⊢
      omega
    -- The grant: what was owed before is at most the counter it saw.
    · have budget := wellFormed.budget current freeFrames isPhase
      have owed : state.total owed ≤ current := by
        rw [← isCurrent, accounted.inFlight]
        exact total_mono owed_le_promised
      have read : freeFrames ≤ state.counters.freeFrames := by
        simpa [fresh, found, isPhase, isCurrent, isLucky] using isFresh
      have none : creation.owed = 0 := by simp [Creation.owed, isPhase]
      have granted : Creation.owed { creation with phase := .frameTable } = creation.length := rfl
      have free := Nat.mul_le_mul_right pageSize read
      rw [none, granted] at total
      simp only [setPhase] at total ⊢
      rw [same]
      omega
  | drop index =>
    obtain ⟨creation, found, later⟩ := Option.bind_eq_some_iff.mp taken
    split at later
    · rename_i isLive
      cases later
      have total :=
        total_setPhase owed state.counters (.dropping (creation.length / pageSize)) found
      simp only [owed] at total
      simp only [setPhase] at total ⊢
      omega
    · cases later

theorem Quiet.accounted (quiet : state.Quiet) : state.Accounted where
  wellFormed := by
    intro creation member
    obtain ⟨isLive, nonempty, pages⟩ := quiet.live creation member
    exact ⟨pages, nonempty, by simp [isLive], by simp [isLive], by simp [isLive]⟩
  committed := quiet.committed
  inFlight := by
    rw [quiet.inFlight, eq_comm, total, List.sum_eq_zero_iff]
    intro part member
    obtain ⟨creation, isCreation, rfl⟩ := List.mem_map.mp member
    simp [promised, (quiet.live creation isCreation).1]
  quota := quiet.quota

theorem Quiet.floor (quiet : state.Quiet) : state.Floor := by
  have owed : state.total owed ≤ state.total promised := total_mono owed_le_promised
  rw [← quiet.accounted.inFlight, quiet.inFlight] at owed
  have reserve := quiet.reserve
  unfold Floor
  omega

end State

/-- The committed counter is exact in every run, and the reserve stays free in
every run whose grants rest on a free count that still holds. -/
theorem shared_memory_keeps_reserve
    {start final : State} {labels : List Label} (quiet : start.Quiet)
    (reached : exec step start labels = some final) :
    final.counters.committed = final.total charged ∧
      final.counters.committed ≤ maxSharedMemoryGlobalBytes ∧
      (Guarded step (fun state label => fresh state label = true) start labels → final.Floor) := by
  have accounted : final.Accounted := invariant_of_exec
    (fun _ _ _ accounted taken => accounted.step taken) quiet.accounted reached
  refine ⟨accounted.committed, accounted.quota, fun guarded => ?_⟩
  exact
    (invariant_of_guarded
      (fun _ _ _ (kept : State.Accounted _ ∧ State.Floor _) isFresh taken =>
        ⟨kept.1.step taken, kept.2.step kept.1 isFresh taken⟩)
      ⟨quiet.accounted, quiet.floor⟩ guarded reached).2

def scarce : State where
  counters := ⟨0, 0, 2049⟩
  creations := []

theorem scarce_quiet : scarce.Quiet where
  live := by simp [scarce]
  committed := rfl
  inFlight := rfl
  quota := by decide
  reserve := by decide

/-- The steps of one creation of a page up to its object. -/
def pageCreation (index : Nat) : List Label :=
  List.replicate 8 (.advance index true)

theorem pageCreation_keeps_reserve :
    ∃ final, exec step scarce (.create 1 :: pageCreation 0) = some final ∧
      final.counters.committed = pageSize ∧ final.Floor := by
  refine exists_reached (by decide +kernel) fun final reached => ?_
  have guarded :
      Guarded step (fun state label => fresh state label = true)
        scarce (.create 1 :: pageCreation 0) := by
    decide +kernel
  exact ⟨of_reached reached (by decide +kernel),
    (shared_memory_keeps_reserve scarce_quiet reached).2.2 guarded⟩

/-- A creator reads the free count, another creates its object and takes the
in-flight counter back to zero, and the exchange of the first succeeds. -/
def staleRun : List Label :=
  .create 1 :: List.replicate 4 (.advance 0 true) ++
    .create 1 :: pageCreation 1 ++ [.advance 0 true]

theorem stale_grant_breaks_reserve :
    scarce.Quiet ∧ ∃ final, exec step scarce staleRun = some final ∧ ¬ final.Floor := by
  refine ⟨scarce_quiet, exists_reached (by decide +kernel) fun final reached => ?_⟩
  have free : final.counters.freeFrames = 2048 := of_reached reached (by decide +kernel)
  have owed : final.total owed = 4096 := of_reached reached (by decide +kernel)
  rw [State.Floor, free, owed]
  decide

end Xenith.Ipc.SharedMemory
