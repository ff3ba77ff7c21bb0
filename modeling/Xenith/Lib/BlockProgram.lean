import Xenith.Lib.Execution

/-!
# Programs over a block device

A crash keeps any of the writes that no flush has made durable yet.  The rules
are those of a logic with a crash condition, which holds of the disk at every
point of an execution.
-/

namespace Xenith.BlockProgram

universe u v w

variable {Block : Type u} {Result : Type v} {Other : Type w}

abbrev Image (Block : Type u) := Nat → Block

def store (image : Image Block) (change : Nat × Block) : Image Block :=
  Function.update image change.1 change.2

def storeAll (image : Image Block) (changes : List (Nat × Block)) : Image Block :=
  changes.foldl store image

structure Disk (Block : Type u) where
  durable : Image Block
  pending : List (Nat × Block) := []

namespace Disk

/-- What a read sees. -/
def view (disk : Disk Block) : Image Block :=
  storeAll disk.durable disk.pending

def write (disk : Disk Block) (block : Nat) (data : Block) : Disk Block :=
  { disk with pending := disk.pending ++ [(block, data)] }

def writes (disk : Disk Block) (changes : List (Nat × Block)) : Disk Block :=
  { disk with pending := disk.pending ++ changes }

def flush (disk : Disk Block) : Disk Block :=
  { durable := disk.view }

/-- An image that a crash may leave: some of the pending writes took place. -/
def Crash (disk : Disk Block) (image : Image Block) : Prop :=
  ∃ kept, kept.Sublist disk.pending ∧ image = storeAll disk.durable kept

end Disk

@[simp]
theorem store_self (image : Image Block) (block : Nat) (data : Block) :
    store image (block, data) block = data :=
  Function.update_self ..

variable {image : Image Block} {block : Nat} {changes : List (Nat × Block)}

theorem store_of_ne {change : Nat × Block}
    (different : block ≠ change.1) : store image change block = image block :=
  Function.update_of_ne different ..

theorem storeAll_append (image : Image Block) (first second : List (Nat × Block)) :
    storeAll image (first ++ second) = storeAll (storeAll image first) second :=
  List.foldl_append

/-- A block holds the same after the same writes if it is written or held the
same before. -/
theorem storeAll_congr {first second : Image Block}
    (agree : block ∈ changes.map Prod.fst ∨ first block = second block) :
    storeAll first changes block = storeAll second changes block := by
  induction changes generalizing first second with
  | nil =>
    rcases agree with member | same
    · cases member
    · exact same
  | cons change _ ih =>
    apply ih
    by_cases here : block = change.1
    · refine Or.inr ?_
      rw [here]
      exact (store_self ..).trans (store_self ..).symm
    · rcases agree with member | same
      · exact Or.inl (List.mem_of_ne_of_mem here member)
      · refine Or.inr ?_
        rw [store_of_ne here, store_of_ne here, same]

theorem storeAll_induction (property : Image Block → Prop)
    (kept : ∀ change ∈ changes, ∀ image, property image → property (store image change))
    (initially : property image) :
    property (storeAll image changes) := by
  induction changes generalizing image with
  | nil => exact initially
  | cons change _ ih =>
    apply ih
    · intro other member
      exact kept other (List.mem_cons_of_mem _ member)
    · exact kept change (List.mem_cons_self ..) image initially

theorem storeAll_of_not_mem (untouched : ∀ change ∈ changes, change.1 ≠ block) :
    storeAll image changes block = image block := by
  apply storeAll_induction fun other => other block = image block
  · intro change member other same
    rw [store_of_ne (untouched change member).symm, same]
  · rfl

theorem storeAll_of_mem
    (distinct : (changes.map Prod.fst).Nodup) {data : Block} (member : (block, data) ∈ changes) :
    storeAll image changes block = data := by
  obtain ⟨_, back, rfl⟩ := List.append_of_mem member
  have different : ∀ change ∈ back, change.1 ≠ block := by
    intro change inBack same
    rw [List.map_append, List.nodup_append] at distinct
    have fresh := (List.nodup_cons.mp distinct.2.1).1
    apply fresh
    exact List.mem_map.mpr ⟨change, inBack, same⟩
  rw [storeAll_append]
  exact (storeAll_of_not_mem different).trans (store_self ..)

namespace Disk

variable {disk : Disk Block} {property : Image Block → Prop}

/-- Whatever a crash keeps, a property survives that every pending write
keeps. -/
theorem Crash.induction (crash : disk.Crash image) (durable : property disk.durable)
    (kept : ∀ change ∈ disk.pending, ∀ other, property other → property (store other change)) :
    property image := by
  obtain ⟨_, sublist, rfl⟩ := crash
  apply storeAll_induction property _ durable
  intro change member
  exact kept change (sublist.subset member)

theorem crash_of_settled (settled : disk.pending = [])
    (crash : disk.Crash image) : image = disk.durable := by
  obtain ⟨_, sublist, rfl⟩ := crash
  rw [settled, List.sublist_nil] at sublist
  rw [sublist]
  rfl

theorem forall_crash_of_settled (settled : disk.pending = []) (durable : property disk.durable) :
    ∀ image, disk.Crash image → property image := by
  intro image crash
  rw [crash_of_settled settled crash]
  exact durable

theorem flush_write (settled : disk.pending = []) (block : Nat) (data : Block) :
    (disk.write block data).flush = ⟨store disk.durable (block, data), []⟩ := by
  simp [flush, view, write, settled, storeAll]

theorem crash_of_single
    {change : Nat × Block} (single : disk.pending = [change]) (crash : disk.Crash image) :
    image = disk.durable ∨ image = store disk.durable change := by
  obtain ⟨_, sublist, rfl⟩ := crash
  rw [single, List.sublist_singleton] at sublist
  rcases sublist with rfl | rfl
  · exact Or.inl rfl
  · exact Or.inr rfl

theorem view_writes (disk : Disk Block) (changes : List (Nat × Block)) :
    (disk.writes changes).view = storeAll disk.view changes :=
  storeAll_append ..

theorem writes_write
    (disk : Disk Block) (block : Nat) (data : Block) (changes : List (Nat × Block)) :
    (disk.write block data).writes changes = disk.writes ((block, data) :: changes) := by
  simp [writes, write]

theorem writes_nil (disk : Disk Block) : disk.writes [] = disk := by
  simp [writes]

theorem crash_durable (disk : Disk Block) : disk.Crash disk.durable :=
  ⟨[], List.nil_sublist _, rfl⟩

theorem crash_view (disk : Disk Block) : disk.Crash disk.view :=
  ⟨disk.pending, List.Sublist.refl _, rfl⟩

end Disk

/-- The continuation of a write or a flush learns whether it succeeded. -/
inductive Program (Block : Type u) (Result : Type v) where
  | done (result : Result)
  | read (block : Nat) (next : Block → Program Block Result)
  | write (block : Nat) (data : Block) (next : Bool → Program Block Result)
  | flush (next : Bool → Program Block Result)

/-- How the device answers.  A write that fails, a short one too, leaves its block
as it was or writes all of it. -/
inductive Outcome where
  | completed
  | failed
  | failedWritten
deriving DecidableEq, Repr

namespace Program

def bind : Program Block Result → (Result → Program Block Other) → Program Block Other
  | done result, next => next result
  | read block rest, next => read block fun data => (rest data).bind next
  | write block data rest, next => write block data fun succeeded => (rest succeeded).bind next
  | flush rest, next => flush fun succeeded => (rest succeeded).bind next

def step : Disk Block × Program Block Result → Outcome → Option (Disk Block × Program Block Result)
  | (_, done _), _ => none
  | (disk, read block next), .completed => some (disk, next (disk.view block))
  | (_, read _ _), _ => none
  | (disk, write block data next), .completed => some (disk.write block data, next true)
  | (disk, write _ _ next), .failed => some (disk, next false)
  | (disk, write block data next), .failedWritten => some (disk.write block data, next false)
  | (disk, flush next), .completed => some (disk.flush, next true)
  | (disk, flush next), .failed => some (disk, next false)
  | (_, flush _), .failedWritten => none

/-- The whole program on a device without errors. -/
def run : Program Block Result → Disk Block → Result × Disk Block
  | done result, disk => (result, disk)
  | read block next, disk => (next (disk.view block)).run disk
  | write block data next, disk => (next true).run (disk.write block data)
  | flush next, disk => (next true).run disk.flush

/-- The disk meets `crash` throughout and `post` at the end, if device errors
happen only when `faulty`. -/
def Meets (faulty : Prop) (crash : Disk Block → Prop) (post : Result → Disk Block → Prop) :
    Program Block Result → Disk Block → Prop
  | done result, disk => crash disk ∧ post result disk
  | read block next, disk => crash disk ∧ (next (disk.view block)).Meets faulty crash post disk
  | write block data next, disk =>
    crash disk ∧
      (next true).Meets faulty crash post (disk.write block data) ∧
      (faulty → (next false).Meets faulty crash post disk ∧
        (next false).Meets faulty crash post (disk.write block data))
  | flush next, disk =>
    crash disk ∧ (next true).Meets faulty crash post disk.flush ∧
      (faulty → (next false).Meets faulty crash post disk)

variable {faulty : Prop} {crash : Disk Block → Prop} {post : Result → Disk Block → Prop}
variable {program : Program Block Result} {disk : Disk Block}

theorem Meets.crashes (meets : program.Meets faulty crash post disk) : crash disk := by
  cases program with
  | done => exact meets.1
  | read block next => exact meets.1
  | write block _ next => exact meets.1
  | flush next => exact meets.1

theorem Meets.bind {next : Result → Program Block Other} {final : Other → Disk Block → Prop}
    (meets : program.Meets faulty crash
      (fun result disk => (next result).Meets faulty crash final disk) disk) :
    (program.bind next).Meets faulty crash final disk := by
  induction program generalizing disk with
  | done result => exact meets.2
  | read block rest ih => exact ⟨meets.1, ih _ meets.2⟩
  | write block _ rest ih =>
    obtain ⟨crashes, succeeded, failed⟩ := meets
    refine ⟨crashes, ih _ succeeded, ?_⟩
    intro isFaulty
    exact ⟨ih _ (failed isFaulty).1, ih _ (failed isFaulty).2⟩
  | flush rest ih =>
    obtain ⟨crashes, succeeded, failed⟩ := meets
    refine ⟨crashes, ih _ succeeded, ?_⟩
    intro isFaulty
    exact ih _ (failed isFaulty)

section Meets

variable (meets : program.Meets faulty crash post disk)

include meets

theorem Meets.mono {stronger : Disk Block → Prop} {weaker : Result → Disk Block → Prop}
    (weakenCrash : ∀ disk, crash disk → stronger disk)
    (weakenPost : ∀ result disk, crash disk → post result disk → weaker result disk) :
    program.Meets faulty stronger weaker disk := by
  induction program generalizing disk with
  | done result => exact ⟨weakenCrash _ meets.1, weakenPost _ _ meets.1 meets.2⟩
  | read block next ih => exact ⟨weakenCrash _ meets.1, ih _ meets.2⟩
  | write block _ next ih =>
    obtain ⟨crashes, succeeded, failed⟩ := meets
    refine ⟨weakenCrash _ crashes, ih _ succeeded, ?_⟩
    intro isFaulty
    exact ⟨ih _ (failed isFaulty).1, ih _ (failed isFaulty).2⟩
  | flush next ih =>
    obtain ⟨crashes, succeeded, failed⟩ := meets
    refine ⟨weakenCrash _ crashes, ih _ succeeded, ?_⟩
    intro isFaulty
    exact ih _ (failed isFaulty)

variable {after : Disk Block × Program Block Result}

theorem Meets.step {outcome : Outcome} (healthy : outcome ≠ .completed → faulty)
    (taken : Program.step (disk, program) outcome = some after) :
    after.2.Meets faulty crash post after.1 := by
  cases program with
  | done => cases taken
  | read block next =>
    cases outcome with
    | completed =>
      cases taken
      exact meets.2
    | failed => cases taken
    | failedWritten => cases taken
  | write block _ next =>
    cases outcome with
    | completed =>
      cases taken
      exact meets.2.1
    | failed =>
      cases taken
      exact (meets.2.2 (healthy (by decide))).1
    | failedWritten =>
      cases taken
      exact (meets.2.2 (healthy (by decide))).2
  | flush next =>
    cases outcome with
    | completed =>
      cases taken
      exact meets.2.1
    | failed =>
      cases taken
      exact meets.2.2 (healthy (by decide))
    | failedWritten => cases taken

/-- Soundness for the executions of a program. -/
theorem Meets.exec {outcomes : List Outcome}
    (healthy : ∀ outcome ∈ outcomes, outcome ≠ .completed → faulty)
    (reached : Execution.exec Program.step (disk, program) outcomes = some after) :
    after.2.Meets faulty crash post after.1 := by
  let holds (state : Disk Block × Program Block Result) : Prop :=
    state.2.Meets faulty crash post state.1
  have initially : holds (disk, program) := meets
  change holds after
  refine Execution.invariant_of_guarded ?_ initially (Execution.Guarded.of_labels healthy) reached
  intro state outcome next meets isHealthy taken
  exact Meets.step meets isHealthy taken

/-- Soundness for the run on a device without errors. -/
theorem Meets.run : post (program.run disk).1 (program.run disk).2 := by
  induction program generalizing disk with
  | done => exact meets.2
  | read block next ih => exact ih _ meets.2
  | write block _ next ih => exact ih _ meets.2.1
  | flush next ih => exact ih _ meets.2.1

end Meets

/-- The run on a device without errors is an execution. -/
theorem exec_run (program : Program Block Result) (disk : Disk Block) :
    ∃ count, Execution.exec Program.step (disk, program) (List.replicate count Outcome.completed) =
      some ((program.run disk).2, done (program.run disk).1) := by
  induction program generalizing disk with
  | done => exact ⟨0, rfl⟩
  | read block next ih =>
    obtain ⟨count, reached⟩ := ih (disk.view block) disk
    exact ⟨count + 1, reached⟩
  | write block data next ih =>
    obtain ⟨count, reached⟩ := ih true (disk.write block data)
    exact ⟨count + 1, reached⟩
  | flush next ih =>
    obtain ⟨count, reached⟩ := ih true disk.flush
    exact ⟨count + 1, reached⟩

end Program

end Xenith.BlockProgram
