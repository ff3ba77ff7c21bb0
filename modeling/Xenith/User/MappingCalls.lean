import Xenith.Lib.Execution
import Xenith.Lib.Fallible
import Xenith.User.MappingPlacement

/-!
# Mapping calls

The calls of `kernel/src/user/process.rs` that change the regions of a process.
What the page tables answer is part of a call, with the pages owned afterwards.
-/

namespace Xenith.User

open Xenith.Mm
open Fallible

def maxAnonymousMapping : Nat := 256 * 1024 * 1024

def maxDynamicMappingTotal : Nat := 1024 * 1024 * 1024

variable {Object : Type}

section Calls

variable (process : UserProcess Object)

def validateDynamicMappingBudget (length : Nat) : Except VmError Unit := do
  let total ← expect (process.vmRegions.foldlM
    (fun total region => checkedAdd total (region.stop - region.start)) 0) .outOfMemory
  let newTotal ← expect (checkedAdd total length) .outOfMemory
  require (newTotal ≤ maxDynamicMappingTotal) .outOfMemory

def insertRegion (region : VmRegion Object) : List (VmRegion Object) :=
  (process.vmRegions ++ [region]).mergeSort fun left right => decide (left.start ≤ right.start)

/-- What the two mapping calls share. -/
def mapRegion (addressHint length : Nat) (protection : VmProtection)
    (backing : VmBacking Object) (mapped : Except VmError (List Page)) :
    Except VmError (UserProcess Object) := do
  validateDynamicMappingBudget process length
  let start ← selectMappingAddress process addressHint length
  let pages ← mapped
  pure ⟨pages, insertRegion process ⟨start, start + length, protection, backing⟩, start + length⟩

def mapAnonymous (addressHint length : Nat) (protection : VmProtection)
    (mapped : Except VmError (List Page)) : Except VmError (UserProcess Object) := do
  let length ← expect (alignPageUp length) .invalidRange
  require (length ≠ 0) .invalidRange
  require (length ≤ maxAnonymousMapping) .outOfMemory
  mapRegion process addressHint length protection .anonymousPrivate mapped

def validateSharedMappingRequest (objectLength objectOffset requestedLength : Nat)
    (protection : VmProtection) : Except VmError Nat := do
  require (protection.executable = false) .permissionDenied
  require (objectOffset % pageSize = 0) .invalidRange
  let length ← expect (alignPageUp requestedLength) .invalidRange
  require (length ≠ 0) .invalidRange
  let objectEnd ← expect (checkedAdd objectOffset length) .invalidRange
  require (objectEnd ≤ objectLength) .invalidRange
  pure length

def mapShared (objectLen : Object → Nat) (addressHint length objectOffset : Nat)
    (protection : VmProtection) (writableAllowed : Bool) (object : Object)
    (mapped : Except VmError (List Page)) : Except VmError (UserProcess Object) := do
  require (protection.writable = true → writableAllowed = true) .permissionDenied
  let length ← validateSharedMappingRequest (objectLen object) objectOffset length protection
  mapRegion process addressHint length protection
    (.shared object objectOffset writableAllowed) mapped

/-- The end of a range that `mprotect` or `munmap` accepts. -/
def dynamicEnd (address length : Nat) : Except VmError Nat := do
  require (address % pageSize = 0) .invalidRange
  let length ← expect (alignPageUp length) .invalidRange
  require (length ≠ 0) .invalidRange
  let stop ← expect (checkedAdd address length) .invalidRange
  require (stop ≤ dynamicLimit ∧ rangeCoveredByRegions process.vmRegions address stop = true)
    .notOwned
  pure stop

def sharedProtectionAllowed (writableAllowed : Bool) (protection : VmProtection) : Bool :=
  !protection.executable && (!protection.writable || writableAllowed)

def VmBacking.allows (protection : VmProtection) : VmBacking Object → Bool
  | .anonymousPrivate => true
  | .shared _ _ writableAllowed => sharedProtectionAllowed writableAllowed protection

def protectDynamic (address length : Nat) (protection : VmProtection) (reserve : Bool)
    (changed : Except VmError Unit) : Except VmError (UserProcess Object) := do
  let stop ← dynamicEnd process address length
  require (∀ region ∈ process.vmRegions, region.start < stop → address < region.stop →
    region.backing.allows protection = true) .permissionDenied
  let updated ← buildProtectedRegions process.vmRegions address stop protection reserve
  changed
  pure { process with vmRegions := updated }

def unmapDynamic (address length : Nat) (reserve : Bool)
    (unmapped : Except VmError (List Page)) : Except VmError (UserProcess Object) := do
  let stop ← dynamicEnd process address length
  let updated ← buildRemainingRegions process.vmRegions address stop reserve
  let pages ← unmapped
  pure ⟨pages, updated, min process.mmapHint (max address mmapBase)⟩

end Calls

/-- The program break changes the owned pages only. -/
inductive IsCall (objectLen : Object → Nat) :
    (UserProcess Object → Except VmError (UserProcess Object)) → Prop
  | mapAnonymous addressHint length protection mapped :
    IsCall objectLen (mapAnonymous · addressHint length protection mapped)
  | mapShared addressHint length objectOffset protection writableAllowed object mapped :
    IsCall objectLen (mapShared · objectLen addressHint length objectOffset protection
      writableAllowed object mapped)
  | protect address length protection reserve changed :
    IsCall objectLen (protectDynamic · address length protection reserve changed)
  | unmap address length reserve unmapped :
    IsCall objectLen (unmapDynamic · address length reserve unmapped)
  | setBreak pages : IsCall objectLen fun process => .ok { process with pages := pages }

/-- Inside of the shared object, and within the rights of its descriptor. -/
def VmBacking.Within (objectLen : Object → Nat) (length : Nat) (protection : VmProtection) :
    VmBacking Object → Prop
  | .anonymousPrivate => True
  | .shared object objectOffset writableAllowed =>
    objectOffset + length ≤ objectLen object ∧
      sharedProtectionAllowed writableAllowed protection = true

structure Confined (objectLen : Object → Nat) (regions : List (VmRegion Object)) : Prop where
  wellFormed : WellFormed regions
  area : ∀ region ∈ regions, userImageMin ≤ region.start ∧ region.stop ≤ dynamicLimit
  within : ∀ region ∈ regions,
    region.backing.Within objectLen (region.stop - region.start) region.protection

section Confined

variable {objectLen : Object → Nat} {process next : UserProcess Object}
variable {addressHint length start address stop : Nat} {change : Option VmProtection}
variable {protection : VmProtection} {backing : VmBacking Object} {region : VmRegion Object}

theorem fits_of_selected (positive : 0 < length)
    (selected : selectMappingAddress process addressHint length = .ok start) :
    userImageMin ≤ start ∧ Fits process length start := by
  have searched {low : Nat} (found : findFreeRange process low length = some start) :
      userImageMin ≤ start ∧ Fits process length start := by
    have first := found ▸ @firstFit_findFreeRange _ process _ low positive
    exact ⟨(le_max_right _ _).trans first.1.1, first.1.2⟩
  revert selected
  fun_cases selectMappingAddress with
  | case1 hinted isHinted =>
    intro same
    rw [← Except.ok.inj same]
    obtain ⟨_, valid, free⟩ := isHinted
    have low : userImageMin ≤ hinted := by grind [validDynamicRange]
    have aligned : pageSize ∣ hinted := Nat.dvd_sub_mod addressHint
    rw [validDynamicRange_iff positive aligned low] at valid
    simp only [rangeIsFree, Bool.and_eq_true, List.all_eq_true, decide_eq_true_eq] at free
    refine ⟨low, aligned, valid, ?_, ?_⟩ <;> grind [Overlaps]
  | case2 _ _ _ _ found =>
    rintro ⟨⟩
    exact searched found
  | case3 _ _ _ _ _ found =>
    rintro ⟨⟩
    split at found
    · exact searched found
    · cases found
  | case4 => rintro ⟨⟩

theorem mem_insertRegion {other : VmRegion Object} :
    other ∈ insertRegion process region ↔ other ∈ process.vmRegions ∨ other = region := by
  rw [insertRegion, List.mem_mergeSort, List.mem_append, List.mem_singleton]

theorem ordered_insertRegion (wellFormed : WellFormed process.vmRegions)
    (nonempty : region.start < region.stop)
    (free : ∀ other ∈ process.vmRegions, other.stop ≤ region.start ∨ region.stop ≤ other.start) :
    (insertRegion process region).Pairwise fun left right => left.stop ≤ right.start := by
  have sorted : (insertRegion process region).Pairwise fun left right =>
      decide (left.start ≤ right.start) = true :=
    List.pairwise_mergeSort (by simp; omega) (by simp; omega) _
  have apart : (insertRegion process region).Pairwise fun left right =>
      left.stop ≤ right.start ∨ right.stop ≤ left.start := by
    rw [insertRegion, (List.mergeSort_perm ..).pairwise_iff Or.symm, List.pairwise_append]
    exact ⟨wellFormed.ordered.imp Or.inl, List.pairwise_singleton _ _, by simpa using free⟩
  have positive : ∀ other ∈ insertRegion process region, other.start < other.stop := by
    simpa [mem_insertRegion, or_imp, forall_and, nonempty] using wellFormed.nonempty
  refine (sorted.and apart).imp_of_mem ?_
  intro left right inLeft inRight both
  have leftPositive := positive left inLeft
  have rightPositive := positive right inRight
  have order := of_decide_eq_true both.1
  omega

theorem Confined.mapRegion (confined : Confined objectLen process.vmRegions)
    {mapped : Except VmError (List Page)}
    (called : mapRegion process addressHint length protection backing mapped = .ok next)
    {requested : Nat} (rounded : alignPageUp requested = some length) (positive : length ≠ 0)
    (within : backing.Within objectLen length protection) :
    Confined objectLen next.vmRegions := by
  simp only [User.mapRegion, bind_eq_ok, pure_eq_ok] at called
  obtain ⟨_, _, start, selected, _, _, rfl⟩ := called
  obtain ⟨low, fits⟩ := fits_of_selected (Nat.pos_of_ne_zero positive) selected
  have divides := (alignPageUp_eq_some rounded).2.1
  have wellFormed := confined.wellFormed
  have nonempty : start < start + length := by omega
  have free (other) (member : other ∈ process.vmRegions) :
      other.stop ≤ start ∨ start + length ≤ other.start := by
    have apart := fits.regions other member
    unfold Overlaps at apart
    omega
  constructor
  · constructor
    · exact ordered_insertRegion wellFormed nonempty free
    · simpa [mem_insertRegion, or_imp, forall_and, Nat.pos_of_ne_zero positive] using
        wellFormed.nonempty
    · simpa [mem_insertRegion, or_imp, forall_and, fits.aligned,
        (Nat.dvd_add_right fits.aligned).mpr divides] using wellFormed.aligned
  · simpa [mem_insertRegion, or_imp, forall_and, low, fits.below] using confined.area
  · simpa [mem_insertRegion, or_imp, forall_and, within] using confined.within

theorem editedParts_protection {part : Part}
    (member : part ∈ editedParts address stop change region) :
    part.1 = region.protection ∨
      change = some part.1 ∧ region.start < stop ∧ address < region.stop := by
  unfold editedParts at member
  grind

theorem Confined.edit (confined : Confined objectLen process.vmRegions)
    (ended : dynamicEnd process address length = .ok stop)
    (allowed : ∀ region ∈ process.vmRegions, region.start < stop → address < region.stop →
      ∀ protection ∈ change, region.backing.allows protection = true)
    {reserve : Bool} {updated : List (VmRegion Object)} (built :
      (if reserve then pushParts address stop change process.vmRegions
        else .error .outOfMemory) = .ok updated) :
    Confined objectLen updated := by
  simp only [dynamicEnd, bind_eq_ok, require_eq_ok, expect_eq_ok, pure_eq_ok] at ended
  obtain ⟨_, aligned, rounded, isRounded, _, positive, _, isStop, _, _, rfl⟩ := ended
  obtain ⟨rfl, _⟩ := checkedAdd_eq_some isStop
  have ordered : address < address + rounded := by omega
  have first := Nat.dvd_of_mod_eq_zero aligned
  have last := (Nat.dvd_add_right first).mpr (alignPageUp_eq_some isRounded).2.1
  have nonempty := confined.wellFormed.nonempty
  have isUpdated :
      updated = editedRegions address (address + rounded) change process.vmRegions := by
    cases reserve with
    | false => cases built
    | true =>
      rcases pushParts_cases nonempty ordered with done | ⟨failed, _⟩
      · exact Except.ok.inj (built.symm.trans done)
      · cases built.symm.trans failed
  rw [isUpdated]
  refine ⟨confined.wellFormed.editedRegions ordered ⟨first, last⟩, ?_, ?_⟩
  all_goals
    intro region member
    obtain ⟨whole, inRegions, part, isPart, rfl⟩ := mem_editedRegions.mp member
    have bounds := editedParts_bounds (nonempty whole inRegions) ordered isPart
  · have area := confined.area whole inRegions
    exact ⟨area.1.trans bounds.1, bounds.2.2.trans area.2⟩
  · have within := confined.within whole inRegions
    have allows := allowed whole inRegions
    simp only [VmRegion.slice]
    cases isBacking : whole.backing with
    | anonymousPrivate => trivial
    | shared =>
      rw [isBacking] at within allows
      refine ⟨by have := within.1; omega, ?_⟩
      rcases editedParts_protection isPart with same | ⟨changed, before, behind⟩
      · rw [same]
        exact within.2
      · exact allows before behind _ changed

theorem Confined.call {process next : UserProcess Object}
    {call : UserProcess Object → Except VmError (UserProcess Object)}
    (confined : Confined objectLen process.vmRegions) (isCall : IsCall objectLen call)
    (taken : call process = .ok next) : Confined objectLen next.vmRegions := by
  cases isCall with
  | mapAnonymous =>
    simp only [mapAnonymous, bind_eq_ok, require_eq_ok, expect_eq_ok] at taken
    obtain ⟨_, rounded, _, positive, _, _, called⟩ := taken
    exact confined.mapRegion called rounded positive trivial
  | mapShared =>
    simp only [mapShared, validateSharedMappingRequest, bind_eq_ok, require_eq_ok, expect_eq_ok,
      pure_eq_ok] at taken
    obtain ⟨_, writable, _, ⟨_, data, _, _, _, rounded, _, positive, _, isEnd, _, inside, rfl⟩,
      called⟩ := taken
    obtain ⟨rfl, _⟩ := checkedAdd_eq_some isEnd
    exact confined.mapRegion called rounded positive ⟨inside, by grind [sharedProtectionAllowed]⟩
  | protect =>
    simp only [protectDynamic, bind_eq_ok, require_eq_ok, pure_eq_ok] at taken
    obtain ⟨_, ended, _, allowed, _, built, _, _, rfl⟩ := taken
    exact confined.edit ended (by simpa using allowed) built
  | unmap =>
    simp only [unmapDynamic, bind_eq_ok, pure_eq_ok] at taken
    obtain ⟨_, ended, _, built, _, _, rfl⟩ := taken
    exact confined.edit ended (by simp) built
  | setBreak =>
    cases taken
    exact confined

/-- A call that fails changes nothing. -/
def attempt (process : UserProcess Object)
    (call : UserProcess Object → Except VmError (UserProcess Object)) :
    Option (UserProcess Object) :=
  some ((call process).toOption.getD process)

/-- Regions stay disjoint, in their area and within the rights of descriptors. -/
theorem mappings_confined {start final : UserProcess Object}
    {calls : List (UserProcess Object → Except VmError (UserProcess Object))}
    (initially : start.vmRegions = []) (isCall : ∀ call ∈ calls, IsCall objectLen call)
    (reached : Execution.exec attempt start calls = some final) :
    Confined objectLen final.vmRegions := by
  have empty : Confined objectLen start.vmRegions := by
    rw [initially]
    exact ⟨⟨.nil, nofun, nofun⟩, nofun, nofun⟩
  refine @Execution.invariant_of_guarded _ _ _ _ (Confined objectLen ·.vmRegions)
    ?_ _ _ _ empty (Execution.Guarded.of_labels isCall) reached
  rintro process call _ confined isCall ⟨⟩
  cases taken : call process with
  | error error => exact confined
  | ok next => exact confined.call isCall taken

end Confined

def splitCalls : List (UserProcess Unit → Except VmError (UserProcess Unit)) :=
  [(mapShared · (fun _ => 3 * pageSize) mmapBase (3 * pageSize) 0 ⟨false, false⟩ false () (.ok [])),
    (unmapDynamic · (mmapBase + pageSize) pageSize true (.ok []))]

theorem splitCalls_confined :
    ∃ final, Execution.exec attempt ⟨[], [], mmapBase⟩ splitCalls = some final ∧
      final.vmRegions.length = 2 ∧ Confined (fun _ => 3 * pageSize) final.vmRegions := by
  refine Execution.exists_reached (by decide +kernel) fun final reached => ?_
  refine ⟨Execution.of_reached reached (by decide +kernel), ?_⟩
  refine mappings_confined rfl ?_ reached
  exact List.forall_mem_cons.mpr ⟨.mapShared .., List.forall_mem_cons.mpr ⟨.unmap .., nofun⟩⟩

end Xenith.User
