import Xenith.User.VmRegions

/-!
# Placement of dynamic mappings

The search for a free range in `kernel/src/user/process.rs`.
-/

namespace Xenith.User

open Xenith.Mm

variable {Object : Type}

/-- The fields of a process that the placement reads. -/
structure UserProcess (Object : Type) where
  pages : List Page
  vmRegions : List (VmRegion Object)
  mmapHint : Nat

def userImageMin : Nat := pageSize

def userStackTop : Nat := 0x00007FFFFFF00000

def userStackSize : Nat := 1024 * 1024

def dynamicLimit : Nat := userStackTop - userStackSize - pageSize

def mmapBase : Nat := 0x0000000100000000

def alignPageUp (value : Nat) : Option Nat :=
  (checkedAdd value (pageSize - 1)).map fun sum => sum - sum % pageSize

def validDynamicRange (start length : Nat) : Bool :=
  decide (userImageMin ≤ start) && decide (start % pageSize = 0) &&
    decide (length ≠ 0) &&
    (checkedAdd start length).any fun stop => decide (stop ≤ dynamicLimit ∧ stop - 1 ≤ userMax)

def rangeIsFree (process : UserProcess Object) (start stop : Nat) : Bool :=
  (process.pages.all fun page =>
    decide (stop ≤ page.startAddress ∨ page.startAddress + pageSize ≤ start)) &&
    process.vmRegions.all fun region => decide (stop ≤ region.start ∨ region.stop ≤ start)

/-- The range from `start` to `stop` and the span each start before the other
ends. -/
def Overlaps (start stop : Nat) (span : Nat × Nat) : Prop :=
  start < span.2 ∧ span.1 < stop

instance {start stop : Nat} {span : Nat × Nat} : Decidable (Overlaps start stop span) :=
  inferInstanceAs (Decidable (_ ∧ _))

def pageSpans (process : UserProcess Object) : List (Nat × Nat) :=
  process.pages.filterMap fun page =>
    (checkedAdd page.startAddress pageSize).map (page.startAddress, ·)

def regionSpans (process : UserProcess Object) : List (Nat × Nat) :=
  process.vmRegions.map fun region => (region.start, region.stop)

/-- The greatest end of the spans that reach into the range. -/
def lastEnd (spans : List (Nat × Nat)) (start stop : Nat) : Option Nat :=
  ((spans.filter fun span => Overlaps start stop span).map Prod.snd).max?

def nextEnd (process : UserProcess Object) (start stop : Nat) : Option Nat :=
  (lastEnd (pageSpans process) start stop).merge max (lastEnd (regionSpans process) start stop)

/-- One iteration of `find_free_range`: a result or the next candidate. -/
def searchStep (process : UserProcess Object) (length candidate : Nat) : Option Nat ⊕ Nat :=
  if validDynamicRange candidate length then
    match checkedAdd candidate length with
    | none => .inl none
    | some stop =>
      match nextEnd process candidate stop with
      | none => .inl (some candidate)
      | some next =>
        match alignPageUp next with
        | none => .inl none
        | some later => .inr later
  else .inl none

/-- The range at the candidate is free and inside of the limits. -/
structure Fits (process : UserProcess Object) (length candidate : Nat) : Prop where
  aligned : pageSize ∣ candidate
  below : candidate + length ≤ dynamicLimit
  pages : ∀ page ∈ process.pages,
    ¬ Overlaps candidate (candidate + length) (page.startAddress, page.startAddress + pageSize)
  regions : ∀ region ∈ process.vmRegions,
    ¬ Overlaps candidate (candidate + length) (region.start, region.stop)

/-- The result is the lowest fit from an address on, if there is one. -/
def FirstFit (process : UserProcess Object) (length start : Nat) : Option Nat → Prop
  | some found => IsLeast { candidate | start ≤ candidate ∧ Fits process length candidate } found
  | none => ∀ candidate, start ≤ candidate → ¬ Fits process length candidate

variable {process : UserProcess Object} {length start stop candidate : Nat}

/-- Addresses that fit nothing are passed over. -/
theorem FirstFit.advance {later : Nat} {result : Option Nat} (ordered : start ≤ later)
    (none : ∀ candidate, start ≤ candidate → candidate < later → ¬ Fits process length candidate)
    (first : FirstFit process length later result) :
    FirstFit process length start result := by
  have behind :
      ∀ candidate, start ≤ candidate → Fits process length candidate → later ≤ candidate := by
    intro candidate low fits
    by_contra before
    exact none candidate low (not_le.mp before) fits
  cases result with
  | some =>
    refine ⟨⟨ordered.trans first.1.1, first.1.2⟩, ?_⟩
    rintro candidate ⟨low, fits⟩
    exact first.2 ⟨behind candidate low fits, fits⟩
  | none =>
    intro candidate low fits
    exact first candidate (behind candidate low fits) fits

theorem alignPageUp_eq_some {value aligned : Nat} (isAligned : alignPageUp value = some aligned) :
    value ≤ aligned ∧ pageSize ∣ aligned ∧ aligned < value + pageSize ∧ aligned < 2 ^ 64 := by
  obtain ⟨_, isSum, rfl⟩ := Option.map_eq_some_iff.mp isAligned
  obtain ⟨rfl, _⟩ := checkedAdd_eq_some isSum
  unfold pageSize at *
  omega

theorem alignPageUp_eq_none {value : Nat} (overflow : alignPageUp value = none) :
    dynamicLimit ≤ value := by
  by_contra below
  unfold dynamicLimit userStackTop userStackSize pageSize at below
  rw [alignPageUp, checkedAdd_of_lt (by unfold pageSize; omega)] at overflow
  cases overflow

theorem FirstFit.align
    {aligned : Nat} {result : Option Nat} (isAligned : alignPageUp start = some aligned)
    (first : FirstFit process length aligned result) :
    FirstFit process length start result := by
  obtain ⟨low, divides, near, _⟩ := alignPageUp_eq_some isAligned
  refine first.advance low ?_
  intro candidate above before fits
  obtain ⟨_, rfl⟩ := divides
  obtain ⟨_, rfl⟩ := fits.aligned
  unfold pageSize at above before near
  omega

variable {spans : List (Nat × Nat)}

theorem lastEnd_eq_some {next : Nat} (found : lastEnd spans start stop = some next) :
    ∃ span ∈ spans, Overlaps start stop span ∧ span.2 = next := by
  obtain ⟨span, member, isEnd⟩ := List.mem_map.mp (List.max?_mem found)
  rw [List.mem_filter, decide_eq_true_iff] at member
  exact ⟨span, member.1, member.2, isEnd⟩

theorem lastEnd_eq_none (missing : lastEnd spans start stop = none) :
    ∀ span ∈ spans, ¬ Overlaps start stop span := by
  rw [lastEnd] at missing
  simpa using missing

theorem nextEnd_eq_some {next : Nat} (found : nextEnd process start stop = some next) :
    ∃ span ∈ pageSpans process ++ regionSpans process,
      Overlaps start stop span ∧ span.2 = next := by
  rcases Option.merge_eq_or_eq max_choice
      (lastEnd (pageSpans process) start stop)
      (lastEnd (regionSpans process) start stop) with same | same
  · obtain ⟨span, member, isLast⟩ := lastEnd_eq_some (same.symm.trans found)
    exact ⟨span, List.mem_append_left _ member, isLast⟩
  · obtain ⟨span, member, isLast⟩ := lastEnd_eq_some (same.symm.trans found)
    exact ⟨span, List.mem_append_right _ member, isLast⟩

/-- A fit behind a range that is taken lies behind what takes it. -/
theorem Fits.behind (fits : Fits process length candidate) {span : Nat × Nat}
    (member : span ∈ pageSpans process ++ regionSpans process)
    (later : start ≤ candidate) (taken : Overlaps start (start + length) span) :
    span.2 ≤ candidate := by
  by_contra before
  have overlaps : Overlaps candidate (candidate + length) span :=
    ⟨not_le.mp before, Nat.lt_of_lt_of_le taken.2 (by omega)⟩
  revert overlaps
  rcases List.mem_append.mp member with isPage | isRegion
  · obtain ⟨page, inPages, isSpan⟩ := List.mem_filterMap.mp isPage
    obtain ⟨_, isEnd, rfl⟩ := Option.map_eq_some_iff.mp isSpan
    obtain ⟨rfl, _⟩ := checkedAdd_eq_some isEnd
    exact fits.pages page inPages
  · obtain ⟨region, inRegions, rfl⟩ := List.mem_map.mp isRegion
    exact fits.regions region inRegions

theorem fits_of_nextEnd (aligned : pageSize ∣ candidate) (below : candidate + length ≤ dynamicLimit)
    (free : nextEnd process candidate (candidate + length) = none) :
    Fits process length candidate := by
  rw [nextEnd, Option.merge_eq_none_iff] at free
  refine ⟨aligned, below, ?_, ?_⟩
  · intro page member overlaps
    have small : page.startAddress + pageSize < 2 ^ 64 := by
      have inside := overlaps.2
      unfold dynamicLimit userStackTop userStackSize pageSize at below
      unfold pageSize
      omega
    apply lastEnd_eq_none free.1 _ _ overlaps
    exact List.mem_filterMap.mpr ⟨page, member, by rw [checkedAdd_of_lt small]; rfl⟩
  · intro region member
    exact lastEnd_eq_none free.2 _ (List.mem_map_of_mem member)

theorem searchStep_eq_inr
    {later : Nat} (searched : searchStep process length candidate = .inr later) :
    ∃ span ∈ pageSpans process ++ regionSpans process,
      Overlaps candidate (candidate + length) span ∧ alignPageUp span.2 = some later := by
  revert searched
  fun_cases searchStep with
  | case4 _ _ isStop _ found later isLater =>
    rintro ⟨⟩
    obtain ⟨rfl, _⟩ := checkedAdd_eq_some isStop
    obtain ⟨span, member, overlaps, rfl⟩ := nextEnd_eq_some found
    exact ⟨span, member, overlaps, isLater⟩
  | _ => rintro ⟨⟩

/-- The loop of `find_free_range`. -/
def searchFrom (process : UserProcess Object) (length candidate : Nat) : Option Nat :=
  match _ : searchStep process length candidate with
  | .inl result => result
  | .inr later => searchFrom process length later
termination_by 2 ^ 64 - candidate
decreasing_by
  obtain ⟨span, _, overlaps, isLater⟩ := searchStep_eq_inr (by assumption)
  have moved := alignPageUp_eq_some isLater
  have above := overlaps.1
  omega

def findFreeRange (process : UserProcess Object) (start length : Nat) : Option Nat :=
  match alignPageUp (max start userImageMin) with
  | none => none
  | some candidate => searchFrom process length candidate

def selectMappingAddress (process : UserProcess Object)
    (addressHint length : Nat) : Except VmError Nat :=
  let hinted := addressHint - addressHint % pageSize
  if addressHint ≠ 0 ∧ validDynamicRange hinted length ∧
      rangeIsFree process hinted (hinted + length) then
    .ok hinted
  else
    let search := max process.mmapHint mmapBase
    match findFreeRange process search length with
    | some start => .ok start
    | none =>
      match
        if mmapBase < search then findFreeRange process mmapBase length
        else none with
      | some start => .ok start
      | none => .error .outOfMemory

theorem validDynamicRange_iff
    (positive : 0 < length) (aligned : pageSize ∣ candidate) (low : userImageMin ≤ candidate) :
    validDynamicRange candidate length = true ↔ candidate + length ≤ dynamicLimit := by
  have divisible := Nat.mod_eq_zero_of_dvd aligned
  have nonzero : length ≠ 0 := by omega
  simp only [validDynamicRange, low, divisible, nonzero, ne_eq,
    not_false_eq_true, decide_true, Bool.true_and]
  unfold dynamicLimit userStackTop userStackSize pageSize userMax
  by_cases fits : candidate + length < 2 ^ 64
  · rw [checkedAdd_of_lt fits]
    simp
    omega
  · rw [checkedAdd, if_neg fits]
    simp
    omega

theorem firstFit_searchFrom
    (positive : 0 < length) (aligned : pageSize ∣ candidate) (low : userImageMin ≤ candidate) :
    FirstFit process length candidate (searchFrom process length candidate) := by
  fun_induction searchFrom process length candidate with
  | case1 candidate _ searched =>
    have isValid := validDynamicRange_iff positive aligned low
    revert searched
    fun_cases searchStep with
    | case1 valid overflow =>
      have below := isValid.mp valid
      unfold dynamicLimit userStackTop userStackSize at below
      rw [checkedAdd_of_lt (by omega)] at overflow
      cases overflow
    | case2 valid stop isStop free =>
      rintro ⟨⟩
      obtain ⟨rfl, _⟩ := checkedAdd_eq_some isStop
      have fits := fits_of_nextEnd aligned (isValid.mp valid) free
      exact ⟨⟨le_rfl, fits⟩, fun other inside => inside.1⟩
    | case3 valid stop isStop next found overflow =>
      rintro ⟨⟩
      obtain ⟨rfl, _⟩ := checkedAdd_eq_some isStop
      obtain ⟨span, member, taken, rfl⟩ := nextEnd_eq_some found
      intro other later fits
      have behind := fits.behind member later taken
      have beyond := alignPageUp_eq_none overflow
      have below := fits.below
      omega
    | case4 => rintro ⟨⟩
    | case5 invalid =>
      rintro ⟨⟩
      rw [isValid] at invalid
      intro other later fits
      have below := fits.below
      omega
  | case2 candidate next searched ih =>
    obtain ⟨span, member, taken, isNext⟩ := searchStep_eq_inr searched
    obtain ⟨_, divides, _, _⟩ := alignPageUp_eq_some isNext
    have started := taken.1
    have first := ih divides (by omega)
    apply (first.align isNext).advance started.le
    intro other later before fits
    exact absurd (fits.behind member later taken) (not_le.mpr before)

theorem firstFit_findFreeRange (positive : 0 < length) :
    FirstFit process length (max start userImageMin) (findFreeRange process start length) := by
  unfold findFreeRange
  split
  · next overflow =>
    intro other later fits
    have beyond := alignPageUp_eq_none overflow
    have below := fits.below
    omega
  · next candidate isAligned =>
    obtain ⟨low, divides, _, _⟩ := alignPageUp_eq_some isAligned
    have above : userImageMin ≤ candidate := (le_max_right _ _).trans low
    exact (firstFit_searchFrom positive divides above).align isAligned

/-- The search finds the lowest free range, and a mapping is refused only
when there is none. -/
theorem mapping_placement (process : UserProcess Object) (length : Nat) (positive : 0 < length) :
    (∀ start,
        FirstFit process length (max start userImageMin) (findFreeRange process start length)) ∧
      ∀ addressHint error, selectMappingAddress process addressHint length = .error error →
        ∀ candidate, mmapBase ≤ candidate → ¬ Fits process length candidate := by
  have first :
      ∀ start,
        FirstFit process length (max start userImageMin) (findFreeRange process start length) :=
    fun start => firstFit_findFreeRange positive
  refine ⟨first, ?_⟩
  intro addressHint error
  fun_cases selectMappingAddress with
  | case4 _ _ search missing missingAgain =>
    intro _ candidate low
    have reached : max mmapBase userImageMin ≤ candidate := max_le low (by
      exact (by decide : userImageMin ≤ mmapBase).trans low)
    by_cases further : mmapBase < search
    · rw [if_pos further] at missingAgain
      have none := first mmapBase
      rw [missingAgain] at none
      exact none candidate reached
    · have none := first search
      rw [missing] at none
      exact none candidate (by omega)
  | _ => rintro ⟨⟩

/-- The first page of the mapping area is mapped and the second one is a
region. -/
def crowdedProcess : UserProcess Unit where
  pages := [mmapBase / pageSize]
  vmRegions := [⟨mmapBase + pageSize, mmapBase + 2 * pageSize, ⟨true, false⟩, .anonymousPrivate⟩]
  mmapHint := mmapBase

theorem crowdedProcess_placed :
    findFreeRange crowdedProcess mmapBase pageSize = some (mmapBase + 2 * pageSize) := by
  have fits : Fits crowdedProcess pageSize (mmapBase + 2 * pageSize) := by
    constructor <;> decide
  have first := (mapping_placement crowdedProcess pageSize (by decide)).1 mmapBase
  cases found : findFreeRange crowdedProcess mmapBase pageSize with
  | none =>
    rw [found] at first
    exact absurd fits (first _ (by decide))
  | some =>
    rw [found] at first
    obtain ⟨⟨_, free⟩, least⟩ := first
    have atMost := least ⟨by decide, fits⟩
    have behindPage := free.pages _ (List.mem_singleton_self _)
    have behindRegion := free.regions _ (List.mem_singleton_self _)
    simp only [Overlaps, Page.startAddress, pageSize] at *
    rw [Option.some.injEq]
    omega

end Xenith.User
