import Xenith.Lib.Word
import Xenith.Mm.AddressSpace

/-!
# Dynamic mapping regions

The region list of a process in `kernel/src/user/process.rs`, with the edits
that `mprotect` and `munmap` make.
-/

namespace Xenith.User

open Xenith.Mm

structure VmProtection where
  writable : Bool
  executable : Bool
deriving DecidableEq

inductive VmBacking (Object : Type) where
  | anonymousPrivate
  | shared (object : Object) (objectOffset : Nat) (writableAllowed : Bool)
deriving DecidableEq

structure VmRegion (Object : Type) where
  start : Nat
  stop : Nat
  protection : VmProtection
  backing : VmBacking Object
deriving DecidableEq

inductive VmError where
  | invalidRange
  | outOfMemory
  | addressInUse
  | permissionDenied
  | notOwned
  | noCurrentProcess
  | busy
  | tableCorrupt
deriving DecidableEq

section Edits

variable {Object : Type}

def rightSplitBacking (region : VmRegion Object) (newStart : Nat) :
    Except VmError (VmBacking Object) :=
  match region.backing with
  | .anonymousPrivate => .ok .anonymousPrivate
  | .shared object objectOffset writableAllowed =>
    if newStart < region.start then .error .tableCorrupt
    else
      match checkedAdd objectOffset (newStart - region.start) with
      | none => .error .tableCorrupt
      | some offset => .ok (.shared object offset writableAllowed)

/-- A part of a region: its protection, its start and its end. -/
abbrev Part := VmProtection × Nat × Nat

/-- A clone of the region that is cut to a part.  The backing moves with the
start. -/
def cutRegion (region : VmRegion Object) : Part → Except VmError (VmRegion Object)
  | (protection, start, stop) => do
      let backing ←
        if start ≠ region.start then rightSplitBacking region start
        else .ok region.backing
      return ⟨start, stop, protection, backing⟩

/-- The parts that are pushed for one region.  The one inside of the range
gets the new protection, or is left out when there is none. -/
def editedParts (address stop : Nat) (change : Option VmProtection)
    (region : VmRegion Object) : List Part :=
  if region.stop ≤ address ∨ stop ≤ region.start then
    [(region.protection, region.start, region.stop)]
  else
    (if region.start < address then [(region.protection, region.start, address)] else []) ++
    (change.toList.map fun protection =>
      (protection, max region.start address, min region.stop stop)) ++
    (if stop < region.stop then [(region.protection, stop, region.stop)] else [])

/-- The loop over the regions. -/
def pushParts (address stop : Nat) (change : Option VmProtection) :
    List (VmRegion Object) → Except VmError (List (VmRegion Object))
  | [] => .ok []
  | region :: rest => do
      let parts ← (editedParts address stop change region).mapM (cutRegion region)
      let later ← pushParts address stop change rest
      return parts ++ later

/-- `reserve` tells whether the new list could be allocated. -/
def buildProtectedRegions (regions : List (VmRegion Object))
    (address stop : Nat) (protection : VmProtection) (reserve : Bool) :
    Except VmError (List (VmRegion Object)) :=
  if reserve then pushParts address stop (some protection) regions
  else .error .outOfMemory

/-- The list that `unmap_dynamic_for_process` installs. -/
def buildRemainingRegions (regions : List (VmRegion Object)) (address stop : Nat) (reserve : Bool) :
    Except VmError (List (VmRegion Object)) :=
  if reserve then pushParts address stop none regions
  else .error .outOfMemory

def coveredFrom (stop : Nat) : Nat → List (VmRegion Object) → Bool
  | _, [] => false
  | cursor, region :: rest =>
    if region.stop ≤ cursor then coveredFrom stop cursor rest
    else if cursor < region.start then false
    else
      let cursor := min (max cursor region.stop) stop
      if cursor = stop then true else coveredFrom stop cursor rest

def rangeCoveredByRegions (regions : List (VmRegion Object)) (start stop : Nat) : Bool :=
  coveredFrom stop start regions

end Edits

variable {Object : Type} {region : VmRegion Object} {part : Part}
variable {regions updated : List (VmRegion Object)}
variable {address stop tested : Nat} {protection : VmProtection}
variable {change : Option VmProtection} {byte : Option (Object × Nat × Bool)}

def VmRegion.Holds (region : VmRegion Object) (tested : Nat) : Prop :=
  region.start ≤ tested ∧ tested < region.stop

/-- The byte of the shared object behind an address, and whether it may be
made writable. -/
def VmRegion.byteAt (region : VmRegion Object) (tested : Nat) : Option (Object × Nat × Bool) :=
  match region.backing with
  | .anonymousPrivate => none
  | .shared object objectOffset writableAllowed =>
    some (object, objectOffset + (tested - region.start), writableAllowed)

/-- The address has this protection and this byte. -/
def Maps (regions : List (VmRegion Object)) (tested : Nat)
    (protection : VmProtection) (byte : Option (Object × Nat × Bool)) :
    Prop :=
  ∃ region ∈ regions, region.Holds tested ∧
    region.protection = protection ∧ region.byteAt tested = byte

/-- Sorted, disjoint, nonempty and page-aligned. -/
structure WellFormed (regions : List (VmRegion Object)) : Prop where
  ordered : regions.Pairwise fun left right => left.stop ≤ right.start
  nonempty : ∀ region ∈ regions, region.start < region.stop
  aligned : ∀ region ∈ regions, pageSize ∣ region.start ∧ pageSize ∣ region.stop

/-- Every byte of the region has a 64-bit position in its object. -/
def VmRegion.Addressable (region : VmRegion Object) : Prop :=
  ∀ object objectOffset writableAllowed,
    region.backing = .shared object objectOffset writableAllowed →
      objectOffset + (region.stop - region.start) ≤ 2 ^ 64

/-- The protection of an address after a change of the range. -/
def changedAt (address stop : Nat) (change : Option VmProtection)
    (tested : Nat) (protection : VmProtection) : Option VmProtection :=
  if address ≤ tested ∧ tested < stop then change else some protection

/-- An edit that succeeds changes the range and nothing else; one that fails
lacked memory or met a region beyond the positions of its object. -/
def Edits (regions : List (VmRegion Object)) (address stop : Nat)
    (change : Option VmProtection) (reserve : Bool) :
    Except VmError (List (VmRegion Object)) → Prop
  | .ok updated =>
    WellFormed updated ∧ ∀ tested protection byte, Maps updated tested protection byte ↔
      ∃ old, Maps regions tested old byte ∧
        changedAt address stop change tested old = some protection
  | .error error =>
    error = .outOfMemory ∧ reserve = false ∨
      error = .tableCorrupt ∧ ∃ region ∈ regions, ¬ region.Addressable

/-! ## The parts of a region -/

/-- The part of a region with its bytes. -/
def VmRegion.slice (region : VmRegion Object) (part : Part) : VmRegion Object where
  start := part.2.1
  stop := part.2.2
  protection := part.1
  backing :=
    match region.backing with
    | .anonymousPrivate => .anonymousPrivate
    | .shared object objectOffset writableAllowed =>
      .shared object (objectOffset + (part.2.1 - region.start)) writableAllowed

theorem byteAt_slice (low : region.start ≤ part.2.1) (inside : part.2.1 ≤ tested) :
    (region.slice part).byteAt tested = region.byteAt tested := by
  unfold VmRegion.byteAt VmRegion.slice
  cases region.backing with
  | anonymousPrivate => rfl
  | shared =>
    simp only [Option.some.injEq, Prod.mk.injEq, true_and, and_true]
    omega

theorem cutRegion_cases (low : region.start ≤ part.2.1) (high : part.2.1 < region.stop) :
    cutRegion region part = .ok (region.slice part) ∨
      cutRegion region part = .error .tableCorrupt ∧ ¬ region.Addressable := by
  obtain ⟨_, start, stop⟩ := part
  simp only at low high
  cases isBacking : region.backing with
  | anonymousPrivate => simp [cutRegion, rightSplitBacking, VmRegion.slice, isBacking]
  | shared _ objectOffset =>
    by_cases same : start = region.start
    · refine Or.inl ?_
      simp [cutRegion, VmRegion.slice, isBacking, same]
    · by_cases fits : objectOffset + (start - region.start) < 2 ^ 64
      · refine Or.inl ?_
        simp [cutRegion, rightSplitBacking, VmRegion.slice, isBacking, same,
          not_lt.mpr low, checkedAdd_of_lt fits]
      · refine Or.inr ⟨?_, fun addressable => ?_⟩
        · have overflow : checkedAdd objectOffset (start - region.start) = none := by
            rw [checkedAdd, if_neg fits]
          simp [cutRegion, rightSplitBacking, isBacking, same, overflow]
        · have bounded := addressable _ _ _ isBacking
          omega

theorem mapM_cutRegion_cases {parts : List Part}
    (bounds : ∀ part ∈ parts, region.start ≤ part.2.1 ∧ part.2.1 < region.stop) :
    parts.mapM (cutRegion region) = .ok (parts.map region.slice) ∨
      parts.mapM (cutRegion region) = .error .tableCorrupt ∧ ¬ region.Addressable := by
  induction parts with
  | nil => exact Or.inl rfl
  | cons part _ ih =>
    rw [List.forall_mem_cons] at bounds
    obtain ⟨⟨low, high⟩, later⟩ := bounds
    rw [List.mapM_cons]
    rcases cutRegion_cases low high with cut | ⟨failed, lost⟩
    · rcases ih later with done | ⟨failed, lost⟩
      · exact Or.inl (by rw [cut, done]; rfl)
      · exact Or.inr ⟨by rw [cut, failed]; rfl, lost⟩
    · exact Or.inr ⟨by rw [failed]; rfl, lost⟩

theorem editedParts_bounds (nonempty : region.start < region.stop) (ordered : address < stop)
    (member : part ∈ editedParts address stop change region) :
    region.start ≤ part.2.1 ∧ part.2.1 < part.2.2 ∧ part.2.2 ≤ region.stop := by
  unfold editedParts at member
  grind

theorem editedParts_aligned (aligned : pageSize ∣ region.start ∧ pageSize ∣ region.stop)
    (alignedRange : pageSize ∣ address ∧ pageSize ∣ stop)
    (member : part ∈ editedParts address stop change region) :
    pageSize ∣ part.2.1 ∧ pageSize ∣ part.2.2 := by
  unfold editedParts at member
  grind

theorem editedParts_ordered (ordered : address < stop) :
    (editedParts address stop change region).Pairwise fun left right => left.2.2 ≤ right.2.1 := by
  unfold editedParts
  cases change <;> split_ifs <;> simp <;> omega

theorem editedParts_covers :
    (∃ part ∈ editedParts address stop change region,
        (part.2.1 ≤ tested ∧ tested < part.2.2) ∧ part.1 = protection) ↔
      region.Holds tested ∧
        changedAt address stop change tested region.protection = some protection := by
  unfold editedParts changedAt VmRegion.Holds
  cases change <;> split_ifs <;> simp <;> grind

/-- The regions that an edit leaves. -/
def editedRegions (address stop : Nat) (change : Option VmProtection)
    (regions : List (VmRegion Object)) : List (VmRegion Object) :=
  regions.flatMap fun region => (editedParts address stop change region).map region.slice

theorem pushParts_cases
    (nonempty : ∀ region ∈ regions, region.start < region.stop) (ordered : address < stop) :
    pushParts address stop change regions = .ok (editedRegions address stop change regions) ∨
      pushParts address stop change regions = .error .tableCorrupt ∧
        ∃ region ∈ regions, ¬ region.Addressable := by
  induction regions with
  | nil => exact Or.inl rfl
  | cons region _ ih =>
    rw [List.forall_mem_cons] at nonempty
    have bounds :
        ∀ part ∈ editedParts address stop change region,
          region.start ≤ part.2.1 ∧ part.2.1 < region.stop := by
      intro part member
      have within := editedParts_bounds nonempty.1 ordered member
      omega
    rw [pushParts]
    rcases mapM_cutRegion_cases bounds with cut | ⟨failed, lost⟩
    · rcases ih nonempty.2 with done | ⟨failed, other, member, lost⟩
      · exact Or.inl (by rw [cut, done]; rfl)
      · exact Or.inr ⟨by rw [cut, failed]; rfl, other, List.mem_cons_of_mem _ member, lost⟩
    · exact Or.inr ⟨by rw [failed]; rfl, region, List.mem_cons_self .., lost⟩

theorem mem_editedRegions :
    region ∈ editedRegions address stop change regions ↔
      ∃ whole ∈ regions, ∃ part ∈ editedParts address stop change whole,
        whole.slice part = region := by
  simp [editedRegions]

section Edited

variable (wellFormed : WellFormed regions) (ordered : address < stop)

include wellFormed ordered

theorem WellFormed.editedRegions (aligned : pageSize ∣ address ∧ pageSize ∣ stop) :
    WellFormed (editedRegions address stop change regions) := by
  constructor
  · refine List.pairwise_flatMap.mpr ⟨?_, ?_⟩
    · intro region member
      exact List.pairwise_map.mpr (editedParts_ordered ordered)
    · refine wellFormed.ordered.imp_of_mem ?_
      intro left right leftMember rightMember apart
      simp only [List.mem_map]
      rintro _ ⟨first, inLeft, rfl⟩ _ ⟨second, inRight, rfl⟩
      have before := editedParts_bounds (wellFormed.nonempty left leftMember) ordered inLeft
      have behind := editedParts_bounds (wellFormed.nonempty right rightMember) ordered inRight
      change first.2.2 ≤ second.2.1
      omega
  · intro region member
    obtain ⟨whole, inRegions, part, isPart, rfl⟩ := mem_editedRegions.mp member
    exact (editedParts_bounds (wellFormed.nonempty whole inRegions) ordered isPart).2.1
  · intro region member
    obtain ⟨whole, inRegions, part, isPart, rfl⟩ := mem_editedRegions.mp member
    exact editedParts_aligned (wellFormed.aligned whole inRegions) aligned isPart

theorem maps_editedRegions :
    Maps (editedRegions address stop change regions) tested protection byte ↔
      ∃ old, Maps regions tested old byte ∧
        changedAt address stop change tested old = some protection := by
  constructor
  · rintro ⟨_, member, holds, isProtected, sameByte⟩
    obtain ⟨whole, inRegions, part, isPart, rfl⟩ := mem_editedRegions.mp member
    have within := editedParts_bounds (wellFormed.nonempty whole inRegions) ordered isPart
    obtain ⟨held, changed⟩ := editedParts_covers.mp ⟨part, isPart, holds, isProtected⟩
    rw [byteAt_slice within.1 holds.1] at sameByte
    exact ⟨whole.protection, ⟨whole, inRegions, held, rfl, sameByte⟩, changed⟩
  · rintro ⟨old, ⟨whole, inRegions, held, rfl, sameByte⟩, changed⟩
    obtain ⟨part, isPart, holds, isProtected⟩ := editedParts_covers.mpr ⟨held, changed⟩
    have within := editedParts_bounds (wellFormed.nonempty whole inRegions) ordered isPart
    refine ⟨whole.slice part,
      mem_editedRegions.mpr ⟨whole, inRegions, part, isPart, rfl⟩, holds, isProtected, ?_⟩
    rw [byteAt_slice within.1 holds.1]
    exact sameByte

theorem edits_of_reserve (aligned : pageSize ∣ address ∧ pageSize ∣ stop) (reserve : Bool) :
    Edits regions address stop change reserve
      (if reserve then pushParts address stop change regions else .error .outOfMemory) := by
  cases reserve with
  | false => exact Or.inl ⟨rfl, rfl⟩
  | true =>
    rcases pushParts_cases wellFormed.nonempty ordered with
      done | ⟨failed, lost⟩
    · rw [done]
      exact ⟨wellFormed.editedRegions ordered aligned, fun _ _ _ =>
        maps_editedRegions wellFormed ordered⟩
    · rw [failed]
      exact Or.inr ⟨rfl, lost⟩

end Edited

/-! ## Coverage -/

theorem coveredFrom_iff
    {cursor : Nat} (ordered : regions.Pairwise fun left right => left.stop ≤ right.start)
    (room : cursor < stop) :
    coveredFrom stop cursor regions = true ↔
      ∀ tested, cursor ≤ tested → tested < stop → ∃ region ∈ regions, region.Holds tested := by
  unfold VmRegion.Holds
  fun_induction coveredFrom stop cursor regions with
  | case1 cursor => simpa using ⟨cursor, le_rfl, room⟩
  | case2 cursor region rest _ ih =>
    rw [ih ordered.tail room]
    refine forall₃_congr fun tested low high => ?_
    rw [List.exists_mem_cons_iff, or_iff_right (by omega)]
  | case3 cursor region rest ahead =>
    rw [List.pairwise_cons] at ordered
    simp only [Bool.false_eq_true, false_iff, not_forall]
    refine ⟨cursor, le_rfl, room, ?_⟩
    rintro ⟨other, member, low, high⟩
    rcases List.mem_cons.mp member with rfl | later
    · omega
    · have behind := ordered.1 other later
      omega
  | case4 cursor region rest ahead reached next =>
    simp only [true_iff]
    intro tested low high
    exact ⟨region, List.mem_cons_self .., by omega, by omega⟩
  | case5 cursor region rest ahead reached next unfinished ih =>
    rw [ih ordered.tail (by omega)]
    constructor
    · intro covered tested low high
      rw [List.exists_mem_cons_iff]
      by_cases inside : tested < region.stop
      · exact Or.inl (by omega)
      · exact Or.inr (covered tested (by omega) high)
    · intro covered tested low high
      have found := covered tested (by omega) high
      rw [List.exists_mem_cons_iff, or_iff_right (by omega)] at found
      exact found

/-- Both edits of a region list change what they are asked to change and keep
every other address, and the cover test is exact. -/
theorem region_edits_pointwise (regions : List (VmRegion Object)) (wellFormed : WellFormed regions)
    (address stop : Nat) (ordered : address < stop) (aligned : pageSize ∣ address ∧ pageSize ∣ stop)
    (protection : VmProtection) (reserve : Bool) :
    Edits regions address stop (some protection) reserve
        (buildProtectedRegions regions address stop protection reserve) ∧
      Edits regions address stop none reserve (buildRemainingRegions regions address stop reserve) ∧
      ∀ start limit, start < limit → (rangeCoveredByRegions regions start limit = true ↔
        ∀ tested, start ≤ tested → tested < limit → ∃ region ∈ regions, region.Holds tested) :=
  ⟨edits_of_reserve wellFormed ordered aligned reserve,
    edits_of_reserve wellFormed ordered aligned reserve,
    fun _ _ room => coveredFrom_iff wellFormed.ordered room⟩

/-- Three pages of one shared object. -/
def threePages : List (VmRegion Unit) :=
  [⟨4096, 16384, ⟨true, false⟩, .shared () 8192 true⟩]

theorem threePages_protected :
    ∃ updated, buildProtectedRegions threePages 8192 12288 ⟨false, false⟩ true = .ok updated ∧
      WellFormed updated ∧
      Maps updated 12289 ⟨true, false⟩ (some ((), 16385, true)) := by
  have wellFormed : WellFormed threePages := by
    constructor <;> simp [threePages, pageSize]
  have edits := (region_edits_pointwise threePages wellFormed 8192 12288 (by decide)
    (by decide) ⟨false, false⟩ true).1
  cases built : buildProtectedRegions threePages 8192 12288 ⟨false, false⟩ true with
  | ok updated =>
    rw [built] at edits
    refine ⟨updated, rfl, edits.1, (edits.2 _ _ _).mpr ⟨_, ?_, rfl⟩⟩
    exact ⟨_, List.mem_singleton_self _, ⟨by decide, by decide⟩, rfl, rfl⟩
  | error error =>
    rw [built] at edits
    simp [Edits, threePages, VmRegion.Addressable] at edits

end Xenith.User
