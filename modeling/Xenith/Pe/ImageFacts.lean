import Xenith.Pe.Image

/-!
# What the parser accepts

The facts about headers and sections that every accepted image has.
-/

namespace Xenith.Pe

open Fallible

theorem alignUp_eq_ok
    {value alignment rounded : Nat} {field : String} (power : IsPowerOfTwo alignment)
    (aligned : alignUp value alignment field = .ok rounded) :
    value ≤ rounded ∧ alignment ∣ rounded := by
  obtain ⟨_, isSum, isRounded⟩ := bind_eq_ok.mp aligned
  have total := (checkedAdd32_eq_some (expect_eq_ok.mp isSum)).1
  exact power.round_up total (pure_eq_ok.mp isRounded)

/-- The field only names the error. -/
theorem alignUp_field {value alignment rounded : Nat} {field : String} (other : String)
    (aligned : alignUp value alignment field = .ok rounded) :
    alignUp value alignment other = .ok rounded := by
  obtain ⟨sum, isSum, isRounded⟩ := bind_eq_ok.mp aligned
  exact bind_eq_ok.mpr ⟨sum, expect_eq_ok.mpr (expect_eq_ok.mp isSum), isRounded⟩

/-- A section that the parser accepts, behind headers of a mapped size. -/
structure SectionHeader.Accepted (optional : OptionalHeader64)
    (headersSize : Nat) (header : SectionHeader) : Prop where
  address : optional.sectionAlignment ∣ header.virtualAddress
  size : optional.sectionAlignment ∣ header.mappedSize
  behind : header.mappedSize ≠ 0 → headersSize ≤ header.virtualAddress

structure PeImage.Accepted (image : PeImage) (headersSize : Nat) : Prop where
  alignment : IsPowerOfTwo image.optional.sectionAlignment
  headers : ∀ field,
    alignUp image.optional.sizeOfHeaders image.optional.sectionAlignment field = .ok headersSize
  sections : ∀ header ∈ image.sections, header.Accepted image.optional headersSize
  disjoint : image.sections.Pairwise fun first second =>
    rangesOverlap first.virtualAddress first.mappedSize
      second.virtualAddress second.mappedSize = false
  entry : image.optional.addressOfEntryPoint ≠ 0 →
    ∃ header ∈ image.sections, header.hasEntry image.optional.addressOfEntryPoint = true

variable {optional : OptionalHeader64} {sections : List SectionHeader}

theorem accepted_validateSection {fileSize index headersSize : Nat} {header mapped : SectionHeader}
    (power : IsPowerOfTwo optional.sectionAlignment)
    (validated : validateSection fileSize index header optional headersSize = .ok mapped) :
    mapped.Accepted optional headersSize := by
  unfold validateSection at validated
  simp only [bind_eq_ok, require_eq_ok, pure_eq_ok] at validated
  obtain ⟨_, aligned, _, _, _, _, _, rounded, _, checked, rfl⟩ := validated
  rw [power.and_pred] at aligned
  refine ⟨Nat.dvd_of_mod_eq_zero aligned, (alignUp_eq_ok power rounded).2, ?_⟩
  intro nonzero
  unfold validateMapped at checked
  rw [if_neg nonzero] at checked
  simp only [bind_eq_ok, require_eq_ok] at checked
  obtain ⟨_, behind, _⟩ := checked
  exact behind

theorem accepted_parseSections
    {bytes : List UInt8} {tableOffset headersSize count : Nat} {index required total : Nat}
    (power : IsPowerOfTwo optional.sectionAlignment)
    (parsed : parseSections bytes tableOffset optional headersSize index count
      required = .ok (sections, total)) :
    ∀ header ∈ sections, header.Accepted optional headersSize := by
  induction count generalizing index required sections with
  | zero =>
    cases parsed
    intro header member
    cases member
  | succ count ih =>
    rw [parseSections] at parsed
    simp only [bind_eq_ok] at parsed
    obtain ⟨_, _, _, _, _, validated, _, _, ⟨_, _⟩, later, isResult⟩ := parsed
    cases isResult
    exact List.forall_mem_cons.mpr ⟨accepted_validateSection power validated, ih later⟩

theorem disjoint_of_overlapsNone
    {first second : Nat} {header : SectionHeader} {others : List SectionHeader}
    (checked : overlapsNone first header second others = .ok ()) :
    ∀ other ∈ others,
      rangesOverlap header.virtualAddress header.mappedSize
        other.virtualAddress other.mappedSize = false := by
  induction others generalizing second with
  | nil =>
    intro other member
    cases member
  | cons _ _ ih =>
    rw [overlapsNone] at checked
    simp only [bind_eq_ok, require_eq_ok] at checked
    obtain ⟨_, apart, _, _, later⟩ := checked
    intro other member
    rcases List.mem_cons.mp member with rfl | member
    · exact apart
    · exact ih later other member

theorem disjoint_of_validateSectionOverlaps
    {first : Nat} (checked : validateSectionOverlaps first sections = .ok ()) :
    sections.Pairwise fun first second =>
      rangesOverlap first.virtualAddress first.mappedSize
        second.virtualAddress second.mappedSize = false := by
  induction sections generalizing first with
  | nil => exact List.Pairwise.nil
  | cons _ _ ih =>
    obtain ⟨_, apart, later⟩ := bind_eq_ok.mp checked
    exact List.Pairwise.cons (disjoint_of_overlapsNone apart) (ih later)

theorem entry_of_validateEntryPoint (checked : validateEntryPoint optional sections = .ok ())
    (present : optional.addressOfEntryPoint ≠ 0) :
    ∃ header ∈ sections, header.hasEntry optional.addressOfEntryPoint = true := by
  unfold validateEntryPoint at checked
  rw [if_neg present, require_eq_ok] at checked
  exact List.any_eq_true.mp checked

theorem PeImage.accepted_of_parse
    {bytes : List UInt8} {image : PeImage} (parsed : PeImage.parse bytes = .ok image) :
    ∃ headersSize, image.Accepted headersSize := by
  unfold PeImage.parse at parsed
  simp only [bind_eq_ok, pure_eq_ok] at parsed
  obtain ⟨_, _, optional, _, _, validated, _, _, _, _, _, _, headersSize,
    isHeadersSize, ⟨sections, required⟩, isSections, _, apart, _, entry, _, _, _, _, rfl⟩ := parsed
  have power : IsPowerOfTwo optional.sectionAlignment := by
    unfold validateOptionalHeader validateAlignments at validated
    simp only [bind_eq_ok, require_eq_ok] at validated
    obtain ⟨_, ⟨_, power, _⟩, _⟩ := validated
    exact power
  exact ⟨headersSize, power, fun field => alignUp_field field isHeadersSize,
    accepted_parseSections power isSections, disjoint_of_validateSectionOverlaps apart,
    entry_of_validateEntryPoint entry⟩

end Xenith.Pe
