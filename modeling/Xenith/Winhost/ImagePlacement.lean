import Xenith.Lib.Execution
import Xenith.Pe.ImageFacts
import Xenith.Winhost.AddressPlanner

/-!
# Pages of placed images

The planner only looks at the size of the whole image.  The mappings are whole
pages exactly if the headers and sections of the image are.
-/

namespace Xenith.Winhost

open VirtualAddressPlanner
open Fallible Pe
open PeImage

/-! ## Reservations -/

/-- A range and a reservation have no address in common. -/
def Reservation.Apart (start stop : Nat) (reservation : Reservation) : Prop :=
  stop ≤ reservation.start ∨ reservation.start + reservation.size ≤ start

variable {base : Nat} {mapping : PeSectionMapping}

section Planner

variable {planner : VirtualAddressPlanner} {reservations : List Reservation}
variable {start size alignment candidate : Nat}

theorem addressAdd_eq_ok {left right sum : Nat}
    (added : addressAdd left right = .ok sum) : left + right = sum :=
  (checkedAdd_eq_some (expect_eq_ok.mp added)).1

theorem alignUpAddress_eq_ok {value rounded : Nat}
    (power : IsPowerOfTwo alignment) (aligned : alignUpAddress value alignment = .ok rounded) :
    value ≤ rounded ∧ alignment ∣ rounded := by
  obtain ⟨_, added, isRounded⟩ := bind_eq_ok.mp aligned
  exact power.round_up (addressAdd_eq_ok added) (pure_eq_ok.mp isRounded)

theorem apart_of_overlapsNone {stop : Nat}
    (checked : overlapsNone start stop reservations = .ok ()) :
    ∀ reservation ∈ reservations, reservation.Apart start stop := by
  induction reservations with
  | nil => simp
  | cons first _ ih =>
    rw [overlapsNone] at checked
    simp only [bind_eq_ok, require_eq_ok] at checked
    obtain ⟨_, added, _, _, later⟩ := checked
    have isEnd := addressAdd_eq_ok added
    have firstApart : first.Apart start stop := by
      unfold Reservation.Apart
      omega
    exact List.forall_mem_cons.mpr ⟨firstApart, ih later⟩

theorem apart_of_validateAvailable (checked : planner.validateAvailable start size = .ok ()) :
    ∀ reservation ∈ planner.reservations, reservation.Apart start (start + size) := by
  unfold validateAvailable at checked
  simp only [bind_eq_ok] at checked
  obtain ⟨_, added, _, _, apart⟩ := checked
  rw [addressAdd_eq_ok added]
  exact apart_of_overlapsNone apart

/-- Sorted by their starts, and one ends before the next one starts. -/
def Separated (reservations : List Reservation) : Prop :=
  reservations.Pairwise fun first second => first.start + first.size ≤ second.start

theorem apart_of_searchGap (power : IsPowerOfTwo alignment) (separated : Separated reservations)
    (aligned : alignment ∣ candidate)
    (found : planner.searchGap size alignment reservations candidate = .ok start) :
    candidate ≤ start ∧ alignment ∣ start ∧
      ∀ reservation ∈ reservations, reservation.Apart start (start + size) := by
  induction reservations generalizing candidate with
  | nil =>
    rw [searchGap] at found
    simp only [bind_eq_ok, pure_eq_ok] at found
    obtain ⟨_, _, _, _, rfl⟩ := found
    exact ⟨Nat.le_refl _, aligned, by simp⟩
  | cons _ _ ih =>
    obtain ⟨behind, separatedRest⟩ := List.pairwise_cons.mp separated
    rw [searchGap] at found
    simp only [bind_eq_ok] at found
    obtain ⟨_, firstAdded, _, added, found⟩ := found
    have isFirstEnd := addressAdd_eq_ok firstAdded
    have isCandidateEnd := addressAdd_eq_ok added
    split at found
    · next before =>
      rw [pure_eq_ok] at found
      subst found
      refine ⟨Nat.le_refl _, aligned, List.forall_mem_cons.mpr
        ⟨Or.inl (by omega), fun reservation member => Or.inl ?_⟩⟩
      have order := behind reservation member
      omega
    · split at found
      · obtain ⟨_, isRaised, found⟩ := bind_eq_ok.mp found
        obtain ⟨_, raisedAligned⟩ := alignUpAddress_eq_ok power isRaised
        obtain ⟨later, startAligned, apart⟩ := ih separatedRest raisedAligned found
        exact ⟨by omega, startAligned, List.forall_mem_cons.mpr ⟨Or.inr (by omega), apart⟩⟩
      · obtain ⟨later, startAligned, apart⟩ := ih separatedRest aligned found
        exact ⟨later, startAligned, List.forall_mem_cons.mpr ⟨Or.inr (by omega), apart⟩⟩

theorem apart_of_findFirstFit
    (power : IsPowerOfTwo alignment) (separated : Separated planner.reservations)
    (found : planner.findFirstFit size alignment = .ok start) :
    alignment ∣ start ∧
      ∀ reservation ∈ planner.reservations, reservation.Apart start (start + size) := by
  obtain ⟨_, isCandidate, found⟩ := bind_eq_ok.mp found
  obtain ⟨_, aligned⟩ := alignUpAddress_eq_ok power isCandidate
  exact (apart_of_searchGap power separated aligned found).2

variable {reservation : Reservation}

theorem mem_placeSorted {other : Reservation} :
    other ∈ placeSorted reservation reservations ↔ other = reservation ∨ other ∈ reservations := by
  fun_induction placeSorted with
  | case1 | case2 => simp
  | case3 _ _ _ ih =>
    simp only [List.mem_cons, ih]
    exact or_left_comm

theorem Separated.placeSorted (separated : Separated reservations) (nonempty : reservation.size ≠ 0)
    (apart : ∀ other ∈ reservations,
      other.Apart reservation.start (reservation.start + reservation.size)) :
    Separated (placeSorted reservation reservations) := by
  fun_induction Winhost.placeSorted with
  | case1 => exact List.pairwise_singleton _ _
  | case2 first rest =>
    obtain ⟨behind, _⟩ := List.pairwise_cons.mp separated
    have ends : reservation.start + reservation.size ≤ first.start := by
      have firstApart := apart first (List.mem_cons_self ..)
      unfold Reservation.Apart at firstApart
      omega
    refine List.pairwise_cons.mpr ⟨List.forall_mem_cons.mpr ⟨ends, ?_⟩, separated⟩
    intro other member
    have order := behind other member
    omega
  | case3 first rest _ ih =>
    obtain ⟨behind, separatedRest⟩ := List.pairwise_cons.mp separated
    obtain ⟨firstApart, apartRest⟩ := List.forall_mem_cons.mp apart
    unfold Reservation.Apart at firstApart
    refine List.pairwise_cons.mpr ⟨?_, ih separatedRest apartRest⟩
    intro other member
    rcases mem_placeSorted.mp member with rfl | member
    · omega
    · exact behind other member

/-- A reservation that fits between those of a planner. -/
def Fits (planner : VirtualAddressPlanner) (reservation : Reservation) : Prop :=
  reservation.size ≠ 0 ∧ ∀ other ∈ planner.reservations,
    other.Apart reservation.start (reservation.start + reservation.size)

theorem size_of_validateSize (checked : validateSize size = .ok ()) :
    size ≠ 0 ∧ size % vmPageSize = 0 :=
  require_eq_ok.mp checked

variable {protection : VmProtection} {kind : ReservationKind}

theorem fits_planExact {value : Reservation}
    (planned : planner.planExact start size protection kind =
      .ok (reservation, value)) : Fits planner reservation := by
  unfold planExact at planned
  simp only [bind_eq_ok] at planned
  obtain ⟨_, sized, _, _, _, available, isResult⟩ := planned
  cases isResult
  exact ⟨(size_of_validateSize sized).1, apart_of_validateAvailable available⟩

theorem fits_planFirstFit {value : Reservation} (separated : Separated planner.reservations)
    (planned : planner.planFirstFit size alignment protection kind =
      .ok (reservation, value)) : Fits planner reservation := by
  unfold planFirstFit at planned
  simp only [bind_eq_ok] at planned
  obtain ⟨_, sized, _, checked, _, found, isResult⟩ := planned
  cases isResult
  have power : IsPowerOfTwo alignment := (require_eq_ok.mp checked).2
  exact ⟨(size_of_validateSize sized).1, (apart_of_findFirstFit power separated found).2⟩

variable {placement : ImagePlacement}

theorem apart_of_placeImage {loader : LoaderPlan} (separated : Separated planner.reservations)
    (placed : planner.placeImage loader placement = .ok base) :
    peImageAlignment ∣ base ∧
      ∀ reservation ∈ planner.reservations, reservation.Apart base (base + loader.sizeOfImage) := by
  revert placed
  fun_cases placeImage with
  | case1 _ preferred =>
    intro placed
    rw [pure_eq_ok] at placed
    subst placed
    refine ⟨Nat.dvd_of_mod_eq_zero preferred.1, ?_⟩
    cases available : planner.validateAvailable loader.imageBase loader.sizeOfImage with
    | error error =>
      rw [available] at preferred
      cases preferred.2
    | ok => exact apart_of_validateAvailable available
  | case2 => nofun
  | case3 => exact apart_of_findFirstFit (isPowerOfTwo_two_pow 16) separated

/-! ## Layouts -/

/-- The mapping of a section of an image at a base. -/
structure Maps (base size : Nat) (header : SectionHeader) (mapping : PeSectionMapping) : Prop where
  address : mapping.address = base + header.virtualAddress
  length : mapping.size = header.mappedSize
  execute : mapping.protection.execute = header.isExecutable
  nonempty : mapping.size ≠ 0
  inside : mapping.address + mapping.size ≤ base + size

theorem range_of_validateImageSubrange {imageBase imageSize rangeStart rangeSize : Nat}
    (checked : validateImageSubrange imageBase imageSize rangeStart rangeSize = .ok ()) :
    rangeSize ≠ 0 ∧ imageBase ≤ rangeStart ∧ rangeStart + rangeSize ≤ imageBase + imageSize := by
  unfold validateImageSubrange at checked
  simp only [bind_eq_ok, require_eq_ok] at checked
  obtain ⟨_, imageAdded, _, rangeAdded, inside⟩ := checked
  rw [addressAdd_eq_ok imageAdded, addressAdd_eq_ok rangeAdded]
  exact inside

theorem maps_mapSection {header : SectionHeader}
    (mapped :
      mapSection base size (.ofHeader header) = .ok mapping) : Maps base size header mapping := by
  unfold mapSection at mapped
  simp only [bind_eq_ok, pure_eq_ok] at mapped
  obtain ⟨_, added, _, isProtection, _, checked, rfl⟩ := mapped
  obtain ⟨nonempty, _, inside⟩ := range_of_validateImageSubrange checked
  refine ⟨(addressAdd_eq_ok added).symm, rfl, ?_, nonempty, inside⟩
  unfold VmProtection.fromPe VmProtection.tryNew at isProtection
  split at isProtection
  · cases isProtection
  · cases isProtection
    rfl

theorem maps_mapSections {headers : List SectionHeader} {mappings : List PeSectionMapping}
    (mapped : mapSections base size (headers.map SectionLoad.ofHeader) = .ok mappings) :
    List.Forall₂ (Maps base size) headers mappings := by
  induction headers generalizing mappings with
  | nil =>
    rw [List.map_nil, mapSections, pure_eq_ok] at mapped
    subst mapped
    exact List.Forall₂.nil
  | cons _ _ ih =>
    rw [List.map_cons, mapSections] at mapped
    simp only [bind_eq_ok, pure_eq_ok] at mapped
    obtain ⟨_, isMapping, _, isLater, rfl⟩ := mapped
    exact List.Forall₂.cons (maps_mapSection isMapping) (ih isLater)

/-- The layout of an image in terms of its headers. -/
structure Laid (planner : VirtualAddressPlanner) (image : PeImage)
    (headersSize : Nat) (reservation : Reservation) (layout : PeImageLayout) : Prop where
  reserved : layout.reservation = reservation
  fits : Fits planner reservation
  aligned : peImageAlignment ∣ reservation.start
  headersAddress : layout.headers.address = reservation.start
  headersLength : layout.headers.size = headersSize
  headersExecute : layout.headers.protection.execute = false
  headersNonempty : headersSize ≠ 0
  headersInside : headersSize ≤ reservation.size
  sections : List.Forall₂ (Maps reservation.start reservation.size) image.sections layout.sections
  entry : ∀ address, layout.entryAddress = some address → image.optional.addressOfEntryPoint ≠ 0 ∧
    address = reservation.start + image.optional.addressOfEntryPoint

theorem peResult_eq_ok {α : Type} {result : Except PeError α} {value : α}
    (isOk : peResult result = .ok value) :
    result = .ok value := by
  cases result with
  | error error => cases isOk
  | ok =>
    cases isOk
    rfl

theorem entry_of_entryAddressOf {entryRva address : Nat} {entry : Option Nat}
    (computed : entryAddressOf base entryRva = .ok entry) (present : entry = some address) :
    entryRva ≠ 0 ∧ address = base + entryRva := by
  unfold entryAddressOf at computed
  split at computed
  · rw [present] at computed
    cases computed
  · next nonzero =>
    obtain ⟨_, added, isEntry⟩ := map_eq_ok.mp computed
    rw [present] at isEntry
    cases isEntry
    exact ⟨nonzero, (addressAdd_eq_ok added).symm⟩

theorem laid_planPeImage {image : PeImage} {layout : PeImageLayout}
    (separated : Separated planner.reservations)
    (planned : planner.planPeImage image placement = .ok (reservation, layout)) :
    ∃ field headersSize,
      alignUp image.optional.sizeOfHeaders image.optional.sectionAlignment field = .ok headersSize ∧
        Laid planner image headersSize reservation layout := by
  unfold planPeImage at planned
  simp only [bind_eq_ok] at planned
  obtain ⟨loader, isLoader, _, sized, base, placed, _, _, headers, isHeaders,
    sections, isSections, entry, isEntry, isResult⟩ := planned
  cases isResult
  have plan := peResult_eq_ok isLoader
  obtain ⟨size, isSize, plan⟩ := bind_eq_ok.mp plan
  rw [pure_eq_ok] at plan
  subst plan
  unfold mapHeaders at isHeaders
  simp only [bind_eq_ok, pure_eq_ok] at isHeaders
  obtain ⟨address, added, _, checked, rfl⟩ := isHeaders
  have isAddress := addressAdd_eq_ok added
  obtain ⟨nonempty, _, _⟩ := range_of_validateImageSubrange checked
  obtain ⟨aligned, apart⟩ := apart_of_placeImage separated placed
  refine ⟨_, size, isSize, ?_⟩
  exact
    { reserved := rfl
      fits := ⟨(size_of_validateSize sized).1, apart⟩
      aligned := aligned
      headersAddress := isAddress.symm
      headersLength := rfl
      headersExecute := rfl
      headersNonempty := nonempty
      headersInside := by simp only; omega
      sections := maps_mapSections isSections
      entry := fun address present => entry_of_entryAddressOf isEntry present }

end Planner

/-! ## Pages -/

def PeSectionMapping.Touches (mapping : PeSectionMapping) (page : Nat) : Prop :=
  mapping.address < (page + 1) * vmPageSize ∧ page * vmPageSize < mapping.address + mapping.size

def PagesApart (first second : PeSectionMapping) : Prop :=
  ∀ page, ¬ (first.Touches page ∧ second.Touches page)

def PeImageLayout.mappings (layout : PeImageLayout) : List PeSectionMapping :=
  layout.headers :: layout.sections

/-- The mapped headers and the sections of an image are whole pages of it. -/
def InPages (image : PeImage) : Prop :=
  (∀ field size,
    alignUp image.optional.sizeOfHeaders image.optional.sectionAlignment field = .ok size →
      vmPageSize ∣ size) ∧
    ∀ header ∈ image.sections,
      vmPageSize ∣ header.virtualAddress ∧ vmPageSize ∣ header.mappedSize

/-- The mappings of an image are whole pages of a free range, and no page is
writable and executable. -/
structure PageSafe (planner : VirtualAddressPlanner) (layout : PeImageLayout) : Prop where
  free : ∀ reservation ∈ planner.reservations,
    reservation.Apart layout.reservation.start (layout.reservation.start + layout.reservation.size)
  bounds : ∀ mapping ∈ layout.mappings, vmPageSize ∣ mapping.address ∧
    vmPageSize ∣ mapping.address + mapping.size ∧
    layout.reservation.start ≤ mapping.address ∧
    mapping.address + mapping.size ≤ layout.reservation.start + layout.reservation.size
  apart : layout.mappings.Pairwise PagesApart
  exclusive : ∀ page, ¬ ((∃ mapping ∈ layout.mappings, mapping.Touches page ∧
        mapping.protection.write = true) ∧
      ∃ mapping ∈ layout.mappings, mapping.Touches page ∧ mapping.protection.execute = true)
  entry : ∀ address, layout.entryAddress = some address → ∃ mapping ∈ layout.mappings,
    mapping.Touches (address / vmPageSize) ∧ mapping.protection.execute = true

section Pages

variable {planner : VirtualAddressPlanner} {image : PeImage}
variable {headersSize : Nat} {reservation : Reservation} {layout : PeImageLayout}

theorem pagesApart_of_le {first second : PeSectionMapping} (aligned : vmPageSize ∣ second.address)
    (ordered : first.address + first.size ≤ second.address) :
    PagesApart first second := by
  rintro _ ⟨firstTouches, secondTouches⟩
  obtain ⟨_, isAddress⟩ := aligned
  have above := firstTouches.2
  have below := secondTouches.1
  unfold vmPageSize at above below isAddress
  omega

theorem PagesApart.symm {first second : PeSectionMapping}
    (apart : PagesApart first second) : PagesApart second first :=
  fun page touches => apart page ⟨touches.2, touches.1⟩

instance : Std.Symm PagesApart :=
  ⟨fun _ _ => PagesApart.symm⟩

/-- In lists that are related item by item every item has its partner. -/
theorem exists_partner {α β : Type} {relation : α → β → Prop} {left : List α} {right : List β}
    {item : β} (related : List.Forall₂ relation left right)
    (member : item ∈ right) : ∃ partner ∈ left, relation partner item := by
  induction related with
  | nil => cases member
  | @cons first _ left right holds _ ih =>
    rcases List.mem_cons.mp member with rfl | member
    · exact ⟨first, List.mem_cons_self .., holds⟩
    · obtain ⟨partner, isPartner, related⟩ := ih member
      exact ⟨partner, List.mem_cons_of_mem _ isPartner, related⟩

theorem ordered_of_rangesOverlap {firstStart firstSize secondStart secondSize : Nat}
    (apart : rangesOverlap firstStart firstSize secondStart secondSize = false)
    (firstNonempty : firstSize ≠ 0) (secondNonempty : secondSize ≠ 0) :
    firstStart + firstSize ≤ secondStart ∨ secondStart + secondSize ≤ firstStart := by
  unfold rangesOverlap at apart
  rw [if_neg (by simp [firstNonempty, secondNonempty])] at apart
  split at apart
  · next firstAdded secondAdded =>
    have isFirst := (checkedAdd32_eq_some firstAdded).1
    have isSecond := (checkedAdd32_eq_some secondAdded).1
    simp only [Bool.and_eq_false_iff, decide_eq_false_iff_not] at apart
    omega
  · cases apart

theorem inPages_of_alignment (accepted : image.Accepted headersSize)
    (paged : vmPageSize ≤ image.optional.sectionAlignment) : InPages image := by
  have pages := (isPowerOfTwo_two_pow 12).dvd accepted.alignment paged
  refine ⟨fun _ _ rounded => pages.trans (alignUp_eq_ok accepted.alignment rounded).2, ?_⟩
  intro header member
  have isAccepted := accepted.sections header member
  exact ⟨pages.trans isAccepted.address, pages.trans isAccepted.size⟩

section Laid

variable (laid : Laid planner image headersSize reservation layout)

include laid

theorem Laid.page_dvd_start : vmPageSize ∣ reservation.start :=
  Nat.dvd_trans (by decide) laid.aligned

theorem Laid.bounds (accepted : image.Accepted headersSize) (inPages : InPages image)
    (member : mapping ∈ layout.mappings) :
    vmPageSize ∣ mapping.address ∧
      vmPageSize ∣ mapping.address + mapping.size ∧
      reservation.start ≤ mapping.address ∧
      mapping.address + mapping.size ≤ reservation.start + reservation.size := by
  have start := laid.page_dvd_start
  rcases List.mem_cons.mp member with rfl | member
  · rw [laid.headersAddress, laid.headersLength]
    exact ⟨start, start.add (inPages.1 "" _ (accepted.headers _)), Nat.le_refl _,
      Nat.add_le_add_left laid.headersInside _⟩
  · obtain ⟨_, isSection, maps⟩ := exists_partner laid.sections member
    obtain ⟨address, size⟩ := inPages.2 _ isSection
    have inside := maps.inside
    rw [maps.address, maps.length] at inside ⊢
    exact ⟨start.add address, (start.add address).add size, Nat.le_add_right _ _, inside⟩

/-- Safe pages need an image of whole pages. -/
theorem Laid.inPages (accepted : image.Accepted headersSize) (safe : PageSafe planner layout) :
    InPages image := by
  have start := laid.page_dvd_start
  constructor
  · intro field size rounded
    cases (accepted.headers field).symm.trans rounded
    have stop := (safe.bounds _ (List.mem_cons_self ..)).2.1
    rw [laid.headersAddress, laid.headersLength] at stop
    exact (Nat.dvd_add_right start).mp stop
  · intro header member
    obtain ⟨mapping, isMapping, maps⟩ := exists_partner laid.sections.flip member
    obtain ⟨address, stop, _⟩ := safe.bounds mapping (List.mem_cons_of_mem _ isMapping)
    rw [maps.length, Nat.dvd_add_right address] at stop
    rw [maps.address, Nat.dvd_add_right start] at address
    exact ⟨address, stop⟩

end Laid

variable {mappings : List PeSectionMapping}

theorem sections_apart {size : Nat} {headers : List SectionHeader}
    (mapped : List.Forall₂ (Maps base size) headers mappings)
    (disjoint : headers.Pairwise fun first second =>
      rangesOverlap first.virtualAddress first.mappedSize
        second.virtualAddress second.mappedSize = false)
    (aligned : ∀ mapping ∈ mappings, vmPageSize ∣ mapping.address) :
    mappings.Pairwise PagesApart := by
  induction mapped with
  | nil => exact List.Pairwise.nil
  | @cons _ mapping headers mappings maps later ih =>
    obtain ⟨apart, disjointLater⟩ := List.pairwise_cons.mp disjoint
    refine List.pairwise_cons.mpr ⟨?_, ih disjointLater
      (fun other member => aligned other (List.mem_cons_of_mem _ member))⟩
    intro other member
    obtain ⟨otherHeader, otherMember, otherMaps⟩ := exists_partner later member
    have firstNonempty := maps.nonempty
    have otherNonempty := otherMaps.nonempty
    rw [maps.length] at firstNonempty
    rw [otherMaps.length] at otherNonempty
    rcases ordered_of_rangesOverlap (apart otherHeader otherMember)
        firstNonempty otherNonempty with before | behind
    · apply pagesApart_of_le (aligned other (List.mem_cons_of_mem _ member))
      rw [maps.address, maps.length, otherMaps.address]
      omega
    · apply PagesApart.symm
      apply pagesApart_of_le (aligned _ (List.mem_cons_self ..))
      rw [maps.address, otherMaps.address, otherMaps.length]
      omega

theorem Laid.apart (laid : Laid planner image headersSize reservation layout)
    (accepted : image.Accepted headersSize) (inPages : InPages image) :
    layout.mappings.Pairwise PagesApart := by
  have aligned : ∀ mapping ∈ layout.sections, vmPageSize ∣ mapping.address :=
    fun mapping member => (laid.bounds accepted inPages (List.mem_cons_of_mem _ member)).1
  refine List.pairwise_cons.mpr ⟨?_, sections_apart laid.sections accepted.disjoint aligned⟩
  intro mapping member
  obtain ⟨header, isSection, maps⟩ := exists_partner laid.sections member
  have nonempty := maps.nonempty
  rw [maps.length] at nonempty
  have behind := (accepted.sections header isSection).behind nonempty
  apply pagesApart_of_le (aligned mapping member)
  rw [laid.headersAddress, laid.headersLength, maps.address]
  exact Nat.add_le_add_left behind _

theorem exclusive_of_apart (apart : mappings.Pairwise PagesApart) (page : Nat) :
    ¬ ((∃ mapping ∈ mappings, mapping.Touches page ∧ mapping.protection.write = true) ∧
        ∃ mapping ∈ mappings, mapping.Touches page ∧ mapping.protection.execute = true) := by
  rintro ⟨⟨first, firstMember, firstTouches, writable⟩,
    second, secondMember, secondTouches, executable⟩
  by_cases same : first = second
  · subst same
    exact first.protection.exclusive ⟨writable, executable⟩
  · exact apart.forall firstMember secondMember same page ⟨firstTouches, secondTouches⟩

theorem Laid.entry_executable (laid : Laid planner image headersSize reservation layout)
    (accepted : image.Accepted headersSize) {address : Nat}
    (present : layout.entryAddress = some address) :
    ∃ mapping ∈ layout.mappings,
      mapping.Touches (address / vmPageSize) ∧ mapping.protection.execute = true := by
  obtain ⟨nonzero, _⟩ := laid.entry address present
  obtain ⟨_, member, hasEntry⟩ := accepted.entry nonzero
  obtain ⟨mapping, isMapping, maps⟩ :=
    exists_partner laid.sections.flip member
  revert hasEntry
  fun_cases SectionHeader.hasEntry with
  | case1 => nofun
  | case2 _ added =>
    intro hasEntry
    have isStop := (checkedAdd32_eq_some added).1
    simp only [Bool.and_eq_true, decide_eq_true_eq] at hasEntry
    refine ⟨mapping, List.mem_cons_of_mem _ isMapping, ?_, ?_⟩
    · unfold PeSectionMapping.Touches
      rw [maps.address, maps.length]
      unfold vmPageSize
      omega
    · rw [maps.execute]
      exact hasEntry.2

theorem Laid.pageSafe (laid : Laid planner image headersSize reservation layout)
    (accepted : image.Accepted headersSize) (inPages : InPages image) :
    PageSafe planner layout where
  free := by
    rw [laid.reserved]
    exact laid.fits.2
  bounds := by
    rw [laid.reserved]
    exact fun mapping member => laid.bounds accepted inPages member
  apart := laid.apart accepted inPages
  exclusive := exclusive_of_apart (laid.apart accepted inPages)
  entry := fun address present => laid.entry_executable accepted present

end Pages

/-! ## Runs -/

section Runs

variable {planner next : VirtualAddressPlanner}

theorem reserve_cases {α : Type}
    {planned : Except AddressError (Reservation × α)} {result : Except AddressError α}
    (called : planner.reserve planned = (result, next)) :
    ((∃ error, result = .error error) ∧ next = planner) ∨
      ∃ reservation value, planned = .ok (reservation, value) ∧
        result = .ok value ∧
        next =
          { planner with
            reservations := placeSorted reservation planner.reservations } := by
  revert called
  fun_cases reserve with
  | case1 error =>
    rintro ⟨⟩
    exact Or.inl ⟨⟨error, rfl⟩, rfl⟩
  | case2 reservation value error changed inserted =>
    rintro ⟨⟩
    revert inserted
    fun_cases insertSorted with
    | case1 =>
      rintro ⟨⟩
      exact Or.inl ⟨⟨_, rfl⟩, rfl⟩
    | case2 => nofun
  | case3 reservation value changed inserted =>
    rintro ⟨⟩
    revert inserted
    fun_cases insertSorted with
    | case1 => nofun
    | case2 =>
      rintro ⟨⟩
      exact Or.inr ⟨reservation, value, rfl, rfl, rfl⟩

theorem separated_reserve {α : Type}
    {planned : Except AddressError (Reservation × α)} (separated : Separated planner.reservations)
    (fits : ∀ reservation value, planned = .ok (reservation, value) → Fits planner reservation) :
    Separated (planner.reserve planned).2.reservations := by
  rcases reserve_cases (Prod.eta (planner.reserve planned)).symm with
    ⟨_, same⟩ | ⟨reservation, value, isPlanned, _, inserted⟩
  · rw [same]
    exact separated
  · obtain ⟨nonempty, apart⟩ := fits reservation value isPlanned
    rw [inserted]
    exact separated.placeSorted nonempty apart

theorem separated_step
    {operation : VirtualAddressPlanner.Operation} (separated : Separated planner.reservations)
    (stepped : planner.step operation = some next) :
    Separated next.reservations := by
  cases operation with
  | reserveExact _ size protection kind =>
    cases stepped
    exact separated_reserve separated (fun _ _ planned => fits_planExact planned)
  | reserveFirstFit size _ protection kind =>
    cases stepped
    exact separated_reserve separated (fun _ _ planned => fits_planFirstFit separated planned)
  | reservePeImage =>
    cases stepped
    refine separated_reserve separated (fun _ _ planned => ?_)
    obtain ⟨_, _, _, laid⟩ := laid_planPeImage separated planned
    exact laid.fits

theorem separated_of_reached {capacity floor ceiling : Nat} {start : VirtualAddressPlanner}
    {operations : List VirtualAddressPlanner.Operation}
    (created : tryNew capacity floor ceiling = .ok start)
    (reached : Execution.exec step start operations = some planner) :
    Separated planner.reservations := by
  have initially : Separated start.reservations := by
    unfold tryNew at created
    simp only [bind_eq_ok, pure_eq_ok] at created
    obtain ⟨_, _, _, _, rfl⟩ := created
    exact List.Pairwise.nil
  have preserved :
      ∀ (state : VirtualAddressPlanner) operation next,
        Separated state.reservations → state.step operation = some next →
          Separated next.reservations :=
    fun _ _ _ separated stepped => separated_step separated stepped
  exact Execution.invariant_of_exec preserved initially reached

/-- An image is placed in whole pages, none of them writable and executable,
exactly if it is made of whole pages; a refused image changes nothing. -/
theorem placed_pages_exclusive {capacity floor ceiling : Nat} {start : VirtualAddressPlanner}
    {operations : List VirtualAddressPlanner.Operation}
    {bytes : List UInt8} {image : PeImage} {placement : ImagePlacement}
    {result : Except AddressError PeImageLayout}
    (created : tryNew capacity floor ceiling = .ok start)
    (reached : Execution.exec step start operations = some planner)
    (parsed : parse bytes = .ok image)
    (called : planner.reservePeImage image placement = (result, next)) :
    (∀ layout, result = .ok layout → (PageSafe planner layout ↔ InPages image)) ∧
      ∀ error, result = .error error → next = planner := by
  have separated := separated_of_reached created reached
  obtain ⟨_, accepted⟩ := accepted_of_parse parsed
  rcases reserve_cases called with
    ⟨⟨error, isError⟩, same⟩ | ⟨reservation, layout, planned, isOk, inserted⟩
  · refine ⟨?_, fun _ _ => same⟩
    intro layout isOk
    rw [isError] at isOk
    cases isOk
  · refine ⟨?_, ?_⟩
    · intro other isOther
      rw [isOk] at isOther
      cases isOther
      obtain ⟨_, _, rounded, laid⟩ := laid_planPeImage separated planned
      rw [accepted.headers] at rounded
      cases rounded
      exact ⟨laid.inPages accepted, laid.pageSafe accepted⟩
    · intro error isError
      rw [isOk] at isError
      cases isError

end Runs

/-! ## Images -/

/-- The bytes of an image with two sections of one alignment: one that is
executable, with the entry at its start, and one that is writable. -/
def twoSectionImage (alignment headersSize codeSize dataSize : Nat) : List UInt8 :=
  let word (width value : Nat) := Bytes.encodeLE width value
  let zeros (count : Nat) : List UInt8 := List.replicate count 0
  let header (size address characteristics : Nat) :=
    zeros 8 ++ word 4 size ++ word 4 address ++ zeros 20 ++ word 4 characteristics
  let mapped := (headersSize + alignment - 1) / alignment * alignment
  [0x4d, 0x5a] ++ zeros 58 ++ word 4 64 ++
    word 4 peSignature ++
    word 2 imageFileMachineAmd64 ++ word 2 2 ++ zeros 12 ++ word 2 112 ++
    zeros 2 ++
    word 2 imageNtOptionalHdr64Magic ++ zeros 14 ++ word 4 mapped ++
    zeros 4 ++ word 8 0x140000000 ++ word 4 alignment ++
    word 4 (min alignment 0x200) ++ zeros 16 ++
    word 4 (mapped + codeSize + dataSize) ++ word 4 headersSize ++
    zeros 48 ++
    header codeSize mapped (imageScnMemRead + imageScnMemExecute) ++
    header dataSize (mapped + codeSize) (imageScnMemRead + imageScnMemWrite) ++
    zeros (headersSize - 280)

/-- The ranges and the protections of the sections of a layout. -/
def sectionRanges (layout : PeImageLayout) : List (Nat × Nat) × List (Bool × Bool) :=
  (layout.sections.map (fun mapping => (mapping.address, mapping.size)),
    layout.sections.map (fun mapping => (mapping.protection.write, mapping.protection.execute)))

/-- Where an image goes in a planner without reservations. -/
def placedSections (bytes : List UInt8) : Option (List (Nat × Nat) × List (Bool × Bool)) := do
  let image ← (parse bytes).toOption
  let layout ← ((empty 4 0x10000 (2 ^ 47)).reservePeImage image .preferredOnly).1.toOption
  some (sectionRanges layout)

theorem placedSections_eq_some {bytes : List UInt8} {ranges : List (Nat × Nat) × List (Bool × Bool)}
    (placed : placedSections bytes = some ranges) :
    ∃ image layout next, parse bytes = .ok image ∧
      (empty 4 0x10000 (2 ^ 47)).reservePeImage image .preferredOnly = (.ok layout, next) ∧
      sectionRanges layout = ranges := by
  unfold placedSections at placed
  simp only [Option.bind_eq_bind, Option.bind_eq_some_iff, toOption_eq_some] at placed
  obtain ⟨image, parsed, layout, called, isRanges⟩ := placed
  exact ⟨image, layout, _, parsed, Prod.ext called rfl, Option.some.inj isRanges⟩

def pagedImage : List UInt8 :=
  twoSectionImage 4096 512 4096 8192

theorem pagedImage_placed :
    ∃ image layout next, parse pagedImage = .ok image ∧
      (empty 4 0x10000 (2 ^ 47)).reservePeImage image .preferredOnly = (.ok layout, next) ∧
      sectionRanges layout =
        ([(0x140001000, 4096), (0x140002000, 8192)], [(false, true), (true, false)]) ∧
      PageSafe (.empty 4 0x10000 (2 ^ 47)) layout := by
  have placed :
      placedSections pagedImage =
        some ([(0x140001000, 4096), (0x140002000, 8192)], [(false, true), (true, false)]) := by
    decide +kernel
  have aligned :
      (parse pagedImage).toOption.map
        (fun image => image.optional.sectionAlignment) = some 4096 := by
    decide +kernel
  obtain ⟨image, layout, next, parsed, called, ranges⟩ := placedSections_eq_some placed
  rw [parsed] at aligned
  have isAlignment : image.optional.sectionAlignment = 4096 := Option.some.inj aligned
  have paged : vmPageSize ≤ image.optional.sectionAlignment := by
    rw [isAlignment]
    decide
  have safe := placed_pages_exclusive
    (show tryNew 4 0x10000 (2 ^ 47) = .ok (.empty 4 0x10000 (2 ^ 47)) by decide +kernel)
    (Execution.exec_nil _) parsed called
  obtain ⟨_, accepted⟩ := accepted_of_parse parsed
  exact ⟨image, layout, next, parsed, called, ranges,
    (safe.1 layout rfl).mpr (inPages_of_alignment accepted paged)⟩

/-- Sections aligned to eight bytes on one page. -/
def lowAlignmentImage : List UInt8 :=
  twoSectionImage 8 280 8 3808

theorem not_pageSafe_of_ranges {planner : VirtualAddressPlanner} {layout : PeImageLayout}
    (ranges : sectionRanges layout =
      ([(0x140000118, 8), (0x140000120, 3808)], [(false, true), (true, false)])) :
    ¬ PageSafe planner layout := by
  obtain ⟨addresses, protections⟩ := Prod.mk.inj ranges
  obtain ⟨code, _, isSections, isCode, later⟩ := List.map_eq_cons_iff.mp addresses
  obtain ⟨data, _, rfl, isData, _⟩ := List.map_eq_cons_iff.mp later
  rw [isSections, List.map_cons, List.map_cons] at protections
  simp only [List.cons.injEq, Prod.mk.injEq] at protections
  obtain ⟨codeAddress, codeSize⟩ := Prod.mk.inj isCode
  obtain ⟨dataAddress, dataSize⟩ := Prod.mk.inj isData
  intro safe
  refine safe.exclusive 0x140000 ⟨⟨data, ?_, ?_, protections.2.1.1⟩, code, ?_, ?_, protections.1.2⟩
  · simp [PeImageLayout.mappings, isSections]
  · rw [PeSectionMapping.Touches, dataAddress, dataSize]
    decide
  · simp [PeImageLayout.mappings, isSections]
  · rw [PeSectionMapping.Touches, codeAddress, codeSize]
    decide

/-- The code and the data of an accepted image lie on one page. -/
theorem low_alignment_page_shared :
    ∃ image layout next, tryNew 4 0x10000 (2 ^ 47) = .ok (.empty 4 0x10000 (2 ^ 47)) ∧
      parse lowAlignmentImage = .ok image ∧
      (empty 4 0x10000 (2 ^ 47)).reservePeImage image .preferredOnly = (.ok layout, next) ∧
      ¬ PageSafe (.empty 4 0x10000 (2 ^ 47)) layout := by
  have placed :
      placedSections lowAlignmentImage =
        some ([(0x140000118, 8), (0x140000120, 3808)], [(false, true), (true, false)]) := by
    decide +kernel
  obtain ⟨image, layout, next, parsed, called, ranges⟩ := placedSections_eq_some placed
  exact ⟨image, layout, next, by decide +kernel, parsed, called, not_pageSafe_of_ranges ranges⟩

end Xenith.Winhost
