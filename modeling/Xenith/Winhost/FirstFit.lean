import Xenith.Winhost.ImagePlacement

/-!
# First fit of the address planner
-/

namespace Xenith.Winhost

open VirtualAddressPlanner
open Fallible

variable {planner : VirtualAddressPlanner} {reservations : List Reservation}
variable {start size alignment candidate : Nat}

namespace VirtualAddressPlanner

/-- A range inside of the bounds that no reservation reaches into. -/
def Vacant (planner : VirtualAddressPlanner) (start size : Nat) : Prop :=
  planner.floor ≤ start ∧ start + size ≤ planner.ceiling ∧
    ∀ reservation ∈ planner.reservations, reservation.Apart start (start + size)

/-- The reservations are sorted and disjoint, and whole pages inside of the
bounds. -/
structure Orderly (planner : VirtualAddressPlanner) : Prop where
  separated : Separated planner.reservations
  pages : ∀ reservation ∈ planner.reservations,
    vmPageSize ∣ reservation.start ∧ vmPageSize ∣ reservation.size
  inside : ∀ reservation ∈ planner.reservations,
    planner.floor ≤ reservation.start ∧ reservation.start + reservation.size ≤ planner.ceiling

end VirtualAddressPlanner

/-! ## Checks -/

theorem addressAdd_iff {left right sum : Nat} :
    addressAdd left right = .ok sum ↔ left + right = sum ∧ sum < 2 ^ 64 := by
  rw [addressAdd, expect_eq_ok]
  refine ⟨checkedAdd_eq_some, ?_⟩
  rintro ⟨rfl, bounded⟩
  exact checkedAdd_of_lt bounded

theorem overlapsNone_iff {stop : Nat}
    (word : ∀ reservation ∈ reservations, reservation.start + reservation.size < 2 ^ 64) :
    overlapsNone start stop reservations = .ok () ↔
      ∀ reservation ∈ reservations, reservation.Apart start stop := by
  refine ⟨apart_of_overlapsNone, ?_⟩
  induction reservations with
  | nil => exact fun _ => rfl
  | cons _ _ ih =>
    intro apart
    obtain ⟨firstApart, laterApart⟩ := List.forall_mem_cons.mp apart
    obtain ⟨firstWord, laterWord⟩ := List.forall_mem_cons.mp word
    rw [overlapsNone]
    simp only [bind_eq_ok, require_eq_ok, addressAdd_iff]
    refine ⟨_, ⟨rfl, firstWord⟩, (), ?_, ih laterWord laterApart⟩
    unfold Reservation.Apart at firstApart
    omega

theorem validateAvailable_iff (orderly : planner.Orderly) (word : planner.ceiling < 2 ^ 64) :
    planner.validateAvailable start size = .ok () ↔ planner.Vacant start size := by
  have ends :
      ∀ reservation ∈ planner.reservations, reservation.start + reservation.size < 2 ^ 64 := by
    intro reservation member
    have inside := (orderly.inside reservation member).2
    omega
  unfold validateAvailable Vacant
  simp only [bind_eq_ok, require_eq_ok, addressAdd_iff, overlapsNone_iff ends]
  constructor
  · rintro ⟨_, ⟨rfl, _⟩, _, ⟨low, high⟩, apart⟩
    exact ⟨low, high, apart⟩
  · rintro ⟨low, high, apart⟩
    exact ⟨_, ⟨rfl, by omega⟩, (), ⟨low, high⟩, apart⟩

theorem isLeast_alignUpAddress {value rounded : Nat}
    (power : IsPowerOfTwo alignment) (aligned : alignUpAddress value alignment = .ok rounded) :
    IsLeast { other | value ≤ other ∧ alignment ∣ other } rounded := by
  obtain ⟨above, multiple⟩ := alignUpAddress_eq_ok power aligned
  unfold alignUpAddress at aligned
  simp only [bind_eq_ok, addressAdd_iff, pure_eq_ok] at aligned
  have positive := power.pos
  refine ⟨⟨above, multiple⟩, ?_⟩
  rintro other ⟨_, otherMultiple⟩
  exact Nat.le_of_lt_add_of_dvd (by omega) multiple otherMultiple

/-- Rounding up fails only when there is no multiple among the words. -/
theorem exists_alignUpAddress {value other : Nat}
    (power : IsPowerOfTwo alignment) (small : alignment ≤ 2 ^ 64)
    (low : value ≤ other) (multiple : alignment ∣ other) (word : other < 2 ^ 64) :
    ∃ rounded, alignUpAddress value alignment = .ok rounded := by
  have room : value + (alignment - 1) < 2 ^ 64 := by
    by_contra overflows
    have divides : alignment ∣ 2 ^ 64 := power.dvd (isPowerOfTwo_two_pow 64) small
    have beyond : 2 ^ 64 ≤ other := Nat.le_of_lt_add_of_dvd (by omega) divides multiple
    omega
  unfold alignUpAddress
  simp only [bind_eq_ok, addressAdd_iff]
  exact ⟨_, _, ⟨rfl, room⟩, rfl⟩

/-! ## The search -/

/-- The aligned starts of gaps from a candidate on. -/
def Gaps (planner : VirtualAddressPlanner) (size alignment : Nat)
    (reservations : List Reservation) (candidate : Nat) : Set Nat :=
  { start | candidate ≤ start ∧ alignment ∣ start ∧
    start + size ≤ planner.ceiling ∧
    ∀ reservation ∈ reservations, reservation.Apart start (start + size) }

theorem isLeast_gaps_iff (member : candidate ∈ Gaps planner size alignment reservations candidate) :
    IsLeast (Gaps planner size alignment reservations candidate) start ↔ candidate = start := by
  constructor
  · intro least
    exact le_antisymm least.1.1 (least.2 member)
  · rintro rfl
    exact ⟨member, fun other inside => inside.1⟩

/-- A first reservation that ends before all gaps, or that the candidate runs
into, only moves the candidate. -/
theorem gaps_cons {first : Reservation} {raised : Nat}
    (later : ∀ start, candidate ≤ start → alignment ∣ start →
      (first.Apart start (start + size) ↔ raised ≤ start))
    (ordered : candidate ≤ raised) :
    Gaps planner size alignment (first :: reservations) candidate =
      Gaps planner size alignment reservations raised := by
  ext start
  simp only [Gaps, List.forall_mem_cons]
  constructor
  · rintro ⟨low, aligned, high, apart, rest⟩
    exact ⟨(later start low aligned).mp apart, aligned, high, rest⟩
  · rintro ⟨low, aligned, high, rest⟩
    exact ⟨ordered.trans low, aligned, high,
      (later start (ordered.trans low) aligned).mpr low, rest⟩

theorem searchGap_iff
    (word : planner.ceiling < 2 ^ 64) (power : IsPowerOfTwo alignment) (small : alignment ≤ 2 ^ 64)
    (separated : Separated reservations)
    (inside : ∀ reservation ∈ reservations, reservation.start + reservation.size ≤ planner.ceiling)
    (low : planner.floor ≤ candidate) (aligned : alignment ∣ candidate) :
    planner.searchGap size alignment reservations candidate = .ok start ↔
      IsLeast (Gaps planner size alignment reservations candidate) start := by
  induction reservations generalizing candidate with
  | nil =>
    rw [searchGap]
    simp only [bind_eq_ok, require_eq_ok, pure_eq_ok, addressAdd_iff]
    constructor
    · rintro ⟨_, ⟨rfl, _⟩, _, ⟨_, high⟩, isStart⟩
      exact (isLeast_gaps_iff ⟨le_rfl, aligned, high, by simp⟩).mpr isStart
    · intro least
      obtain ⟨above, _, high, _⟩ := least.1
      have fits : candidate + size ≤ planner.ceiling := by omega
      exact ⟨_, ⟨rfl, by omega⟩, (), ⟨low, fits⟩,
        (isLeast_gaps_iff ⟨le_rfl, aligned, fits, by simp⟩).mp least⟩
  | cons first _ ih =>
    obtain ⟨behind, separatedRest⟩ := List.pairwise_cons.mp separated
    obtain ⟨_, insideRest⟩ := List.forall_mem_cons.mp inside
    rw [searchGap]
    by_cases fits : candidate + size < 2 ^ 64
    · rw [addressAdd_iff.mpr ⟨rfl, fits⟩, addressAdd_iff.mpr ⟨rfl, by omega⟩]
      simp only [bind, Except.bind]
      split
      · next before =>
        rw [isLeast_gaps_iff, pure_eq_ok]
        refine ⟨le_rfl, aligned, by omega, List.forall_mem_cons.mpr ⟨Or.inl before, ?_⟩⟩
        intro reservation member
        have order := behind reservation member
        exact Or.inl (by omega)
      · next taken =>
        split
        · next reaches =>
          have behindFirst {other : Nat} (above : candidate ≤ other)
              (apart : first.Apart other (other + size)) :
              first.start + first.size ≤ other := by
            unfold Reservation.Apart at apart
            omega
          cases isRaised : alignUpAddress (first.start + first.size) alignment with
          | error error =>
            refine ⟨(by cases ·), fun least => ?_⟩
            obtain ⟨above, multiple, high, apart⟩ := least.1
            have firstApart := (List.forall_mem_cons.mp apart).1
            obtain ⟨_, isRounded⟩ :=
              exists_alignUpAddress power small (behindFirst above firstApart) multiple (by omega)
            rw [isRaised] at isRounded
            cases isRounded
          | ok raised =>
            have least := isLeast_alignUpAddress power isRaised
            have above := least.1.1
            have ordered : candidate ≤ raised := by omega
            rw [ih separatedRest insideRest (low.trans ordered) least.1.2, gaps_cons _ ordered]
            intro other later multiple
            constructor
            · intro apart
              exact least.2 ⟨behindFirst later apart, multiple⟩
            · intro raisedBelow
              exact Or.inr (by omega)
        · next passed =>
          rw [ih separatedRest insideRest low aligned, gaps_cons _ le_rfl]
          unfold Reservation.Apart
          omega
    · simp only [bind_eq_ok, addressAdd_iff]
      constructor
      · rintro ⟨_, _, _, ⟨rfl, fewer⟩, _⟩
        exact absurd fewer fits
      · intro least
        obtain ⟨above, _, high, _⟩ := least.1
        omega

theorem findFirstFit_iff (orderly : planner.Orderly) (word : planner.ceiling < 2 ^ 64)
    (power : IsPowerOfTwo alignment) (small : alignment ≤ 2 ^ 64) :
    planner.findFirstFit size alignment = .ok start ↔
      IsLeast { start | alignment ∣ start ∧ planner.Vacant start size } start := by
  have ends :
      ∀ reservation ∈ planner.reservations,
        reservation.start + reservation.size ≤ planner.ceiling :=
    fun reservation member => (orderly.inside reservation member).2
  have search {candidate : Nat}
      (isCandidate : alignUpAddress planner.floor alignment = .ok candidate) :
      planner.searchGap size alignment planner.reservations candidate = .ok start ↔
        IsLeast { start | alignment ∣ start ∧ planner.Vacant start size } start := by
    have least := isLeast_alignUpAddress power isCandidate
    have same :
        Gaps planner size alignment planner.reservations candidate =
          { start | alignment ∣ start ∧ planner.Vacant start size } := by
      ext other
      constructor
      · rintro ⟨low, multiple, high, apart⟩
        exact ⟨multiple, least.1.1.trans low, high, apart⟩
      · rintro ⟨multiple, low, high, apart⟩
        exact ⟨least.2 ⟨low, multiple⟩, multiple, high, apart⟩
    rw [← same]
    exact searchGap_iff word power small orderly.separated ends least.1.1 least.1.2
  unfold findFirstFit
  rw [bind_eq_ok]
  constructor
  · rintro ⟨candidate, isCandidate, found⟩
    exact (search isCandidate).mp found
  · intro least
    obtain ⟨multiple, low, high, _⟩ := least.1
    obtain ⟨candidate, isCandidate⟩ := exists_alignUpAddress power small low multiple (by omega)
    exact ⟨candidate, isCandidate, (search isCandidate).mpr least⟩

theorem reserve_eq_ok {α : Type} {value : α} {planned : Except AddressError (Reservation × α)} :
    (planner.reserve planned).1 = .ok value ↔ (∃ reservation, planned = .ok (reservation, value)) ∧
      planner.reservations.length ≠ planner.capacity := by
  unfold reserve insertSorted
  cases planned with
  | error error => simp
  | ok =>
    by_cases full : planner.reservations.length = planner.capacity
    · simp [full]
    · simp [full, Prod.ext_iff]

section Requests

variable (orderly : planner.Orderly) (word : planner.ceiling < 2 ^ 64)
variable {protection : VmProtection} {kind : ReservationKind} {reservation value : Reservation}

include orderly word

theorem planExact_iff :
    planner.planExact start size protection kind = .ok (reservation, value) ↔
      ((size ≠ 0 ∧ size % vmPageSize = 0 ∧ start % vmPageSize = 0) ∧ planner.Vacant start size) ∧
        ⟨start, size, protection, kind⟩ = reservation ∧
        ⟨start, size, protection, kind⟩ = value := by
  unfold planExact validateSize
  simp only [bind_eq_ok, pure_eq_ok, require_eq_ok, exists_const,
    validateAvailable_iff orderly word, Prod.mk.injEq]
  tauto

theorem planFirstFit_iff (small : alignment ≤ 2 ^ 64) :
    planner.planFirstFit size alignment protection kind = .ok (reservation, value) ↔
      (size ≠ 0 ∧ size % vmPageSize = 0) ∧
        (vmPageSize ≤ alignment ∧ IsPowerOfTwo alignment) ∧
        ∃ start,
          IsLeast { start | alignment ∣ start ∧ planner.Vacant start size } start ∧
          ⟨start, size, protection, kind⟩ = reservation ∧
          ⟨start, size, protection, kind⟩ = value := by
  unfold planFirstFit validateSize validateAlignment
  simp only [bind_eq_ok, pure_eq_ok, require_eq_ok, exists_const, Prod.mk.injEq]
  refine and_congr_right fun _ => and_congr_right fun valid => ?_
  simp only [findFirstFit_iff orderly word valid.2 small]

end Requests

/-! ## Runs -/

/-- A vacant range of whole pages. -/
structure Claims (planner : VirtualAddressPlanner) (reservation : Reservation) : Prop where
  nonempty : reservation.size ≠ 0
  start : vmPageSize ∣ reservation.start
  size : vmPageSize ∣ reservation.size
  vacant : planner.Vacant reservation.start reservation.size

theorem VirtualAddressPlanner.Orderly.reserve {α : Type}
    {planned : Except AddressError (Reservation × α)} (orderly : planner.Orderly)
    (claims :
      ∀ reservation value, planned = .ok (reservation, value) → Claims planner reservation) :
    (planner.reserve planned).2.Orderly ∧
      (planner.reserve planned).2 =
        { planner with
          reservations := (planner.reserve planned).2.reservations } := by
  rcases reserve_cases (Prod.eta (planner.reserve planned)).symm with
    ⟨_, same⟩ | ⟨reservation, value, isPlanned, _, inserted⟩
  · rw [same]
    exact ⟨orderly, rfl⟩
  · have claim := claims reservation value isPlanned
    obtain ⟨low, high, apart⟩ := claim.vacant
    rw [inserted]
    refine ⟨⟨orderly.separated.placeSorted claim.nonempty apart, ?_, ?_⟩, rfl⟩
    · intro other member
      rcases mem_placeSorted.mp member with rfl | member
      · exact ⟨claim.start, claim.size⟩
      · exact orderly.pages other member
    · intro other member
      rcases mem_placeSorted.mp member with rfl | member
      · exact ⟨low, high⟩
      · exact orderly.inside other member

/-- The calls of the two functions; the alignment is a word. -/
def VirtualAddressPlanner.Reserves : VirtualAddressPlanner.Operation → Prop
  | .reserveExact _ _ _ _ => True
  | .reserveFirstFit _ alignment _ _ => alignment ≤ 2 ^ 64
  | .reservePeImage _ _ => False

theorem VirtualAddressPlanner.Orderly.step
    {next : VirtualAddressPlanner} {operation : VirtualAddressPlanner.Operation}
    (orderly : planner.Orderly) (word : planner.ceiling < 2 ^ 64) (reserves : Reserves operation)
    (stepped : planner.step operation = some next) :
    next.Orderly ∧ next = { planner with reservations := next.reservations } := by
  cases operation with
  | reserveExact start size protection kind =>
    cases stepped
    apply orderly.reserve
    intro reservation value planned
    obtain ⟨⟨⟨nonempty, pages, aligned⟩, vacant⟩, rfl, _⟩ := (planExact_iff orderly word).mp planned
    exact ⟨nonempty, Nat.dvd_of_mod_eq_zero aligned, Nat.dvd_of_mod_eq_zero pages, vacant⟩
  | reserveFirstFit size alignment protection kind =>
    cases stepped
    apply orderly.reserve
    intro reservation value planned
    obtain ⟨⟨nonempty, pages⟩, ⟨paged, power⟩, start, least, rfl, _⟩ :=
      (planFirstFit_iff orderly word reserves).mp planned
    have divides : vmPageSize ∣ alignment := (isPowerOfTwo_two_pow 12).dvd power paged
    exact ⟨nonempty, divides.trans least.1.1, Nat.dvd_of_mod_eq_zero pages, least.1.2⟩
  | reservePeImage => cases reserves

/-- In every state that the two functions reach from a new planner the
reservations are in order, an exact range is reserved when it is valid and
vacant, and the first fit is the lowest vacant range. -/
theorem planner_first_fit {capacity floor ceiling : Nat} {new : VirtualAddressPlanner}
    {operations : List VirtualAddressPlanner.Operation} (word : ceiling < 2 ^ 64)
    (created : tryNew capacity floor ceiling = .ok new)
    (reserves : ∀ operation ∈ operations, Reserves operation)
    (reached : Execution.exec step new operations = some planner) :
    (planner.Orderly ∧ planner.floor = floor ∧ planner.ceiling = ceiling) ∧
      (∀ start size protection kind reservation,
        (planner.reserveExact start size protection kind).1 = .ok reservation ↔
          ((size ≠ 0 ∧ size % vmPageSize = 0 ∧ start % vmPageSize = 0) ∧
              planner.Vacant start size) ∧
            planner.reservations.length ≠ capacity ∧
            reservation = ⟨start, size, protection, kind⟩) ∧
      ∀ size alignment protection kind reservation,
        size ≠ 0 ∧ size % vmPageSize = 0 →
        vmPageSize ≤ alignment ∧ IsPowerOfTwo alignment →
        alignment ≤ 2 ^ 64 →
          ((planner.reserveFirstFit size alignment protection kind).1 = .ok reservation ↔
            IsLeast { start | alignment ∣ start ∧ planner.Vacant start size } reservation.start ∧
              planner.reservations.length ≠ capacity ∧
              reservation = ⟨reservation.start, size, protection, kind⟩) := by
  have bounds : new = .empty capacity floor ceiling := by
    unfold tryNew at created
    simp only [bind_eq_ok, pure_eq_ok] at created
    obtain ⟨_, _, _, _, isNew⟩ := created
    exact isNew.symm
  have preserved (state : VirtualAddressPlanner) (operation : Operation)
      (next : VirtualAddressPlanner)
      (holds : state.Orderly ∧ state = { new with reservations := state.reservations })
      (allowed : Reserves operation) (stepped : state.step operation = some next) :
      next.Orderly ∧ next = { new with reservations := next.reservations } := by
    have small : state.ceiling < 2 ^ 64 := by
      rw [holds.2, bounds]
      exact word
    obtain ⟨nextOrderly, isNext⟩ := holds.1.step small allowed stepped
    refine ⟨nextOrderly, isNext.trans ?_⟩
    rw [holds.2]
  have initially : new.Orderly ∧ new = { new with reservations := new.reservations } := by
    rw [bounds]
    exact ⟨⟨List.Pairwise.nil, by rintro _ ⟨⟩, by rintro _ ⟨⟩⟩, rfl⟩
  obtain ⟨orderly, isPlanner⟩ := Execution.invariant_of_guarded preserved initially
    (Execution.Guarded.of_labels reserves) reached
  rw [bounds] at isPlanner
  have isCapacity : planner.capacity = capacity := by rw [isPlanner]; rfl
  have small : planner.ceiling < 2 ^ 64 := by
    rw [isPlanner]
    exact word
  refine ⟨⟨orderly, by rw [isPlanner]; rfl, by rw [isPlanner]; rfl⟩, ?_, ?_⟩
  · intro start size protection kind reservation
    unfold reserveExact
    simp only [reserve_eq_ok, planExact_iff orderly small, isCapacity]
    constructor
    · rintro ⟨⟨_, valid, _, rfl⟩, room⟩
      exact ⟨valid, room, rfl⟩
    · rintro ⟨valid, room, rfl⟩
      exact ⟨⟨_, valid, rfl, rfl⟩, room⟩
  · intro size alignment protection kind reservation sized valid word
    unfold reserveFirstFit
    simp only [reserve_eq_ok, planFirstFit_iff orderly small word, isCapacity]
    constructor
    · rintro ⟨⟨_, _, _, start, least, _, rfl⟩, room⟩
      exact ⟨least, room, rfl⟩
    · rintro ⟨least, room, isReservation⟩
      exact ⟨⟨_, sized, valid, _, least, rfl, isReservation.symm⟩, room⟩

/-- Three of four pages, the second one taken first. -/
def fourPages : List VirtualAddressPlanner.Operation :=
  [.reserveExact 0x11000 0x1000 .none .guard,
    .reserveFirstFit 0x1000 0x2000 .readOnly .stack, .reserveFirstFit 0x1000 0x2000 .readOnly .heap]

theorem fourPages_first_fit :
    ∃ planner,
      Execution.exec step (.empty 4 0x10000 0x14000) fourPages = some planner ∧
        planner.reservations.map Reservation.start = [0x10000, 0x11000, 0x12000] ∧
        planner.Orderly := by
  refine Execution.exists_reached (by decide +kernel) fun planner reached => ?_
  have created : tryNew 4 0x10000 0x14000 = .ok (.empty 4 0x10000 0x14000) := by
    decide +kernel
  have reserves : ∀ operation ∈ fourPages, Reserves operation := by
    simp [fourPages, Reserves]
  exact ⟨Execution.of_reached reached (by decide +kernel),
    (planner_first_fit (by decide) created reserves reached).1.1⟩

end Xenith.Winhost
