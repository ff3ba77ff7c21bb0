import Mathlib

/-!
# Packings and tilings of an interval

A list of intervals packs a region when they are nonempty, pairwise apart and
lie inside it; it tiles the region when it also leaves no gap.
-/

namespace Xenith

structure Interval where
  start : Nat
  size : Nat
deriving DecidableEq, Repr

namespace Interval

def stop (interval : Interval) : Nat :=
  interval.start + interval.size

def Holds (interval : Interval) (address : Nat) : Prop :=
  interval.start ≤ address ∧ address < interval.stop

def Apart (left right : Interval) : Prop :=
  left.stop ≤ right.start ∨ right.stop ≤ left.start

def Inside (part whole : Interval) : Prop :=
  whole.start ≤ part.start ∧ part.stop ≤ whole.stop

instance (part whole : Interval) : Decidable (part.Inside whole) :=
  inferInstanceAs (Decidable (_ ∧ _))

@[simp]
theorem stop_mk (start size : Nat) : (Interval.mk start size).stop = start + size :=
  rfl

theorem Inside.trans
    {part middle whole : Interval} (first : part.Inside middle) (second : middle.Inside whole) :
    part.Inside whole :=
  ⟨Nat.le_trans second.1 first.1, Nat.le_trans first.2 second.2⟩

theorem Apart.symm {left right : Interval} (apart : left.Apart right) : right.Apart left :=
  Or.symm apart

theorem Apart.mono
    {part whole other : Interval} (apart : whole.Apart other) (inside : part.Inside whole) :
    part.Apart other := by
  rcases apart with before | after
  · exact Or.inl (Nat.le_trans inside.2 before)
  · exact Or.inr (Nat.le_trans after inside.1)

/-- Two adjacent intervals as one. -/
def join (left right : Interval) : Interval where
  start := left.start
  size := left.size + right.size

theorem stop_join {left right : Interval} (adjacent : left.stop = right.start) :
    (left.join right).stop = right.stop := by
  unfold stop at adjacent ⊢
  simp only [join]
  omega

/-! ## Pairwise apart -/

def PairwiseApart (pieces : List Interval) : Prop :=
  pieces.Pairwise Apart

theorem PairwiseApart.perm {pieces reordered : List Interval} (apart : PairwiseApart pieces)
    (permutation : pieces.Perm reordered) : PairwiseApart reordered :=
  (permutation.pairwise_iff Apart.symm).mp apart

variable {rest : List Interval}

theorem PairwiseApart.replace {piece : Interval} {parts : List Interval}
    (apart : PairwiseApart (piece :: rest)) (partsApart : PairwiseApart parts)
    (inside : ∀ part ∈ parts, part.Inside piece) :
    PairwiseApart (parts ++ rest) := by
  obtain ⟨pieceApart, restApart⟩ := List.pairwise_cons.mp apart
  refine List.pairwise_append.mpr ⟨partsApart, restApart, ?_⟩
  intro part partMember other otherMember
  exact (pieceApart other otherMember).mono (inside part partMember)

theorem PairwiseApart.join {left right : Interval} (apart : PairwiseApart (left :: right :: rest))
    (inhabited : ∀ other ∈ rest, 0 < other.size) (adjacent : left.stop = right.start) :
    PairwiseApart (left.join right :: rest) := by
  obtain ⟨leftApart, others⟩ := List.pairwise_cons.mp apart
  obtain ⟨rightApart, restApart⟩ := List.pairwise_cons.mp others
  refine List.pairwise_cons.mpr ⟨?_, restApart⟩
  intro other member
  have fromLeft := leftApart other (List.mem_cons_of_mem _ member)
  have fromRight := rightApart other member
  have otherSize := inhabited other member
  have joined := stop_join adjacent
  have start : (left.join right).start = left.start := rfl
  unfold Apart at fromLeft fromRight ⊢
  unfold stop at *
  omega

/-- Replace some of the pieces by parts of them. -/
theorem PairwiseApart.flatMap_append {α : Type} {items : List α} {piece : α → Interval}
    {parts : α → List Interval} (apart : PairwiseApart (items.map piece ++ rest))
    (partsApart : ∀ item ∈ items, PairwiseApart (parts item))
    (inside : ∀ item ∈ items, ∀ part ∈ parts item, part.Inside (piece item)) :
    PairwiseApart (items.flatMap parts ++ rest) := by
  induction items with
  | nil => exact apart
  | cons item items ih =>
    obtain ⟨itemApart, othersApart⟩ := List.pairwise_cons.mp apart
    have otherParts := ih othersApart
      (fun other member => partsApart other (List.mem_cons_of_mem _ member))
      (fun other member => inside other (List.mem_cons_of_mem _ member))
    rw [List.flatMap_cons, List.append_assoc]
    refine List.pairwise_append.mpr ⟨partsApart item (List.mem_cons_self ..), otherParts, ?_⟩
    intro part partMember other otherMember
    have partInside := inside item (List.mem_cons_self ..) part partMember
    rcases List.mem_append.mp otherMember with inParts | inRest
    · obtain ⟨source, sourceMember, otherPart⟩ := List.mem_flatMap.mp inParts
      have sourceApart :=
        itemApart (piece source) (List.mem_append_left _ (List.mem_map_of_mem sourceMember))
      have otherInside := inside source (List.mem_cons_of_mem _ sourceMember) other otherPart
      exact ((sourceApart.mono partInside).symm.mono otherInside).symm
    · have otherApart := itemApart other (List.mem_append_right _ inRest)
      exact otherApart.mono partInside

/-- Consecutive intervals of one size. -/
def slices (start size count : Nat) : List Interval :=
  (List.range count).map fun position => ⟨start + position * size, size⟩

theorem pairwiseApart_slices (start size count : Nat) :
    PairwiseApart (slices start size count) := by
  unfold PairwiseApart slices
  rw [List.pairwise_map]
  apply List.pairwise_lt_range.imp
  intro earlier later ordered
  have reached : (earlier + 1) * size ≤ later * size := Nat.mul_le_mul_right size ordered
  rw [Nat.succ_mul] at reached
  refine Or.inl ?_
  simp only [stop_mk]
  omega

theorem inside_of_mem_slices {start size count : Nat} {whole slice : Interval}
    (startEq : whole.start = start) (large : count * size ≤ whole.size)
    (member : slice ∈ slices start size count) :
    slice.Inside whole := by
  obtain ⟨position, inRange, rfl⟩ := List.mem_map.mp member
  have below := List.mem_range.mp inRange
  have reached : (position + 1) * size ≤ count * size := Nat.mul_le_mul_right size below
  rw [Nat.succ_mul] at reached
  refine ⟨?_, ?_⟩
  · simp only
    omega
  · unfold stop
    simp only
    omega

/-- In ascending order, with a gap between any two. -/
def Separated (pieces : List Interval) : Prop :=
  pieces.Pairwise fun left right => left.stop < right.start

theorem start_le_stop (interval : Interval) : interval.start ≤ interval.stop :=
  Nat.le_add_right _ _

theorem Separated.replace {piece : Interval} {before after parts : List Interval}
    (separated : Separated (before ++ piece :: after)) (partsSeparated : Separated parts)
    (inside : ∀ part ∈ parts, part.Inside piece) :
    Separated (before ++ parts ++ after) := by
  obtain ⟨beforeSeparated, others, beforeFirst⟩ := List.pairwise_append.mp separated
  obtain ⟨pieceFirst, afterSeparated⟩ := List.pairwise_cons.mp others
  refine List.pairwise_append.mpr
    ⟨List.pairwise_append.mpr ⟨beforeSeparated, partsSeparated, ?_⟩, afterSeparated, ?_⟩
  · intro earlier member part partMember
    have first := beforeFirst earlier member piece (by simp)
    exact Nat.lt_of_lt_of_le first (inside part partMember).1
  · intro earlier member later laterMember
    rcases List.mem_append.mp member with inBefore | inParts
    · exact beforeFirst earlier inBefore later (List.mem_cons_of_mem _ laterMember)
    · have reached := (inside earlier inParts).2
      exact Nat.lt_of_le_of_lt reached (pieceFirst later laterMember)

structure Packs (region : Interval) (pieces : List Interval) : Prop where
  apart : PairwiseApart pieces
  inside : ∀ piece ∈ pieces, piece.Inside region
  inhabited : ∀ piece ∈ pieces, 0 < piece.size

section Packs

variable {region piece left right : Interval} {pieces reordered parts rest : List Interval}

theorem Packs.perm (packs : Packs region pieces) (permutation : pieces.Perm reordered) :
    Packs region reordered where
  apart := packs.apart.perm permutation
  inside := fun other member => packs.inside other (permutation.mem_iff.mpr member)
  inhabited := fun other member => packs.inhabited other (permutation.mem_iff.mpr member)

theorem Packs.replace (packs : Packs region (piece :: rest)) (partsApart : PairwiseApart parts)
    (inside : ∀ part ∈ parts, part.Inside piece) (inhabited : ∀ part ∈ parts, 0 < part.size) :
    Packs region (parts ++ rest) where
  apart := packs.apart.replace partsApart inside
  inside := by
    intro other member
    rcases List.mem_append.mp member with partMember | restMember
    · exact (inside other partMember).trans (packs.inside piece (List.mem_cons_self ..))
    · exact packs.inside other (List.mem_cons_of_mem _ restMember)
  inhabited := by
    intro other member
    rcases List.mem_append.mp member with partMember | restMember
    · exact inhabited other partMember
    · exact packs.inhabited other (List.mem_cons_of_mem _ restMember)

theorem Packs.join
    (packs : Packs region (left :: right :: rest)) (adjacent : left.stop = right.start) :
    Packs region (left.join right :: rest) where
  apart := packs.apart.join (fun other member => packs.inhabited other (by simp [member])) adjacent
  inside := by
    intro other member
    rcases List.mem_cons.mp member with rfl | restMember
    · have leftInside := packs.inside left (List.mem_cons_self ..)
      have rightInside := packs.inside right (by simp)
      refine ⟨leftInside.1, ?_⟩
      rw [stop_join adjacent]
      exact rightInside.2
    · exact packs.inside other (by simp [restMember])
  inhabited := by
    intro other member
    rcases List.mem_cons.mp member with rfl | restMember
    · have leftSize := packs.inhabited left (List.mem_cons_self ..)
      exact Nat.lt_of_lt_of_le leftSize (Nat.le_add_right _ _)
    · exact packs.inhabited other (by simp [restMember])

end Packs

/-! ## Tilings -/

def Covered (pieces : List Interval) (address : Nat) : Prop :=
  ∃ piece ∈ pieces, piece.Holds address

/-- The pieces lie in the region, pairwise apart and without a gap. -/
structure Tiles (region : Interval) (pieces : List Interval) :
    Prop extends Packs region pieces where
  covers : ∀ address, region.Holds address → Covered pieces address

section Tiles

variable {region piece left right : Interval}
variable {pieces reordered parts rest : List Interval} {address : Nat}

theorem covered_cons :
    Covered (piece :: rest) address ↔ piece.Holds address ∨ Covered rest address := by
  simp [Covered]

theorem covered_append :
    Covered (parts ++ rest) address ↔ Covered parts address ∨ Covered rest address := by
  simp only [Covered, List.mem_append, or_and_right, exists_or]

theorem Tiles.perm (tiles : Tiles region pieces) (permutation : pieces.Perm reordered) :
    Tiles region reordered where
  toPacks := tiles.toPacks.perm permutation
  covers := by
    intro address held
    obtain ⟨other, member, holds⟩ := tiles.covers address held
    exact ⟨other, permutation.mem_iff.mp member, holds⟩

theorem Tiles.replace (tiles : Tiles region (piece :: rest)) (partsApart : PairwiseApart parts)
    (inside : ∀ part ∈ parts, part.Inside piece) (inhabited : ∀ part ∈ parts, 0 < part.size)
    (covers : ∀ address, piece.Holds address → Covered parts address) :
    Tiles region (parts ++ rest) where
  toPacks := tiles.toPacks.replace partsApart inside inhabited
  covers := by
    intro address held
    rcases covered_cons.mp (tiles.covers address held) with
      pieceHolds | restCovered
    · exact covered_append.mpr (Or.inl (covers address pieceHolds))
    · exact covered_append.mpr (Or.inr restCovered)

theorem Tiles.join
    (tiles : Tiles region (left :: right :: rest)) (adjacent : left.stop = right.start) :
    Tiles region (left.join right :: rest) where
  toPacks := tiles.toPacks.join adjacent
  covers := by
    intro address held
    have joined := stop_join adjacent
    have start : (left.join right).start = left.start := rfl
    refine covered_cons.mpr ?_
    rcases covered_cons.mp (tiles.covers address held) with
      leftHolds | others
    · refine Or.inl ⟨leftHolds.1, ?_⟩
      have below := leftHolds.2
      unfold stop at *
      omega
    · rcases covered_cons.mp others with rightHolds | restCovered
      · refine Or.inl ⟨?_, ?_⟩
        · have above := rightHolds.1
          unfold stop at *
          omega
        · rw [joined]
          exact rightHolds.2
      · exact Or.inr restCovered

theorem tiles_singleton (nonempty : 0 < region.size) : Tiles region [region] where
  apart := List.pairwise_singleton _ _
  inside := by
    intro piece member
    rw [List.mem_singleton] at member
    subst member
    exact ⟨Nat.le_refl _, Nat.le_refl _⟩
  inhabited := by
    intro piece member
    rw [List.mem_singleton] at member
    subst member
    exact nonempty
  covers := fun _ held => covered_cons.mpr (Or.inl held)

/-- A tiling by pieces of which no two touch has a single piece. -/
theorem Tiles.eq_singleton (tiles : Tiles region pieces) (separated : Separated pieces)
    (nonempty : 0 < region.size) : pieces = [region] := by
  have regionStart : region.Holds region.start := ⟨Nat.le_refl _, by unfold stop; omega⟩
  cases pieces with
  | nil =>
    obtain ⟨_, member, _⟩ := tiles.covers _ regionStart
    cases member
  | cons first rest =>
    obtain ⟨firstBefore, _⟩ := List.pairwise_cons.mp separated
    have firstInside := tiles.inside first (List.mem_cons_self ..)
    have startEq : first.start = region.start := by
      rcases covered_cons.mp (tiles.covers _ regionStart) with
        holds | ⟨other, member, holds⟩
      · exact Nat.le_antisymm holds.1 firstInside.1
      · have later := firstBefore other member
        have reached := holds.1
        have low := firstInside.1
        unfold stop at later
        omega
    have stopEq : first.stop = region.stop := by
      by_contra different
      have below : first.stop < region.stop := Nat.lt_of_le_of_ne firstInside.2 different
      have held : region.Holds first.stop := ⟨by unfold stop; omega, below⟩
      rcases covered_cons.mp (tiles.covers _ held) with
        holds | ⟨other, member, holds⟩
      · exact Nat.lt_irrefl _ holds.2
      · exact Nat.not_lt_of_le holds.1 (firstBefore other member)
    have restEmpty : rest = [] := by
      refine List.eq_nil_iff_forall_not_mem.mpr ?_
      intro other member
      have later := firstBefore other member
      have otherInside := tiles.inside other (List.mem_cons_of_mem _ member)
      have bounded := otherInside.2
      rw [stopEq] at later
      unfold stop at later bounded
      omega
    have sizeEq : first.size = region.size := by
      unfold stop at stopEq
      omega
    subst restEmpty
    obtain ⟨start, size⟩ := first
    cases startEq
    cases sizeEq
    rfl

/-! ## Coalescing -/

/-- Reordering pieces and joining adjacent ones. -/
inductive Coalesces : List Interval → List Interval → Prop
  | perm {pieces reordered : List Interval} : pieces.Perm reordered → Coalesces pieces reordered
  | join {left right : Interval} {rest : List Interval} :
      left.stop = right.start →
      Coalesces (left :: right :: rest) (left.join right :: rest)
  | trans {pieces middle merged : List Interval} :
      Coalesces pieces middle →
      Coalesces middle merged →
      Coalesces pieces merged

variable {merged : List Interval}

theorem Packs.coalesces (packs : Packs region pieces) (steps : Coalesces pieces merged) :
    Packs region merged := by
  induction steps with
  | perm permutation => exact packs.perm permutation
  | join adjacent => exact packs.join adjacent
  | trans _ _ inductionFirst inductionSecond => exact inductionSecond (inductionFirst packs)

theorem Tiles.coalesces (tiles : Tiles region pieces) (steps : Coalesces pieces merged) :
    Tiles region merged := by
  induction steps with
  | perm permutation => exact tiles.perm permutation
  | join adjacent => exact tiles.join adjacent
  | trans _ _ inductionFirst inductionSecond => exact inductionSecond (inductionFirst tiles)

theorem Coalesces.le_size
    {bound : Nat} (steps : Coalesces pieces merged) (large : ∀ piece ∈ pieces, bound ≤ piece.size) :
    ∀ piece ∈ merged, bound ≤ piece.size := by
  induction steps with
  | perm permutation =>
    intro piece member
    exact large piece (permutation.mem_iff.mpr member)
  | join =>
    intro piece member
    rcases List.mem_cons.mp member with rfl | inRest
    · have leftLarge := large _ (List.mem_cons_self ..)
      exact Nat.le_trans leftLarge (Nat.le_add_right _ _)
    · exact large piece (by simp [inRest])
  | trans _ _ inductionFirst inductionSecond => exact inductionSecond (inductionFirst large)

end Tiles

end Interval

end Xenith
