import Mathlib

/-!
# Chains of a successor map

A chain lists the items from one item to the last.  There is at most one chain
from an item, so a finite chain never meets an item twice.
-/

namespace Xenith

universe u

variable {α : Type u}

/-- `successor item` is `none` for an absent item and `some none` for a last
one. -/
inductive Chain (successor : α → Option (Option α)) : α → List α → Prop
  | last {item : α} (isLast : successor item = some none) : Chain successor item [item]
  | link {item below : α} {rest : List α} (isLinked : successor item = some (some below))
      (chain : Chain successor below rest) :
      Chain successor item (item :: rest)

section Chains

variable {successor changed : α → Option (Option α)} {top item lower : α} {items below : List α}

theorem Chain.unique (first : Chain successor top items)
    (second : Chain successor top below) : items = below := by
  induction first generalizing below with
  | last isLast =>
    cases second with
    | last => rfl
    | link isLinked =>
      rw [isLast] at isLinked
      cases isLinked
  | link isLinked _ ih =>
    cases second with
    | last isLast =>
      rw [isLinked] at isLast
      cases isLast
    | link isSecond chain =>
      rw [isLinked] at isSecond
      cases isSecond
      rw [ih chain]

section Chain

variable (chain : Chain successor top items)

include chain

theorem Chain.top_mem : top ∈ items := by
  cases chain <;> exact List.mem_cons_self ..

/-- The chain from an item of a chain is the rest of it. -/
theorem Chain.suffix (member : item ∈ items) :
    ∃ front back, items = front ++ back ∧ Chain successor item back := by
  induction chain with
  | last isLast =>
    rw [List.mem_singleton] at member
    rw [member]
    exact ⟨[], _, rfl, .last isLast⟩
  | link isLinked chain ih =>
    rcases List.mem_cons.mp member with rfl | member
    · exact ⟨[], _, rfl, .link isLinked chain⟩
    · obtain ⟨front, back, split, rest⟩ := ih member
      exact ⟨_ :: front, back, by rw [split]; rfl, rest⟩

theorem Chain.nodup : items.Nodup := by
  induction chain with
  | last => exact List.nodup_singleton _
  | link isLinked chain ih =>
    refine List.nodup_cons.mpr ⟨?_, ih⟩
    intro member
    -- The chain from the first item would be shorter than itself.
    obtain ⟨_, _, split, rest⟩ := chain.suffix member
    have same := (Chain.link isLinked chain).unique rest
    have lengths := congrArg List.length same
    rw [split, List.length_cons, List.length_append] at lengths
    omega

theorem Chain.present (member : item ∈ items) : (successor item).isSome := by
  obtain ⟨_, _, _, rest⟩ := chain.suffix member
  cases rest with
  | last isLast => simp [isLast]
  | link isLinked => simp [isLinked]

/-- Every item but the first follows another one. -/
theorem Chain.linked_of_mem (member : item ∈ items) (notTop : item ≠ top) :
    ∃ above, successor above = some (some item) := by
  induction chain with
  | last => exact absurd (List.mem_singleton.mp member) notTop
  | @link first next _ isLinked chain ih =>
    rcases List.mem_cons.mp member with same | member
    · exact absurd same notTop
    · by_cases isNext : item = next
      · exact ⟨first, by rw [isNext]; exact isLinked⟩
      · exact ih member isNext

theorem Chain.congr (same : ∀ item ∈ items, changed item = successor item) :
    Chain changed top items := by
  induction chain with
  | last isLast =>
    refine .last ?_
    rw [same _ (List.mem_cons_self ..)]
    exact isLast
  | link isLinked chain ih =>
    refine .link ?_ (ih ?_)
    · rw [same _ (List.mem_cons_self ..)]
      exact isLinked
    · intro item member
      exact same item (List.mem_cons_of_mem _ member)

theorem Chain.avoid
    (apart : item ∉ items) (others : ∀ other, other ≠ item → changed other = successor other) :
    Chain changed top items :=
  chain.congr fun other member => others other (ne_of_mem_of_not_mem member apart)

/-- A last item is linked to another chain. -/
theorem Chain.join (member : item ∈ items) (isLast : successor item = some none)
    (lowerChain : Chain successor lower below) (apart : item ∉ below)
    (linked : changed item = some (some lower))
    (others : ∀ other, other ≠ item → changed other = successor other) :
    Chain changed top (items ++ below) := by
  have lowerChanged := lowerChain.avoid apart others
  induction chain with
  | last =>
    rw [List.mem_singleton] at member
    rw [← member]
    exact .link linked lowerChanged
  | @link first _ _ isLinked chain ih =>
    have different : first ≠ item := by
      intro same
      rw [same, isLast] at isLinked
      cases isLinked
    rcases List.mem_cons.mp member with same | member
    · exact absurd same.symm different
    · refine .link ?_ (ih member)
      rw [others first different]
      exact isLinked

/-- An item is made the last of its chain. -/
theorem Chain.cut (cuts : changed item = some none)
    (others : ∀ other, other ≠ item → changed other = successor other) :
    ∃ shorter, Chain changed top shorter ∧ shorter.length ≤ items.length := by
  induction chain with
  | @last first isLast =>
    by_cases same : first = item
    · exact ⟨_, .last (by rw [same]; exact cuts), Nat.le_refl _⟩
    · exact ⟨_, .last (by rw [others first same]; exact isLast), Nat.le_refl _⟩
  | @link first _ _ isLinked chain ih =>
    by_cases same : first = item
    · exact ⟨[first], .last (by rw [same]; exact cuts), by simp⟩
    · obtain ⟨shorter, cutChain, bound⟩ := ih
      refine ⟨first :: shorter, .link ?_ cutChain, Nat.succ_le_succ bound⟩
      rw [others first same]
      exact isLinked

end Chain

end Chains

end Xenith
