import Xenith.Mm.FrameAccounting

/-!
# A writable frame has one mapping

When no request makes an unmarked leaf of a shared frame writable, a writable
frame has exactly one mapping, and a store through one mapping is never seen
through another.
-/

namespace Xenith.Mm

open AddressSpace
open Execution

namespace VmState

/-- No request makes an unmarked leaf of a shared frame writable. -/
def UpgradesPrivateOnly (state : VmState) : VmOp → Prop
  | .protectUser index page protection =>
    protection.writable = true → ∀ leaf ∈ state.leaf? index page,
      leaf.flags.copyOnWrite = false → sharedUserFrame state.frames leaf.frame = false
  | _ => True

instance (state : VmState) : DecidablePred state.UpgradesPrivateOnly
  | .protectUser index page protection =>
    inferInstanceAs (Decidable (protection.writable = true → ∀ leaf ∈ state.leaf? index page,
      leaf.flags.copyOnWrite = false → sharedUserFrame state.frames leaf.frame = false))
  | .newEmpty | .mapUser .. | .fork .. | .resolveCowFault .. | .unmap .. | .store .. =>
    isTrue trivial

def WritableAlone (state : VmState) : Prop :=
  ∀ index page leaf, state.leaf? index page = some leaf →
    leaf.flags.writable = true → state.mappings leaf.frame = 1

section Steps

variable {state next : VmState} {index : Nat} {page : Page}
variable {space : AddressSpace} {leaf changed : Leaf}

/-- A frame without an entry and with a mapping has just that one. -/
theorem Accounted.mappings_eq_one
    (accounted : state.Accounted) (mapped : state.leaf? index page = some leaf)
    (alone : sharedUserFrame state.frames leaf.frame = false) :
    state.mappings leaf.frame = 1 := by
  have positive := mappings_pos_of_leaf?_eq_some mapped
  have few := accounted.represented.count_le_one (sharedUserFrame_eq_false_iff.mp alone)
  omega

section WritableAlone

variable (writableAlone : state.WritableAlone)

include writableAlone

/-- The entry of a page is exchanged, and no frame with one mapping gets a
second. -/
theorem WritableAlone.exchange
    {before after : Option Leaf} (exchanges : Exchanges state next index page before after)
    (own : ∀ leaf ∈ after, leaf.flags.writable = true → next.mappings leaf.frame = 1)
    (others : ∀ frame, state.mappings frame = 1 → mapsTo after frame ≤ mapsTo before frame) :
    next.WritableAlone := by
  intro other tested otherLeaf mapped writable
  have positive := mappings_pos_of_leaf?_eq_some mapped
  rw [exchanges.lookup] at mapped
  split at mapped
  · exact own otherLeaf mapped writable
  · have single := writableAlone other tested otherLeaf mapped writable
    have count := exchanges.counts otherLeaf.frame
    have kept := others otherLeaf.frame single
    omega

/-- The leaf of a frame without an entry is written over. -/
theorem WritableAlone.sameFrame (accounted : state.Accounted)
    (exchanges : Exchanges state next index page (some leaf) (some changed))
    (sameFrame : changed.frame = leaf.frame)
    (alone : changed.flags.writable = true → sharedUserFrame state.frames leaf.frame = false) :
    next.WritableAlone := by
  refine writableAlone.exchange exchanges ?_ ?_
  · rintro _ ⟨⟩ writable
    rw [exchanges.counts_eq sameFrame, sameFrame]
    exact accounted.mappings_eq_one exchanges.held (alone writable)
  · intro frame _
    rw [mapsTo_some, mapsTo_some, sameFrame]

/-- A fresh frame is mapped in place of a shared one, or of none. -/
theorem WritableAlone.fresh
    {before : Option Leaf} (exchanges : Exchanges state next index page before (some leaf))
    (unmapped : state.mappings leaf.frame = 0) :
    next.WritableAlone := by
  refine writableAlone.exchange exchanges ?_ ?_
  · rintro _ ⟨⟩ _
    have positive : 0 < next.mappings leaf.frame :=
      mappings_pos_of_leaf?_eq_some (by rw [exchanges.lookup index page, if_pos ⟨rfl, rfl⟩])
    have count := exchanges.counts leaf.frame
    rw [mapsTo_some, if_pos rfl] at count
    omega
  · intro frame single
    have different : leaf.frame ≠ frame := by
      rintro rfl
      omega
    simp [different]

theorem WritableAlone.forked
    {frames : List SharedUserFrame} {requests : Nat → Page → Option VmProtection}
    (found : state.spaces[index]? = some space) :
    (state.forkedState index space frames requests).WritableAlone := by
  intro other tested otherLeaf mapped writable
  rw [leaf?_forked found] at mapped
  split at mapped
  · obtain ⟨_, _, rfl⟩ := Option.map_eq_some_iff.mp mapped
    rw [Leaf.shared_flags, cowSharedFlags_writable] at writable
    cases writable
  · rename_i elsewhere
    have single := writableAlone other tested otherLeaf mapped writable
    have unmapped : space.mappings otherLeaf.frame = 0 := by
      by_contra positive
      obtain ⟨_, _, present, sameFrame⟩ :=
        SortedMap.exists_get?_of_countValues_pos (Nat.pos_of_ne_zero positive)
      have several := two_le_mappings
        (Or.inl fun same => elsewhere (Or.inl same)) mapped (leaf?_eq_some found present)
        (of_decide_eq_true sameFrame)
      omega
    rw [mappings_forked found, single, unmapped]

/-- A writable leaf stays the only leaf of its frame. -/
theorem WritableAlone.step {op : VmOp} (accounted : state.Accounted) (owns : state.OwnsFrames op)
    (upgrades : state.UpgradesPrivateOnly op)
    (effect : Effect state op next) : next.WritableAlone := by
  cases effect with
  | rejected op => exact writableAlone
  | created =>
    intro index page leaf mapped writable
    rw [leaf?_created] at mapped
    rw [mappings_created]
    exact writableAlone index page leaf mapped writable
  | mapFailed => exact writableAlone
  | mapped leaf found missing flags =>
    exact writableAlone.fresh (exchanges_put found missing rfl) (accounted.unmapped_of_fresh owns)
  | protectionChanged found present sameFrame flags =>
    refine writableAlone.sameFrame accounted (exchanges_put found present rfl) sameFrame ?_
    intro writable
    rw [flags, protectedFlags_writable, pageFlags_eq, Bool.and_eq_true,
      Bool.not_eq_true'] at writable
    exact upgrades writable.1 _ (leaf?_eq_some found present) writable.2
  | forkFailed => exact writableAlone
  | forked found => exact writableAlone.forked found
  | split _ found present marked _ flags =>
    exact writableAlone.fresh (exchanges_put found present rfl) (accounted.unmapped_of_fresh owns)
  | reclaimed found present marked alone sameFrame flags =>
    exact
      writableAlone.sameFrame accounted (exchanges_put found present rfl) sameFrame fun _ => alone
  | unmapped found present
  | released found present =>
    refine writableAlone.exchange (exchanges_erase found present rfl) ?_ ?_
    · rintro _ ⟨⟩
    · exact fun _ _ => Nat.zero_le _
  | stored => exact writableAlone

end WritableAlone

end Steps

structure Isolated (state : VmState) : Prop where
  accounted : state.Accounted
  writableAlone : state.WritableAlone

theorem initial_isolated : initial.Isolated where
  accounted := initial_accounted
  writableAlone := by
    intro index page leaf mapped
    cases mapped

theorem Isolated.step {state next : VmState} {op : VmOp} (isolated : state.Isolated)
    (owns : state.OwnsFrames op) (upgrades : state.UpgradesPrivateOnly op)
    (effect : Effect state op next) : next.Isolated where
  accounted := isolated.accounted.step owns effect
  writableAlone := isolated.writableAlone.step isolated.accounted owns upgrades effect

/-- A store through one leaf is not seen through another leaf, unless both
map the frame. -/
theorem read?_store {state : VmState} {index other : Nat} {page tested : Page}
    {offset position : Nat} {value : UInt8}
    (apart : ∀ leaf otherLeaf, state.leaf? index page = some leaf → leaf.flags.writable = true →
      state.leaf? other tested = some otherLeaf → otherLeaf.frame ≠ leaf.frame) :
    (state.store index page offset value).read? other tested position =
      state.read? other tested position := by
  fun_cases VmState.store with
  | case2 leaf mapped admitted =>
    simp only [Bool.and_eq_true] at admitted
    simp only [read?]
    change Option.map _ (state.leaf? other tested) = _
    cases otherMapped : state.leaf? other tested with
    | none => rfl
    | some otherLeaf =>
      have different := apart leaf otherLeaf mapped admitted.1.2 otherMapped
      simp only [Option.map_some]
      rw [Function.update_of_ne different]
  | _ => rfl

/-- If no request makes an unmarked leaf of a shared frame writable, then in
every state of every run a frame with a writable mapping has no second
mapping, and a store through one page changes no byte read through another
page of any space. -/
theorem fork_isolation
    {ops : List VmOp} {final : VmState} (owns : Guarded transition OwnsFrames initial ops)
    (upgrades : Guarded transition UpgradesPrivateOnly initial ops)
    (reached : exec transition initial ops = some final) :
    (∀ index page leaf other tested otherLeaf,
      final.leaf? index page = some leaf → leaf.flags.writable = true →
        final.leaf? other tested = some otherLeaf →
          otherLeaf.frame = leaf.frame → index = other ∧ page = tested) ∧
      ∀ index page offset value other tested position, ¬(index = other ∧ page = tested) →
        (final.step (.store index page offset value)).read? other tested position =
          final.read? other tested position := by
  have isolated : final.Isolated := by
    refine invariant_of_guarded ?_ initial_isolated (owns.and upgrades) reached
    intro state op next isolated guarded taken
    cases taken
    exact isolated.step guarded.1 guarded.2 (effect_step state op)
  have single :
      ∀ index page leaf other tested otherLeaf, final.leaf? index page = some leaf →
        leaf.flags.writable = true → final.leaf? other tested = some otherLeaf →
          otherLeaf.frame = leaf.frame → index = other ∧ page = tested := by
    intro index page leaf other tested otherLeaf mapped writable otherMapped sameFrame
    by_contra different
    have several := two_le_mappings (not_and_or.mp different) mapped otherMapped sameFrame
    have one := isolated.writableAlone index page leaf mapped writable
    omega
  refine ⟨single, ?_⟩
  intro index page offset value other tested position different
  apply read?_store
  intro leaf otherLeaf mapped writable otherMapped sameFrame
  exact
    different (single index page leaf other tested otherLeaf mapped writable otherMapped sameFrame)

/-- A read-only page is made writable before the fork and written after
each side has its own copy. -/
def upgradedPageRun : List VmOp :=
  [.newEmpty,
    .mapUser 0 3 7 { writable := false, executable := false } true,
    .protectUser 0 3 { writable := true, executable := false }, .fork 0 true [],
    .resolveCowFault 0 3 (some 8)]

theorem upgradedPageRun_isolated :
    ∃ final, exec transition initial upgradedPageRun = some final ∧
      (final.step (.store 0 3 0 255)).read? 0 3 0 = some 255 ∧
        (final.step (.store 0 3 0 255)).read? 1 3 0 = final.read? 1 3 0 := by
  have reached : exec transition initial upgradedPageRun = some _ := rfl
  have isolated := fork_isolation (by decide) (by decide) reached
  exact ⟨_, reached, by decide, isolated.2 0 3 0 255 1 3 0 (by decide)⟩

/-- A read-only page is shared by a fork without a marker and then made
writable by a request in the parent. -/
def sharedUpgradeRun : List VmOp :=
  [.newEmpty,
    .mapUser 0 3 7 { writable := false, executable := false } true, .fork 0 true [],
    .protectUser 0 3 { writable := true, executable := false }]

/-- The parent's store then changes what the child reads. -/
theorem sharedUpgradeRun_leaks :
    ∃ final leaf otherLeaf, Guarded transition OwnsFrames initial sharedUpgradeRun ∧
      exec transition initial sharedUpgradeRun = some final ∧ final.leaf? 0 3 = some leaf ∧
        leaf.flags.writable = true ∧ final.leaf? 1 3 = some otherLeaf ∧
          otherLeaf.frame = leaf.frame ∧ final.read? 1 3 0 = some 0 ∧
            (final.step (.store 0 3 0 255)).read? 1 3 0 = some 255 :=
  ⟨_, _, _, by decide, rfl, rfl, rfl, rfl, rfl, rfl, by decide⟩

end VmState

end Xenith.Mm
