import Mathlib

/-!
# Positional edits of lists

The first item with some property is located by a split of the list,
overwritten in place, or removed by moving the last item into its place.
-/

namespace Xenith.ListEdit

universe u

variable {α : Type u}

/-- Remove the item at `index` by moving the last item into its place. -/
def swapRemove (items : List α) (index : Nat) : List α :=
  match items.getLast? with
  | none => []
  | some last => (items.set index last).dropLast

variable {items : List α} {index : Nat} {test : α → Bool} {item : α}

/-- The first position found by `findIdx?` splits the list in front of the
first item that satisfies the test. -/
theorem split_of_findIdx?_eq_some (found : items.findIdx? test = some index) :
    ∃ front item back, items = front ++ item :: back ∧
      front.length = index ∧ test item = true ∧ ∀ earlier ∈ front, test earlier = false := by
  obtain ⟨bounded, matched, earlierFails⟩ := List.findIdx?_eq_some_iff_getElem.mp found
  refine ⟨items.take index, items[index], items.drop (index + 1), ?_,
    List.length_take_of_le (Nat.le_of_lt bounded), matched, ?_⟩
  · rw [List.cons_getElem_drop_succ, List.take_append_drop]
  · intro earlier member
    obtain ⟨position, _, rfl⟩ := List.mem_take_iff_getElem.mp member
    exact Bool.eq_false_iff.mpr (earlierFails position (by omega))

theorem findIdx?_append_cons
    {front back : List α} (earlierFails : ∀ earlier ∈ front, test earlier = false)
    (matched : test item = true) :
    (front ++ item :: back).findIdx? test = some front.length := by
  rw [List.findIdx?_append, List.findIdx?_eq_none_iff.mpr earlierFails]
  simp [List.findIdx?_cons, matched]

@[simp]
theorem getElem?_append_cons (front back : List α) (item : α) :
    (front ++ item :: back)[front.length]? = some item := by
  simp

@[simp]
theorem set_append_cons (front back : List α) (item replacement : α) :
    (front ++ item :: back).set front.length replacement = front ++ replacement :: back := by
  simp

theorem swapRemove_append_singleton (front : List α) (item : α) :
    swapRemove (front ++ [item]) front.length = front := by
  simp [swapRemove]

/-- Removal by swapping drops exactly the item at the split. -/
theorem swapRemove_append_cons_perm (front back : List α) (item : α) :
    (swapRemove (front ++ item :: back) front.length).Perm (front ++ back) := by
  rcases List.eq_nil_or_concat back with rfl | ⟨middle, last, rfl⟩
  · rw [swapRemove_append_singleton, List.append_nil]
  · have lastItem : (front ++ item :: (middle ++ [last])).getLast? = some last := by
      simp [List.getLast?_cons]
    rw [List.concat_eq_append, swapRemove, lastItem]
    simp only [set_append_cons]
    rw [show front ++ last :: (middle ++ [last]) = (front ++ last :: middle) ++ [last] by simp,
      List.dropLast_concat]
    exact (List.perm_append_singleton last middle).symm.append_left front

theorem perm_cons_swapRemove (found : items[index]? = some item) :
    items.Perm (item :: swapRemove items index) := by
  obtain ⟨bound, same⟩ := List.getElem?_eq_some_iff.mp found
  have split : items = items.take index ++ item :: items.drop (index + 1) := by
    rw [← same, List.cons_getElem_drop_succ, List.take_append_drop]
  have length : (items.take index).length = index := List.length_take_of_le (Nat.le_of_lt bound)
  have removed := swapRemove_append_cons_perm (items.take index) (items.drop (index + 1)) item
  rw [← split, length] at removed
  rw [split]
  refine List.perm_middle.trans (List.Perm.cons item ?_)
  rw [← split]
  exact removed.symm

theorem nodup_append_singleton (nodup : items.Nodup)
    (absent : item ∉ items) : (items ++ [item]).Nodup := by
  rw [← List.concat_eq_append]
  exact nodup.concat absent

section Families

variable {ι : Type u} [DecidableEq ι]

/-- Prepending items to one member of a family prepends them, up to order, to
the concatenation of the family. -/
theorem flatMap_update_append_perm
    {β : Type u} {indices : List ι} {index : ι} (nodup : indices.Nodup) (member : index ∈ indices)
    (family : ι → List α) (added : List α) (view : ι → α → β) :
    (indices.flatMap fun position =>
      (Function.update family index (added ++ family index) position).map (view position)).Perm
      (added.map (view index) ++
        indices.flatMap fun position => (family position).map (view position)) := by
  induction indices with
  | nil => cases member
  | cons head tail ih =>
    obtain ⟨headFresh, tailNodup⟩ := List.nodup_cons.mp nodup
    simp only [List.flatMap_cons]
    by_cases same : head = index
    · subst same
      have tailEq :
          (tail.flatMap fun position =>
            (Function.update family head (added ++ family head) position).map (view position)) =
            tail.flatMap fun position => (family position).map (view position) := by
        refine List.flatMap_congr ?_
        intro position positionMember
        have different : position ≠ head := fun equal => headFresh (equal ▸ positionMember)
        rw [Function.update_of_ne different]
      rw [tailEq, Function.update_self, List.map_append, List.append_assoc]
    · have inTail : index ∈ tail := by
        rcases List.mem_cons.mp member with equal | inTail
        · exact absurd equal.symm same
        · exact inTail
      have moved := ih tailNodup inTail
      rw [Function.update_of_ne same]
      refine (moved.append_left _).trans ?_
      rw [← List.append_assoc, ← List.append_assoc]
      exact List.perm_append_comm.append_right _

end Families

/-- An edit that does not change the outcome of the test does not move the
first match. -/
theorem findIdx?_modify
    {edit : α → α} (same : ∀ item, items[index]? = some item → test (edit item) = test item) :
    (items.modify index edit).findIdx? test = items.findIdx? test := by
  induction items generalizing index with
  | nil => simp
  | cons head tail ih =>
    cases index with
    | zero =>
      have unchanged := same head rfl
      simp [List.findIdx?_cons, unchanged]
    | succ index =>
      have later : (tail.modify index edit).findIdx? test = tail.findIdx? test := ih same
      simp [List.findIdx?_cons, later]

theorem sum_map_set {old : α} (part : α → Nat) (new : α) (found : items[index]? = some old) :
    ((items.set index new).map part).sum + part old = (items.map part).sum + part new := by
  induction items generalizing index with
  | nil => simp at found
  | cons _ _ ih =>
    cases index with
    | zero =>
      cases found
      simp only [List.set_cons_zero, List.map_cons, List.sum_cons]
      omega
    | succ index =>
      have later := ih found
      simp only [List.set_cons_succ, List.map_cons, List.sum_cons]
      omega

theorem le_sum_map (part : α → Nat) (member : item ∈ items) : part item ≤ (items.map part).sum :=
  List.le_sum_of_mem (List.mem_map_of_mem member)

end Xenith.ListEdit
