import Mathlib

/-!
# Reference counts

The counts are exact if each is the number of names whose entry refers to the
resource and no resource has the count zero.
-/

namespace Xenith.ReferenceCount

open Function

universe u v w

variable {Name : Type u} {Entry : Type v} {Resource : Type w}

/-- The names whose entry refers to a resource. -/
def referring (target : Entry → Resource) (entries : Name → Option Entry)
    (resource : Resource) : Set Name :=
  {name | ∃ entry, entries name = some entry ∧ target entry = resource}

structure Exact (target : Entry → Resource)
    (entries : Name → Option Entry) (counts : Resource → Option Nat) :
    Prop where
  finite : {name | entries name ≠ none}.Finite
  counted : ∀ resource count, counts resource = some count →
    count = (referring target entries resource).ncard ∧ 1 ≤ count
  present : ∀ name entry, entries name = some entry → ∃ count, counts (target entry) = some count

section Rules

variable {target : Entry → Resource} {entries : Name → Option Entry}
variable {counts : Resource → Option Nat} {name : Name} {entry : Entry}
variable {resource : Resource} {count : Nat}

theorem exact_empty : Exact target (fun _ : Name => none) (fun _ => none) where
  finite := by simp
  counted := by simp
  present := by simp

theorem Exact.finite_referring (exact : Exact target entries counts) :
    (referring target entries resource).Finite := by
  apply exact.finite.subset
  rintro _ ⟨_, found, _⟩
  simp [found]

theorem not_mem_referring (fresh : entries name = none) :
    name ∉ referring target entries resource := by
  simp [referring, fresh]

theorem ncard_of_absent (exact : Exact target entries counts) (absent : counts resource = none) :
    (referring target entries resource).ncard = 0 := by
  rw [Set.ncard_eq_zero exact.finite_referring, Set.eq_empty_iff_forall_notMem]
  rintro name ⟨entry, found, rfl⟩
  obtain ⟨_, isPresent⟩ := exact.present name entry found
  rw [absent] at isPresent
  cases isPresent

variable [DecidableEq Name]

theorem referring_insert_self :
    referring target (update entries name (some entry)) (target entry) =
      insert name (referring target entries (target entry)) := by
  ext other
  by_cases same : other = name
  · simp [referring, same]
  · simp [referring, same]

theorem referring_insert_of_ne (fresh : entries name = none) (different : resource ≠ target entry) :
    referring target (update entries name (some entry)) resource =
      referring target entries resource := by
  ext other
  by_cases same : other = name
  · simp [referring, same, fresh, Ne.symm different]
  · simp [referring, same]

theorem referring_erase :
    referring target (update entries name none) resource =
      referring target entries resource \ {name} := by
  ext other
  by_cases same : other = name
  · simp [referring, same]
  · simp [referring, same]

theorem ncard_insert (exact : Exact target entries counts) (fresh : entries name = none) :
    (referring target (update entries name (some entry)) (target entry)).ncard =
      (referring target entries (target entry)).ncard + 1 := by
  rw [referring_insert_self]
  exact Set.ncard_insert_of_notMem (not_mem_referring fresh) exact.finite_referring

theorem ncard_erase (exact : Exact target entries counts) (found : entries name = some entry) :
    (referring target (update entries name none) (target entry)).ncard + 1 =
      (referring target entries (target entry)).ncard := by
  rw [referring_erase]
  exact Set.ncard_sdiff_singleton_add_one ⟨entry, found, rfl⟩ exact.finite_referring

theorem referring_erase_of_ne
    (found : entries name = some entry) (different : resource ≠ target entry) :
    referring target (update entries name none) resource = referring target entries resource := by
  rw [referring_erase]
  apply Set.sdiff_singleton_eq_self
  rintro ⟨_, isOther, refers⟩
  rw [found] at isOther
  cases isOther
  exact different refers.symm

theorem finite_update {value : Option Entry} (finite : {name | entries name ≠ none}.Finite) :
    {other | update entries name value other ≠ none}.Finite := by
  apply (finite.insert name).subset
  intro other isPresent
  by_cases same : other = name
  · exact Or.inl same
  · refine Or.inr ?_
    simpa [same] using isPresent

variable [DecidableEq Resource]

/-- A new name for a resource, counted one higher; a new resource counts from
zero. -/
theorem Exact.insert (exact : Exact target entries counts) (fresh : entries name = none)
    (isCount : (counts (target entry)).getD 0 = count) :
    Exact target (update entries name (some entry))
      (update counts (target entry) (some (count + 1))) where
  finite := finite_update exact.finite
  counted := by
    intro resource other counted
    by_cases same : resource = target entry
    · rw [same, update_self] at counted
      cases counted
      rw [same, ncard_insert exact fresh]
      refine ⟨?_, Nat.succ_le_succ (Nat.zero_le _)⟩
      cases isCounted : counts (target entry) with
      | none =>
        rw [isCounted] at isCount
        rw [ncard_of_absent exact isCounted, ← isCount]
        rfl
      | some =>
        rw [isCounted] at isCount
        rw [← (exact.counted _ _ isCounted).1, ← isCount]
        rfl
    · rw [update_of_ne same] at counted
      rw [referring_insert_of_ne fresh same]
      exact exact.counted resource other counted
  present := by
    intro other otherEntry found
    by_cases sameTarget : target otherEntry = target entry
    · exact ⟨count + 1, by rw [sameTarget, update_self]⟩
    · by_cases same : other = name
      · rw [same, update_self] at found
        cases found
        exact absurd rfl sameTarget
      · rw [update_of_ne same] at found
        rw [update_of_ne sameTarget]
        exact exact.present other otherEntry found

/-- A name is dropped; the resource goes with its last name. -/
theorem Exact.erase (exact : Exact target entries counts) (found : entries name = some entry)
    (isCount : counts (target entry) = some count) :
    Exact target (update entries name none)
      (update counts (target entry) (if count - 1 = 0 then none else some (count - 1))) where
  finite := finite_update exact.finite
  counted := by
    intro resource other counted
    by_cases same : resource = target entry
    · rw [same, update_self] at counted
      split at counted
      · cases counted
      · next remains =>
        cases counted
        have before := (exact.counted _ _ isCount).1
        have after := ncard_erase exact found
        rw [same]
        omega
    · rw [update_of_ne same] at counted
      rw [referring_erase_of_ne found same]
      exact exact.counted resource other counted
  present := by
    intro other otherEntry otherFound
    have isOther : other ≠ name := by
      rintro rfl
      simp at otherFound
    rw [update_of_ne isOther] at otherFound
    by_cases same : target otherEntry = target entry
    · rw [same, update_self]
      have before := exact.counted _ _ isCount
      have after := ncard_erase exact found
      have stillNamed : 0 < (referring target (update entries name none) (target entry)).ncard := by
        rw [Set.ncard_pos (exact.finite_referring.subset
          (by rw [referring_erase]; exact Set.sdiff_subset))]
        exact ⟨other, otherEntry, by
          rw [update_of_ne isOther]; exact otherFound, same⟩
      rw [if_neg (by omega)]
      exact ⟨count - 1, rfl⟩
    · rw [update_of_ne same]
      exact exact.present other otherEntry otherFound

end Rules

end Xenith.ReferenceCount
