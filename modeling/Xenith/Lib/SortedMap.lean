import Mathlib

/-!
# Finite maps as sorted association lists

The entries of a map are stored in strictly ascending key order, so a walk
over the entries visits the keys in that order and two maps with the same
lookups are equal.
-/

namespace Xenith

universe u v

/-- A finite map whose entries are strictly ascending in their keys. -/
structure SortedMap (α : Type u) (β : Type v) [LinearOrder α] where
  entries : List (α × β)
  sorted : entries.Pairwise fun left right => left.1 < right.1
deriving DecidableEq

namespace SortedMap

variable {α : Type u} {β : Type v} [LinearOrder α]

@[ext]
theorem ext_entries {left right : SortedMap α β}
    (same : left.entries = right.entries) : left = right := by
  cases left
  cases same
  rfl

def empty : SortedMap α β where
  entries := []
  sorted := List.Pairwise.nil

def lookupList (key : α) : List (α × β) → Option β
  | [] => none
  | (other, value) :: rest => if other = key then some value else lookupList key rest

def get? (map : SortedMap α β) (key : α) : Option β :=
  lookupList key map.entries

def putList (key : α) (value : β) : List (α × β) → List (α × β)
  | [] => [(key, value)]
  | (other, stored) :: rest =>
    if key < other then (key, value) :: (other, stored) :: rest
    else if key = other then (key, value) :: rest
    else (other, stored) :: putList key value rest

variable {entries : List (α × β)} {value : β}

theorem mem_putList_key
    {key tested : α} (member : tested ∈ (putList key value entries).map Prod.fst) :
    tested = key ∨ tested ∈ entries.map Prod.fst := by
  induction entries with
  | nil => simpa [putList] using member
  | cons _ _ ih =>
    unfold putList at member
    split at member
    · simpa using member
    · split at member
      · rename_i sameKey
        subst sameKey
        tauto
      · simp only [List.map_cons, List.mem_cons] at member ⊢
        rcases member with equal | member
        · exact Or.inr (Or.inl equal)
        · rcases ih member with equal | earlier
          · exact Or.inl equal
          · exact Or.inr (Or.inr earlier)

theorem putList_sorted
    (key : α) (value : β) (sorted : entries.Pairwise fun left right => left.1 < right.1) :
    (putList key value entries).Pairwise fun left right => left.1 < right.1 := by
  induction entries with
  | nil => simp [putList]
  | cons _ rest ih =>
    obtain ⟨headBelow, restSorted⟩ := List.pairwise_cons.mp sorted
    unfold putList
    split
    · rename_i keyBelow
      exact List.pairwise_cons.mpr ⟨List.forall_mem_cons.mpr
        ⟨keyBelow, fun later member => lt_trans keyBelow (headBelow later member)⟩, sorted⟩
    · split
      · rename_i sameKey
        subst sameKey
        exact List.pairwise_cons.mpr ⟨headBelow, restSorted⟩
      · rename_i notBelow different
        refine List.pairwise_cons.mpr ⟨?_, ih restSorted⟩
        intro later member
        have laterKey : later.1 ∈ (putList key value rest).map Prod.fst :=
          List.mem_map.mpr ⟨later, member, rfl⟩
        rcases mem_putList_key laterKey with equal | earlier
        · rw [equal]
          exact lt_of_le_of_ne (not_lt.mp notBelow) (Ne.symm different)
        · obtain ⟨source, sourceMember, sourceKey⟩ := List.mem_map.mp earlier
          rw [← sourceKey]
          exact headBelow source sourceMember

/-- Store `value` under `key`, replacing an earlier value. -/
def put (map : SortedMap α β) (key : α) (value : β) : SortedMap α β where
  entries := putList key value map.entries
  sorted := putList_sorted key value map.sorted

def erase (map : SortedMap α β) (key : α) : SortedMap α β where
  entries := map.entries.filter fun entry => decide (entry.1 ≠ key)
  sorted := map.sorted.filter _

theorem lookupList_putList (key tested : α) (value : β) (entries : List (α × β)) :
    lookupList tested (putList key value entries) =
      if key = tested then some value else lookupList tested entries := by
  induction entries with
  | nil => simp [putList, lookupList]
  | cons entry _ ih =>
    obtain ⟨other, _⟩ := entry
    unfold putList
    split
    · simp [lookupList]
    · split
      · rename_i sameKey
        subst sameKey
        by_cases equal : key = tested <;> simp [lookupList, equal]
      · rename_i different
        by_cases equal : other = tested
        · subst equal
          simp [lookupList, different]
        · simp [lookupList, equal, ih]

@[simp]
theorem get?_put (map : SortedMap α β) (key tested : α) (value : β) :
    (map.put key value).get? tested = if key = tested then some value else map.get? tested :=
  lookupList_putList key tested value map.entries

theorem lookupList_filter_ne (key tested : α) (entries : List (α × β)) :
    lookupList tested (entries.filter fun entry => decide (entry.1 ≠ key)) =
      if key = tested then none else lookupList tested entries := by
  induction entries with
  | nil => simp [lookupList]
  | cons entry _ ih =>
    obtain ⟨other, _⟩ := entry
    by_cases removed : other = key
    · subst removed
      by_cases equal : other = tested
      · subst equal
        simpa using ih
      · simpa [lookupList, equal] using ih
    · by_cases equal : other = tested
      · subst equal
        simp [lookupList, removed, Ne.symm removed]
      · simpa [lookupList, removed, equal] using ih

@[simp]
theorem get?_erase (map : SortedMap α β) (key tested : α) :
    (map.erase key).get? tested = if key = tested then none else map.get? tested :=
  lookupList_filter_ne key tested map.entries

variable {key : α}

theorem lookupList_eq_some_of_mem (sorted : entries.Pairwise fun left right => left.1 < right.1)
    (member : (key, value) ∈ entries) :
    lookupList key entries = some value := by
  induction entries with
  | nil => simp at member
  | cons entry _ ih =>
    obtain ⟨other, _⟩ := entry
    obtain ⟨headBelow, restSorted⟩ := List.pairwise_cons.mp sorted
    rcases List.mem_cons.mp member with equal | member
    · cases equal
      simp [lookupList]
    · have below := headBelow (key, value) member
      have different : other ≠ key := ne_of_lt below
      simp [lookupList, different, ih restSorted member]

theorem mem_of_lookupList_eq_some (found : lookupList key entries = some value) :
    (key, value) ∈ entries := by
  induction entries with
  | nil => simp [lookupList] at found
  | cons _ _ ih =>
    unfold lookupList at found
    split at found
    · rename_i equal
      cases found
      subst equal
      exact List.mem_cons_self ..
    · exact List.mem_cons_of_mem _ (ih found)

variable {map : SortedMap α β}

theorem get?_eq_some_iff : map.get? key = some value ↔ (key, value) ∈ map.entries :=
  ⟨mem_of_lookupList_eq_some, lookupList_eq_some_of_mem map.sorted⟩

theorem ext_get? {left right : SortedMap α β} (same : ∀ key, left.get? key = right.get? key) :
    left = right := by
  have nodupOf : ∀ map : SortedMap α β, map.entries.Nodup := by
    intro map
    refine map.sorted.imp ?_
    intro first second below equal
    rw [equal] at below
    exact lt_irrefl _ below
  have sameMembers : ∀ entry, entry ∈ left.entries ↔ entry ∈ right.entries := by
    rintro ⟨key, _⟩
    rw [← get?_eq_some_iff, ← get?_eq_some_iff, same key]
  have permutation : left.entries.Perm right.entries :=
    (List.perm_ext_iff_of_nodup (nodupOf left) (nodupOf right)).mpr sameMembers
  apply ext_entries
  refine List.Perm.eq_of_pairwise ?_ left.sorted right.sorted permutation
  intro first second _ _ below above
  exact absurd (lt_trans below above) (lt_irrefl _)

variable {stored : β}

theorem ext_at {left right : SortedMap α β} (key : α) (same : left.get? key = right.get? key)
    (elsewhere : ∀ tested, key ≠ tested → left.get? tested = right.get? tested) :
    left = right := by
  apply ext_get?
  intro tested
  by_cases equal : key = tested
  · rw [← equal, same]
  · exact elsewhere tested equal

/-- Restoring a value that was stored before an overwrite. -/
theorem put_put_of_get?_eq_some (found : map.get? key = some stored) (value : β) :
    (map.put key value).put key stored = map :=
  ext_at key (by simp [found]) fun tested different => by simp [different]

/-- Erasing a key that was free before it was stored. -/
theorem erase_put_of_get?_eq_none (missing : map.get? key = none) (value : β) :
    (map.put key value).erase key = map :=
  ext_at key (by simp [missing]) fun tested different => by simp [different]

theorem put_of_get?_eq_some (found : map.get? key = some stored) : map.put key stored = map :=
  ext_at key (by simp [found]) fun tested different => by simp [different]

def mapValues (change : β → β) (map : SortedMap α β) : SortedMap α β where
  entries := map.entries.map fun entry => (entry.1, change entry.2)
  sorted := List.pairwise_map.mpr map.sorted

theorem lookupList_map (change : β → β) (key : α) (entries : List (α × β)) :
    lookupList key (entries.map fun entry => (entry.1, change entry.2)) =
      (lookupList key entries).map change := by
  induction entries with
  | nil => rfl
  | cons entry _ ih =>
    obtain ⟨other, _⟩ := entry
    by_cases equal : other = key
    · simp [lookupList, equal]
    · simp [lookupList, equal, ih]

@[simp]
theorem get?_mapValues (change : β → β) (map : SortedMap α β) (key : α) :
    (map.mapValues change).get? key = (map.get? key).map change :=
  lookupList_map change key map.entries

/-- The number of keys whose value satisfies `test`. -/
def countValues (test : β → Bool) (map : SortedMap α β) : Nat :=
  map.entries.countP fun entry => test entry.2

variable {test : β → Bool}

theorem countValues_mapValues
    {change : β → β} (kept : ∀ value, test (change value) = test value) (map : SortedMap α β) :
    (map.mapValues change).countValues test = map.countValues test := by
  simp [countValues, mapValues, Function.comp_def, kept]

theorem countP_filter_ne (sorted : entries.Pairwise fun left right => left.1 < right.1) :
    (entries.filter fun entry => decide (entry.1 ≠ key)).countP (fun entry => test entry.2) +
        (lookupList key entries).toList.countP test =
      entries.countP fun entry => test entry.2 := by
  induction entries with
  | nil => rfl
  | cons entry rest ih =>
    obtain ⟨other, _⟩ := entry
    obtain ⟨above, restSorted⟩ := List.pairwise_cons.mp sorted
    by_cases equal : other = key
    · subst equal
      have kept : rest.filter (fun entry => decide (entry.1 ≠ other)) = rest :=
        List.filter_eq_self.mpr fun entry member => decide_eq_true (ne_of_gt (above entry member))
      rw [List.filter_cons_of_neg (by simp), kept]
      simp [lookupList, List.countP_cons]
    · have counted := ih restSorted
      rw [List.filter_cons_of_pos (by simpa using equal), lookupList,
        if_neg equal, List.countP_cons, List.countP_cons]
      omega

/-- Maps that differ at one key only differ by its values in the count. -/
theorem countValues_exchange {before after : SortedMap α β}
    (same : ∀ tested, key ≠ tested → after.get? tested = before.get? tested) :
    after.countValues test + (before.get? key).toList.countP test =
      before.countValues test + (after.get? key).toList.countP test := by
  have erased : after.erase key = before.erase key :=
    ext_at key (by simp) fun tested different => by
      simp [same tested different]
  have countedBefore :
      (before.erase key).countValues test + (before.get? key).toList.countP test =
        before.countValues test :=
    countP_filter_ne before.sorted
  have countedAfter :
      (after.erase key).countValues test + (after.get? key).toList.countP test =
        after.countValues test :=
    countP_filter_ne after.sorted
  rw [erased] at countedAfter
  omega

theorem countValues_pos_of_get?_eq_some
    (found : map.get? key = some stored) (accepted : test stored = true) :
    0 < map.countValues test := by
  refine List.countP_pos_iff.mpr ⟨(key, stored), ?_, accepted⟩
  exact get?_eq_some_iff.mp found

theorem exists_get?_of_countValues_pos (positive : 0 < map.countValues test) :
    ∃ key stored, map.get? key = some stored ∧ test stored = true := by
  obtain ⟨⟨key, stored⟩, member, accepted⟩ := List.countP_pos_iff.mp positive
  exact ⟨key, stored, get?_eq_some_iff.mpr member, accepted⟩

end SortedMap

end Xenith
