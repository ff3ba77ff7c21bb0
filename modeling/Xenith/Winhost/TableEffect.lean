import Xenith.Winhost.Object

/-!
# The two tables as finite maps

What the operations of the handle table and of the object table do to the
entries that identifiers find.
-/

namespace Xenith.Winhost

open SlotTable
open Function

/-! ## Handles -/

variable {key : Key} {capacity : Nat}

namespace HandleTable

variable {table next : HandleTable} {handle : GuestHandle} {entry : HandleEntry}

/-- Every handle that the table issues can be decoded. -/
def WellFormed (table : HandleTable) : Prop :=
  ∃ capacity ≤ maxHandleEntries, SlotTable.WellFormed maxIssuedGeneration capacity table.slots

/-- The handle was closed, and no later handle has its value. -/
def Rejects (table : HandleTable) (handle : GuestHandle) : Prop :=
  ∃ key, decode indexBits handle = some key ∧ Spent table.slots key

theorem Rejects.find_eq_none (rejects : table.Rejects handle) : table.find handle = none := by
  obtain ⟨_, decoded, spent⟩ := rejects
  rw [find, decoded]
  exact spent.lookup_eq_none

structure Extends (table next : HandleTable) : Prop where
  wellFormed : table.WellFormed → next.WellFormed
  rejects : ∀ handle, table.Rejects handle → next.Rejects handle

theorem Extends.refl : Extends table table :=
  ⟨id, fun _ => id⟩

theorem WellFormed.decode_encode
    (wellFormed : table.WellFormed) (free : freeKey table.slots = some key) :
    decode indexBits (encode indexBits key) = some key := by
  obtain ⟨_, bound, wellFormed⟩ := wellFormed
  obtain ⟨_, present, _, _, generation⟩ := freeKey_eq_some free
  exact (wellFormed.decode_encode (Nat.lt_succ_of_le bound) present generation).1

theorem wellFormed_empty (bound : capacity ≤ maxHandleEntries) : (empty capacity).WellFormed :=
  ⟨capacity, bound, wellFormed_replicate (by decide)⟩

theorem find_empty : (empty capacity).find = fun _ => none :=
  funext fun _ => bind_lookup_replicate_fresh

variable {error : HandleError}

theorem insert_eq_error (called : table.insert entry = (.error error, next)) : next = table := by
  revert called
  fun_cases insert with
  | case4 => nofun
  | _ =>
    rintro ⟨⟩
    rfl

theorem insert_eq_ok
    (wellFormed : table.WellFormed) (called : table.insert entry = (.ok handle, next)) :
    table.find handle = none ∧
      next.find = update table.find handle (some entry) ∧
      Extends table next := by
  revert called
  fun_cases insert with
  | case4 _ _ key free =>
    rintro ⟨⟩
    have decoded := wellFormed.decode_encode free
    refine ⟨?_, ?_, ?_, ?_⟩
    · rw [find, decoded]
      exact lookup_freeKey free
    · exact find_of_lookup decode_injective decoded (fun _ => lookup_insert free)
    · rintro ⟨capacity, bound, wellFormed⟩
      exact ⟨capacity, bound, wellFormed.insert free⟩
    · rintro handle ⟨key, decoded, spent⟩
      exact ⟨key, decoded, spent.insert⟩
  | _ => nofun

theorem close_eq_error (called : table.close handle = (.error error, next)) : next = table := by
  revert called
  fun_cases close with
  | case3 => nofun
  | _ =>
    rintro ⟨⟩
    rfl

theorem close_eq_ok (called : table.close handle = (.ok entry, next)) :
    table.find handle = some entry ∧
      next.find = update table.find handle none ∧
      Extends table next ∧ next.Rejects handle := by
  revert called
  fun_cases close with
  | case3 key decoded entry found =>
    rintro ⟨⟩
    refine ⟨?_, ?_, ⟨?_, ?_⟩, ?_⟩
    · rw [find, decoded]
      exact found
    · exact find_of_lookup decode_injective decoded (fun _ => lookup_remove found)
    · rintro ⟨capacity, bound, wellFormed⟩
      exact ⟨capacity, bound, wellFormed.remove⟩
    · rintro handle ⟨key, decoded, spent⟩
      exact ⟨key, decoded, spent.remove⟩
    · exact ⟨key, decoded, spent_remove found⟩
  | _ => nofun

theorem reference_eq_ok {expected : Option ObjectType} {access : AccessMask}
    (referenced : table.reference handle expected access = .ok entry) :
    table.find handle = some entry ∧
      (∀ type, expected = some type → entry.objectType = type) ∧
      AccessMask.contains entry.access access = true := by
  revert referenced
  fun_cases reference with
  | case3 entry found accepted contained =>
    rintro ⟨⟩
    refine ⟨found, ?_, contained⟩
    intro type isExpected
    simpa [isExpected] using accepted
  | _ => nofun

theorem reference_error_of_any
    {access : AccessMask} (failed : table.reference handle none access = .error error) :
    error.status ≠ .objectTypeMismatch := by
  revert failed
  fun_cases reference with
  | case1 | case4 =>
    rintro ⟨⟩
    simp [HandleError.status]
  | case2 _ _ _ mismatched => cases mismatched
  | case3 => nofun

section Duplicates

variable {desired : Option AccessMask} {inheritable : Option Bool}

theorem duplicate_eq_error
    (called : table.duplicate handle desired inheritable = (.error error, next)) :
    next = table := by
  revert called
  fun_cases duplicate with
  | case3 => exact insert_eq_error
  | _ =>
    rintro ⟨⟩
    rfl

theorem duplicate_eq_ok {copy : GuestHandle} (wellFormed : table.WellFormed)
    (called : table.duplicate handle desired inheritable = (.ok copy, next)) :
    ∃ entry, table.find handle = some entry ∧
      AccessMask.contains entry.access (narrow entry desired inheritable).access = true ∧
      table.find copy = none ∧
      next.find = update table.find copy (some (narrow entry desired inheritable)) ∧
      Extends table next := by
  revert called
  fun_cases duplicate with
  | case3 entry referenced contained =>
    intro called
    refine ⟨entry, (reference_eq_ok referenced).1, ?_, insert_eq_ok wellFormed called⟩
    cases desired with
    | none => simp [narrow, AccessMask.contains]
    | some access => simpa [narrow] using contained
  | _ => nofun

end Duplicates

end HandleTable

/-! ## Objects -/

namespace ObjectTable

variable {table next : ObjectTable} {id : ObjectId} {counted : Counted}

def find (table : ObjectTable) (id : ObjectId) : Option Counted :=
  (decodeObject id).bind (lookup table.slots)

/-- Every identifier that the table issues can be decoded. -/
def WellFormed (table : ObjectTable) : Prop :=
  ∃ capacity ≤ maxObjectEntries, SlotTable.WellFormed maxIssuedObjectGeneration capacity table.slots

theorem decodeObject_eq_some :
    decodeObject id = some key ↔
      decode objectIndexBits id = some key ∧ key.generation ≤ maxIssuedObjectGeneration := by
  simp [decodeObject]

theorem decodeObject_injective {left right : ObjectId} (leftKey : decodeObject left = some key)
    (rightKey : decodeObject right = some key) : left = right :=
  decode_injective (decodeObject_eq_some.mp leftKey).1 (decodeObject_eq_some.mp rightKey).1

theorem WellFormed.decode_encode
    (wellFormed : table.WellFormed) (free : freeKey table.slots = some key) :
    decodeObject (encode objectIndexBits key) = some key := by
  obtain ⟨_, bound, wellFormed⟩ := wellFormed
  obtain ⟨_, present, _, _, generation⟩ := freeKey_eq_some free
  exact decodeObject_eq_some.mpr
    (wellFormed.decode_encode (Nat.lt_succ_of_le bound) present generation)

theorem wellFormed_empty (bound : capacity ≤ maxObjectEntries) : (empty capacity).WellFormed :=
  ⟨capacity, bound, wellFormed_replicate (by decide)⟩

theorem find_empty : (empty capacity).find = fun _ => none :=
  funext fun _ => bind_lookup_replicate_fresh

section Inserts

variable {object : RuntimeObject}

theorem insert_eq_error
    {error : ObjectError} (called : table.insert object = (.error error, next)) :
    next = table := by
  revert called
  fun_cases insert with
  | case3 => nofun
  | _ =>
    rintro ⟨⟩
    rfl

theorem insert_eq_ok
    (wellFormed : table.WellFormed) (called : table.insert object = (.ok id, next)) :
    table.find id = none ∧
      next.find = update table.find id (some ⟨1, object⟩) ∧
      next.WellFormed := by
  revert called
  fun_cases insert with
  | case3 _ _ free =>
    rintro ⟨⟩
    have decoded := wellFormed.decode_encode free
    refine ⟨?_, ?_, ?_⟩
    · rw [find, decoded]
      exact lookup_freeKey free
    · exact find_of_lookup decodeObject_injective decoded (fun _ => lookup_insert free)
    · obtain ⟨capacity, bound, wellFormed⟩ := wellFormed
      exact ⟨capacity, bound, wellFormed.insert free⟩
  | _ => nofun

end Inserts

theorem liveSlot_eq_ok :
    table.liveSlot id = .ok (key, counted) ↔ decodeObject id = some key ∧
      lookup table.slots key = some counted ∧
      counted.references ≠ 0 := by
  constructor
  · fun_cases liveSlot with
    | case4 key decoded counted found nonzero =>
      rintro ⟨⟩
      exact ⟨decoded, found, nonzero⟩
    | _ => nofun
  · rintro ⟨decoded, found, nonzero⟩
    simp only [liveSlot, decoded, found, if_neg nonzero]

theorem liveSlot_of_find (found : table.find id = some counted) (used : counted.references ≠ 0) :
    ∃ key, table.liveSlot id = .ok (key, counted) ∧
      decodeObject id = some key ∧ lookup table.slots key = some counted := by
  obtain ⟨key, decoded, found⟩ := Option.bind_eq_some_iff.mp found
  exact ⟨key, liveSlot_eq_ok.mpr ⟨decoded, found, used⟩, decoded, found⟩

theorem reference_of_find {expected : Option ObjectType} (found : table.find id = some counted)
    (used : counted.references ≠ 0)
    (typed : ∀ type, expected = some type → counted.object.objectType = type) :
    table.reference id expected = .ok counted.object := by
  obtain ⟨_, isLive, _⟩ := liveSlot_of_find found used
  unfold reference
  rw [isLive]
  cases expected with
  | none => rfl
  | some type => simp [validateType, Option.filter, typed type rfl, Except.map]

variable {change : Counted → Counted}

theorem edit_find (decoded : decodeObject id = some key)
    (found : lookup table.slots key = some counted) :
    ({ table with slots := update table.slots key change } : ObjectTable).find =
      update table.find id (some (change counted)) :=
  find_of_lookup decodeObject_injective decoded (fun _ => lookup_update found)

theorem WellFormed.edit (wellFormed : table.WellFormed) :
    ({ table with slots := update table.slots key change } : ObjectTable).WellFormed := by
  obtain ⟨capacity, bound, wellFormed⟩ := wellFormed
  exact ⟨capacity, bound, wellFormed.update⟩

variable {object : RuntimeObject}

theorem WellFormed.store (wellFormed : table.WellFormed) : (table.store id object).WellFormed := by
  unfold ObjectTable.store
  split
  · exact wellFormed
  · exact wellFormed.edit

theorem store_find (found : table.find id = some counted) (used : counted.references ≠ 0) :
    (table.store id object).find =
      update table.find id (some { counted with object := object }) := by
  obtain ⟨_, isLive, decoded, found⟩ := liveSlot_of_find found used
  unfold store
  rw [isLive]
  exact edit_find decoded found

theorem retain_eq_error {error : ObjectError} (called : table.retain id = (.error error, next)) :
    next = table := by
  revert called
  fun_cases retain with
  | case3 => nofun
  | _ =>
    rintro ⟨⟩
    rfl

theorem retain_eq_ok
    {references : Nat} (wellFormed : table.WellFormed) (isCounted : table.find id = some counted)
    (called : table.retain id = (.ok references, next)) :
    next.WellFormed ∧ next.find =
      update table.find id (some { counted with references := counted.references + 1 }) := by
  revert called
  fun_cases retain with
  | case3 _ _ isLive _ isSum =>
    rintro ⟨⟩
    obtain ⟨decoded, found, _⟩ := liveSlot_eq_ok.mp isLive
    rw [find, decoded, Option.bind_some, found] at isCounted
    cases isCounted
    refine ⟨wellFormed.edit, ?_⟩
    rw [edit_find decoded found, (checkedAdd32_eq_some isSum).1]
  | _ => nofun

theorem release_cases {result : Except ObjectError (Option RuntimeObject)}
    (wellFormed : table.WellFormed) (found : table.find id = some counted)
    (used : counted.references ≠ 0) (called : table.release id = (result, next)) :
    (∃ retired, result = .ok retired) ∧ next.WellFormed ∧ next.find = update table.find id
      (if counted.references - 1 = 0 then none
        else some { counted with references := counted.references - 1 }) := by
  obtain ⟨_, isLive, decoded, found⟩ := liveSlot_of_find found used
  unfold release at called
  rw [isLive] at called
  simp only at called
  split at called
  · next remains =>
    cases called
    rw [if_neg remains]
    exact ⟨⟨_, rfl⟩, wellFormed.edit, edit_find decoded found⟩
  · next last =>
    cases called
    rw [if_pos (not_not.mp last)]
    obtain ⟨capacity, bound, wellFormed⟩ := wellFormed
    exact ⟨⟨_, rfl⟩, ⟨capacity, bound, wellFormed.remove⟩,
      find_of_lookup decodeObject_injective decoded (fun _ => lookup_remove found)⟩

/-! ## The end of a thread -/

variable {thread : NtThreadId}

theorem abandonObject_references :
    (abandonObject thread counted).2.references = counted.references := by
  unfold abandonObject
  split <;> rfl

theorem abandonObject_objectType :
    (abandonObject thread counted).2.object.objectType = counted.object.objectType := by
  unfold abandonObject
  split
  · next isMutant => simp [isMutant, RuntimeObject.objectType]
  · rfl

theorem abandonMutants_find :
    (table.abandonMutants thread).2.find =
      fun id => (table.find id).map (fun counted => (abandonObject thread counted).2) := by
  funext id
  unfold find
  cases decodeObject id with
  | none => rfl
  | some key =>
    simp only [abandonMutants, lookup, List.getElem?_map, Option.bind_some]
    cases table.slots[key.index]? with
    | none => rfl
    | some slot =>
      by_cases occupied : slot.occupied
      · simp [abandonSlot, occupied, Slot.edit, Slot.accepts]
      · simp [abandonSlot, occupied, Slot.accepts]

theorem WellFormed.abandonMutants (wellFormed : table.WellFormed) :
    (table.abandonMutants thread).2.WellFormed := by
  obtain ⟨capacity, bound, wellFormed⟩ := wellFormed
  refine ⟨capacity, bound, ?_, ?_⟩
  · simpa [ObjectTable.abandonMutants] using wellFormed.length
  · intro slot member
    obtain ⟨old, oldMember, rfl⟩ := List.mem_map.mp member
    have before := wellFormed.slots old oldMember
    unfold abandonSlot
    split
    · exact ⟨before.positive, before.bounded, before.vacant⟩
    · exact before

end ObjectTable

end Xenith.Winhost
