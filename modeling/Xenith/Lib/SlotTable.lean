import Mathlib

/-!
# Tables of slots with generations

The generation of a slot grows whenever its entry is taken out, and a slot
whose generation cannot grow is retired, so a key whose entry has been taken
out is never accepted again.
-/

namespace Xenith.SlotTable

universe u

variable {α : Type u}

structure Slot (α : Type u) where
  generation : Nat
  occupied : Bool
  retired : Bool
  entry : α
deriving DecidableEq

structure Key where
  index : Nat
  generation : Nat
deriving DecidableEq

namespace Slot

def fresh (entry : α) : Slot α where
  generation := 1
  occupied := false
  retired := false
  entry := entry

def isFree (slot : Slot α) : Bool :=
  !slot.occupied && !slot.retired

def accepts (slot : Slot α) (generation : Nat) : Bool :=
  slot.occupied && !slot.retired && decide (slot.generation = generation)

def fill (entry : α) (slot : Slot α) : Slot α :=
  { slot with occupied := true, entry := entry }

/-- The entry leaves; at the limit the slot is not used again. -/
def vacate (limit : Nat) (empty : α) (slot : Slot α) : Slot α :=
  if slot.generation = limit then { slot with occupied := false, retired := true, entry := empty }
  else { slot with generation := slot.generation + 1, occupied := false, entry := empty }

def edit (change : α → α) (slot : Slot α) : Slot α :=
  { slot with entry := change slot.entry }

end Slot

def lookup (slots : List (Slot α)) (key : Key) : Option α :=
  match slots[key.index]? with
  | none => none
  | some slot => if slot.accepts key.generation then some slot.entry else none

/-- The key of the lowest slot that can be filled. -/
def freeKey (slots : List (Slot α)) : Option Key :=
  (slots.findIdx? Slot.isFree).bind fun index =>
    (slots[index]?).map fun slot => ⟨index, slot.generation⟩

def insert (slots : List (Slot α)) (key : Key) (entry : α) : List (Slot α) :=
  slots.modify key.index (Slot.fill entry)

def remove (limit : Nat) (empty : α) (slots : List (Slot α)) (key : Key) : List (Slot α) :=
  slots.modify key.index (Slot.vacate limit empty)

def update (slots : List (Slot α)) (key : Key) (change : α → α) : List (Slot α) :=
  slots.modify key.index (Slot.edit change)

/-! ## Entries -/

variable {slots : List (Slot α)} {key : Key} {entry : α}

theorem lookup_eq_some :
    lookup slots key = some entry ↔ ∃ slot, slots[key.index]? = some slot ∧ slot.occupied = true ∧
      slot.retired = false ∧ slot.generation = key.generation ∧
      slot.entry = entry := by
  unfold lookup
  cases slots[key.index]? with
  | none => simp
  | some slot => simp [Slot.accepts, and_assoc]

theorem freeKey_eq_some (free : freeKey slots = some key) :
    ∃ slot, slots[key.index]? = some slot ∧ slot.occupied = false ∧
      slot.retired = false ∧ slot.generation = key.generation := by
  obtain ⟨index, found, free⟩ := Option.bind_eq_some_iff.mp free
  obtain ⟨slot, present, rfl⟩ := Option.map_eq_some_iff.mp free
  obtain ⟨_, matched, _⟩ := List.findIdx?_eq_some_iff_getElem.mp found
  obtain ⟨_, rfl⟩ := List.getElem?_eq_some_iff.mp present
  simp only [Slot.isFree, Bool.and_eq_true, Bool.not_eq_true'] at matched
  exact ⟨slots[index], present, matched.1, matched.2, rfl⟩

theorem lookup_freeKey (free : freeKey slots = some key) : lookup slots key = none := by
  obtain ⟨_, present, empty, _⟩ := freeKey_eq_some free
  simp [lookup, present, Slot.accepts, empty]

variable {capacity : Nat}

theorem lookup_replicate_fresh :
    lookup (List.replicate capacity (Slot.fresh entry)) key = none := by
  by_contra found
  obtain ⟨_, found⟩ := Option.ne_none_iff_exists'.mp found
  obtain ⟨_, present, occupied, _⟩ := lookup_eq_some.mp found
  rw [List.eq_of_mem_replicate (List.mem_of_getElem? present)] at occupied
  cases occupied

theorem bind_lookup_replicate_fresh {named : Option Key} :
    named.bind (lookup (List.replicate capacity (Slot.fresh entry))) = none := by
  cases named with
  | none => rfl
  | some => exact lookup_replicate_fresh

variable {change : Slot α → Slot α} {index bits : Nat} {other : Key} {empty : α} {slot : Slot α}

theorem lookup_of_generation_ne
    (present : slots[key.index]? = some slot) (different : slot.generation ≠ key.generation) :
    lookup slots key = none := by
  simp [lookup, present, Slot.accepts, different]

variable {key : Key}

/-- An edit of the slot of a key that no other generation sees. -/
theorem lookup_modify {value : Option α} (present : slots[key.index]? = some slot)
    (generation : slot.generation = key.generation)
    (seen : ∀ tested,
      (if (change slot).accepts tested then some (change slot).entry
        else none) =
        if tested = key.generation then value else none) :
    lookup (slots.modify key.index change) other =
      if other = key then value else lookup slots other := by
  by_cases here : other.index = key.index
  · rw [← here] at present
    have changed : lookup (slots.modify other.index change) other =
        if other.generation = key.generation then value else none := by
      simp [lookup, present, ← seen]
    rw [← here, changed]
    by_cases same : other.generation = key.generation
    · have isKey : other = key := by
        cases other
        simp_all
      rw [if_pos same, if_pos isKey]
    · have notKey : other ≠ key := fun isKey => same (by rw [isKey])
      rw [if_neg same, if_neg notKey, lookup_of_generation_ne present
        (fun isGeneration => same (isGeneration.symm.trans generation))]
  · have notKey : other ≠ key := fun isKey => here (by rw [isKey])
    simp [lookup, Ne.symm here, notKey]

theorem lookup_insert (free : freeKey slots = some key) :
    lookup (insert slots key entry) other =
      if other = key then some entry else lookup slots other := by
  obtain ⟨_, present, _, alive, generation⟩ := freeKey_eq_some free
  apply lookup_modify present generation
  simp [Slot.fill, Slot.accepts, alive, generation, eq_comm]

variable {limit : Nat}

theorem Slot.occupied_vacate : (slot.vacate limit empty).occupied = false := by
  unfold Slot.vacate
  split <;> rfl

theorem lookup_remove {entry : α} (found : lookup slots key = some entry) :
    lookup (remove limit empty slots key) other =
      if other = key then none else lookup slots other := by
  obtain ⟨_, present, _, _, generation, _⟩ := lookup_eq_some.mp found
  apply lookup_modify present generation
  simp [Slot.accepts, Slot.occupied_vacate]

theorem lookup_update {change : α → α} (found : lookup slots key = some entry) :
    lookup (update slots key change) other =
      if other = key then some (change entry) else lookup slots other := by
  obtain ⟨_, present, occupied, alive, generation, rfl⟩ := lookup_eq_some.mp found
  apply lookup_modify present generation
  simp [Slot.edit, Slot.accepts, occupied, alive, generation, eq_comm]

/-! ## Generations -/

/-- A slot after some edits. -/
def Slot.Later (before after : Slot α) : Prop :=
  before.generation ≤ after.generation ∧ (before.retired = true → after.retired = true)

theorem Slot.later_fill : slot.Later (slot.fill entry) :=
  ⟨Nat.le_refl _, fun isRetired => isRetired⟩

theorem Slot.later_edit {change : α → α} : slot.Later (slot.edit change) :=
  ⟨Nat.le_refl _, fun isRetired => isRetired⟩

theorem Slot.later_vacate : slot.Later (slot.vacate limit empty) := by
  unfold Slot.vacate
  split
  · exact ⟨Nat.le_refl _, fun _ => rfl⟩
  · exact ⟨Nat.le_succ _, fun isRetired => isRetired⟩

/-- The key has been taken out and is rejected for good. -/
def Spent (slots : List (Slot α)) (key : Key) : Prop :=
  ∃ slot, slots[key.index]? = some slot ∧ (key.generation < slot.generation ∨ slot.retired = true)

theorem Spent.lookup_eq_none (spent : Spent slots key) : lookup slots key = none := by
  obtain ⟨_, present, old | isRetired⟩ := spent
  · exact lookup_of_generation_ne present (Nat.ne_of_gt old)
  · simp [lookup, present, Slot.accepts, isRetired]

theorem Spent.modify (spent : Spent slots key) (later : ∀ slot, Slot.Later slot (change slot)) :
    Spent (slots.modify index change) key := by
  obtain ⟨slot, present, old⟩ := spent
  by_cases here : index = key.index
  · refine ⟨change slot, by simp [here, present], ?_⟩
    rcases old with old | isRetired
    · exact Or.inl (Nat.lt_of_lt_of_le old (later slot).1)
    · exact Or.inr ((later slot).2 isRetired)
  · exact ⟨slot, by simp [here, present], old⟩

theorem Spent.insert (spent : Spent slots key) : Spent (insert slots other entry) key :=
  spent.modify (fun _ => Slot.later_fill)

theorem Spent.remove (spent : Spent slots key) : Spent (remove limit empty slots other) key :=
  spent.modify (fun _ => Slot.later_vacate)

theorem Spent.update {change : α → α}
    (spent : Spent slots key) : Spent (update slots other change) key :=
  spent.modify (fun _ => Slot.later_edit)

theorem spent_remove {entry : α} (found : lookup slots key = some entry) :
    Spent (remove limit empty slots key) key := by
  obtain ⟨slot, present, _, _, generation, _⟩ := lookup_eq_some.mp found
  refine ⟨slot.vacate limit empty, by
    simp [SlotTable.remove, present], ?_⟩
  unfold Slot.vacate
  split
  · exact Or.inr rfl
  · exact Or.inl (Nat.lt_succ_of_le (Nat.le_of_eq generation.symm))

theorem Spent.freeKey_ne (spent : Spent slots key) : freeKey slots ≠ some key := by
  intro free
  obtain ⟨_, present, _, alive, generation⟩ := freeKey_eq_some free
  obtain ⟨_, isSlot, old⟩ := spent
  rw [present] at isSlot
  cases isSlot
  simp [alive, generation] at old

/-! ## Well-formed tables -/

structure Slot.WellFormed (limit : Nat) (slot : Slot α) : Prop where
  positive : 1 ≤ slot.generation
  bounded : slot.generation ≤ limit
  vacant : slot.retired = true → slot.occupied = false

/-- A table of a given number of slots in which every generation can be
issued. -/
structure WellFormed (limit capacity : Nat) (slots : List (Slot α)) : Prop where
  length : slots.length = capacity
  slots : ∀ slot ∈ slots, slot.WellFormed limit

variable {limit capacity : Nat}

theorem wellFormed_replicate (positive : 1 ≤ limit) :
    WellFormed limit capacity (List.replicate capacity (Slot.fresh entry)) := by
  refine ⟨List.length_replicate, ?_⟩
  intro slot member
  rw [List.eq_of_mem_replicate member]
  exact ⟨Nat.le_refl _, positive, by simp [Slot.fresh]⟩

theorem WellFormed.modify (wellFormed : WellFormed limit capacity slots)
    (kept :
      ∀ slot, slots[index]? = some slot → slot.WellFormed limit → (change slot).WellFormed limit) :
    WellFormed limit capacity (slots.modify index change) := by
  refine ⟨by simpa using wellFormed.length, ?_⟩
  intro slot member
  obtain ⟨position, found⟩ := List.mem_iff_getElem?.mp member
  rw [List.getElem?_modify] at found
  obtain ⟨old, present, rfl⟩ := Option.map_eq_some_iff.mp found
  have before := wellFormed.slots old (List.mem_of_getElem? present)
  by_cases here : index = position
  · rw [← here] at present
    simpa [here] using kept old present before
  · simpa [here] using before

section WellFormed

variable (wellFormed : WellFormed limit capacity slots)

include wellFormed

theorem WellFormed.insert (free : freeKey slots = some key) :
    WellFormed limit capacity (insert slots key entry) := by
  obtain ⟨slot, present, _, alive, _⟩ := freeKey_eq_some free
  apply wellFormed.modify
  intro old found before
  rw [present] at found
  cases found
  refine ⟨before.positive, before.bounded, ?_⟩
  intro isRetired
  rw [show (slot.fill entry).retired = slot.retired from rfl, alive] at isRetired
  cases isRetired

theorem WellFormed.remove : WellFormed limit capacity (remove limit empty slots key) := by
  apply wellFormed.modify
  intro slot _ before
  unfold Slot.vacate
  split
  · exact ⟨before.positive, before.bounded, fun _ => rfl⟩
  · next different =>
    exact ⟨Nat.le_succ_of_le before.positive,
      Nat.lt_of_le_of_ne before.bounded different, fun _ => rfl⟩

theorem WellFormed.update {change : α → α} :
    WellFormed limit capacity (update slots key change) := by
  apply wellFormed.modify
  intro slot _ before
  exact ⟨before.positive, before.bounded, before.vacant⟩

theorem WellFormed.key_bounds
    (present : slots[key.index]? = some slot) (generation : slot.generation = key.generation) :
    key.index < capacity ∧ 1 ≤ key.generation ∧ key.generation ≤ limit := by
  have inside : key.index < slots.length := (List.getElem?_eq_some_iff.mp present).1
  have before := wellFormed.slots slot (List.mem_of_getElem? present)
  rw [wellFormed.length] at inside
  rw [← generation]
  exact ⟨inside, before.positive, before.bounded⟩

/-- A test of the occupied slots is a test of the entries. -/
theorem any_occupied_iff {test : α → Bool} :
    slots.any (fun slot => slot.occupied && test slot.entry) = true ↔
      ∃ key entry, lookup slots key = some entry ∧ test entry = true := by
  rw [List.any_eq_true]
  constructor
  · rintro ⟨slot, member, holds⟩
    rw [Bool.and_eq_true] at holds
    obtain ⟨index, present⟩ := List.mem_iff_getElem?.mp member
    refine ⟨⟨index, slot.generation⟩, slot.entry, ?_, holds.2⟩
    refine lookup_eq_some.mpr ⟨slot, present, holds.1, ?_, rfl, rfl⟩
    by_contra isRetired
    have vacant := (wellFormed.slots slot member).vacant (by simpa using isRetired)
    rw [holds.1] at vacant
    cases vacant
  · rintro ⟨key, entry, found, holds⟩
    obtain ⟨slot, present, occupied, _, _, rfl⟩ := lookup_eq_some.mp found
    exact ⟨slot, List.mem_of_getElem? present, by simp [occupied, holds]⟩

end WellFormed

/-- The keys of the entries, by their position. -/
def keys (slots : List (Slot α)) : List Key :=
  slots.zipIdx.filterMap fun (slot, index) =>
    if slot.accepts slot.generation then some ⟨index, slot.generation⟩
    else none

theorem mem_keys : key ∈ keys slots ↔ ∃ entry, lookup slots key = some entry := by
  unfold keys
  rw [List.mem_filterMap]
  constructor
  · rintro ⟨⟨slot, index⟩, member, found⟩
    simp only at found
    split at found
    · next accepted =>
      cases found
      have present := List.mem_zipIdx_iff_getElem?.mp member
      exact ⟨slot.entry, by simp [lookup, present, accepted]⟩
    · cases found
  · rintro ⟨entry, found⟩
    obtain ⟨slot, present, occupied, alive, generation, _⟩ := lookup_eq_some.mp found
    refine ⟨(slot, key.index), List.mem_zipIdx_iff_getElem?.mpr present, ?_⟩
    simp [Slot.accepts, occupied, alive, generation]

/-- The slots with an entry that can be looked up. -/
def liveCount (slots : List (Slot α)) : Nat :=
  slots.countP fun slot => slot.accepts slot.generation

theorem liveCount_modify
    {change : Slot α → Slot α} {index : Nat} (present : slots[index]? = some slot) :
    liveCount (slots.modify index change) =
      liveCount slots - (if slot.accepts slot.generation then 1 else 0) +
        if (change slot).accepts (change slot).generation then 1 else 0 := by
  obtain ⟨inside, rfl⟩ := List.getElem?_eq_some_iff.mp present
  rw [List.modify_eq_set_getElem?, present]
  exact List.countP_set inside

theorem liveCount_insert (free : freeKey slots = some key) :
    liveCount (insert slots key entry) = liveCount slots + 1 := by
  obtain ⟨_, present, isFree, alive, _⟩ := freeKey_eq_some free
  rw [insert, liveCount_modify present]
  simp [Slot.fill, Slot.accepts, isFree, alive]

theorem accepted_of_lookup (found : lookup slots key = some entry) :
    ∃ slot, slots[key.index]? = some slot ∧ slot.accepts slot.generation := by
  obtain ⟨slot, present, occupied, alive, _⟩ := lookup_eq_some.mp found
  exact ⟨slot, present, by simp [Slot.accepts, occupied, alive]⟩

theorem liveCount_remove (found : lookup slots key = some entry) :
    liveCount (remove limit empty slots key) = liveCount slots - 1 := by
  obtain ⟨_, present, accepted⟩ := accepted_of_lookup found
  rw [remove, liveCount_modify present, if_pos accepted]
  simp [Slot.accepts, Slot.occupied_vacate]

theorem liveCount_update {change : α → α} (found : lookup slots key = some entry) :
    liveCount (update slots key change) = liveCount slots := by
  obtain ⟨slot, present, accepted⟩ := accepted_of_lookup found
  have positive : 0 < liveCount slots :=
    List.countP_pos_iff.mpr ⟨slot, List.mem_of_getElem? present, accepted⟩
  have kept : (slot.edit change).accepts (slot.edit change).generation := accepted
  rw [update, liveCount_modify present, if_pos accepted, if_pos kept]
  exact Nat.sub_add_cancel positive

/-! ## Identifiers -/

/-- The generation above the position, which is counted from one. -/
def encode (bits : Nat) (key : Key) : Nat :=
  (key.generation <<< bits) ||| (key.index + 1)

def decode (bits raw : Nat) : Option Key :=
  let slot := raw &&& (1 <<< bits - 1)
  let generation := raw >>> bits
  if slot = 0 ∨ generation = 0 then none
  else some ⟨slot - 1, generation⟩

theorem decode_eq_some {raw : Nat} :
    decode bits raw = some key ↔
      raw % 2 ^ bits = key.index + 1 ∧ raw / 2 ^ bits = key.generation ∧ key.generation ≠ 0 := by
  unfold decode
  simp only [Nat.one_shiftLeft, Nat.and_two_pow_sub_one_eq_mod, Nat.shiftRight_eq_div_pow]
  constructor
  · intro decoded
    split at decoded
    · cases decoded
    · next nonzero =>
      rw [not_or] at nonzero
      cases decoded
      exact ⟨(Nat.succ_pred_eq_of_ne_zero nonzero.1).symm, rfl, nonzero.2⟩
  · rintro ⟨position, generation, nonzero⟩
    rw [position, generation, if_neg (by simp [nonzero])]
    rfl

theorem encode_eq (fits : key.index + 1 < 2 ^ bits) :
    encode bits key = key.generation * 2 ^ bits + (key.index + 1) := by
  rw [encode, Nat.shiftLeft_eq, Nat.mul_comm, Nat.two_pow_add_eq_or_of_lt fits]

theorem decode_encode (fits : key.index + 1 < 2 ^ bits) (positive : 1 ≤ key.generation) :
    decode bits (encode bits key) = some key := by
  rw [decode_eq_some, encode_eq fits]
  refine ⟨?_, ?_, Nat.ne_of_gt positive⟩
  · rw [Nat.add_comm, Nat.add_mul_mod_self_right, Nat.mod_eq_of_lt fits]
  · rw [Nat.add_comm, Nat.add_mul_div_right _ _ (Nat.two_pow_pos bits),
      Nat.div_eq_of_lt fits, Nat.zero_add]

theorem WellFormed.decode_encode (wellFormed : WellFormed limit capacity slots)
    (fits : capacity < 2 ^ bits) (present : slots[key.index]? = some slot)
    (generation : slot.generation = key.generation) :
    decode bits (encode bits key) = some key ∧ key.generation ≤ limit := by
  obtain ⟨inside, positive, limited⟩ := wellFormed.key_bounds present generation
  exact ⟨SlotTable.decode_encode (Nat.lt_of_le_of_lt inside fits) positive, limited⟩

theorem decode_injective {left right : Nat} (leftKey : decode bits left = some key)
    (rightKey : decode bits right = some key) : left = right := by
  rw [decode_eq_some] at leftKey rightKey
  rw [← Nat.div_add_mod left (2 ^ bits), ← Nat.div_add_mod right (2 ^ bits),
    leftKey.1, leftKey.2.1, rightKey.1, rightKey.2.1]

/-- A decoder of the identifiers that are issued. -/
def decodeIssued (bits limit raw : Nat) : Option Key :=
  (decode bits raw).filter (fun key => decide (key.generation ≤ limit))

theorem decodeIssued_injective
    {left right : Nat} (leftKey : decodeIssued bits limit left = some key)
    (rightKey : decodeIssued bits limit right = some key) : left = right :=
  decode_injective (Option.filter_eq_some_iff.mp leftKey).1
    (Option.filter_eq_some_iff.mp rightKey).1

theorem WellFormed.decodeIssued_encode (wellFormed : WellFormed limit capacity slots)
    (fits : capacity < 2 ^ bits) (present : slots[key.index]? = some slot)
    (generation : slot.generation = key.generation) :
    decodeIssued bits limit (encode bits key) = some key :=
  Option.filter_eq_some_iff.mpr (by simpa using wellFormed.decode_encode fits present generation)

/-- With identifiers that determine their keys, an update of the entries by
keys is one of the entries by identifiers. -/
theorem find_of_lookup
    {named : Nat → Option Key} {before after : List (Slot α)} {id : Nat} {value : Option α}
    (injective : ∀ {left right key}, named left = some key → named right = some key → left = right)
    (isNamed : named id = some key)
    (edited : ∀ other, lookup after other = if other = key then value else lookup before other) :
    (fun other => (named other).bind (lookup after)) =
      Function.update (fun other => (named other).bind (lookup before)) id value := by
  funext other
  rw [Function.update_apply]
  split
  · next same => simp [same, isNamed, edited]
  · next different =>
    cases otherNamed : named other with
    | none => rfl
    | some otherKey =>
      have notKey : otherKey ≠ key := by
        rintro rfl
        exact different (injective otherNamed isNamed)
      simp [edited, notKey]

end Xenith.SlotTable
