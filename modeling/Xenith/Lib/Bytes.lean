import Mathlib

/-!
# Records of bytes

A record of fixed size is a function from offsets to bytes.  Its fields are
windows of the record.  Numbers are stored with the low byte first.
-/

namespace Xenith.Bytes

/-- A record, by offset. -/
abbrev Record := Nat → UInt8

/-- The bytes of a record from `offset` on. -/
def window (record : Record) (offset len : Nat) : List UInt8 :=
  (List.range len).map fun index => record (offset + index)

/-- Overwrite the bytes of a record from `offset` on. -/
def splice (record : Record) (offset : Nat) (data : List UInt8) : Record :=
  fun index =>
    if offset ≤ index ∧ index < offset + data.length then data.getD (index - offset) 0
    else record index

/-- The bytes of a record from `offset` on, as a record of size `len`. -/
def slice (record : Record) (offset len : Nat) : Record :=
  fun index => if index < len then record (offset + index) else 0

/-- Overwrite consecutive items of `stride` bytes, from `offset` on. -/
def spliceItems (record : Record) (stride : Nat) : Nat → List (List UInt8) → Record
  | _, [] => record
  | offset, item :: rest => spliceItems (splice record offset item) stride (offset + stride) rest

def encodeLE : Nat → Nat → List UInt8
  | 0, _ => []
  | width + 1, value => UInt8.ofNat value :: encodeLE width (value / 256)

def decodeLE : List UInt8 → Nat
  | [] => 0
  | byte :: rest => byte.toNat + 256 * decodeLE rest

@[simp]
theorem length_encodeLE (width value : Nat) : (encodeLE width value).length = width := by
  induction width generalizing value with
  | zero => rfl
  | succ width ih => rw [encodeLE, List.length_cons, ih]

theorem decodeLE_lt (bytes : List UInt8) : decodeLE bytes < 256 ^ bytes.length := by
  induction bytes with
  | nil => decide
  | cons byte =>
    have small : byte.toNat < 256 := byte.toNat_lt
    rw [decodeLE, List.length_cons]
    omega

variable {value offset len index other stride : Nat} {record : Record} {data : List UInt8}

theorem decodeLE_encodeLE {width : Nat} (fits : value < 256 ^ width) :
    decodeLE (encodeLE width value) = value := by
  induction width generalizing value with
  | zero =>
    simp only [Nat.pow_zero, Nat.lt_one_iff] at fits
    rw [fits]
    rfl
  | succ width ih =>
    have smaller : value / 256 < 256 ^ width := by
      omega
    rw [encodeLE, decodeLE, ih smaller]
    have low : (UInt8.ofNat value).toNat = value % 256 := by simp
    omega

theorem decodeLE_word (fits : value < 2 ^ 64) : decodeLE (encodeLE 8 value) = value :=
  decodeLE_encodeLE (fits.trans_le (by decide))

theorem decodeLE_half (fits : value < 2 ^ 32) : decodeLE (encodeLE 4 value) = value :=
  decodeLE_encodeLE (fits.trans_le (by decide))

@[simp]
theorem length_window (record : Record) (offset len : Nat) :
    (window record offset len).length = len := by
  simp [window]

theorem getD_window (inside : index < len) :
    (window record offset len).getD index 0 = record (offset + index) := by
  simp [window, inside]

theorem window_congr {first second : Record}
    (same : ∀ index, offset ≤ index → index < offset + len → first index = second index) :
    window first offset len = window second offset len := by
  apply List.map_congr_left
  intro index member
  have inside := List.mem_range.mp member
  exact same (offset + index) (by omega) (by omega)

theorem splice_inside (lower : offset ≤ index) (upper : index < offset + data.length) :
    splice record offset data index = data.getD (index - offset) 0 :=
  if_pos ⟨lower, upper⟩

theorem window_splice_self
    (record : Record) (offset : Nat) (data : List UInt8) (whole : data.length = len) :
    window (splice record offset data) offset len = data := by
  apply List.ext_getElem
  · rw [length_window, whole]
  · intro index inWindow inData
    simp only [window, List.getElem_map, List.getElem_range]
    rw [splice_inside (by omega) (by omega), Nat.add_sub_cancel_left,
      List.getD_eq_getElem _ _ inData]

theorem window_splice_of_apart
    (record : Record) (apart : offset + data.length ≤ other ∨ other + len ≤ offset) :
    window (splice record offset data) other len = window record other len := by
  apply window_congr
  intro index lower upper
  exact if_neg (by omega)

/-- Writing back what a window held restores the record. -/
theorem splice_splice_window {old : List UInt8} (held : window record offset data.length = old) :
    splice (splice record offset data) offset old = record := by
  subst held
  funext index
  by_cases inside : offset ≤ index ∧ index < offset + data.length
  · rw [splice_inside inside.1 (by simpa using inside.2), getD_window (by omega)]
    congr 1
    omega
  · rw [splice, if_neg (by simpa using inside), splice, if_neg inside]

theorem window_not_zero (positive : 0 < len) (first : record 0 ≠ 0) :
    (window record 0 len).all (fun byte => byte = 0) = false := by
  rw [List.all_eq_false]
  exact ⟨record 0, List.mem_map.mpr ⟨0, List.mem_range.mpr positive, rfl⟩, by simpa using first⟩

theorem window_part (record : Record) {start total : Nat} (inside : start + len ≤ total) :
    window record (offset + start) len = ((window record offset total).drop start).take len := by
  apply List.ext_getElem
  · simp
    omega
  · intro position _ _
    simp [window, Nat.add_assoc]

theorem window_slice (record : Record) {width : Nat} (inside : other + width ≤ len) :
    window (slice record offset len) other width = window record (offset + other) width := by
  apply List.map_congr_left
  intro index member
  have bounded := List.mem_range.mp member
  unfold slice
  rw [if_pos (by omega), Nat.add_assoc]

theorem slice_of_lt (inside : index < len) :
    slice record offset len index = record (offset + index) :=
  if_pos inside

theorem window_spliceItems_below
    (items : List (List UInt8)) (record : Record) (below : other + len ≤ offset) :
    window (spliceItems record stride offset items) other len = window record other len := by
  induction items generalizing record offset with
  | nil => rfl
  | cons _ _ ih => rw [spliceItems, ih _ (by omega), window_splice_of_apart _ (Or.inr below)]

variable {items : List (List UInt8)}

theorem window_spliceItems_above (record : Record) (sized : ∀ item ∈ items, item.length = stride)
    (above : offset + items.length * stride ≤ other) :
    window (spliceItems record stride offset items) other len = window record other len := by
  induction items generalizing record offset with
  | nil => rfl
  | cons item _ ih =>
    have itemSize := sized item (List.mem_cons_self ..)
    rw [List.length_cons, Nat.succ_mul] at above
    rw [spliceItems, ih, window_splice_of_apart]
    · omega
    · intro other member
      exact sized other (List.mem_cons_of_mem _ member)
    · omega

theorem window_spliceItems_at (record : Record)
    (sized : ∀ item ∈ items, item.length = stride) {position : Nat}
    (inside : position < items.length) :
    window (spliceItems record stride offset items)
        (offset + position * stride) stride = items[position] := by
  induction items generalizing record offset position with
  | nil => cases inside
  | cons item _ ih =>
    have itemSize := sized item (List.mem_cons_self ..)
    cases position with
    | zero =>
      rw [spliceItems, window_spliceItems_below _ _ (by omega),
        Nat.zero_mul, Nat.add_zero, window_splice_self _ _ _ itemSize]
      rfl
    | succ position =>
      have shifted : offset + (position + 1) * stride = offset + stride + position * stride := by
        rw [Nat.succ_mul]
        omega
      rw [shifted]
      apply ih
      intro other member
      exact sized other (List.mem_cons_of_mem _ member)

end Xenith.Bytes
