import Mathlib

/-!
# Ring buffers

A ring of `depth` cells holds a window of consecutive cells, taken modulo
`depth`, whose items form a list.
-/

namespace Xenith.Ring

universe u

variable {depth : Nat} [NeZero depth]

/-- The cell that lies `offset` places behind `head`. -/
def cell (head : Fin depth) (offset : Nat) : Fin depth :=
  Fin.ofNat depth (head.val + offset)

@[simp]
theorem cell_zero (head : Fin depth) : cell head 0 = head := by
  simp [cell]

theorem cell_cell (head : Fin depth) (first second : Nat) :
    cell (cell head first) second = cell head (first + second) := by
  apply Fin.ext
  simp [cell, Nat.add_assoc]

variable {head : Fin depth} {len : Nat}

theorem cell_injective
    {first second : Nat} (firstBelow : first < depth) (secondBelow : second < depth)
    (same : cell head first = cell head second) :
    first = second := by
  have values : (head.val + first) % depth = (head.val + second) % depth := congrArg Fin.val same
  have congruent : first ≡ second [MOD depth] := Nat.ModEq.add_left_cancel' head.val values
  exact Nat.ModEq.eq_of_lt_of_lt congruent firstBelow secondBelow

/-- The cells of the window of `len` cells from `head` on. -/
def InWindow (head : Fin depth) (len : Nat) (index : Fin depth) : Prop :=
  ∃ offset, offset < len ∧ cell head offset = index

@[simp]
theorem not_inWindow_zero (head index : Fin depth) : ¬ InWindow head 0 index := by
  rintro ⟨offset, below, _⟩
  exact absurd below (Nat.not_lt_zero offset)

theorem not_inWindow_end (room : len < depth) : ¬ InWindow head len (cell head len) := by
  rintro ⟨_, below, same⟩
  have equal := cell_injective (Nat.lt_trans below room) room same
  exact absurd equal (Nat.ne_of_lt below)

theorem inWindow_succ_iff {index : Fin depth} :
    InWindow head (len + 1) index ↔ InWindow head len index ∨ index = cell head len := by
  constructor
  · rintro ⟨offset, below, same⟩
    rcases Nat.lt_succ_iff_lt_or_eq.mp below with inside | atEnd
    · exact Or.inl ⟨offset, inside, same⟩
    · exact Or.inr (by rw [← same, atEnd])
  · rintro (⟨offset, below, same⟩ | atEnd)
    · exact ⟨offset, Nat.lt_succ_of_lt below, same⟩
    · exact ⟨len, Nat.lt_succ_self len, atEnd.symm⟩

/-- The window that starts one cell later lacks the first cell only. -/
theorem inWindow_tail_iff {index : Fin depth} (bounded : len + 1 ≤ depth) :
    InWindow (cell head 1) len index ↔ InWindow head (len + 1) index ∧ index ≠ head := by
  constructor
  · rintro ⟨offset, below, same⟩
    rw [cell_cell] at same
    refine ⟨⟨1 + offset, by omega, same⟩, ?_⟩
    intro isHead
    have atHead : cell head (1 + offset) = cell head 0 := by
      rw [cell_zero, same, isHead]
    have none := cell_injective (by omega) (by omega) atHead
    omega
  · rintro ⟨⟨offset, below, same⟩, notHead⟩
    cases offset with
    | zero => exact absurd (by rw [← same, cell_zero]) notHead
    | succ offset =>
      refine ⟨offset, by omega, ?_⟩
      rw [cell_cell, Nat.add_comm, same]

variable {Item : Type u}

/-- The items of the window, first item first. -/
def window (cells : Fin depth → Item) (head : Fin depth) (len : Nat) : List Item :=
  (List.range len).map fun offset => cells (cell head offset)

@[simp]
theorem window_zero (cells : Fin depth → Item) (head : Fin depth) : window cells head 0 = [] :=
  rfl

@[simp]
theorem length_window (cells : Fin depth → Item) (head : Fin depth) (len : Nat) :
    (window cells head len).length = len := by
  simp [window]

variable {cells other : Fin depth → Item}

theorem window_congr (same : ∀ index, InWindow head len index → cells index = other index) :
    window cells head len = window other head len := by
  apply List.map_congr_left
  intro offset member
  exact same _ ⟨offset, List.mem_range.mp member, rfl⟩

theorem window_succ (cells : Fin depth → Item) (head : Fin depth) (len : Nat) :
    window cells head (len + 1) = window cells head len ++ [cells (cell head len)] := by
  simp [window, List.range_succ]

theorem window_eq_cons (cells : Fin depth → Item) (head : Fin depth) (len : Nat) :
    window cells head (len + 1) = cells head :: window cells (cell head 1) len := by
  unfold window
  rw [List.range_succ_eq_map, List.map_cons, List.map_map, cell_zero]
  congr 1
  apply List.map_congr_left
  intro offset _
  simp only [Function.comp_apply, cell_cell]
  rw [Nat.add_comm]

/-- Writing the cell behind the window and lengthening the window by one. -/
theorem window_push {item : Item} (room : len < depth) (written : other (cell head len) = item)
    (kept : ∀ index, index ≠ cell head len → other index = cells index) :
    window other head (len + 1) = window cells head len ++ [item] := by
  rw [window_succ, written]
  congr 1
  apply window_congr
  intro index inside
  apply kept
  intro atEnd
  rw [atEnd] at inside
  exact not_inWindow_end room inside

/-- Moving the head over the first item. -/
theorem window_pop
    (bounded : len + 1 ≤ depth) (kept : ∀ index, index ≠ head → other index = cells index) :
    window cells head (len + 1) = cells head :: window other (cell head 1) len := by
  rw [window_eq_cons]
  congr 1
  apply window_congr
  intro index inside
  have outside := ((inWindow_tail_iff bounded).mp inside).2
  exact (kept index outside).symm

/-! ## Two pointers

The reader's pointer names the cell that was read last, the writer's the one
that was written last.  One cell stays free, since equal pointers mean an empty
ring. -/

structure Queued (cells : Fin depth → Item) (read written : Fin depth) (items : List Item) :
    Prop where
  bounded : items.length < depth
  written : written = cell read items.length
  items : items = window cells (cell read 1) items.length

section Queued

variable {read written : Fin depth} {items : List Item}

theorem queued_nil (cells : Fin depth → Item) (pointer : Fin depth) :
    Queued cells pointer pointer [] :=
  ⟨Nat.pos_of_neZero depth, (cell_zero pointer).symm, rfl⟩

variable (queued : Queued cells read written items)

include queued

theorem Queued.push (room : cell written 1 ≠ read) (item : Item) :
    Queued (Function.update cells (cell written 1) item) read (cell written 1)
      (items ++ [item]) := by
  have next : cell written 1 = cell read (items.length + 1) := by
    rw [queued.written, cell_cell]
  have longer : items.length + 1 < depth := by
    refine Nat.lt_of_le_of_ne queued.bounded fun full => room ?_
    rw [next, full]
    apply Fin.ext
    simp [cell, Nat.mod_eq_of_lt read.isLt]
  have last : cell written 1 = cell (cell read 1) items.length := by
    rw [next, cell_cell, Nat.add_comm]
  refine ⟨by simpa using longer, by simpa using next, ?_⟩
  rw [List.length_append, List.length_singleton, last,
    window_push queued.bounded (Function.update_self ..)
      (fun _ other => Function.update_of_ne other ..), ← queued.items]

theorem Queued.pop (unread : written ≠ read) :
    ∃ rest, items = cells (cell read 1) :: rest ∧ Queued cells (cell read 1) written rest := by
  cases items with
  | nil => exact absurd (queued.written.trans (cell_zero read)) unread
  | cons _ rest =>
    have all := queued.items
    rw [List.length_cons, window_eq_cons, List.cons.injEq] at all
    refine ⟨rest, by rw [all.1], Nat.lt_of_succ_lt queued.bounded, ?_, all.2⟩
    rw [queued.written, cell_cell, List.length_cons, Nat.add_comm]

end Queued

end Xenith.Ring
