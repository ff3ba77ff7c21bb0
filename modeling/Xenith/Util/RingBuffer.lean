import Xenith.Lib.Ring

/-!
# Ring buffers

`RingBuffer` with the cells it is stored in.  Its users see a bounded queue.
-/

namespace Xenith.Util

/-- The live cells are those from `tail` on, and `head` is the one behind
them. -/
structure RingBuffer (T : Type) (N : Nat) [NeZero N] where
  buf : Fin N → T
  head : Fin N
  tail : Fin N
  len : Nat
  fits : len ≤ N
  isHead : head = Ring.cell tail len
deriving DecidableEq

namespace RingBuffer

variable {T : Type} {N : Nat} [NeZero N]

/-- The cells are not initialised and hold anything. -/
def new (buf : Fin N → T) : RingBuffer T N where
  buf := buf
  head := 0
  tail := 0
  len := 0
  fits := Nat.zero_le N
  isHead := (Ring.cell_zero 0).symm

/-- A full buffer gives the item back. -/
def push (ring : RingBuffer T N) (item : T) : Except T Unit × RingBuffer T N :=
  if full : ring.len = N then (.error item, ring)
  else
    (.ok (),
      { ring with
        buf := Function.update ring.buf ring.head item
        head := Ring.cell ring.head 1
        len := ring.len + 1
        fits := Nat.lt_of_le_of_ne ring.fits full
        isHead := by rw [ring.isHead, Ring.cell_cell] })

def pop (ring : RingBuffer T N) : Option (T × RingBuffer T N) :=
  if empty : ring.len = 0 then none
  else
    some
      (ring.buf ring.tail,
        { ring with
          tail := Ring.cell ring.tail 1
          len := ring.len - 1
          fits := (Nat.sub_le ..).trans ring.fits
          isHead := by
            rw [ring.isHead, Ring.cell_cell,
              Nat.add_sub_of_le (Nat.one_le_iff_ne_zero.mpr empty)] })

def isFull (ring : RingBuffer T N) : Bool :=
  decide (ring.len = N)

/-- The loop that pushes the items of a slice. -/
def pushAll (ring : RingBuffer T N) (items : List T) : RingBuffer T N :=
  items.foldl (fun ring item => (ring.push item).2) ring

/-- The loop that pops until enough items are there or none is left. -/
def popUpTo : Nat → RingBuffer T N → List T × RingBuffer T N
  | 0, ring => ([], ring)
  | count + 1, ring =>
    match ring.pop with
    | none => ([], ring)
    | some (item, next) =>
      let (items, rest) := popUpTo count next
      (item :: items, rest)

/-- Pop until nothing is left. -/
def clear (ring : RingBuffer T N) : RingBuffer T N :=
  (ring.popUpTo ring.len).2

/-- Pop a number of items, each of which has to be there. -/
def popMany : Nat → RingBuffer T N → Option (List T × RingBuffer T N)
  | 0, ring => some ([], ring)
  | count + 1, ring =>
    match ring.pop with
    | none => none
    | some (item, next) =>
      match popMany count next with
      | none => none
      | some (items, rest) => some (item :: items, rest)

/-- The items of the queue, oldest first. -/
def contents (ring : RingBuffer T N) : List T :=
  Ring.window ring.buf ring.tail ring.len

variable {ring next : RingBuffer T N} {item : T} {items : List T}

@[simp]
theorem length_contents : ring.contents.length = ring.len :=
  Ring.length_window ..

theorem contents_push (room : ring.len < N) :
    (ring.push item).2.contents = ring.contents ++ [item] := by
  unfold push
  rw [dif_neg (Nat.ne_of_lt room)]
  apply Ring.window_push room
  · rw [← ring.isHead]
    exact Function.update_self ..
  · intro index different
    rw [← ring.isHead] at different
    exact Function.update_of_ne different ..

theorem contents_pop (popped : ring.pop = some (item, next)) :
    ring.contents = item :: next.contents := by
  unfold pop at popped
  split at popped
  · cases popped
  · next nonempty =>
    cases popped
    obtain ⟨_, isLen⟩ := Nat.exists_eq_succ_of_ne_zero nonempty
    simp only [contents, isLen, Nat.add_sub_cancel, Nat.succ_eq_add_one, Ring.window_eq_cons]

theorem contents_of_pop_eq_none (empty : ring.pop = none) : ring.contents = [] := by
  unfold pop at empty
  split at empty
  · next isEmpty => rw [contents, isEmpty, Ring.window_zero]
  · cases empty

theorem contents_pushAll (room : ring.len + items.length ≤ N) :
    (ring.pushAll items).contents = ring.contents ++ items := by
  induction items generalizing ring with
  | nil => exact (List.append_nil _).symm
  | cons item rest ih =>
    rw [List.length_cons] at room
    have pushed : (ring.push item).2.contents = ring.contents ++ [item] := contents_push (by omega)
    have longer : (ring.push item).2.len = ring.len + 1 := by
      rw [← length_contents, pushed, List.length_append, length_contents, List.length_singleton]
    change ((ring.push item).2.pushAll rest).contents = _
    rw [ih (by omega), pushed, List.append_assoc, List.singleton_append]

theorem push_cases (ring : RingBuffer T N) (item : T) :
    (ring.push item).1 = .ok () ∧ (ring.push item).2.contents = ring.contents ++ [item] ∨
      ring.push item = (.error item, ring) ∧ ring.len = N := by
  by_cases full : ring.len = N
  · exact Or.inr ⟨by simp [push, full], full⟩
  · exact Or.inl
      ⟨by simp [push, full], contents_push (Nat.lt_of_le_of_ne ring.fits full)⟩

theorem popMany_of_le {count : Nat} (enough : count ≤ ring.len) :
    ∃ rest, ring.popMany count = some (ring.contents.take count, rest) ∧
      rest.contents = ring.contents.drop count := by
  induction count generalizing ring with
  | zero => exact ⟨ring, rfl, rfl⟩
  | succ count ih =>
    rw [← length_contents] at enough
    cases popped : ring.pop with
    | none =>
      rw [contents_of_pop_eq_none popped] at enough
      exact absurd enough (Nat.not_succ_le_zero count)
    | some =>
      have isContents := contents_pop popped
      rw [isContents, List.length_cons, length_contents] at enough
      obtain ⟨rest, isRest, contents⟩ := ih (Nat.le_of_succ_le_succ enough)
      refine ⟨rest, ?_, by rw [contents, isContents]; rfl⟩
      rw [popMany, popped]
      simp only [isRest]
      rw [isContents, List.take_succ_cons]

/-- What was popped is the front of the queue. -/
theorem contents_popUpTo (count : Nat) (ring : RingBuffer T N) :
    (popUpTo count ring).1 = ring.contents.take count ∧
      (popUpTo count ring).2.contents = ring.contents.drop count := by
  fun_induction popUpTo count ring with
  | case1 => exact ⟨rfl, rfl⟩
  | case2 _ _ empty => simp [contents_of_pop_eq_none empty]
  | case3 _ ring _ _ popped =>
    rw [contents_pop popped]
    simp_all

theorem contents_clear : ring.clear.contents = [] := by
  rw [clear, (contents_popUpTo _ ring).2, ← length_contents, List.drop_length]

/-- A full buffer takes an item after its oldest one was popped. -/
theorem contents_push_of_full (full : ring.len = N) :
    ((popUpTo 1 ring).2.push item).2.contents = ring.contents.tail ++ [item] := by
  have popped := (contents_popUpTo 1 ring).2
  have shorter := congrArg List.length popped
  rw [length_contents, List.length_drop, length_contents, full] at shorter
  rw [contents_push, popped, List.drop_one]
  have positive := NeZero.pos N
  omega

end RingBuffer

end Xenith.Util
