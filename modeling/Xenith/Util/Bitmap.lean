import Mathlib

/-!
# Bitmaps over words

The bitmap of `kernel/src/util/bitmap.rs`.  A set bit is in use.  An index at or
beyond the length panics in the source; the callers below stay inside of it.
-/

namespace Xenith.Util

open Finset

abbrev Word := BitVec 64

def bitsPerWord : Nat := 64

structure Bitmap where
  words : Nat → Word
  len : Nat

/-- The number of set bits below the first clear bit of a word. -/
def trailingOnes (word : Word) : Nat :=
  ((List.range 64).find? fun bit => !word.getLsbD bit).getD 64

def countOnesWord (word : Word) : Nat :=
  Nat.count (fun bit => word.getLsbD bit = true) 64

/-- The word of the `count` lowest bits. -/
def lowMask (count : Nat) : Word :=
  (1#64 <<< count) - 1#64

namespace Bitmap

def withLen (words : Nat → Word) (wordCount len : Nat) : Bitmap where
  words := words
  len := if len < wordCount * bitsPerWord then len else wordCount * bitsPerWord

def get (bitmap : Bitmap) (index : Nat) : Bool :=
  (bitmap.words (index / bitsPerWord)).getLsbD (index % bitsPerWord)

def set (bitmap : Bitmap) (index : Nat) : Bitmap :=
  let word := index / bitsPerWord
  { bitmap with
    words :=
      Function.update bitmap.words word (bitmap.words word ||| (1#64 <<< (index % bitsPerWord))) }

def clear (bitmap : Bitmap) (index : Nat) : Bitmap :=
  let word := index / bitsPerWord
  { bitmap with
    words := Function.update bitmap.words word
      (bitmap.words word &&& ~~~(1#64 <<< (index % bitsPerWord))) }

def assign (bitmap : Bitmap) (index : Nat) (value : Bool) : Bitmap :=
  if value then bitmap.set index else bitmap.clear index

def setAll (bitmap : Bitmap) : Bitmap :=
  let fullWords := bitmap.len / bitsPerWord
  let rest := bitmap.len % bitsPerWord
  { bitmap with
    words := fun word =>
      if word < fullWords then BitVec.allOnes 64
      else if rest ≠ 0 ∧ word = fullWords then lowMask rest
      else bitmap.words word }

def countOnes (bitmap : Bitmap) : Nat :=
  let fullWords := bitmap.len / bitsPerWord
  let rest := bitmap.len % bitsPerWord
  let full := ((List.range fullWords).map fun word => countOnesWord (bitmap.words word)).sum
  if rest ≠ 0 then full + countOnesWord (bitmap.words fullWords &&& lowMask rest)
  else full

def countZeros (bitmap : Bitmap) : Nat :=
  bitmap.len - bitmap.countOnes

/-- A word with the bits outside of the index range set. -/
def maskedWord (bitmap : Bitmap) (first last word : Nat) : Word :=
  let wordStart := word * bitsPerWord
  let lower := min (first - wordStart) bitsPerWord
  let upper := min (last - wordStart) bitsPerWord
  let belowMask := if lower = 0 then 0 else lowMask lower
  let aboveMask := if upper = bitsPerWord then 0 else ~~~lowMask upper
  bitmap.words word ||| belowMask ||| aboveMask

/-- One word of the search for a clear bit of the index range. -/
def zeroInWord (bitmap : Bitmap) (first last word : Nat) : Option Nat :=
  let masked := bitmap.maskedWord first last word
  if masked ≠ BitVec.allOnes 64 then
    let index := word * bitsPerWord + trailingOnes masked
    if index < last then some index else none
  else none

/-- The words from `word` on, `count` of them. -/
def searchWords (bitmap : Bitmap) (first last : Nat) : Nat → Nat → Option Nat
  | 0, _ => none
  | count + 1, word =>
    match bitmap.zeroInWord first last word with
    | some index => some index
    | none => bitmap.searchWords first last count (word + 1)

def findZeroIn (bitmap : Bitmap) (start stop : Nat) : Option Nat :=
  if stop ≤ start ∨ bitmap.len ≤ start then none
  else
    let last := min stop bitmap.len
    let firstWord := start / bitsPerWord
    let lastWord := (last - 1) / bitsPerWord
    bitmap.searchWords start last (lastWord + 1 - firstWord) firstWord

/-- Assign `count` bits from `start` on. -/
def assignRange (bitmap : Bitmap) (value : Bool) (start : Nat) : Nat → Bitmap
  | 0 => bitmap
  | count + 1 => (bitmap.assignRange value start count).assign (start + count) value

/-- The scan of `allocate_range`: `start` is the first bit of the run of clear
bits that ends before `index`. -/
def scanRun (bitmap : Bitmap) (count : Nat) : Nat → Option Nat → Nat → Nat → Option Nat
  | 0, _, _, _ => none
  | remaining + 1, start, run, index =>
    if bitmap.get index = false then
      let first := start.getD index
      if run + 1 = count then some first
      else bitmap.scanRun count remaining (some first) (run + 1) (index + 1)
    else bitmap.scanRun count remaining none 0 (index + 1)

def allocateRange (bitmap : Bitmap) (count : Nat) : Option (Nat × Bitmap) :=
  if count = 0 then some (0, bitmap)
  else if bitmap.len < count then none
  else
    (bitmap.scanRun count bitmap.len none 0 0).map fun start =>
      (start, bitmap.assignRange true start count)

def freeRange (bitmap : Bitmap) (start count : Nat) : Bitmap :=
  bitmap.assignRange false start count

/-! ## Single bits -/

variable (bitmap : Bitmap)

@[simp]
theorem len_set (index : Nat) : (bitmap.set index).len = bitmap.len :=
  rfl

@[simp]
theorem len_assign (index : Nat) (value : Bool) : (bitmap.assign index value).len = bitmap.len := by
  unfold assign
  split <;> rfl

@[simp]
theorem len_assignRange (value : Bool) (start count : Nat) :
    (bitmap.assignRange value start count).len = bitmap.len := by
  induction count with
  | zero => rfl
  | succ count ih => rw [assignRange, len_assign, ih]

variable {first count bit last word index other start : Nat}

theorem getLsbD_mask (sameWord : other / bitsPerWord = index / bitsPerWord) :
    (1#64 <<< (index % bitsPerWord)).getLsbD (other % bitsPerWord) = decide (other = index) := by
  have offsets : other % bitsPerWord < 64 ∧
      (other % bitsPerWord = index % bitsPerWord ↔ other = index) := by
    unfold bitsPerWord at *
    omega
  rw [BitVec.getLsbD_shiftLeft, BitVec.getLsbD_one]
  grind

theorem get_set (index other : Nat) :
    (bitmap.set index).get other = (bitmap.get other || decide (other = index)) := by
  simp only [get, set]
  by_cases sameWord : other / bitsPerWord = index / bitsPerWord
  · rw [sameWord, Function.update_self, BitVec.getLsbD_or, getLsbD_mask sameWord]
  · simp [sameWord, ne_of_apply_ne (· / bitsPerWord) sameWord]

theorem get_clear (index other : Nat) :
    (bitmap.clear index).get other = (bitmap.get other && !decide (other = index)) := by
  have bounded : other % bitsPerWord < 64 := Nat.mod_lt _ (by decide)
  simp only [get, clear]
  by_cases sameWord : other / bitsPerWord = index / bitsPerWord
  · rw [sameWord, Function.update_self, BitVec.getLsbD_and, BitVec.getLsbD_not,
      getLsbD_mask sameWord, decide_eq_true bounded, Bool.true_and]
  · simp [sameWord, ne_of_apply_ne (· / bitsPerWord) sameWord]

theorem get_assign (index other : Nat) (value : Bool) :
    (bitmap.assign index value).get other = if other = index then value else bitmap.get other := by
  cases value with
  | true =>
    simp only [assign, if_true, get_set]
    split <;> simp [*]
  | false =>
    simp only [assign, Bool.false_eq_true, if_false, get_clear]
    split <;> simp [*]

theorem get_assignRange (value : Bool) (start count other : Nat) :
    (bitmap.assignRange value start count).get other =
      if start ≤ other ∧ other < start + count then value
      else bitmap.get other := by
  induction count with
  | zero =>
    rw [if_neg (by omega)]
    rfl
  | succ count ih =>
    rw [assignRange, get_assign, ih]
    by_cases last : other = start + count
    · rw [if_pos last, if_pos (by omega)]
    · have same :
          (start ≤ other ∧ other < start + (count + 1)) ↔
            (start ≤ other ∧ other < start + count) := by
        omega
      simp only [last, if_false, same]

theorem getLsbD_lowMask (countBounded : count ≤ 64) (bounded : bit < 64) :
    (lowMask count).getLsbD bit = decide (bit < count) := by
  have table :
      ∀ (count : Fin 65) (bit : Fin 64),
        (lowMask count.val).getLsbD bit.val = decide (bit.val < count.val) := by
    decide +kernel
  exact table ⟨count, by omega⟩ ⟨bit, bounded⟩

theorem eq_allOnes {word : Word} (allSet : ∀ bit, bit < 64 → word.getLsbD bit = true) :
    word = BitVec.allOnes 64 := by
  apply BitVec.eq_of_getLsbD_eq
  intro bit bounded
  rw [allSet bit bounded, BitVec.getLsbD_allOnes]
  simp [bounded]

theorem trailingOnes_spec {word : Word} (notFull : word ≠ BitVec.allOnes 64) :
    trailingOnes word < 64 ∧ word.getLsbD (trailingOnes word) = false ∧
      ∀ bit, bit < trailingOnes word → word.getLsbD bit = true := by
  cases found : (List.range 64).find? fun bit => !word.getLsbD bit with
  | none =>
    rw [List.find?_eq_none] at found
    apply absurd _ notFull
    apply eq_allOnes
    intro bit bounded
    simpa using found bit (List.mem_range.mpr bounded)
  | some first =>
    have isFirst : trailingOnes word = first := by
      rw [trailingOnes, found]
      rfl
    rw [isFirst]
    have bounded := List.mem_range.mp (List.mem_of_find?_eq_some found)
    have isClear := List.find?_some found
    refine ⟨bounded, by simpa using isClear, ?_⟩
    intro bit below
    rw [List.find?_range_eq_some] at found
    simpa using found.2.2 bit below

/-! ## Searching for a clear bit -/

structure FirstZero (first last index : Nat) : Prop where
  lower : first ≤ index
  upper : index < last
  isClear : bitmap.get index = false
  least : ∀ other, first ≤ other → other < index → bitmap.get other = true

variable {bitmap}

theorem get_word (word bit : Nat) (bounded : bit < 64) :
    bitmap.get (word * bitsPerWord + bit) = (bitmap.words word).getLsbD bit := by
  have quotient : (word * bitsPerWord + bit) / bitsPerWord = word := by
    unfold bitsPerWord
    omega
  have remainder : (word * bitsPerWord + bit) % bitsPerWord = bit := by
    unfold bitsPerWord
    omega
  rw [get, quotient, remainder]

theorem getLsbD_maskedWord (bounded : bit < 64) :
    (bitmap.maskedWord first last word).getLsbD bit = (bitmap.get (word * bitsPerWord + bit) ||
      decide (word * bitsPerWord + bit < first) ||
      decide (last ≤ word * bitsPerWord + bit)) := by
  have below :
      (if min (first - word * bitsPerWord) bitsPerWord = 0 then 0
        else lowMask (min (first - word * bitsPerWord) bitsPerWord)).getLsbD bit =
        decide (word * bitsPerWord + bit < first) := by
    have small : min (first - word * bitsPerWord) bitsPerWord ≤ 64 := min_le_right _ _
    split
    · next none =>
      have outside : ¬ word * bitsPerWord + bit < first := by
        unfold bitsPerWord at *
        omega
      simp [outside]
    · rw [getLsbD_lowMask small bounded, decide_eq_decide]
      unfold bitsPerWord
      omega
  have above :
      (if min (last - word * bitsPerWord) bitsPerWord = bitsPerWord then 0
        else ~~~lowMask (min (last - word * bitsPerWord) bitsPerWord)).getLsbD bit =
        decide (last ≤ word * bitsPerWord + bit) := by
    have small : min (last - word * bitsPerWord) bitsPerWord ≤ 64 := min_le_right _ _
    split
    · next whole =>
      have inside : ¬ last ≤ word * bitsPerWord + bit := by
        unfold bitsPerWord at *
        omega
      simp [inside]
    · rw [BitVec.getLsbD_not, getLsbD_lowMask small bounded]
      simp only [bounded, decide_true, Bool.true_and]
      rw [← decide_not, decide_eq_decide]
      omega
  rw [maskedWord, BitVec.getLsbD_or, BitVec.getLsbD_or, below, above, get_word word bit bounded]

theorem get_of_maskedWord
    (bounded : bit < 64) (isSet : (bitmap.maskedWord first last word).getLsbD bit = true)
    (afterFirst : first ≤ word * bitsPerWord + bit) (beforeLast : word * bitsPerWord + bit < last) :
    bitmap.get (word * bitsPerWord + bit) = true := by
  rw [getLsbD_maskedWord bounded] at isSet
  simp only [Bool.or_eq_true, decide_eq_true_eq] at isSet
  rcases isSet with (isSet | before) | beyond
  · exact isSet
  · omega
  · omega

theorem zeroInWord_eq_some (found : bitmap.zeroInWord first last word = some index) :
    word * bitsPerWord ≤ index ∧ first ≤ index ∧ index < last ∧
      bitmap.get index = false ∧
      ∀ other, word * bitsPerWord ≤ other → first ≤ other →
        other < index → bitmap.get other = true := by
  revert found
  fun_cases zeroInWord with
  | case1 _ notFull _ inRange =>
    rw [Option.some.injEq]
    rintro rfl
    obtain ⟨bounded, isClear, lower⟩ := trailingOnes_spec notFull
    rw [getLsbD_maskedWord bounded] at isClear
    simp only [Bool.or_eq_false_iff, decide_eq_false_iff_not] at isClear
    refine ⟨Nat.le_add_right _ _, Nat.le_of_not_lt isClear.1.2, inRange, isClear.1.1, ?_⟩
    intro other inWord afterFirst before
    obtain ⟨bit, rfl⟩ := Nat.exists_eq_add_of_le inWord
    have isSet := lower bit (by omega)
    exact get_of_maskedWord (by omega) isSet afterFirst (by omega)
  | _ => nofun

theorem zeroInWord_eq_none
    (notFound : bitmap.zeroInWord first last word = none) (inWord : word * bitsPerWord ≤ other)
    (beforeNext : other < (word + 1) * bitsPerWord)
    (afterFirst : first ≤ other) (beforeLast : other < last) :
    bitmap.get other = true := by
  obtain ⟨bit, rfl⟩ := Nat.exists_eq_add_of_le inWord
  have bounded : bit < 64 := by
    unfold bitsPerWord at *
    omega
  unfold zeroInWord at notFound
  simp only at notFound
  split at notFound
  · next notFull =>
    split at notFound
    · cases notFound
    · next beyond =>
      obtain ⟨_, _, lower⟩ := trailingOnes_spec notFull
      have isSet := lower bit (by omega)
      exact get_of_maskedWord bounded isSet afterFirst beforeLast
  · next full =>
    have isSet : (bitmap.maskedWord first last word).getLsbD bit = true := by
      rw [Decidable.not_not.mp full, BitVec.getLsbD_allOnes]
      simp [bounded]
    exact get_of_maskedWord bounded isSet afterFirst beforeLast

theorem searchWords_eq_some (found : bitmap.searchWords first last count word = some index)
    (before : ∀ other, first ≤ other → other < word * bitsPerWord →
      other < last → bitmap.get other = true) :
    bitmap.FirstZero first last index := by
  fun_induction searchWords with
  | case1 => cases found
  | case2 count word _ here =>
    obtain rfl := Option.some.inj found
    obtain ⟨_, lower, upper, isClear, least⟩ := zeroInWord_eq_some here
    refine ⟨lower, upper, isClear, ?_⟩
    intro other afterFirst beforeIndex
    by_cases inWord : word * bitsPerWord ≤ other
    · exact least other inWord afterFirst beforeIndex
    · exact before other afterFirst (by omega) (by omega)
  | case3 count word notHere ih =>
    apply ih found
    intro other afterFirst beforeNext beforeLast
    by_cases inWord : word * bitsPerWord ≤ other
    · exact zeroInWord_eq_none notHere inWord beforeNext afterFirst beforeLast
    · exact before other afterFirst (by omega) beforeLast

theorem searchWords_eq_none (notFound : bitmap.searchWords first last count word = none)
    (fromWord : word * bitsPerWord ≤ other) (beforeEnd : other < (word + count) * bitsPerWord)
    (afterFirst : first ≤ other) (beforeLast : other < last) :
    bitmap.get other = true := by
  fun_induction searchWords with
  | case1 =>
    unfold bitsPerWord at *
    omega
  | case2 => cases notFound
  | case3 count word notHere ih =>
    by_cases inWord : other < (word + 1) * bitsPerWord
    · exact zeroInWord_eq_none notHere fromWord inWord afterFirst beforeLast
    · apply ih notFound
      · exact Nat.le_of_not_lt inWord
      · rw [Nat.add_right_comm]
        exact beforeEnd

theorem findZeroIn_eq_some {stop : Nat} (found : bitmap.findZeroIn start stop = some index) :
    bitmap.FirstZero start (min stop bitmap.len) index := by
  unfold findZeroIn at found
  split at found
  · cases found
  · apply searchWords_eq_some found
    unfold bitsPerWord at *
    omega

theorem findZeroIn_eq_none {stop : Nat} (notFound : bitmap.findZeroIn start stop = none)
    (afterStart : start ≤ other) (beforeStop : other < stop)
    (inside : other < bitmap.len) : bitmap.get other = true := by
  unfold findZeroIn at notFound
  split at notFound
  · next outside => omega
  · have beforeLast : other < min stop bitmap.len := lt_min beforeStop inside
    apply searchWords_eq_none notFound _ _ afterStart beforeLast
    · unfold bitsPerWord
      omega
    · unfold bitsPerWord
      omega

/-! ## Searching for a run of clear bits -/

def ClearRun (bitmap : Bitmap) (first count : Nat) : Prop :=
  ∀ index, first ≤ index → index < first + count → bitmap.get index = false

/-- The scan remembers a run of clear bits that ends before `index`, and no run
of the full length starts before it. -/
theorem scanRun_spec (bitmap : Bitmap) (remaining : Nat) (start : Option Nat) (run index : Nat)
    (starts : start.getD index + run = index) (short : run < count)
    (isRun : bitmap.ClearRun (start.getD index) run)
    (nothing : ∀ first < start.getD index, ¬ bitmap.ClearRun first count) :
    match bitmap.scanRun count remaining start run index with
    | some first => first + count ≤ index + remaining ∧ bitmap.ClearRun first count ∧
        ∀ other < first, ¬ bitmap.ClearRun other count
    | none => ∀ first, first + count ≤ index + remaining → ¬ bitmap.ClearRun first count := by
  have longer {first run index} (starts : first + run = index)
      (isClear : bitmap.get index = false) (isRun : bitmap.ClearRun first run) :
      bitmap.ClearRun first (run + 1) := by
    intro other fromStart upTo
    by_cases last : other = index
    · rw [last]
      exact isClear
    · exact isRun other fromStart (by omega)
  fun_induction scanRun with
  | case1 start run index =>
    intro first inside
    exact nothing first (by omega)
  | case2 remaining start run index isClear first complete =>
    subst complete
    exact ⟨by omega, longer starts isClear isRun, nothing⟩
  | case3 remaining start run index isClear first _ ih =>
    rw [Nat.add_assoc, Nat.add_comm 1] at ih
    exact ih (by simp only [Option.getD_some]; omega) (by omega) (longer starts isClear isRun) nothing
  | case4 remaining start run index isSet ih =>
    rw [Nat.add_assoc, Nat.add_comm 1] at ih
    refine ih (by simp) (by omega) (fun other => by simp; omega) ?_
    intro first before clear
    by_cases earlier : first < start.getD index
    · exact nothing first earlier clear
    · rw [Option.getD_none] at before
      exact isSet (clear index (by omega) (by omega))

def clearRuns (bitmap : Bitmap) (count : Nat) : Set Nat :=
  {first | first + count ≤ bitmap.len ∧ bitmap.ClearRun first count}

theorem allocateRange_spec (bitmap : Bitmap) (count : Nat) :
    match bitmap.allocateRange count with
    | some (first, after) =>
      IsLeast (bitmap.clearRuns count) first ∧ after = bitmap.assignRange true first count
    | none => bitmap.clearRuns count = ∅ := by
  fun_cases allocateRange with
  | case1 isZero =>
    subst isZero
    exact ⟨⟨⟨Nat.zero_le _, by intro index; omega⟩, fun _ _ => Nat.zero_le _⟩, rfl⟩
  | case2 =>
    apply Set.eq_empty_of_forall_notMem
    rintro first ⟨inside, _⟩
    omega
  | case3 notZero =>
    have scanned := bitmap.scanRun_spec bitmap.len none 0 0 rfl (Nat.pos_of_ne_zero notZero)
      (by intro index; omega) nofun
    rw [Nat.zero_add] at scanned
    cases result : bitmap.scanRun count bitmap.len none 0 0 with
    | none =>
      rw [result] at scanned
      apply Set.eq_empty_of_forall_notMem
      rintro first ⟨inside, clear⟩
      exact scanned first inside clear
    | some first =>
      rw [result] at scanned
      obtain ⟨inside, clear, least⟩ := scanned
      refine ⟨⟨⟨inside, clear⟩, ?_⟩, rfl⟩
      rintro other ⟨_, otherClear⟩
      exact Nat.le_of_not_lt fun before => least other before otherClear

def zerosIn (bitmap : Bitmap) (start stop : Nat) : Set Nat :=
  {index | start ≤ index ∧ index < min stop bitmap.len ∧ bitmap.get index = false}

/-- **Searches.**  Both searches find the least place, and nothing only when
there is none. -/
theorem searches_least (bitmap : Bitmap) :
    (∀ start stop,
      match bitmap.findZeroIn start stop with
      | some index => IsLeast (bitmap.zerosIn start stop) index
      | none => bitmap.zerosIn start stop = ∅) ∧
    ∀ count,
      match bitmap.allocateRange count with
      | some (first, after) => IsLeast (bitmap.clearRuns count) first ∧ after.len = bitmap.len ∧
          ∀ index, after.get index =
            if first ≤ index ∧ index < first + count then true else bitmap.get index
      | none => bitmap.clearRuns count = ∅ := by
  constructor
  · intro start stop
    cases result : bitmap.findZeroIn start stop with
    | none =>
      apply Set.eq_empty_of_forall_notMem
      rintro index ⟨after, before, isClear⟩
      rw [findZeroIn_eq_none result after (by omega) (by omega)] at isClear
      cases isClear
    | some index =>
      obtain ⟨lower, upper, isClear, least⟩ := findZeroIn_eq_some result
      refine ⟨⟨lower, upper, isClear⟩, ?_⟩
      rintro other ⟨after, _, otherClear⟩
      by_contra before
      rw [least other after (by omega)] at otherClear
      cases otherClear
  · intro count
    have spec := bitmap.allocateRange_spec count
    cases result : bitmap.allocateRange count with
    | none =>
      rw [result] at spec
      exact spec
    | some =>
      rw [result] at spec
      obtain ⟨least, same⟩ := spec
      simp only [same]
      exact ⟨least, len_assignRange .., bitmap.get_assignRange true _ count⟩

/-! ## Counting -/

theorem count_congr {first second : Nat → Prop} [DecidablePred first] [DecidablePred second]
    {bound : Nat} (same : ∀ index, index < bound → (first index ↔ second index)) :
    Nat.count first bound = Nat.count second bound := by
  rw [Nat.count_eq_card_filter_range, Nat.count_eq_card_filter_range]
  congr 1
  apply filter_congr
  intro index member
  exact same index (mem_range.mp member)

theorem count_word (word bound : Nat) (bounded : bound ≤ 64) :
    Nat.count (fun bit => bitmap.get (word * bitsPerWord + bit) = true) bound =
      Nat.count (fun bit => (bitmap.words word).getLsbD bit = true) bound := by
  apply count_congr
  intro bit below
  rw [get_word word bit (by omega)]

theorem sum_countOnesWord (full : Nat) :
    ((List.range full).map fun word => countOnesWord (bitmap.words word)).sum =
      Nat.count (fun index => bitmap.get index = true) (full * bitsPerWord) := by
  induction full with
  | zero => simp
  | succ full ih =>
    rw [List.range_succ, List.map_append, List.sum_append, ih, Nat.succ_mul, Nat.count_add]
    rw [count_word full bitsPerWord (by decide)]
    simp [countOnesWord, bitsPerWord]

theorem count_lowMask {word : Word} {bound : Nat} (bounded : bound ≤ 64) :
    Nat.count (fun bit => (word &&& lowMask bound).getLsbD bit = true) 64 =
      Nat.count (fun bit => word.getLsbD bit = true) bound := by
  have divided : 64 = bound + (64 - bound) := by omega
  have upper :
      Nat.count
        (fun bit => (word &&& lowMask bound).getLsbD (bound + bit) = true) (64 - bound) = 0 := by
    rw [Nat.count_eq_card_filter_range, card_eq_zero, filter_eq_empty_iff]
    intro bit member
    have below := mem_range.mp member
    rw [BitVec.getLsbD_and, getLsbD_lowMask bounded (by omega)]
    simp
  refine (congrArg (Nat.count _) divided).trans ?_
  rw [Nat.count_add, upper]
  apply count_congr
  intro bit below
  rw [BitVec.getLsbD_and, getLsbD_lowMask bounded (by omega)]
  simp [below]

theorem countOnes_eq :
    bitmap.countOnes = Nat.count (fun index => bitmap.get index = true) bitmap.len := by
  have split : bitmap.len = bitmap.len / bitsPerWord * bitsPerWord + bitmap.len % bitsPerWord := by
    unfold bitsPerWord
    omega
  unfold countOnes
  simp only
  rw [sum_countOnesWord]
  split
  · next rest =>
    have small : bitmap.len % bitsPerWord < 64 := Nat.mod_lt _ (by decide)
    conv_rhs => rw [split, Nat.count_add]
    rw [count_word _ _ small.le, countOnesWord, count_lowMask small.le]
  · next whole =>
    rw [Decidable.not_not.mp whole, Nat.add_zero] at split
    rw [← split]

def clearBits (bitmap : Bitmap) : Finset Nat :=
  (range bitmap.len).filter fun index => bitmap.get index = false

theorem countZeros_eq : bitmap.countZeros = bitmap.clearBits.card := by
  have partitioned :=
    card_filter_add_card_filter_not (s := range bitmap.len) fun index => bitmap.get index = true
  rw [countZeros, countOnes_eq, Nat.count_eq_card_filter_range, clearBits]
  simp only [Bool.not_eq_true, card_range] at partitioned
  omega

theorem mem_clearBits :
    index ∈ bitmap.clearBits ↔ index < bitmap.len ∧ bitmap.get index = false := by
  simp [clearBits]

theorem clearBits_assignRange_true (start count : Nat) :
    (bitmap.assignRange true start count).clearBits =
      bitmap.clearBits \ Ico start (start + count) := by
  ext index
  rw [mem_sdiff, mem_clearBits, mem_clearBits, get_assignRange, mem_Ico]
  split <;> simp_all

theorem clearBits_assignRange_false (inside : Ico start (start + count) ⊆ range bitmap.len) :
    (bitmap.assignRange false start count).clearBits =
      bitmap.clearBits ∪ Ico start (start + count) := by
  ext index
  have within := @inside index
  rw [mem_union, mem_clearBits, mem_clearBits, get_assignRange]
  split <;> simp_all

theorem get_setAll (inside : index < bitmap.len) : bitmap.setAll.get index = true := by
  have bounded : index % bitsPerWord < 64 := Nat.mod_lt _ (by decide)
  simp only [get, setAll]
  split
  · rw [BitVec.getLsbD_allOnes]
    simp [bounded]
  · next notFull =>
    have isLast :
        bitmap.len % bitsPerWord ≠ 0 ∧ index / bitsPerWord = bitmap.len / bitsPerWord := by
      unfold bitsPerWord at *
      omega
    have small : bitmap.len % bitsPerWord ≤ 64 := (Nat.mod_lt _ (by decide)).le
    rw [if_pos isLast, getLsbD_lowMask small bounded, decide_eq_true_eq]
    unfold bitsPerWord at *
    omega

end Bitmap

end Xenith.Util
