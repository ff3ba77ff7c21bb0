import Xenith.Mm.AddressSpace

/-!
# What the shared-frame table records

No entry stands for at most one mapping, and an entry carries the number of
mappings when it is at least two.
-/

namespace Xenith.Mm

open ListEdit

/-- The reference counts recorded for `frame`, one for each of its entries. -/
def recordedReferences (frames : List SharedUserFrame) (frame : PhysFrame) : List Nat :=
  (frames.filter fun shared => decide (shared.frame = frame)).map SharedUserFrame.references

/-- The table holds exactly one entry, with the count, for every frame that
is counted at least twice, and none for the others. -/
def Represents (frames : List SharedUserFrame) (count : PhysFrame → Nat) : Prop :=
  ∀ frame, recordedReferences frames frame = if count frame ≤ 1 then [] else [count frame]

/-- No entry stands for fewer than two mappings. -/
def WellCounted (frames : List SharedUserFrame) : Prop :=
  ∀ shared ∈ frames, 2 ≤ shared.references

variable {reserve : Bool} {retained : List SharedUserFrame}

section Records

variable {frames : List SharedUserFrame} {frame : PhysFrame}

theorem recordedReferences_append (front back : List SharedUserFrame) (tested : PhysFrame) :
    recordedReferences (front ++ back) tested =
      recordedReferences front tested ++ recordedReferences back tested := by
  simp [recordedReferences]

theorem recordedReferences_cons
    (shared : SharedUserFrame) (rest : List SharedUserFrame) (tested : PhysFrame) :
    recordedReferences (shared :: rest) tested =
      (if shared.frame = tested then [shared.references] else []) ++
        recordedReferences rest tested := by
  by_cases equal : shared.frame = tested <;> simp [recordedReferences, equal]

theorem recordedReferences_eq_nil
    {tested : PhysFrame} (absent : ∀ shared ∈ frames, shared.frame ≠ tested) :
    recordedReferences frames tested = [] := by
  simp only [recordedReferences, List.map_eq_nil_iff, List.filter_eq_nil_iff, decide_eq_true_eq]
  exact absent

/-- An entry may be replaced without effect on other frames. -/
theorem recordedReferences_replace
    (front back : List SharedUserFrame) {shared changed : SharedUserFrame}
    {tested : PhysFrame} (different : shared.frame ≠ tested)
    (sameFrame : changed.frame = shared.frame) :
    recordedReferences (front ++ changed :: back) tested =
      recordedReferences (front ++ shared :: back) tested := by
  simp [recordedReferences_append, recordedReferences_cons, different, sameFrame]

theorem recordedReferences_perm
    {other : List SharedUserFrame} (permutation : frames.Perm other) (tested : PhysFrame) :
    (recordedReferences frames tested).Perm (recordedReferences other tested) :=
  (permutation.filter _).map _

theorem retainSharedUserFrame_cases
    (succeeded : retainSharedUserFrame frames frame reserve = .ok retained) :
    (∃ front shared back,
      frames = front ++ shared :: back ∧ shared.frame = frame ∧
        (∀ earlier ∈ front, earlier.frame ≠ frame) ∧ retained = front ++
          { shared with references := shared.references + 1 } :: back) ∨
      ((∀ shared ∈ frames, shared.frame ≠ frame) ∧
        retained = frames ++ [{ frame := frame, references := 2 }]) := by
  unfold retainSharedUserFrame at succeeded
  cases position : frames.findIdx? fun shared => decide (shared.frame = frame) with
  | some =>
    obtain ⟨front, shared, back, rfl, rfl, matched, earlierFails⟩ :=
      split_of_findIdx?_eq_some position
    simp only [position, getElem?_append_cons, set_append_cons] at succeeded
    split at succeeded
    · cases succeeded
      refine Or.inl ⟨front, shared, back, rfl, of_decide_eq_true matched, ?_, rfl⟩
      intro earlier member
      exact of_decide_eq_false (earlierFails earlier member)
    · cases succeeded
  | none =>
    simp only [position] at succeeded
    split at succeeded
    · cases succeeded
      refine Or.inr ⟨?_, rfl⟩
      intro shared member
      have fails := List.findIdx?_eq_none_iff.mp position shared member
      exact of_decide_eq_false fails
    · cases succeeded

theorem releaseUserFrame_cases (frames : List SharedUserFrame) (frame : PhysFrame) :
    ((∀ shared ∈ frames, shared.frame ≠ frame) ∧ releaseUserFrame frames frame = (true, frames)) ∨
      ∃ front shared back, frames = front ++ shared :: back ∧ shared.frame = frame ∧
        releaseUserFrame frames frame = (false,
          if 2 < shared.references then
            front ++ { shared with references := shared.references - 1 } :: back
          else swapRemove frames front.length) := by
  unfold releaseUserFrame
  cases position : frames.findIdx? fun shared => decide (shared.frame = frame) with
  | some =>
    obtain ⟨front, shared, back, rfl, rfl, matched, _⟩ := split_of_findIdx?_eq_some position
    refine Or.inr ⟨front, shared, back, rfl, of_decide_eq_true matched, ?_⟩
    simp only [getElem?_append_cons, set_append_cons]
    split <;> rfl
  | none =>
    refine Or.inl ⟨?_, rfl⟩
    intro shared member
    have fails := List.findIdx?_eq_none_iff.mp position shared member
    exact of_decide_eq_false fails

theorem sharedUserFrame_eq_false_iff :
    sharedUserFrame frames frame = false ↔ ∀ shared ∈ frames, shared.frame ≠ frame := by
  simp [sharedUserFrame]

theorem retainSharedUserFrame_wellCounted (wellCounted : WellCounted frames)
    (succeeded : retainSharedUserFrame frames frame reserve = .ok retained) :
    WellCounted retained := by
  intro shared member
  rcases retainSharedUserFrame_cases succeeded with
    ⟨front, found, back, rfl, _, _, rfl⟩ | ⟨_, rfl⟩
  · have foundCounted : 2 ≤ found.references := wellCounted found (by simp)
    simp only [List.mem_append, List.mem_cons] at member
    rcases member with member | rfl | member
    · exact wellCounted shared (by simp [member])
    · change 2 ≤ found.references + 1
      omega
    · exact wellCounted shared (by simp [member])
  · simp only [List.mem_append, List.mem_singleton] at member
    rcases member with member | rfl
    · exact wellCounted shared member
    · exact Nat.le_refl 2

/-- A release right after a retain of the same frame restores the table. -/
theorem releaseUserFrame_retainSharedUserFrame (wellCounted : WellCounted frames)
    (succeeded : retainSharedUserFrame frames frame reserve = .ok retained) :
    (releaseUserFrame retained frame).2 = frames := by
  have position {front back} (shared : SharedUserFrame) (sameFrame : shared.frame = frame)
      (earlier : ∀ other ∈ front, other.frame ≠ frame) :
      (front ++ shared :: back).findIdx? (fun other => decide (other.frame = frame)) =
        some front.length :=
    findIdx?_append_cons
      (fun other member => decide_eq_false (earlier other member)) (decide_eq_true sameFrame)
  unfold releaseUserFrame
  rcases retainSharedUserFrame_cases succeeded with
    ⟨front, found, back, rfl, sameFrame, earlier, rfl⟩ | ⟨absent, rfl⟩
  · have foundCounted : 2 ≤ found.references := wellCounted found (by simp)
    simp only [position ⟨_, found.references + 1⟩ sameFrame earlier, getElem?_append_cons]
    rw [if_pos (by omega)]
    simp
  · simp only [position ⟨frame, _⟩ rfl absent, getElem?_append_cons]
    rw [if_neg (by omega), swapRemove_append_singleton]

end Records

section Counts

variable {frames : List SharedUserFrame} {count : PhysFrame → Nat} {frame : PhysFrame}

variable (represents : Represents frames count)

include represents

theorem Represents.wellCounted : WellCounted frames := by
  intro shared member
  have recorded : shared.references ∈ recordedReferences frames shared.frame := by
    refine List.mem_map.mpr ⟨shared, ?_, rfl⟩
    exact List.mem_filter.mpr ⟨member, decide_eq_true rfl⟩
  rw [represents shared.frame] at recorded
  split at recorded
  · simp at recorded
  · rw [List.mem_singleton] at recorded
    omega

/-- The table does not tell counts up to one apart. -/
theorem Represents.congr {other : PhysFrame → Nat}
    (same : ∀ tested, count tested = other tested ∨ count tested ≤ 1 ∧ other tested ≤ 1) :
    Represents frames other := by
  intro tested
  rw [represents tested]
  rcases same tested with equal | ⟨few, otherFew⟩
  · rw [equal]
  · rw [if_pos few, if_pos otherFew]

/-- The entries of one frame follow its count, and those of the other
frames are kept. -/
theorem Represents.update {changed : List SharedUserFrame} {amount : Nat}
    (own : recordedReferences changed frame = if amount ≤ 1 then [] else [amount])
    (others : ∀ tested, frame ≠ tested →
      recordedReferences changed tested = recordedReferences frames tested) :
    Represents changed (Function.update count frame amount) := by
  intro tested
  by_cases equal : frame = tested
  · subst equal
    rw [own, Function.update_self]
  · rw [others tested equal, represents tested, Function.update_of_ne (Ne.symm equal)]

theorem Represents.count_le_one (absent : ∀ shared ∈ frames, shared.frame ≠ frame) :
    count frame ≤ 1 := by
  have recorded := represents frame
  rw [recordedReferences_eq_nil absent] at recorded
  by_contra several
  rw [if_neg several] at recorded
  exact absurd recorded.symm (List.cons_ne_nil _ _)

omit represents in
/-- With an entry a frame has at least two mappings, and the entry is the
only one and carries their number. -/
theorem Represents.entry {front back : List SharedUserFrame} {shared : SharedUserFrame}
    (represents : Represents (front ++ shared :: back) count) (sameFrame : shared.frame = frame) :
    2 ≤ count frame ∧ shared.references = count frame ∧
      recordedReferences front frame = [] ∧ recordedReferences back frame = [] := by
  have recorded := represents frame
  rw [recordedReferences_append, recordedReferences_cons, if_pos sameFrame] at recorded
  by_cases few : count frame ≤ 1
  · rw [if_pos few] at recorded
    simp at recorded
  · rw [if_neg few] at recorded
    have lengths := congrArg List.length recorded
    simp only [List.length_append, List.length_singleton] at lengths
    have frontEmpty : recordedReferences front frame = [] := List.length_eq_zero_iff.mp (by omega)
    have backEmpty : recordedReferences back frame = [] := List.length_eq_zero_iff.mp (by omega)
    rw [frontEmpty, backEmpty] at recorded
    simp only [List.nil_append, List.append_nil, List.cons.injEq, and_true] at recorded
    exact ⟨by omega, recorded, frontEmpty, backEmpty⟩

theorem Represents.sharedUserFrame_iff : sharedUserFrame frames frame = true ↔ 2 ≤ count frame := by
  constructor
  · intro recorded
    simp only [sharedUserFrame, List.any_eq_true, decide_eq_true_eq] at recorded
    obtain ⟨_, member, sameFrame⟩ := recorded
    obtain ⟨_, _, rfl⟩ := List.append_of_mem member
    exact (represents.entry sameFrame).1
  · intro several
    by_contra unrecorded
    have absent := sharedUserFrame_eq_false_iff.mp (Bool.eq_false_iff.mpr unrecorded)
    have few := represents.count_le_one absent
    omega

theorem Represents.retain (mapped : 0 < count frame)
    (succeeded : retainSharedUserFrame frames frame reserve = .ok retained) :
    Represents retained (Function.update count frame (count frame + 1)) := by
  rcases retainSharedUserFrame_cases succeeded with
    ⟨front, found, back, rfl, rfl, _, rfl⟩ | ⟨absent, rfl⟩
  · obtain ⟨_, carried, frontEmpty, backEmpty⟩ := represents.entry rfl
    refine represents.update ?_ ?_
    · rw [recordedReferences_append, recordedReferences_cons, frontEmpty,
        backEmpty, if_pos rfl, if_neg (by omega), carried]
      rfl
    · intro tested different
      exact recordedReferences_replace front back different rfl
  · have few := represents.count_le_one absent
    have single : count frame = 1 := by omega
    refine represents.update ?_ ?_
    · rw [recordedReferences_append, recordedReferences_cons,
        recordedReferences_eq_nil absent, if_pos rfl, single]
      rfl
    · intro tested different
      simp [recordedReferences, different]

/-- One mapping fewer.  The release reports the last mapping exactly. -/
theorem Represents.release (mapped : 0 < count frame) :
    Represents (releaseUserFrame frames frame).2 (Function.update count frame (count frame - 1)) ∧
      ((releaseUserFrame frames frame).1 = true ↔ count frame = 1) := by
  rcases releaseUserFrame_cases frames frame with
    ⟨absent, released⟩ | ⟨front, found, back, rfl, rfl, released⟩
  · have few := represents.count_le_one absent
    have single : count frame = 1 := by omega
    rw [released]
    refine ⟨represents.update ?_ fun _ _ => rfl, by simp [single]⟩
    rw [recordedReferences_eq_nil absent, single]
    rfl
  · obtain ⟨_, carried, frontEmpty, backEmpty⟩ := represents.entry rfl
    rw [released]
    refine ⟨represents.update ?_ ?_, by simp; omega⟩
    · split
      · rw [recordedReferences_append, recordedReferences_cons, frontEmpty,
          backEmpty, if_pos rfl, if_neg (by omega), carried]
        rfl
      · have kept := recordedReferences_perm
          (swapRemove_append_cons_perm front back found) found.frame
        rw [recordedReferences_append, frontEmpty, backEmpty] at kept
        rw [if_pos (by omega)]
        exact List.Perm.eq_nil kept
    · intro tested different
      split
      · exact recordedReferences_replace front back different rfl
      · have kept := recordedReferences_perm (swapRemove_append_cons_perm front back found) tested
        have recorded := represents tested
        rw [recordedReferences_append, recordedReferences_cons,
          if_neg different, List.nil_append] at recorded ⊢
        rw [recordedReferences_append, recorded] at kept
        rw [recorded]
        split
        · rename_i few
          rw [if_pos few] at kept
          exact List.Perm.eq_nil kept
        · rename_i many
          rw [if_neg many] at kept
          exact List.perm_singleton.mp kept

end Counts

end Xenith.Mm
