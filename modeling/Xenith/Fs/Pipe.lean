import Xenith.Lib.Execution
import Xenith.Util.RingBuffer
import Xenith.Fs.Descriptors

/-!
# Pipes

Any number of `read` and `write` calls of the endpoints of one pipe, each cut
into its locked sections.  What the reads return is what the writes put in, and
short writes are not torn apart.
-/

namespace Xenith.Fs.Pipe

open Util

/-! ## Locked sections -/

def pipeCapacity : Nat := 4096

def pipeBuf : Nat := pipeCapacity

instance : NeZero pipeCapacity :=
  ⟨Nat.succ_ne_zero 4095⟩

structure PipeState where
  bytes : RingBuffer UInt8 pipeCapacity
  readers : Nat
  writers : Nat

inductive PipeDirection where
  | read
  | write
deriving DecidableEq

namespace PipeState

def new (buf : Fin pipeCapacity → UInt8) : PipeState where
  bytes := .new buf
  readers := 1
  writers := 1

/-- One turn of the loop of `read`; without a result there is another one. -/
def readOnce (state : PipeState) (wanted : Nat) (nonblocking : Bool) :
    Option (Except FsError (List UInt8)) × PipeState :=
  let (bytes, rest) := state.bytes.popUpTo wanted
  let result :=
    if bytes ≠ [] then some (.ok bytes)
    else if state.writers = 0 then some (.ok [])
    else if nonblocking then some (.error .wouldBlock)
    else none
  (result, { state with bytes := rest })

/-- The result of a `write` that stops early. -/
def stopped (written : Nat) (error : FsError) : Except FsError Nat :=
  if written = 0 then .error error else .ok written

/-- One turn of the loop of `write`, with the bytes that it pushes. -/
def writeOnce (state : PipeState) (source : List UInt8) (nonblocking : Bool) (written : Nat) :
    List UInt8 × Option (Except FsError Nat) × PipeState :=
  if state.readers = 0 then ([], some (stopped written .brokenPipe), state)
  else
    let available := pipeCapacity - state.bytes.len
    let remaining := source.length - written
    let atomic := decide (source.length ≤ pipeBuf)
    if available = 0 ∨ atomic = true ∧ available < remaining then
      ([], if nonblocking then some (stopped written .wouldBlock) else none, state)
    else
      let count := min available remaining
      let chunk := (source.drop written).take count
      (chunk,
        if written + count < source.length then none
        else some (.ok (written + count)),
        { state with bytes := state.bytes.pushAll chunk })

/-- `drop` of an endpoint. -/
def close (state : PipeState) : PipeDirection → PipeState
  | .read => { state with readers := state.readers - 1 }
  | .write => { state with writers := state.writers - 1 }

end PipeState

/-! ## Concurrent calls -/

structure WriteCall where
  source : List UInt8
  nonblocking : Bool
  written : Nat
  result : Option (Except FsError Nat)

/-- The pipe, the `write` calls made so far, the bytes that reads returned and
the bytes that writes pushed, with the number of the call. -/
structure System where
  pipe : PipeState
  writes : List WriteCall := []
  returned : List UInt8 := []
  accepted : List (Nat × List UInt8) := []

/-- A turn of `read`, the start and a turn of a `write`, and the end of an
endpoint. -/
inductive Label where
  | read (direction : PipeDirection) (wanted : Nat) (nonblocking : Bool)
  | write (direction : PipeDirection) (source : List UInt8) (nonblocking : Bool)
  | writeOnce (index : Nat)
  | close (direction : PipeDirection)

namespace System

/-- What `read` and `write` return without a look at the pipe. -/
def checked {α : Type} (direction expected : PipeDirection) (empty : Bool)
    (value : α) : Option (Except FsError α) :=
  if direction ≠ expected then some (.error .badFileDescriptor)
  else if empty then some (.ok value)
  else none

/-- A turn of `read`, which keeps nothing from one turn to the next. -/
def read (system : System) (direction : PipeDirection) (wanted : Nat) (nonblocking : Bool) :
    Option (Except FsError (List UInt8)) × PipeState :=
  match checked direction .read (decide (wanted = 0)) [] with
  | some result => (some result, system.pipe)
  | none => system.pipe.readOnce wanted nonblocking

def bytes : Option (Except FsError (List UInt8)) → List UInt8
  | some (.ok bytes) => bytes
  | _ => []

def step (system : System) : Label → Option System
  | .read direction wanted nonblocking =>
    let (result, pipe) := system.read direction wanted nonblocking
    some { system with pipe, returned := system.returned ++ bytes result }
  | .write direction source nonblocking =>
    let result := checked direction .write source.isEmpty 0
    some { system with writes := system.writes ++ [⟨source, nonblocking, 0, result⟩] }
  | .writeOnce index =>
    match system.writes[index]? with
    | some ⟨source, nonblocking, written, none⟩ =>
      let (chunk, result, pipe) := system.pipe.writeOnce source nonblocking written
      some
        { system with
          pipe
          writes := system.writes.set index ⟨source, nonblocking, written + chunk.length, result⟩
          accepted := system.accepted ++ [(index, chunk)] }
    | _ => none
  | .close direction => some { system with pipe := system.pipe.close direction }

/-- The pieces in which the bytes of a call were accepted. -/
def chunks (system : System) (index : Nat) : List (List UInt8) :=
  (system.accepted.filter (fun entry => entry.1 = index ∧ entry.2 ≠ [])).map Prod.snd

end System

/-- The pieces of a write are its source up to what it reports, and a short
source is one piece. -/
structure WriteCall.Accounted (call : WriteCall) (chunks : List (List UInt8)) : Prop where
  pieces : chunks.flatten = call.source.take call.written
  whole : call.source.length ≤ pipeBuf → chunks = [] ∨ chunks = [call.source]
  untouched : call.written = 0 → chunks = []
  pending : call.result = none → call.written < call.source.length
  reported : ∀ count, call.result = some (.ok count) → count = call.written
  failed : ∀ error, call.result = some (.error error) → call.written = 0

structure System.Intact (system : System) : Prop where
  stream : system.returned ++ system.pipe.bytes.contents = system.accepted.flatMap Prod.snd
  writes : ∀ (index : Nat) (call : WriteCall), system.writes[index]? = some call →
    call.Accounted (system.chunks index)
  unissued : ∀ index, system.writes.length ≤ index → system.chunks index = []

/-! ## Steps -/

namespace PipeState

variable {state next : PipeState} {nonblocking : Bool}

/-- A turn of `read` returns the front of the queue. -/
theorem readOnce_cases {wanted : Nat} {result : Option (Except FsError (List UInt8))}
    (turned : state.readOnce wanted nonblocking = (result, next)) :
    state.bytes.contents = System.bytes result ++ next.bytes.contents ∧
      (0 < wanted → result = some (.ok []) → state.bytes.contents = [] ∧ state.writers = 0) := by
  have ⟨taken, left⟩ := RingBuffer.contents_popUpTo wanted state.bytes
  have front : state.bytes.contents = _ := (List.take_append_drop wanted _).symm
  rw [← taken, ← left] at front
  unfold readOnce at turned
  generalize RingBuffer.popUpTo wanted state.bytes = popped at *
  obtain ⟨bytes, _⟩ := popped
  obtain ⟨rfl, rfl⟩ := Prod.mk.inj turned
  by_cases empty : bytes = []
  · rw [if_neg (not_not.mpr empty)]
    rw [empty] at front
    refine ⟨?_, ?_⟩
    · rw [front]
      split
      · rfl
      · split <;> rfl
    · intro positive isEnd
      rw [empty, eq_comm, List.take_eq_nil_iff] at taken
      refine ⟨taken.resolve_left positive.ne', ?_⟩
      by_contra open_
      rw [if_neg open_] at isEnd
      split at isEnd <;> cases isEnd
  · rw [if_pos empty]
    refine ⟨front, ?_⟩
    rintro _ ⟨⟩
    exact absurd rfl empty

/-- A turn of `write` pushes the next bytes of the source. -/
theorem writeOnce_cases
    {source chunk : List UInt8} {written : Nat} {result : Option (Except FsError Nat)}
    (turned : state.writeOnce source nonblocking written = (chunk, result, next))
    (pending : written < source.length) :
    next.bytes.contents = state.bytes.contents ++ chunk ∧
      chunk = (source.drop written).take chunk.length ∧
      (source.length ≤ pipeBuf → chunk = [] ∨ chunk = source.drop written) ∧
      (result = none → written + chunk.length < source.length) ∧
      (∀ count, result = some (.ok count) → count = written + chunk.length) ∧
      ∀ error, result = some (.error error) → written + chunk.length = 0 := by
  have early (error : FsError) :
      (∀ count, some (stopped written error) = some (.ok count) → count = written) ∧
      ∀ other, some (stopped written error) = some (.error other) → written = 0 := by
    unfold stopped
    split <;> simp_all
  revert turned
  fun_cases writeOnce with
  | case1 =>
    rintro ⟨⟩
    exact ⟨(List.append_nil _).symm, rfl, fun _ => Or.inl rfl, nofun, early _⟩
  | case2 =>
    rintro ⟨⟩
    refine ⟨(List.append_nil _).symm, rfl, fun _ => Or.inl rfl, fun _ => pending, ?_⟩
    split
    · exact early _
    · exact ⟨nofun, nofun⟩
  | case3 _ available remaining _ room count chunk =>
    rw [Prod.mk.injEq]
    rintro ⟨rfl, rfl, rfl⟩
    have isLength : chunk.length = count := by
      simp only [chunk, List.length_take, List.length_drop]
      omega
    refine ⟨?_, ?_, ?_, ?_⟩
    · apply RingBuffer.contents_pushAll
      omega
    · rw [isLength]
    · intro short
      have enough : remaining ≤ available := by
        by_contra less
        exact room (Or.inr ⟨decide_eq_true short, Nat.not_le.mp less⟩)
      exact Or.inr (List.take_of_length_le (by simp; omega))
    · rw [isLength]
      split
      · next more => exact ⟨fun _ => more, nofun, nofun⟩
      · exact ⟨nofun, fun _ same => by cases same; rfl, nofun⟩

end PipeState

theorem WriteCall.Accounted.turn
    {state next : PipeState} {source chunk : List UInt8} {nonblocking : Bool}
    {written : Nat} {result : Option (Except FsError Nat)} {chunks : List (List UInt8)}
    (accounted : Accounted ⟨source, nonblocking, written, none⟩ chunks)
    (turned : state.writeOnce source nonblocking written = (chunk, result, next)) :
    Accounted ⟨source, nonblocking, written + chunk.length, result⟩
      (chunks ++ if chunk ≠ [] then [chunk] else []) := by
  have pending : written < source.length := accounted.pending rfl
  obtain ⟨_, isChunk, short, ends⟩ := PipeState.writeOnce_cases turned pending
  by_cases empty : chunk = []
  · subst empty
    rw [if_neg (not_not.mpr rfl), List.append_nil]
    exact ⟨accounted.pieces, accounted.whole, accounted.untouched, ends.1, ends.2.1, ends.2.2⟩
  · rw [if_pos empty]
    have positive := List.length_pos_of_ne_nil empty
    have pieces := accounted.pieces
    refine ⟨?_, ?_, ?_, ends.1, ends.2.1, ends.2.2⟩
    · rw [List.flatten_append, pieces, List.flatten_singleton, List.take_add, ← isChunk]
    · intro small
      have length := congrArg List.length pieces
      rw [List.length_take_of_le (Nat.le_of_lt pending)] at length
      rcases accounted.whole small with none | all
      · rw [none] at length ⊢
        have start : written = 0 := length.symm
        rcases short small with nothing | rest
        · exact absurd nothing empty
        · exact Or.inr (by rw [rest, start]; rfl)
      · rw [all, List.flatten_singleton] at length
        exact absurd length (Nat.ne_of_gt pending)
    · intro nothing
      exact absurd (Nat.add_eq_zero_iff.mp nothing).2 (Nat.ne_of_gt positive)

namespace System

variable {system next : System} {index : Nat}

theorem chunks_accept {chunk : List UInt8} {other : Nat}
    (accepts : next.accepted = system.accepted ++ [(index, chunk)]) :
    next.chunks other =
      system.chunks other ++ if index = other ∧ chunk ≠ [] then [chunk] else [] := by
  rw [chunks, chunks]
  split <;> simp_all

theorem checked_cases {α : Type} {direction expected : PipeDirection} {empty : Bool} {value : α} :
    (checked direction expected empty value = none → empty = false) ∧
      ∀ other, checked direction expected empty value = some (.ok other) →
        empty = true ∧ other = value := by
  unfold checked
  split
  · exact ⟨nofun, nofun⟩
  · split
    · next isEmpty => exact ⟨nofun, fun _ same => ⟨isEmpty, by cases same; rfl⟩⟩
    · next nonempty => exact ⟨fun _ => by simpa using nonempty, nofun⟩

/-- The calls after one has been made. -/
theorem call_cases {Call : Type} {calls : List Call} {call added : Call}
    (found : (calls ++ [added])[index]? = some call) :
    calls[index]? = some call ∨ index = calls.length ∧ call = added := by
  rw [List.getElem?_append] at found
  split at found
  · exact Or.inl found
  · next outside =>
    have single := List.getElem?_eq_some_iff.mp found
    simp at single
    exact Or.inr ⟨by omega, single.2.symm⟩

/-- A turn of `read` returns the front of the queue, and nothing only at the
end of the stream. -/
theorem read_cases {direction : PipeDirection} {wanted : Nat} {nonblocking : Bool}
    {result : Option (Except FsError (List UInt8))} {pipe : PipeState}
    (turned : system.read direction wanted nonblocking = (result, pipe)) :
    system.pipe.bytes.contents = bytes result ++ pipe.bytes.contents ∧
      (0 < wanted → result = some (.ok []) →
        system.pipe.bytes.contents = [] ∧ system.pipe.writers = 0) := by
  revert turned
  fun_cases read with
  | case1 early isChecked =>
    rintro ⟨⟩
    refine ⟨?_, ?_⟩
    · cases early with
      | error => rfl
      | ok value => rw [(checked_cases.2 value isChecked).2]; rfl
    · rintro _ ⟨⟩
      have empty := of_decide_eq_true (checked_cases.2 _ isChecked).1
      omega
  | case2 => exact PipeState.readOnce_cases

theorem Intact.step {label : Label} (intact : Intact system)
    (taken : system.step label = some next) : Intact next := by
  cases label with
  | read direction _ nonblocking =>
    cases taken
    refine ⟨?_, intact.writes, intact.unissued⟩
    rw [List.append_assoc, ← (read_cases rfl).1]
    exact intact.stream
  | write direction source nonblocking =>
    cases taken
    refine ⟨intact.stream, ?_, ?_⟩
    · intro index call found
      rcases call_cases found with old | ⟨rfl, rfl⟩
      · exact intact.writes index call old
      · change WriteCall.Accounted _ (system.chunks _)
        rw [intact.unissued _ (Nat.le_refl _)]
        refine ⟨rfl, fun _ => Or.inl rfl, fun _ => rfl, ?_,
          fun count ends => (checked_cases.2 count ends).2, fun _ _ => rfl⟩
        intro unfinished
        have nonempty := checked_cases.1 unfinished
        exact List.length_pos_of_ne_nil (by simpa using nonempty)
    · intro index later
      rw [List.length_append] at later
      exact intact.unissued index (Nat.le_of_add_right_le later)
  | writeOnce index =>
    simp only [System.step] at taken
    split at taken
    · next source nonblocking written found =>
      cases taken
      have accounted := intact.writes index _ found
      generalize turned : system.pipe.writeOnce source nonblocking written = turn
      refine ⟨?_, ?_, ?_⟩
      · have pushed := (PipeState.writeOnce_cases turned (accounted.pending rfl)).1
        rw [pushed, ← List.append_assoc, intact.stream]
        simp
      · intro other call isCall
        rw [chunks_accept rfl]
        rw [List.getElem?_set] at isCall
        split at isCall
        · next same =>
          split at isCall
          · cases isCall
            simpa [← same] using accounted.turn turned
          · cases isCall
        · next different =>
          rw [if_neg (fun both => different both.1), List.append_nil]
          exact intact.writes other call isCall
      · intro other later
        rw [List.length_set] at later
        have issued := (List.getElem?_eq_some_iff.mp found).1
        have different : index ≠ other := by omega
        rw [chunks_accept rfl, if_neg (fun both => different both.1), List.append_nil]
        exact intact.unissued other later
    · cases taken
  | close direction =>
    cases taken
    cases direction <;> exact ⟨intact.stream, intact.writes, intact.unissued⟩

/-- `create`, with nothing in the buffer. -/
def create (buf : Fin pipeCapacity → UInt8) : System where
  pipe := .new buf

end System

end Xenith.Fs.Pipe
