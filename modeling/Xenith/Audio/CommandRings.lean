import Xenith.Lib.Execution
import Xenith.Lib.Ring

/-!
# Audio command rings

`CommandRings::command` of `devices/audio/ring.rs` beside a controller that
answers the verbs in order.  The controller moves between any two polls.
-/

namespace Xenith.Audio

open Function
open Execution
open Xenith.Ring

inductive RingSize where
  | entries2
  | entries16
  | entries256

def RingSize.entries : RingSize → Nat
  | .entries2 => 2
  | .entries16 => 16
  | .entries256 => 256

instance (size : RingSize) : NeZero size.entries :=
  ⟨by cases size <;> decide⟩

/-- The pointer behind, masked to the length of its ring. -/
def advance {size : RingSize} (pointer : Fin size.entries) : Fin size.entries :=
  Fin.ofNat size.entries ((pointer.val + 1) &&& (size.entries - 1))

theorem advance_eq {size : RingSize} (pointer : Fin size.entries) :
    advance pointer = cell pointer 1 := by
  have masked (value : Nat) : value &&& (size.entries - 1) = value % size.entries := by
    cases size with
    | entries2 => exact Nat.and_two_pow_sub_one_eq_mod value 1
    | entries16 => exact Nat.and_two_pow_sub_one_eq_mod value 4
    | entries256 => exact Nat.and_two_pow_sub_one_eq_mod value 8
  apply Fin.ext
  simp [advance, cell, masked]

structure Verb where
  raw : BitVec 32
deriving DecidableEq

def Verb.codec (verb : Verb) : BitVec 8 :=
  (verb.raw >>> 28).setWidth 8

structure Response where
  data : BitVec 32
  codec : BitVec 8
  unsolicited : Bool
deriving DecidableEq

def Response.decode (raw : BitVec 64) : Response :=
  let extension : BitVec 32 := (raw >>> 32).setWidth 32
  { data := raw.setWidth 32
    codec := (extension &&& 0x0f).setWidth 8
    unsolicited := extension &&& 1 <<< 4 ≠ 0 }

inductive RingError where
  | corbFull
  | responseTimeout
  | corbMemoryError
  | rirbOverrun
  | responseFromWrongCodec
deriving DecidableEq

def fastPollCount : Nat := 1024

def commandTimeoutMs : Nat := 100

/-- A verb with the number of the call that placed it. -/
structure Placed where
  verb : Verb
  call : Nat

/-- A word of the controller, and the call it answers if it is solicited. -/
structure Delivered where
  raw : BitVec 64
  call : Nat
deriving DecidableEq

def Delivered.solicited (delivered : Delivered) : List Nat :=
  if (Response.decode delivered.raw).unsolicited then [] else [delivered.call]

/-- What the driver does next, with the polls it has left. -/
inductive Phase where
  | idle
  | space (verb : Verb) (polls : Nat)
  | response (verb : Verb) (polls : Nat)
deriving DecidableEq

/-- A call that has returned, and the word that was read last. -/
structure Finished where
  result : Except RingError Response
  read : Delivered
deriving DecidableEq

/-- An answer that was returned is the one to the call of this number. -/
def Finished.Owns (call : Finished) (number : Nat) : Prop :=
  ∀ response, call.result = .ok response →
    Response.decode call.read.raw = response ∧ call.read.call = number

structure CommandRings (corbSize rirbSize : RingSize) where
  corb : Fin corbSize.entries → Placed
  rirb : Fin rirbSize.entries → Delivered
  corbWritePointer : Fin corbSize.entries := 0
  corbReadPointer : Fin corbSize.entries := 0
  rirbWritePointer : Fin rirbSize.entries := 0
  rirbReadPointer : Fin rirbSize.entries := 0
  memoryError : Bool := false
  overrun : Bool := false
  unsolicitedDropped : Nat := 0
  /-- The verbs that the controller has taken and not yet answered. -/
  taken : List Placed := []
  phase : Phase := .idle
  finished : List Finished := []

inductive Label where
  | command (verb : Verb)
  | poll
  | take
  | answer (raw : BitVec 64)
  | unsolicited (raw : BitVec 64)
  | report (memoryError overrun : Bool)
deriving DecidableEq

namespace CommandRings

variable {corbSize rirbSize : RingSize}

section Driver

variable (rings : CommandRings corbSize rirbSize)

def checkStatus : Except RingError Unit :=
  if rings.memoryError then .error .corbMemoryError
  else if rings.overrun then .error .rirbOverrun
  else .ok ()

def corbHasSpace : Except RingError Bool := do
  rings.checkStatus
  return advance rings.corbWritePointer ≠ rings.corbReadPointer

def pollResponse (verb : Verb) :
    Except RingError (Option Response) × CommandRings corbSize rirbSize :=
  match rings.checkStatus with
  | .error error => (.error error, rings)
  | .ok () =>
    if rings.rirbWritePointer = rings.rirbReadPointer then (.ok none, rings)
    else
      let next := { rings with rirbReadPointer := advance rings.rirbReadPointer }
      let response := Response.decode (next.rirb next.rirbReadPointer).raw
      if response.unsolicited then
        (.ok none, { next with
          unsolicitedDropped := min (rings.unsolicitedDropped + 1) (2 ^ 64 - 1) })
      else if response.codec ≠ verb.codec then (.error .responseFromWrongCodec, next)
      else (.ok (some response), next)

def finish (result : Except RingError Response) : CommandRings corbSize rirbSize :=
  { rings with
    phase := .idle
    finished := rings.finished ++ [⟨result, rings.rirb rings.rirbReadPointer⟩] }

/-- The verb is written to the ring and shown to the controller. -/
def place (verb : Verb) : CommandRings corbSize rirbSize :=
  let next := advance rings.corbWritePointer
  { rings with
    corb := update rings.corb next ⟨verb, rings.finished.length⟩
    corbWritePointer := next
    phase := .response verb (fastPollCount + commandTimeoutMs) }

def poll : Option (CommandRings corbSize rirbSize) :=
  match rings.phase with
  | .idle => none
  | .space verb polls =>
    match rings.corbHasSpace, polls with
    | .error error, _ => some (rings.finish (.error error))
    | .ok true, _ => some (rings.place verb)
    | .ok false, 0 => some (rings.finish (.error .corbFull))
    | .ok false, polls + 1 => some { rings with phase := .space verb polls }
  | .response _ 0 => some (rings.finish (.error .responseTimeout))
  | .response verb (polls + 1) =>
    match rings.pollResponse verb with
    | (.error error, next) => some (next.finish (.error error))
    | (.ok (some response), next) => some (next.finish (.ok response))
    | (.ok none, next) => some { next with phase := .response verb polls }

/-- The controller writes a word unless that overruns the ring, and keeps the
other verbs it has taken. -/
def deliver (delivered : Delivered) (taken : List Placed) :
    Option (CommandRings corbSize rirbSize) :=
  let next := advance rings.rirbWritePointer
  if next = rings.rirbReadPointer then none
  else some { rings with
    rirb := update rings.rirb next delivered, rirbWritePointer := next, taken := taken }

def step : Label → Option (CommandRings corbSize rirbSize)
  | .command verb =>
    if rings.phase = .idle then
      match rings.checkStatus with
      | .error error => some (rings.finish (.error error))
      | .ok () => some { rings with phase := .space verb (fastPollCount + commandTimeoutMs) }
    else none
  | .poll => rings.poll
  | .take =>
    if rings.corbWritePointer = rings.corbReadPointer then none
    else
      let next := advance rings.corbReadPointer
      some { rings with corbReadPointer := next, taken := rings.taken ++ [rings.corb next] }
  | .answer raw =>
    match rings.taken with
    | [] => none
    | placed :: rest =>
      if (Response.decode raw).unsolicited = false ∧
          (Response.decode raw).codec = placed.verb.codec then
        rings.deliver ⟨raw, placed.call⟩ rest
      else none
  | .unsolicited raw =>
    if (Response.decode raw).unsolicited then rings.deliver ⟨raw, 0⟩ rings.taken else none
  | .report memoryError overrun =>
    some { rings with
      memoryError := rings.memoryError || memoryError, overrun := rings.overrun || overrun }

/-- No call has given up on its answer. -/
def Timely : Prop :=
  ∀ call ∈ rings.finished, call.result ≠ .error .responseTimeout

instance : Decidable rings.Timely :=
  inferInstanceAs (Decidable (∀ call ∈ rings.finished, _))

/-! ## Answers on their way -/

/-- The call that is owed an answer. -/
def awaited : List Nat :=
  match rings.phase with
  | .response _ _ => [rings.finished.length]
  | _ => []

/-- What the rings and the controller hold is owed to the present call. -/
def Tracked : Prop :=
  ∃ unread pending,
    Queued rings.rirb rings.rirbReadPointer rings.rirbWritePointer unread ∧
    Queued rings.corb rings.corbReadPointer rings.corbWritePointer pending ∧
    unread.flatMap Delivered.solicited ++ rings.taken.map Placed.call ++
      pending.map Placed.call = rings.awaited

/-- Every answer that was returned belongs to the call that returned it. -/
def Owned (finished : List Finished) : Prop :=
  ∀ (number : Nat) (call : Finished), finished[number]? = some call → call.Owns number

structure Invariant : Prop where
  owned : Owned rings.finished
  tracked : rings.checkStatus = .ok () → rings.Timely → rings.Tracked

end Driver

variable {rings next : CommandRings corbSize rirbSize} {verb : Verb} {polls : Nat}

variable {finished : List Finished}

theorem Owned.append (owned : Owned finished) {last : Finished} (own : last.Owns finished.length) :
    Owned (finished ++ [last]) := by
  intro number call found
  rcases Nat.lt_trichotomy number finished.length with earlier | rfl | later
  · rw [List.getElem?_append_left earlier] at found
    exact owned number call found
  · rw [List.getElem?_concat_length] at found
    cases found
    exact own
  · rw [List.getElem?_eq_none (by simpa using later)] at found
    cases found

theorem Tracked.setPhase {phase : Phase} (tracked : rings.Tracked)
    (same : awaited { rings with phase := phase, finished := finished } = rings.awaited) :
    Tracked { rings with phase := phase, finished := finished } := by
  obtain ⟨unread, pending, delivered, placed, owed⟩ := tracked
  exact ⟨unread, pending, delivered, placed, owed.trans same.symm⟩

/-- One poll while an answer is owed: it has not come, or it is read. -/
theorem pollResponse_tracked {answer : Except RingError (Option Response)}
    (tracked : rings.Tracked) (waiting : rings.phase = .response verb polls)
    (status : rings.checkStatus = .ok ()) (polled : rings.pollResponse verb = (answer, next)) :
    next.finished = rings.finished ∧
      (answer = .ok none ∧ (∀ polls, Tracked { next with phase := .response verb polls }) ∨
        answer ≠ .ok none ∧ Tracked { next with phase := .idle } ∧
          ∀ response, answer = .ok (some response) →
            Finished.Owns ⟨.ok response, next.rirb next.rirbReadPointer⟩ rings.finished.length) := by
  obtain ⟨unread, pending, delivered, placed, owed⟩ := tracked
  rw [awaited, waiting] at owed
  simp only [pollResponse, status] at polled
  split at polled
  · cases polled
    exact ⟨rfl, Or.inl ⟨rfl, fun _ => ⟨unread, pending, delivered, placed, owed⟩⟩⟩
  · next arrived =>
    obtain ⟨rest, rfl, later⟩ := delivered.pop arrived
    rw [← advance_eq] at later owed
    split at polled
    · next dropped =>
      cases polled
      rw [List.flatMap_cons, Delivered.solicited, if_pos dropped] at owed
      exact ⟨rfl, Or.inl ⟨rfl, fun _ => ⟨rest, pending, later, placed, owed⟩⟩⟩
    · next solicited =>
      rw [List.flatMap_cons, Delivered.solicited, if_neg solicited] at owed
      obtain ⟨own, others⟩ := List.cons.inj owed
      split at polled
      all_goals
        cases polled
        refine ⟨rfl, Or.inr ⟨nofun, ⟨rest, pending, later, placed, others⟩, ?_⟩⟩
        rintro _ ⟨⟩ _ ⟨⟩ <;> exact ⟨rfl, own⟩

section Step

variable (invariant : rings.Invariant) (timely : rings.Timely)

include invariant

/-- A call fails before its verb is placed, or because of the status. -/
theorem Invariant.fail {error : RingError}
    (early : rings.checkStatus = .ok () → rings.awaited = [] ∨ error = .responseTimeout) :
    (rings.finish (.error error)).Invariant := by
  refine ⟨invariant.owned.append nofun, fun status timely => ?_⟩
  rcases early status with nothing | rfl
  · exact (invariant.tracked status fun call member =>
      timely call (List.mem_append_left _ member)).setPhase nothing.symm
  · exact absurd rfl (timely _ (List.mem_append_right _ (List.mem_singleton_self _)))

include timely

theorem Invariant.space {phase : Phase} (status : rings.checkStatus = .ok ())
    (nothing : rings.awaited = []) (next : awaited { rings with phase := phase } = []) :
    Invariant { rings with phase := phase } :=
  ⟨invariant.owned, fun _ _ => (invariant.tracked status timely).setPhase (next.trans nothing.symm)⟩

theorem Invariant.place (status : rings.checkStatus = .ok ()) (nothing : rings.awaited = [])
    (room : advance rings.corbWritePointer ≠ rings.corbReadPointer) :
    (rings.place verb).Invariant := by
  obtain ⟨unread, pending, delivered, placed, owed⟩ := invariant.tracked status timely
  refine ⟨invariant.owned, fun _ _ =>
    ⟨unread, pending ++ [⟨verb, rings.finished.length⟩], delivered, ?_, ?_⟩⟩
  · rw [advance_eq] at room
    rw [CommandRings.place, advance_eq]
    exact placed.push room _
  · rw [nothing] at owed
    rw [List.map_append, ← List.append_assoc]
    exact congrArg (· ++ [rings.finished.length]) owed

theorem Invariant.poll (taken : rings.poll = some next) : next.Invariant := by
  unfold CommandRings.poll at taken
  cases status : rings.checkStatus with
  | error error =>
    simp only [corbHasSpace, pollResponse, status] at taken
    split at taken
    · cases taken
    all_goals
      cases taken
      exact invariant.fail (by simp [status])
  | ok _ =>
    simp only [corbHasSpace, status] at taken
    split at taken
    · cases taken
    · next verb polls waiting =>
      have nothing : rings.awaited = [] := by rw [awaited, waiting]
      split at taken
      · next failed => cases failed
      · next space =>
        cases taken
        exact invariant.place timely status nothing (of_decide_eq_true (Except.ok.inj space))
      · cases taken
        exact invariant.fail fun _ => Or.inl nothing
      · cases taken
        exact invariant.space timely status nothing rfl
    · cases taken
      exact invariant.fail fun _ => Or.inr rfl
    · next verb polls waiting =>
      cases polled : rings.pollResponse verb with
      | mk answer after =>
      rw [polled] at taken
      obtain ⟨same, ⟨rfl, later⟩ | ⟨something, later, own⟩⟩ :=
        pollResponse_tracked (invariant.tracked status timely) waiting status polled
      · cases taken
        exact ⟨same ▸ invariant.owned, fun _ _ => later _⟩
      · have owned := same ▸ invariant.owned
        match answer, something with
        | .error error, _ =>
          cases taken
          exact ⟨owned.append nofun, fun _ _ => later.setPhase rfl⟩
        | .ok (some response), _ =>
          cases taken
          exact ⟨owned.append (same ▸ own response rfl), fun _ _ => later.setPhase rfl⟩

theorem Invariant.deliver {delivered : Delivered} {taken : List Placed}
    (owed : delivered.solicited ++ taken.map Placed.call = rings.taken.map Placed.call)
    (wrote : rings.deliver delivered taken = some next) : next.Invariant := by
  simp only [CommandRings.deliver] at wrote
  split at wrote
  · cases wrote
  · next room =>
    cases wrote
    refine ⟨invariant.owned, fun status _ => ?_⟩
    obtain ⟨unread, pending, before, placed, all⟩ := invariant.tracked status timely
    refine ⟨unread ++ [delivered], pending, ?_, placed, ?_⟩
    · rw [advance_eq] at room ⊢
      exact before.push room delivered
    · rw [← owed] at all
      simpa [awaited] using all

theorem Invariant.step {label : Label} (taken : rings.step label = some next) : next.Invariant := by
  cases label with
  | command =>
    simp only [CommandRings.step] at taken
    split at taken
    · next idle =>
      have nothing : rings.awaited = [] := by rw [awaited, idle]
      split at taken
      · cases taken
        exact invariant.fail fun _ => Or.inl nothing
      · next status =>
        cases taken
        exact invariant.space timely status nothing rfl
    · cases taken
  | poll => exact invariant.poll timely taken
  | take =>
    simp only [CommandRings.step] at taken
    split at taken
    · cases taken
    · next shown =>
      cases taken
      refine ⟨invariant.owned, fun status _ => ?_⟩
      obtain ⟨unread, _, delivered, placed, owed⟩ := invariant.tracked status timely
      obtain ⟨rest, rfl, later⟩ := placed.pop shown
      rw [← advance_eq] at later owed
      exact ⟨unread, rest, delivered, later, by simpa [awaited] using owed⟩
  | answer raw =>
    simp only [CommandRings.step] at taken
    split at taken
    · cases taken
    · next placed rest isTaken =>
      split at taken
      · next solicited =>
        refine invariant.deliver timely ?_ taken
        rw [Delivered.solicited, solicited.1, isTaken]
        rfl
      · cases taken
  | unsolicited raw =>
    simp only [CommandRings.step] at taken
    split at taken
    · next dropped =>
      refine invariant.deliver timely ?_ taken
      rw [Delivered.solicited, if_pos dropped]
      rfl
    · cases taken
  | report =>
    cases taken
    refine ⟨invariant.owned, fun status => invariant.tracked ?_⟩
    simp only [checkStatus] at status ⊢
    grind

end Step

/-- The rings of a controller that has been started. -/
def started (corb : Fin corbSize.entries → Placed) (rirb : Fin rirbSize.entries → Delivered) :
    CommandRings corbSize rirbSize where
  corb := corb
  rirb := rirb

variable {corb : Fin corbSize.entries → Placed} {rirb : Fin rirbSize.entries → Delivered}

/-- Every call returns the answer to its own verb, in a run in which none has
given up on its answer. -/
theorem answers_own {labels : List Label} {final : CommandRings corbSize rirbSize}
    (reached : exec step (started corb rirb) labels = some final)
    (timely : Guarded step (fun rings _ => rings.Timely) (started corb rirb) labels) :
    Owned final.finished := by
  have initially : (started corb rirb).Invariant :=
    ⟨nofun, fun _ _ => ⟨[], [], queued_nil _ _, queued_nil _ _, rfl⟩⟩
  exact (invariant_of_guarded (fun _ _ _ invariant timely taken => invariant.step timely taken)
    initially timely reached).owned

/-- Two verbs to codec 0, an unsolicited word between the answers. -/
def twoAnswers : List Label :=
  [.command ⟨0xf0000⟩, .poll, .take, .answer 0x10ec, .poll, .command ⟨0xf0002⟩, .poll,
    .unsolicited 0x1000000000, .poll, .take, .answer 0x100, .poll]

def silent (size : RingSize) : CommandRings size size :=
  started (fun _ => ⟨⟨0⟩, 0⟩) (fun _ => ⟨0, 0⟩)

theorem twoAnswers_own :
    ∃ final, exec step (silent .entries16) twoAnswers = some final ∧
      final.finished.map Finished.result =
        [.ok ⟨0x10ec, 0, false⟩, .ok ⟨0x100, 0, false⟩] ∧ Owned final.finished := by
  refine exists_reached (by decide +kernel) fun final reached => ?_
  exact ⟨of_reached reached (by decide +kernel), answers_own reached (by decide +kernel)⟩

/-- The first call gives up before its answer comes, and the second takes it. -/
def lateAnswer : List Label :=
  .command ⟨0xf0000⟩ :: List.replicate 1126 .poll ++
    [.command ⟨0xf0002⟩, .poll, .take, .answer 0x10ec, .poll]

theorem lateAnswer_not_own :
    ∃ final, exec step (silent .entries16) lateAnswer = some final ∧
      final.finished = [⟨.error .responseTimeout, 0, 0⟩, ⟨.ok ⟨0x10ec, 0, false⟩, 0x10ec, 0⟩] ∧
      ¬ Owned final.finished := by
  refine exists_reached (by decide +kernel) fun final reached => ?_
  have calls : final.finished =
      [⟨.error .responseTimeout, 0, 0⟩, ⟨.ok ⟨0x10ec, 0, false⟩, 0x10ec, 0⟩] :=
    of_reached reached (by decide +kernel)
  refine ⟨calls, fun owned => ?_⟩
  obtain ⟨_, own⟩ := owned 1 _ (by rw [calls]; rfl) _ rfl
  cases own

end CommandRings

end Xenith.Audio
