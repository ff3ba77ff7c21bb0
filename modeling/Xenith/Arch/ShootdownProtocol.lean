import Xenith.Lib.Execution
import Xenith.Arch.ShootdownEffect

/-!
# No old translation survives a shootdown

While a call runs, every other processor with an old translation shows the
affected root, is one of the targets, and has not acknowledged the current
generation.  This needs that a processor which runs the root of a changed user
leaf shows it in its slot, and that no drawn generation is still held by a
target.
-/

namespace Xenith.Arch

namespace Machine

/-- What a processor has read of one mailbox. -/
def view (machine : Machine) (source cpu : Cpu) : Option Phase :=
  match (machine.cpus cpu).service with
  | some service => if service.source = source.val then some service.phase else none
  | none => none

def Holds (machine : Machine) (source cpu : Cpu) (generation : Generation) : Prop :=
  (machine.view source cpu).bind Phase.generation? = some generation

/-- The generation that the next call of a source draws. -/
def drawnGeneration (request : TlbRequest) : Generation :=
  if request.sequence + 1 = 0 then 1 else request.sequence + 1

/-- At a change of user leaves, every other processor that runs the root
shows it. -/
def RootsShown (machine : Machine) : Label → Prop
  | .change cpu kind cr3 _ _ =>
    kind.isAddressSpaceSpecific = true → ∀ other, other ≠ cpu →
      normaliseCr3 (machine.cpus other).cr3 = normaliseCr3 cr3 →
        normaliseCr3 (machine.activeCr3 other) = normaliseCr3 cr3
  | _ => True

/-- No processor still holds the generation that a call is about to
draw. -/
def GenerationFresh (machine : Machine) : Label → Prop
  | .advance cpu =>
    match (machine.cpus cpu).control with
    | .shooting _ (.drawing _) =>
      ∀ other, ¬machine.Holds cpu other (drawnGeneration (machine.requests cpu))
    | _ => True
  | _ => True

instance (machine : Machine) : DecidablePred machine.RootsShown := by
  intro label
  cases label <;> unfold RootsShown <;> infer_instance

instance (machine : Machine) : DecidablePred machine.GenerationFresh := by
  intro label
  unfold GenerationFresh
  split
  · split
    · unfold Holds
      infer_instance
    · infer_instance
  · infer_instance

/-! ## The invariant of one mailbox -/

section Pieces

variable (machine : Machine) (cpu : Cpu) (call : Call)

/-- No call of the source is between its draw and its publication. -/
def Synced : Prop :=
  (machine.requests cpu).published = (machine.requests cpu).sequence

/-- Every other processor with an old translation is a target. -/
def Targeted (targets : Cpu → Bool) : Prop :=
  ∀ other, other ≠ cpu → machine.Stale call other → targets other = true

/-- The drawn generation is neither published nor held. -/
structure Drawn (generation : Generation) : Prop where
  unpublished : (machine.requests cpu).published ≠ generation
  unheld : ∀ other, ¬machine.Holds cpu other generation

def Unacked (round : Round) (limit : Nat) : Prop :=
  ∀ other : Cpu, round.targets other = true → other.val < limit →
    machine.acks cpu other ≠ round.generation

/-- The fields before the next one to be stored are in place. -/
def Stored : MailboxField → Prop
  | .cr3 => True
  | .address => (machine.requests cpu).cr3 = normaliseCr3 call.cr3
  | .targets =>
    (machine.requests cpu).cr3 = normaliseCr3 call.cr3 ∧
      (machine.requests cpu).address = call.address
  | .kind =>
    (machine.requests cpu).cr3 = normaliseCr3 call.cr3 ∧
      (machine.requests cpu).address = call.address
  | .published =>
    (machine.requests cpu).cr3 = normaliseCr3 call.cr3 ∧
      (machine.requests cpu).address = call.address ∧ (machine.requests cpu).kind = call.kind.toRaw

/-- What a processor has read under the current generation is the call, and
once it has applied it, its old translations are gone. -/
def Follows (generation : Generation) : Phase → Prop
  | .loadCr3 held kind => held = generation → kind = call.kind
  | .loadAddress held kind cr3 => held = generation → kind = call.kind ∧ cr3 = normaliseCr3 call.cr3
  | .apply held kind cr3 address =>
    held = generation → kind = call.kind ∧ cr3 = normaliseCr3 call.cr3 ∧ address = call.address
  | .storeAck held => held = generation → ¬machine.Stale call cpu
  | _ => True

/-- The call is published. -/
structure Announced (round : Round) : Prop where
  sequence : (machine.requests cpu).sequence = round.generation
  published : (machine.requests cpu).published = round.generation
  kind : (machine.requests cpu).kind = call.kind.toRaw
  cr3 : (machine.requests cpu).cr3 = normaliseCr3 call.cr3
  address : (machine.requests cpu).address = call.address
  targeted : machine.Targeted cpu call round.targets
  acked : ∀ other, round.targets other = true →
    machine.acks cpu other = round.generation → ¬machine.Stale call other
  followed : ∀ other phase, machine.view cpu other = some phase →
    machine.Follows other call round.generation phase

def StageHolds : Stage → Prop
  | .entered => machine.Synced cpu
  | .sampling _ targets => machine.Synced cpu ∧ machine.Targeted cpu call targets
  | .selected targets => machine.Synced cpu ∧ machine.Targeted cpu call targets
  | .drawing targets => machine.Synced cpu ∧ machine.Targeted cpu call targets
  | .restarting targets => machine.Targeted cpu call targets ∧ machine.Drawn cpu 1
  | .resetting round next =>
    (machine.requests cpu).sequence = round.generation ∧ machine.Targeted cpu call round.targets ∧
      machine.Drawn cpu round.generation ∧ machine.Unacked cpu round next
  | .storing round field =>
    (machine.requests cpu).sequence = round.generation ∧ machine.Targeted cpu call round.targets ∧
      machine.Drawn cpu round.generation ∧
        machine.Unacked cpu round maxCpus ∧ machine.Stored cpu call field
  | .applying none => machine.Synced cpu ∧ ∀ other, other ≠ cpu → ¬machine.Stale call other
  | .applying (some round) => machine.Announced cpu call round
  | .waiting round next =>
    machine.Announced cpu call round ∧
      ∀ other : Cpu, other = cpu ∨ other.val < next → ¬machine.Stale call other
  | .rechecking round next =>
    machine.Announced cpu call round ∧
      ∀ other : Cpu, other = cpu ∨ other.val < next → ¬machine.Stale call other
  | .returned => machine.Synced cpu ∧ ∀ other, ¬machine.Stale call other

/-- The change lies in the past, the other processors with old translations
show the root, and the stage has reached what it should. -/
structure CallHolds (stage : Stage) : Prop where
  changed : call.changedAt ≤ machine.clock
  shown : ∀ other, other ≠ cpu → machine.Stale call other → machine.ShowsRoot call other
  stage : machine.StageHolds cpu call stage

def Protocol : Prop :=
  match (machine.cpus cpu).control with
  | .running => machine.Synced cpu
  | .shooting call stage => machine.CallHolds cpu call stage

end Pieces

/-! ## What the other processors can do to a mailbox -/

/-- How the view of a mailbox can arise in one step. -/
inductive Successor (machine next : Machine) (source cpu : Cpu) : Phase → Prop where
  | same {phase} (before : machine.view source cpu = some phase) :
      Successor machine next source cpu phase
  | started : Successor machine next source cpu .loadPublished
  | published : Successor machine next source cpu (.loadTargets (machine.requests source).published)
  | targeted {generation} (before : machine.view source cpu = some (.loadTargets generation)) :
      Successor machine next source cpu (.loadAck generation)
  | unacked {generation} (before : machine.view source cpu = some (.loadAck generation)) :
      Successor machine next source cpu (.loadKind generation)
  | kind {generation kind} (before : machine.view source cpu = some (.loadKind generation))
      (read : ShootdownKind.fromRaw (machine.requests source).kind = some kind) :
      Successor machine next source cpu (.loadCr3 generation kind)
  | unknown {generation} (before : machine.view source cpu = some (.loadKind generation))
      (read : ShootdownKind.fromRaw (machine.requests source).kind = none) :
      Successor machine next source cpu (.storeAck generation)
  | cr3 {generation kind} (before : machine.view source cpu = some (.loadCr3 generation kind)) :
      Successor machine next source cpu (.loadAddress generation kind (machine.requests source).cr3)
  | address {generation kind cr3}
      (before : machine.view source cpu = some (.loadAddress generation kind cr3)) :
      Successor machine next source cpu
        (.apply generation kind cr3 (machine.requests source).address)
  | applied {generation kind cr3 address}
      (before : machine.view source cpu = some (.apply generation kind cr3 address))
      (flushed : ∀ call : Call, kind = call.kind →
        cr3 = normaliseCr3 call.cr3 → address = call.address → ¬next.Stale call cpu) :
      Successor machine next source cpu (.storeAck generation)

/-- A step that leaves the mailbox alone, except that processors serve
it. -/
structure Frame (machine next : Machine) (source : Cpu) : Prop where
  request : next.requests source = machine.requests source
  acks : ∀ cpu, next.acks source cpu = machine.acks source cpu ∨
    machine.view source cpu = some (.storeAck (next.acks source cpu))
  views : ∀ cpu phase, next.view source cpu = some phase → Successor machine next source cpu phase

section FrameRules

variable {machine next : Machine} {source cpu : Cpu} {call : Call}

theorem holds_of_view
    {phase : Phase} {generation : Generation} (viewed : machine.view source cpu = some phase)
    (held : phase.generation? = some generation) :
    machine.Holds source cpu generation := by
  unfold Holds
  rw [viewed]
  exact held

/-- A held generation was held before, or is the published one. -/
theorem Successor.generation
    {phase : Phase} {generation : Generation} (successor : Successor machine next source cpu phase)
    (held : phase.generation? = some generation) :
    machine.Holds source cpu generation ∨ generation = (machine.requests source).published := by
  cases successor with
  | started => cases held
  | published =>
    cases held
    exact Or.inr rfl
  | same before | targeted before | unacked before | kind before
    | unknown before | cr3 before | address before | applied before =>
      exact Or.inl (holds_of_view before held)

theorem Drawn.frame {generation : Generation} (drawn : machine.Drawn source generation)
    (frame : Frame machine next source) :
    next.Drawn source generation where
  unpublished := by
    rw [frame.request]
    exact drawn.unpublished
  unheld := by
    intro cpu holds
    obtain ⟨phase, viewed, held⟩ := Option.bind_eq_some_iff.mp holds
    rcases (frame.views cpu phase viewed).generation held with
      before | published
    · exact drawn.unheld cpu before
    · exact drawn.unpublished published.symm

theorem Unacked.frame {round : Round} {limit : Nat} (unacked : machine.Unacked source round limit)
    (drawn : machine.Drawn source round.generation) (frame : Frame machine next source) :
    next.Unacked source round limit := by
  intro cpu targeted inside acked
  rcases frame.acks cpu with same | stored
  · rw [same] at acked
    exact unacked cpu targeted inside acked
  · rw [acked] at stored
    exact drawn.unheld cpu (holds_of_view stored rfl)

theorem Targeted.settle {targets : Cpu → Bool} (targeted : machine.Targeted source call targets)
    (settles : Settles machine next) (changed : call.changedAt ≤ machine.clock) :
    next.Targeted source call targets := by
  intro other different stale
  exact targeted other different (settles.stale changed stale)

theorem Announced.frame {round : Round} (announced : machine.Announced source call round)
    (frame : Frame machine next source) (settles : Settles machine next)
    (changed : call.changedAt ≤ machine.clock) :
    next.Announced source call round where
  sequence := frame.request ▸ announced.sequence
  published := frame.request ▸ announced.published
  kind := frame.request ▸ announced.kind
  cr3 := frame.request ▸ announced.cr3
  address := frame.request ▸ announced.address
  targeted := announced.targeted.settle settles changed
  acked := by
    intro cpu targeted acked stale
    have before := settles.stale changed stale
    rcases frame.acks cpu with same | stored
    · rw [same] at acked
      exact announced.acked cpu targeted acked before
    · rw [acked] at stored
      exact announced.followed cpu _ stored rfl before
  followed := by
    intro cpu phase viewed
    cases frame.views cpu phase viewed with
    | same before =>
      have follows := announced.followed cpu phase before
      cases phase with
      | storeAck =>
        intro current stale
        exact follows current (settles.stale changed stale)
      | loadPublished | loadTargets | loadAck | loadKind => trivial
      | loadCr3 | loadAddress | apply => exact follows
    | started | published | targeted | unacked => trivial
    | kind before read =>
      intro current
      rw [announced.kind, ShootdownKind.fromRaw_toRaw, Option.some.injEq] at read
      exact read.symm
    | unknown before read =>
      rw [announced.kind, ShootdownKind.fromRaw_toRaw] at read
      cases read
    | cr3 before =>
      intro current
      exact ⟨announced.followed cpu _ before current, announced.cr3⟩
    | address before =>
      intro current
      obtain ⟨kindRead, cr3Read⟩ := announced.followed cpu _ before current
      exact ⟨kindRead, cr3Read, announced.address⟩
    | applied before flushed =>
      intro current
      obtain ⟨kindRead, cr3Read, addressRead⟩ := announced.followed cpu _ before current
      exact flushed call kindRead cr3Read addressRead

theorem StageHolds.frame {stage : Stage} (holds : machine.StageHolds source call stage)
    (frame : Frame machine next source) (settles : Settles machine next)
    (changed : call.changedAt ≤ machine.clock) :
    next.StageHolds source call stage := by
  have synced : machine.Synced source → next.Synced source := by
    intro before
    unfold Synced
    rw [frame.request]
    exact before
  have notStale : ∀ other, ¬machine.Stale call other → ¬next.Stale call other :=
    fun other before stale => before (settles.stale changed stale)
  cases stage with
  | entered => exact synced holds
  | sampling | selected | drawing => exact ⟨synced holds.1, holds.2.settle settles changed⟩
  | restarting targets => exact ⟨holds.1.settle settles changed, holds.2.frame frame⟩
  | resetting round =>
    obtain ⟨sequence, targeted, drawn, unacked⟩ := holds
    refine ⟨?_, targeted.settle settles changed, drawn.frame frame, unacked.frame drawn frame⟩
    rw [frame.request]
    exact sequence
  | storing round field =>
    obtain ⟨sequence, targeted, drawn, unacked, stored⟩ := holds
    refine ⟨?_, targeted.settle settles changed, drawn.frame frame, unacked.frame drawn frame, ?_⟩
    · rw [frame.request]
      exact sequence
    · cases field with
      | cr3 => trivial
      | address | targets | kind | published => simpa only [Stored, frame.request] using stored
  | applying round =>
    cases round with
    | none =>
      exact ⟨synced holds.1, fun other different => notStale other (holds.2 other different)⟩
    | some round => exact Announced.frame holds frame settles changed
  | waiting | rechecking =>
    exact ⟨holds.1.frame frame settles changed, fun other passed =>
      notStale other (holds.2 other passed)⟩
  | returned => exact ⟨synced holds.1, fun other => notStale other (holds.2 other)⟩

theorem CallHolds.settle {stage later : Stage} (holds : machine.CallHolds source call stage)
    (settles : Settles machine next) (stageHolds : next.StageHolds source call later) :
    next.CallHolds source call later := by
  refine ⟨Nat.le_trans holds.changed settles.clock, ?_, stageHolds⟩
  intro other different stale
  exact settles.showsRoot stale (holds.shown other different (settles.stale holds.changed stale))

/-- Steps of other processors keep the invariant of a mailbox. -/
theorem Protocol.frame (protocol : machine.Protocol source) (frame : Frame machine next source)
    (settles : Settles machine next)
    (control : (next.cpus source).control = (machine.cpus source).control) :
    next.Protocol source := by
  unfold Protocol at protocol ⊢
  rw [control]
  cases current : (machine.cpus source).control with
  | running =>
    rw [current] at protocol
    unfold Synced
    rw [frame.request]
    exact protocol
  | shooting call stage =>
    rw [current] at protocol
    have holds : machine.CallHolds source call stage := protocol
    exact holds.settle settles (holds.stage.frame frame settles holds.changed)

end FrameRules

end Machine

end Xenith.Arch
