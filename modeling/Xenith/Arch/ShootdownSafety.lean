import Xenith.Arch.ShootdownProtocol

/-!
# Every step keeps the mailbox invariants

The steps of a target are frames for every mailbox; the steps of a source are
checked stage by stage.
-/

namespace Xenith.Arch

open CpuState
open Execution

namespace Machine

/-! ## Frames -/

variable {state : CpuState}

section Frames

variable {machine next : Machine} {source : Cpu} {cpu : Cpu} {service : Service}

/-- A service that does not move, ends, or starts with another source. -/
theorem successor_of_service {phase : Phase}
    (service : (next.cpus cpu).service = (machine.cpus cpu).service ∨
      (next.cpus cpu).service = none ∨
        ∃ position, (next.cpus cpu).service = some ⟨position, .loadPublished⟩)
    (viewed : next.view source cpu = some phase) :
    Successor machine next source cpu phase := by
  unfold view at viewed
  rcases service with same | ended | ⟨position, started⟩
  · rw [same] at viewed
    exact .same viewed
  · rw [ended] at viewed
    cases viewed
  · rw [started] at viewed
    simp only at viewed
    split at viewed
    · cases viewed
      exact .started
    · cases viewed

theorem frame_of_same (request : next.requests source = machine.requests source)
    (acks : next.acks source = machine.acks source)
    (services : ∀ cpu, (next.cpus cpu).service = (machine.cpus cpu).service ∨
      (next.cpus cpu).service = none ∨
        ∃ position, (next.cpus cpu).service = some ⟨position, .loadPublished⟩) :
    Frame machine next source where
  request := request
  acks := fun cpu => Or.inl (congrFun acks cpu)
  views := fun cpu _ => successor_of_service (services cpu)

theorem setCpu_service (service : state.service = (machine.cpus cpu).service) (other : Cpu) :
    ((machine.setCpu cpu state).cpus other).service = (machine.cpus other).service :=
  forall_setCpu
    (motive := fun other state => state.service = (machine.cpus other).service)
    service (fun _ => rfl) other

theorem frame_setCpu
    (service : state.service = (machine.cpus cpu).service ∨
      state.service = none ∨ ∃ position, state.service = some ⟨position, .loadPublished⟩) :
    Frame machine (machine.setCpu cpu state) source :=
  frame_of_same rfl rfl
    (forall_setCpu
      (motive := fun other state =>
        state.service = (machine.cpus other).service ∨
          state.service = none ∨ ∃ position, state.service = some ⟨position, .loadPublished⟩)
      service fun _ => Or.inl rfl)

theorem frame_skip {position : Nat} :
    Frame machine (machine.setService cpu (some ⟨position, .loadPublished⟩)) source :=
  frame_setCpu (Or.inr (Or.inr ⟨position, rfl⟩))

/-- The store of an acknowledgement, followed by the next source. -/
theorem frame_storeAck {served : Cpu} {generation : Generation} {position : Nat}
    (serving : (machine.cpus cpu).service = some ⟨served.val, .storeAck generation⟩) :
    Frame machine ((machine.setAck served cpu generation).setService cpu
      (some ⟨position, .loadPublished⟩)) source where
  request := rfl
  acks := by
    intro other
    change (machine.setAck served cpu generation).acks source other = machine.acks source other ∨
      machine.view source other =
        some (.storeAck ((machine.setAck served cpu generation).acks source other))
    by_cases here : source = served
    · subst here
      by_cases same : other = cpu
      · subst same
        simp [setAck, view, serving]
      · simp [setAck, same]
    · simp [setAck, here]
  views := by
    intro other seen viewed
    refine successor_of_service ?_ viewed
    by_cases same : other = cpu
    · subst same
      simp [setService]
    · refine Or.inl ?_
      unfold setService
      rw [setCpu_other _ _ same]
      rfl

section Serving

variable (serving : (machine.cpus cpu).service = some service)

include serving

theorem frame_proceed {phase : Phase} (proceeds : state.service = some ⟨service.source, phase⟩)
    (successor :
      service.source = source.val → Successor machine (machine.setCpu cpu state) source cpu phase) :
    Frame machine (machine.setCpu cpu state) source where
  request := rfl
  acks := fun _ => Or.inl rfl
  views := by
    intro other seen viewed
    by_cases same : other = cpu
    · subst same
      unfold view at viewed
      rw [setCpu_same, proceeds] at viewed
      simp only at viewed
      split at viewed
      · rename_i here
        cases viewed
        exact successor here
      · cases viewed
    · unfold view at viewed
      rw [setCpu_other machine state same] at viewed
      exact .same viewed

theorem frame_serve : Frame machine (machine.serve cpu service) source := by
  unfold serve
  split
  · rename_i inside
    have here : service.source = source.val → (⟨service.source, inside⟩ : Cpu) = source :=
      fun same => Fin.ext same
    have viewed : service.source = source.val → machine.view source cpu = some service.phase := by
      intro same
      simp [view, serving, same]
    generalize phase : service.phase = current at viewed ⊢
    cases current with
    | loadPublished =>
      simp only
      split
      · exact frame_skip
      · refine frame_proceed serving rfl ?_
        intro same
        rw [here same]
        exact .published
    | loadTargets generation =>
      simp only
      split
      · exact frame_proceed serving rfl fun same => Successor.targeted (viewed same)
      · exact frame_skip
    | loadAck generation =>
      simp only
      split
      · exact frame_skip
      · exact frame_proceed serving rfl fun same => Successor.unacked (viewed same)
    | loadKind generation =>
      simp only
      split
      · rename_i kind read
        refine frame_proceed serving rfl ?_
        intro same
        rw [here same] at read
        exact .kind (viewed same) read
      · rename_i read
        refine frame_proceed serving rfl ?_
        intro same
        rw [here same] at read
        exact .unknown (viewed same) read
    | loadCr3 generation kind =>
      refine frame_proceed serving rfl ?_
      intro same
      rw [here same]
      exact Successor.cr3 (viewed same)
    | loadAddress generation kind cr3 =>
      refine frame_proceed serving rfl ?_
      intro same
      rw [here same]
      exact .address (viewed same)
    | apply generation kind cr3 address =>
      refine frame_proceed serving rfl ?_
      intro same
      refine .applied (viewed same) ?_
      rintro call rfl rfl rfl
      exact
        not_stale_applyShootdown (normaliseCr3_normaliseCr3 call.cr3) rfl (applyShootdown_cr3 ..)
    | storeAck generation =>
      apply frame_storeAck
      rw [serving, ← phase]
  · exact frame_setCpu (Or.inr (Or.inl rfl))

end Serving

end Frames

theorem setCpu_control (machine : Machine) {cpu : Cpu}
    (control : state.control = (machine.cpus cpu).control) (other : Cpu) :
    ((machine.setCpu cpu state).cpus other).control = (machine.cpus other).control :=
  forall_setCpu
    (motive := fun other state => state.control = (machine.cpus other).control)
    control (fun _ => rfl) other

theorem setService_control
    (machine : Machine) (cpu : Cpu) (service : Option Service) (other : Cpu) :
    ((machine.setService cpu service).cpus other).control = (machine.cpus other).control :=
  setCpu_control machine (by rfl) other

theorem serve_control (machine : Machine) (cpu : Cpu) (service : Service) (other : Cpu) :
    ((machine.serve cpu service).cpus other).control = (machine.cpus other).control := by
  unfold serve
  split
  · cases service.phase with
    | apply generation =>
      refine setCpu_control machine ?_ other
      exact applyShootdown_control ..
    | storeAck generation => exact setService_control (machine.setAck _ cpu generation) ..
    | loadPublished | loadTargets | loadAck | loadKind =>
      simp only
      split <;> exact setService_control ..
    | loadCr3 | loadAddress => exact setService_control ..
  · exact setService_control ..

/-- A source touches no mailbox but its own. -/
theorem shoot_other (machine : Machine) {cpu source : Cpu} (call : Call) (stage : Stage)
    (different : source ≠ cpu) :
    Frame machine (machine.shoot cpu call stage) source ∧
      ((machine.shoot cpu call stage).cpus source).control = (machine.cpus source).control := by
  have stagePlain :
      ∀ stage, Frame machine (machine.setStage cpu call stage) source ∧
        ((machine.setStage cpu call stage).cpus source).control =
          (machine.cpus source).control := by
    intro stage
    refine ⟨frame_setCpu (Or.inl rfl), ?_⟩
    unfold setStage
    rw [setCpu_other machine _ different]
  have stageRequest :
      ∀ request stage,
        Frame machine ((machine.setRequest cpu request).setStage cpu call stage) source ∧
          (((machine.setRequest cpu request).setStage cpu call
            stage).cpus source).control = (machine.cpus source).control := by
    intro request stage
    refine ⟨frame_of_same ?_ rfl ?_, ?_⟩
    · simp [setStage, setCpu, setRequest, different]
    · exact fun other => Or.inl (setCpu_service (by rfl) other)
    · exact congrArg control (setCpu_other _ _ different)
  cases stage with
  | entered | selected => exact stagePlain _
  | sampling | rechecking =>
    simp only [shoot]
    split <;> exact stagePlain _
  | drawing | restarting | storing => exact stageRequest _ _
  | resetting round next =>
    simp only [shoot]
    split
    · split
      · refine ⟨frame_of_same rfl ?_ ?_, ?_⟩
        · simp [setStage, setCpu, setAck, different]
        · exact fun other => Or.inl (setCpu_service (by rfl) other)
        · exact congrArg control (setCpu_other _ _ different)
      · exact stagePlain _
    · exact stagePlain _
  | applying round =>
    refine ⟨frame_setCpu (Or.inl ?_), ?_⟩
    · exact applyShootdown_service ..
    · exact congrArg control (setCpu_other _ _ different)
  | waiting round next =>
    simp only [shoot]
    split
    · split
      · refine ⟨frame_setCpu (Or.inr (Or.inr ⟨0, rfl⟩)), ?_⟩
        exact congrArg control (setCpu_other _ _ different)
      · exact stagePlain _
    · exact stagePlain _
  | returned =>
    refine ⟨frame_setCpu (Or.inl rfl), ?_⟩
    exact congrArg control (setCpu_other _ _ different)

/-! ## The steps of a source -/

section Source

variable {machine : Machine} {cpu : Cpu} {call : Call} {other : Cpu} {stage : Stage} {round : Round}

/-- The condition about the slot of one processor, as the source reads
it. -/
theorem shootdownTargetsActiveRoot_of_showsRoot (shows : machine.ShowsRoot call other) :
    shootdownTargetsActiveRoot call.kind call.cr3 (machine.activeCr3 other) = true := by
  unfold shootdownTargetsActiveRoot
  cases specific : call.kind.isAddressSpaceSpecific with
  | false => rfl
  | true => simpa using shows specific

theorem targeted_online
    (offline : ∀ other, machine.online other = false → (machine.cpus other).tlb = []) :
    machine.Targeted cpu call fun other => machine.online other && decide (other ≠ cpu) := by
  rintro other different ⟨_, member, _⟩
  cases online : machine.online other with
  | false =>
    rw [offline other online] at member
    cases member
  | true => simp [online, different]

theorem targeted_sample {targets : Cpu → Bool} (targeted : machine.Targeted cpu call targets)
    (shown : ∀ other, other ≠ cpu → machine.Stale call other → machine.ShowsRoot call other) :
    machine.Targeted cpu call
      (if targets other &&
          !shootdownTargetsActiveRoot call.kind call.cr3 (machine.activeCr3 other) then
        Function.update targets other false
       else targets) := by
  intro tested different stale
  have before := targeted tested different stale
  have shows := shootdownTargetsActiveRoot_of_showsRoot (shown tested different stale)
  split
  · rename_i dropped
    by_cases same : tested = other
    · subst same
      simp [shows] at dropped
    · rw [Function.update_of_ne same]
      exact before
  · exact before

theorem drawn_of_synced (request : TlbRequest) (synced : machine.Synced cpu)
    (fresh : ∀ other, ¬machine.Holds cpu other (drawnGeneration (machine.requests cpu)))
    (published : request.published = (machine.requests cpu).published) :
    (machine.setRequest cpu request).Drawn cpu (drawnGeneration (machine.requests cpu)) where
  unpublished := by
    have same :
        ((machine.setRequest cpu request).requests cpu).published =
          (machine.requests cpu).sequence := by
      simp only [setRequest, Function.update_self]
      rw [published]
      exact synced
    rw [same]
    unfold drawnGeneration
    split
    · rename_i wrapped
      intro equal
      rw [equal] at wrapped
      revert wrapped
      decide
    · intro equal
      simp at equal
  unheld := fresh

theorem Unacked.reset (unacked : machine.Unacked cpu round other.val) :
    (machine.setAck cpu other (round.generation - 1)).Unacked cpu round (other.val + 1) := by
  intro tested targeted inside
  by_cases same : tested = other
  · subst same
    simp [setAck]
  · have before : tested.val < other.val := by
      have different : tested.val ≠ other.val := fun equal => same (Fin.ext equal)
      omega
    simpa [setAck, same] using unacked tested targeted before

theorem Unacked.skip (other : Cpu) (unacked : machine.Unacked cpu round other.val)
    (untargeted : ¬round.targets other = true) :
    machine.Unacked cpu round (other.val + 1) := by
  intro tested targeted inside
  by_cases same : tested = other
  · subst same
    exact absurd targeted untargeted
  · have different : tested.val ≠ other.val := fun equal => same (Fin.ext equal)
    exact unacked tested targeted (by omega)

theorem stageHolds_storeField
    {field : MailboxField} (holds : machine.StageHolds cpu call (.storing round field)) :
    (machine.setRequest cpu (storeField (machine.requests cpu) call round field)).StageHolds
      cpu call (afterField round field) := by
  obtain ⟨sequence, targeted, drawn, unacked, stored⟩ := holds
  cases field with
  | cr3 =>
    refine ⟨?_, targeted, ⟨?_, drawn.unheld⟩, unacked, ?_⟩
    · simpa [setRequest, storeField] using sequence
    · simpa [setRequest, storeField] using drawn.unpublished
    · simp [Stored, setRequest, storeField]
  | address | targets | kind =>
    refine ⟨?_, targeted, ⟨?_, drawn.unheld⟩, unacked, ?_⟩
    · simpa [setRequest, storeField] using sequence
    · simpa [setRequest, storeField] using drawn.unpublished
    · simpa [Stored, setRequest, storeField] using stored
  | published =>
    obtain ⟨cr3Stored, addressStored, kindStored⟩ := stored
    refine ⟨?_, ?_, ?_, ?_, ?_, targeted, ?_, ?_⟩
    · simpa [setRequest, storeField] using sequence
    · simp [setRequest, storeField]
    · simpa [setRequest, storeField] using kindStored
    · simpa [setRequest, storeField] using cr3Stored
    · simpa [setRequest, storeField] using addressStored
    · intro other isTarget acked
      exact absurd acked (unacked other isTarget other.isLt)
    · intro other phase viewed
      have unheld :
          ∀ generation, phase.generation? = some generation → generation ≠ round.generation := by
        rintro generation held rfl
        exact drawn.unheld other (holds_of_view viewed held)
      cases phase with
      | loadPublished | loadTargets | loadAck | loadKind => trivial
      | loadCr3 generation | loadAddress generation | apply generation
        | storeAck generation => exact fun current => absurd current (unheld generation rfl)

theorem protocol_apply {round : Option Round} (holds : machine.CallHolds cpu call (.applying round))
    (publishes : machine.PublishesRoot) :
    (machine.shoot cpu call (.applying round)).Protocol cpu := by
  have applied :
      Settles machine (machine.shoot cpu call (.applying round)) ∧
        (machine.shoot cpu call (.applying round)).PublishesRoot :=
    settles_apply publishes rfl (applyShootdown_cr3 ..) rfl
  have settles := applied.1
  have frame : Frame machine (machine.shoot cpu call (.applying round)) cpu :=
    frame_setCpu (Or.inl (applyShootdown_service ..))
  have flushed : ¬(machine.shoot cpu call (.applying round)).Stale call cpu :=
    not_stale_applyShootdown rfl rfl (applyShootdown_cr3 ..)
  have kept := holds.stage.frame frame settles holds.changed
  have control :
      ((machine.shoot cpu call (.applying round)).cpus cpu).control =
        .shooting call (afterApply round) := by
    simp [shoot]
  unfold Protocol
  rw [control]
  refine holds.settle settles ?_
  cases round with
  | none =>
    refine ⟨kept.1, ?_⟩
    intro other
    by_cases same : other = cpu
    · subst same
      exact flushed
    · exact kept.2 other same
  | some round =>
    refine ⟨kept, ?_⟩
    rintro other (rfl | impossible)
    · exact flushed
    · exact absurd impossible (Nat.not_lt_zero _)

theorem passed_succ (other : Cpu)
    (passed : ∀ tested : Cpu, tested = cpu ∨ tested.val < other.val → ¬machine.Stale call tested)
    (done : other ≠ cpu → ¬machine.Stale call other)
    (tested : Cpu) (reached : tested = cpu ∨ tested.val < other.val + 1) :
    ¬machine.Stale call tested := by
  by_cases own : tested = cpu
  · exact passed tested (Or.inl own)
  · by_cases same : tested = other
    · subst same
      exact done own
    · have different : tested.val ≠ other.val := fun equal => same (Fin.ext equal)
      refine passed tested (Or.inr ?_)
      rcases reached with equal | below
      · exact absurd equal own
      · omega

section Holds

variable (holds : machine.CallHolds cpu call stage)

include holds

/-- A change of the processor's own control that keeps its mailbox. -/
theorem protocol_setCpu (quiet : Quiet machine (machine.setCpu cpu state))
    (service : state.service = (machine.cpus cpu).service ∨
      state.service = none ∨ ∃ position, state.service = some ⟨position, .loadPublished⟩)
    (control : state.control = .shooting call stage) :
    (machine.setCpu cpu state).Protocol cpu := by
  have settles := quiet.settles
  unfold Protocol
  rw [setCpu_same, control]
  exact holds.settle settles (holds.stage.frame (frame_setCpu service) settles holds.changed)

theorem protocol_setStage : (machine.setStage cpu call stage).Protocol cpu :=
  protocol_setCpu holds (quiet_setStage machine cpu call stage) (Or.inl rfl) rfl

theorem CallHolds.next {later : Stage} (stageHolds : machine.StageHolds cpu call later) :
    machine.CallHolds cpu call later :=
  ⟨holds.changed, holds.shown, stageHolds⟩

theorem protocol_shoot (publishes : machine.PublishesRoot)
    (offline : ∀ other, machine.online other = false → (machine.cpus other).tlb = [])
    (fresh : ∀ targets, stage = .drawing targets →
      ∀ other, ¬machine.Holds cpu other (drawnGeneration (machine.requests cpu))) :
    (machine.shoot cpu call stage).Protocol cpu := by
  have stageHolds := holds.stage
  cases stage with
  | entered =>
    refine protocol_setStage (holds.next ?_)
    split
    · exact ⟨stageHolds, targeted_online offline⟩
    · exact ⟨stageHolds, targeted_online offline⟩
  | sampling next targets =>
    simp only [shoot]
    split
    · refine protocol_setStage (holds.next ?_)
      exact ⟨stageHolds.1, targeted_sample stageHolds.2 holds.shown⟩
    · exact protocol_setStage (holds.next stageHolds)
  | selected targets =>
    refine protocol_setStage (holds.next ?_)
    split
    · rename_i untargeted
      refine ⟨stageHolds.1, ?_⟩
      intro other different stale
      have isTarget := stageHolds.2 other different stale
      rw [untargeted other] at isTarget
      cases isTarget
    · exact stageHolds
  | drawing targets =>
    obtain ⟨synced, targeted⟩ := stageHolds
    have unheld := fresh targets rfl
    refine protocol_setStage (holds.settle (quiet_setRequest machine cpu _).settles ?_)
    have drawn := drawn_of_synced
      { machine.requests cpu with sequence := (machine.requests cpu).sequence + 1 }
      synced unheld rfl
    unfold drawnGeneration at drawn
    split
    · rename_i wrapped
      rw [if_pos wrapped] at drawn
      exact ⟨targeted, drawn⟩
    · rename_i proper
      rw [if_neg proper] at drawn
      refine ⟨?_, targeted, drawn, ?_⟩
      · simp [setRequest]
      · intro other _ impossible
        exact absurd impossible (Nat.not_lt_zero _)
  | restarting targets =>
    obtain ⟨targeted, drawn⟩ := stageHolds
    refine protocol_setStage (holds.settle (quiet_setRequest machine cpu _).settles ?_)
    refine ⟨?_, targeted, ⟨?_, drawn.unheld⟩, ?_⟩
    · simp [setRequest]
    · simpa [setRequest] using drawn.unpublished
    · intro other _ impossible
      exact absurd impossible (Nat.not_lt_zero _)
  | resetting round next =>
    obtain ⟨sequence, targeted, drawn, unacked⟩ := stageHolds
    simp only [shoot]
    split
    · rename_i inside
      split
      · refine protocol_setStage (holds.settle (quiet_setAck machine cpu _ _).settles ?_)
        exact ⟨sequence, targeted, ⟨drawn.unpublished, drawn.unheld⟩, unacked.reset⟩
      · rename_i untargeted
        refine protocol_setStage (holds.next ?_)
        exact ⟨sequence, targeted, drawn, Unacked.skip ⟨next, inside⟩ unacked untargeted⟩
    · rename_i beyond
      refine protocol_setStage (holds.next ?_)
      refine ⟨sequence, targeted, drawn, ?_, trivial⟩
      intro other isTarget inside
      exact unacked other isTarget (by omega)
  | storing round =>
    exact protocol_setStage
      (holds.settle (quiet_setRequest machine cpu _).settles (stageHolds_storeField stageHolds))
  | applying round => exact protocol_apply holds publishes
  | waiting round next =>
    obtain ⟨announced, passed⟩ := stageHolds
    simp only [shoot]
    split
    · rename_i inside
      split
      · exact protocol_setCpu
          (holds.next
            (show machine.StageHolds cpu call (.rechecking round next) from ⟨announced, passed⟩))
          (quiet_setCpu machine cpu _ rfl rfl rfl)
          (Or.inr (Or.inr ⟨0, rfl⟩)) rfl
      · rename_i done
        refine protocol_setStage (holds.next ?_)
        refine ⟨announced, passed_succ ⟨next, inside⟩ passed ?_⟩
        intro different stale
        have isTarget := announced.targeted ⟨next, inside⟩ different stale
        simp only [isTarget, Bool.true_and, decide_eq_true_eq, not_not] at done
        exact announced.acked ⟨next, inside⟩ isTarget done stale
    · rename_i beyond
      refine protocol_setStage (holds.next ?_)
      refine ⟨announced.published.trans announced.sequence.symm, ?_⟩
      intro other
      exact passed other (Or.inr (by omega))
  | rechecking round next =>
    obtain ⟨announced, passed⟩ := stageHolds
    simp only [shoot]
    split
    · rename_i inside
      refine protocol_setStage (holds.next ?_)
      split
      · rename_i left
        refine ⟨announced, passed_succ ⟨next, inside⟩ passed ?_⟩
        intro different stale
        have shows :=
          shootdownTargetsActiveRoot_of_showsRoot (holds.shown ⟨next, inside⟩ different stale)
        rw [shows] at left
        simp at left
      · exact ⟨announced, passed⟩
    · exact protocol_setStage (holds.next
        (show machine.StageHolds cpu call (.waiting round next) from ⟨announced, passed⟩))
  | returned =>
    unfold Protocol
    simp only [shoot, setCpu_same]
    exact stageHolds.1

end Holds

end Source

/-! ## Whole runs -/

/-- All that is known about a reachable machine. -/
structure Sound (machine : Machine) : Prop where
  publishes : machine.PublishesRoot
  offline : ∀ cpu, machine.online cpu = false → (machine.cpus cpu).tlb = []
  protocol : ∀ cpu, machine.Protocol cpu

/-- All processors run ordinary code, no mailbox is in use, and only online
processors cache translations. -/
structure Initial (machine : Machine) : Prop where
  idle : ∀ cpu, (machine.cpus cpu).idle = true
  synced : ∀ cpu, machine.Synced cpu
  offline : ∀ cpu, machine.online cpu = false → (machine.cpus cpu).tlb = []

end Machine

namespace CpuState

theorem idle_iff {cpu : CpuState} :
    cpu.idle = true ↔ cpu.publish = none ∧ cpu.service = none ∧ cpu.control = .running := by
  obtain ⟨_, _, publish, service, control⟩ := cpu
  cases control <;> simp [idle]

end CpuState

namespace Machine

theorem Initial.sound {machine : Machine} (initial : machine.Initial) : machine.Sound where
  publishes := by
    intro cpu cr3 pending
    have idle := idle_iff.mp (initial.idle cpu)
    rw [idle.1] at pending
    cases pending
  offline := initial.offline
  protocol := by
    intro cpu
    have idle := idle_iff.mp (initial.idle cpu)
    unfold Protocol
    rw [idle.2.2]
    exact initial.synced cpu

section Steps

variable {machine next : Machine} {label : Label} {leaves : Address → Option Nat}

/-- A change starts a call whose other processors show the root. -/
theorem protocol_change {cpu : Cpu} {call : Call}
    (sound : machine.Sound) (now : call.changedAt = machine.clock + 1)
    (idle : (machine.cpus cpu).idle = true)
    (shown : machine.RootsShown (.change cpu call.kind call.cr3 call.address leaves)) :
    ({ machine.changeLeaves call leaves with
        clock := machine.clock + 1 }.setStage cpu call .entered).Protocol
      cpu := by
  have running := (idle_iff.mp idle).2.2
  have synced := sound.protocol cpu
  unfold Protocol at synced
  rw [running] at synced
  apply protocol_setStage
  refine ⟨Nat.le_of_eq now, ?_, ?_⟩
  · intro other different stale specific
    obtain ⟨_, _, _, _, root⟩ := stale
    have runs := root specific
    simp only [changeLeaves_cpus] at runs
    simp only [changeLeaves_activeCr3]
    exact shown specific other different runs
  · change ((machine.changeLeaves call leaves).requests cpu).published =
      ((machine.changeLeaves call leaves).requests cpu).sequence
    rw [changeLeaves_requests]
    exact synced

theorem frame_change {cpu source : Cpu} {call : Call} :
    Frame machine
      ({ machine.changeLeaves call leaves with
          clock := machine.clock + 1 }.setStage cpu call .entered)
      source := by
  refine frame_of_same ?_ ?_ ?_
  · exact congrFun (changeLeaves_requests machine call leaves) source
  · exact congrFun (changeLeaves_acks machine call leaves) source
  · intro other
    refine Or.inl ((setCpu_service (by rfl) other).trans ?_)
    simp only [changeLeaves_cpus]

theorem protocol_move (sound : machine.Sound) (settles : Settles machine next)
    (move : Move machine label next) (shown : machine.RootsShown label)
    (fresh : machine.GenerationFresh label) (source : Cpu) : next.Protocol source := by
  have before := sound.protocol source
  cases move with
  | @change cpu _ call now idle =>
    by_cases own : source = cpu
    · subst own
      exact protocol_change sound now idle shown
    · refine before.frame frame_change settles ?_
      refine (congrArg control (setCpu_other _ _ own)).trans ?_
      simp only [changeLeaves_cpus]
  | @publish cpu _ _ =>
    refine before.frame (frame_of_same rfl rfl ?_) settles ?_
    · exact fun other => Or.inl (setCpu_service (by rfl) other)
    · exact setCpu_control machine (by rfl) source
  | @serve cpu service noPublish serving =>
    exact before.frame (frame_serve serving) settles (serve_control machine cpu service source)
  | @shoot cpu call stage noPublish noService shooting =>
    by_cases own : source = cpu
    · subst own
      unfold Protocol at before
      rw [shooting] at before
      refine protocol_shoot before sound.publishes sound.offline ?_
      rintro _ rfl
      unfold GenerationFresh at fresh
      simp only [shooting] at fresh
      exact fresh
    · obtain ⟨frame, control⟩ := shoot_other machine call stage own
      exact before.frame frame settles control
  | @interrupt cpu noService =>
    exact before.frame (frame_setCpu (Or.inr (Or.inr ⟨0, rfl⟩))) settles
      (setCpu_control machine (by rfl) source)
  | sameRoot => exact before
  | switch | enter | fill =>
    exact before.frame (frame_setCpu (Or.inl rfl)) settles (setCpu_control machine (by rfl) source)

/-- Every step, of whichever processor, keeps the protocol sound. -/
theorem Sound.step (sound : machine.Sound) (shown : machine.RootsShown label)
    (fresh : machine.GenerationFresh label)
    (taken : machine.step label = some next) : next.Sound := by
  obtain ⟨online, move⟩ := move_of_step taken
  obtain ⟨settles, publishes⟩ := settles_move sound.publishes online move
  refine ⟨publishes, ?_, protocol_move sound settles move shown fresh⟩
  intro cpu isOffline
  rw [settles.online] at isOffline
  refine List.eq_nil_iff_forall_not_mem.mpr ?_
  intro entry member
  rcases settles.entries cpu entry member with old | ⟨isOnline, _⟩
  · rw [sound.offline cpu isOffline] at old
    cases old
  · rw [isOffline] at isOnline
    cases isOnline

end Steps

/-- If at every change of user leaves the other processors that run the root
show it, and no drawn generation is still held, then when a shootdown returns
no processor can use a covered translation that was read before the change:
no processor that runs the root for a request about an address space, and no
processor at all for a request about the kernel half. -/
theorem no_stale_translation_after_shootdown
    {start final : Machine} {labels : List Label} (initial : start.Initial)
    (shown : Guarded step RootsShown start labels)
    (fresh : Guarded step GenerationFresh start labels)
    (reached : exec step start labels = some final) {cpu : Cpu} {call : Call}
    (returned : (final.cpus cpu).control = .shooting call .returned) :
    ∀ other, ∀ entry ∈ (final.cpus other).tlb, call.kind.Covers call.address entry.address →
      (call.kind.isAddressSpaceSpecific = true →
        normaliseCr3 (final.cpus other).cr3 = normaliseCr3 call.cr3) →
        call.changedAt ≤ entry.readAt := by
  have sound : final.Sound := by
    refine invariant_of_guarded ?_ initial.sound (shown.and fresh) reached
    intro machine label next sound guarded taken
    exact sound.step guarded.1 guarded.2 taken
  have protocol := sound.protocol cpu
  unfold Protocol at protocol
  rw [returned] at protocol
  have holds : final.CallHolds cpu call .returned := protocol
  intro other entry member covered root
  by_contra older
  exact holds.stage.2 other ⟨entry, member, covered, Nat.lt_of_not_le older, root⟩

/-- Two processors, the first running the user root `0x1000` and the second
the kernel root `0x2000`, each showing its root. -/
def twoProcessors : Machine where
  online := fun cpu => decide (cpu.val < 2)
  cpus := fun cpu => { cr3 := if cpu = 0 then 0x1000#64 else 0x2000#64, tlb := [] }
  activeCr3 := fun cpu => if cpu = 0 then 0x1000#64 else 0x2000#64
  userTables := fun _ _ => some 7
  kernelTable := fun _ => none

theorem twoProcessors_initial : twoProcessors.Initial where
  idle := fun _ => rfl
  synced := fun _ => rfl
  offline := fun _ _ => rfl

/-- Unmapping the page `0x4000` of the user root. -/
def unmapCall : Call where
  kind := .addressSpacePage
  cr3 := 0x1000#64
  address := 0x4000
  changedAt := 1
  userPage := fun _ => by decide

def advances (cpu : Cpu) (count : Nat) : List Label :=
  List.replicate count (.advance cpu)

/-- The second processor switches to the user root, publishes it, caches the
page, and serves the request of the first. -/
def servedRun : List Label :=
  .switch 1 0x1000#64 :: .advance 1 :: .fill 1 0x4000 ::
    .change 0 .addressSpacePage 0x1000#64 0x4000 (fun _ => none) ::
      (advances 0 139 ++ .interrupt 1 :: (advances 1 8 ++ advances 0 65))

theorem servedRun_flushed :
    ∃ final, exec step twoProcessors servedRun = some final ∧
      (final.cpus 0).control = .shooting unmapCall .returned ∧ (final.cpus 1).cr3 = unmapCall.cr3 ∧
        ∀ entry ∈ (final.cpus 1).tlb, entry.address = 0x4000 → 1 ≤ entry.readAt := by
  refine exists_reached (by decide +kernel) fun final reached => ?_
  have returned : (final.cpus 0).control.returned? = some unmapCall :=
    of_reached reached (by decide +kernel)
  have control := Control.eq_of_returned? returned
  have root : (final.cpus 1).cr3 = unmapCall.cr3 := of_reached reached (by decide +kernel)
  have shown : Guarded step RootsShown twoProcessors servedRun := by
    decide +kernel
  have fresh : Guarded step GenerationFresh twoProcessors servedRun := by
    decide +kernel
  have flushed :=
    no_stale_translation_after_shootdown twoProcessors_initial shown fresh reached control 1
  refine ⟨control, root, ?_⟩
  intro entry member page
  exact flushed entry member page fun _ => congrArg normaliseCr3 root

/-- The second processor enters the user root as `jump_to_user` does, which
publishes nothing, and caches the page. -/
def enteredRun : List Label :=
  .enter 1 0x1000#64 :: .fill 1 0x4000 ::
    .change 0 .addressSpacePage 0x1000#64 0x4000 (fun _ => none) :: advances 0 68

/-- The shootdown of the first processor then returns while the second still
runs the root with the old translation. -/
theorem enteredRun_stale :
    ∃ final, twoProcessors.Initial ∧ Guarded step GenerationFresh twoProcessors
      enteredRun ∧
      exec step twoProcessors enteredRun =
        some final ∧
        (final.cpus 0).control = .shooting unmapCall .returned ∧
          (final.cpus 1).cr3 = unmapCall.cr3 ∧
            (final.cpus 1).tlb = [⟨unmapCall.address, 7, 0⟩] := by
  have observed :
      ∃ final, exec step twoProcessors enteredRun = some final ∧
        (final.cpus 0).control.returned? = some unmapCall ∧
        (final.cpus 1).cr3 = unmapCall.cr3 ∧
        (final.cpus 1).tlb = [⟨unmapCall.address, 7, 0⟩] := by
    decide +kernel
  obtain ⟨final, reached, returned, stale⟩ := observed
  exact ⟨final, twoProcessors_initial, by decide +kernel, reached,
    Control.eq_of_returned? returned, stale⟩

end Machine

end Xenith.Arch
