import Xenith.Arch.Shootdown

/-!
# What a step does to the cached translations

A new translation is read from the current tables, a change of root drops the
user translations, and a slot only changes to the root in use.  A translation
older than a given change therefore never comes back.
-/

namespace Xenith.Arch

/-! ## Flushing -/

namespace CpuState

variable {entry : TlbEntry}

section Apply

variable (cpu : CpuState) (kind : ShootdownKind) (requestCr3 : Cr3) (address : Address)

@[simp]
theorem applyShootdown_cr3 : (cpu.applyShootdown kind requestCr3 address).cr3 = cpu.cr3 := by
  fun_cases applyShootdown with
  | _ => rfl

@[simp]
theorem applyShootdown_service :
    (cpu.applyShootdown kind requestCr3 address).service = cpu.service := by
  fun_cases applyShootdown with
  | _ => rfl

@[simp]
theorem applyShootdown_control :
    (cpu.applyShootdown kind requestCr3 address).control = cpu.control := by
  fun_cases applyShootdown with
  | _ => rfl

theorem applyShootdown_publish :
    (cpu.applyShootdown kind requestCr3 address).publish = cpu.publish ∨
      (cpu.applyShootdown kind requestCr3 address).publish = some cpu.cr3 := by
  fun_cases applyShootdown with
  | case3 => exact Or.inr rfl
  | _ => exact Or.inl rfl

variable {kind : ShootdownKind}

theorem mem_of_mem_applyShootdown {cpu : CpuState} {requestCr3 : Cr3} {address : Address}
    (member : entry ∈ (cpu.applyShootdown kind requestCr3 address).tlb) :
    entry ∈ cpu.tlb := by
  revert member
  fun_cases applyShootdown with
  | case1 => exact id
  | case2 => nofun
  | _ => exact List.mem_of_mem_filter

/-- A covered translation survives only on a processor with another
root. -/
theorem applyShootdown_covers {cpu : CpuState} {requestCr3 : Cr3} {address : Address}
    (member : entry ∈ (cpu.applyShootdown kind requestCr3 address).tlb)
    (covered : kind.Covers address entry.address) :
    kind.isAddressSpaceSpecific = true ∧ normaliseCr3 cpu.cr3 ≠ normaliseCr3 requestCr3 := by
  unfold applyShootdown at member
  split at member
  · rename_i elsewhere
    simpa using elsewhere
  · cases kind with
    | kernelPage | addressSpacePage =>
      have different := of_decide_eq_true (List.mem_filter.mp member).2
      exact absurd covered different
    | kernelAll => cases member
    | addressSpaceAll =>
      have kernelHalf := (List.mem_filter.mp member).2
      rw [covered] at kernelHalf
      cases kernelHalf

end Apply

theorem loadCr3_tlb_kernel {cpu : CpuState} (cr3 : Cr3) (member : entry ∈ (cpu.loadCr3 cr3).tlb) :
    entry ∈ cpu.tlb ∧ userAddress entry.address = false := by
  obtain ⟨before, kernelHalf⟩ := List.mem_filter.mp member
  exact ⟨before, by simpa using kernelHalf⟩

end CpuState

theorem Call.userAddress_of_covers
    {call : Call} {tested : Address} (specific : call.kind.isAddressSpaceSpecific = true)
    (covered : call.kind.Covers call.address tested) :
    userAddress tested = true := by
  obtain ⟨kind, _, address, _, userPage⟩ := call
  cases kind with
  | kernelPage => cases specific
  | addressSpacePage =>
    cases covered
    exact userPage rfl
  | kernelAll => cases specific
  | addressSpaceAll => exact covered

namespace Machine

/-! ## The steps -/

/-- Every step of the machine. -/
inductive Move (machine : Machine) : Label → Machine → Prop where
  | change {cpu leaves} (call : Call) (now : call.changedAt = machine.clock + 1)
      (idle : (machine.cpus cpu).idle = true) :
      Move machine (.change cpu call.kind call.cr3 call.address leaves)
        ({ machine.changeLeaves call leaves with
            clock := machine.clock + 1 }.setStage cpu call .entered)
  | publish {cpu cr3} (pending : (machine.cpus cpu).publish = some cr3) :
      Move machine (.advance cpu) (machine.publishActiveCr3 cpu cr3)
  | serve {cpu service} (noPublish : (machine.cpus cpu).publish = none)
      (serving : (machine.cpus cpu).service = some service) :
      Move machine (.advance cpu) (machine.serve cpu service)
  | shoot {cpu call stage} (noPublish : (machine.cpus cpu).publish = none)
      (noService : (machine.cpus cpu).service = none)
      (shooting : (machine.cpus cpu).control = .shooting call stage) :
      Move machine (.advance cpu) (machine.shoot cpu call stage)
  | interrupt {cpu} (noService : (machine.cpus cpu).service = none) :
      Move machine (.interrupt cpu) (machine.setService cpu (some ⟨0, .loadPublished⟩))
  | sameRoot {cpu cr3} : Move machine (.switch cpu cr3) machine
  | switch {cpu cr3} (idle : (machine.cpus cpu).idle = true) :
      Move machine (.switch cpu cr3) (machine.setCpu cpu ((machine.cpus cpu).writeCr3 cr3))
  | enter {cpu cr3} (idle : (machine.cpus cpu).idle = true) :
      Move machine (.enter cpu cr3) (machine.setCpu cpu ((machine.cpus cpu).loadCr3 cr3))
  | fill {cpu address leaf} :
      Move machine (.fill cpu address) (machine.setCpu cpu
        { machine.cpus cpu with tlb := ⟨address, leaf, machine.clock⟩ :: (machine.cpus cpu).tlb })

variable {machine next : Machine}

theorem move_of_step {label : Label} (taken : machine.step label = some next) :
    machine.online label.cpu = true ∧ Move machine label next := by
  revert taken
  fun_cases step with
  | case1 cpu _ cr3 address _ idle online =>
    fun_cases Machine.change with
    | case1 _ call =>
      rintro ⟨⟩
      exact ⟨online, .change call rfl idle⟩
    | case2 => nofun
  | case3 cpu online =>
    fun_cases Machine.advance with
    | case1 cr3 pending =>
      rintro ⟨⟩
      exact ⟨online, .publish pending⟩
    | case2 noPublish _ serving =>
      rintro ⟨⟩
      exact ⟨online, .serve noPublish serving⟩
    | case3 => nofun
    | case4 noPublish noService call _ shooting =>
      rintro ⟨⟩
      exact ⟨online, .shoot noPublish noService shooting⟩
  | case4 cpu interruptible online =>
    rintro ⟨⟩
    simp only [CpuState.interruptible, Bool.and_eq_true, Option.isNone_iff_eq_none] at interruptible
    exact ⟨online, .interrupt interruptible.1.2⟩
  | case6 cpu cr3 idle online =>
    rintro ⟨⟩
    fun_cases Machine.switch with
    | case1 => exact ⟨online, .switch idle⟩
    | case2 => exact ⟨online, .sameRoot⟩
  | case8 cpu cr3 idle online =>
    rintro ⟨⟩
    exact ⟨online, .enter idle⟩
  | case10 cpu address online =>
    intro filled
    obtain ⟨_, _, rfl⟩ := Option.map_eq_some_iff.mp filled
    exact ⟨online, .fill⟩
  | _ => nofun

/-! ## Steps without effect on translations -/

/-- The two machines agree on all translations, roots and slots. -/
structure Quiet (machine next : Machine) : Prop where
  online : next.online = machine.online
  clock : next.clock = machine.clock
  activeCr3 : next.activeCr3 = machine.activeCr3
  tlb : ∀ cpu, (next.cpus cpu).tlb = (machine.cpus cpu).tlb
  cr3 : ∀ cpu, (next.cpus cpu).cr3 = (machine.cpus cpu).cr3
  publish : ∀ cpu, (next.cpus cpu).publish = (machine.cpus cpu).publish

@[simp]
theorem setCpu_same (machine : Machine) (cpu : Cpu) (state : CpuState) :
    (machine.setCpu cpu state).cpus cpu = state := by
  simp [setCpu]

variable {cpu : Cpu}

theorem setCpu_other
    (machine : Machine) {other : Cpu} (state : CpuState) (different : other ≠ cpu) :
    (machine.setCpu cpu state).cpus other = machine.cpus other := by
  simp [setCpu, different]

variable {state : CpuState}

/-- What holds of the new state and of the other processors. -/
theorem forall_setCpu {motive : Cpu → CpuState → Prop} (own : motive cpu state)
    (others : ∀ other, motive other (machine.cpus other)) (tested : Cpu) :
    motive tested ((machine.setCpu cpu state).cpus tested) := by
  by_cases same : tested = cpu
  · subst same
    rw [setCpu_same]
    exact own
  · rw [setCpu_other machine state same]
    exact others tested

section Quiet

variable {machine next last : Machine}

theorem Quiet.refl (machine : Machine) : Quiet machine machine :=
  ⟨rfl, rfl, rfl, fun _ => rfl, fun _ => rfl, fun _ => rfl⟩

theorem Quiet.trans (first : Quiet machine next) (second : Quiet next last) :
    Quiet machine last where
  online := second.online.trans first.online
  clock := second.clock.trans first.clock
  activeCr3 := second.activeCr3.trans first.activeCr3
  tlb := fun cpu => (second.tlb cpu).trans (first.tlb cpu)
  cr3 := fun cpu => (second.cr3 cpu).trans (first.cr3 cpu)
  publish := fun cpu => (second.publish cpu).trans (first.publish cpu)

theorem quiet_setCpu
    (machine : Machine) (cpu : Cpu) (state : CpuState) (tlb : state.tlb = (machine.cpus cpu).tlb)
    (cr3 : state.cr3 = (machine.cpus cpu).cr3)
    (publish : state.publish = (machine.cpus cpu).publish) :
    Quiet machine (machine.setCpu cpu state) where
  online := rfl
  clock := rfl
  activeCr3 := rfl
  tlb := forall_setCpu
    (motive := fun other state => state.tlb = (machine.cpus other).tlb) tlb fun _ => rfl
  cr3 := forall_setCpu
    (motive := fun other state => state.cr3 = (machine.cpus other).cr3) cr3 fun _ => rfl
  publish := forall_setCpu
    (motive := fun other state => state.publish = (machine.cpus other).publish) publish fun _ => rfl

theorem quiet_setService (machine : Machine) (cpu : Cpu) (service : Option Service) :
    Quiet machine (machine.setService cpu service) :=
  quiet_setCpu machine cpu _ rfl rfl rfl

theorem quiet_setStage (machine : Machine) (cpu : Cpu) (call : Call) (stage : Stage) :
    Quiet machine (machine.setStage cpu call stage) :=
  quiet_setCpu machine cpu _ rfl rfl rfl

theorem quiet_setRequest (machine : Machine) (cpu : Cpu) (request : TlbRequest) :
    Quiet machine (machine.setRequest cpu request) :=
  ⟨rfl, rfl, rfl, fun _ => rfl, fun _ => rfl, fun _ => rfl⟩

theorem quiet_setAck (machine : Machine) (source target : Cpu) (generation : Generation) :
    Quiet machine (machine.setAck source target generation) :=
  ⟨rfl, rfl, rfl, fun _ => rfl, fun _ => rfl, fun _ => rfl⟩

end Quiet

/-! ## The facts the shootdown relies on -/

structure Settles (machine next : Machine) : Prop where
  online : next.online = machine.online
  clock : machine.clock ≤ next.clock
  entries : ∀ cpu, ∀ entry ∈ (next.cpus cpu).tlb,
    entry ∈ (machine.cpus cpu).tlb ∨ (machine.online cpu = true ∧ entry.readAt = machine.clock)
  roots : ∀ cpu, (next.cpus cpu).cr3 = (machine.cpus cpu).cr3 ∨
    ∀ entry ∈ (next.cpus cpu).tlb, userAddress entry.address = false
  slots : ∀ cpu, next.activeCr3 cpu = machine.activeCr3 cpu ∨
    next.activeCr3 cpu = normaliseCr3 (next.cpus cpu).cr3

/-- A pending publication names the root in use. -/
def PublishesRoot (machine : Machine) : Prop :=
  ∀ cpu cr3, (machine.cpus cpu).publish = some cr3 → cr3 = (machine.cpus cpu).cr3

theorem Quiet.settles (quiet : Quiet machine next) : Settles machine next where
  online := quiet.online
  clock := Nat.le_of_eq quiet.clock.symm
  entries := by
    intro cpu entry member
    rw [quiet.tlb cpu] at member
    exact Or.inl member
  roots := fun cpu => Or.inl (quiet.cr3 cpu)
  slots := fun cpu => Or.inl (congrFun quiet.activeCr3 cpu)

theorem Quiet.publishesRoot (quiet : Quiet machine next)
    (publishes : machine.PublishesRoot) : next.PublishesRoot := by
  intro cpu cr3 pending
  rw [quiet.publish cpu] at pending
  rw [quiet.cr3 cpu]
  exact publishes cpu cr3 pending

theorem settles_setCpu
    (entries : ∀ entry ∈ state.tlb,
      entry ∈ (machine.cpus cpu).tlb ∨ (machine.online cpu = true ∧ entry.readAt = machine.clock))
    (root :
      state.cr3 = (machine.cpus cpu).cr3 ∨ ∀ entry ∈ state.tlb, userAddress entry.address = false) :
    Settles machine (machine.setCpu cpu state) := by
  refine ⟨rfl, Nat.le_refl _, ?_, ?_, fun _ => Or.inl rfl⟩
  · exact forall_setCpu
      (motive := fun other state =>
        ∀ entry ∈ state.tlb, entry ∈ (machine.cpus other).tlb ∨
          (machine.online other = true ∧ entry.readAt = machine.clock))
      entries fun _ _ => Or.inl
  · exact forall_setCpu
      (motive := fun other state =>
        state.cr3 = (machine.cpus other).cr3 ∨
          ∀ entry ∈ state.tlb, userAddress entry.address = false)
      root fun _ => Or.inl rfl

theorem publishesRoot_setCpu (publishes : machine.PublishesRoot)
    (own : ∀ cr3, state.publish = some cr3 → cr3 = state.cr3) :
    (machine.setCpu cpu state).PublishesRoot :=
  forall_setCpu
    (motive := fun _ state => ∀ cr3, state.publish = some cr3 → cr3 = state.cr3) own publishes

/-- Serving a request touches translations only where it applies it. -/
theorem serve_cases (machine : Machine) (cpu : Cpu) (service : Service) :
    Quiet machine (machine.serve cpu service) ∨
      ∃ generation kind cr3 address,
        service.phase = .apply generation kind cr3 address ∧
          machine.serve cpu service =
            machine.setCpu cpu
              { (machine.cpus cpu).applyShootdown kind cr3 address with
                service := some ⟨service.source, .storeAck generation⟩ } := by
  unfold serve
  split
  · cases phase : service.phase with
    | apply generation kind cr3 address => exact Or.inr ⟨generation, kind, cr3, address, rfl, rfl⟩
    | storeAck generation =>
      exact Or.inl ((quiet_setAck machine _ cpu generation).trans (quiet_setService _ cpu _))
    | loadPublished | loadTargets | loadAck | loadKind =>
      refine Or.inl ?_
      simp only
      split <;> exact quiet_setService machine cpu _
    | loadCr3 | loadAddress => exact Or.inl (quiet_setService machine cpu _)
  · exact Or.inl (quiet_setService machine cpu none)

theorem shoot_cases (machine : Machine) (cpu : Cpu) (call : Call) (stage : Stage) :
    Quiet machine (machine.shoot cpu call stage) ∨ ∃ round, stage = .applying round := by
  cases stage with
  | entered | selected => exact Or.inl (quiet_setStage machine cpu call _)
  | sampling | rechecking =>
    refine Or.inl ?_
    simp only [shoot]
    split <;> exact quiet_setStage machine cpu call _
  | drawing | restarting | storing =>
    exact Or.inl ((quiet_setRequest machine cpu _).trans (quiet_setStage _ cpu call _))
  | resetting round next =>
    refine Or.inl ?_
    simp only [shoot]
    split
    · split
      · exact (quiet_setAck machine cpu _ _).trans (quiet_setStage _ cpu call _)
      · exact quiet_setStage machine cpu call _
    · exact quiet_setStage machine cpu call _
  | applying round => exact Or.inr ⟨round, rfl⟩
  | waiting round next =>
    refine Or.inl ?_
    simp only [shoot]
    split
    · split
      · exact quiet_setCpu machine cpu _ rfl rfl rfl
      · exact quiet_setStage machine cpu call _
    · exact quiet_setStage machine cpu call _
  | returned => exact Or.inl (quiet_setCpu machine cpu _ rfl rfl rfl)

section ChangeLeaves

variable (machine : Machine) (call : Call) (leaves : Address → Option Nat)

@[simp]
theorem changeLeaves_cpus : (machine.changeLeaves call leaves).cpus = machine.cpus := by
  unfold changeLeaves
  split <;> rfl

@[simp]
theorem changeLeaves_online : (machine.changeLeaves call leaves).online = machine.online := by
  unfold changeLeaves
  split <;> rfl

@[simp]
theorem changeLeaves_activeCr3 :
    (machine.changeLeaves call leaves).activeCr3 = machine.activeCr3 := by
  unfold changeLeaves
  split <;> rfl

@[simp]
theorem changeLeaves_requests : (machine.changeLeaves call leaves).requests = machine.requests := by
  unfold changeLeaves
  split <;> rfl

@[simp]
theorem changeLeaves_acks : (machine.changeLeaves call leaves).acks = machine.acks := by
  unfold changeLeaves
  split <;> rfl

end ChangeLeaves

theorem settles_apply
    {kind : ShootdownKind} {cr3 : Cr3} {address : Address} (publishes : machine.PublishesRoot)
    (tlb : state.tlb = ((machine.cpus cpu).applyShootdown kind cr3 address).tlb)
    (root : state.cr3 = (machine.cpus cpu).cr3)
    (publish : state.publish = ((machine.cpus cpu).applyShootdown kind cr3 address).publish) :
    Settles machine (machine.setCpu cpu state) ∧ (machine.setCpu cpu state).PublishesRoot := by
  constructor
  · refine settles_setCpu ?_ (Or.inl root)
    intro entry member
    rw [tlb] at member
    exact Or.inl (CpuState.mem_of_mem_applyShootdown member)
  · refine publishesRoot_setCpu publishes ?_
    intro pendingCr3 pending
    rw [publish] at pending
    rw [root]
    rcases CpuState.applyShootdown_publish (machine.cpus cpu) kind cr3 address with same | renewed
    · rw [same] at pending
      exact publishes cpu pendingCr3 pending
    · rw [renewed, Option.some.injEq] at pending
      exact pending.symm

/-- Loading a root drops the user translations of one processor. -/
theorem settles_loadCr3 (cr3 : Cr3) (tlb : state.tlb = ((machine.cpus cpu).loadCr3 cr3).tlb) :
    Settles machine (machine.setCpu cpu state) := by
  refine settles_setCpu ?_ (Or.inr ?_)
  · intro entry member
    rw [tlb] at member
    exact Or.inl (CpuState.loadCr3_tlb_kernel cr3 member).1
  · intro entry member
    rw [tlb] at member
    exact (CpuState.loadCr3_tlb_kernel cr3 member).2

theorem settles_move {label : Label} (publishes : machine.PublishesRoot)
    (online : machine.online label.cpu = true) (move : Move machine label next) :
    Settles machine next ∧ next.PublishesRoot := by
  cases move with
  | @change cpu leaves call _ idle =>
    have quiet :=
      quiet_setStage
        { machine.changeLeaves call leaves with clock := machine.clock + 1 } cpu call .entered
    constructor
    · refine ⟨?_, ?_, ?_, ?_, ?_⟩
      · rw [quiet.online]
        exact changeLeaves_online machine call leaves
      · rw [quiet.clock]
        exact Nat.le_succ _
      · intro other entry member
        rw [quiet.tlb other] at member
        simp only [changeLeaves_cpus] at member
        exact Or.inl member
      · intro other
        refine Or.inl ?_
        rw [quiet.cr3 other]
        simp only [changeLeaves_cpus]
      · intro other
        refine Or.inl ?_
        rw [quiet.activeCr3]
        simp only [changeLeaves_activeCr3]
    · refine quiet.publishesRoot ?_
      intro other cr3 pending
      simp only [changeLeaves_cpus] at pending ⊢
      exact publishes other cr3 pending
  | @publish cpu cr3 pending =>
    have root := publishes cpu cr3 pending
    have settles : Settles machine (machine.setCpu cpu { machine.cpus cpu with publish := none }) :=
      settles_setCpu (fun _ member => Or.inl member) (Or.inl rfl)
    constructor
    · refine ⟨rfl, Nat.le_refl _, settles.entries, settles.roots, ?_⟩
      intro other
      by_cases same : other = cpu
      · subst same
        simp [publishActiveCr3, root]
      · refine Or.inl ?_
        simp [publishActiveCr3, same]
    · refine publishesRoot_setCpu publishes ?_
      intro otherCr3 impossible
      cases impossible
  | @serve cpu service noPublish _ =>
    rcases serve_cases machine cpu service with
      quiet | ⟨generation, kind, cr3, address, _, applied⟩
    · exact ⟨quiet.settles, quiet.publishesRoot publishes⟩
    · rw [applied]
      exact settles_apply publishes rfl (CpuState.applyShootdown_cr3 ..) rfl
  | @shoot cpu call stage noPublish noService _ =>
    rcases shoot_cases machine cpu call stage with
      quiet | ⟨round, rfl⟩
    · exact ⟨quiet.settles, quiet.publishesRoot publishes⟩
    · exact settles_apply publishes rfl (CpuState.applyShootdown_cr3 ..) rfl
  | @interrupt cpu noService =>
    have quiet := quiet_setService machine cpu (some ⟨0, .loadPublished⟩)
    exact ⟨quiet.settles, quiet.publishesRoot publishes⟩
  | sameRoot =>
    have quiet := Quiet.refl machine
    exact ⟨quiet.settles, publishes⟩
  | @switch cpu cr3 idle =>
    refine ⟨settles_loadCr3 cr3 rfl, publishesRoot_setCpu publishes ?_⟩
    intro otherCr3 pending
    cases pending
    rfl
  | @enter cpu cr3 idle =>
    refine ⟨settles_loadCr3 cr3 rfl, publishesRoot_setCpu publishes ?_⟩
    intro otherCr3 pending
    have none : (machine.cpus cpu).publish = none := by
      simp only [CpuState.idle, Bool.and_eq_true, Option.isNone_iff_eq_none] at idle
      exact idle.1.1
    change (machine.cpus cpu).publish = some otherCr3 at pending
    rw [none] at pending
    cases pending
  | @fill cpu address _ =>
    constructor
    · refine settles_setCpu ?_ (Or.inl rfl)
      intro entry member
      rcases List.mem_cons.mp member with rfl | before
      · exact Or.inr ⟨online, rfl⟩
      · exact Or.inl before
    · exact publishesRoot_setCpu publishes fun cr3 pending => publishes cpu cr3 pending

/-! ## Translations older than a change -/

/-- The processor could still use a covered translation that was read before
the change of the call. -/
def Stale (machine : Machine) (call : Call) (cpu : Cpu) : Prop :=
  ∃ entry ∈ (machine.cpus cpu).tlb, call.kind.Covers call.address entry.address ∧
    entry.readAt < call.changedAt ∧ (call.kind.isAddressSpaceSpecific = true →
      normaliseCr3 (machine.cpus cpu).cr3 = normaliseCr3 call.cr3)

/-- The slot of the processor shows the root of the call, when the call
looks at slots. -/
def ShowsRoot (machine : Machine) (call : Call) (cpu : Cpu) : Prop :=
  call.kind.isAddressSpaceSpecific = true →
    normaliseCr3 (machine.activeCr3 cpu) = normaliseCr3 call.cr3

section Stale

variable {machine next : Machine} {call : Call} {cpu : Cpu}

/-- An old translation is never read again, and its processor keeps its
root. -/
theorem Settles.stale (settles : Settles machine next) (changed : call.changedAt ≤ machine.clock)
    (stale : next.Stale call cpu) : machine.Stale call cpu := by
  obtain ⟨entry, member, covered, old, root⟩ := stale
  refine ⟨entry, ?_, covered, old, ?_⟩
  · rcases settles.entries cpu entry member with before | ⟨_, fresh⟩
    · exact before
    · omega
  · intro specific
    rcases settles.roots cpu with same | dropped
    · rw [← same]
      exact root specific
    · have userHalf := Call.userAddress_of_covers specific covered
      rw [dropped entry member] at userHalf
      cases userHalf

theorem Settles.showsRoot (settles : Settles machine next) (stale : next.Stale call cpu)
    (shows : machine.ShowsRoot call cpu) : next.ShowsRoot call cpu := by
  intro specific
  rcases settles.slots cpu with same | renewed
  · rw [same]
    exact shows specific
  · obtain ⟨_, _, _, _, root⟩ := stale
    rw [renewed, normaliseCr3_normaliseCr3]
    exact root specific

/-- Applying the request removes the old translations of its
processor. -/
theorem not_stale_applyShootdown {cr3 : Cr3} (root : normaliseCr3 cr3 = normaliseCr3 call.cr3)
    (tlb : state.tlb = ((machine.cpus cpu).applyShootdown call.kind cr3 call.address).tlb)
    (sameRoot : state.cr3 = (machine.cpus cpu).cr3) :
    ¬(machine.setCpu cpu state).Stale call cpu := by
  rintro ⟨_, member, covered, _, sameCr3⟩
  rw [setCpu_same] at member sameCr3
  rw [tlb] at member
  obtain ⟨specific, different⟩ := CpuState.applyShootdown_covers member covered
  apply different
  rw [root, ← sameRoot]
  exact sameCr3 specific

end Stale

end Machine

end Xenith.Arch
