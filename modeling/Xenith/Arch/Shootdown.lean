import Xenith.Mm.AddressSpace

/-!
# Translation caches and their shootdown

The shootdown of `smp.rs` as a machine that takes one atomic step of one
processor at a time.  Reads and writes of the shared variables are separate
steps; a step that reads and writes only the registers of its processor is
joined to the next one.  The processors are past the `SMP_READY` store.
-/

namespace Xenith.Arch

open Function

abbrev Cr3 := BitVec 64
abbrev Generation := BitVec 64
abbrev Address := Nat

abbrev maxCpus : Nat := 64

abbrev Cpu := Fin maxCpus

def cr3AddressMask : Cr3 := 0x000ffffffffff000#64

def normaliseCr3 (cr3 : Cr3) : Cr3 :=
  cr3 &&& cr3AddressMask

@[simp]
theorem normaliseCr3_normaliseCr3 (cr3 : Cr3) :
    normaliseCr3 (normaliseCr3 cr3) = normaliseCr3 cr3 := by
  simp [normaliseCr3, BitVec.and_assoc]

/-- Addresses of the user half, whose translations are not global. -/
def userAddress (address : Address) : Bool :=
  decide (address ≤ Mm.userMax)

/-! ## Requests -/

inductive ShootdownKind where
  | kernelPage
  | addressSpacePage
  | kernelAll
  | addressSpaceAll
deriving DecidableEq, Repr

namespace ShootdownKind

def toRaw : ShootdownKind → Nat
  | .kernelPage => 1
  | .addressSpacePage => 2
  | .kernelAll => 3
  | .addressSpaceAll => 4

def fromRaw : Nat → Option ShootdownKind
  | 1 => some .kernelPage
  | 2 => some .addressSpacePage
  | 3 => some .kernelAll
  | 4 => some .addressSpaceAll
  | _ => none

@[simp]
theorem fromRaw_toRaw (kind : ShootdownKind) : fromRaw kind.toRaw = some kind := by
  cases kind <;> rfl

def isAddressSpaceSpecific : ShootdownKind → Bool
  | .addressSpacePage => true
  | .addressSpaceAll => true
  | _ => false

def isFullFlush : ShootdownKind → Bool
  | .kernelAll => true
  | .addressSpaceAll => true
  | _ => false

/-- The addresses whose translations a request is to remove. -/
def Covers (kind : ShootdownKind) (address tested : Address) : Prop :=
  match kind with
  | .kernelPage => tested = address
  | .addressSpacePage => tested = address
  | .kernelAll => True
  | .addressSpaceAll => userAddress tested = true

end ShootdownKind

def shootdownTargetsActiveRoot (kind : ShootdownKind) (requestedCr3 activeCr3 : Cr3) : Bool :=
  !kind.isAddressSpaceSpecific || decide (normaliseCr3 activeCr3 = normaliseCr3 requestedCr3)

/-- A mailbox, owned by one source processor. -/
structure TlbRequest where
  sequence : Generation := 0
  published : Generation := 0
  kind : Nat := 0
  cr3 : Cr3 := 0
  address : Address := 0
  targets : Cpu → Bool := fun _ => false

/-- The arguments of a running shootdown.  `changedAt` numbers the leaf
change that the call follows, and a page of an address space is a user
page. -/
structure Call where
  kind : ShootdownKind
  cr3 : Cr3
  address : Address
  changedAt : Nat
  userPage : kind = .addressSpacePage → userAddress address = true
deriving DecidableEq

/-! ## Processors -/

/-- A cached translation and the number of leaf changes before it was
read. -/
structure TlbEntry where
  address : Address
  leaf : Nat
  readAt : Nat
deriving DecidableEq, Repr

structure Round where
  targets : Cpu → Bool
  generation : Generation

/-- The mailbox fields in the order in which they are stored. -/
inductive MailboxField where
  | cr3
  | address
  | targets
  | kind
  | published
deriving DecidableEq, Repr

/-- The next step of a shootdown.  Loop counters range over all processor
numbers. -/
inductive Stage where
  | entered
  | sampling (next : Nat) (targets : Cpu → Bool)
  | selected (targets : Cpu → Bool)
  | drawing (targets : Cpu → Bool)
  | restarting (targets : Cpu → Bool)
  | resetting (round : Round) (next : Nat)
  | storing (round : Round) (field : MailboxField)
  | applying (round : Option Round)
  | waiting (round : Round) (next : Nat)
  | rechecking (round : Round) (next : Nat)
  | returned

inductive Control where
  | running
  | shooting (call : Call) (stage : Stage)

def Control.returned? : Control → Option Call
  | .shooting call .returned => some call
  | _ => none

theorem Control.eq_of_returned?
    {control : Control} {call : Call} (returned : control.returned? = some call) :
    control = .shooting call .returned := by
  unfold Control.returned? at returned
  split at returned
  · cases returned
    rfl
  · cases returned

/-- The next step of `service_tlb_requests` for one source, with the values
read so far. -/
inductive Phase where
  | loadPublished
  | loadTargets (generation : Generation)
  | loadAck (generation : Generation)
  | loadKind (generation : Generation)
  | loadCr3 (generation : Generation) (kind : ShootdownKind)
  | loadAddress (generation : Generation) (kind : ShootdownKind) (cr3 : Cr3)
  | apply (generation : Generation) (kind : ShootdownKind) (cr3 : Cr3) (address : Address)
  | storeAck (generation : Generation)

def Phase.generation? : Phase → Option Generation
  | .loadPublished => none
  | .loadTargets generation => some generation
  | .loadAck generation => some generation
  | .loadKind generation => some generation
  | .loadCr3 generation _ => some generation
  | .loadAddress generation _ _ => some generation
  | .apply generation _ _ _ => some generation
  | .storeAck generation => some generation

structure Service where
  source : Nat
  phase : Phase

/-- `publish` is the value of a completed `mov cr3` of `write_cr3` whose
publication is still to come; no other step of the processor precedes it.
`service` is a running `service_tlb_requests`, started by an interrupt or by
the waiting loop. -/
structure CpuState where
  cr3 : Cr3
  tlb : List TlbEntry
  publish : Option Cr3 := none
  service : Option Service := none
  control : Control := .running

namespace CpuState

/-- A write of CR3 drops the user translations. -/
def loadCr3 (cpu : CpuState) (cr3 : Cr3) : CpuState :=
  { cpu with cr3 := cr3, tlb := cpu.tlb.filter fun entry => !userAddress entry.address }

def writeCr3 (cpu : CpuState) (cr3 : Cr3) : CpuState :=
  { cpu.loadCr3 cr3 with publish := some cr3 }

def tlbFlushAll (cpu : CpuState) : CpuState :=
  cpu.writeCr3 cpu.cr3

def invlpg (cpu : CpuState) (address : Address) : CpuState :=
  { cpu with tlb := cpu.tlb.filter fun entry => decide (entry.address ≠ address) }

/-- Toggling CR4.PGE drops the global translations as well. -/
def flushGlobal (cpu : CpuState) : CpuState :=
  { cpu with tlb := [] }

def applyShootdown (cpu : CpuState) (kind : ShootdownKind) (requestCr3 : Cr3)
    (address : Address) : CpuState :=
  if kind.isAddressSpaceSpecific && decide (normaliseCr3 cpu.cr3 ≠ normaliseCr3 requestCr3) then cpu
  else if kind = .kernelAll then cpu.flushGlobal
  else if kind.isFullFlush then cpu.tlbFlushAll
  else cpu.invlpg address

/-- Between its steps the processor takes interrupts when it runs ordinary
code, also between a leaf change and the call of the shootdown. -/
def interruptible (cpu : CpuState) : Bool :=
  cpu.publish.isNone && cpu.service.isNone &&
    match cpu.control with
    | .running => true
    | .shooting _ .entered => true
    | .shooting _ _ => false

def idle (cpu : CpuState) : Bool :=
  cpu.publish.isNone && cpu.service.isNone &&
    match cpu.control with
    | .running => true
    | .shooting _ _ => false

end CpuState

/-! ## The machine -/

structure Machine where
  online : Cpu → Bool
  cpus : Cpu → CpuState
  activeCr3 : Cpu → Cr3
  requests : Cpu → TlbRequest := fun _ => {}
  acks : Cpu → Cpu → Generation := fun _ _ => 0
  userTables : Cr3 → Address → Option Nat
  kernelTable : Address → Option Nat
  clock : Nat := 0

inductive Label where
  /-- A leaf change, after which the processor calls the shootdown. -/
  | change (cpu : Cpu) (kind : ShootdownKind) (cr3 : Cr3)
      (address : Address) (leaves : Address → Option Nat)
  /-- The next atomic step of what the processor is executing. -/
  | advance (cpu : Cpu)
  /-- A shootdown interrupt is taken. -/
  | interrupt (cpu : Cpu)
  /-- The root change of `prepare_incoming_task`. -/
  | switch (cpu : Cpu) (cr3 : Cr3)
  /-- The bare `mov cr3` of `jump_to_user` and `resume_user_context`. -/
  | enter (cpu : Cpu) (cr3 : Cr3)
  /-- The processor caches a present leaf of its current root. -/
  | fill (cpu : Cpu) (address : Address)

def Label.cpu : Label → Cpu
  | .change cpu _ _ _ _ => cpu
  | .advance cpu => cpu
  | .interrupt cpu => cpu
  | .switch cpu _ => cpu
  | .enter cpu _ => cpu
  | .fill cpu _ => cpu

namespace Machine

def setCpu (machine : Machine) (cpu : Cpu) (state : CpuState) : Machine :=
  { machine with cpus := update machine.cpus cpu state }

def setService (machine : Machine) (cpu : Cpu) (service : Option Service) : Machine :=
  machine.setCpu cpu { machine.cpus cpu with service := service }

def setStage (machine : Machine) (cpu : Cpu) (call : Call) (stage : Stage) : Machine :=
  machine.setCpu cpu { machine.cpus cpu with control := .shooting call stage }

def setRequest (machine : Machine) (cpu : Cpu) (request : TlbRequest) : Machine :=
  { machine with requests := update machine.requests cpu request }

def setAck (machine : Machine) (source target : Cpu) (generation : Generation) : Machine :=
  { machine with
    acks := update machine.acks source (update (machine.acks source) target generation) }

def publishActiveCr3 (machine : Machine) (cpu : Cpu) (cr3 : Cr3) : Machine :=
  { machine.setCpu cpu { machine.cpus cpu with publish := none } with
    activeCr3 := update machine.activeCr3 cpu (normaliseCr3 cr3) }

/-- One step of `service_tlb_requests(cpu)`. -/
def serve (machine : Machine) (cpu : Cpu) (service : Service) : Machine :=
  if inside : service.source < maxCpus then
    let source : Cpu := ⟨service.source, inside⟩
    let request := machine.requests source
    let proceed (phase : Phase) := machine.setService cpu (some ⟨service.source, phase⟩)
    let skip (current : Machine) :=
      current.setService cpu (some ⟨service.source + 1, .loadPublished⟩)
    match service.phase with
    | .loadPublished =>
      if request.published = 0 then skip machine
      else proceed (.loadTargets request.published)
    | .loadTargets generation =>
      if request.targets cpu then proceed (.loadAck generation)
      else skip machine
    | .loadAck generation =>
      if machine.acks source cpu = generation then skip machine
      else proceed (.loadKind generation)
    | .loadKind generation =>
      match ShootdownKind.fromRaw request.kind with
      | some kind => proceed (.loadCr3 generation kind)
      | none => proceed (.storeAck generation)
    | .loadCr3 generation kind => proceed (.loadAddress generation kind request.cr3)
    | .loadAddress generation kind cr3 => proceed (.apply generation kind cr3 request.address)
    | .apply generation kind cr3 address =>
      machine.setCpu cpu
        { (machine.cpus cpu).applyShootdown kind cr3 address with
          service := some ⟨service.source, .storeAck generation⟩ }
    | .storeAck generation => skip (machine.setAck source cpu generation)
  else machine.setService cpu none

def storeField (request : TlbRequest) (call : Call) (round : Round) : MailboxField → TlbRequest
  | .cr3 => { request with cr3 := normaliseCr3 call.cr3 }
  | .address => { request with address := call.address }
  | .targets => { request with targets := round.targets }
  | .kind => { request with kind := call.kind.toRaw }
  | .published => { request with published := round.generation }

def afterField (round : Round) : MailboxField → Stage
  | .cr3 => .storing round .address
  | .address => .storing round .targets
  | .targets => .storing round .kind
  | .kind => .storing round .published
  | .published => .applying (some round)

def afterApply : Option Round → Stage
  | none => .returned
  | some round => .waiting round 0

/-- One step of `shootdown` on its source processor. -/
def shoot (machine : Machine) (cpu : Cpu) (call : Call) : Stage → Machine
  | .entered =>
    let targets := fun other => machine.online other && decide (other ≠ cpu)
    machine.setStage cpu call
      (if call.kind.isAddressSpaceSpecific then .sampling 0 targets
       else .selected targets)
  | .sampling next targets =>
    if inside : next < maxCpus then
      let other : Cpu := ⟨next, inside⟩
      machine.setStage cpu call (.sampling (next + 1)
        (if targets other &&
            !shootdownTargetsActiveRoot call.kind call.cr3 (machine.activeCr3 other) then
          update targets other false
         else targets))
    else machine.setStage cpu call (.selected targets)
  | .selected targets =>
    machine.setStage cpu call
      (if ∀ other, targets other = false then .applying none
       else .drawing targets)
  | .drawing targets =>
    let request := machine.requests cpu
    let generation := request.sequence + 1
    (machine.setRequest cpu
      { request with sequence := generation }).setStage cpu call
        (if generation = 0 then .restarting targets
         else .resetting ⟨targets, generation⟩ 0)
  | .restarting targets =>
    (machine.setRequest cpu
      { machine.requests cpu with sequence := 1 }).setStage cpu call (.resetting ⟨targets, 1⟩ 0)
  | .resetting round next =>
    if inside : next < maxCpus then
      let other : Cpu := ⟨next, inside⟩
      (if round.targets other then machine.setAck cpu other (round.generation - 1)
        else machine).setStage cpu call (.resetting round (next + 1))
    else machine.setStage cpu call (.storing round .cr3)
  | .storing round field =>
    (machine.setRequest cpu (storeField (machine.requests cpu) call round field)).setStage
      cpu call (afterField round field)
  | .applying round =>
    machine.setCpu cpu
      { (machine.cpus cpu).applyShootdown call.kind call.cr3 call.address with
        control := .shooting call (afterApply round) }
  | .waiting round next =>
    if inside : next < maxCpus then
      let other : Cpu := ⟨next, inside⟩
      if round.targets other && decide (machine.acks cpu other ≠ round.generation) then
        machine.setCpu cpu
          { machine.cpus cpu with
            service := some ⟨0, .loadPublished⟩
            control := .shooting call (.rechecking round next) }
      else machine.setStage cpu call (.waiting round (next + 1))
    else machine.setStage cpu call .returned
  | .rechecking round next =>
    if inside : next < maxCpus then
      let other : Cpu := ⟨next, inside⟩
      machine.setStage cpu call
        (if call.kind.isAddressSpaceSpecific &&
            !shootdownTargetsActiveRoot call.kind call.cr3 (machine.activeCr3 other) then
          .waiting round (next + 1)
         else .waiting round next)
    else machine.setStage cpu call (.waiting round next)
  | .returned => machine.setCpu cpu { machine.cpus cpu with control := .running }

def advance (machine : Machine) (cpu : Cpu) : Option Machine :=
  match (machine.cpus cpu).publish with
  | some cr3 => some (machine.publishActiveCr3 cpu cr3)
  | none =>
    match (machine.cpus cpu).service with
    | some service => some (machine.serve cpu service)
    | none =>
      match (machine.cpus cpu).control with
      | .running => none
      | .shooting call stage => some (machine.shoot cpu call stage)

def changeLeaves (machine : Machine) (call : Call) (leaves : Address → Option Nat) : Machine :=
  match call.kind with
  | .kernelPage =>
    { machine with kernelTable := update machine.kernelTable call.address (leaves call.address) }
  | .kernelAll => { machine with kernelTable := leaves }
  | .addressSpacePage =>
    { machine with
      userTables := update machine.userTables (normaliseCr3 call.cr3)
        (update (machine.userTables (normaliseCr3 call.cr3)) call.address (leaves call.address)) }
  | .addressSpaceAll =>
    { machine with userTables := update machine.userTables (normaliseCr3 call.cr3) leaves }

def change (machine : Machine) (cpu : Cpu) (kind : ShootdownKind) (cr3 : Cr3)
    (address : Address) (leaves : Address → Option Nat) :
    Option Machine :=
  if userPage : kind = .addressSpacePage → userAddress address = true then
    let call : Call := ⟨kind, cr3, address, machine.clock + 1, userPage⟩
    some
      ({ machine.changeLeaves call leaves with
          clock := machine.clock + 1 }.setStage cpu call .entered)
  else none

def walk (machine : Machine) (cpu : Cpu) (address : Address) : Option Nat :=
  if userAddress address then machine.userTables (normaliseCr3 (machine.cpus cpu).cr3) address
  else machine.kernelTable address

def fill (machine : Machine) (cpu : Cpu) (address : Address) : Option Machine :=
  (machine.walk cpu address).map fun leaf =>
    machine.setCpu cpu
      { machine.cpus cpu with tlb := ⟨address, leaf, machine.clock⟩ :: (machine.cpus cpu).tlb }

/-- `prepare_incoming_task` writes CR3 only when its image differs. -/
def switch (machine : Machine) (cpu : Cpu) (cr3 : Cr3) : Machine :=
  if (machine.cpus cpu).cr3 ≠ cr3 then machine.setCpu cpu ((machine.cpus cpu).writeCr3 cr3)
  else machine

def step (machine : Machine) (label : Label) : Option Machine :=
  if machine.online label.cpu then
    match label with
    | .change cpu kind cr3 address leaves =>
      if (machine.cpus cpu).idle then machine.change cpu kind cr3 address leaves
      else none
    | .advance cpu => machine.advance cpu
    | .interrupt cpu =>
      if (machine.cpus cpu).interruptible then
        some (machine.setService cpu (some ⟨0, .loadPublished⟩))
      else none
    | .switch cpu cr3 =>
      if (machine.cpus cpu).idle then some (machine.switch cpu cr3)
      else none
    | .enter cpu cr3 =>
      if (machine.cpus cpu).idle then some (machine.setCpu cpu ((machine.cpus cpu).loadCr3 cr3))
      else none
    | .fill cpu address => machine.fill cpu address
  else none

end Machine

end Xenith.Arch
