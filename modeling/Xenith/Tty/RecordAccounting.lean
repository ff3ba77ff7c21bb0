import Xenith.Lib.Execution
import Xenith.Tty.LineDiscipline

/-!
# Records and ready bytes

The records say how many of the ready bytes belong to which line, as long as
raw and canonical input do not mix.
-/

namespace Xenith.Tty

open Util RingBuffer
open Execution

/-! ## The lines behind the records -/

/-- The line that a byte completes. -/
def committed (tty : LineDiscipline) (byte : UInt8) : Option (List UInt8) :=
  match tty.attributes.classify byte with
  | .endOfLine =>
    if tty.hasRoom (tty.edit.bytes.length + 1) then some (tty.edit.bytes ++ [10])
    else none
  | .endOfFile =>
    if tty.hasRoom tty.edit.bytes.length then some tty.edit.bytes
    else none
  | _ => none

def committedLines (tty : LineDiscipline) (doEcho : Bool) : List UInt8 → List (List UInt8)
  | [] => []
  | byte :: rest =>
    (committed tty byte).toList ++ committedLines (tty.feedByte byte doEcho) doEcho rest

/-- The line discipline with the lines that were completed and not read: the
rest of the one being read and those behind it. -/
structure Ledger where
  tty : LineDiscipline
  current : List UInt8
  lines : List (List UInt8)

namespace Ledger

def start : Ledger where
  tty := .new
  current := []
  lines := []

/-- What is left of the oldest line that is not read to its end. -/
def unread (ledger : Ledger) : List UInt8 :=
  if ledger.tty.activeRecord = 0 then ledger.lines.headD []
  else ledger.current

def unreadLater (ledger : Ledger) : List (List UInt8) :=
  if ledger.tty.activeRecord = 0 then ledger.lines.tail else ledger.lines

def accountRead (ledger : Ledger) :
    Option LineDiscipline.ReadResult → List UInt8 × List (List UInt8)
  | some (.ok (some bytes)) =>
    if ledger.tty.canonical then (ledger.unread.drop bytes.length, ledger.unreadLater)
    else (ledger.current, ledger.lines)
  | _ => (ledger.current, ledger.lines)

def account (ledger : Ledger) (result : Option LineDiscipline.ReadResult) :
    LineDiscipline.Operation → List UInt8 × List (List UInt8)
  | .feedInputByte byte => (ledger.current, ledger.lines ++ (committed ledger.tty byte).toList)
  | .feedEvent event doEcho =>
    if event.pressed = true ∧ ledger.tty.editKey event.code doEcho = none then
      (ledger.current, ledger.lines ++ committedLines ledger.tty doEcho event.bytes)
    else (ledger.current, ledger.lines)
  | .setAttributes _ flush => if flush then ([], []) else (ledger.current, ledger.lines)
  | _ => ledger.accountRead result

def step (ledger : Ledger) (operation : LineDiscipline.Operation) : Option Ledger :=
  (ledger.tty.perform operation).map fun (result, next) =>
    let (current, lines) := ledger.account result operation
    { tty := next, current := current, lines := lines }

end Ledger

def LineDiscipline.endsLine (tty : LineDiscipline) (byte : UInt8) : Bool :=
  decide (tty.attributes.classify byte = .endOfLine) ||
    decide (tty.attributes.classify byte = .endOfFile)

/-- No byte is ready beyond those of the records. -/
def LineDiscipline.NoRawBytes (tty : LineDiscipline) : Prop :=
  tty.ready.len ≤ tty.activeRecord + tty.recordBytes

instance {tty : LineDiscipline} : Decidable tty.NoRawBytes :=
  inferInstanceAs (Decidable (_ ≤ _))

/-- A line ends only while no raw byte waits, and a raw read is made only
while no byte of a line waits. -/
def Unmixed (tty : LineDiscipline) : LineDiscipline.Operation → Prop
  | .feedInputByte byte => tty.endsLine byte = true → tty.NoRawBytes
  | .feedEvent event _ => ∀ byte ∈ event.bytes, tty.endsLine byte = true → tty.NoRawBytes
  | .tryRead _ => tty.canonical = false → tty.activeRecord + tty.recordBytes = 0
  | .readOnce _ _ _ _ => tty.canonical = false → tty.activeRecord + tty.recordBytes = 0
  | _ => True

instance {tty : LineDiscipline} :
    (operation : LineDiscipline.Operation) → Decidable (Unmixed tty operation)
  | .feedInputByte _ => inferInstanceAs (Decidable (_ → _))
  | .feedEvent _ _ => inferInstanceAs (Decidable (∀ byte ∈ _, _ → _))
  | .tryRead _ => inferInstanceAs (Decidable (_ → _))
  | .readOnce _ _ _ _ => inferInstanceAs (Decidable (_ → _))
  | .setAttributes .. | .pushOutput _ | .drainOutput _ => isTrue trivial

/-- The ready bytes are those of the lines, followed by raw ones. -/
structure Coupled (ledger : Ledger) (raw : List UInt8) : Prop where
  ready : ledger.tty.ready.contents = ledger.current ++ ledger.lines.flatten ++ raw
  active : ledger.current.length = ledger.tty.activeRecord
  lengths : ledger.lines.map List.length = ledger.tty.records.contents.map CanonicalRecord.length
  endOfFile : ∀ record ∈ ledger.tty.records.contents, record.eof = true → record.length = 0

namespace Coupled

variable {ledger : Ledger} {raw : List UInt8}

theorem start : Coupled Ledger.start [] where
  ready := rfl
  active := rfl
  lengths := rfl
  endOfFile := by
    intro record member
    cases member

theorem flatten_length (coupled : Coupled ledger raw) :
    ledger.lines.flatten.length = ledger.tty.recordBytes := by
  rw [List.length_flatten, coupled.lengths, LineDiscipline.recordBytes]

theorem ready_length (coupled : Coupled ledger raw) :
    ledger.tty.ready.len = ledger.tty.activeRecord + ledger.tty.recordBytes + raw.length := by
  rw [← length_contents, coupled.ready, List.length_append, List.length_append,
    coupled.active, coupled.flatten_length]

theorem raw_eq_nil (coupled : Coupled ledger raw) (none : ledger.tty.NoRawBytes) : raw = [] := by
  have length := coupled.ready_length
  unfold LineDiscipline.NoRawBytes at none
  exact List.length_eq_zero_iff.mp (by omega)

end Coupled

/-! ## Input -/

variable {next : LineDiscipline}

namespace LineDiscipline

variable {tty : LineDiscipline} {byte : UInt8} {doEcho : Bool}

structure SameInput (tty next : LineDiscipline) : Prop where
  ready : next.ready = tty.ready
  records : next.records = tty.records
  active : next.activeRecord = tty.activeRecord
  attributes : next.attributes = tty.attributes

theorem sameInput_queueOutputIf
    {condition : Bool} {bytes : List UInt8} (same : SameInput tty next) :
    SameInput tty (next.queueOutputIf condition bytes) := by
  unfold queueOutputIf queueOutput
  split
  · exact { same with }
  · exact same

theorem sameInput_edit {edit : EditBuffer} : SameInput tty { tty with edit := edit } :=
  ⟨rfl, rfl, rfl, rfl⟩

theorem sameInput_killLine : SameInput tty (tty.killLine doEcho) :=
  sameInput_queueOutputIf sameInput_edit

theorem sameInput_raise {signal : Signal} : SameInput tty (tty.raise signal doEcho) := by
  have same : SameInput tty
      ((tty.killLine doEcho).queueOutputIf (doEcho && tty.echo) (signalEcho signal)) :=
    sameInput_queueOutputIf sameInput_killLine
  exact { same with }

theorem sameInput_eraseBeforeCursor : SameInput tty (tty.eraseBeforeCursor doEcho) := by
  unfold eraseBeforeCursor
  split
  · exact ⟨rfl, rfl, rfl, rfl⟩
  · exact sameInput_queueOutputIf sameInput_edit

theorem sameInput_deleteAtCursor : SameInput tty (tty.deleteAtCursor doEcho) := by
  unfold deleteAtCursor
  split
  · exact ⟨rfl, rfl, rfl, rfl⟩
  · exact sameInput_queueOutputIf sameInput_edit

theorem sameInput_insertByte : SameInput tty (tty.insertByte byte doEcho) := by
  unfold insertByte
  split
  · exact sameInput_queueOutputIf ⟨rfl, rfl, rfl, rfl⟩
  · exact sameInput_queueOutputIf sameInput_edit

theorem sameInput_editKey {code : KeyCode}
    (edited : tty.editKey code doEcho = some next) : SameInput tty next := by
  revert edited
  fun_cases editKey with
  | case1 | case3 | case5 | case6 =>
    rintro ⟨⟩
    exact sameInput_queueOutputIf sameInput_edit
  | case7 =>
    rintro ⟨⟩
    exact sameInput_deleteAtCursor
  | _ => nofun

end LineDiscipline

section Input

open LineDiscipline

variable {ledger : Ledger} {raw bytes : List UInt8} {byte : UInt8} {doEcho : Bool}
variable {tty : LineDiscipline}

theorem Coupled.of_sameInput (coupled : Coupled ledger raw) (same : SameInput ledger.tty tty) :
    Coupled { ledger with tty := tty } raw where
  ready := same.ready ▸ coupled.ready
  active := same.active ▸ coupled.active
  lengths := same.records ▸ coupled.lengths
  endOfFile := same.records ▸ coupled.endOfFile

/-- A line that finds room is queued with its record. -/
theorem Coupled.enqueueRecord
    (bytes : List UInt8) (record : CanonicalRecord) (coupled : Coupled ledger [])
    (room : ledger.tty.hasRoom bytes.length = true) (isLength : record.length = bytes.length)
    (endOfFile : record.eof = true → record.length = 0) :
    Coupled
      { ledger with
        tty := ledger.tty.enqueueRecord bytes record
        lines := ledger.lines ++ [bytes] } [] := by
  unfold hasRoom at room
  rw [Bool.and_eq_true, decide_eq_true_eq, Bool.not_eq_true'] at room
  have fits := ledger.tty.ready.fits
  have space : ledger.tty.records.len < recordCapacity :=
    Nat.lt_of_le_of_ne ledger.tty.records.fits (of_decide_eq_false room.2)
  have readyItems :
      (ledger.tty.ready.pushAll bytes).contents = ledger.tty.ready.contents ++ bytes :=
    contents_pushAll (by omega)
  have recordItems :
      (ledger.tty.records.push record).2.contents = ledger.tty.records.contents ++ [record] :=
    contents_push space
  refine ⟨?_, coupled.active, ?_, ?_⟩
  · simp [LineDiscipline.enqueueRecord, readyItems, coupled.ready]
  · simp [LineDiscipline.enqueueRecord, recordItems, coupled.lengths, isLength]
  · intro other member
    simp only [LineDiscipline.enqueueRecord, recordItems,
      List.mem_append, List.mem_singleton] at member
    rcases member with member | rfl
    · exact coupled.endOfFile other member
    · exact endOfFile

theorem Coupled.feedRaw (coupled : Coupled ledger raw) :
    ∃ longer, Coupled { ledger with tty := ledger.tty.feedRaw byte doEcho } longer := by
  have same {ready : RingBuffer UInt8 inputCapacity} {condition : Bool} :
      SameInput { ledger.tty with ready := ready }
        ({ ledger.tty with ready := ready }.queueOutputIf condition [byte]) :=
    sameInput_queueOutputIf ⟨rfl, rfl, rfl, rfl⟩
  rcases push_cases ledger.tty.ready byte with ⟨_, pushed⟩ | ⟨kept, _⟩
  · refine ⟨raw ++ [byte], ?_⟩
    have longer :
        Coupled
          { ledger with tty := { ledger.tty with ready := (ledger.tty.ready.push byte).2 } }
          (raw ++ [byte]) := by
      refine ⟨?_, coupled.active, coupled.lengths, coupled.endOfFile⟩
      simp only [pushed, coupled.ready, List.append_assoc]
    exact longer.of_sameInput same
  · refine ⟨raw, ?_⟩
    have unchanged :
        Coupled
          { ledger with
            tty := { ledger.tty with
              ready := (ledger.tty.ready.push byte).2 } } raw := by
      rw [kept]
      exact coupled
    exact unchanged.of_sameInput same

/-- A line is queued if there is room, and refused otherwise. -/
theorem Coupled.commit (bytes : List UInt8) (record : CanonicalRecord)
    {refused done : LineDiscipline} (coupled : Coupled ledger [])
    (isLength : record.length = bytes.length) (endOfFile : record.eof = true → record.length = 0)
    (refusedSame : SameInput ledger.tty refused)
    (doneSame : SameInput (ledger.tty.enqueueRecord bytes record) done) :
    Coupled
      { ledger with
        tty := if ledger.tty.hasRoom record.length = false then refused else done
        lines := ledger.lines ++
          (if ledger.tty.hasRoom record.length then some bytes
          else none).toList } [] := by
  cases room : ledger.tty.hasRoom record.length with
  | false => simpa using coupled.of_sameInput refusedSame
  | true =>
    rw [isLength] at room
    exact (coupled.enqueueRecord bytes record room isLength endOfFile).of_sameInput doneSame

theorem canonical_of_endsLine (ends : tty.endsLine byte = true) : tty.canonical = true := by
  by_contra isRaw
  rw [canonical] at isRaw
  simp only [endsLine, TerminalAttributes.classify, isRaw, if_true,
    Bool.or_eq_true, decide_eq_true_eq] at ends
  split at ends
  · simp at ends
  · simp at ends

theorem not_canonical_of_raw {pushed : UInt8} (isRaw : tty.attributes.classify byte = .raw pushed) :
    tty.canonical = false := by
  by_contra isCanonical
  rw [canonical] at isCanonical
  simp only [TerminalAttributes.classify, isCanonical, Bool.true_eq_false, if_false] at isRaw
  split at isRaw
  · cases isRaw
  · repeat' split at isRaw
    all_goals cases isRaw

/-- A byte that ends a line finds no raw bytes; only raw mode adds some. -/
theorem Coupled.feedByte
    (coupled : Coupled ledger raw) (unmixed : ledger.tty.endsLine byte = true → raw = []) :
    ∃ after,
      Coupled
        { ledger with
          tty := ledger.tty.feedByte byte doEcho
          lines := ledger.lines ++ (committed ledger.tty byte).toList }
        after ∧
      (ledger.tty.canonical = true → after = raw) := by
  unfold LineDiscipline.feedByte committed
  cases classified : ledger.tty.attributes.classify byte with
  | signal signal => exact ⟨raw, by simpa using coupled.of_sameInput sameInput_raise, fun _ => rfl⟩
  | raw =>
    obtain ⟨longer, after⟩ := coupled.feedRaw
    refine ⟨longer, by simpa using after, ?_⟩
    intro isCanonical
    rw [not_canonical_of_raw classified] at isCanonical
    cases isCanonical
  | erase =>
    exact ⟨raw,
      by simpa using coupled.of_sameInput sameInput_eraseBeforeCursor,
      fun _ => rfl⟩
  | kill => exact ⟨raw, by simpa using coupled.of_sameInput sameInput_killLine, fun _ => rfl⟩
  | endOfFile =>
    have isEmpty : raw = [] := unmixed (by simp [endsLine, classified])
    rw [isEmpty] at coupled ⊢
    refine ⟨[], ?_, fun _ => rfl⟩
    exact coupled.commit _ ⟨_, decide (ledger.tty.edit.bytes.length = 0)⟩
      rfl (by simp) (sameInput_queueOutputIf ⟨rfl, rfl, rfl, rfl⟩) ⟨rfl, rfl, rfl, rfl⟩
  | endOfLine =>
    have isEmpty : raw = [] := unmixed (by simp [endsLine, classified])
    rw [isEmpty] at coupled ⊢
    refine ⟨[], ?_, fun _ => rfl⟩
    exact coupled.commit (ledger.tty.edit.bytes ++ [10])
      ⟨ledger.tty.edit.bytes.length + 1, false⟩ (by simp) nofun
      (sameInput_queueOutputIf ⟨rfl, rfl, rfl, rfl⟩) (sameInput_queueOutputIf ⟨rfl, rfl, rfl, rfl⟩)
  | insert => exact ⟨raw, by simpa using coupled.of_sameInput sameInput_insertByte, fun _ => rfl⟩

theorem attributes_feedByte : (tty.feedByte byte doEcho).attributes = tty.attributes := by
  have quiet {tty : LineDiscipline} {condition : Bool} {bytes : List UInt8} :
      (tty.queueOutputIf condition bytes).attributes = tty.attributes :=
    (sameInput_queueOutputIf ⟨rfl, rfl, rfl, rfl⟩).attributes
  unfold LineDiscipline.feedByte
  cases tty.attributes.classify byte with
  | signal signal => exact sameInput_raise.attributes
  | raw => exact quiet
  | erase => exact sameInput_eraseBeforeCursor.attributes
  | kill => exact sameInput_killLine.attributes
  | endOfFile =>
    fun_cases commitEof with
    | case1 => exact quiet
    | case2 => rfl
  | endOfLine =>
    fun_cases commitLine with
    | _ => exact quiet
  | insert => exact sameInput_insertByte.attributes

theorem Coupled.feedBytes (coupled : Coupled ledger raw)
    (unmixed : ∀ byte ∈ bytes, ledger.tty.endsLine byte = true → raw = []) :
    ∃ after,
      Coupled
        { ledger with
          tty := ledger.tty.feedBytes bytes doEcho
          lines := ledger.lines ++ committedLines ledger.tty doEcho bytes }
        after := by
  induction bytes generalizing ledger raw with
  | nil => exact ⟨raw, by
      simpa [committedLines, LineDiscipline.feedBytes] using coupled⟩
  | cons byte rest ih =>
    obtain ⟨after, fed, kept⟩ := coupled.feedByte (unmixed byte (List.mem_cons_self ..))
    have unmixedLater :
        ∀ other ∈ rest, (ledger.tty.feedByte byte doEcho).endsLine other = true → after = [] := by
      intro other member ends
      rw [endsLine, attributes_feedByte] at ends
      rw [kept (canonical_of_endsLine ends)]
      exact unmixed other (List.mem_cons_of_mem _ member) ends
    obtain ⟨final, later⟩ := ih fed unmixedLater
    refine ⟨final, ?_⟩
    simpa [committedLines, LineDiscipline.feedBytes] using later

end Input

/-! ## Reads -/

section Reads

open LineDiscipline

variable {ledger : Ledger} {raw : List UInt8} {size : Nat}

theorem drainRaw_total {tty : LineDiscipline} :
    ∃ bytes next, tty.drainRaw size = some (bytes, next) ∧ ∃ count,
      next.ready.contents = tty.ready.contents.drop count ∧ next = { tty with ready := next.ready } := by
  obtain ⟨rest, popped, isRest⟩ := popMany_of_le (Nat.min_le_right size tty.ready.len)
  have drained :
      tty.drainRaw size =
        some (tty.ready.contents.take (min size tty.ready.len), { tty with ready := rest }) := by
    unfold drainRaw
    rw [popped]
  exact ⟨_, _, drained, _, isRest, rfl⟩

theorem drainOutput_total (tty : LineDiscipline) (size : Nat) :
    ∃ bytes next, tty.drainOutput size = some (bytes, next) ∧ SameInput tty next := by
  obtain ⟨rest, popped, _⟩ := popMany_of_le (Nat.min_le_right size tty.output.len)
  have drained :
      tty.drainOutput size =
        some (tty.output.contents.take (min size tty.output.len), { tty with output := rest }) := by
    unfold drainOutput
    rw [popped]
  exact ⟨_, _, drained, rfl, rfl, rfl, rfl⟩

/-- A read takes no bytes, the front of the oldest line, or, in raw mode,
ready bytes whatever they belong to. -/
inductive ReadEffect (ledger : Ledger) (raw : List UInt8) : ReadResult → LineDiscipline → Prop
  | nothing {result : ReadResult} {next : LineDiscipline} (same : SameInput ledger.tty next)
      (noBytes : ∀ bytes, result ≠ .ok (some bytes)) :
      ReadEffect ledger raw result next
  | line {bytes : List UInt8} {next : LineDiscipline} (isCanonical : ledger.tty.canonical = true)
      (front : bytes <+: ledger.unread) (after :
        Coupled
          { tty := next
            current := ledger.unread.drop bytes.length
            lines := ledger.unreadLater } raw) :
      ReadEffect ledger raw (.ok (some bytes)) next
  | drained {bytes : List UInt8} {next : LineDiscipline} {count : Nat}
      (isRaw : ledger.tty.canonical = false)
      (items : next.ready.contents = ledger.tty.ready.contents.drop count)
      (same : next = { ledger.tty with ready := next.ready }) :
      ReadEffect ledger raw (.ok (some bytes)) next

theorem readEffect_interrupted {signal : Signal} :
    ReadEffect ledger raw (.error signal) { ledger.tty with interrupted := none } :=
  .nothing ⟨rfl, rfl, rfl, rfl⟩ (by simp)

theorem readEffect_none : ReadEffect ledger raw (.ok none) ledger.tty :=
  .nothing ⟨rfl, rfl, rfl, rfl⟩ (by simp)

theorem readEffect_drainRaw (isRaw : ledger.tty.canonical = false) (size : Nat) :
    ∃ bytes next, ledger.tty.drainRaw size = some (bytes, next) ∧
      ReadEffect ledger raw (.ok (some bytes)) next := by
  obtain ⟨bytes, next, drained, _, items, same⟩ := drainRaw_total
  exact ⟨bytes, next, drained, .drained isRaw items same⟩

section Coupled

variable (coupled : Coupled ledger raw)

include coupled

/-- A read of the active record takes the front of its line. -/
theorem Coupled.readRecord (size : Nat) :
    ∃ bytes next,
      ledger.tty.readRecord size = some (.ok (some bytes), next) ∧
        bytes <+: ledger.current ∧
        Coupled
          { ledger with tty := next, current := ledger.current.drop bytes.length }
          raw := by
  let count := min size ledger.tty.activeRecord
  have inLine : count ≤ ledger.current.length := by
    rw [coupled.active]
    exact Nat.min_le_right _ _
  have isReady := coupled.ready
  rw [List.append_assoc] at isReady
  have enough : count ≤ ledger.tty.ready.len := by
    rw [← length_contents, isReady, List.length_append]
    omega
  obtain ⟨rest, popped, isRest⟩ := popMany_of_le enough
  rw [isReady, List.take_append_of_le_length inLine] at popped
  rw [isReady, List.drop_append_of_le_length inLine] at isRest
  have takenLength : (ledger.current.take count).length = count := List.length_take_of_le inLine
  refine ⟨ledger.current.take count,
    { ledger.tty with ready := rest, activeRecord := ledger.tty.activeRecord - count },
    ?_, List.take_prefix _ _, ?_⟩
  · unfold LineDiscipline.readRecord
    simp only
    rw [popped]
  · rw [takenLength]
    refine ⟨?_, ?_, coupled.lengths, coupled.endOfFile⟩
    · simp [isRest]
    · rw [List.length_drop, coupled.active]

theorem Coupled.activate
    {record : CanonicalRecord} {records : RingBuffer CanonicalRecord recordCapacity}
    (idle : ledger.tty.activeRecord = 0)
    (popped : ledger.tty.records.pop = some (record, records)) :
    Coupled
      { tty := { ledger.tty with records := records, activeRecord := record.length }
        current := ledger.unread
        lines := ledger.unreadLater } raw := by
  have isRecords := contents_pop popped
  have lengths := coupled.lengths
  have isReady := coupled.ready
  have noCurrent : ledger.current = [] := by
    rw [← List.length_eq_zero_iff, coupled.active, idle]
  rw [isRecords, List.map_cons] at lengths
  unfold Ledger.unread Ledger.unreadLater
  rw [if_pos idle, if_pos idle]
  cases isLines : ledger.lines with
  | nil =>
    rw [isLines] at lengths
    cases lengths
  | cons =>
    rw [isLines] at lengths isReady
    rw [List.map_cons, List.cons.injEq] at lengths
    refine ⟨?_, lengths.1, lengths.2, ?_⟩
    · simpa [noCurrent] using isReady
    · intro other member
      apply coupled.endOfFile other
      rw [isRecords]
      exact List.mem_cons_of_mem _ member

/-- A canonical read finds nothing, or takes the front of the oldest line. -/
theorem Coupled.tryReadCanonical (size : Nat) :
    ledger.tty.tryReadCanonical size = some (.ok none, ledger.tty) ∨
      ∃ bytes next,
        ledger.tty.tryReadCanonical size = some (.ok (some bytes), next) ∧
          bytes <+: ledger.unread ∧
          Coupled
            { tty := next
              current := ledger.unread.drop bytes.length
              lines := ledger.unreadLater } raw := by
  unfold LineDiscipline.tryReadCanonical
  split
  · next idle =>
    cases popped : ledger.tty.records.pop with
    | none => exact Or.inl rfl
    | some front =>
      obtain ⟨record, records⟩ := front
      refine Or.inr ?_
      have activated := coupled.activate idle popped
      simp only
      split
      · next isEof =>
        have isEmpty : record.length = 0 := by
          apply coupled.endOfFile record _ isEof
          rw [contents_pop popped]
          exact List.mem_cons_self ..
        refine ⟨[], _, rfl, List.nil_prefix, ?_⟩
        exact activated.of_sameInput ⟨rfl, rfl, idle.trans isEmpty.symm, rfl⟩
      · exact activated.readRecord size
  · next busy =>
    have isUnread : ledger.unread = ledger.current := if_neg busy
    have isLater : ledger.unreadLater = ledger.lines := if_neg busy
    rw [isUnread, isLater]
    exact Or.inr (coupled.readRecord size)

theorem readEffect_tryRead (size : Nat) :
    ∃ result next, ledger.tty.tryRead size = some (result, next) ∧
      ReadEffect ledger raw result next := by
  unfold tryRead
  split
  · exact ⟨_, _, rfl, readEffect_interrupted⟩
  · split
    · next isCanonical =>
      rcases coupled.tryReadCanonical size with
        found | ⟨bytes, next, found, front, after⟩
      · exact ⟨_, _, found, readEffect_none⟩
      · exact ⟨_, _, found, .line isCanonical front after⟩
    · next isRaw =>
      rw [Bool.not_eq_true] at isRaw
      simp only
      split
      · exact ⟨_, _, rfl, readEffect_none⟩
      · obtain ⟨bytes, next, drained, effect⟩ := readEffect_drainRaw isRaw size
        rw [drained]
        exact ⟨_, _, rfl, effect⟩

theorem readEffect_readOnce (size : Nat) (nonblocking : Bool) (nowNs : Nat) (timer : RawReadTimer) :
    ∃ result next later,
      ledger.tty.readOnce size nonblocking nowNs timer = some (result, next, later) ∧
        ReadEffect ledger raw result next := by
  unfold readOnce
  split
  · obtain ⟨result, next, found, effect⟩ := readEffect_tryRead coupled size
    rw [found]
    exact ⟨_, _, _, rfl, effect⟩
  · next isRaw =>
    rw [Bool.not_eq_true] at isRaw
    obtain ⟨_, _, drained, effect⟩ := readEffect_drainRaw isRaw size
    rw [drained]
    split
    · exact ⟨_, _, _, rfl, readEffect_interrupted⟩
    · split
      · split
        · exact ⟨_, _, _, rfl, readEffect_none⟩
        · exact ⟨_, _, _, rfl, effect⟩
      · simp only
        split
        · exact ⟨_, _, _, rfl, effect⟩
        · exact ⟨_, _, _, rfl, readEffect_none⟩

end Coupled

theorem ReadEffect.front
    {result : ReadResult} {bytes : List UInt8} (effect : ReadEffect ledger raw result next)
    (isCanonical : ledger.tty.canonical = true)
    (isBytes : result = .ok (some bytes)) : bytes <+: ledger.unread := by
  cases effect with
  | nothing _ noBytes => exact absurd isBytes (noBytes bytes)
  | line _ front =>
    cases isBytes
    exact front
  | drained isRaw =>
    rw [isCanonical] at isRaw
    cases isRaw

theorem ReadEffect.coupled {result : ReadResult} (effect : ReadEffect ledger raw result next)
    (coupled : Coupled ledger raw)
    (unmixed :
      ledger.tty.canonical = false → ledger.tty.activeRecord + ledger.tty.recordBytes = 0) :
    ∃ after,
      Coupled
        { tty := next
          current := (ledger.accountRead (some result)).1
          lines := (ledger.accountRead (some result)).2 } after := by
  cases effect with
  | nothing same noBytes =>
    refine ⟨raw, ?_⟩
    have account : ledger.accountRead (some result) = (ledger.current, ledger.lines) := by
      unfold Ledger.accountRead
      split
      · next bytes isBytes => exact absurd (Option.some.inj isBytes) (noBytes bytes)
      · rfl
    rw [account]
    exact coupled.of_sameInput same
  | line isCanonical _ after =>
    refine ⟨raw, ?_⟩
    simpa [Ledger.accountRead, isCanonical] using after
  | @drained _ _ count isRaw items same =>
    refine ⟨raw.drop count, ?_⟩
    have noLines := unmixed isRaw
    have noCurrent : ledger.current = [] := by
      rw [← List.length_eq_zero_iff, coupled.active]
      omega
    have noLineBytes : ledger.lines.flatten = [] := by
      rw [← List.length_eq_zero_iff, coupled.flatten_length]
      omega
    have isReady := coupled.ready
    rw [same]
    simp only [Ledger.accountRead, isRaw, Bool.false_eq_true, if_false]
    refine ⟨?_, coupled.active, coupled.lengths, coupled.endOfFile⟩
    simp only [noCurrent, noLineBytes, List.nil_append, items, isReady]

end Reads

/-! ## Runs -/

section Runs

open LineDiscipline

variable {ledger : Ledger} {raw : List UInt8}

section Coupled

variable (coupled : Coupled ledger raw)

include coupled

theorem Coupled.feedEvent {event : KeyEvent} {doEcho : Bool}
    (unmixed : ∀ byte ∈ event.bytes, ledger.tty.endsLine byte = true → raw = []) :
    ∃ after,
      Coupled
        { tty := ledger.tty.feedEvent event doEcho
          current := (ledger.account none (.feedEvent event doEcho)).1
          lines := (ledger.account none (.feedEvent event doEcho)).2 }
        after := by
  unfold LineDiscipline.feedEvent Ledger.account
  by_cases released : event.pressed = false
  · exact ⟨raw, by simpa [released] using coupled⟩
  · rw [Bool.not_eq_false] at released
    cases edited : ledger.tty.editKey event.code doEcho with
    | some =>
      refine ⟨raw, ?_⟩
      simpa [released, edited] using coupled.of_sameInput (sameInput_editKey edited)
    | none =>
      obtain ⟨after, fed⟩ := coupled.feedBytes unmixed
      exact ⟨after, by simpa [released, edited] using fed⟩

theorem Coupled.setAttributes {attributes : TerminalAttributes} {flush : Bool} :
    ∃ after,
      Coupled
        { tty := ledger.tty.setAttributes attributes flush
          current := (ledger.account none (.setAttributes attributes flush)).1
          lines := (ledger.account none (.setAttributes attributes flush)).2 }
        after := by
  cases flush with
  | false => exact ⟨raw, { coupled with }⟩
  | true =>
    refine ⟨[], rfl, rfl, rfl, ?_⟩
    intro record member
    cases member

/-- No operation panics, a canonical read returns the front of one line, and
unmixed input keeps the coupling. -/
theorem Coupled.performs (operation : Operation) :
    ∃ result next, ledger.tty.perform operation = some (result, next) ∧
      (∀ bytes, ledger.tty.canonical = true →
        result = some (.ok (some bytes)) → bytes <+: ledger.unread) ∧
      (Unmixed ledger.tty operation →
        ∃ after,
          Coupled
            { tty := next
              current := (ledger.account result operation).1
              lines := (ledger.account result operation).2 } after) := by
  cases operation with
  | feedInputByte byte =>
    refine ⟨none, _, rfl, by simp, ?_⟩
    intro unmixed
    obtain ⟨after, fed, _⟩ := coupled.feedByte (fun ends => coupled.raw_eq_nil (unmixed ends))
    exact ⟨after, fed⟩
  | feedEvent =>
    refine ⟨none, _, rfl, by simp, ?_⟩
    intro unmixed
    exact coupled.feedEvent (fun byte member ends => coupled.raw_eq_nil (unmixed byte member ends))
  | setAttributes => exact ⟨none, _, rfl, by simp, fun _ => coupled.setAttributes⟩
  | tryRead size =>
    obtain ⟨result, next, found, effect⟩ := readEffect_tryRead coupled size
    exact ⟨some result, next, by simp [perform, found],
      fun _ isCanonical isBytes => effect.front isCanonical (Option.some.inj isBytes),
      effect.coupled coupled⟩
  | readOnce size nonblocking nowNs timer =>
    obtain ⟨result, next, _, found, effect⟩ :=
      readEffect_readOnce coupled size nonblocking nowNs timer
    exact ⟨some result, next, by simp [perform, found],
      fun _ isCanonical isBytes => effect.front isCanonical (Option.some.inj isBytes),
      effect.coupled coupled⟩
  | pushOutput byte => exact ⟨none, _, rfl, by simp, fun _ => ⟨raw, { coupled with }⟩⟩
  | drainOutput size =>
    obtain ⟨bytes, next, drained, same⟩ := drainOutput_total ledger.tty size
    exact ⟨none, next, by simp [perform, drained], by simp,
      fun _ => ⟨raw, coupled.of_sameInput same⟩⟩

theorem Coupled.runs {operations : List Operation}
    (unmixed : Guarded Ledger.step
      (fun ledger operation => Unmixed ledger.tty operation) ledger operations) :
    ∃ final after, exec Ledger.step ledger operations = some final ∧ Coupled final after := by
  induction operations generalizing ledger raw with
  | nil => exact ⟨ledger, raw, rfl, coupled⟩
  | cons operation _ ih =>
    obtain ⟨_, tty, performed, _, keeps⟩ := coupled.performs operation
    have stepped : ledger.step operation = some _ := Option.map_eq_some_iff.mpr ⟨_, performed, rfl⟩
    obtain ⟨after, nextCoupled⟩ := keeps unmixed.1
    obtain ⟨final, last, reached, finalCoupled⟩ := ih nextCoupled (unmixed.2 _ stepped)
    exact ⟨final, last, exec_cons_eq_some.mpr ⟨_, stepped, reached⟩, finalCoupled⟩

end Coupled

/-- As long as raw and canonical input do not mix, no operation panics, the
records never promise more than the ready bytes, and a canonical read returns
bytes of one line. -/
theorem terminal_reads_safe {operations : List Operation}
    (unmixed : Guarded Ledger.step
      (fun ledger operation => Unmixed ledger.tty operation) Ledger.start operations) :
    ∃ final, exec Ledger.step Ledger.start operations = some final ∧
      final.tty.activeRecord + final.tty.recordBytes ≤ final.tty.ready.len ∧
      ∀ operation, ∃ result next, final.tty.perform operation = some (result, next) ∧
        ∀ bytes, final.tty.canonical = true →
          result = some (.ok (some bytes)) → bytes <+: final.unread := by
  obtain ⟨final, _, reached, coupled⟩ := Coupled.start.runs unmixed
  refine ⟨final, reached, ?_, ?_⟩
  · rw [coupled.ready_length]
    exact Nat.le_add_right _ _
  · intro operation
    obtain ⟨result, next, performed, front, _⟩ := coupled.performs operation
    exact ⟨result, next, performed, front⟩

/-- A line is fed and half of it read, then raw input is used with a flush
between. -/
def unmixedRun : List Operation :=
  [.feedInputByte 97, .feedInputByte 98, .feedInputByte 10, .tryRead 2,
    .setAttributes { TerminalAttributes.default with localFlags := 0 } true,
    .feedInputByte 99, .readOnce 4 true 0 ⟨none, 0⟩,
    .setAttributes .default false, .feedInputByte 100, .feedInputByte 10]

theorem unmixedRun_safe :
    ((exec Ledger.step Ledger.start unmixedRun).map
        (fun final => (final.tty.recordBytes, final.lines))) =
        some (2, [[100, 10]]) ∧
      ∃ final, exec Ledger.step Ledger.start unmixedRun = some final ∧
        final.tty.activeRecord + final.tty.recordBytes ≤ final.tty.ready.len ∧
        ∀ operation, ∃ result next, final.tty.perform operation = some (result, next) ∧
          ∀ bytes, final.tty.canonical = true →
            result = some (.ok (some bytes)) → bytes <+: final.unread :=
  ⟨by decide +kernel, terminal_reads_safe (by decide +kernel)⟩

/-- A line is fed, read in raw mode, and asked for again in canonical mode. -/
def mixedRun : List Operation :=
  [.feedInputByte 97, .feedInputByte 10,
    .setAttributes { TerminalAttributes.default with localFlags := 0 } false,
    .readOnce 8 true 0 ⟨none, 0⟩, .setAttributes .default false]

theorem mixed_read_panics :
    (exec LineDiscipline.step .new mixedRun).map
        (fun tty =>
          (tty.activeRecord + tty.recordBytes, tty.ready.len,
            tty.step (.readOnce 8 true 0 ⟨none, 0⟩))) =
      some (2, 0, none) := by
  decide +kernel

end Runs

end Xenith.Tty
