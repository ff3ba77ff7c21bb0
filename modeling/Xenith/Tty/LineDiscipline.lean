import Xenith.Lib.Word
import Xenith.Util.RingBuffer

/-!
# The terminal line discipline

`LineDiscipline` of `kernel/src/tty.rs` with the keyboard events it reads.  A
function whose `expect` fails has no result.
-/

namespace Xenith.Tty

open Util

/-! ## Attributes -/

def editCapacity : Nat := 1024

def inputCapacity : Nat := 4096

def recordCapacity : Nat := 64

instance : NeZero inputCapacity :=
  ⟨Nat.succ_ne_zero 4095⟩

instance : NeZero recordCapacity :=
  ⟨Nat.succ_ne_zero 63⟩

def icrnl : UInt32 := 0x0100

def isig : UInt32 := 0x0001

def icanon : UInt32 := 0x0002

def echoFlag : UInt32 := 0x0008

def echoe : UInt32 := 0x0010

def echok : UInt32 := 0x0020

def echonl : UInt32 := 0x0040

def terminalControlCharacters : Nat := 16

instance : NeZero terminalControlCharacters :=
  ⟨Nat.succ_ne_zero 15⟩

def vintr : Fin terminalControlCharacters := 0

def vquit : Fin terminalControlCharacters := 1

def verase : Fin terminalControlCharacters := 2

def vkill : Fin terminalControlCharacters := 3

def veof : Fin terminalControlCharacters := 4

def veol : Fin terminalControlCharacters := 5

def vsusp : Fin terminalControlCharacters := 6

def vmin : Fin terminalControlCharacters := 7

def vtime : Fin terminalControlCharacters := 8

structure TerminalAttributes where
  inputFlags : UInt32
  localFlags : UInt32
  controlCharacters : Fin terminalControlCharacters → UInt8
deriving DecidableEq

namespace TerminalAttributes

def default : TerminalAttributes where
  inputFlags := icrnl
  localFlags := isig ||| icanon ||| echoFlag ||| echoe ||| echok
  controlCharacters := fun index => [3, 28, 127, 21, 4, 10, 26, 1].getD index.val 0

def hasLocal (attributes : TerminalAttributes) (flag : UInt32) : Bool :=
  attributes.localFlags &&& flag != 0

def canonical (attributes : TerminalAttributes) : Bool :=
  attributes.hasLocal icanon

end TerminalAttributes

inductive Signal where
  | int
  | quit
  | tstp
deriving DecidableEq

/-- The branches of `feed_byte`. -/
inductive InputAction where
  | signal (signal : Signal)
  | raw (byte : UInt8)
  | erase
  | kill
  | endOfFile
  | endOfLine
  | insert (byte : UInt8)
deriving DecidableEq

namespace TerminalAttributes

def translate (attributes : TerminalAttributes) (byte : UInt8) : UInt8 :=
  if byte = 13 ∧ attributes.inputFlags &&& icrnl ≠ 0 then 10 else byte

def signalOf (attributes : TerminalAttributes) (byte : UInt8) : Option Signal :=
  if attributes.hasLocal isig then
    if byte = attributes.controlCharacters vintr then some .int
    else if byte = attributes.controlCharacters vquit then some .quit
    else if byte = attributes.controlCharacters vsusp then some .tstp
    else none
  else none

/-- Which branch a byte takes. -/
def classify (attributes : TerminalAttributes) (input : UInt8) : InputAction :=
  let byte := attributes.translate input
  let characters := attributes.controlCharacters
  match attributes.signalOf byte with
  | some signal => .signal signal
  | none =>
    if attributes.canonical = false then .raw byte
    else if byte = characters verase ∨ byte = 8 then .erase
    else if byte = characters vkill then .kill
    else if byte = characters veof then .endOfFile
    else if byte = 10 ∨ (characters veol ≠ 0 ∧ byte = characters veol) then .endOfLine
    else .insert byte

end TerminalAttributes

/-! ## The edited line -/

/-- The bytes of the line and the cursor between them. -/
structure EditBuffer where
  bytes : List UInt8
  cursor : Nat
  fits : bytes.length ≤ editCapacity
  inside : cursor ≤ bytes.length
deriving DecidableEq

namespace EditBuffer

def empty : EditBuffer where
  bytes := []
  cursor := 0
  fits := Nat.zero_le _
  inside := Nat.le_refl 0

def isFull (edit : EditBuffer) : Bool :=
  decide (edit.bytes.length = editCapacity)

def insert (edit : EditBuffer) (byte : UInt8) : EditBuffer :=
  if full : edit.bytes.length = editCapacity then edit
  else
    { bytes := edit.bytes.take edit.cursor ++ byte :: edit.bytes.drop edit.cursor
      cursor := edit.cursor + 1
      fits := by
        have fits := edit.fits
        have inside := edit.inside
        simp only [List.length_append, List.length_take, List.length_cons, List.length_drop]
        omega
      inside := by
        have inside := edit.inside
        simp only [List.length_append, List.length_take, List.length_cons, List.length_drop]
        omega }

def eraseBefore (edit : EditBuffer) : EditBuffer :=
  if start : edit.cursor = 0 then edit
  else
    { bytes := edit.bytes.eraseIdx (edit.cursor - 1)
      cursor := edit.cursor - 1
      fits := by
        have fits := edit.fits
        have shorter := List.length_eraseIdx_le edit.bytes (edit.cursor - 1)
        omega
      inside := by
        have inside := edit.inside
        rw [List.length_eraseIdx]
        split <;> omega }

def deleteAt (edit : EditBuffer) : EditBuffer :=
  if atEnd : edit.bytes.length ≤ edit.cursor then edit
  else
    { bytes := edit.bytes.eraseIdx edit.cursor
      cursor := edit.cursor
      fits := by
        have fits := edit.fits
        have shorter := List.length_eraseIdx_le edit.bytes edit.cursor
        omega
      inside := by
        rw [List.length_eraseIdx]
        split <;> omega }

/-- The bytes from the cursor on. -/
def tail (edit : EditBuffer) : List UInt8 :=
  edit.bytes.drop edit.cursor

def left (edit : EditBuffer) : EditBuffer :=
  { edit with cursor := edit.cursor - 1, inside := Nat.le_trans (Nat.sub_le _ _) edit.inside }

def right (edit : EditBuffer) : EditBuffer :=
  if inside : edit.cursor < edit.bytes.length then
    { edit with cursor := edit.cursor + 1, inside := inside }
  else edit

def home (edit : EditBuffer) : EditBuffer :=
  { edit with cursor := 0, inside := Nat.zero_le _ }

def toEnd (edit : EditBuffer) : EditBuffer :=
  { edit with cursor := edit.bytes.length, inside := Nat.le_refl _ }

end EditBuffer

/-! ## The line discipline -/

structure CanonicalRecord where
  length : Nat
  eof : Bool
deriving DecidableEq

structure LineDiscipline where
  attributes : TerminalAttributes
  ready : RingBuffer UInt8 inputCapacity
  records : RingBuffer CanonicalRecord recordCapacity
  activeRecord : Nat
  edit : EditBuffer
  interrupted : Option Signal
  output : RingBuffer UInt8 inputCapacity
deriving DecidableEq

def backspaces (count : Nat) : List UInt8 :=
  List.replicate count 8

namespace LineDiscipline

def new : LineDiscipline where
  attributes := .default
  ready := .new fun _ => 0
  records := .new fun _ => ⟨0, false⟩
  activeRecord := 0
  edit := .empty
  interrupted := none
  output := .new fun _ => 0

def canonical (tty : LineDiscipline) : Bool :=
  tty.attributes.canonical

def echo (tty : LineDiscipline) : Bool :=
  tty.attributes.hasLocal echoFlag

def queueOutput (tty : LineDiscipline) (bytes : List UInt8) : LineDiscipline :=
  { tty with output := tty.output.pushAll bytes }

def queueOutputIf (tty : LineDiscipline) (condition : Bool) (bytes : List UInt8) : LineDiscipline :=
  if condition then tty.queueOutput bytes else tty

def bell : List UInt8 := [7]

def insertByte (tty : LineDiscipline) (byte : UInt8) (doEcho : Bool) : LineDiscipline :=
  if tty.edit.isFull then tty.queueOutputIf doEcho bell
  else
    let edited := { tty with edit := tty.edit.insert byte }
    edited.queueOutputIf (doEcho && tty.echo)
      (byte :: edited.edit.tail ++ backspaces edited.edit.tail.length)

def eraseBeforeCursor (tty : LineDiscipline) (doEcho : Bool) : LineDiscipline :=
  if tty.edit.cursor = 0 then tty
  else
    let edited := { tty with edit := tty.edit.eraseBefore }
    edited.queueOutputIf
      (doEcho && tty.echo && tty.attributes.hasLocal echoe)
      (8 :: edited.edit.tail ++ 32 :: backspaces (edited.edit.tail.length + 1))

def deleteAtCursor (tty : LineDiscipline) (doEcho : Bool) : LineDiscipline :=
  if tty.edit.bytes.length ≤ tty.edit.cursor then tty
  else
    let edited := { tty with edit := tty.edit.deleteAt }
    edited.queueOutputIf
      (doEcho && tty.echo && tty.attributes.hasLocal echoe)
      (edited.edit.tail ++ 32 :: backspaces (edited.edit.tail.length + 1))

def killLine (tty : LineDiscipline) (doEcho : Bool) : LineDiscipline :=
  let length := tty.edit.bytes.length
  let killed := { tty with edit := .empty }
  killed.queueOutputIf
    (doEcho && tty.echo && tty.attributes.hasLocal echok)
    (tty.edit.tail ++ backspaces length ++ List.replicate length 32 ++ backspaces length)

def hasRoom (tty : LineDiscipline) (length : Nat) : Bool :=
  decide (length ≤ inputCapacity - tty.ready.len) && !tty.records.isFull

def enqueueRecord (tty : LineDiscipline) (bytes : List UInt8)
    (record : CanonicalRecord) : LineDiscipline :=
  { tty with
    ready := tty.ready.pushAll bytes
    records := (tty.records.push record).2
    edit := .empty }

def commitLine (tty : LineDiscipline) (includeNewline doEcho : Bool) : LineDiscipline :=
  let newline : List UInt8 := if includeNewline then [10] else []
  let length := tty.edit.bytes.length + newline.length
  if tty.hasRoom length = false then tty.queueOutputIf doEcho bell
  else
    (tty.enqueueRecord (tty.edit.bytes ++ newline) { length := length, eof := false }).queueOutputIf
      (doEcho && (tty.echo || tty.attributes.hasLocal echonl) && includeNewline) [10]

def commitEof (tty : LineDiscipline) (doEcho : Bool) : LineDiscipline :=
  let length := tty.edit.bytes.length
  if tty.hasRoom length = false then tty.queueOutputIf doEcho bell
  else tty.enqueueRecord tty.edit.bytes { length := length, eof := decide (length = 0) }

def signalEcho : Signal → List UInt8
  | .int => [94, 67, 10]
  | .quit => [94, 92, 10]
  | .tstp => [94, 90, 10]

def raise (tty : LineDiscipline) (signal : Signal) (doEcho : Bool) : LineDiscipline :=
  let killed := tty.killLine doEcho
  { killed.queueOutputIf (doEcho && tty.echo) (signalEcho signal) with interrupted := some signal }

def feedRaw (tty : LineDiscipline) (byte : UInt8) (doEcho : Bool) : LineDiscipline :=
  let (pushed, ready) := tty.ready.push byte
  { tty with ready := ready }.queueOutputIf (pushed.isOk && doEcho && tty.echo) [byte]

def feedByte (tty : LineDiscipline) (byte : UInt8) (doEcho : Bool) : LineDiscipline :=
  match tty.attributes.classify byte with
  | .signal signal => tty.raise signal doEcho
  | .raw byte => tty.feedRaw byte doEcho
  | .erase => tty.eraseBeforeCursor doEcho
  | .kill => tty.killLine doEcho
  | .endOfFile => tty.commitEof doEcho
  | .endOfLine => tty.commitLine true doEcho
  | .insert byte => tty.insertByte byte doEcho

/-! ## Keyboard events -/

end LineDiscipline

/-- The key codes that the line discipline tells apart. -/
inductive KeyCode where
  | arrowLeft
  | arrowRight
  | home
  | «end»
  | delete
  | other
deriving DecidableEq

structure KeyEvent where
  code : KeyCode
  pressed : Bool
  character : Option Char
  control : Bool
deriving DecidableEq

/-- The bytes that the character of an event is fed as. -/
def KeyEvent.bytes (event : KeyEvent) : List UInt8 :=
  match event.character with
  | none => []
  | some character =>
    (String.utf8EncodeChar character).map fun byte =>
      if event.control ∧ byte < 128 then toAsciiLowercase byte &&& 0x1f
      else byte

namespace LineDiscipline

def feedBytes (tty : LineDiscipline) (bytes : List UInt8) (doEcho : Bool) : LineDiscipline :=
  bytes.foldl (fun tty byte => tty.feedByte byte doEcho) tty

/-- The move of the cursor or the deletion that a key asks for. -/
def editKey (tty : LineDiscipline) (code : KeyCode) (doEcho : Bool) : Option LineDiscipline :=
  let echoed := doEcho && tty.echo
  if tty.canonical then
    match code with
    | .arrowLeft =>
      if 0 < tty.edit.cursor then some ({ tty with edit := tty.edit.left }.queueOutputIf echoed [8])
      else none
    | .arrowRight =>
      if tty.edit.cursor < tty.edit.bytes.length then
        some ({ tty with edit := tty.edit.right }.queueOutputIf echoed (tty.edit.tail.take 1))
      else none
    | .home =>
      some ({ tty with edit := tty.edit.home }.queueOutputIf echoed (backspaces tty.edit.cursor))
    | .end => some ({ tty with edit := tty.edit.toEnd }.queueOutputIf echoed tty.edit.tail)
    | .delete => some (tty.deleteAtCursor doEcho)
    | .other => none
  else none

def feedEvent (tty : LineDiscipline) (event : KeyEvent) (doEcho : Bool) : LineDiscipline :=
  if event.pressed = false then tty
  else
    match tty.editKey event.code doEcho with
    | some next => next
    | none => tty.feedBytes event.bytes doEcho

def feedInputByte (tty : LineDiscipline) (byte : UInt8) : Option Signal × LineDiscipline :=
  let next := tty.feedByte byte true
  (if next.interrupted ≠ tty.interrupted then next.interrupted else none, next)

/-! ## Reads -/

def drainRaw (tty : LineDiscipline) (size : Nat) : Option (List UInt8 × LineDiscipline) :=
  match tty.ready.popMany (min size tty.ready.len) with
  | none => none
  | some (bytes, ready) => some (bytes, { tty with ready := ready })

/-- What a read returns: a signal, nothing yet, or bytes. -/
abbrev ReadResult := Except Signal (Option (List UInt8))

def readRecord (tty : LineDiscipline) (size : Nat) : Option (ReadResult × LineDiscipline) :=
  let count := min size tty.activeRecord
  match tty.ready.popMany count with
  | none => none
  | some (bytes, ready) =>
    some (.ok (some bytes), { tty with ready := ready, activeRecord := tty.activeRecord - count })

def tryReadCanonical (tty : LineDiscipline) (size : Nat) : Option (ReadResult × LineDiscipline) :=
  if tty.activeRecord = 0 then
    match tty.records.pop with
    | none => some (.ok none, tty)
    | some (record, records) =>
      if record.eof then some (.ok (some []), { tty with records := records })
      else
        { tty with records := records, activeRecord := record.length }.readRecord size
  else tty.readRecord size

def tryRead (tty : LineDiscipline) (size : Nat) : Option (ReadResult × LineDiscipline) :=
  match tty.interrupted with
  | some signal => some (.error signal, { tty with interrupted := none })
  | none =>
    if tty.canonical then tty.tryReadCanonical size
    else
      let minimum := min (tty.attributes.controlCharacters vmin).toNat size
      if tty.ready.len < minimum then some (.ok none, tty)
      else
        match tty.drainRaw size with
        | none => none
        | some (bytes, next) => some (.ok (some bytes), next)

structure RawReadTimer where
  deadlineNs : Option Nat
  observedBytes : Nat
deriving DecidableEq

inductive RawReadDecision where
  | wait
  | read
deriving DecidableEq

def saturatingAdd64 (left right : Nat) : Nat :=
  min (left + right) (2 ^ 64 - 1)

def rawReadDecision (minimum timeoutDeciseconds available capacity nowNs : Nat)
    (timer : RawReadTimer) : RawReadDecision × RawReadTimer :=
  let minimum := min minimum capacity
  let timeoutNs := timeoutDeciseconds * 100000000
  if timeoutDeciseconds = 0 then (if minimum ≤ available then .read else .wait, timer)
  else if minimum = 0 then
    if available ≠ 0 then (.read, timer)
    else
      let deadline := timer.deadlineNs.getD (saturatingAdd64 nowNs timeoutNs)
      (if deadline ≤ nowNs then .read else .wait, { timer with deadlineNs := some deadline })
  else if minimum ≤ available then (.read, timer)
  else
    let timer :=
      if timer.observedBytes < available then
        { deadlineNs := some (saturatingAdd64 nowNs timeoutNs), observedBytes := available }
      else timer
    (if timer.deadlineNs.any (fun deadline => decide (deadline ≤ nowNs)) then .read
      else .wait, timer)

def readOnce (tty : LineDiscipline) (size : Nat) (nonblocking : Bool)
    (nowNs : Nat) (timer : RawReadTimer) :
    Option (ReadResult × LineDiscipline × RawReadTimer) :=
  if tty.canonical then (tty.tryRead size).map (fun (result, next) => (result, next, timer))
  else
    match tty.interrupted with
    | some signal => some (.error signal, { tty with interrupted := none }, timer)
    | none =>
      if nonblocking then
        if tty.ready.len = 0 then some (.ok none, tty, timer)
        else (tty.drainRaw size).map (fun (bytes, next) => (.ok (some bytes), next, timer))
      else
        let (decision, timer) :=
          rawReadDecision (tty.attributes.controlCharacters vmin).toNat
            (tty.attributes.controlCharacters vtime).toNat tty.ready.len size nowNs timer
        if decision = .read then
          (tty.drainRaw size).map (fun (bytes, next) => (.ok (some bytes), next, timer))
        else some (.ok none, tty, timer)

def flushInput (tty : LineDiscipline) : LineDiscipline :=
  { tty with
    ready := .new fun _ => 0
    records := .new fun _ => ⟨0, false⟩
    activeRecord := 0
    edit := .empty
    interrupted := none }

def setAttributes (tty : LineDiscipline) (attributes : TerminalAttributes)
    (flush : Bool) : LineDiscipline :=
  let changed := { tty with attributes := attributes }
  if flush then changed.flushInput else changed

def drainOutput (tty : LineDiscipline) (size : Nat) : Option (List UInt8 × LineDiscipline) :=
  match tty.output.popMany (min size tty.output.len) with
  | none => none
  | some (bytes, output) => some (bytes, { tty with output := output })

def pushOutput (tty : LineDiscipline) (byte : UInt8) : Bool × LineDiscipline :=
  let (pushed, output) := tty.output.push byte
  (pushed.isOk, { tty with output := output })

/-! ## Runs -/

inductive Operation where
  | feedInputByte (byte : UInt8)
  | feedEvent (event : KeyEvent) (doEcho : Bool)
  | setAttributes (attributes : TerminalAttributes) (flush : Bool)
  | tryRead (size : Nat)
  | readOnce (size : Nat) (nonblocking : Bool) (nowNs : Nat) (timer : RawReadTimer)
  | pushOutput (byte : UInt8)
  | drainOutput (size : Nat)
deriving DecidableEq

/-- The result of a read beside the next state; a panic has none. -/
def perform (tty : LineDiscipline) : Operation → Option (Option ReadResult × LineDiscipline)
  | .feedInputByte byte => some (none, (tty.feedInputByte byte).2)
  | .feedEvent event doEcho => some (none, tty.feedEvent event doEcho)
  | .setAttributes attributes flush => some (none, tty.setAttributes attributes flush)
  | .tryRead size => (tty.tryRead size).map (fun (result, next) => (some result, next))
  | .readOnce size nonblocking nowNs timer =>
    (tty.readOnce size nonblocking nowNs timer).map (fun (result, next, _) => (some result, next))
  | .pushOutput byte => some (none, (tty.pushOutput byte).2)
  | .drainOutput size => (tty.drainOutput size).map (fun (_, next) => (none, next))

def step (tty : LineDiscipline) (operation : Operation) : Option LineDiscipline :=
  (tty.perform operation).map Prod.snd

/-- The bytes that the queued canonical records still have to get. -/
def recordBytes (tty : LineDiscipline) : Nat :=
  (tty.records.contents.map CanonicalRecord.length).sum

end LineDiscipline

end Xenith.Tty
