import Mathlib

/-!
# Debugger packets

The framing of `tools/xenith-debug/src/rsp.rs`.  A stream is the list of the
bytes that are still to be read, and its reads do not fail.
-/

namespace Xenith.Debug

inductive WireEvent where
  | ack
  | nack
  | interrupt
  | packet (payload : List UInt8) (valid : Bool)
  | noise
deriving DecidableEq

inductive RspError where
  | packetTooLarge
deriving DecidableEq

def maxPacketPayload : Nat := 16384

def hexDigit (value : UInt8) : Option UInt8 :=
  if 0x30 ≤ value ∧ value ≤ 0x39 then some (value - 0x30)
  else if 0x61 ≤ value ∧ value ≤ 0x66 then some (value - 0x61 + 10)
  else if 0x41 ≤ value ∧ value ≤ 0x46 then some (value - 0x41 + 10)
  else none

def hexChar (value : UInt8) : UInt8 :=
  if value ≤ 9 then 0x30 + value else 0x61 + value - 10

def checksum (bytes : List UInt8) : UInt8 :=
  bytes.foldl (· + ·) 0

def escapeByte (byte : UInt8) : List UInt8 :=
  if byte = 0x24 ∨ byte = 0x23 ∨ byte = 0x7d ∨ byte = 0x2a then [0x7d, byte ^^^ 0x20]
  else [byte]

def escape (payload : List UInt8) : List UInt8 :=
  payload.flatMap escapeByte

/-- The end of a frame. -/
def closing (body : List UInt8) : List UInt8 :=
  [0x23, hexChar (checksum body >>> 4), hexChar (checksum body &&& 0x0f)]

def encodePacket (payload : List UInt8) : Except RspError (List UInt8) :=
  if maxPacketPayload < payload.length then .error .packetTooLarge
  else .ok (0x24 :: (escape payload ++ closing (escape payload)))

/-- The loop of `read_packet`: the bytes read so far, and with what is left of
the stream, or nothing if it ended. -/
def readBody (encoded decoded : List UInt8) (escaped : Bool) :
    List UInt8 → Except RspError (List UInt8 × List UInt8 × Bool × Option (List UInt8))
  | [] => .ok (encoded, decoded, escaped, none)
  | byte :: rest =>
    if escaped = false ∧ byte = 0x23 then .ok (encoded, decoded, escaped, some rest)
    else if encoded.length = maxPacketPayload ∨ decoded.length = maxPacketPayload then
      .error .packetTooLarge
    else if escaped then readBody (encoded ++ [byte]) (decoded ++ [byte ^^^ 0x20]) false rest
    else if byte = 0x7d then readBody (encoded ++ [byte]) decoded true rest
    else readBody (encoded ++ [byte]) (decoded ++ [byte]) false rest

def readPacket (stream : List UInt8) : Except RspError (WireEvent × List UInt8) :=
  match readBody [] [] false stream with
  | .error error => .error error
  | .ok (_, decoded, _, none) => .ok (.packet decoded false, [])
  | .ok (encoded, decoded, escaped, some rest) =>
    if escaped then .ok (.packet decoded false, rest)
    else
      match rest with
      | high :: low :: rest =>
        let expected :=
          (hexDigit high).bind fun high => (hexDigit low).map fun low => high <<< 4 ||| low
        .ok (.packet decoded (expected = some (checksum encoded)), rest)
      | _ => .ok (.packet decoded false, [])

def readEvent : List UInt8 → Except RspError (Option WireEvent × List UInt8)
  | [] => .ok (none, [])
  | first :: rest =>
    if first = 0x2b then .ok (some .ack, rest)
    else if first = 0x2d then .ok (some .nack, rest)
    else if first = 0x03 then .ok (some .interrupt, rest)
    else if first = 0x24 then (readPacket rest).map fun (event, rest) => (some event, rest)
    else .ok (some .noise, rest)

/-! ## Checksums -/

theorem checksum_append (front back : List UInt8) :
    checksum (front ++ back) = checksum front + checksum back := by
  have shifted : back.foldl (· + ·) (checksum front + 0) = checksum front + back.foldl (· + ·) 0 :=
    List.foldl_assoc
  rw [checksum, List.foldl_append]
  rwa [UInt8.add_zero] at shifted

/-- The two digits give the checksum back. -/
theorem digits_checksum (sum : UInt8) :
    ((hexDigit (hexChar (sum >>> 4))).bind fun high =>
      (hexDigit (hexChar (sum &&& 0x0f))).map fun low => high <<< 4 ||| low) = some sum := by
  have all : ∀ number : Fin 256,
      ((hexDigit (hexChar (UInt8.ofNat number >>> 4))).bind fun high =>
        (hexDigit (hexChar (UInt8.ofNat number &&& 0x0f))).map fun low => high <<< 4 ||| low) =
      some (UInt8.ofNat number) := by
    decide +kernel
  simpa using all ⟨sum.toNat, sum.toNat_lt⟩

/-- Another byte in one place changes the sum. -/
theorem checksum_ne {front back : List UInt8} {old new : UInt8} (different : new ≠ old) :
    checksum (front ++ new :: back) ≠ checksum (front ++ old :: back) := by
  intro same
  rw [List.append_cons, List.append_cons front old] at same
  simp only [checksum_append] at same
  apply different
  simpa [checksum] using same

/-! ## Bodies -/

/-- What a reader makes of the bytes of a body, and whether it then waits for
the second byte of an escape. -/
def unescape : Bool → List UInt8 → List UInt8 × Bool
  | escaped, [] => ([], escaped)
  | true, byte :: rest => ((byte ^^^ 0x20) :: (unescape false rest).1, (unescape false rest).2)
  | false, byte :: rest =>
    if byte = 0x7d then unescape true rest
    else (byte :: (unescape false rest).1, (unescape false rest).2)

variable {encoded decoded body payload rest : List UInt8} {escaped : Bool}

theorem escape_cons (byte : UInt8) (rest : List UInt8) :
    escape (byte :: rest) = escapeByte byte ++ escape rest :=
  rfl

theorem unescape_escape (payload : List UInt8) :
    unescape false (escape payload) = (payload, false) := by
  induction payload with
  | nil => rfl
  | cons _ _ ih =>
    rw [escape_cons, escapeByte]
    split
    · simp [unescape, ih]
    · next plain =>
      rw [not_or, not_or, not_or] at plain
      simp [unescape, ih, plain.2.2.1]

theorem not_mem_escape (payload : List UInt8) : 0x23 ∉ escape payload := by
  intro member
  obtain ⟨_, _, inside⟩ := List.mem_flatMap.mp member
  unfold escapeByte at inside
  split at inside
  · next special =>
    rcases special with rfl | rfl | rfl | rfl <;> exact absurd inside (by decide)
  · next plain =>
    rw [List.mem_singleton] at inside
    simp [← inside] at plain

/-- The reader takes a body without the end mark as far as it is allowed. -/
theorem readBody_append (unmarked : 0x23 ∉ body) (bound : encoded.length ≤ maxPacketPayload)
    (fewer : decoded.length ≤ encoded.length) :
    readBody encoded decoded escaped (body ++ rest) =
      if encoded.length + body.length ≤ maxPacketPayload then
        readBody (encoded ++ body) (decoded ++ (unescape escaped body).1)
          (unescape escaped body).2 rest
      else .error .packetTooLarge := by
  induction body generalizing encoded decoded escaped with
  | nil => simp [unescape, bound]
  | cons byte body ih =>
    rw [List.mem_cons, not_or] at unmarked
    rw [List.cons_append, readBody, if_neg (fun marked => unmarked.1 marked.2.symm)]
    by_cases full : encoded.length = maxPacketPayload
    · rw [if_pos (Or.inl full), if_neg (by rw [List.length_cons]; omega)]
    · have longer : (encoded ++ [byte]).length ≤ maxPacketPayload := by
        rw [List.length_append, List.length_singleton]
        omega
      have total :
          (encoded ++ [byte]).length + body.length = encoded.length + (byte :: body).length := by
        simp only [List.length_append, List.length_cons, List.length_nil]
        omega
      rw [if_neg (by omega)]
      cases escaped with
      | true =>
        rw [ih unmarked.2 longer (by simpa using fewer), total]
        simp [unescape]
      | false =>
        rw [if_neg Bool.false_ne_true]
        by_cases starts : byte = 0x7d
        · rw [ih unmarked.2 longer (by simp; omega), total]
          simp [unescape, starts]
        · rw [if_neg starts, ih unmarked.2 longer (by simpa using fewer), total]
          simp [unescape, starts]

/-- A body that ends outside of an escape, with the closing of some body. -/
theorem readEvent_frame {sealed : List UInt8} (unmarked : 0x23 ∉ body)
    (ended : (unescape false body).2 = false) :
    readEvent (0x24 :: (body ++ closing sealed) ++ rest) =
      if body.length ≤ maxPacketPayload then
        .ok (some (.packet (unescape false body).1 (checksum sealed = checksum body)), rest)
      else .error .packetTooLarge := by
  have event (stream : List UInt8) :
      readEvent (0x24 :: stream) = (readPacket stream).map fun (event, rest) => (some event, rest) :=
    rfl
  rw [List.cons_append, List.append_assoc, event, readPacket,
    readBody_append unmarked (Nat.zero_le _) (Nat.le_refl _)]
  simp only [List.length_nil, Nat.zero_add, ended]
  by_cases fits : body.length ≤ maxPacketPayload
  · rw [if_pos fits, if_pos fits]
    simp [closing, readBody, digits_checksum, Except.map]
  · rw [if_neg fits, if_neg fits]
    rfl

theorem unescape_append (front back : List UInt8) :
    (unescape escaped (front ++ back)).2 = (unescape (unescape escaped front).2 back).2 := by
  induction front generalizing escaped with
  | nil => rfl
  | cons _ front ih =>
    cases escaped with
    | true => exact ih
    | false =>
      rw [List.cons_append, unescape, unescape]
      split <;> exact ih

/-- A byte that starts no escape ends one, if there is one. -/
theorem unescape_cons {byte : UInt8} (plain : byte ≠ 0x7d) :
    (unescape escaped (byte :: rest)).2 = (unescape false rest).2 := by
  cases escaped with
  | true => rfl
  | false => rw [unescape, if_neg plain]

theorem encodePacket_eq_ok {frame : List UInt8} (encoded : encodePacket payload = .ok frame) :
    frame = 0x24 :: (escape payload ++ closing (escape payload)) := by
  unfold encodePacket at encoded
  split at encoded
  · cases encoded
  · exact (Except.ok.inj encoded).symm

/-- What is read from the frame of a payload, whatever follows. -/
theorem readEvent_encodePacket {frame : List UInt8} (encoded : encodePacket payload = .ok frame) :
    readEvent (frame ++ rest) =
      if (escape payload).length ≤ maxPacketPayload then .ok (some (.packet payload true), rest)
      else .error .packetTooLarge := by
  have unescaped := unescape_escape payload
  rw [encodePacket_eq_ok encoded, readEvent_frame (not_mem_escape payload) (by rw [unescaped]),
    unescaped, decide_eq_true rfl]

/-- A payload within the limit is encoded, and its frame reads back, whatever
follows, exactly if the escaped payload is within the limit as well.  A frame
with one plain byte of its body replaced is never a valid packet. -/
theorem packets_framed (short : payload.length ≤ maxPacketPayload) (rest : List UInt8) :
    ∃ frame, encodePacket payload = .ok frame ∧
      (readEvent (frame ++ rest) = .ok (some (.packet payload true), rest) ↔
        (escape payload).length ≤ maxPacketPayload) ∧
      ∀ front old new back, frame = 0x24 :: (front ++ old :: back ++ closing (escape payload)) →
        new ≠ old → old ≠ 0x23 → old ≠ 0x7d → new ≠ 0x23 → new ≠ 0x7d → ∀ read left,
          readEvent (0x24 :: (front ++ new :: back ++ closing (escape payload)) ++ rest) ≠
            .ok (some (.packet read true), left) := by
  have encoded : encodePacket payload = .ok _ := if_neg (Nat.not_lt.mpr short)
  refine ⟨_, encoded, ?_, ?_⟩
  · rw [readEvent_encodePacket encoded]
    split <;> simp_all
  · intro front old new back isFrame different _ oldPlain newUnmarked newPlain read left valid
    have body : escape payload = front ++ old :: back :=
      List.append_cancel_right (List.cons.inj isFrame).2
    have unmarked := not_mem_escape payload
    rw [body] at unmarked
    have tampered : 0x23 ∉ front ++ new :: back := by
      simp only [List.mem_append, List.mem_cons, not_or] at unmarked ⊢
      exact ⟨unmarked.1, newUnmarked.symm, unmarked.2.2⟩
    have ended : (unescape false (front ++ new :: back)).2 = false := by
      rw [unescape_append, unescape_cons newPlain, ← unescape_cons oldPlain, ← unescape_append,
        ← body, unescape_escape]
    have differs : checksum (escape payload) ≠ checksum (front ++ new :: back) := by
      rw [body]
      exact (checksum_ne different).symm
    rw [readEvent_frame tampered ended, decide_eq_false differs] at valid
    split at valid <;> cases valid

theorem smallPayload_framed :
    ∃ frame, encodePacket [0x41, 0x23] = .ok frame ∧
      readEvent (frame ++ [0x2b]) = .ok (some (.packet [0x41, 0x23] true), [0x2b]) ∧ ∀ read left,
        readEvent (0x24 :: ([0x42, 0x7d, 0x03] ++ closing (escape [0x41, 0x23])) ++ [0x2b]) ≠
          .ok (some (.packet read true), left) := by
  have short : ([0x41, 0x23] : List UInt8).length ≤ maxPacketPayload := by decide
  obtain ⟨frame, encoded, reads, rejects⟩ := packets_framed short [0x2b]
  refine ⟨frame, encoded, reads.mpr (by decide), ?_⟩
  exact rejects [] 0x41 0x42 [0x7d, 0x03] (encodePacket_eq_ok encoded) (by decide) (by decide)
    (by decide) (by decide) (by decide)

/-- All bytes of this payload are escaped. -/
def markedPayload : List UInt8 :=
  List.replicate 8193 0x23

theorem length_escape_markedPayload : (escape markedPayload).length = 16386 := by
  rw [escape, markedPayload, List.length_flatMap, List.map_replicate, List.sum_replicate]
  rfl

theorem markedPayload_not_read :
    markedPayload.length ≤ maxPacketPayload ∧ ∃ frame, encodePacket markedPayload = .ok frame ∧
      ∀ rest, readEvent (frame ++ rest) = .error .packetTooLarge := by
  have short : markedPayload.length ≤ maxPacketPayload := by
    rw [markedPayload, List.length_replicate]
    decide
  have encoded : encodePacket markedPayload = .ok _ := if_neg (Nat.not_lt.mpr short)
  refine ⟨short, _, encoded, fun rest => ?_⟩
  rw [readEvent_encodePacket encoded, length_escape_markedPayload, if_neg (by decide)]

end Xenith.Debug
