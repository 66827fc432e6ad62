import DeskCalc.Text.Quoted

/-! Strict UTF-8: a decoder that names the first byte or bytes that are not text. -/

namespace DeskCalc.Text

/-- What is wrong with the bytes at which decoding stops. -/
inductive Utf8Reason
  | startByte
  | continuationByte
  | endOfData

/-- The first bytes that are not text: where they start, how many they are,
and the first of them. -/
structure Utf8Fault where
  start : Nat
  length : Nat
  byte : Nat
  reason : Utf8Reason

/-- The words for a reason. -/
def Utf8Reason.text : Utf8Reason → String
  | .startByte => "invalid start byte"
  | .continuationByte => "invalid continuation byte"
  | .endOfData => "unexpected end of data"

/-- What is shown for bytes that are not text: a single byte by its value,
several by their range. -/
def Utf8Fault.message (fault : Utf8Fault) : String :=
  let bytes :=
    if fault.length == 1 then
      s!"byte 0x{String.ofList (hexDigits 2 fault.byte)} in position {fault.start}"
    else s!"bytes in position {fault.start}-{fault.start + fault.length - 1}"
  s!"'utf-8' codec can't decode {bytes}: {fault.reason.text}"

/-- The continuation bytes that may stand at each place behind a start byte, as inclusive ranges. -/
def continuationRanges (start : Nat) : Option (List (Nat × Nat)) :=
  let any := (0x80, 0xbf)
  if start < 0x80 then some []
  else if 0xc2 ≤ start && start ≤ 0xdf then some [any]
  else if start == 0xe0 then some [(0xa0, 0xbf), any]
  else if start == 0xed then some [(0x80, 0x9f), any]
  else if 0xe1 ≤ start && start ≤ 0xef then some [any, any]
  else if start == 0xf0 then some [(0x90, 0xbf), any, any]
  else if start == 0xf4 then some [(0x80, 0x8f), any, any]
  else if 0xf1 ≤ start && start ≤ 0xf3 then some [any, any, any]
  else none

/-- The bits that a start byte contributes, given how many continuation bytes follow it. -/
def startBits (start continuations : Nat) : Nat :=
  match continuations with
  | 0 => start
  | 1 => start % 0x20
  | 2 => start % 0x10
  | _ => start % 0x08

/-- Take the continuation bytes of one character: its code point and the rest,
or what was read and why it stops. -/
def takeContinuations (value taken : Nat) :
    List (Nat × Nat) → List UInt8 → Except (Nat × Utf8Reason) (Nat × List UInt8)
  | [], rest => .ok (value, rest)
  | _ :: _, [] => .error (taken, .endOfData)
  | (low, high) :: ranges, byte :: rest =>
    if low ≤ byte.toNat && byte.toNat ≤ high then
      takeContinuations (value * 0x40 + byte.toNat % 0x40) (taken + 1) ranges rest
    else .error (taken, .continuationByte)

/-- Reading continuation bytes never gives bytes back. -/
theorem takeContinuations_length {value taken : Nat} {ranges : List (Nat × Nat)}
    {bytes : List UInt8} {point : Nat} {rest : List UInt8}
    (read : takeContinuations value taken ranges bytes = .ok (point, rest)) :
    rest.length ≤ bytes.length := by
  -- Each range takes one byte off the front.
  induction ranges generalizing value taken bytes with
  | nil => simp_all [takeContinuations]
  | cons range ranges shorter =>
    cases bytes with
    | nil => simp [takeContinuations] at read
    | cons byte bytes =>
      simp only [takeContinuations] at read
      split at read
      · exact Nat.le_succ_of_le (shorter read)
      · simp at read

/-- Decode bytes that stand at position `start` of a file. -/
def decodeUtf8From (start : Nat) : List UInt8 → Except Utf8Fault (List Char)
  | [] => .ok []
  | byte :: bytes =>
    match continuationRanges byte.toNat with
    | none => .error ⟨start, 1, byte.toNat, .startByte⟩
    | some ranges =>
      match read : takeContinuations (startBits byte.toNat ranges.length) 1 ranges bytes with
      | .error (length, reason) => .error ⟨start, length, byte.toNat, reason⟩
      | .ok (point, rest) =>
        (decodeUtf8From (start + 1 + ranges.length) rest).map (Char.ofNat point :: ·)
termination_by bytes => bytes.length
decreasing_by
  have := takeContinuations_length read
  simp only [List.length_cons]
  omega

/-- Decode the bytes of a file, or say where they stop being text. -/
def decodeUtf8 (bytes : ByteArray) : Except Utf8Fault String :=
  (decodeUtf8From 0 bytes.toList).map String.ofList

end DeskCalc.Text
