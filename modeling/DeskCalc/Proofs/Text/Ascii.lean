import DeskCalc.Settings.Folder
import Mathlib.Data.List.Basic

/-! ASCII texts in files: each character is a byte of its own, and the text is read back. -/

namespace DeskCalc.Text

/-- The loop over the bytes of an array adds those from its position on. -/
theorem toList_loop_eq (bytes : ByteArray) (position : Nat) (before : List UInt8) :
    ByteArray.toList.loop bytes position before =
      before.reverse ++ bytes.data.toList.drop position := by
  fun_induction ByteArray.toList.loop bytes position before with
  | case1 position before inside ih =>
    -- The byte at the position goes from the front of the rest to the end of what is before.
    have bound : position < bytes.data.toList.length := inside
    have here : bytes.get! position = bytes.data.toList[position] := getElem!_pos bytes.data _ inside
    rw [ih, List.reverse_cons, List.append_assoc, List.singleton_append, here,
      ← List.drop_eq_getElem_cons bound]
  | case2 position before outside =>
    -- Behind the last byte there is nothing to add.
    rw [List.drop_eq_nil_of_le (Nat.le_of_not_lt outside), List.append_nil]

/-- The bytes of an array made of a list are those of the list. -/
theorem toList_toByteArray (bytes : List UInt8) : bytes.toByteArray.toList = bytes := by
  -- The loop starts in front of the first byte with nothing before it.
  rw [ByteArray.toList, toList_loop_eq, List.toList_data_toByteArray]
  rfl

/-- Characters of seven bits. -/
def IsAscii (c : Char) : Prop :=
  c.toNat < 0x80

instance : DecidablePred IsAscii :=
  fun c => inferInstanceAs (Decidable (c.toNat < 0x80))

/-- An ASCII character is a single byte. -/
theorem utf8EncodeChar_of_isAscii {c : Char} (ascii : IsAscii c) :
    String.utf8EncodeChar c = [UInt8.ofNat c.toNat] := by
  -- The first of the four lengths of a character ends at seven bits.
  have small : c.val.toNat ≤ 127 := Nat.le_of_lt_succ ascii
  rw [String.utf8EncodeChar, if_pos small]
  rfl

/-- ASCII characters are decoded one by one. -/
theorem decodeUtf8From_ascii {chars : List Char} (ascii : ∀ c ∈ chars, IsAscii c) (start : Nat) :
    decodeUtf8From start (chars.flatMap String.utf8EncodeChar) = .ok chars := by
  -- A byte below 0x80 has no continuation bytes.
  induction chars generalizing start with
  | nil => simp [decodeUtf8From]
  | cons c rest ih =>
    obtain ⟨small, others⟩ := List.forall_mem_cons.mp ascii
    rw [List.flatMap_cons, utf8EncodeChar_of_isAscii small, List.singleton_append,
      decodeUtf8From]
    have byte : (UInt8.ofNat c.toNat).toNat = c.toNat := by
      have : c.toNat < 0x80 := small
      rw [UInt8.toNat_ofNat', Nat.mod_eq_of_lt (by omega)]
    have single : continuationRanges c.toNat = some [] := if_pos small
    simp only [byte, single]
    -- Nothing is taken behind the byte, which is the whole character.
    split
    · rename_i stopped
      cases stopped
    · rename_i taken
      simp only [startBits, List.length_nil, takeContinuations, Except.ok.injEq,
        Prod.mk.injEq] at taken
      obtain ⟨rfl, rfl⟩ := taken
      rw [ih others, Except.map, byte, Char.ofNat_toNat]

/-- An ASCII text is decoded from its bytes. -/
theorem decodeUtf8_ascii {chars : List Char} (ascii : ∀ c ∈ chars, IsAscii c) :
    decodeUtf8 (String.ofList chars).toUTF8 = .ok (String.ofList chars) := by
  -- The bytes of a text are those of its characters in turn.
  have bytes : (String.ofList chars).toUTF8.toList = chars.flatMap String.utf8EncodeChar := by
    rw [String.toUTF8, String.toByteArray_ofList, List.utf8Encode, toList_toByteArray]
  rw [decodeUtf8, bytes, decodeUtf8From_ascii ascii]
  rfl

/-- ASCII characters that are read from a file as they are written to it. -/
structure IsPlain (c : Char) : Prop where
  ascii : IsAscii c
  noReturn : c ≠ '\r'

instance : DecidablePred IsPlain :=
  fun c => decidable_of_iff (IsAscii c ∧ c ≠ '\r')
    ⟨fun parts => ⟨parts.1, parts.2⟩, fun plain => ⟨plain.ascii, plain.noReturn⟩⟩

/-- The characters from the blank to the tilde are plain. -/
theorem isPlain_of_printable {c : Char} (low : ' ' ≤ c) (high : c ≤ '~') : IsPlain c where
  ascii := Nat.lt_of_le_of_lt high (by decide)
  noReturn := by
    rintro rfl
    exact absurd low (by decide)

/-- Digits are plain. -/
theorem isPlain_of_isDigit {c : Char} (digit : c.isDigit = true) : IsPlain c := by
  -- They stand between the blank and the tilde.
  simp only [Char.isDigit, Bool.and_eq_true, decide_eq_true_eq] at digit
  exact isPlain_of_printable (UInt32.le_trans (by decide) digit.1)
    (UInt32.le_trans digit.2 (by decide))

/-- A text of plain characters. -/
def Plain (chars : List Char) : Prop :=
  ∀ c ∈ chars, IsPlain c

instance (chars : List Char) : Decidable (Plain chars) :=
  List.decidableBAll IsPlain chars

@[simp] theorem plain_nil : Plain [] :=
  fun _ member => absurd member List.not_mem_nil

@[simp] theorem plain_cons {c : Char} {rest : List Char} :
    Plain (c :: rest) ↔ IsPlain c ∧ Plain rest :=
  List.forall_mem_cons

@[simp] theorem plain_append {front back : List Char} :
    Plain (front ++ back) ↔ Plain front ∧ Plain back :=
  List.forall_mem_append

theorem plain_of_isDigit {digits : List Char} (all : ∀ c ∈ digits, c.isDigit = true) :
    Plain digits :=
  fun c member => isPlain_of_isDigit (all c member)

end DeskCalc.Text

namespace DeskCalc.Settings.FileState

/-- Without a carriage return the ends of lines are left alone. -/
theorem unifyLineEnds_eq_self {chars : List Char} (plain : '\r' ∉ chars) :
    unifyLineEnds chars = chars := by
  -- Only a carriage return is ever replaced, alone or in front of a new line.
  induction chars with
  | nil => rfl
  | cons c rest ih =>
    obtain ⟨first, others⟩ := not_or.mp (mt List.mem_cons.mpr plain)
    rw [unifyLineEnds, ih others]
    · rintro _ rfl
      exact fun _ => first rfl
    · rintro rfl
      exact first rfl

/-- A file with a plain text holds that text. -/
theorem readText_plain {chars : List Char} (plain : Text.Plain chars) :
    (bytes (String.ofList chars).toUTF8).readText = .ok (String.ofList chars) := by
  -- Neither the decoder nor the line ends change a plain character.
  have noReturn : '\r' ∉ chars := fun member => (plain _ member).noReturn rfl
  rw [readText, Text.decodeUtf8_ascii fun c member => (plain c member).ascii]
  simp only [String.toList_ofList, unifyLineEnds_eq_self noReturn]

end DeskCalc.Settings.FileState
