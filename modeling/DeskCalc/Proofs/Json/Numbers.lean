import DeskCalc.Json.Printer
import DeskCalc.Json.Reader
import DeskCalc.Proofs.Number.Layout
import DeskCalc.Proofs.Text.Ascii

/-! Numbers as they are written: integers digit by digit, and doubles in the shortest decimal
that reads back. -/

namespace DeskCalc.Json

open Number

variable {τ : Type}

/-- What stands behind a value that has been written: nothing, a comma or a new line. -/
def EndsValue : List Char → Prop
  | [] => True
  | c :: _ => c = ',' ∨ c = '\n'

section Parts

variable {digits rest : List Char}

/-- Digits are taken up to what is no digit. -/
theorem takeDigits_append (all : ∀ c ∈ digits, c.isDigit = true)
    (stop : ∀ c ∈ rest.head?, c.isDigit = false) :
    (digits ++ rest).takeWhile Char.isDigit = digits ∧
      (digits ++ rest).dropWhile Char.isDigit = rest := by
  -- All of the digits are taken, and nothing of the rest.
  have take : rest.takeWhile Char.isDigit = [] := by
    cases rest with
    | nil => rfl
    | cons c rest => simp [stop c rfl]
  have drop : rest.dropWhile Char.isDigit = rest := by
    cases rest with
    | nil => rfl
    | cons c rest => simp [stop c rfl]
  rw [List.takeWhile_append_of_pos all, List.dropWhile_append_of_pos all, take, drop]
  simp

/-- A whole part is read up to what is no digit. -/
theorem readWhole_append {whole : List Char} (part : IsWholePart whole)
    (stop : ∀ c ∈ rest.head?, c.isDigit = false) : readWhole (whole ++ rest) = (whole, rest) := by
  -- A zero in front is read alone, and other digits as far as they go.
  rcases part.first with rfl | first
  · rfl
  · obtain ⟨take, drop⟩ := takeDigits_append (fun c => @part.isDigit c) stop
    rw [readWhole, take, drop]
    rintro after same
    cases whole with
    | nil => exact part.occupied rfl
    | cons c whole =>
      simp only [List.cons_append, List.cons.injEq] at same
      simp [same.1] at first

/-- A fraction is read up to what is no digit. -/
theorem readFraction_append (all : ∀ c ∈ digits, c.isDigit = true) (occupied : digits ≠ [])
    (stop : ∀ c ∈ rest.head?, c.isDigit = false) :
    readFraction ('.' :: (digits ++ rest)) = some (digits, rest) := by
  obtain ⟨take, drop⟩ := takeDigits_append all stop
  simp [readFraction, take, drop, occupied]

/-- An exponent is read up to what is no digit, and with its sign. -/
theorem readExponent_append (all : ∀ c ∈ digits, c.isDigit = true) (occupied : digits ≠ [])
    (stop : ∀ c ∈ rest.head?, c.isDigit = false) (negative : Bool) :
    readExponent ('e' :: (if negative then '-' else '+') :: (digits ++ rest)) =
      some (if negative then -(ofDigits digits : Int) else ofDigits digits, rest) := by
  obtain ⟨take, drop⟩ := takeDigits_append all stop
  cases negative <;> simp [readExponent, Text.splitSign, take, drop, occupied]

end Parts

section Ends

variable {rest : List Char}

/-- What ends a value is no digit. -/
theorem EndsValue.stop (ends : EndsValue rest) : ∀ c ∈ rest.head?, c.isDigit = false := by
  cases rest with
  | nil => simp
  | cons c rest =>
    rintro _ ⟨⟩
    rcases ends with rfl | rfl <;> decide

/-- What ends a value is no fraction. -/
theorem EndsValue.readFraction_eq (ends : EndsValue rest) : readFraction rest = none := by
  cases rest with
  | nil => rfl
  | cons c rest => rcases ends with rfl | rfl <;> rfl

/-- What ends a value is no exponent. -/
theorem EndsValue.readExponent_eq (ends : EndsValue rest) : readExponent rest = none := by
  cases rest with
  | nil => rfl
  | cons c rest => rcases ends with rfl | rfl <;> rfl

end Ends

section Number

variable {whole fraction size rest : List Char}

/-- A whole part alone is read as an integer. -/
theorem readNumber_whole (negative : Bool) (part : IsWholePart whole)
    (short : whole.length ≤ Text.maxIntegerDigits) (ends : EndsValue rest) :
    readNumber negative (whole ++ rest) =
      .ok ((.int (if negative then -(ofDigits whole : Int) else ofDigits whole) : Json τ),
        rest) := by
  -- Neither a fraction nor an exponent follows.
  simp [readNumber, readWhole_append part ends.stop, part.occupied, ends.readFraction_eq,
    ends.readExponent_eq, not_lt.mpr short]

/-- A whole part with a fraction is read as a double. -/
theorem readNumber_fraction (negative : Bool) (part : IsWholePart whole)
    (all : ∀ c ∈ fraction, c.isDigit = true) (occupied : fraction ≠ []) (ends : EndsValue rest) :
    readNumber negative (whole ++ '.' :: (fraction ++ rest)) =
      .ok ((readNumber.ofParts negative whole fraction 0 : Json τ), rest) := by
  -- The whole part stops at the point, and no exponent follows.
  have stop : ∀ c ∈ ('.' :: (fraction ++ rest)).head?, c.isDigit = false := by simp
  simp [readNumber, readWhole_append part stop, part.occupied,
    readFraction_append all occupied ends.stop, ends.readExponent_eq]

/-- A whole part with an exponent is read as a double. -/
theorem readNumber_exponent (negative below : Bool) (part : IsWholePart whole)
    (all : ∀ c ∈ size, c.isDigit = true) (occupied : size ≠ []) (ends : EndsValue rest) :
    readNumber negative (whole ++ 'e' :: (if below then '-' else '+') :: (size ++ rest)) =
      .ok ((readNumber.ofParts negative whole []
        (if below then -(ofDigits size : Int) else ofDigits size) : Json τ), rest) := by
  have stop : ∀ c ∈ ('e' :: (if below then '-' else '+') :: (size ++ rest)).head?,
      c.isDigit = false := by simp
  -- The whole part stops at the letter, which is no point.
  have noFraction : readFraction ('e' :: (if below then '-' else '+') :: (size ++ rest)) = none :=
    rfl
  simp [readNumber, readWhole_append part stop, part.occupied, noFraction,
    readExponent_append all occupied ends.stop]

/-- A whole part with a fraction and an exponent is read as a double. -/
theorem readNumber_fraction_exponent (negative below : Bool) (part : IsWholePart whole)
    (all : ∀ c ∈ fraction, c.isDigit = true) (occupied : fraction ≠ [])
    (allSize : ∀ c ∈ size, c.isDigit = true) (occupiedSize : size ≠ []) (ends : EndsValue rest) :
    readNumber negative
        (whole ++ '.' :: (fraction ++ 'e' :: (if below then '-' else '+') :: (size ++ rest))) =
      .ok ((readNumber.ofParts negative whole fraction
        (if below then -(ofDigits size : Int) else ofDigits size) : Json τ), rest) := by
  -- Each part stops at the character that begins the next one.
  have stop : ∀ c ∈ ('.' :: (fraction ++ 'e' :: (if below then '-' else '+') ::
      (size ++ rest))).head?, c.isDigit = false := by simp
  have stopFraction : ∀ c ∈ ('e' :: (if below then '-' else '+') :: (size ++ rest)).head?,
      c.isDigit = false := by simp
  simp [readNumber, readWhole_append part stop, part.occupied,
    readFraction_append all occupied stopFraction,
    readExponent_append allSize occupiedSize ends.stop]

end Number

/-- Parts that denote a decimal in the interval of a double are read as the double. -/
theorem ofParts_eq_of_denotes {whole fraction : List Char} {power : ℤ} {decimal : ℚ}
    (denotes : Denotes whole fraction power decimal) {value : Float} {negative : Bool}
    {mantissa : Nat} {exponent : ℤ}
    (finite : Binary.ofFloat value = .finite negative mantissa exponent) (positive : 0 < mantissa)
    (inside : (Interval.around mantissa exponent).Contains (4 * (decimal / 2 ^ exponent))) :
    (readNumber.ofParts negative whole fraction power : Json τ) = .float value := by
  -- The reader counts all digits for its range, those behind the point too.
  rw [readNumber.ofParts,
    nearestDecimal_eq_of_contains finite positive (ofDigits_lt fun _ => denotes.isDigit_of_mem)]
  rwa [denotes.value_eq]

/-- A number that has been written: a digit comes first, every character is plain,
and all of them are read up to what ends a value. -/
structure IsWritten (negative : Bool) (text : List Char) (value : Json τ) : Prop where
  first : ∃ c ∈ text.head?, c.isDigit = true
  plain : Text.Plain text
  read {rest : List Char} : EndsValue rest → readNumber negative (text ++ rest) = .ok (value, rest)

/-- A whole part is never empty, and starts with a digit. -/
theorem exists_head_of_isWholePart {whole : List Char} (part : IsWholePart whole)
    (behind : List Char) : ∃ c ∈ (whole ++ behind).head?, c.isDigit = true := by
  obtain ⟨c, rest, rfl⟩ := List.exists_cons_of_ne_nil part.occupied
  exact ⟨c, rfl, part.isDigit List.mem_cons_self⟩

/-- The digits of an integer that is not too long are written for it. -/
theorem isWritten_toString (negative : Bool) {n : Nat} (short : n < 10 ^ Text.maxIntegerDigits) :
    IsWritten negative (toString n).toList
      (.int (if negative then -(n : Int) else n) : Json τ) := by
  -- They are a whole part, with no more digits than the number.
  have part := isWholePart_toString n
  refine ⟨by simpa using exists_head_of_isWholePart part [],
    Text.plain_of_isDigit fun _ => part.isDigit, fun {rest} ends => ?_⟩
  have few := length_toString_le (by decide) short
  rw [readNumber_whole negative part few ends, ofDigits_toString]

/-- Zero is written with a point. -/
theorem isWritten_zero {value : Float} {negative : Bool} {exponent : ℤ}
    (finite : Binary.ofFloat value = .finite negative 0 exponent) :
    IsWritten negative ['0', '.', '0'] (.float value : Json τ) := by
  -- The sign is kept: there are two zeros among the doubles.
  have zero : Text.IsPlain '0' := by decide
  have point : Text.IsPlain '.' := by decide
  refine ⟨⟨'0', rfl, by decide⟩, by simp [zero, point], fun {rest} ends => ?_⟩
  have part : IsWholePart ['0'] := ⟨by simp, by simp, .inl rfl⟩
  have read := @readNumber_fraction τ _ ['0'] rest negative part (by simp) (by simp) ends
  have parts : (readNumber.ofParts negative ['0'] ['0'] 0 : Json τ) =
      .float (nearest negative 0 1) := rfl
  rw [parts, nearest_zero_eq finite] at read
  exact read

section Shortest

variable {value : Float} {negative : Bool} {mantissa : Nat} {exponent : ℤ}
  (finite : Binary.ofFloat value = .finite negative mantissa exponent) (positive : 0 < mantissa)
include finite positive

/-- A double is written as its shortest decimal, with the point among the digits. -/
theorem isWritten_positional :
    IsWritten negative (shortest mantissa exponent).positional (.float value : Json τ) := by
  -- The layout denotes the decimal, which lies in the interval of the double.
  obtain ⟨proper, inside⟩ := shortest_spec (isCanonical_of_ofFloat finite) positive
  obtain ⟨whole, fraction, layout, occupied, denotes⟩ := proper.positional_eq
  rw [layout]
  refine ⟨exists_head_of_isWholePart denotes.isWhole _, ?_, fun {rest} ends => ?_⟩
  · have point : Text.IsPlain '.' := by decide
    simp [point, Text.plain_of_isDigit fun _ => denotes.isWhole.isDigit,
      Text.plain_of_isDigit denotes.isDigit]
  rw [List.append_assoc, List.cons_append,
    readNumber_fraction negative denotes.isWhole denotes.isDigit occupied ends,
    ofParts_eq_of_denotes denotes finite positive inside]

/-- A double is written as its shortest decimal, with an exponent behind the digits. -/
theorem isWritten_exponential (width : Nat) :
    IsWritten negative ((shortest mantissa exponent).exponential width)
      (.float value : Json τ) := by
  obtain ⟨proper, inside⟩ := shortest_spec (isCanonical_of_ofFloat finite) positive
  obtain ⟨whole, fraction, size, below, layout, all, occupied, denotes⟩ :=
    proper.exponential_eq width
  rw [layout]
  refine ⟨exists_head_of_isWholePart denotes.isWhole _, ?_, fun {rest} ends => ?_⟩
  · have marks : Text.IsPlain '.' ∧ Text.IsPlain 'e' ∧ Text.IsPlain '-' ∧ Text.IsPlain '+' := by
      decide
    simp only [Text.plain_append, Text.plain_cons, marks,
      Text.plain_of_isDigit fun _ => denotes.isWhole.isDigit, Text.plain_of_isDigit all, true_and,
      and_true]
    constructor
    · split <;> simp [marks, Text.plain_of_isDigit denotes.isDigit]
    · split <;> simp [marks]
  rw [List.append_assoc, ← ofParts_eq_of_denotes denotes finite positive inside]
  -- Without a fraction there is no point either.
  by_cases single : fraction = []
  · subst single
    simpa using readNumber_exponent negative below denotes.isWhole all occupied ends
  · rw [if_neg single]
    simpa using readNumber_fraction_exponent negative below denotes.isWhole denotes.isDigit single
      all occupied ends

end Shortest

/-- A finite double is written behind its sign. -/
theorem render_eq_of_finite {value : Float} {negative : Bool} {mantissa : Nat} {exponent : ℤ}
    (finite : Binary.ofFloat value = .finite negative mantissa exponent) :
    ∃ text, (render .file value).toList = signed negative text ∧
      IsWritten negative text (.float value : Json τ) := by
  -- The position of the point decides between the two layouts.
  have shown (decimal : Decimal) (kind : (if mantissa == 0 then ⟨['0'], 1⟩ else
      shortest mantissa exponent) = decimal) : (render .file value).toList = signed negative
        (if Layout.file.lowestPoint ≤ decimal.point && decimal.point ≤ Layout.file.highestPoint then
          decimal.positional else decimal.exponential Layout.file.exponentWidth) := by
    rw [render, finite, Binary.render, kind, String.toList_ofList]
    rfl
  rcases Nat.eq_zero_or_pos mantissa with rfl | positive
  · exact ⟨_, shown _ rfl, isWritten_zero finite⟩
  · refine ⟨_, shown (shortest mantissa exponent) (if_neg (by simpa using positive.ne')), ?_⟩
    split
    · exact isWritten_positional finite positive
    · exact isWritten_exponential finite positive _

/-- A digit is not a given other character. -/
theorem ne_of_isDigit {c other : Char} (digit : c.isDigit = true) (no : other.isDigit = false) :
    c ≠ other := by
  rintro rfl
  rw [digit] at no
  cases no

/-- A number behind its sign is read as one: no word that stands for a value starts like it. -/
theorem readScalar_signed {text : List Char} (digit : ∃ c ∈ text.head?, c.isDigit = true)
    (negative : Bool) : (readScalar (signed negative text) : Except ReadFault (Json τ × Rest)) =
      readNumber negative text := by
  obtain ⟨c, first, digit⟩ := digit
  obtain ⟨rest, rfl⟩ := List.head?_eq_some_iff.mp first
  have other {letter : Char} (no : letter.isDigit = false) : ¬ letter = c :=
    fun same => ne_of_isDigit digit no same.symm
  have noWord : ∀ entry ∈ @wordValues τ, behind? entry.1 (signed negative (c :: rest)) = none := by
    cases negative <;> simp [wordValues, behind?, signed, other]
  unfold readScalar
  rw [List.findSome?_eq_none_iff.mpr fun entry member =>
    Option.map_eq_none_iff.mpr (noWord entry member)]
  cases negative with
  | true => rfl
  | false =>
    -- Without a sign the number starts with its digit.
    have noMinus : c ≠ '-' := ne_of_isDigit digit (by decide)
    simp only [signed, Bool.false_eq_true, if_false]
    split
    · rename_i same
      exact absurd (List.cons.inj same).1 noMinus
    · rfl

/-- What has been written behind a sign is read back. -/
theorem IsWritten.readScalar_eq {negative : Bool} {text : List Char} {value : Json τ}
    (written : IsWritten negative text value) {rest : List Char} (ends : EndsValue rest) :
    readScalar (signed negative text ++ rest) = .ok (value, rest) := by
  -- What follows does not change how the text starts.
  obtain ⟨c, first, digit⟩ := written.first
  have before : signed negative text ++ rest = signed negative (text ++ rest) := by
    cases negative <;> rfl
  rw [before, readScalar_signed ⟨c, ?_, digit⟩, written.read ends]
  rw [List.head?_append, first]
  rfl

/-- An integer is its digits behind its sign. -/
theorem toString_eq_signed (value : Int) :
    (toString value).toList = signed (decide (value < 0)) (toString value.natAbs).toList := by
  -- An integer below zero is written as the negation of one above it.
  cases value with
  | ofNat n => rfl
  | negSucc n =>
    have text : toString (Int.negSucc n) = "-" ++ toString (n + 1) := rfl
    rw [text, decide_eq_true (Int.negSucc_lt_zero n), Int.natAbs_negSucc]
    simp [signed]

/-- An integer that is not too long is read back from its digits. -/
theorem readScalar_int {value : Int} (short : value.natAbs < 10 ^ Text.maxIntegerDigits)
    {rest : List Char} (ends : EndsValue rest) :
    readScalar ((toString value).toList ++ rest) = .ok ((.int value : Json τ), rest) := by
  -- The sign and the size of an integer make it out.
  have written := @isWritten_toString τ (decide (value < 0)) _ short
  have same : (if decide (value < 0) then -(value.natAbs : Int) else value.natAbs) = value := by
    simp only [decide_eq_true_eq]
    split <;> omega
  rw [same] at written
  rw [toString_eq_signed, written.readScalar_eq ends]

/-- A double is read back from its text. -/
theorem readScalar_float (value : Float) {rest : List Char} (ends : EndsValue rest) :
    readScalar ((render .file value).toList ++ rest) = .ok ((.float value : Json τ), rest) := by
  -- What is no finite number is written as a word.
  cases kind : Binary.ofFloat value with
  | nan =>
    have text : render .file value = "NaN" := by
      rw [render, kind]
      rfl
    rw [text, eq_ofBits_of_ofFloat_nan kind]
    rfl
  | infinity negative =>
    have text : render .file value = (if negative then "-" else "") ++ "Infinity" := by
      rw [render, kind]
      rfl
    rw [text, eq_ofBits_of_ofFloat_infinity kind]
    cases negative <;> rfl
  | finite negative mantissa exponent =>
    obtain ⟨text, shown, written⟩ := render_eq_of_finite kind
    rw [shown, written.readScalar_eq ends]

/-- A sign is plain too. -/
theorem plain_signed {text : List Char} (plain : Text.Plain text) (negative : Bool) :
    Text.Plain (signed negative text) := by
  have minus : Text.IsPlain '-' := by decide
  cases negative <;> simp [signed, minus, plain]

/-- Every integer is written in plain characters. -/
theorem plain_int (value : Int) : Text.Plain (toString value).toList := by
  rw [toString_eq_signed]
  exact plain_signed (Text.plain_of_isDigit fun _ => isDigit_of_mem_toString) _

/-- Every double is written in plain characters. -/
theorem plain_float (value : Float) : Text.Plain (render .file value).toList := by
  -- So are the words for what is no finite number.
  have letters : Text.Plain "NaN".toList ∧ Text.Plain "Infinity".toList := by decide
  cases kind : Binary.ofFloat value with
  | nan =>
    rw [render, kind]
    exact letters.1
  | infinity negative =>
    have text : (render .file value).toList = signed negative "Infinity".toList := by
      rw [render, kind]
      cases negative <;> rfl
    rw [text]
    exact plain_signed letters.2 negative
  | finite negative mantissa exponent =>
    obtain ⟨text, shown, written⟩ := @render_eq_of_finite String _ _ _ _ kind
    rw [shown]
    exact plain_signed written.plain negative

end DeskCalc.Json
