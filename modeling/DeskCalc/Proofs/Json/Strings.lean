import DeskCalc.Json.Printer
import DeskCalc.Json.Reader
import DeskCalc.Proofs.Text.Ascii
import Mathlib.Data.List.Basic
import Mathlib.Data.Option.Basic

/-! Strings as they are written: each code point is read back from its escape, or from the two
escapes of a pair. A high half and the low half behind it are written like the character that they
are together, and so that character is what they are read as. -/

namespace DeskCalc

namespace Text

namespace CodePoint

/-- The character of a number has that number, unless this is kept for halves or too large. -/
theorem toNat_ofNat {n : Nat} (valid : n.isValidChar) : (Char.ofNat n).toNat = n := by
  rw [Char.ofNat, dif_pos valid]
  rfl

/-- A character of two points has a high half and a low one, and 20 bits from them. -/
theorem halves_of_pair? {first second : CodePoint} {c : Char}
    (together : pair? first second = some c) : ∃ high low, first = half high ∧
      second = half low ∧ high.val < 0x400 ∧ 0x400 ≤ low.val ∧
      c.toNat = 0x10000 + high.val * 0x400 + (low.val - 0x400) := by
  -- Only two halves may be a pair, a high one in front of a low one.
  cases first with
  | char _ => cases together
  | half high =>
    cases second with
    | char _ => cases together
    | half low =>
      simp only [pair?] at together
      split at together
      · rename_i kinds
        have bound := low.isLt
        obtain rfl := Option.some.inj together
        exact ⟨high, low, rfl, rfl, kinds.1, kinds.2, toNat_ofNat (.inr (by omega))⟩
      · cases together

/-- A high half is the second part of no character. -/
theorem pair?_high (point : CodePoint) {place : Fin 0x800} (high : place.val < 0x400) :
    pair? point (half place) = none := by
  cases point with
  | char c => rfl
  | half first => exact if_neg fun both => Nat.not_lt.mpr both.2 high

/-- Joined points have nothing more to join. -/
theorem join_join (points : CodePoints) : join (join points) = join points := by
  fun_induction join points with
  | case1 first second rest c together ih =>
    -- A character is part of no pair.
    rw [join_cons (by simp [pair?]), ih]
  | case2 first second rest apart ih =>
    rw [join_cons, ih]
    -- What comes next is the second point still, or a character.
    intro next head
    cases rest with
    | nil =>
      cases head
      exact apart
    | cons third rest =>
      rw [join] at head
      split at head
      · cases head
        cases first <;> rfl
      · cases head
        exact apart
  | case3 points short =>
    cases points with
    | nil => rfl
    | cons point rest =>
      cases rest with
      | nil => rfl
      | cons next rest => exact absurd rfl (short point next rest)

/-- Only characters with 16 bits can be joined to characters with 16 bits: to themselves. -/
theorem eq_of_join_eq {points : CodePoints} {chars : List Char}
    (small : ∀ c ∈ chars, c.toNat < 0x10000) (same : join points = chars.map char) :
    points = chars.map char := by
  fun_induction join points generalizing chars with
  | case1 first second rest c together ih =>
    -- The character of a pair has more bits.
    obtain ⟨high, low, -, -, -, -, number⟩ := halves_of_pair? together
    obtain ⟨head, tail, rfl, first, -⟩ := List.map_eq_cons_iff.mp same.symm
    cases first
    have few := small c List.mem_cons_self
    omega
  | case2 first second rest apart ih =>
    obtain ⟨head, tail, rfl, first, others⟩ := List.map_eq_cons_iff.mp same.symm
    rw [List.map_cons, first, ih (fun c member => small c (List.mem_cons_of_mem _ member))
      others.symm]
  | case3 => exact same

end CodePoint

section Joined

variable {τ : Type} [Coded τ]

/-- A text with its code points joined. -/
def joined (text : τ) : τ :=
  Coded.ofPoints (CodePoint.join (Coded.points text))

/-- A string has nothing to join. -/
@[simp] theorem joined_string (text : String) : joined text = text := by
  have same : CodePoint.join (Coded.points text) = Coded.points text :=
    CodePoint.join_map_char text.toList
  rw [joined, same, Coded.ofPoints_points]

/-- Nor has a text that is a string of another type of texts. -/
@[simp] theorem joined_ofString (text : String) : joined (Coded.ofString text : τ) =
    Coded.ofString text := by
  rw [joined, Coded.points_ofString, CodePoint.join_map_char, ← @Coded.points_ofString τ,
    Coded.ofPoints_points]

/-- A text is not joined to a string with 16 bits for each character, unless it is that string. -/
theorem eq_of_joined_eq {text : τ} {string : String}
    (small : ∀ c ∈ string.toList, c.toNat < 0x10000) (same : joined text = Coded.ofString string) :
    text = Coded.ofString string := by
  have points := congrArg Coded.points same
  rw [joined, Coded.points_ofPoints_join, Coded.points_ofString] at points
  rw [← Coded.ofPoints_points text, CodePoint.eq_of_join_eq small points,
    ← @Coded.points_ofString τ, Coded.ofPoints_points]

/-- Different strings are different texts of any type. -/
@[simp] theorem ofString_inj {first second : String} :
    (Coded.ofString first : τ) = Coded.ofString second ↔ first = second := by
  refine ⟨fun same => ?_, congrArg _⟩
  -- The code points of such a text are the characters of the string.
  have points := congrArg Coded.points same
  rw [Coded.points_ofString, Coded.points_ofString] at points
  exact String.toList_injective (List.map_injective_iff.mpr (fun _ _ => CodePoint.char.inj) points)

/-- A text that is made of joined points has nothing more to join. -/
theorem joined_ofPoints_join (points : CodePoints) :
    joined (Coded.ofPoints (CodePoint.join points) : τ) =
      Coded.ofPoints (CodePoint.join points) := by
  rw [joined, Coded.join_points_ofPoints (CodePoint.join_join points), Coded.ofPoints_points]

end Joined

end Text

namespace Json

/-- The last hexadecimal digit of a number is that of its remainder. -/
theorem hexDigit_mod (n : Nat) : Text.hexDigit (n % 16) = Text.hexDigit n := by
  simp [Text.hexDigit]

/-- A hexadecimal digit is read as the last digit of the number. -/
theorem hexValue?_hexDigit (n : Nat) : hexValue? (Text.hexDigit n) = some (n % 16) := by
  -- There are sixteen digits, and each of them is read as itself.
  have each : ∀ digit < 16, hexValue? (Text.hexDigit digit) = some digit := by decide
  rw [← hexDigit_mod]
  exact each _ (Nat.mod_lt n (by decide))

/-- Four hexadecimal digits are read as the number of 16 bits that they were made of. -/
theorem hexUnit?_hexDigits {unit : Nat} (small : unit < 0x10000) :
    ∃ a b c d, Text.hexDigits 4 unit = [a, b, c, d] ∧ hexUnit? a b c d = some unit := by
  -- The digits are the remainders of the quotients by powers of sixteen.
  refine ⟨_, _, _, _, rfl, ?_⟩
  simp only [hexUnit?, hexValue?_hexDigit, Option.bind_eq_bind, Option.bind_some, Option.pure_def,
    Option.some.injEq]
  omega

/-- The number of a character is not kept for halves of pairs, and has 21 bits at most. -/
theorem toNat_valid (c : Char) : c.toNat < 0xd800 ∨ 0xdfff < c.toNat ∧ c.toNat < 0x110000 :=
  c.valid

/-- The number of a character with 16 bits stands for the character. -/
theorem ofUnit_toNat {c : Char} (small : c.toNat < 0x10000) :
    Text.CodePoint.ofUnit c.toNat = .char c := by
  have valid := toNat_valid c
  rw [Text.CodePoint.ofUnit, dif_neg (by omega), Char.ofNat_toNat]

/-- The number of a half stands for the half. -/
theorem ofUnit_half (place : Fin 0x800) :
    Text.CodePoint.ofUnit (0xd800 + place.val) = .half place := by
  have bound := place.isLt
  rw [Text.CodePoint.ofUnit, dif_pos (by omega)]
  simp

/-- The halves of a character beyond 16 bits, the high one and the low one. -/
def halvesOf (c : Char) : Text.CodePoint × Text.CodePoint :=
  (.ofUnit (0xd800 + (c.toNat - 0x10000) / 0x400), .ofUnit (0xdc00 + (c.toNat - 0x10000) % 0x400))

/-- The halves of a character are the character together. -/
theorem exists_halves {c : Char} (large : ¬ c.toNat < 0x10000) :
    ∃ high low, halvesOf c = (.half high, .half low) ∧ high.val < 0x400 ∧
      Text.CodePoint.pair? (.half high) (.half low) = some c := by
  -- Behind the first 16 bits of numbers there are 20 bits, of which each half has ten.
  have bound := toNat_valid c
  let offset := c.toNat - 0x10000
  have high : offset / 0x400 < 0x400 := by omega
  have low : 0x400 + offset % 0x400 < 0x800 := by omega
  refine ⟨⟨offset / 0x400, by omega⟩, ⟨0x400 + offset % 0x400, low⟩, ?_, high, ?_⟩
  · rw [halvesOf, ← ofUnit_half, ← ofUnit_half, ← Nat.add_assoc]
  · have sum : 0x10000 + offset / 0x400 * 0x400 + (0x400 + offset % 0x400 - 0x400) = c.toNat := by
      omega
    simp only [Text.CodePoint.pair?]
    rw [if_pos ⟨high, Nat.le_add_right _ _⟩, sum, Char.ofNat_toNat]

/-- The code points that are written for one: for a character beyond 16 bits its two halves. -/
def partsOf : Text.CodePoint → Text.CodePoints
  | .char c => if c.toNat < 0x10000 then [.char c] else [(halvesOf c).1, (halvesOf c).2]
  | .half place => [.half place]

/-- Points before those that are read from a text. -/
def withPoints (points : Text.CodePoints) (found : Option (Text.CodePoints × List Char)) :
    Option (Text.CodePoints × List Char) :=
  found.map fun (more, after) => (points ++ more, after)

/-- Points before others that stand before those of a text. -/
theorem withPoints_append (front back : Text.CodePoints)
    (found : Option (Text.CodePoints × List Char)) :
    withPoints front (withPoints back found) = withPoints (front ++ back) found := by
  cases found <;> simp [withPoints]

/-- An escaped unit is read as its code point. -/
theorem readPoints_unitEscape {unit : Nat} (small : unit < 0x10000) (rest : List Char) :
    readPoints (unitEscape unit ++ rest) = withPoints [.ofUnit unit] (readPoints rest) := by
  -- Behind the letter the reader takes four digits, which are those of the unit.
  obtain ⟨a, b, c, d, digits, value⟩ := hexUnit?_hexDigits small
  simp only [unitEscape, digits, List.cons_append, List.nil_append, readPoints, value]
  cases readPoints rest <;> rfl

/-- A character that is written by a letter behind a backslash is read from it. -/
theorem readPoints_escaped {letter c : Char} (known : escaped? letter = some c)
    (rest : List Char) :
    readPoints ('\\' :: letter :: rest) = withPoints [.char c] (readPoints rest) := by
  -- The letter of the escapes by number stands for no character.
  have noUnit : letter ≠ 'u' := by
    rintro rfl
    cases known
  rw [readPoints]
  · rw [known]
    cases readPoints rest <;> rfl
  · rintro _ _ _ _ _ rfl
    exact absurd rfl noUnit

/-- A printable character other than the quote and the backslash is read as it is. -/
theorem readPoints_plain {c : Char} (noQuote : c ≠ '"') (noEscape : c ≠ '\\') (visible : ' ' ≤ c)
    (rest : List Char) : readPoints (c :: rest) = withPoints [.char c] (readPoints rest) := by
  -- The character is neither the end of the string nor the start of an escape.
  rw [readPoints]
  · have kept : (c ≥ ' ' && c != '\\') = true := by simp [visible, noEscape]
    rw [kept]
    cases readPoints rest <;> rfl
  · exact noQuote
  · exact fun _ _ _ _ _ same _ => noEscape same
  · exact fun _ _ same _ => noEscape same

/-- A character is read as its parts. -/
theorem readPoints_quotedChar (c : Char) (rest : List Char) :
    readPoints (quotedChar c ++ rest) = withPoints (partsOf (.char c)) (readPoints rest) := by
  unfold quotedChar
  split
  case h_8 _ noQuote noEscape _ _ _ _ _ =>
    -- A character without an escape of its own is plain, or escaped by its number.
    split
    · rename_i plain
      simp only [Bool.and_eq_true, decide_eq_true_eq] at plain
      have below : c.toNat ≤ '~'.toNat := plain.2
      have small : c.toNat < 0x10000 := Nat.lt_of_le_of_lt below (by decide)
      rw [partsOf, if_pos small]
      exact readPoints_plain noQuote noEscape plain.1 rest
    · split
      · rename_i small
        rw [partsOf, if_pos small, ← ofUnit_toNat small]
        exact readPoints_unitEscape small rest
      · -- Both halves of a pair have sixteen bits.
        rename_i large
        have bound := toNat_valid c
        rw [partsOf, if_neg large, List.append_assoc, readPoints_unitEscape (by omega),
          readPoints_unitEscape (by omega), withPoints_append, List.singleton_append, halvesOf]
  -- The other characters are written by a letter.
  all_goals exact readPoints_escaped rfl rest

/-- A code point is read as its parts. -/
theorem readPoints_quotedPoint (point : Text.CodePoint) (rest : List Char) :
    readPoints (quotedPoint point ++ rest) = withPoints (partsOf point) (readPoints rest) := by
  cases point with
  | char c => exact readPoints_quotedChar c rest
  | half place =>
    have bound := place.isLt
    rw [quotedPoint, readPoints_unitEscape (by omega), ofUnit_half, partsOf]

/-- Escaped points and a closing quote are read as the parts of the points. -/
theorem readPoints_quoted (points : Text.CodePoints) (rest : List Char) :
    readPoints (points.flatMap quotedPoint ++ '"' :: rest) =
      some (points.flatMap partsOf, rest) := by
  -- Each point takes its own parts off the front.
  induction points with
  | nil => simp [readPoints]
  | cons point points ih =>
    rw [List.flatMap_cons, List.append_assoc, readPoints_quotedPoint, ih]
    rfl

/-- A point makes no character with the parts of others when it makes none with these. -/
theorem pair?_head_partsOf {point : Text.CodePoint} {points : Text.CodePoints}
    (apart : ∀ next ∈ points.head?, point.pair? next = none) :
    ∀ next ∈ (points.flatMap partsOf).head?, point.pair? next = none := by
  cases points with
  | nil => simp
  | cons first rest =>
    -- The parts start with the first point itself, or with a high half.
    cases first with
    | half place => simpa [partsOf] using apart
    | char c =>
      by_cases small : c.toNat < 0x10000
      · simpa [partsOf, small] using apart
      · obtain ⟨high, low, halves, below, -⟩ := exists_halves small
        simp [partsOf, small, halves, Text.CodePoint.pair?_high point below]

/-- The parts of points are joined to what the points are joined to. -/
theorem join_partsOf (points : Text.CodePoints) :
    Text.CodePoint.join (points.flatMap partsOf) = Text.CodePoint.join points := by
  -- The halves of one character are joined, and beyond that what had to be joined before.
  have first (point : Text.CodePoint) (rest : Text.CodePoints)
      (apart : ∀ next ∈ rest.head?, point.pair? next = none) :
      Text.CodePoint.join (partsOf point ++ rest) = point :: Text.CodePoint.join rest := by
    cases point with
    | half place => exact Text.CodePoint.join_cons apart
    | char c =>
      by_cases small : c.toNat < 0x10000
      · rw [partsOf, if_pos small]
        exact Text.CodePoint.join_cons apart
      · obtain ⟨high, low, halves, -, whole⟩ := exists_halves small
        simp [partsOf, small, halves, Text.CodePoint.join, whole]
  fun_induction Text.CodePoint.join points with
  | case1 high low rest c together ih =>
    -- Only halves are the parts of a character.
    cases high with
    | char c => cases together
    | half high =>
      cases low with
      | char c => cases together
      | half low => simp [partsOf, Text.CodePoint.join, together, ih]
  | case2 point second rest apart ih =>
    rw [List.flatMap_cons, first point _ (pair?_head_partsOf (by simpa using apart)), ih]
  | case3 points short =>
    cases points with
    | nil => rfl
    | cons point rest =>
      cases rest with
      | nil => simpa [Text.CodePoint.join] using first point [] (by simp)
      | cons next rest => exact absurd rfl (short point next rest)

section Texts

variable {τ : Type} [Text.Coded τ]

/-- A string is read back behind its opening quote, but for what there is to join. -/
theorem readText_quote (text : τ) (rest : List Char) :
    ∃ chars, quote text ++ rest = '"' :: chars ∧
      readText chars = .ok (Text.joined text, rest) := by
  -- The points are read off the escapes, and the text is made of the points.
  refine ⟨(Text.Coded.points text).flatMap quotedPoint ++ '"' :: rest, by simp [quote], ?_⟩
  simp only [readText, readPoints_quoted, join_partsOf, Text.joined]

/-- A text that is read has nothing to join. -/
theorem joined_of_readText {chars rest : List Char} {text : τ}
    (done : readText chars = .ok (text, rest)) : Text.joined text = text := by
  unfold readText at done
  split at done
  · cases done
    exact Text.joined_ofPoints_join _
  · cases done

end Texts

/-- Hexadecimal digits are plain. -/
theorem plain_hexDigits (width n : Nat) : Text.Plain (Text.hexDigits width n) := by
  have each : ∀ digit < 16, Text.IsPlain (Text.hexDigit digit) := by decide
  have last (n : Nat) : Text.IsPlain (Text.hexDigit n) := by
    rw [← hexDigit_mod]
    exact each _ (Nat.mod_lt n (by decide))
  -- One digit more comes behind those of the quotient.
  induction width generalizing n with
  | zero => exact Text.plain_nil
  | succ width ih => simp [Text.hexDigits, ih, last]

/-- Every unit is escaped in plain characters. -/
theorem plain_unitEscape (unit : Nat) : Text.Plain (unitEscape unit) := by
  have marks : Text.IsPlain '\\' ∧ Text.IsPlain 'u' := by decide
  simp [unitEscape, marks, plain_hexDigits]

/-- Every character is written in plain ones. -/
theorem plain_quotedChar (c : Char) : Text.Plain (quotedChar c) := by
  unfold quotedChar
  split
  case h_8 =>
    split
    · rename_i printable
      simp only [Bool.and_eq_true, decide_eq_true_eq] at printable
      simpa using Text.isPlain_of_printable printable.1 printable.2
    · split
      · exact plain_unitEscape _
      · simp [plain_unitEscape]
  -- The other characters have an escape of their own.
  all_goals decide

/-- Every code point is. -/
theorem plain_quotedPoint (point : Text.CodePoint) : Text.Plain (quotedPoint point) := by
  cases point with
  | char c => exact plain_quotedChar c
  | half place => exact plain_unitEscape _

/-- Every string is written in plain characters. -/
theorem plain_quote {τ : Type} [Text.Coded τ] (text : τ) : Text.Plain (quote text) := by
  have mark : Text.IsPlain '"' := by decide
  -- Every point is written in plain characters by itself.
  have inside : Text.Plain ((Text.Coded.points text).flatMap quotedPoint) := by
    intro c member
    obtain ⟨source, -, written⟩ := List.mem_flatMap.mp member
    exact plain_quotedPoint source c written
  simp [quote, mark, inside]

end Json

end DeskCalc
