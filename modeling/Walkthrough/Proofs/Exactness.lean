import Walkthrough.Proofs.Saturation

/-!
# Ages are read exactly

The numeral behind an age is read in words of 64 bits, and no word on the way is ever a wrong one.
After any number of digits the word in hand is the number that they stand for, or that number lies
beyond the range and the reading has ended with the overflow of that side
(`Numeral.readInWords_bare`).  So the parser of numerals gives the integer itself if it is a word
and names the side on which it is none (`Numeral.read_bare`), and an answer is taken for the
nearest word to the one integer that it denotes (`Tour.ageOf_saturates`).
-/

namespace Walkthrough

open Numeral (digitChar magnitude clamp)
open Text.Decimal (Direction accumulate)

namespace Text.Decimal

/-- Digits in front are counted before those behind them, and may end the reading. -/
theorem accumulate_append (way : Direction) (total : Int64) (front back : List Char) :
    accumulate way total (front ++ back) =
      (accumulate way total front).bind fun reached => accumulate way reached back := by
  induction front generalizing total with
  | nil => rfl
  | cons c front ih =>
    rw [List.cons_append, accumulate, accumulate]
    by_cases digit : c.isDigit = true
    · rw [if_pos digit, if_pos digit]
      cases way.extend? total (digitValue c) with
      | some extended => exact ih extended
      | none => rfl
    · rw [if_neg digit, if_neg digit]
      rfl

/-- A number beyond the range in a direction is no word, and the overflow of the direction names the
side of the range on which it lies. -/
theorem Direction.Beyond.overflow {way : Direction} {size : Nat}
    (h : way.Beyond (way.signed size)) :
    (∀ word : Int64, word.toInt ≠ way.signed size) ∧
      (way.overflow = .tooLarge ↔ Int64.maxValue.toInt < way.signed size) ∧
      (way.overflow = .tooSmall ↔ way.signed size < Int64.minValue.toInt) := by
  have high : Int64.maxValue.toInt = 2 ^ 63 - 1 := rfl
  have low : Int64.minValue.toInt = -2 ^ 63 := rfl
  have bounds (word : Int64) : -2 ^ 63 ≤ word.toInt ∧ word.toInt < 2 ^ 63 :=
    ⟨word.le_toInt, word.toInt_lt⟩
  cases way with
  | up =>
    simp only [Beyond, signed] at h ⊢
    refine ⟨fun word same => ?_, iff_of_true rfl ?_, iff_of_false Defect.noConfusion ?_⟩
    · have := bounds word
      omega
    · omega
    · omega
  | down =>
    simp only [Beyond, signed] at h ⊢
    refine ⟨fun word same => ?_, iff_of_false Defect.noConfusion ?_, iff_of_true rfl ?_⟩
    · have := bounds word
      omega
    · omega
    · omega

end Text.Decimal

namespace Numeral

/-! ## What the parser of numerals makes of a numeral -/

/-- A numeral as it is handed to the parser of numerals: its digits, with nothing in front of them
but a minus sign. -/
def bare (numeral : Numeral) : List Char :=
  if numeral.sign == some .minus then '-' :: numeral.digits.map digitChar
  else numeral.digits.map digitChar

/-- However many digits of a numeral are read, the word in hand is the number that these digits
stand for and the reading goes on from it, or that number lies beyond the range and the reading ends
with the overflow of its side. -/
def ReadInWords (numeral : Numeral) : Prop :=
  ∀ front back, numeral.digits = front ++ back →
    (∃ word, accumulate numeral.direction 0 (front.map digitChar) = .ok word ∧
        word.toInt = numeral.direction.signed (magnitude front) ∧
        Text.Decimal.read numeral.bare =
          accumulate numeral.direction word (back.map digitChar)) ∨
      (numeral.direction.Beyond (numeral.direction.signed (magnitude front)) ∧
        Text.Decimal.read numeral.bare = .error numeral.direction.overflow)

variable (numeral : Numeral)

theorem digits_ne_nil : numeral.digits ≠ [] :=
  List.cons_ne_nil _ _

theorem read_bare_eq_accumulate :
    Text.Decimal.read numeral.bare =
      accumulate numeral.direction 0 (numeral.digits.map digitChar) := by
  have areDigits : ∀ c ∈ numeral.digits.map digitChar, c.isDigit = true := by
    intro c mem
    obtain ⟨digit, -, rfl⟩ := List.mem_map.mp mem
    exact Age.isDigit_digitChar digit
  have nonempty : numeral.digits.map digitChar ≠ [] := by
    simpa using numeral.digits_ne_nil
  exact Age.read_of_isDigit nonempty areDigits _

/-- What is read as an age is what the parser of numerals makes of the bare numeral. -/
theorem readTrimmed_spell_eq : Age.readTrimmed numeral.spell =
    Age.ofReading (Text.Decimal.read numeral.bare) := by
  rw [Age.readTrimmed_spell, read_bare_eq_accumulate]

/-- **No word on the way is a wrong one.** -/
theorem readInWords_bare : numeral.ReadInWords := by
  intro front back whole
  have exactly := Age.accumulate_exact numeral.direction front (Age.onSide_zero _)
  have start : numeral.direction.count (0 : Int64).toInt front =
      numeral.direction.signed (magnitude front) := Direction.count_zero _ _
  rw [read_bare_eq_accumulate, whole, List.map_append, Text.Decimal.accumulate_append]
  rw [start] at exactly
  rcases exactly with ⟨word, read, value⟩ | ⟨overflow, beyond⟩
  · refine .inl ⟨word, read, value, ?_⟩
    rw [read]
    rfl
  · refine .inr ⟨beyond, ?_⟩
    rw [overflow]
    rfl

/-- **The parser of numerals gives the integer that a numeral denotes**, or the side of the range on
which it lies. -/
theorem read_bare :
    (∀ word, Text.Decimal.read numeral.bare = .ok word ↔ word.toInt = numeral.value) ∧
      (Text.Decimal.read numeral.bare = .error .tooLarge ↔
        Int64.maxValue.toInt < numeral.value) ∧
      (Text.Decimal.read numeral.bare = .error .tooSmall ↔
        numeral.value < Int64.minValue.toInt) := by
  rw [value_eq_signed]
  rcases numeral.readInWords_bare numeral.digits [] (List.append_nil _).symm with
    ⟨reached, -, value, read⟩ | ⟨beyond, read⟩
  · have low := reached.minValue_le_toInt
    have high := reached.toInt_le
    rw [read, ← value]
    refine ⟨fun word => ?_, iff_of_false (by simp [accumulate]) (by omega),
      iff_of_false (by simp [accumulate]) (by omega)⟩
    rw [List.map_nil, accumulate, Except.ok.injEq, Int64.toInt_inj, eq_comm]
  · obtain ⟨noWord, tooLarge, tooSmall⟩ := beyond.overflow
    rw [read, Except.error.injEq, Except.error.injEq]
    exact ⟨fun word => iff_of_false (by simp) (noWord word), tooLarge, tooSmall⟩

/-! ## One text, one integer -/

theorem digitChar_injective {a b : Fin 10} (h : digitChar a = digitChar b) : a = b := by
  revert a b
  decide

/-- A text denotes one integer at most, however its digits are grouped. -/
theorem value_eq_of_spell_eq {a b : Numeral} (h : a.spell = b.spell) : a.value = b.value := by
  have parts := congrArg Age.splitSign h
  rw [Age.splitSign_spell, Age.splitSign_spell, Prod.mk.injEq] at parts
  obtain ⟨sign, body⟩ := parts
  have letters := congrArg (List.filter fun c => c != Age.separator) body
  rw [Age.filter_spellGroups, Age.filter_spellGroups] at letters
  have digits : a.digits = b.digits :=
    List.map_inj_right (fun _ _ => digitChar_injective) |>.mp letters
  rw [value_eq_signed, value_eq_signed, direction, direction, sign, digits]

end Numeral

/-! ## Saturation -/

/-- **An answer is taken for the integer that it denotes, or for the end of the range on its side.**
An answer that is accepted as an age spells a numeral between its outer blanks.  All numerals that
it may be taken to spell have one value, of any size, and the age is the nearest word to it: the
value itself wherever that is a word, so also at both ends of the range, and an end of the range
only for what lies beyond it.  Behind the checks stands a parser that gives the value if it is a
word, and otherwise names the side; its total is exact after every digit that it has read. -/
theorem Tour.ageOf_saturates (answer : String) :
    ((∃ age, ageOf answer = .ok age) ↔
        ∃ numeral : Numeral, Text.trim answer.toList = numeral.spell) ∧
      ∀ numeral : Numeral, Text.trim answer.toList = numeral.spell →
        (∀ other : Numeral, Text.trim answer.toList = other.spell →
          other.value = numeral.value) ∧
        (∃ age, ageOf answer = .ok age ∧
          age.years.toInt = max Int64.minValue.toInt (min Int64.maxValue.toInt numeral.value) ∧
          (age.years.toInt = numeral.value ↔
            Int64.minValue.toInt ≤ numeral.value ∧ numeral.value ≤ Int64.maxValue.toInt) ∧
          (Int64.maxValue.toInt < numeral.value → age.years = Int64.maxValue) ∧
          (numeral.value < Int64.minValue.toInt → age.years = Int64.minValue)) ∧
        Age.read answer = Age.ofReading (Text.Decimal.read numeral.bare) ∧
        (∀ word, Text.Decimal.read numeral.bare = .ok word ↔ word.toInt = numeral.value) ∧
        (Text.Decimal.read numeral.bare = .error .tooLarge ↔
          Int64.maxValue.toInt < numeral.value) ∧
        (Text.Decimal.read numeral.bare = .error .tooSmall ↔
          numeral.value < Int64.minValue.toInt) ∧
        numeral.ReadInWords := by
  refine ⟨exists_ageOf_eq_ok_iff, fun numeral spelled => ?_⟩
  obtain ⟨word, tooLarge, tooSmall⟩ := numeral.read_bare
  refine ⟨fun other again => Numeral.value_eq_of_spell_eq (again.symm.trans spelled), ?_, ?_, word,
    tooLarge, tooSmall, numeral.readInWords_bare⟩
  · obtain ⟨age, read, years⟩ := Age.exists_read_eq_ok_of_spell spelled
    have ordered : Int64.minValue.toInt ≤ Int64.maxValue.toInt := by decide
    rw [clamp] at years
    refine ⟨age, by rw [ageOf, read], years, ?_, ?_, ?_⟩
    · omega
    · intro above
      rw [← Int64.toInt_inj]
      omega
    · intro below
      rw [← Int64.toInt_inj]
      omega
  · rw [Age.read, spelled, numeral.readTrimmed_spell_eq]

end Walkthrough
