import Mathlib.Algebra.Group.Int.Defs
import Mathlib.Algebra.Group.Nat.Defs
import Walkthrough.Proofs.FailStop
import Walkthrough.Proofs.Success

/-!
# Saturated ages fall into the right bracket

Digits are counted in one direction, so a total that has left the range of 64 bits never comes back
(`Beyond.count`), and reading a numeral gives the integer that it denotes, clamped once
(`exists_read_eq_ok_of_spell`).  Both thresholds between brackets lie within the range, so clamping
moves no integer across one (`ofYears_clamp`): a tour tells a person the message of the integer that
was spelled, however many digits it has (`bracket_of_denotes`).
-/

namespace Walkthrough

open Numeral (digitChar spellGroup spellGroups magnitude clamp)

namespace Text.Decimal

/-! ## Checked arithmetic -/

/-- An operation that is checked gives a word exactly if the word is the exact result. -/
theorem checked_eq_some_iff {overflow : Bool} {value word : Int64} {exact : Int}
    (checks : overflow = (decide (exact ≥ 2 ^ 63) || decide (exact < -2 ^ 63)))
    (wraps : value.toInt = exact.bmod (2 ^ 64)) :
    (if overflow then none else some value) = some word ↔ word.toInt = exact := by
  have low := word.le_toInt
  have high := word.toInt_lt
  constructor
  · intro h
    cases overflow with
    | true => cases h
    | false =>
      obtain rfl : value = word := by simpa using h
      rw [eq_comm, Bool.or_eq_false_iff, decide_eq_false_iff_not, decide_eq_false_iff_not] at checks
      rw [wraps, Int.bmod_eq_of_le] <;> omega
  · intro h
    have inside : overflow = false := by
      rw [checks, Bool.or_eq_false_iff, decide_eq_false_iff_not, decide_eq_false_iff_not]
      omega
    have same : value = word := by
      rw [← Int64.toInt_inj, wraps, h, Int.bmod_eq_of_le] <;> omega
    rw [inside, same]
    rfl

theorem times?_eq_some_iff {a b word : Int64} :
    times? a b = some word ↔ word.toInt = a.toInt * b.toInt :=
  checked_eq_some_iff rfl (Int64.toInt_mul a b)

theorem plus?_eq_some_iff {a b word : Int64} :
    plus? a b = some word ↔ word.toInt = a.toInt + b.toInt :=
  checked_eq_some_iff rfl (Int64.toInt_add a b)

theorem minus?_eq_some_iff {a b word : Int64} :
    minus? a b = some word ↔ word.toInt = a.toInt - b.toInt :=
  checked_eq_some_iff rfl (Int64.toInt_sub a b)

/-! ## Counting without bounds -/

namespace Direction

/-- The total after one more digit, in numbers without bounds. -/
def extend (way : Direction) (total digit : Int) : Int :=
  match way with
  | .up => 10 * total + digit
  | .down => 10 * total - digit

/-- The total after some more digits. -/
def count (way : Direction) (total : Int) (digits : List (Fin 10)) : Int :=
  digits.foldl (fun total digit => way.extend total digit.val) total

/-- A number of that size in a direction. -/
def signed : Direction → Nat → Int
  | .up, size => size
  | .down, size => -size

/-- The side of zero on which the totals of a direction lie. -/
def OnSide : Direction → Int → Prop
  | .up, total => 0 ≤ total
  | .down, total => total ≤ 0

/-- The totals that lie beyond the end of the range in a direction. -/
def Beyond : Direction → Int → Prop
  | .up, total => 2 ^ 63 ≤ total
  | .down, total => total < -2 ^ 63

variable {way : Direction} {total digit : Int}

theorem count_cons (way : Direction) (total : Int) (digit : Fin 10) (digits : List (Fin 10)) :
    way.count total (digit :: digits) = way.count (way.extend total digit.val) digits := rfl

theorem OnSide.extend (h : way.OnSide total) (nonneg : 0 ≤ digit) :
    way.OnSide (way.extend total digit) := by
  cases way <;> simp only [OnSide, Direction.extend] at h ⊢ <;> omega

/-- A total beyond the range does not come back into it. -/
theorem Beyond.extend (h : way.Beyond total) (nonneg : 0 ≤ digit) :
    way.Beyond (way.extend total digit) := by
  cases way <;> simp only [Beyond, Direction.extend] at h ⊢ <;> omega

theorem Beyond.count (h : way.Beyond total) (digits : List (Fin 10)) :
    way.Beyond (way.count total digits) := by
  induction digits generalizing total with
  | nil => exact h
  | cons digit digits ih => exact ih (h.extend (Int.natCast_nonneg _))

theorem extend_signed (way : Direction) (size : Nat) (digit : Fin 10) :
    way.extend (way.signed size) digit.val = way.signed (10 * size + digit.val) := by
  cases way <;> simp only [extend, signed] <;> omega

/-- Counted from zero, digits come to their magnitude in the direction. -/
theorem count_zero (way : Direction) (digits : List (Fin 10)) :
    way.count 0 digits = way.signed (magnitude digits) := by
  have general : ∀ size : Nat, way.count (way.signed size) digits =
      way.signed (digits.foldl (fun total digit => 10 * total + digit.val) size) := by
    induction digits with
    | nil => exact fun _ => rfl
    | cons digit digits ih =>
      intro size
      rw [count_cons, extend_signed, ih, List.foldl_cons]
  have start : way.signed 0 = 0 := by cases way <;> rfl
  rw [← start, general, magnitude]

/-! ## Counting in words -/

/-- A total is extended in words exactly if the extended total is a word. -/
theorem extend?_eq_some_iff {total digit word : Int64} (side : way.OnSide total.toInt)
    (nonneg : 0 ≤ digit.toInt) :
    way.extend? total digit = some word ↔ word.toInt = way.extend total.toInt digit.toInt := by
  have ten : (10 : Int64).toInt = 10 := rfl
  have low := word.le_toInt
  have high := word.toInt_lt
  unfold extend?
  rw [Option.bind_eq_some_iff]
  simp only [times?_eq_some_iff, ten]
  constructor
  · rintro ⟨shifted, tenfold, extended⟩
    cases way with
    | up =>
      rw [plus?_eq_some_iff, tenfold] at extended
      rw [extended, Direction.extend, Int.mul_comm]
    | down =>
      rw [minus?_eq_some_iff, tenfold] at extended
      rw [extended, Direction.extend, Int.mul_comm]
  · intro extended
    -- ten times the total lies between zero and the extended total
    have between : -2 ^ 63 ≤ total.toInt * 10 ∧ total.toInt * 10 < 2 ^ 63 := by
      cases way <;> simp only [OnSide, Direction.extend] at side extended <;> omega
    have shifted := Int64.toInt_ofInt_of_le between.1 between.2
    refine ⟨Int64.ofInt (total.toInt * 10), shifted, ?_⟩
    cases way with
    | up => rw [plus?_eq_some_iff, shifted, extended, Direction.extend, Int.mul_comm]
    | down => rw [minus?_eq_some_iff, shifted, extended, Direction.extend, Int.mul_comm]

/-- Where a total cannot be extended, the extended total lies beyond the end of the range. -/
theorem beyond_of_extend?_eq_none {total digit : Int64} (side : way.OnSide total.toInt)
    (nonneg : 0 ≤ digit.toInt) (h : way.extend? total digit = none) :
    way.Beyond (way.extend total.toInt digit.toInt) := by
  have sided := side.extend nonneg
  rcases Classical.em (way.Beyond (way.extend total.toInt digit.toInt)) with beyond | within
  · exact beyond
  · have inside : -2 ^ 63 ≤ way.extend total.toInt digit.toInt ∧
        way.extend total.toInt digit.toInt < 2 ^ 63 := by
      cases way <;> simp only [OnSide, Beyond] at sided within <;> omega
    have word := Int64.toInt_ofInt_of_le inside.1 inside.2
    rw [← extend?_eq_some_iff side nonneg, h] at word
    cases word

end Direction

theorem toInt_digitValue_digitChar (digit : Fin 10) :
    (digitValue (digitChar digit)).toInt = digit.val := by
  revert digit
  decide

end Text.Decimal

/-- Which way the digits of a numeral count. -/
def Numeral.direction (numeral : Numeral) : Text.Decimal.Direction :=
  if numeral.sign == some .minus then .down else .up

theorem Numeral.value_eq_signed (numeral : Numeral) :
    numeral.value = numeral.direction.signed (magnitude numeral.digits) := by
  rw [value, direction]
  by_cases negative : numeral.sign = some .minus
  · simp [negative, Text.Decimal.Direction.signed]
  · simp [negative, Text.Decimal.Direction.signed]

/-! ## Reading is clamping once -/

namespace Age

open Text.Decimal (Direction accumulate digitValue toInt_digitValue_digitChar)

theorem clamp_toInt (word : Int64) : clamp word.toInt = word.toInt := by
  have low := word.minValue_le_toInt
  have high := word.toInt_le
  unfold clamp
  omega

theorem exists_ofReading_overflow {way : Direction} {total : Int} (h : way.Beyond total) :
    ∃ age, ofReading (.error way.overflow) = .ok age ∧ age.years.toInt = clamp total := by
  have high : Int64.maxValue.toInt = 2 ^ 63 - 1 := rfl
  have low : Int64.minValue.toInt = -2 ^ 63 := rfl
  cases way with
  | up =>
    refine ⟨⟨Int64.maxValue⟩, rfl, ?_⟩
    simp only [Direction.Beyond, clamp, high, low] at h ⊢
    omega
  | down =>
    refine ⟨⟨Int64.minValue⟩, rfl, ?_⟩
    simp only [Direction.Beyond, clamp, high, low] at h ⊢
    omega

/-- **Digits are read exactly or not at all**: the word in hand is the total that they count to, or
that total lies beyond the end of the range. -/
theorem accumulate_exact (way : Direction) (digits : List (Fin 10)) {total : Int64}
    (side : way.OnSide total.toInt) :
    (∃ word, accumulate way total (digits.map digitChar) = .ok word ∧
        word.toInt = way.count total.toInt digits) ∨
      (accumulate way total (digits.map digitChar) = .error way.overflow ∧
        way.Beyond (way.count total.toInt digits)) := by
  -- on the digits: either the next total is a word, or this one and all later ones lie beyond
  induction digits generalizing total with
  | nil => exact .inl ⟨total, rfl, rfl⟩
  | cons digit digits ih =>
    have value := toInt_digitValue_digitChar digit
    have nonneg : 0 ≤ (digitValue (digitChar digit)).toInt := by omega
    rw [List.map_cons, accumulate, if_pos (isDigit_digitChar digit), Direction.count_cons]
    cases h : way.extend? total (digitValue (digitChar digit)) with
    | some extended =>
      have total' := (Direction.extend?_eq_some_iff side nonneg).mp h
      rw [value] at total'
      rw [← total']
      exact ih (total' ▸ side.extend (Int.natCast_nonneg _))
    | none =>
      have beyond := Direction.beyond_of_extend?_eq_none side nonneg h
      rw [value] at beyond
      exact .inr ⟨rfl, beyond.count digits⟩

/-- **Digits are read as the total that they count to, clamped once.** -/
theorem exists_ofReading_accumulate (way : Direction) (digits : List (Fin 10)) {total : Int64}
    (side : way.OnSide total.toInt) :
    ∃ age, ofReading (accumulate way total (digits.map digitChar)) = .ok age ∧
      age.years.toInt = clamp (way.count total.toInt digits) := by
  rcases accumulate_exact way digits side with ⟨word, read, exact⟩ | ⟨overflow, beyond⟩
  · rw [read, ← exact]
    exact ⟨⟨word⟩, rfl, (clamp_toInt word).symm⟩
  · rw [overflow]
    exact exists_ofReading_overflow beyond

/-- A text whose body passes the checks is read digit by digit. -/
theorem readTrimmed_of_checked {text : List Char} (checked : Checked (splitSign text).2) :
    readTrimmed text = ofReading (accumulate (if (splitSign text).1 then .down else .up) 0
      ((splitSign text).2.filter fun c => c != separator)) := by
  have nonempty : text ≠ [] := by
    rintro rfl
    exact checked.nonempty rfl
  obtain ⟨charset, placed⟩ := checked_iff.mp checked
  obtain ⟨digitsNonempty, areDigits⟩ := checked.digits
  rw [readTrimmed, if_neg (by simpa using nonempty)]
  simp only [charset, placed, Bool.false_eq_true, if_false]
  rw [read_of_isDigit digitsNonempty areDigits]

theorem filter_spellGroup (group : DigitGroup) :
    (spellGroup group).filter (fun c => c != separator) = group.digits.map digitChar := by
  refine List.filter_eq_self.mpr fun c mem => ?_
  obtain ⟨digit, -, rfl⟩ := List.mem_map.mp mem
  simpa using ne_separator_of_isDigit (isDigit_digitChar digit)

/-- Without its separators the body of a numeral is its digits. -/
theorem filter_spellGroups (leading : DigitGroup) (more : List DigitGroup) :
    (spellGroups leading more).filter (fun c => c != separator) =
      (leading.digits ++ more.flatMap DigitGroup.digits).map digitChar := by
  have later : (more.flatMap fun group => Numeral.separator :: spellGroup group).filter
      (fun c => c != separator) = (more.flatMap DigitGroup.digits).map digitChar := by
    induction more with
    | nil => rfl
    | cons group more ih =>
      rw [List.flatMap_cons, List.flatMap_cons, List.filter_append, ih, List.map_append,
        List.filter_cons_of_neg (by decide), filter_spellGroup]
  rw [spellGroups, List.filter_append, filter_spellGroup, later, List.map_append]

/-- What spells a numeral is read digit by digit, in the direction of its sign. -/
theorem readTrimmed_spell (numeral : Numeral) :
    readTrimmed numeral.spell =
      ofReading (accumulate numeral.direction 0 (numeral.digits.map digitChar)) := by
  have checked : Checked (splitSign numeral.spell).2 := by
    rw [splitSign_spell]
    exact (grouped_spellGroups _ _).checked
  rw [readTrimmed_of_checked checked, splitSign_spell, filter_spellGroups]
  rfl

theorem onSide_zero (way : Direction) : way.OnSide (0 : Int64).toInt := by
  cases way <;> exact Int.le_refl 0

/-- **What spells a numeral is read as the integer that it denotes**, clamped to 64 bits. -/
theorem exists_read_eq_ok_of_spell {text : String} {numeral : Numeral}
    (spelled : Text.trim text.toList = numeral.spell) :
    ∃ age, read text = .ok age ∧ age.years.toInt = clamp numeral.value := by
  rw [read, spelled, readTrimmed_spell, Numeral.value_eq_signed, ← Direction.count_zero]
  exact exists_ofReading_accumulate _ numeral.digits (onSide_zero _)

/-- The text denotes the integer. -/
def Denotes (text : String) (z : Int) : Prop :=
  ∃ numeral : Numeral, Text.trim text.toList = numeral.spell ∧ numeral.value = z

theorem exists_denotes {text : String} (accepted : ∃ age, read text = .ok age) :
    ∃ z, Denotes text z := by
  obtain ⟨numeral, spelled⟩ := exists_read_eq_ok_iff.mp accepted
  exact ⟨numeral.value, numeral, spelled, rfl⟩

end Age

/-- Clamping moves no integer across a threshold. -/
theorem Bracket.ofYears_clamp (z : Int) : ofYears (clamp z) = ofYears z := by
  have high : Int64.maxValue.toInt = 2 ^ 63 - 1 := rfl
  have low : Int64.minValue.toInt = -2 ^ 63 := rfl
  have child : clamp z < 13 ↔ z < 13 := by
    rw [clamp, high, low]
    omega
  have teenager : clamp z < 20 ↔ z < 20 := by
    rw [clamp, high, low]
    omega
  simp only [ofYears, child, teenager]

/-! ## The line of an age -/

namespace Text.Line

open Utf8 (encode IsText)

/-- The octets behind a line that ends with a terminator or, without one, with the input. -/
def endingOctets (ending : Option Terminator) : List UInt8 :=
  ending.elim [] Terminator.octets

variable {text : String} {ending : Option Terminator}

/-- A line is cut off where it ends; nothing follows one that ends with the input. -/
theorem first_ending {rest : List UInt8} (oneLine : '\n' ∉ text.toList)
    (atEnd : ending = none → rest = []) :
    first (encode text ++ endingOctets ending ++ rest) = encode text ++ endingOctets ending := by
  have notMem := newline_notMem_encode oneLine
  cases ending with
  | none =>
    rw [atEnd rfl, List.append_nil]
    exact first_of_notMem (by simpa [endingOctets] using notMem)
  | some terminator => exact (first_append_terminator notMem terminator rest).1

/-- What a line says differs from its text in blanks at most. -/
theorem exists_said_ending (nonempty : encode text ++ endingOctets ending ≠ []) :
    ∃ answer, said (encode text ++ endingOctets ending) = .ok answer ∧
      trim answer.toList = trim text.toList := by
  -- the text of a terminator is blank
  have whole : ∃ tail : List Char, encode (String.ofList (text.toList ++ tail)) =
      encode text ++ endingOctets ending ∧ trim (text.toList ++ tail) = trim text.toList := by
    rcases ending with _ | _ | _
    · exact ⟨[], by simp [endingOctets], by rw [List.append_nil]⟩
    · refine ⟨['\n'], ?_, trim_append_singleton (by decide) _⟩
      rw [Utf8.encode_ofList_append_singleton (by decide), String.ofList_toList]
      rfl
    · refine ⟨['\r', '\n'], ?_, ?_⟩
      · rw [List.append_cons, Utf8.encode_ofList_append_singleton (by decide),
          Utf8.encode_ofList_append_singleton (by decide), String.ofList_toList, List.append_assoc]
        rfl
      · rw [List.append_cons, trim_append_singleton (by decide), trim_append_singleton (by decide)]
  obtain ⟨tail, octets, trimmed⟩ := whole
  refine ⟨_, said_eq_ok_iff.mpr ⟨nonempty, _, octets, rfl⟩, ?_⟩
  rw [String.toList_ofList, String.toList_ofList, trim_chomp, trimmed]

end Text.Line

/-! ## What a person is told -/

open Text.Utf8 (encode IsText)
open Text.Line (newline first behind body said Terminator endingOctets)

theorem Age.Denotes.ne_empty {text : String} {z : Int} (h : Denotes text z) : text ≠ "" := by
  rintro rfl
  obtain ⟨numeral, spelled, -⟩ := h
  obtain ⟨age, read, -⟩ := exists_read_eq_ok_of_spell spelled
  cases read

/-- An answer that denotes an integer is taken for the age nearest to it. -/
theorem Tour.exists_ageOf_of_denotes {answer : String} {z : Int} (h : Age.Denotes answer z) :
    ∃ age, ageOf answer = .ok age ∧ age.years.toInt = clamp z ∧
      age.bracket = Bracket.ofYears z := by
  obtain ⟨numeral, spelled, rfl⟩ := h
  obtain ⟨age, read, years⟩ := Age.exists_read_eq_ok_of_spell spelled
  refine ⟨age, ?_, years, ?_⟩
  · rw [ageOf, read]
  · rw [Age.bracket_eq, years, Bracket.ofYears_clamp]

/-- The input of a person who gives a name and, on the next line, some text as an age. -/
def Tour.answers (name : List UInt8) (text : String) (ending : Option Terminator)
    (rest : List UInt8) : List UInt8 :=
  name ++ newline :: (encode text ++ endingOctets ending ++ rest)

/-- The transcript of a tour with a name and an age that denotes an integer. -/
theorem Transcript.exists_of_answers {name rest : List UInt8} {text : String}
    {ending : Option Terminator} {z : Int} (nameOneLine : newline ∉ name)
    (nameIsText : IsText name) (oneLine : '\n' ∉ text.toList)
    (atEnd : ending = none → rest = []) (denotes : Age.Denotes text z) :
    ∃ age : Age, age.years.toInt = clamp z ∧
      (of (Tour.answers name text ending rest)).result = .ok () ∧
      (of (Tour.answers name text ending rest)).written =
        encode Tour.opening ++ Tour.interludeOctets (body (name ++ [newline])) ++
          encode (Tour.parting (Bracket.ofYears z)) ∧
      (of (Tour.answers name text ending rest)).trace.entries =
        [.started, .nameRead (decide (body (name ++ [newline]) = [])),
          .ageClassified age (Bracket.ofYears z), .finished] := by
  have nonempty : encode text ++ endingOctets ending ≠ [] :=
    List.append_ne_nil_of_left_ne_nil (mt Text.Utf8.encode_eq_nil.mp denotes.ne_empty) _
  obtain ⟨answer, heardAge, trimmed⟩ := Text.Line.exists_said_ending nonempty
  have answered : Age.Denotes answer z := by
    unfold Age.Denotes at denotes ⊢
    rwa [trimmed]
  obtain ⟨age, read, years, bracket⟩ := Tour.exists_ageOf_of_denotes answered
  obtain ⟨nameText, heardName⟩ := Text.Line.exists_said_newline nameIsText
  simp only [of, Tour.answers, Text.Line.first_append_newline nameOneLine,
    Text.Line.behind_append_newline nameOneLine, Text.Line.first_ending oneLine atEnd, heardName,
    heardAge, read, bracket]
  exact ⟨age, years, trivial, trivial, rfl⟩

/-- **Saturation never puts a person into the wrong bracket.**  A text that is accepted as an age
denotes an integer.  Whatever integer it denotes, a tour without faults whose second line carries
the text is completed: it tells the message of the bracket in which that integer lies, whether or
not it fits into 64 bits, and reports the same bracket. -/
theorem Tour.bracket_of_denotes (setup : Setup) {name rest : List UInt8} {text : String}
    {ending : Option Terminator} (nameOneLine : newline ∉ name) (nameIsText : IsText name)
    (oneLine : '\n' ∉ text.toList) (atEnd : ending = none → rest = [])
    (accepted : ∃ age, Age.read text = .ok age) :
    (∃ z, Age.Denotes text z) ∧ ∀ z, Age.Denotes text z →
      ∃ (bracket : Bracket) (age : Age),
        (bracket = .child ↔ z < 13) ∧ (bracket = .teenager ↔ 13 ≤ z ∧ z < 20) ∧
        (bracket = .adult ↔ 20 ≤ z) ∧ age.years.toInt = clamp z ∧
        let tour := { setup with input := answers name text ending rest }.withoutFaults.tour
        tour.result = .ok () ∧
        tour.trace.written = encode opening ++ interludeOctets (body (name ++ [newline])) ++
          encode (bracket.message ++ "\n\n" ++ farewell ++ "\n") ∧
        tour.trace.entries = [.started, .nameRead (decide (body (name ++ [newline]) = [])),
          .ageClassified age bracket, .finished] := by
  refine ⟨Age.exists_denotes accepted, fun z denotes => ?_⟩
  obtain ⟨age, years, result, written, entries⟩ :=
    Transcript.exists_of_answers nameOneLine nameIsText oneLine atEnd denotes
  have transcript := (Console.faultless_withoutFaults
    { setup with input := answers name text ending rest }).transcript_perform
  rw [Console.unread_withoutFaults] at transcript
  rw [← transcript] at result written entries
  exact ⟨Bracket.ofYears z, age, Bracket.ofYears_eq_child_iff, Bracket.ofYears_eq_teenager_iff,
    Bracket.ofYears_eq_adult_iff, years, result, written, entries⟩

/-- A number of twenty digits with a sign, a separator and blanks lies far beyond 64 bits; the
person who spells it is told to be a child. -/
theorem Tour.bracket_of_hugeNegative :
    (newline ∉ encode "Ada\r" ∧ IsText (encode "Ada\r") ∧
      '\n' ∉ " -99_999999999999999999\t".toList ∧
      (∃ age, Age.read " -99_999999999999999999\t" = .ok age) ∧
      Age.Denotes " -99_999999999999999999\t" (-99999999999999999999)) ∧
    ∃ age : Age, age.years.toInt = clamp (-99999999999999999999) ∧
      let tour := (Setup.faultless (answers (encode "Ada\r") " -99_999999999999999999\t" none
        [])).withoutFaults.tour
      tour.result = .ok () ∧
      tour.trace.written = encode opening ++ interludeOctets (body (encode "Ada\r" ++ [newline])) ++
        encode (Bracket.child.message ++ "\n\n" ++ farewell ++ "\n") ∧
      tour.trace.entries = [.started, .nameRead (decide (body (encode "Ada\r" ++ [newline]) = [])),
        .ageClassified age .child, .finished] := by
  have oneLine : newline ∉ encode "Ada\r" := by decide
  have accepted : ∃ age, Age.read " -99_999999999999999999\t" = .ok age :=
    ⟨⟨Int64.minValue⟩, rfl⟩
  have denotes : Age.Denotes " -99_999999999999999999\t" (-99999999999999999999) :=
    ⟨⟨some .minus, ⟨9, [9]⟩, [⟨9, List.replicate 17 9⟩]⟩, by decide, by decide⟩
  obtain ⟨bracket, age, child, -, -, years, tour⟩ :=
    (bracket_of_denotes (.faultless []) oneLine (Text.Utf8.isText_encode "Ada\r") (by decide)
      (fun _ => rfl) accepted).2 _ denotes
  obtain rfl : bracket = .child := child.mpr (by decide)
  exact ⟨⟨oneLine, Text.Utf8.isText_encode _, by decide, accepted, denotes⟩, age, years, tour⟩

end Walkthrough
