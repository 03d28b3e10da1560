import Walkthrough.Proofs.Padding

/-!
# The normal form of an age

An age is reported as a decimal number, which is one of its spellings: read as an answer it is that
age again, for every word of 64 bits (`Tour.ageOf_number`).  So a person who had answered with the
number from the report would have been told the same, and the same would have been reported
(`Tour.age_in_normal_form`).  In between stands the group of digits that spells a natural number,
built by its last digit as the number is written (`Numeral.exists_spellGroup_eq_toDigits`).
-/

namespace Walkthrough

open Text.Utf8 (encode)
open Text.Line (newline)
open Tour (Judged Verdict)
open Diagnostics (Entry)

/-! ## Numbers are spelled by their digits -/

namespace Numeral

theorem magnitude_append_singleton (digits : List (Fin 10)) (digit : Fin 10) :
    magnitude (digits ++ [digit]) = 10 * magnitude digits + digit.val := by
  rw [magnitude, List.foldl_append, ← magnitude]
  rfl

/-- The decimal digits of a natural number are a group that stands for it. -/
theorem exists_spellGroup_eq_toDigits (n : Nat) :
    ∃ group : DigitGroup, spellGroup group = Nat.toDigits 10 n ∧ magnitude group.digits = n := by
  -- the last digit is split off, as the digits are written
  induction n using Nat.strongRecOn with
  | ind n ih =>
    by_cases small : n < 10
    · refine ⟨⟨⟨n, small⟩, []⟩, ?_, ?_⟩
      · rw [Nat.toDigits_eq_if (by decide), if_pos small]
        rfl
      · exact Nat.zero_add n
    · have fewer : n / 10 < n := Nat.div_lt_self (by omega) (by decide)
      obtain ⟨⟨first, rest⟩, spelled, value⟩ := ih (n / 10) fewer
      have last : n % 10 < 10 := Nat.mod_lt n (by decide)
      have longer : DigitGroup.digits ⟨first, rest ++ [⟨n % 10, last⟩]⟩ =
          DigitGroup.digits ⟨first, rest⟩ ++ [⟨n % 10, last⟩] := rfl
      refine ⟨⟨first, rest ++ [⟨n % 10, last⟩]⟩, ?_, ?_⟩
      · rw [spellGroup, longer, List.map_append, ← spellGroup, spelled,
          Nat.toDigits_eq_if (n := n) (by decide), if_neg small]
        rfl
      · rw [longer, magnitude_append_singleton, value]
        exact Nat.div_add_mod n 10

/-- The decimal number of an integer is a numeral that denotes it. -/
theorem exists_spell_eq_ofInt (z : Int) :
    ∃ numeral : Numeral, (Text.Decimal.ofInt z).toList = numeral.spell ∧ numeral.value = z := by
  obtain ⟨group, spelled, size⟩ := exists_spellGroup_eq_toDigits z.natAbs
  have digits (sign : Option Sign) : digits ⟨sign, group, []⟩ = group.digits :=
    List.append_nil _
  have body : spellGroups group [] = Nat.toDigits 10 z.natAbs := by
    rw [← spelled]
    exact List.append_nil _
  by_cases negative : z < 0
  · refine ⟨⟨some .minus, group, []⟩, ?_, ?_⟩
    · rw [Text.Decimal.ofInt, if_pos negative, String.toList_ofList, spell, body]
      rfl
    · rw [value, if_pos rfl, digits, size]
      omega
  · refine ⟨⟨none, group, []⟩, ?_, ?_⟩
    · rw [Text.Decimal.ofInt, if_neg negative, String.toList_ofList, spell, body]
      rfl
    · rw [value, if_neg (by simp), digits, size]
      omega

end Numeral

namespace Age

/-- The number under which an age is reported. -/
def number (age : Age) : String :=
  Text.Decimal.ofInt age.years.toInt

variable (age : Age)

/-- There is no blank in a number. -/
theorem isBlank_of_mem_number : ∀ c ∈ age.number.toList, Text.isBlank c = false := by
  have digits : ∀ c ∈ Nat.toDigits 10 age.years.toInt.natAbs, Text.isBlank c = false := by
    intro c mem
    obtain ⟨digit, rfl⟩ :=
      exists_digitChar (Nat.isDigit_of_mem_toDigits (by decide) (by decide) mem)
    clear mem
    revert digit
    decide
  intro c mem
  rw [number, Text.Decimal.ofInt, String.toList_ofList] at mem
  split at mem
  · rcases List.mem_cons.mp mem with rfl | digit
    · decide
    · exact digits c digit
  · exact digits c mem

theorem newline_notMem_number : '\n' ∉ age.number.toList := by
  intro mem
  exact absurd (age.isBlank_of_mem_number '\n' mem) (by decide)

/-- The number of an age is read as the age. -/
theorem read_number : read age.number = .ok age := by
  obtain ⟨numeral, spelled, value⟩ := Numeral.exists_spell_eq_ofInt age.years.toInt
  have trimmed : Text.trim age.number.toList = numeral.spell := by
    rw [Text.trim_eq_self age.isBlank_of_mem_number, ← spelled]
    rfl
  obtain ⟨same, read, years⟩ := exists_read_eq_ok_of_spell trimmed
  rw [value, clamp_toInt, Int64.toInt_inj] at years
  rw [read, show same = age from congrArg Age.mk years]

end Age

/-- **The number under which an age is reported is taken for that age.** -/
theorem Tour.ageOf_number (age : Age) : ageOf age.number = .ok age :=
  ageOf_eq_ok_iff.mpr age.read_number

/-! ## Answers in normal form -/

namespace AnswerLine

/-- The line of a person who gives the number of an age instead, and goes on as before. -/
def restate (line : AnswerLine) (age : Age) : AnswerLine :=
  { line with text := age.number, oneLine := age.newline_notMem_number }

theorem judged_restate (line : AnswerLine) (age : Age) :
    Judged (line.restate age).text (.accepted age) :=
  Tour.ageOf_number age

/-- A line of text is the line of an answer. -/
theorem exists_octets_eq {text : String} {rest : List UInt8}
    (stands : Text.Line.StandsFirst (encode text) rest) :
    ∃ line : AnswerLine, line.octets = encode text ++ rest := by
  rcases stands with ⟨content, notMem, ended⟩ | ⟨notMem, rfl⟩
  · obtain ⟨before, -, octets⟩ :=
      (Text.Utf8.encode_eq_append_singleton_iff (c := '\n') (by decide)).mp ended
    have oneLine : '\n' ∉ (String.ofList before).toList := by
      intro mem
      apply notMem
      rw [← octets]
      exact (Text.Utf8.mem_encode_iff (c := '\n') (by decide) _).mpr mem
    refine ⟨⟨String.ofList before, some .newline, rest, oneLine, fun no => absurd no (by simp)⟩, ?_⟩
    rw [ended, ← octets]
    rfl
  · have oneLine : '\n' ∉ text.toList := by
      intro mem
      exact notMem ((Text.Utf8.mem_encode_iff (c := '\n') (by decide) _).mpr mem)
    refine ⟨⟨text, none, [], oneLine, fun _ => rfl⟩, ?_⟩
    simp [octets, Text.Line.endingOctets]

end AnswerLine

/-- A tour is completed only on the line of a name and the line of an answer. -/
theorem Setup.exists_lines {setup : Setup} (accepted : setup.withoutFaults.tour.result = .ok ()) :
    ∃ (name : NameLine) (line : AnswerLine), setup.input = name.octets ++ line.octets := by
  have whole := (Console.faultless_withoutFaults setup).transcript_perform
  rw [Console.unread_withoutFaults] at whole
  rw [Setup.tour, ← Performance.transcript_result, whole] at accepted
  obtain ⟨name, octets, rest, formed⟩ := CommandLine.exists_wellFormed_of_result accepted
  obtain ⟨text, rfl, -⟩ := formed.line_spells
  obtain ⟨line, same⟩ := AnswerLine.exists_octets_eq formed.line_standsFirst
  have input : setup.input = (name ++ [newline]) ++ line.octets := by
    rw [formed.whole, same, List.append_assoc]
    rfl
  exact ⟨⟨name, formed.name_oneLine, formed.name_isText⟩, line, input⟩

/-- A tour that is completed ends in the age that the text of its answer is. -/
theorem NameLine.exists_endsIn_of_result (name : NameLine) (line : AnswerLine) {setup : Setup}
    (accepted : (name.tour line.octets setup).result = .ok ()) :
    ∃ age, Judged line.text (.accepted age) ∧
      name.EndsIn (name.tour line.octets setup) line.heard (.accepted age) := by
  by_cases silent : line.text = "" ∧ line.ending = none
  · rw [(name.tour_of_unspoken line setup silent.1 silent.2).1] at accepted
    cases accepted
  · have spoken := Classical.not_and_iff_not_or_not.mp silent
    obtain ⟨verdict, judged⟩ := Tour.exists_judged line.text
    have ends := (name.tour_of_judged line setup spoken judged).1
    cases verdict with
    | accepted age => exact ⟨age, judged, ends⟩
    | refused reason =>
      rw [ends.1] at accepted
      cases accepted

/-- With an accepted answer no age is reported but the one that it was taken for. -/
theorem NameLine.EndsIn.eq_of_reported {name : NameLine} {tour : Performance Unit}
    {answer : String} {age shown : Age} {bracket : Bracket}
    (ends : name.EndsIn tour answer (.accepted age))
    (reported : .ageClassified shown bracket ∈ tour.trace.entries) : shown = age := by
  rw [ends.2] at reported
  simp only [Verdict.entries, List.cons_append, List.nil_append, List.mem_cons,
    Entry.ageClassified.injEq, reduceCtorEq, List.not_mem_nil, or_false, false_or] at reported
  exact reported.1

theorem NameLine.EndsIn.mem_entries {name : NameLine} {tour : Performance Unit}
    {answer : String} {age : Age} (ends : name.EndsIn tour answer (.accepted age)) :
    .ageClassified age age.bracket ∈ tour.trace.entries := by
  rw [ends.2]
  simp [Verdict.entries]

/-- Tours that end in one accepted age have one result and one report, whatever was heard. -/
theorem NameLine.EndsIn.alike {name : NameLine} {tour otherTour : Performance Unit}
    {answer otherAnswer : String} {age : Age} (ends : name.EndsIn tour answer (.accepted age))
    (otherEnds : name.EndsIn otherTour otherAnswer (.accepted age)) :
    tour.result = otherTour.result ∧ tour.trace.entries = otherTour.trace.entries :=
  ⟨ends.1.trans otherEnds.1.symm, ends.2.trans otherEnds.2.symm⟩

/-- A tour on the line of a name is the tour on the whole input. -/
theorem NameLine.tour_eq_of_input {name : NameLine} {rest : List UInt8} {setup : Setup}
    (whole : setup.input = name.octets ++ rest) :
    name.tour rest setup = setup.withoutFaults.tour := by
  rw [tour, ← whole]

/-- The tour of a person who gives the number of an age ends in that age. -/
theorem NameLine.endsIn_restate (name : NameLine) (line : AnswerLine) (age : Age) (setup : Setup) :
    name.EndsIn (name.tour (line.restate age).octets setup) (line.restate age).heard
      (.accepted age) := by
  have spelled := line.judged_restate age
  have nonempty : (line.restate age).text ≠ "" := by
    intro empty
    rw [empty] at spelled
    cases spelled
  exact (name.tour_of_judged (line.restate age) setup (.inl nonempty) spelled).1

/-- **An age is reported in its normal form.**  The number in a report is taken for the age that it
stands for, at both ends of the range too.  Take a tour without faults that is completed.  It has
reported an age, on an input that is the line of a name and the line of an answer.  Put the number
from the report in place of the answer, and leave the line of the name, the terminator and the rest
as they are, however the input is cut into these: the tour has the same result, writes the same
octets and makes the same reports.  Doing this again changes nothing. -/
theorem Tour.age_in_normal_form :
    (∀ age : Age, ageOf (Text.Decimal.ofInt age.years.toInt) = .ok age) ∧
    ∀ setup : Setup, setup.withoutFaults.tour.result = .ok () →
      let tour := setup.withoutFaults.tour
      (∃ age bracket, .ageClassified age bracket ∈ tour.trace.entries) ∧
      (∃ (name : NameLine) (line : AnswerLine), setup.input = name.octets ++ line.octets) ∧
      ∀ (name : NameLine) (line : AnswerLine) (age : Age) (bracket : Bracket),
        setup.input = name.octets ++ line.octets →
        .ageClassified age bracket ∈ tour.trace.entries →
        let restated := name.tour (line.restate age).octets setup
        (Entry.ageClassified age bracket).text =
            "age classified age=" ++ (line.restate age).text ++ " bracket=" ++ bracket.name ∧
          restated.result = tour.result ∧
          restated.trace.written = tour.trace.written ∧
          restated.trace.entries = tour.trace.entries ∧
          ∀ shown bracket, .ageClassified shown bracket ∈ restated.trace.entries →
            (line.restate age).restate shown = line.restate age := by
  refine ⟨ageOf_number, fun setup accepted => ?_⟩
  have lines := Setup.exists_lines accepted
  -- a tour is taken for one on the two lines, however the input is cut into them
  have ends (name : NameLine) (line : AnswerLine)
      (whole : setup.input = name.octets ++ line.octets) :
      ∃ age, Judged line.text (.accepted age) ∧
        name.EndsIn setup.withoutFaults.tour line.heard (.accepted age) := by
    rw [← NameLine.tour_eq_of_input whole] at accepted ⊢
    exact name.exists_endsIn_of_result line accepted
  refine ⟨?_, lines, ?_⟩
  · obtain ⟨name, line, whole⟩ := lines
    obtain ⟨age, -, ended⟩ := ends name line whole
    exact ⟨age, age.bracket, ended.mem_entries⟩
  · intro name line age bracket whole reported restated
    obtain ⟨taken, judged, ended⟩ := ends name line whole
    obtain rfl := ended.eq_of_reported reported
    have again := name.endsIn_restate line age setup
    obtain ⟨result, entries⟩ := again.alike ended
    refine ⟨rfl, result, ?_, entries, ?_⟩
    · rw [← NameLine.tour_eq_of_input whole, name.written_tour line setup judged,
        name.written_tour (line.restate age) setup (line.judged_restate age)]
    · intro shown shownBracket shownAgain
      obtain rfl := again.eq_of_reported shownAgain
      rfl

/-- An age far below the range is reported as the least one, whose number leads to the same tour. -/
theorem Tour.age_in_normal_form_least :
    let name : NameLine := ⟨encode "Ada", by decide, Text.Utf8.isText_encode _⟩
    let line : AnswerLine :=
      ⟨" -99_999_999_999_999_999_999", some .returnNewline, encode "20\n", by decide, nofun⟩
    let least : Age := ⟨Int64.minValue⟩
    let setup : Setup := .faultless (name.octets ++ line.octets)
    let tour := setup.withoutFaults.tour
    let restated := name.tour (line.restate least).octets setup
    tour.result = .ok () ∧ .ageClassified least least.bracket ∈ tour.trace.entries ∧
      (line.restate least).text = "-9223372036854775808" ∧ restated.result = tour.result ∧
      restated.trace.written = tour.trace.written ∧
      restated.trace.entries = tour.trace.entries := by
  intro name line least setup tour restated
  have read : Age.read " -99_999_999_999_999_999_999" = .ok ⟨Int64.minValue⟩ := rfl
  have judged : Judged line.text (.accepted least) := ageOf_eq_ok_iff.mpr read
  have ends : name.EndsIn tour line.heard (.accepted least) :=
    (name.tour_of_judged line setup (.inl (by decide)) judged).1
  have reported := ends.mem_entries
  obtain ⟨-, -, alike⟩ := age_in_normal_form.2 setup ends.1
  obtain ⟨-, result, written, entries, -⟩ := alike name line least least.bracket rfl reported
  have number : (line.restate least).text = "-9223372036854775808" := by decide +kernel
  exact ⟨ends.1, reported, number, result, written, entries⟩

end Walkthrough
