import Walkthrough.CommandLine.Invocation
import Walkthrough.Proofs.Spelling
import Walkthrough.Proofs.Transcript

/-!
# When a call of the program succeeds

A call without arguments succeeds exactly if its input is a line of text for the name, with its
newline, and behind it a line of text that spells a numeral between blanks (`WellFormed`), and
exactly then it ends with the farewell (`exitCode_run_eq_zero_iff`).
-/

namespace Walkthrough

open Text.Utf8 (encode IsText)
open Text.Line (newline first behind body said chomp)

namespace Text

/-- A blank at the end makes no difference to a text without its outer blanks. -/
theorem trim_append_singleton {c : Char} (h : isBlank c = true) (text : List Char) :
    trim (text ++ [c]) = trim text := by
  have nothing : ∀ d ∈ ([] : List Char), isBlank d = true := nofun
  have blank : ∀ d ∈ [c], isBlank d = true := by
    intro d mem
    rwa [List.mem_singleton.mp mem]
  exact trim_padded nothing blank text

/-- A terminator is blank, so it makes no difference either. -/
theorem trim_chomp (text : List Char) : trim (chomp text) = trim text := by
  unfold chomp
  by_cases ended : text.getLast? = some '\n'
  · obtain ⟨line, rfl⟩ := List.getLast?_eq_some_iff.mp ended
    rw [if_pos ended, List.dropLast_concat, trim_append_singleton (by decide)]
    by_cases returned : line.getLast? = some '\r'
    · obtain ⟨before, rfl⟩ := List.getLast?_eq_some_iff.mp returned
      rw [if_pos returned, List.dropLast_concat, trim_append_singleton (by decide)]
    · rw [if_neg returned]
  · rw [if_neg ended]

end Text

namespace Text.Line

/-- A line that stands at the front of some octets: up to and with the first newline, or all there
is where there is none. -/
def StandsFirst (line rest : List UInt8) : Prop :=
  (∃ content, newline ∉ content ∧ line = content ++ [newline]) ∨ (newline ∉ line ∧ rest = [])

theorem standsFirst_first_behind (octets : List UInt8) :
    StandsFirst (first octets) (behind octets) := by
  rcases exists_newline_or_notMem octets with ⟨content, rest, notMem, rfl⟩ | notMem
  · exact .inl ⟨content, notMem, first_append_newline notMem rest⟩
  · rw [first_of_notMem notMem, behind_of_notMem notMem]
    exact .inr ⟨notMem, rfl⟩

theorem StandsFirst.first_append {line rest : List UInt8} (h : StandsFirst line rest) :
    first (line ++ rest) = line := by
  rcases h with ⟨content, notMem, rfl⟩ | ⟨notMem, rfl⟩
  · rw [List.append_assoc, List.singleton_append, first_append_newline notMem]
  · rw [List.append_nil, first_of_notMem notMem]

/-- A line says something exactly if it has octets and is a text. -/
theorem said_eq_ok_iff {line : List UInt8} {answer : String} :
    said line = .ok answer ↔
      line ≠ [] ∧ ∃ text, encode text = line ∧ answer = String.ofList (chomp text.toList) := by
  constructor
  · intro h
    by_cases empty : line = []
    · rw [empty, said_nil] at h
      cases h
    · refine ⟨empty, ?_⟩
      by_cases isText : IsText line
      · obtain ⟨text, rfl⟩ := isText
        rw [said_encode empty] at h
        exact ⟨text, rfl, (Except.ok.inj h).symm⟩
      · rw [said_of_not_isText empty isText] at h
        cases h
  · rintro ⟨nonempty, text, rfl, rfl⟩
    exact said_encode nonempty

end Text.Line

/-! ## When a tour comes to its end -/

theorem Tour.exists_ageOf_eq_ok_iff {answer : String} :
    (∃ age, ageOf answer = .ok age) ↔
      ∃ numeral : Numeral, Text.trim answer.toList = numeral.spell := by
  rw [← Age.exists_read_eq_ok_iff]
  unfold ageOf
  cases Age.read answer with
  | ok age => simp
  | error defect => simp

/-- A tour comes to its end exactly if both lines say something and the second says an age. -/
theorem Transcript.result_of_eq_ok_iff {input : List UInt8} :
    (of input).result = .ok () ↔
      ∃ name answer age, said (first input) = .ok name ∧
        said (first (behind input)) = .ok answer ∧ Tour.ageOf answer = .ok age := by
  simp only [of]
  cases said (first input) with
  | error interruption => simp
  | ok name =>
    cases said (first (behind input)) with
    | error interruption => simp
    | ok answer =>
      dsimp only
      cases read : Tour.ageOf answer with
      | error interruption => simp [read]
      | ok age => simp [read]

namespace CommandLine

/-- Input that a call succeeds on: a text as name, its newline, a line that spells a numeral between
blanks, and a rest that does not matter. -/
structure WellFormed (stdin name line rest : List UInt8) : Prop where
  whole : stdin = name ++ newline :: (line ++ rest)
  name_oneLine : newline ∉ name
  name_isText : IsText name
  line_standsFirst : Text.Line.StandsFirst line rest
  line_nonempty : line ≠ []
  line_spells : ∃ text, encode text = line ∧
    ∃ numeral : Numeral, Text.trim text.toList = numeral.spell

theorem isText_append_newline_iff {octets : List UInt8} :
    IsText (octets ++ [newline]) ↔ IsText octets :=
  Text.Line.isText_append_terminator octets .newline

theorem WellFormed.result {stdin name line rest : List UInt8}
    (h : WellFormed stdin name line rest) : (Transcript.of stdin).result = .ok () := by
  rw [Transcript.result_of_eq_ok_iff, h.whole, Text.Line.first_append_newline h.name_oneLine,
    Text.Line.behind_append_newline h.name_oneLine, h.line_standsFirst.first_append]
  obtain ⟨nameText, nameOctets⟩ := isText_append_newline_iff.mpr h.name_isText
  obtain ⟨text, octets, numeral, spelled⟩ := h.line_spells
  have answered : Text.trim (String.ofList (chomp text.toList)).toList = numeral.spell := by
    rw [String.toList_ofList, Text.trim_chomp, spelled]
  obtain ⟨age, read⟩ := Tour.exists_ageOf_eq_ok_iff.mpr ⟨numeral, answered⟩
  refine ⟨_, _, age, Text.Line.said_eq_ok_iff.mpr ⟨?_, nameText, nameOctets, rfl⟩,
    Text.Line.said_eq_ok_iff.mpr ⟨h.line_nonempty, text, octets, rfl⟩, read⟩
  exact List.append_ne_nil_of_right_ne_nil _ (List.cons_ne_nil _ _)

theorem exists_wellFormed_of_result {stdin : List UInt8}
    (h : (Transcript.of stdin).result = .ok ()) :
    ∃ name line rest, WellFormed stdin name line rest := by
  obtain ⟨name, answer, age, heardName, heardAge, read⟩ := Transcript.result_of_eq_ok_iff.mp h
  obtain ⟨-, nameText, nameOctets, -⟩ := Text.Line.said_eq_ok_iff.mp heardName
  obtain ⟨nonempty, text, octets, rfl⟩ := Text.Line.said_eq_ok_iff.mp heardAge
  -- without a newline behind the name nothing would be left for the age
  rcases Text.Line.exists_newline_or_notMem stdin with ⟨before, later, notMem, rfl⟩ | notMem
  · rw [Text.Line.first_append_newline notMem] at nameOctets
    rw [Text.Line.behind_append_newline notMem] at nonempty octets
    obtain ⟨numeral, spelled⟩ := Tour.exists_ageOf_eq_ok_iff.mp ⟨age, read⟩
    rw [String.toList_ofList, Text.trim_chomp] at spelled
    refine ⟨before, first later, behind later, ?_, notMem, ?_, ?_, nonempty, text, octets,
      numeral, spelled⟩
    · rw [Text.Line.first_append_behind]
    · exact isText_append_newline_iff.mp ⟨nameText, nameOctets⟩
    · exact Text.Line.standsFirst_first_behind later
  · rw [Text.Line.behind_of_notMem notMem] at nonempty
    exact absurd rfl nonempty

/-! ## How the output ends -/

/-- Octets whose last line is a given text. -/
def EndsInLine (text : String) (octets : List UInt8) : Prop :=
  ∃ before, octets = before ++ encode (text ++ "\n") ∧
    (before = [] ∨ before.getLast? = some newline)

theorem EndsInLine.isSuffix {text : String} {octets : List UInt8} (h : EndsInLine text octets) :
    encode (text ++ "\n") <:+ octets := by
  obtain ⟨before, rfl, -⟩ := h
  exact List.suffix_append _ _

/-- A tour that comes to its end says the farewell on a line of its own. -/
theorem endsInLine_of_result {stdin : List UInt8} (h : (Transcript.of stdin).result = .ok ()) :
    EndsInLine Tour.farewell (Transcript.of stdin).written := by
  obtain ⟨name, answer, age, heardName, heardAge, read⟩ := Transcript.result_of_eq_ok_iff.mp h
  have written : (Transcript.of stdin).written =
      encode Tour.opening ++ Tour.interludeOctets (body (first stdin)) ++
        encode (Tour.parting age.bracket) := by
    simp only [Transcript.of, heardName, heardAge, read]
  have parted : encode (Tour.parting age.bracket) =
      encode age.bracket.message ++ [newline, newline] ++ encode (Tour.farewell ++ "\n") := by
    rw [Tour.parting, String.append_assoc, Text.Utf8.encode_append, Text.Utf8.encode_append]
    rfl
  refine ⟨encode Tour.opening ++ Tour.interludeOctets (body (first stdin)) ++
    (encode age.bracket.message ++ [newline, newline]), ?_, .inr ?_⟩
  · rw [written, parted, ← List.append_assoc]
  · simp

/-- A tour that ends early ends with a question, which no newline follows. -/
theorem getLast?_written_of_error {stdin : List UInt8} {interruption : Interruption}
    (h : (Transcript.of stdin).result = .error interruption) :
    (Transcript.of stdin).written.getLast? = some 32 := by
  have opened : (encode Tour.opening).getLast? = some 32 := by decide +kernel
  have asked : (encode Tour.ageQuestion).getLast? = some 32 := by decide +kernel
  have again : ∀ name, (encode Tour.opening ++ Tour.interludeOctets name).getLast? = some 32 := by
    intro name
    rw [Tour.interludeOctets, ← List.append_assoc, List.getLast?_append, asked]
    rfl
  simp only [Transcript.of] at h ⊢
  split at h
  · exact opened
  · split at h
    · exact again _
    · split at h
      · exact again _
      · cases h

theorem not_isSuffix_of_error {stdin : List UInt8} {interruption : Interruption}
    (h : (Transcript.of stdin).result = .error interruption) :
    ¬ encode (Tour.farewell ++ "\n") <:+ (Transcript.of stdin).written := by
  rintro ⟨before, whole⟩
  have last := getLast?_written_of_error h
  have ended : (encode (Tour.farewell ++ "\n")).getLast? = some newline := by decide +kernel
  rw [← whole, List.getLast?_append, ended, Option.some_or] at last
  exact absurd last (by decide)

/-- A call without arguments. -/
def Invocation.plain (stdin : List UInt8) (setting : Option String) : Invocation :=
  ⟨[], setting, stdin⟩

/-- What a call without arguments leaves behind is what the transcript of its input says. -/
theorem run_plain (stdin : List UInt8) (setting : Option String) (stamp : String) :
    ((Invocation.plain stdin setting).run stamp).stdout = (Transcript.of stdin).written ∧
      ((Invocation.plain stdin setting).run stamp).exitCode =
        match (Transcript.of stdin).result with
        | .ok () => 0
        | .error _ => 1 := by
  have performed := Setup.transcript_faultless stdin
  have departed : (Invocation.plain stdin setting).run stamp =
      .ofPerformance (.ofSetting setting) stamp
        (Tour.dialogue.perform (Setup.faultless stdin).console) := rfl
  rw [departed, ← performed, Departure.ofPerformance]
  simp only [Performance.transcript]
  cases (Tour.dialogue.perform (Setup.faultless stdin).console).result <;> exact ⟨rfl, rfl⟩

/-- **When a call without arguments succeeds**: it leaves with 0 exactly if its input is well
formed, and with 1 otherwise; and it leaves with 0 exactly if its output ends in the farewell,
whatever the name says. -/
theorem exitCode_run_eq_zero_iff (stdin : List UInt8) (setting : Option String) (stamp : String) :
    (((Invocation.plain stdin setting).run stamp).exitCode = 0 ↔
        ∃ name line rest, WellFormed stdin name line rest) ∧
      (((Invocation.plain stdin setting).run stamp).exitCode = 1 ↔
        ¬ ∃ name line rest, WellFormed stdin name line rest) ∧
      (((Invocation.plain stdin setting).run stamp).exitCode = 0 ↔
        EndsInLine Tour.farewell ((Invocation.plain stdin setting).run stamp).stdout) ∧
      (((Invocation.plain stdin setting).run stamp).exitCode = 0 ↔
        encode (Tour.farewell ++ "\n") <:+ ((Invocation.plain stdin setting).run stamp).stdout) := by
  obtain ⟨stdout, exitCode⟩ := run_plain stdin setting stamp
  rw [stdout, exitCode]
  cases result : (Transcript.of stdin).result with
  | ok done =>
    have formed := exists_wellFormed_of_result result
    have ends := endsInLine_of_result result
    refine ⟨iff_of_true rfl formed, iff_of_false ?_ (not_not_intro formed), iff_of_true rfl ends,
      iff_of_true rfl ends.isSuffix⟩
    exact Nat.zero_ne_one
  | error interruption =>
    have misshapen : ¬ ∃ name line rest, WellFormed stdin name line rest := by
      rintro ⟨name, line, rest, formed⟩
      rw [formed.result] at result
      cases result
    have ends := not_isSuffix_of_error result
    refine ⟨iff_of_false ?_ misshapen, iff_of_true rfl misshapen,
      iff_of_false ?_ (mt EndsInLine.isSuffix ends), iff_of_false ?_ ends⟩ <;>
      exact Nat.one_ne_zero

end CommandLine

end Walkthrough
