import Walkthrough.Proofs.Anonymity
import Walkthrough.Proofs.Refusals
import Walkthrough.Proofs.Saturation

/-!
# Blanks around an age

Whatever blanks stand around an answer, it is judged as it would be without them: it is the same
age, or it is refused for the same reason (`Age.read_padded`).  A terminator is blank, and so is a
carriage return that is left in front of the end of the input.  So it makes no difference to a tour
how the line of the age is ended (`NameLine.tour_of_judged`), unless there is nothing on it
(`Tour.verdict_despite_padding`).
-/

namespace Walkthrough

open Text.Utf8 (encode)
open Text.Line (first said Terminator endingOctets)
open Diagnostics (Entry)

/-! ## Answers judged alike -/

/-- An age is read from what an answer is without its outer blanks. -/
theorem Age.read_eq_of_trim_eq {answer other : String}
    (same : Text.trim answer.toList = Text.trim other.toList) : read answer = read other := by
  rw [read, read, same]

/-- **Blanks around an answer make no difference**, whatever the answer is. -/
theorem Age.read_padded {front back : String} (h : ∀ c ∈ front.toList, Text.isBlank c = true)
    (k : ∀ c ∈ back.toList, Text.isBlank c = true) (answer : String) :
    read (front ++ answer ++ back) = read answer := by
  apply read_eq_of_trim_eq
  rw [String.toList_append, String.toList_append, Text.trim_padded h k]

namespace Tour

/-- What an answer to the question for an age comes to. -/
inductive Verdict where
  | accepted (age : Age)
  | refused (reason : String)
deriving DecidableEq

/-- The answer is judged so; one that is refused is kept as it was given. -/
def Judged (answer : String) : Verdict → Prop
  | .accepted age => ageOf answer = .ok age
  | .refused reason => ageOf answer = .error (.ageRejected answer reason)

theorem exists_judged (answer : String) : ∃ verdict, Judged answer verdict := by
  cases read : Age.read answer with
  | ok age =>
    refine ⟨.accepted age, ?_⟩
    rw [Judged, ageOf, read]
  | error defect =>
    refine ⟨.refused defect.reason, ?_⟩
    rw [Judged, ageOf, read]

theorem ageOf_eq_ok_iff {answer : String} {age : Age} :
    ageOf answer = .ok age ↔ Age.read answer = .ok age := by
  unfold ageOf
  cases Age.read answer with
  | ok read => simp
  | error defect => simp

/-- Answers that are read alike are judged alike. -/
theorem Judged.of_read_eq {answer other : String} {verdict : Verdict}
    (same : Age.read answer = Age.read other) (h : Judged answer verdict) :
    Judged other verdict := by
  cases verdict with
  | accepted age =>
    have read := ageOf_eq_ok_iff.mp h
    exact ageOf_eq_ok_iff.mpr (same ▸ read)
  | refused reason =>
    obtain ⟨defect, read, kept⟩ := ageOf_eq_error_iff.mp h
    obtain ⟨-, rfl⟩ := Interruption.ageRejected.inj kept
    exact ageOf_eq_error_iff.mpr ⟨defect, same ▸ read, rfl⟩

/-- What is written of a verdict. -/
def Verdict.octets : Verdict → List UInt8
  | .accepted age => encode (parting age.bracket)
  | .refused _ => []

/-- The reports of a verdict on an answer. -/
def Verdict.entries (answer : String) : Verdict → List Entry
  | .accepted age => [.ageClassified age age.bracket, .finished]
  | .refused reason => [.ageRejected (.ageRejected answer reason)]

/-- The result of a tour whose answer is judged so. -/
def Verdict.result (answer : String) : Verdict → Except Interruption Unit
  | .accepted _ => .ok ()
  | .refused reason => .error (.ageRejected answer reason)

end Tour

open Tour (Judged Verdict ageOf)

/-- From the second question on a tour comes to what the answer is judged to be. -/
theorem Transcript.sequel_of_judged {rest : List UInt8} {answer : String} {verdict : Verdict}
    (heard : said (first rest) = .ok answer) (judged : Judged answer verdict) :
    (sequel rest).result = verdict.result answer ∧ (sequel rest).written = verdict.octets ∧
      (sequel rest).trace.entries = verdict.entries answer := by
  cases verdict with
  | accepted age =>
    have read : ageOf answer = .ok age := judged
    simp only [sequel, heard, read]
    exact ⟨rfl, rfl, rfl⟩
  | refused reason =>
    have read : ageOf answer = .error (.ageRejected answer reason) := judged
    simp only [sequel, heard, read]
    exact ⟨rfl, rfl, rfl⟩

/-! ## The line of an answer -/

/-- What a person types for an age, and all that comes behind it: some text, on a line that ends
with a terminator or with the input. -/
structure AnswerLine where
  text : String
  ending : Option Terminator
  rest : List UInt8
  oneLine : '\n' ∉ text.toList
  atEnd : ending = none → rest = []

namespace AnswerLine

variable (line : AnswerLine)

/-- The octets of the line and of what comes behind it. -/
def octets : List UInt8 :=
  encode line.text ++ endingOctets line.ending ++ line.rest

/-- What the line says.  Where a bare newline ends it, a carriage return at the end of the text is
taken for a part of the terminator. -/
def heard : String :=
  if line.ending = some .newline ∧ line.text.toList.getLast? = some '\r' then
    String.ofList line.text.toList.dropLast
  else line.text

/-- A line on which there is something says it. -/
theorem said_octets (spoken : line.text ≠ "" ∨ line.ending ≠ none) :
    said (first line.octets) = .ok line.heard := by
  rw [octets, Text.Line.first_ending line.oneLine line.atEnd, heard]
  cases ended : line.ending with
  | none =>
    have nonempty := spoken.resolve_right (not_not_intro ended)
    rw [if_neg (by simp), endingOctets, Option.elim_none, List.append_nil]
    exact Text.Line.said_open line.oneLine nonempty
  | some terminator =>
    rw [endingOctets, Option.elim_some]
    by_cases returned : terminator = .newline ∧ line.text.toList.getLast? = some '\r'
    · obtain ⟨rfl, last⟩ := returned
      obtain ⟨before, letters⟩ := List.getLast?_eq_some_iff.mp last
      -- the carriage return in front of the newline is the first half of a terminator
      have whole : encode line.text ++ Terminator.newline.octets =
          encode (String.ofList before) ++ Terminator.returnNewline.octets := by
        rw [← String.ofList_toList (s := line.text), letters,
          Text.Utf8.encode_ofList_append_singleton (by decide), List.append_assoc]
        rfl
      rw [if_pos ⟨rfl, last⟩, whole, letters, List.dropLast_concat]
      exact Text.Line.said_terminated fun same => absurd same (by decide)
    · rw [if_neg (by simpa using returned)]
      exact Text.Line.said_terminated fun bare last => returned ⟨bare, last⟩

/-- What a line says differs from its text in a blank at most. -/
theorem trim_heard : Text.trim line.heard.toList = Text.trim line.text.toList := by
  unfold heard
  split
  · rename_i returned
    obtain ⟨before, letters⟩ := List.getLast?_eq_some_iff.mp returned.2
    rw [String.toList_ofList, letters, List.dropLast_concat,
      Text.trim_append_singleton (by decide)]
  · rfl

theorem read_heard : Age.read line.heard = Age.read line.text :=
  Age.read_eq_of_trim_eq line.trim_heard

end AnswerLine

/-! ## Tours that differ in the line of the answer -/

namespace NameLine

variable (name : NameLine) (line : AnswerLine) (setup : Setup)

/-- A tour whose result and whose reports are those of a verdict. -/
def EndsIn (tour : Performance Unit) (answer : String) (verdict : Verdict) : Prop :=
  tour.result = verdict.result answer ∧
    tour.trace.entries =
      [.started, .nameRead (decide (name.name = []))] ++ verdict.entries answer

/-- **A tour comes to what the text of the answer is judged to be**, however its line is ended. -/
theorem tour_of_judged {verdict : Verdict} (spoken : line.text ≠ "" ∨ line.ending ≠ none)
    (judged : Judged line.text verdict) :
    name.EndsIn (name.tour line.octets setup) line.heard verdict ∧
      (name.tour line.octets setup).trace.written =
        encode Tour.opening ++ Tour.welcomeOctets name.name ++
          (Tour.listingOctets ++ verdict.octets) := by
  obtain ⟨result, trace, written, -⟩ := name.parts_of_tour line.octets setup
  obtain ⟨result', written', entries'⟩ :=
    Transcript.sequel_of_judged (line.said_octets spoken) (judged.of_read_eq line.read_heard.symm)
  refine ⟨⟨?_, ?_⟩, ?_⟩
  · rw [result, result']
  · rw [trace, Trace.entries_append, name.entries_front, entries']
  · rw [written, written']

/-- A tour on which the input ends where an answer should begin. -/
theorem tour_of_unspoken (silent : line.text = "") (atEnd : line.ending = none) :
    (name.tour line.octets setup).result = .error .inputClosed ∧
      (name.tour line.octets setup).trace.written =
        encode Tour.opening ++ Tour.welcomeOctets name.name ++ (Tour.listingOctets ++ []) := by
  have nothing : line.octets = [] := by
    rw [AnswerLine.octets, silent, atEnd, line.atEnd atEnd]
    rfl
  obtain ⟨result, -, written, -⟩ := name.parts_of_tour line.octets setup
  rw [nothing] at result written ⊢
  exact ⟨result, written⟩

/-- What a tour has written once its answer was judged is written for any ending of the line. -/
theorem written_tour {verdict : Verdict} (judged : Judged line.text verdict) :
    (name.tour line.octets setup).trace.written =
      encode Tour.opening ++ Tour.welcomeOctets name.name ++
        (Tour.listingOctets ++ verdict.octets) := by
  by_cases silent : line.text = "" ∧ line.ending = none
  · -- nothing is written about an answer that is missing, nor about an empty one
    have empty : Judged line.text (.refused "empty input") := by
      rw [silent.1]
      rfl
    have nothing : verdict.octets = [] := by
      cases verdict with
      | accepted age =>
        have both := judged.symm.trans empty
        cases both
      | refused reason => rfl
    rw [nothing]
    exact (name.tour_of_unspoken line setup silent.1 silent.2).2
  · have spoken := Classical.not_and_iff_not_or_not.mp silent
    exact (name.tour_of_judged line setup spoken judged).2

end NameLine

/-- **Blanks around an age and the ending of its line make no difference.**  An answer with any
blanks in front of it and behind is judged as the answer alone: both are the same age, or each is
refused as it was given, for one reason.  Take any two lines with one text behind the line of a
name, each ended with a newline, with a carriage return and a newline, or with the input, and two
tours on which no device fails.  Both write the same.  Unless the text is empty, their results and
their reports are those of one verdict, which is the verdict on the text.  An empty text is refused
as empty where a terminator ends its line, and at the end of the input it is no answer. -/
theorem Tour.verdict_despite_padding :
    (∀ front answer back : String, (∀ c ∈ front.toList, Text.isBlank c = true) →
      (∀ c ∈ back.toList, Text.isBlank c = true) →
      ∃ verdict, Judged (front ++ answer ++ back) verdict ∧ Judged answer verdict) ∧
    ∀ (name : NameLine) (line other : AnswerLine) (setup otherSetup : Setup),
      line.text = other.text →
      let tour := name.tour line.octets setup
      let otherTour := name.tour other.octets otherSetup
      tour.trace.written = otherTour.trace.written ∧
        (line.text ≠ "" → ∃ verdict, Judged line.text verdict ∧
          name.EndsIn tour line.heard verdict ∧ name.EndsIn otherTour other.heard verdict) ∧
        (line.text = "" → line.ending ≠ none →
          tour.result = .error (.ageRejected "" "empty input")) ∧
        (line.text = "" → line.ending = none → tour.result = .error .inputClosed) := by
  constructor
  · intro front answer back h k
    obtain ⟨verdict, judged⟩ := exists_judged answer
    exact ⟨verdict, judged.of_read_eq (Age.read_padded h k answer).symm, judged⟩
  · intro name line other setup otherSetup same tour otherTour
    obtain ⟨verdict, judged⟩ := exists_judged line.text
    have otherJudged : Judged other.text verdict := same ▸ judged
    refine ⟨?_, ?_, ?_, ?_⟩
    · show (name.tour line.octets setup).trace.written = _
      rw [name.written_tour line setup judged, name.written_tour other otherSetup otherJudged]
    · intro nonempty
      exact ⟨verdict, judged, (name.tour_of_judged line setup (.inl nonempty) judged).1,
        (name.tour_of_judged other otherSetup (.inl (same ▸ nonempty)) otherJudged).1⟩
    · intro silent ended
      have empty : Judged line.text (.refused "empty input") := by
        rw [silent]
        rfl
      have heard : line.heard = "" := by
        rw [AnswerLine.heard, if_neg (by simp [silent]), silent]
      have result := (name.tour_of_judged line setup (.inr ended) empty).1.1
      rwa [heard] at result
    · intro silent atEnd
      exact (name.tour_of_unspoken line setup silent atEnd).1

/-- An age between blanks of several kinds, and one in front of a carriage return that belongs to
the terminator of one line and to the text of another. -/
theorem Tour.verdict_despite_padding_thirteen :
    let ada : NameLine := ⟨encode "Ada", by decide, Text.Utf8.isText_encode _⟩
    let bare : AnswerLine := ⟨"+1_3\r", some .newline, encode "20\n", by decide, nofun⟩
    let last : AnswerLine := ⟨"+1_3\r", none, [], by decide, fun _ => rfl⟩
    let tour := ada.tour bare.octets (.faultless [])
    let otherTour := ada.tour last.octets (.faultless [])
    ((∀ c ∈ "\u3000\t".toList, Text.isBlank c = true) ∧
        (∀ c ∈ "\u0085\r".toList, Text.isBlank c = true) ∧
        ∃ verdict, Judged ("\u3000\t" ++ " 13" ++ "\u0085\r") verdict ∧ Judged " 13" verdict) ∧
      bare.text = last.text ∧ bare.text ≠ "" ∧
      tour.trace.written = otherTour.trace.written ∧
      ∃ verdict, ada.EndsIn tour "+1_3" verdict ∧ ada.EndsIn otherTour "+1_3\r" verdict := by
  intro ada bare last tour otherTour
  have front : ∀ c ∈ "\u3000\t".toList, Text.isBlank c = true :=
    List.all_eq_true.mp (by decide)
  have back : ∀ c ∈ "\u0085\r".toList, Text.isBlank c = true :=
    List.all_eq_true.mp (by decide)
  have spoken : bare.text ≠ "" := by decide
  obtain ⟨padded, ended⟩ := verdict_despite_padding
  obtain ⟨written, alike, -, -⟩ := ended ada bare last (.faultless []) (.faultless []) rfl
  obtain ⟨verdict, -, ends, otherEnds⟩ := alike spoken
  have heard : bare.heard = "+1_3" := by decide +kernel
  have otherHeard : last.heard = "+1_3\r" := by decide +kernel
  rw [heard] at ends
  rw [otherHeard] at otherEnds
  exact ⟨⟨front, back, padded _ _ _ front back⟩, rfl, spoken, written, verdict, ends, otherEnds⟩

end Walkthrough
