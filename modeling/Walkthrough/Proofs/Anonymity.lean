import Walkthrough.CommandLine.Invocation
import Walkthrough.Proofs.FailStop
import Walkthrough.Proofs.Transcript

/-!
# What becomes of a name

A tour echoes the name in its welcome, and nothing else comes of it.  What lies behind the line of
the name decides about everything from the second question on (`Transcript.sequel`); up to there the
name shows in the length of its line, in whether it is a guest's, and in the welcome
(`Transcript.of_nameLine`).  So two persons of whom both give a name, or neither does, and who go on
alike, are treated alike but for the welcome, and a call reports the same of both
(`NameLine.tours_alike_but_for_welcome`).
-/

namespace Walkthrough

open Text.Utf8 (encode IsText)
open Text.Line (newline first behind body said)
open Tour (opening interludeOctets welcomeOctets parting ageOf)

/-! ## The line of a name -/

/-- A line that gives a name: some text, on a line of its own. -/
structure NameLine where
  content : List UInt8
  oneLine : newline ∉ content
  isText : IsText content

namespace NameLine

/-- The octets of the line, newline included. -/
def octets (line : NameLine) : List UInt8 :=
  line.content ++ [newline]

/-- The octets of the name that the line gives. -/
def name (line : NameLine) : List UInt8 :=
  body line.octets

/-- All effects of a tour until an answer to the second question is awaited. -/
def front (line : NameLine) : Trace :=
  [.log .started, .out (encode opening), .flush, .read line.octets.length,
    .log (.nameRead (decide (line.name = []))), .out (interludeOctets line.name), .flush]

variable (line : NameLine) (rest : List UInt8)

theorem entries_front :
    line.front.entries = [.started, .nameRead (decide (line.name = []))] := rfl

theorem cut_octets_append :
    first (line.octets ++ rest) = line.octets ∧ behind (line.octets ++ rest) = rest := by
  have whole : line.octets ++ rest = line.content ++ newline :: rest := by simp [octets]
  rw [whole, Text.Line.first_append_newline line.oneLine,
    Text.Line.behind_append_newline line.oneLine]
  exact ⟨rfl, rfl⟩

end NameLine

/-! ## What comes after the second question -/

/-- What becomes of a tour once it awaits an answer to its second question, by what is left of the
input. -/
def Transcript.sequel (rest : List UInt8) : Transcript :=
  let ageLine := first rest
  let asked : Trace := [.read ageLine.length]
  match said ageLine with
  | .error interruption => ⟨.error interruption, [], asked, behind rest⟩
  | .ok answer =>
    match ageOf answer with
    | .error interruption =>
      ⟨.error interruption, [], asked ++ [.log (.ageRejected interruption)], behind rest⟩
    | .ok age =>
      ⟨.ok (), encode (parting age.bracket),
        asked ++ [.log (.ageClassified age age.bracket), .out (encode (parting age.bracket)),
          .flush, .log .finished],
        behind rest⟩

/-- **A name shows in nothing but the front of a transcript.** -/
theorem Transcript.of_nameLine (line : NameLine) (rest : List UInt8) :
    of (line.octets ++ rest) =
      ⟨(sequel rest).result,
        encode opening ++ interludeOctets line.name ++ (sequel rest).written,
        line.front ++ (sequel rest).trace, (sequel rest).rest⟩ := by
  obtain ⟨nameLine, left⟩ := line.cut_octets_append rest
  obtain ⟨name, heard⟩ : ∃ name, said line.octets = .ok name :=
    Text.Line.exists_said_newline line.isText
  simp only [of, sequel, nameLine, left, heard]
  cases said (first rest) with
  | error interruption =>
    simp only [List.append_nil]
    rfl
  | ok answer =>
    simp only
    cases ageOf answer with
    | error interruption =>
      simp only [List.append_nil]
      rfl
    | ok age => rfl

/-- The tour without faults of a person who types the line of a name and then the rest. -/
def NameLine.tour (line : NameLine) (rest : List UInt8) (setup : Setup) : Performance Unit :=
  { setup with input := line.octets ++ rest }.withoutFaults.tour

/-- All that is written between the name and the age, the welcome left out. -/
def Tour.listingOctets : List UInt8 :=
  encode "\n" ++ encode countingBlock ++ encode fruitBlock ++ encode ageQuestion

theorem NameLine.parts_of_tour (line : NameLine) (rest : List UInt8) (setup : Setup) :
    let tour := line.tour rest setup
    let sequel := Transcript.sequel rest
    tour.result = sequel.result ∧ tour.trace = line.front ++ sequel.trace ∧
      tour.trace.written =
        encode opening ++ welcomeOctets line.name ++ (Tour.listingOctets ++ sequel.written) ∧
      tour.unread = sequel.rest.length := by
  intro tour sequel
  have free := Console.faultless_withoutFaults { setup with input := line.octets ++ rest }
  have whole := free.transcript_perform
  rw [Console.unread_withoutFaults, Transcript.of_nameLine] at whole
  have written : tour.trace.written =
      encode opening ++ interludeOctets line.name ++ sequel.written :=
    congrArg Transcript.written whole
  refine ⟨congrArg Transcript.result whole, congrArg Transcript.trace whole, ?_,
    congrArg (fun transcript => transcript.rest.length) whole⟩
  rw [written]
  simp only [interludeOctets, Tour.listingOctets, List.append_assoc]

/-- A guest is reported like any other guest, and a name like any other name. -/
theorem NameLine.entries_tour {line other : NameLine} (alike : line.name = [] ↔ other.name = [])
    (rest : List UInt8) (setup otherSetup : Setup) :
    (line.tour rest setup).trace.entries = (other.tour rest otherSetup).trace.entries := by
  have guest : decide (line.name = []) = decide (other.name = []) := decide_eq_decide.mpr alike
  rw [(line.parts_of_tour rest setup).2.1, (other.parts_of_tour rest otherSetup).2.1,
    Trace.entries_append, Trace.entries_append, line.entries_front, other.entries_front, guest]

/-! ## Calls of the program -/

/-- The exit code and the error output of a call depend on the result of the tour and on its
reports, and on nothing else of the input. -/
theorem CommandLine.exitCode_stderr_run {stdin other : List UInt8}
    (result : (Setup.faultless stdin).tour.result = (Setup.faultless other).tour.result)
    (entries : (Setup.faultless stdin).tour.trace.entries =
      (Setup.faultless other).tour.trace.entries)
    (arguments : List String) (setting : Option String) (stamp : String) :
    let departure := (Invocation.mk arguments setting stdin).run stamp
    let otherDeparture := (Invocation.mk arguments setting other).run stamp
    departure.exitCode = otherDeparture.exitCode ∧ departure.stderr = otherDeparture.stderr := by
  simp only [Invocation.run]
  cases Command.ofArguments arguments with
  | error unknown => exact ⟨rfl, rfl⟩
  | ok command =>
    cases command with
    | help | version => exact ⟨rfl, rfl⟩
    | run =>
      change (Departure.ofPerformance _ stamp (Setup.faultless stdin).tour).exitCode =
          (Departure.ofPerformance _ stamp (Setup.faultless other).tour).exitCode ∧
        (Departure.ofPerformance _ stamp (Setup.faultless stdin).tour).stderr =
          (Departure.ofPerformance _ stamp (Setup.faultless other).tour).stderr
      simp only [Departure.ofPerformance, result, entries]
      cases (Setup.faultless other).tour.result <;> exact ⟨rfl, rfl⟩

/-- **A name does not leak.**  Take two lines that give names, either both of them a name or both
none, and the same input behind them, in whatever pieces it comes.  The two tours, on which no
device fails, have the same result and the same reports, and leave as much unread.  Behind the
second question all their effects are the same, reads included; what they write is the same but for
the welcome.  A call of the program leaves with the same exit code and the same error output,
whatever its arguments are and whatever the log is set to. -/
theorem NameLine.tours_alike_but_for_welcome (setup otherSetup : Setup) {line other : NameLine}
    (alike : line.name = [] ↔ other.name = []) (rest : List UInt8) :
    let tour := line.tour rest setup
    let otherTour := other.tour rest otherSetup
    tour.result = otherTour.result ∧
      tour.trace.entries = otherTour.trace.entries ∧
      tour.unread = otherTour.unread ∧
      (∃ later, tour.trace = line.front ++ later ∧ otherTour.trace = other.front ++ later) ∧
      (∃ later, tour.trace.written = encode opening ++ welcomeOctets line.name ++ later ∧
        otherTour.trace.written = encode opening ++ welcomeOctets other.name ++ later) ∧
      ∀ (arguments : List String) (setting : Option String) (stamp : String),
        let departure :=
          (CommandLine.Invocation.mk arguments setting (line.octets ++ rest)).run stamp
        let otherDeparture :=
          (CommandLine.Invocation.mk arguments setting (other.octets ++ rest)).run stamp
        departure.exitCode = otherDeparture.exitCode ∧
          departure.stderr = otherDeparture.stderr := by
  intro tour otherTour
  obtain ⟨result, trace, written, unread⟩ := line.parts_of_tour rest setup
  obtain ⟨otherResult, otherTrace, otherWritten, otherUnread⟩ :=
    other.parts_of_tour rest otherSetup
  refine ⟨result.trans otherResult.symm, NameLine.entries_tour alike rest setup otherSetup,
    unread.trans otherUnread.symm, ⟨_, trace, otherTrace⟩, ⟨_, written, otherWritten⟩, ?_⟩
  have called := line.parts_of_tour rest (.faultless [])
  have otherCalled := other.parts_of_tour rest (.faultless [])
  exact CommandLine.exitCode_stderr_run (called.1.trans otherCalled.1.symm)
    (NameLine.entries_tour alike rest (.faultless []) (.faultless []))

/-- Where the age is rejected, a name with a carriage return behind it and one that imitates a
report lead to the same error output. -/
theorem NameLine.tours_alike_but_for_welcome_rejected :
    let ada : NameLine := ⟨encode "Ada\r", by decide, Text.Utf8.isText_encode _⟩
    let forger : NameLine :=
      ⟨encode "\u001b[2J WARN age rejected", by decide, Text.Utf8.isText_encode _⟩
    let stderr (stdin : List UInt8) :=
      ((CommandLine.Invocation.mk [] (some "debug") stdin).run "2025-11-19T02:45:00Z").stderr
    (ada.name = [] ↔ forger.name = []) ∧
      (ada.tour (encode "7_\n") (.faultless [])).result =
        (forger.tour (encode "7_\n") (.faultless [])).result ∧
      stderr (ada.octets ++ encode "7_\n") = stderr (forger.octets ++ encode "7_\n") := by
  intro ada forger stderr
  have alike : ada.name = [] ↔ forger.name = [] := by decide
  obtain ⟨result, -, -, -, -, called⟩ := tours_alike_but_for_welcome (.faultless []) (.faultless [])
    alike (encode "7_\n")
  exact ⟨alike, result, (called [] (some "debug") "2025-11-19T02:45:00Z").2⟩

end Walkthrough
