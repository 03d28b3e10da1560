import Walkthrough.Proofs.Disclosure
import Walkthrough.Proofs.Position
import Walkthrough.Proofs.Saturation

/-!
# One question on any console

A question is answered with the next line of what the reader hands out, on any console on which
nothing fails meanwhile, whatever has happened there before and whatever may fail later.  The answer
tells exactly which octets were taken: those of its text, and behind them a terminator or, where no
newline is left, nothing (`Text.Line.Carries`).  Conversely octets that carry a text in this way are
answered with it (`said_first_eq_ok_iff`), so no two answers are told by the same octets and none
loses anything but its terminator.

What fails comes in the order of the requests: a writer, a flush and a reader that fails in front of
a newline, and only then octets that are no text (`Dialogue.perform_ask_exact`).
-/

namespace Walkthrough

open Text.Utf8 (encode IsText)
open Text.Line (newline first behind said)

namespace Text.Line

/-- A line that is cut off has a newline if there is one. -/
theorem isEnded_first_iff (octets : List UInt8) :
    isEnded (first octets) = true ↔ newline ∈ octets := by
  rw [isEnded, beq_iff_eq]
  constructor
  · intro last
    have mem := List.mem_append_left (behind octets) (List.mem_of_getLast? last)
    rwa [first_append_behind] at mem
  · intro mem
    obtain ⟨before, rest, rfl, notMem⟩ := List.eq_append_cons_of_mem mem
    rw [first_append_newline notMem, List.getLast?_concat]

/-! ## What the first line carries -/

/-- Some octets begin with a line that carries a text, and end it in some way: with a newline, with
a carriage return and a newline, or with the input itself. -/
structure Carries (octets : List UInt8) (text : String) (ending : Option Terminator)
    (rest : List UInt8) : Prop where
  whole : octets = encode text ++ endingOctets ending ++ rest
  oneLine : '\n' ∉ text.toList
  /-- a carriage return in front of a newline belongs to the terminator -/
  apart : ending = some .newline → text.toList.getLast? ≠ some '\r'
  /-- only the end of the input is no terminator, and there is no empty line in front of it -/
  atEnd : ending = none → rest = [] ∧ text ≠ ""

variable {octets rest : List UInt8} {text : String} {ending : Option Terminator}

theorem Carries.first_eq (h : Carries octets text ending rest) :
    first octets = encode text ++ endingOctets ending := by
  rw [h.whole]
  exact first_ending h.oneLine fun open' => (h.atEnd open').1

theorem Carries.behind_eq (h : Carries octets text ending rest) : behind octets = rest := by
  have whole := first_append_behind octets
  rw [h.first_eq] at whole
  exact List.append_cancel_left (whole.trans h.whole)

theorem Carries.said_first (h : Carries octets text ending rest) :
    said (first octets) = .ok text := by
  rw [h.first_eq]
  cases ending with
  | none =>
    rw [endingOctets, Option.elim_none, List.append_nil]
    exact said_open h.oneLine (h.atEnd rfl).2
  | some terminator => exact said_terminated fun same => h.apart (congrArg some same)

/-- A line that says a text carries it, ended as its last octets tell. -/
theorem exists_carries_of_said (h : said (first octets) = .ok text) :
    ∃ ending rest, Carries octets text ending rest := by
  have content := encode_of_said h
  have oneLine : '\n' ∉ text.toList :=
    mt (Utf8.mem_encode_iff (by decide) text).mpr (newline_notMem_of_said h)
  rcases exists_newline_or_notMem octets with ⟨before, rest, notMem, rfl⟩ | notMem
  · rw [first_append_newline notMem] at content
    by_cases returned : before.getLast? = some carriageReturn
    · obtain ⟨front, rfl⟩ := List.getLast?_eq_some_iff.mp returned
      rw [List.append_assoc, List.singleton_append, body_append_returnNewline] at content
      refine ⟨some .returnNewline, rest, ?_, oneLine, by simp, by simp⟩
      simp [content, endingOctets, Terminator.octets]
    · rw [body_append_newline returned] at content
      refine ⟨some .newline, rest, ?_, oneLine, fun _ last => returned ?_, by simp⟩
      · simp [content, endingOctets, Terminator.octets]
      · rw [← content]
        exact (Utf8.getLast?_encode_iff (by decide) text).mpr last
  · -- without a newline the line is all there is, and a line says nothing if it is empty
    rw [first_of_notMem notMem] at h content
    rw [body_of_notMem notMem] at content
    refine ⟨none, [], by simp [content, endingOctets], oneLine, by simp, fun _ => ⟨rfl, ?_⟩⟩
    rintro rfl
    exact (said_eq_ok_iff.mp h).1 content.symm

/-- **A line says exactly the text that it carries.** -/
theorem said_first_eq_ok_iff :
    said (first octets) = .ok text ↔ ∃ ending rest, Carries octets text ending rest := by
  constructor
  · exact exists_carries_of_said
  · rintro ⟨ending, rest, carries⟩
    exact carries.said_first

theorem said_first_eq_notText_iff :
    said (first octets) = .error (.device .notText) ↔ ¬ IsText (first octets) := by
  by_cases empty : first octets = []
  · rw [empty, said_nil]
    exact iff_of_false (by simp) (not_not_intro (Utf8.isText_encode ""))
  · rw [said_eq_error_iff empty, and_iff_right rfl]

end Text.Line

/-! ## What the reader hands out -/

namespace Source

variable {source : Source}

/-- A reader that meets a newline, or the end of the input, answers with what the line says. -/
theorem listen_eq_said (whole : newline ∈ source.handedOut ∨ source.failure = none) :
    source.listen = said (first source.handedOut) := by
  have line : source.line = first source.handedOut := source.line_eq_first
  rw [listen, line]
  rcases whole with mem | endless
  · have ended := (Text.Line.isEnded_first_iff _).mpr mem
    rw [← Text.Line.answer_none]
    simp only [answer, ended, if_true]
  · rw [endless, Text.Line.answer_none]

/-- A reader that fails in front of a newline answers with its failure, whatever it has handed out
until then. -/
theorem listen_eq_failure {error : DeviceError} (noNewline : newline ∉ source.handedOut)
    (failure : source.failure = some error) : source.listen = .error (.device error) := by
  refine listen_of_opened ?_ failure
  rw [source.line_eq_first]
  exact Bool.eq_false_iff.mpr (mt (Text.Line.isEnded_first_iff _).mp noNewline)

end Source

/-! ## One question -/

namespace Console

variable {console : Console} {question : String} {error : DeviceError}

/-- A question that the writer refuses is not answered, and nothing is read. -/
theorem perform_ask_of_refusal (refused : console.refusal? (encode question) = some error) :
    (Dialogue.ask question).perform console =
      ⟨.error (.device error), [.out (console.acceptedOf (encode question))],
        console.write (encode question)⟩ := by
  simp only [Dialogue.ask, Dialogue.perform, refused]

/-- Neither is one that cannot be flushed. -/
theorem perform_ask_of_flushFailure (said : console.refusal? (encode question) = none)
    (unseen : (console.write (encode question)).flushFailure? = some error) :
    (Dialogue.ask question).perform console =
      ⟨.error (.device error), [.out (encode question), .flush],
        (console.write (encode question)).flush⟩ := by
  simp only [Dialogue.ask, Dialogue.perform, said, unseen]
  rfl

end Console

/-- **One question on any console.**  A writer that refuses comes first, then a flush that fails;
either is the result, and nothing is read.  Otherwise the next line of what the reader hands out is
taken, with its newline or to the end, whatever it says.  A reader that fails in front of a newline
is the result, whatever it has given; on a console it is not only interrupted there.  Where nothing
fails the answer is a text exactly if the line carries it, so that the octets taken are those of the
text and of one terminator at most; the input is closed exactly if nothing was left; and the line is
no text exactly if its octets are none. -/
theorem Dialogue.perform_ask_exact (question : String) (console : Console) :
    let performance := (ask question).perform console
    let shown := console.write (encode question)
    let octets := console.source.handedOut
    (∀ error, console.refusal? (encode question) = some error →
        performance.result = .error (.device error) ∧ performance.trace.reads = 0 ∧
          performance.console.source = console.source) ∧
      (∀ error, console.refusal? (encode question) = none → shown.flushFailure? = some error →
        performance.result = .error (.device error) ∧ performance.trace.reads = 0 ∧
          performance.console.source = console.source) ∧
      (console.refusal? (encode question) = none → shown.flushFailure? = none →
        performance.trace.reads = 1 ∧ performance.trace.consumed = (first octets).length ∧
        console.source.unread = first octets ++ performance.console.source.unread ∧
        (∀ error, newline ∉ octets → console.source.failure = some error →
          performance.result = .error (.device error)) ∧
        (newline ∈ octets ∨ console.source.failure = none →
          (∀ text, performance.result = .ok text ↔
            ∃ ending rest, Text.Line.Carries octets text ending rest) ∧
          (∀ text ending rest, Text.Line.Carries octets text ending rest →
            first octets = encode text ++ Text.Line.endingOctets ending ∧
              performance.console.source.handedOut = rest) ∧
          (performance.result = .error .inputClosed ↔ octets = []) ∧
          (performance.result = .error (.device .notText) ↔ ¬ IsText (first octets)) ∧
          ∀ interruption, performance.result = .error interruption →
            interruption = .inputClosed ∨ interruption = .device .notText)) := by
  intro performance shown octets
  refine ⟨fun error refused => ?_, fun error said unseen => ?_, fun said seen => ?_⟩
  · rw [show performance = _ from Console.perform_ask_of_refusal refused]
    refine ⟨rfl, ?_, rfl⟩
    rw [Performance.reads_trace]
    rfl
  · rw [show performance = _ from Console.perform_ask_of_flushFailure said unseen]
    refine ⟨rfl, ?_, rfl⟩
    rw [Performance.reads_trace]
    rfl
  have asked : performance = _ := Console.perform_ask_of_shown said seen
  have line : console.source.line = first octets := console.source.line_eq_first
  rw [line] at asked
  have result : performance.result = console.source.listen := congrArg Performance.result asked
  have left : performance.console.source = console.source.advance :=
    congrArg (fun performed => performed.console.source) asked
  have effects : performance.effects =
      [.out (encode question), .flush, .read (first octets).length] :=
    congrArg Performance.effects asked
  refine ⟨?_, ?_, ?_, fun error noNewline failure => ?_, fun whole => ?_⟩
  · rw [Performance.reads_trace, effects]
    rfl
  · rw [Performance.trace, Trace.consumed_merge, effects]
    simp [Effect.consumed]
  · rw [left, ← line, Source.line_append_unread_advance]
  · rw [result, Source.listen_eq_failure noNewline failure]
  have heard : performance.result = Text.Line.said (first octets) :=
    result.trans (Source.listen_eq_said whole)
  rw [heard, left]
  refine ⟨fun text => Text.Line.said_first_eq_ok_iff, fun text ending rest carries => ?_,
    Text.Line.said_first_eq_inputClosed_iff, Text.Line.said_first_eq_notText_iff, ?_⟩
  · exact ⟨carries.first_eq, console.source.flatten_advance.trans carries.behind_eq⟩
  · intro interruption failed
    by_cases empty : first octets = []
    · rw [empty, Text.Line.said_nil] at failed
      exact .inl (Except.error.inj failed).symm
    · exact .inr ((Text.Line.said_eq_error_iff empty).mp failed).1

end Walkthrough
