import Walkthrough.Proofs.Faultless
import Walkthrough.Proofs.Stages

/-!
# The transcript of a tour

What a tour comes to when no device fails, told on the octets of the input alone: the result, all
that is written, every effect in its order, and what is left of the input (`Transcript.of`).  The
first line is the name, the second the age; a line that says nothing ends the tour where it was
awaited.  The tour is exactly this (`transcript_perform_dialogue`).
-/

namespace Walkthrough

open Text.Utf8 (encode)
open Text.Line (first behind body said)

/-- What a tour leaves behind on a console without a fault. -/
structure Transcript where
  result : Except Interruption Unit
  /-- all that was written -/
  written : List UInt8
  /-- the effects in their order -/
  trace : Trace
  /-- what is left of the input -/
  rest : List UInt8

/-- What a performance leaves behind. -/
def Performance.transcript (performance : Performance Unit) : Transcript where
  result := performance.result
  written := performance.trace.written
  trace := performance.trace
  rest := performance.console.source.unread

theorem Performance.transcript_result (performance : Performance Unit) :
    performance.transcript.result = performance.result := rfl

namespace Tour

/-- The welcome as octets: those of the name, one by one, or a guest's where there are none. -/
def welcomeOctets (name : List UInt8) : List UInt8 :=
  if name = [] then encode "Welcome, guest!" else encode "Welcome, " ++ name ++ encode "!"

/-- All that is written between the name and the age. -/
def interludeOctets (name : List UInt8) : List UInt8 :=
  welcomeOctets name ++ encode "\n" ++ encode countingBlock ++ encode fruitBlock ++
    encode ageQuestion

theorem welcomeOctets_encode (name : String) :
    welcomeOctets (encode name) = encode (welcome name) := by
  by_cases empty : name = ""
  · subst empty
    rfl
  · rw [welcomeOctets, if_neg (mt Text.Utf8.encode_eq_nil.mp empty), welcome,
      if_neg (by simpa using empty), Text.Utf8.encode_append, Text.Utf8.encode_append]

theorem interludeOctets_encode (name : String) :
    interludeOctets (encode name) = encode (interlude name) := by
  simp only [interludeOctets, interlude, Text.Utf8.encode_append, welcomeOctets_encode]

end Tour

open Tour (opening interludeOctets parting ageOf)

/-! ## The transcript of some input -/

/-- The transcript of a tour on some input. -/
def Transcript.of (input : List UInt8) : Transcript :=
  let nameLine := first input
  let asked : Trace := [.log .started, .out (encode opening), .flush, .read nameLine.length]
  match said nameLine with
  | .error interruption => ⟨.error interruption, encode opening, asked, behind input⟩
  | .ok _ =>
    let name := body nameLine
    let ageLine := first (behind input)
    let rest := behind (behind input)
    let written := encode opening ++ interludeOctets name
    let asked := asked ++ [.log (.nameRead (decide (name = []))), .out (interludeOctets name),
      .flush, .read ageLine.length]
    match said ageLine with
    | .error interruption => ⟨.error interruption, written, asked, rest⟩
    | .ok answer =>
      match ageOf answer with
      | .error interruption =>
        ⟨.error interruption, written, asked ++ [.log (.ageRejected interruption)], rest⟩
      | .ok age =>
        ⟨.ok (), written ++ encode (parting age.bracket),
          asked ++ [.log (.ageClassified age age.bracket), .out (encode (parting age.bracket)),
            .flush, .log .finished],
          rest⟩

/-- What a line says has the octets of the line without its terminator. -/
theorem encode_of_said {line : List UInt8} {text : String} (h : said line = .ok text) :
    encode text = body line := by
  unfold said at h
  split at h
  · cases h
  · split at h
    · rename_i _ _ _ read
      cases h
      exact Text.Utf8.encode_of_decode? read
    · cases h

/-! ## The parts of a transcript fit together -/

theorem opening_ne_nil : encode opening ≠ [] :=
  mt Text.Utf8.encode_eq_nil.mp (by decide)

theorem interludeOctets_ne_nil (name : List UInt8) : interludeOctets name ≠ [] := by
  intro empty
  have question : encode Tour.ageQuestion = [] := (List.append_eq_nil_iff.mp empty).2
  exact absurd (Text.Utf8.encode_eq_nil.mp question) (by decide)

theorem parting_ne_nil (bracket : Bracket) : encode (parting bracket) ≠ [] :=
  mt Text.Utf8.encode_eq_nil.mp (by cases bracket <;> decide)

namespace Trace

theorem merge_nil : merge [] = [] := rfl

/-- A write with something in it is one effect when a flush follows. -/
theorem merge_out_flush {octets : List UInt8} (h : octets ≠ []) (trace : Trace) :
    merge (.out octets :: .flush :: trace) = .out octets :: .flush :: merge trace := by
  rcases octets with _ | ⟨octet, octets⟩
  · exact absurd rfl h
  · rfl

theorem merge_read (count : Nat) (trace : Trace) :
    merge (.read count :: trace) = .read count :: merge trace := rfl

theorem merge_log (entry : Diagnostics.Entry) (trace : Trace) :
    merge (.log entry :: trace) = .log entry :: merge trace := rfl

end Trace

/-- No two writes of a transcript are neighbours, and none is empty. -/
theorem Transcript.merge_trace_of (input : List UInt8) :
    Trace.merge (of input).trace = (of input).trace := by
  simp only [of]
  split
  · simp only [Trace.merge_log, Trace.merge_out_flush opening_ne_nil, Trace.merge_read,
      Trace.merge_nil]
  · have again := Trace.merge_out_flush (interludeOctets_ne_nil (body (first input)))
    split
    · simp only [List.cons_append, List.nil_append, Trace.merge_log,
        Trace.merge_out_flush opening_ne_nil, Trace.merge_read, again, Trace.merge_nil]
    · split
      · simp only [List.cons_append, List.nil_append, Trace.merge_log,
          Trace.merge_out_flush opening_ne_nil, Trace.merge_read, again, Trace.merge_nil]
      · simp only [List.cons_append, List.nil_append, Trace.merge_log,
          Trace.merge_out_flush opening_ne_nil, Trace.merge_out_flush (parting_ne_nil _),
          Trace.merge_read, again, Trace.merge_nil]

/-- What a transcript says to be written is what its effects write. -/
theorem Transcript.written_trace_of (input : List UInt8) :
    (of input).trace.written = (of input).written := by
  simp only [of]
  split
  · simp [Effect.written]
  · split
    · simp [Effect.written]
    · split <;> simp [Effect.written]

/-! ## What the stages come to -/

namespace Console.Faultless

variable {console : Console}

/-- The last stage on a console without a fault. -/
theorem perform_stagedEnd (h : console.Faultless) (answer : String) :
    (Tour.stagedEnd answer).perform console =
      match ageOf answer with
      | .error interruption => ⟨.error interruption, [.log (.ageRejected interruption)], console⟩
      | .ok age =>
        ⟨.ok (), [.log (.ageClassified age age.bracket), .out (encode (parting age.bracket)),
          .flush, .log .finished], (console.write (encode (parting age.bracket))).flush⟩ := by
  unfold Tour.stagedEnd
  cases ageOf answer with
  | error interruption => rfl
  | ok age =>
    have talked := (h.write (encode (parting age.bracket))).flushFailure?_eq_none
    simp only [Tour.classify, Dialogue.bind_eq, Dialogue.report, Dialogue.bind, Dialogue.perform,
      Dialogue.pure_eq, h.refusal?_eq_none, talked]
    rfl

theorem isEmpty_eq_decide {name : String} {octets : List UInt8} (h : encode name = octets) :
    name.isEmpty = decide (octets = []) := by
  rw [Bool.eq_iff_iff, String.isEmpty_iff, decide_eq_true_eq, ← h, Text.Utf8.encode_eq_nil]

/-- A tour in three stages on a console without a fault, effect by effect. -/
theorem perform_staged (h : console.Faultless) :
    (Tour.staged.perform console).result = (Transcript.of console.source.unread).result ∧
      (Tour.staged.perform console).effects = (Transcript.of console.source.unread).trace ∧
      (Tour.staged.perform console).console.source.unread =
        (Transcript.of console.source.unread).rest := by
  have later := h.asked opening
  have left := h.unread_asked opening
  have stages : Tour.staged = .note .started ((Dialogue.ask opening).bind fun name =>
      .note (.nameRead name.isEmpty) ((Dialogue.ask (Tour.interlude name)).bind Tour.stagedEnd)) :=
    rfl
  rw [stages, Dialogue.perform, h.perform_ask_bind]
  simp only [Transcript.of]
  cases heard : said (first console.source.unread) with
  | error interruption => exact ⟨rfl, rfl, left⟩
  | ok name =>
    have octets := encode_of_said heard
    simp only [Performance.andThen, Dialogue.perform, later.perform_ask_bind, left,
      isEmpty_eq_decide octets, ← Tour.interludeOctets_encode, octets]
    have answered := later.unread_asked (Tour.interlude name)
    rw [left] at answered
    cases heardAge : said (first (behind console.source.unread)) with
    | error interruption => exact ⟨rfl, rfl, answered⟩
    | ok answer =>
      simp only [(later.asked (Tour.interlude name)).perform_stagedEnd]
      cases ageOf answer with
      | error interruption => exact ⟨rfl, rfl, answered⟩
      | ok age => exact ⟨rfl, rfl, answered⟩

/-- A tour on a console without a fault. -/
theorem transcript_perform (h : console.Faultless) :
    (Tour.dialogue.perform console).transcript = Transcript.of console.source.unread := by
  obtain ⟨result, trace, left⟩ := Tour.dialogue_alike_staged console
  obtain ⟨result', effects, left'⟩ := h.perform_staged
  have merged : (Tour.dialogue.perform console).trace =
      (Transcript.of console.source.unread).trace := by
    rw [trace, Performance.trace, effects, Transcript.merge_trace_of]
  rw [Performance.transcript, merged, result, result', left, left', Transcript.written_trace_of]

end Console.Faultless

/-- What a tour comes to whose input is handed out at once. -/
theorem Setup.transcript_faultless (input : List UInt8) :
    (Tour.dialogue.perform (faultless input).console).transcript = Transcript.of input := by
  have free := Console.faultless_withoutFaults (faultless input)
  rw [withoutFaults_faultless] at free
  rw [free.transcript_perform]
  exact congrArg Transcript.of (Console.unread_withoutFaults (faultless input))

/-- **A tour without a fault comes to its transcript**, whatever its input is and in whatever pieces
it is handed out: the result, the octets written, every effect, and what is left unread. -/
theorem Tour.transcript_perform_dialogue (setup : Setup) :
    (Tour.dialogue.perform setup.withoutFaults.console).transcript = Transcript.of setup.input := by
  rw [(Console.faultless_withoutFaults setup).transcript_perform, Console.unread_withoutFaults]

end Walkthrough
