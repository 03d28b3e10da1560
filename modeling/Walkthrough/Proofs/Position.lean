import Mathlib.Data.List.Infix
import Walkthrough.Proofs.Accounting
import Walkthrough.Proofs.Stages

/-!
# Where the input stands in a script

No octet of the input is lost or read twice, however often a script goes on after a failure: after
every step the input stands behind the lines that were read in this step and in the ones before it,
and every read takes exactly the next line of what the reader hands out (`reads_of_step`).  How
often a step reads is bounded by its dialogue alone (`Dialogue.AsksAtMost`).
-/

namespace Walkthrough

open Text.Line (first newline)

namespace Dialogue

variable {α : Type}

/-- A dialogue that listens no more often than that, whatever it hears. -/
def AsksAtMost : Nat → Dialogue α → Prop
  | _, done _ => True
  | _, fail _ => True
  | bound, note _ next => next.AsksAtMost bound
  | bound, say _ next => next.AsksAtMost bound
  | bound, flush next => next.AsksAtMost bound
  | bound, listen next => ∃ fewer, bound = fewer + 1 ∧ ∀ line, (next line).AsksAtMost fewer

/-- A performance reads no more lines than its dialogue asks for. -/
theorem AsksAtMost.reads_le {dialogue : Dialogue α} {bound : Nat} (h : dialogue.AsksAtMost bound)
    (console : Console) : (dialogue.perform console).effects.reads ≤ bound := by
  induction dialogue generalizing bound console with
  | done result => exact Nat.zero_le _
  | fail interruption => exact Nat.zero_le _
  | note entry next ih => exact ih h console
  | say text next ih =>
    simp only [perform]
    cases console.refusal? (Text.Utf8.encode text) with
    | some error => exact Nat.zero_le _
    | none => exact ih h _
  | flush next ih =>
    simp only [perform]
    cases console.flushFailure? with
    | some error => exact Nat.zero_le _
    | none => exact ih h _
  | listen next ih =>
    obtain ⟨fewer, rfl, later⟩ := h
    simp only [perform]
    cases console.source.listen with
    | error interruption => exact Nat.le_add_left 1 fewer
    | ok line =>
      have bound := ih line (later line) console.advance
      rw [Performance.effects_after, Trace.reads_read_cons]
      omega

/-- What is done with the result asks for nothing. -/
theorem AsksAtMost.map {β : Type} {dialogue : Dialogue α} {bound : Nat}
    (h : dialogue.AsksAtMost bound) (f : α → β) :
    (dialogue.bind fun result => done (f result)).AsksAtMost bound := by
  induction dialogue generalizing bound with
  | done result => trivial
  | fail interruption => trivial
  | note entry next ih => exact ih h
  | say text next ih => exact ih h
  | flush next ih => exact ih h
  | listen next ih =>
    obtain ⟨fewer, rfl, later⟩ := h
    exact ⟨fewer, rfl, fun line => ih line (later line)⟩

end Dialogue

/-- A tour asks for a name and an age. -/
theorem Tour.asksAtMost_dialogue : Tour.dialogue.AsksAtMost 2 := by
  refine ⟨1, rfl, fun name => ⟨0, rfl, fun answer => ?_⟩⟩
  change (Tour.spokenEnd answer).AsksAtMost 0
  unfold Tour.spokenEnd
  cases Tour.ageOf answer with
  | ok age => exact trivial
  | error interruption => exact trivial

namespace Script

/-- How many lines a step asks for: a tour wants a name and an age, a question one answer. -/
def Step.lines : Step → Nat
  | .tour => 2
  | .question _ => 1

theorem Step.asksAtMost_dialogue (step : Step) : step.dialogue.AsksAtMost step.lines := by
  cases step with
  | tour => exact Tour.asksAtMost_dialogue.map fun _ => Reply.done
  | question text => exact ⟨0, rfl, fun _ => trivial⟩

end Script

/-! ## What a reader hands out -/

/-- The octets in front of the end of the input and of the point at which the reader fails. -/
def Setup.handedOut (setup : Setup) : List UInt8 :=
  match setup.readFault with
  | none => setup.input
  | some fault => setup.input.take fault.point

theorem Setup.handedOut_console (setup : Setup) :
    setup.console.source.handedOut = setup.handedOut := by
  simp only [handedOut, Setup.source_console, Source.handedOut, Source.ofOctets]
  cases setup.readFault with
  | none => simp
  | some fault =>
    by_cases le : fault.point ≤ setup.input.length
    · simp [le]
    · simp [le, List.take_of_length_le (Nat.le_of_not_le le)]

theorem Setup.unread_console (setup : Setup) : setup.console.source.unread = setup.input :=
  Source.unread_ofOctets _ _ _

theorem Setup.handedOut_prefix (setup : Setup) : setup.handedOut <+: setup.input := by
  unfold handedOut
  cases setup.readFault with
  | none => exact List.prefix_rfl
  | some fault => exact List.take_prefix _ _

/-- The first line of what is handed out stands in the input itself. -/
theorem take_length_first {octets whole : List UInt8} (h : octets <+: whole) :
    whole.take (first octets).length = first octets := by
  have line : first octets <+: whole :=
    List.IsPrefix.trans ⟨_, Text.Line.first_append_behind octets⟩ h
  exact (List.prefix_iff_eq_take.mp line).symm

/-! ## The steps of a script -/

namespace Script

/-- A question whose writer or flush fails reads nothing. -/
theorem reads_of_question {text : String} {console : Console} {kind : FaultKind}
    (talking : kind ≠ .reading)
    (h : (Step.question text).dialogue.failsAt? console = some kind) :
    ((Step.question text).dialogue.perform console).trace.reads = 0 := by
  have asked : (Step.question text).dialogue =
      .say text (.flush (.listen fun line => .done (.line line))) := rfl
  rw [Performance.reads_trace, asked, Dialogue.perform]
  rw [asked, Dialogue.failsAt?] at h
  cases refused : console.refusal? (Text.Utf8.encode text) with
  | some error => rfl
  | none =>
    rw [refused, Dialogue.failsAt?] at h
    simp only [Dialogue.perform]
    cases failed : (console.write (Text.Utf8.encode text)).flushFailure? with
    | some error => rfl
    | none =>
      -- both succeed, so only the reader can have failed
      rw [failed] at h
      simp only [Dialogue.failsAt?, Console.source_flush, Console.source_write] at h
      cases heard : console.source.listen with
      | error interruption =>
        rw [heard] at h
        exact absurd (Option.some.inj h).symm talking
      | ok line =>
        rw [heard] at h
        cases h

/-- A step that a writer or a flush has ended leaves its reader where the reads before the failure
have brought it. -/
theorem source_of_failsAt? {step : Step} {console : Console} {kind : FaultKind}
    (talking : kind ≠ .reading) (h : step.dialogue.failsAt? console = some kind) :
    ∃ (front : Trace) (failed : Effect),
      (step.dialogue.perform console).effects = front ++ [failed] ∧ failed.isRead = false ∧
        (step.dialogue.perform console).console.source =
          Source.advance^[front.reads] console.source := by
  obtain ⟨error, -, -, front, failed, effects, other⟩ :=
    Dialogue.stoppedBy_of_failsAt? talking h
  refine ⟨front, failed, effects, other, ?_⟩
  have moved := (step.dialogue.perform_accounts console).source
  have silent : Trace.reads [failed] = 0 := List.countP_eq_zero.mpr (by simpa using other)
  rwa [effects, Trace.reads_append, silent, Nat.add_zero] at moved

/-- **No octet is lost or read twice in a script**, under any faults.  Behind every step the input
stands where the reads of this step and of those before it have brought it, and what is left follows
there.  A read of some octets takes the next of them, up to and with the first newline in front of
the end of the input and of the point of a read fault, or all of those where there is no newline.  A
step reads as many lines as it asks for at the most.  One whose writer or flush fails leaves the
reader where the reads before the failure have brought it; a question has none there. -/
theorem reads_of_step (setup : Setup) (earlier later : List Step) (step : Step) :
    let before := left earlier setup.console
    let performance := step.dialogue.perform before
    let position := (past earlier setup.console).consumed
    run (earlier ++ step :: later) setup.console =
        run earlier setup.console ++ performance :: run later performance.console ∧
      position + performance.trace.consumed + performance.unread = setup.input.length ∧
      performance.console.source.unread =
        setup.input.drop (position + performance.trace.consumed) ∧
      (∀ (front back : Trace) (count : Nat), performance.trace = front ++ .read count :: back →
        let line := first (setup.handedOut.drop (position + front.consumed))
        count = line.length ∧
          (setup.input.drop (position + front.consumed)).take count = line) ∧
      performance.trace.reads ≤ step.lines ∧
      performance.console.source = Source.advance^[performance.trace.reads] before.source ∧
      (∀ kind, kind ≠ .reading → step.dialogue.failsAt? before = some kind →
        (∃ (front : Trace) (failed : Effect), performance.effects = front ++ [failed] ∧
          failed.isRead = false ∧
            performance.console.source = Source.advance^[front.reads] before.source) ∧
        ∀ text, step = .question text → performance.console.source = before.source) := by
  intro before performance position
  have start := accounts_left earlier setup.console
  have account := Performance.accounts_trace step.dialogue before
  have whole := start.append account
  refine ⟨run_append _ _ _, ?_, ?_, ?_, ?_, account.source, ?_⟩
  · have total := whole.consumed_add_length_unread
    rw [Setup.unread_console, Trace.consumed_append] at total
    exact total
  · have rest := whole.unread
    rwa [Setup.unread_console, Trace.consumed_append] at rest
  · intro front back count trace line
    have lines := account.lines
    rw [start.handedOut, Setup.handedOut_console] at lines
    have taken : count = line.length := by
      rw [trace] at lines
      rw [lines.count_eq, List.drop_drop]
    refine ⟨taken, ?_⟩
    rw [taken]
    exact take_length_first (List.IsPrefix.drop (Setup.handedOut_prefix setup) _)
  · rw [Performance.trace, Trace.reads_merge]
    exact step.asksAtMost_dialogue.reads_le before
  · intro kind talking failed
    refine ⟨source_of_failsAt? talking failed, ?_⟩
    rintro text rfl
    have moved := account.source
    rwa [reads_of_question talking failed] at moved

end Script

end Walkthrough
