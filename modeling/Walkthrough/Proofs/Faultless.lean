import Walkthrough.Dialogue.Performance
import Walkthrough.Proofs.Lines

/-!
# Consoles without a fault

On a console of which no device fails every write and every flush succeeds, and what is read depends
on the octets that are left alone: they are cut into lines, in whatever pieces they come.  The main
statement is what one question comes to (`Faultless.perform_ask`).
-/

namespace Walkthrough

/-- The same setup with no fault laid on any device. -/
def Setup.withoutFaults (setup : Setup) : Setup where
  toWiring := { setup.toWiring with readFault := none, writeFault := none, flushFault := none }
  readFatal := nofun
  writeFatal := nofun

theorem Setup.withoutFaults_faultless (input : List UInt8) :
    (faultless input).withoutFaults = faultless input := rfl

/-- A line is read as it stands at the front of the pieces. -/
theorem Source.line_eq_first (source : Source) :
    source.line = Text.Line.first source.pieces.flatten := by
  rw [line, gather_fst, Text.Line.split_eq]

/-- What lies behind the line stays in the pieces. -/
theorem Source.flatten_advance (source : Source) :
    source.advance.pieces.flatten = Text.Line.behind source.pieces.flatten := by
  rw [advance, gather_snd, Text.Line.split_eq]

namespace Console

@[simp]
theorem source_write (console : Console) (octets : List UInt8) :
    (console.write octets).source = console.source := rfl

@[simp]
theorem source_flush (console : Console) : console.flush.source = console.source := rfl

theorem line_eq (console : Console) :
    console.source.line = Text.Line.first console.source.pieces.flatten :=
  console.source.line_eq_first

/-- Reading a line leaves what lies behind it in the pieces, and what is never handed out. -/
theorem unread_advance (console : Console) :
    console.advance.source.unread =
      Text.Line.behind console.source.pieces.flatten ++ console.source.withheld :=
  congrArg (· ++ console.source.withheld) console.source.flatten_advance

/-- A console of which no device fails. -/
structure Faultless (console : Console) : Prop where
  reader : console.source.failure = none
  withheld : console.source.withheld = []
  writer : console.writeFault = none
  flusher : console.flushFault = none

theorem faultless_withoutFaults (setup : Setup) : setup.withoutFaults.console.Faultless :=
  ⟨rfl, rfl, rfl, rfl⟩

theorem unread_withoutFaults (setup : Setup) :
    setup.withoutFaults.console.source.unread = setup.input :=
  Source.unread_ofOctets _ _ _

namespace Faultless

variable {console : Console}

theorem write (h : console.Faultless) (octets : List UInt8) : (console.write octets).Faultless :=
  ⟨h.reader, h.withheld, h.writer, h.flusher⟩

theorem flush (h : console.Faultless) : console.flush.Faultless :=
  ⟨h.reader, h.withheld, h.writer, h.flusher⟩

theorem advance (h : console.Faultless) : console.advance.Faultless :=
  ⟨h.reader, h.withheld, h.writer, h.flusher⟩

theorem refusal?_eq_none (h : console.Faultless) (octets : List UInt8) :
    console.refusal? octets = none := by
  rw [refusal?, h.writer]

theorem flushFailure?_eq_none (h : console.Faultless) : console.flushFailure? = none := by
  rw [flushFailure?, h.flusher]

theorem unread_eq (h : console.Faultless) :
    console.source.unread = console.source.pieces.flatten := by
  rw [Source.unread, h.withheld, List.append_nil]

/-- A line is read as it stands at the front of what is left. -/
theorem line_eq_first (h : console.Faultless) :
    console.source.line = Text.Line.first console.source.unread := by
  rw [line_eq, h.unread_eq]

/-- Reading a line leaves what lies behind it. -/
theorem unread_advance_eq_behind (h : console.Faultless) :
    console.advance.source.unread = Text.Line.behind console.source.unread := by
  rw [unread_advance, h.withheld, List.append_nil, h.unread_eq]

theorem listen_eq (h : console.Faultless) :
    console.source.listen = Text.Line.said (Text.Line.first console.source.unread) := by
  rw [Source.listen, h.reader, Text.Line.answer_none, h.line_eq_first]

end Faultless

/-- The console after a question was asked and a line was read. -/
def asked (console : Console) (question : String) : Console :=
  (console.write (Text.Utf8.encode question)).flush.advance

theorem Faultless.asked {console : Console} (h : console.Faultless) (question : String) :
    (console.asked question).Faultless :=
  (h.write _).flush.advance

theorem Faultless.unread_asked {console : Console} (h : console.Faultless) (question : String) :
    (console.asked question).source.unread = Text.Line.behind console.source.unread :=
  (h.write _).flush.unread_advance_eq_behind

/-- A question that is said and seen comes to what the next line says. -/
theorem perform_ask_of_shown {console : Console} {question : String}
    (said : console.refusal? (Text.Utf8.encode question) = none)
    (seen : (console.write (Text.Utf8.encode question)).flushFailure? = none) :
    (Dialogue.ask question).perform console =
      ⟨console.source.listen,
        [.out (Text.Utf8.encode question), .flush, .read console.source.line.length],
        console.asked question⟩ := by
  simp only [Dialogue.ask, Dialogue.perform, said, seen, source_flush, source_write]
  cases console.source.listen <;> rfl

/-- **What one question comes to** on a console without a fault. -/
theorem Faultless.perform_ask {console : Console} (h : console.Faultless) (question : String) :
    (Dialogue.ask question).perform console =
      ⟨Text.Line.said (Text.Line.first console.source.unread),
        [.out (Text.Utf8.encode question), .flush,
          .read (Text.Line.first console.source.unread).length],
        console.asked question⟩ := by
  rw [perform_ask_of_shown (h.refusal?_eq_none _) (h.write _).flushFailure?_eq_none, h.listen_eq,
    h.line_eq_first]

/-- A question and what follows the answer, on a console without a fault. -/
theorem Faultless.perform_ask_bind {α : Type} {console : Console} (h : console.Faultless)
    (question : String) (next : String → Dialogue α) :
    ((Dialogue.ask question).bind next).perform console =
      (⟨Text.Line.said (Text.Line.first console.source.unread),
        [.out (Text.Utf8.encode question), .flush,
          .read (Text.Line.first console.source.unread).length],
        console.asked question⟩ : Performance String).andThen fun answer => (next answer).perform := by
  rw [Dialogue.perform_bind, h.perform_ask]

end Console

end Walkthrough
