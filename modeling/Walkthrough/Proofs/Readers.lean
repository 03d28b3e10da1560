import Walkthrough.Dialogue.Performance

/-!
# Consoles that differ in their readers

A dialogue sees of a reader how much each line takes and what it says, and nothing else.  So two
consoles with the same writer cannot be told apart by a dialogue that respects some relation of
their readers (`Dialogue.Respects`): where it listens, both lines are the same and the readers
behind them are still related (`Dialogue.perform_of_respects`).  The relation may depend on what is
left of the dialogue, so that it need not outlast the lines that are asked for.
-/

namespace Walkthrough

/-- Two consoles that differ in their readers alone. -/
structure Console.SameWriter (a b : Console) : Prop where
  elsewhere : { a with source := b.source, readFatal := b.readFatal } = b

namespace Console.SameWriter

variable {a b : Console} (h : a.SameWriter b)

include h

theorem refusal?_eq (octets : List UInt8) : a.refusal? octets = b.refusal? octets :=
  congrArg (fun console => console.refusal? octets) h.elsewhere

theorem acceptedOf_eq (octets : List UInt8) : a.acceptedOf octets = b.acceptedOf octets :=
  congrArg (fun console => console.acceptedOf octets) h.elsewhere

theorem flushFailure?_eq : a.flushFailure? = b.flushFailure? :=
  congrArg (fun console => console.flushFailure?) h.elsewhere

theorem write (octets : List UInt8) : (a.write octets).SameWriter (b.write octets) :=
  ⟨congrArg (fun console => console.write octets) h.elsewhere⟩

theorem flush : a.flush.SameWriter b.flush :=
  ⟨congrArg (fun console => console.flush) h.elsewhere⟩

theorem advance : a.advance.SameWriter b.advance :=
  ⟨congrArg (fun console => { console with source := b.source.advance, readFatal := b.readFatal })
    h.elsewhere⟩

end Console.SameWriter

variable {α : Type}

/-- Two performances that show the same, on consoles whose readers are left related. -/
structure Performance.ShowsAlike (related : Source → Source → Prop) (p q : Performance α) :
    Prop where
  result : p.result = q.result
  effects : p.effects = q.effects
  writer : p.console.SameWriter q.console
  reader : related p.console.source q.console.source

theorem Performance.ShowsAlike.after {related : Source → Source → Prop} {p q : Performance α}
    (h : p.ShowsAlike related q) (effect : Effect) :
    (p.after effect).ShowsAlike related (q.after effect) :=
  ⟨h.result, congrArg (List.cons effect) h.effects, h.writer, h.reader⟩

namespace Dialogue

/-- A relation of readers, by the dialogue that goes on with them, under which the dialogue hears
the same from both and which every request keeps. -/
structure Respects (related : Dialogue α → Source → Source → Prop) : Prop where
  note : ∀ {entry next s t}, related (.note entry next) s t → related next s t
  say : ∀ {text next s t}, related (.say text next) s t → related next s t
  flush : ∀ {next s t}, related (.flush next) s t → related next s t
  line : ∀ {next s t}, related (.listen next) s t → s.line = t.line ∧ s.listen = t.listen
  advance : ∀ {next s t}, related (.listen next) s t →
    ∀ answer, related (next answer) s.advance t.advance

/-- **A dialogue shows the same where it respects how the readers are related.** -/
theorem perform_of_respects {related : Dialogue α → Source → Source → Prop}
    (respects : Respects related) (dialogue : Dialogue α) {a b : Console}
    (writer : a.SameWriter b) (reader : related dialogue a.source b.source) :
    (dialogue.perform a).ShowsAlike (fun s t => ∃ later, related later s t)
      (dialogue.perform b) := by
  induction dialogue generalizing a b with
  | done result => exact ⟨rfl, rfl, writer, _, reader⟩
  | fail interruption => exact ⟨rfl, rfl, writer, _, reader⟩
  | note entry next ih => exact (ih writer (respects.note reader)).after _
  | say text next ih =>
    simp only [perform, writer.refusal?_eq, writer.acceptedOf_eq]
    cases b.refusal? (Text.Utf8.encode text) with
    | some error => exact ⟨rfl, rfl, writer.write _, _, reader⟩
    | none => exact (ih (writer.write _) (respects.say reader)).after _
  | flush next ih =>
    simp only [perform, writer.flushFailure?_eq]
    cases b.flushFailure? with
    | some error => exact ⟨rfl, rfl, writer.flush, _, reader⟩
    | none => exact (ih writer.flush (respects.flush reader)).after _
  | listen next ih =>
    obtain ⟨line, said⟩ := respects.line reader
    have behind := respects.advance reader
    simp only [perform, line, said]
    cases b.source.listen with
    -- whatever the answer might have been, the readers are related behind it
    | error interruption => exact ⟨rfl, rfl, writer.advance, _, behind ""⟩
    | ok answer => exact (ih answer writer.advance (behind answer)).after _

end Dialogue

end Walkthrough
