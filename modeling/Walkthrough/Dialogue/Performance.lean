import Walkthrough.Console.Basic
import Walkthrough.Console.Trace
import Walkthrough.Dialogue.Basic

/-!
# Performing a dialogue

A dialogue is performed on a console, request by request, until it ends or a device fails.  A
performance gives a result, the effects in their order, and the console as it leaves it.  Main
statement: two dialogues held one after the other are performed one after the other, the second
only if the first was not interrupted (`perform_bind`).
-/

namespace Walkthrough

/-- What performing a dialogue gives. -/
structure Performance (α : Type) where
  result : Except Interruption α
  /-- the effects, neighbouring writes not yet joined -/
  effects : Trace
  console : Console

namespace Performance

variable {α β : Type}

/-- The same performance with an effect in front. -/
def after (effect : Effect) (rest : Performance α) : Performance α :=
  { rest with effects := effect :: rest.effects }

/-- A performance followed by the one that its result leads to; an interruption ends both. -/
def andThen (first : Performance α) (next : α → Console → Performance β) : Performance β :=
  match first.result with
  | .error interruption => ⟨.error interruption, first.effects, first.console⟩
  | .ok result =>
    let second := next result first.console
    ⟨second.result, first.effects ++ second.effects, second.console⟩

/-- The effects with neighbouring writes joined. -/
def trace (performance : Performance α) : Trace :=
  performance.effects.merge

/-- The number of octets of the input that are left. -/
def unread (performance : Performance α) : Nat :=
  performance.console.source.unread.length

@[simp]
theorem result_after (effect : Effect) (rest : Performance α) :
    (rest.after effect).result = rest.result := rfl

@[simp]
theorem effects_after (effect : Effect) (rest : Performance α) :
    (rest.after effect).effects = effect :: rest.effects := rfl

@[simp]
theorem console_after (effect : Effect) (rest : Performance α) :
    (rest.after effect).console = rest.console := rfl

theorem after_andThen (effect : Effect) (first : Performance α)
    (next : α → Console → Performance β) :
    (first.after effect).andThen next = (first.andThen next).after effect := by
  unfold andThen
  rw [result_after]
  split <;> rfl

end Performance

namespace Dialogue

variable {α β : Type}

/-- Perform a dialogue on a console. -/
def perform : Dialogue α → Console → Performance α
  | done result, console => ⟨.ok result, [], console⟩
  | fail interruption, console => ⟨.error interruption, [], console⟩
  | note entry next, console => (next.perform console).after (.log entry)
  | say text next, console =>
    let octets := Text.Utf8.encode text
    match console.refusal? octets with
    | some error =>
      ⟨.error (.device error), [.out (console.acceptedOf octets)], console.write octets⟩
    | none => (next.perform (console.write octets)).after (.out octets)
  | flush next, console =>
    match console.flushFailure? with
    | some error => ⟨.error (.device error), [.flush], console.flush⟩
    | none => (next.perform console.flush).after .flush
  | listen next, console =>
    let consumed := Effect.read console.source.line.length
    match console.source.listen with
    | .error interruption => ⟨.error interruption, [consumed], console.advance⟩
    | .ok line => ((next line).perform console.advance).after consumed

theorem perform_bind (dialogue : Dialogue α) (f : α → Dialogue β) (console : Console) :
    (dialogue.bind f).perform console =
      (dialogue.perform console).andThen fun result => (f result).perform := by
  induction dialogue generalizing console with
  | done result => rfl
  | fail interruption => rfl
  | note entry next ih => simp only [bind, perform, ih, Performance.after_andThen]
  | say text next ih =>
    simp only [bind, perform]
    split
    · rfl
    · simp only [ih, Performance.after_andThen]
  | flush next ih =>
    simp only [bind, perform]
    split
    · rfl
    · simp only [ih, Performance.after_andThen]
  | listen next ih =>
    simp only [bind, perform]
    split
    · rfl
    · simp only [ih, Performance.after_andThen]

end Dialogue

end Walkthrough
