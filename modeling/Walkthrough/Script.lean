import Walkthrough.Dialogue.Performance
import Walkthrough.Tour

/-!
# Scripts

A script holds several dialogues on one console, one after the other, whatever comes of each.
-/

namespace Walkthrough.Script

/-- One part of a script: a whole tour, or a single question. -/
inductive Step where
  | tour
  | question (text : String)
deriving DecidableEq

/-- What a step that was not interrupted gives. -/
inductive Reply where
  | done
  | line (text : String)
deriving DecidableEq

/-- The dialogue of a step. -/
def Step.dialogue : Step → Dialogue Reply
  | .tour => do
    Tour.dialogue
    return .done
  | .question text => do
    let line ← Dialogue.ask text
    return .line line

/-- The performances of the steps, each on the console as the one before left it. -/
def run : List Step → Console → List (Performance Reply)
  | [], _ => []
  | step :: rest, console =>
    let performance := step.dialogue.perform console
    performance :: run rest performance.console

@[simp]
theorem run_nil (console : Console) : run [] console = [] := rfl

@[simp]
theorem length_run (steps : List Step) (console : Console) :
    (run steps console).length = steps.length := by
  induction steps generalizing console with
  | nil => rfl
  | cons step rest ih => simp [run, ih]

end Walkthrough.Script
