import Walkthrough.Proofs.Joining
import Walkthrough.Tour

/-!
# The tour in three stages

Between two points at which a tour waits or ends it only talks.  `staged` says everything of such a
stage at once; no console can tell it from the tour (`dialogue_alike_staged`), so whatever is to be
shown of the effects of a tour is shown of three writes, three flushes and two lines.
-/

namespace Walkthrough.Tour

open Dialogue (linesText)

/-! ## What is said in each stage -/

/-- All that is said before a name is awaited. -/
def opening : String :=
  "Hello! Let's try some basic Python features.\nPlease enter your name: "

/-- The counting, line by line. -/
def countingBlock : String := "\nCounting from 1 to 5:\n1\n2\n3\n4\n5\n"

/-- The fruits, line by line. -/
def fruitBlock : String := "\nMy favorite fruits:\nApple\nBanana\nCherry\n"

/-- All that is said between the name and the age. -/
def interlude (name : String) : String :=
  welcome name ++ "\n" ++ countingBlock ++ fruitBlock ++ ageQuestion

/-- All that is said once the age is known. -/
def parting (bracket : Bracket) : String :=
  bracket.message ++ "\n\n" ++ farewell ++ "\n"

theorem linesText_countingLines : linesText countingLines = countingBlock := by decide +kernel

theorem linesText_fruitLines : linesText fruitLines = fruitBlock := by decide +kernel

theorem opening_eq : greeting ++ "\n" ++ nameQuestion = opening := by decide +kernel

/-! ## The tour told by its stages -/

/-- The end of a tour: the age is classified, and the last stage follows if it is one. -/
def stagedEnd (answer : String) : Dialogue Unit := do
  let bracket ← classify (ageOf answer)
  Dialogue.say (parting bracket) (.done ())
  Dialogue.flush (.done ())
  Dialogue.report .finished

/-- The tour with all of a stage said at once. -/
def staged : Dialogue Unit := do
  Dialogue.report .started
  let name ← Dialogue.ask opening
  Dialogue.report (.nameRead name.isEmpty)
  let answer ← Dialogue.ask (interlude name)
  stagedEnd answer

/-- The end of a tour as it is held: the last stage in its parts. -/
def spokenEnd (answer : String) : Dialogue Unit := do
  let bracket ← classify (ageOf answer)
  Dialogue.sayLine bracket.message
  Dialogue.sayLines ["", farewell]
  Dialogue.flush (.done ())
  Dialogue.report .finished

/-- What follows the name, as it is held. -/
def spokenMiddle (name : String) : Dialogue Unit := do
  Dialogue.report (.nameRead name.isEmpty)
  Dialogue.sayLine (welcome name)
  Dialogue.sayLines countingLines
  Dialogue.sayLines fruitLines
  let answer ← Dialogue.ask ageQuestion
  spokenEnd answer

theorem parting_eq (bracket : Bracket) :
    bracket.message ++ "\n" ++ linesText ["", farewell] = parting bracket := by
  cases bracket <;> decide +kernel

theorem spokenEnd_alike (answer : String) : (spokenEnd answer).Alike (stagedEnd answer) := by
  unfold spokenEnd stagedEnd
  cases ageOf answer with
  | error interruption => exact .rfl
  | ok age =>
    refine Dialogue.Alike.note ?_ _
    have lines := Dialogue.sayLines_bind_alike ["", farewell]
      (Dialogue.flush (Dialogue.note .finished (.done ())))
    have joined := Dialogue.say_say_alike (age.bracket.message ++ "\n") (linesText ["", farewell])
      (Dialogue.flush (Dialogue.note .finished (.done ())))
    rw [parting_eq] at joined
    exact (lines.say _).trans joined

theorem spokenMiddle_alike (name : String) :
    (spokenMiddle name).Alike (do
      Dialogue.report (.nameRead name.isEmpty)
      let answer ← Dialogue.ask (interlude name)
      stagedEnd answer) := by
  refine Dialogue.Alike.note ?_ _
  have fruits := Dialogue.sayLines_bind_alike fruitLines
    (Dialogue.say ageQuestion (.flush (.listen spokenEnd)))
  have counting := Dialogue.sayLines_bind_alike countingLines
    ((Dialogue.sayLines fruitLines).bind fun _ =>
      Dialogue.say ageQuestion (.flush (.listen spokenEnd)))
  rw [linesText_fruitLines] at fruits
  rw [linesText_countingLines] at counting
  have joined : (Dialogue.say (welcome name ++ "\n") (.say countingBlock (.say fruitBlock
      (.say ageQuestion (.flush (.listen spokenEnd)))))).Alike
      (.say (interlude name) (.flush (.listen spokenEnd))) :=
    (Dialogue.say_say_alike _ _ _).trans
      ((Dialogue.say_say_alike _ _ _).trans (Dialogue.say_say_alike _ _ _))
  have ends : (Dialogue.flush (.listen spokenEnd)).Alike (.flush (.listen stagedEnd)) :=
    (Dialogue.Alike.listen spokenEnd_alike).flush
  exact ((counting.trans (fruits.say _)).say _).trans (joined.trans (ends.say _))

/-- **No console can tell the tour from the tour in three stages.** -/
theorem dialogue_alike_staged : Tour.dialogue.Alike staged := by
  refine Dialogue.Alike.note ?_ _
  have whole : (Dialogue.say (greeting ++ "\n") (.say nameQuestion (.flush (.listen spokenMiddle)))
      ).Alike (.say opening (.flush (.listen spokenMiddle))) := by
    rw [← opening_eq]
    exact Dialogue.say_say_alike _ _ _
  exact whole.trans ((Dialogue.Alike.listen spokenMiddle_alike).flush.say _)

end Walkthrough.Tour
