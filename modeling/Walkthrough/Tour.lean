import Walkthrough.Age.Reading
import Walkthrough.Dialogue.Basic
import Walkthrough.Text.UpperCase

/-!
# The tour

One tour greets a person, asks for a name, counts, lists fruits, asks for an age, says which
bracket it falls into, and takes leave.  A rejected age ends the tour early.
-/

namespace Walkthrough.Tour

/-! ## What is said -/

/-- The first line. -/
def greeting : String := "Hello! Let's try some basic Python features."

/-- The question for a name. -/
def nameQuestion : String := "Please enter your name: "

/-- The question for an age, set apart by a blank line. -/
def ageQuestion : String := "\nPlease enter your age: "

/-- The last line. -/
def farewell : String := "Thanks for trying this basic program! Goodbye!"

/-- The fruits in the order in which they are listed. -/
def fruits : List String := ["apple", "banana", "cherry"]

/-- The numbers that are counted. -/
def numbers : List Nat := [1, 2, 3, 4, 5]

/-- The welcome of a person; one without a name is a guest. -/
def welcome (name : String) : String :=
  if name.isEmpty then "Welcome, guest!" else "Welcome, " ++ name ++ "!"

/-- The lines of the counting block. -/
def countingLines : List String :=
  "" :: "Counting from 1 to 5:" :: numbers.map Text.Decimal.ofNat

/-- The lines of the fruit block. -/
def fruitLines : List String :=
  "" :: "My favorite fruits:" :: fruits.map Text.capitalize

/-! ## What is done -/

/-- The age in an answer; an answer that is none is kept with the reason. -/
def ageOf (answer : String) : Except Interruption Age :=
  match Age.read answer with
  | .ok age => .ok age
  | .error defect => .error (.ageRejected answer defect.reason)

/-- Go on with an age, or note that the answer is none and give up. -/
def classify : Except Interruption Age → Dialogue Bracket
  | .ok age => do
    Dialogue.report (.ageClassified age age.bracket)
    return age.bracket
  | .error interruption => do
    Dialogue.report (.ageRejected interruption)
    .fail interruption

/-- The whole tour. -/
def dialogue : Dialogue Unit := do
  Dialogue.report .started
  Dialogue.sayLine greeting
  let name ← Dialogue.ask nameQuestion
  Dialogue.report (.nameRead name.isEmpty)
  Dialogue.sayLine (welcome name)
  Dialogue.sayLines countingLines
  Dialogue.sayLines fruitLines
  let answer ← Dialogue.ask ageQuestion
  let bracket ← classify (ageOf answer)
  Dialogue.sayLine bracket.message
  Dialogue.sayLines ["", farewell]
  Dialogue.flush (.done ())
  Dialogue.report .finished

end Walkthrough.Tour
