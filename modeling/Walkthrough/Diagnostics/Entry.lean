import Walkthrough.Age.Basic
import Walkthrough.Diagnostics.Level
import Walkthrough.Interruption
import Walkthrough.Text.Decimal

/-!
# Log entries

What a tour reports about itself while it goes on.
-/

namespace Walkthrough.Diagnostics

/-- One report. -/
inductive Entry where
  | started
  /-- a name was read; a guest gave an empty one -/
  | nameRead (guest : Bool)
  | ageRejected (interruption : Interruption)
  | ageClassified (age : Age) (bracket : Bracket)
  | finished
deriving DecidableEq

namespace Entry

/-- Only a rejected age is worth a warning. -/
def level : Entry → Level
  | ageRejected _ => .warn
  | _ => .debug

/-- The wording of a report: what happened, then the fields that belong to it. -/
def text : Entry → String
  | started => "session started"
  | nameRead guest => "name read guest=" ++ if guest then "true" else "false"
  | ageRejected interruption => "age rejected error=" ++ interruption.message
  | ageClassified age bracket =>
    "age classified age=" ++ Text.Decimal.ofInt age.years.toInt ++ " bracket=" ++ bracket.name
  | finished => "session finished"

/-- The line of a report: its level and its wording. -/
def line (entry : Entry) : String :=
  entry.level.label ++ " " ++ entry.text

end Entry

end Walkthrough.Diagnostics
