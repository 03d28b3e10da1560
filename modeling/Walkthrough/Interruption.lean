import Walkthrough.Device
import Walkthrough.Text.Quoted

/-!
# Interruptions

What can end a dialogue before its last word, and how that is worded.
-/

namespace Walkthrough

/-- Why a dialogue ended early. -/
inductive Interruption where
  /-- the answer to the question for an age is no age -/
  | ageRejected (input reason : String)
  /-- the input ended where an answer should have begun -/
  | inputClosed
  /-- a device failed -/
  | device (error : DeviceError)
deriving DecidableEq

namespace Interruption

/-- The wording of an interruption. -/
def message : Interruption → String
  | ageRejected input reason =>
    "invalid literal for integer age: " ++ Text.Quoted.quote input ++ " (" ++ reason ++ ")"
  | inputClosed => "input closed before a line was read"
  | device error => "IO error: " ++ error.text

/-- The wording of what lies behind an interruption. -/
def cause? : Interruption → Option String
  | device error => some error.text
  | _ => none

end Interruption

end Walkthrough
