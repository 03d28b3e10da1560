import Walkthrough.Text.Pieces

/-!
# Reports of a failure

The last words of a program that failed: what went wrong and, set in below it, what lies behind.
-/

namespace Walkthrough.Diagnostics

/-- How far a cause is set in. -/
def margin : List Char := "    ".toList

/-- The text with every line of it set in, empty lines too. -/
def indent (text : String) : String :=
  String.ofList (['\n'].intercalate ((Text.pieces '\n' text.toList).map fun line => margin ++ line))

/-- The margin stands in front of the text and behind every newline in it. -/
theorem toList_indent (text : String) :
    (indent text).toList =
      margin ++ text.toList.flatMap fun c => if c = '\n' then c :: margin else [c] := by
  rw [indent, String.toList_ofList, Text.join_map_pieces]

/-- The report of a failure. -/
def failureReport (message : String) (cause? : Option String) : String :=
  match cause? with
  | none => "Error: " ++ message ++ "\n"
  | some cause => "Error: " ++ message ++ "\n\nCaused by:\n" ++ indent cause ++ "\n"

example :
    failureReport "a" (some "b\n\nc") = "Error: a\n\nCaused by:\n    b\n    \n    c\n" := by
  decide +kernel

end Walkthrough.Diagnostics
