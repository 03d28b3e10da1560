import Walkthrough.Proofs.Arguments
import Walkthrough.Proofs.Unquoting

/-!
# The argument behind a refusal

The report of an argument that is not known gives the argument back, whatever lines it has: a text
that was set in is set out again (`outdent_indent`), and the usage and the headings in front of it
are always the same (`readUnknown?_unknownReport`).  So two refused calls report the same exactly if
the arguments that they were refused for are the same (`stderr_run_eq_iff`).  Such an argument is
the first one that is neither a version flag nor asks for help (`ofArguments_eq_error_iff`).
-/

namespace Walkthrough

namespace Diagnostics

open Text (pieces)

/-- The text with the margin of every line taken away. -/
def outdent (text : String) : String :=
  String.ofList (['\n'].intercalate
    ((pieces '\n' text.toList).map fun line => line.drop margin.length))

/-- The lines of a text that was set in are its lines behind the margin. -/
theorem pieces_indent (text : String) :
    pieces '\n' (indent text).toList = (pieces '\n' text.toList).map fun line => margin ++ line := by
  rw [indent, String.toList_ofList]
  apply Text.pieces_join
  · intro part mem
    obtain ⟨line, given, rfl⟩ := List.mem_map.mp mem
    rw [List.mem_append, not_or]
    exact ⟨by decide, Text.separator_notMem_of_mem_pieces line given⟩
  · rw [ne_eq, List.map_eq_nil_iff]
    exact List.cons_ne_nil _ _

/-- **A text that was set in is set out again**, empty lines and lines with blanks in front
included. -/
theorem outdent_indent (text : String) : outdent (indent text) = text := by
  have back : ((pieces '\n' text.toList).map fun line => margin ++ line).map
      (fun line => line.drop margin.length) = pieces '\n' text.toList := by
    rw [List.map_map]
    apply List.map_id''
    intro line
    exact List.drop_left
  rw [outdent, pieces_indent, back, Text.join_pieces, String.ofList_toList]

end Diagnostics

namespace CommandLine

open Diagnostics (indent outdent)

/-! ## Which argument is refused -/

/-- The argument is the first that is neither a version flag nor asks for help, and no one asks for
help in front of it. -/
def OffendsFirst (argument : String) (arguments : List String) : Prop :=
  ∃ flags after, arguments = flags ++ argument :: after ∧
    (∀ flag ∈ flags, IsVersionFlag flag) ∧ ¬ IsVersionFlag argument ∧
    argument ≠ "-h" ∧ argument ≠ "--help"

theorem exists_of_decisive? {arguments : List String} {argument : String}
    (h : decisive? arguments = some argument) :
    ∃ flags after, arguments = flags ++ argument :: after ∧
      (∀ flag ∈ flags, IsVersionFlag flag) ∧ ¬ IsVersionFlag argument := by
  obtain ⟨decides, flags, after, split, passed⟩ := List.find?_eq_some_iff_append.mp h
  refine ⟨flags, after, split, ?_, of_decide_eq_true decides⟩
  intro flag mem
  simpa using passed flag mem

/-- **A call is refused for the first argument that makes no sense.** -/
theorem ofArguments_eq_error_iff {arguments : List String} {unknown : UnknownArgument} :
    Command.ofArguments arguments = .error unknown ↔
      OffendsFirst unknown.argument arguments := by
  rw [Command.ofArguments, Command.choose_eq]
  constructor
  · intro refused
    cases decides : decisive? arguments with
    | none =>
      rw [decides] at refused
      cases refused
    | some argument =>
      rw [decides] at refused
      simp only at refused
      split at refused
      · cases refused
      · rename_i noHelp
        cases refused
        obtain ⟨flags, after, split, onlyFlags, other⟩ := exists_of_decisive? decides
        exact ⟨flags, after, split, onlyFlags, other, not_or.mp noHelp⟩
  · rintro ⟨flags, after, rfl, onlyFlags, other, noHelp⟩
    rw [decisive?_append_cons onlyFlags other]
    exact if_neg (not_or.mpr noHelp)

/-! ## The report gives the argument back -/

/-- All that stands in a report of an argument in front of what was wrong with it. -/
def refusalHeading : String :=
  usage ++ ("Error: " ++ "failed to parse arguments" ++ "\n\nCaused by:\n")

/-- Read the argument that is not known out of an error output. -/
def readUnknown? (stderr : String) : Option String := do
  let report ← refusalHeading.toList.isPrefixOf? stderr.toList
  let cause := outdent (String.ofList report.dropLast)
  let argument ← "Unknown argument: ".toList.isPrefixOf? cause.toList
  return String.ofList argument

theorem toList_unknownReport (unknown : UnknownArgument) :
    (unknownReport unknown).toList =
      refusalHeading.toList ++ ((indent unknown.message).toList ++ ['\n']) := by
  -- over any texts: the letters of the fixed ones are of no interest here
  have parts (a b c d : String) :
      (a ++ (b ++ c ++ d)).toList = (a ++ b).toList ++ (c.toList ++ d.toList) := by
    simp only [String.toList_append, List.append_assoc]
  exact parts usage _ (indent unknown.message) "\n"

/-- **A report gives the argument back.** -/
theorem readUnknown?_unknownReport (unknown : UnknownArgument) :
    readUnknown? (unknownReport unknown) = some unknown.argument := by
  have message : unknown.message.toList =
      "Unknown argument: ".toList ++ unknown.argument.toList := String.toList_append
  rw [readUnknown?, toList_unknownReport, Text.isPrefixOf?_append, Option.bind_eq_bind,
    Option.bind_some]
  dsimp only
  rw [List.dropLast_concat, String.ofList_toList, Diagnostics.outdent_indent, message,
    Text.isPrefixOf?_append, Option.bind_some, String.ofList_toList]
  rfl

theorem stderr_run_of_refused {invocation : Invocation} {unknown : UnknownArgument}
    (refused : Command.ofArguments invocation.arguments = .error unknown) (stamp : String) :
    (invocation.run stamp).stderr = unknownReport unknown := by
  rw [Invocation.run, refused]

/-- **The error output of a refused call identifies the argument that it was refused for.**  This is
the first argument that is neither a version flag nor asks for help.  It can be read out of the
error output, and two refused calls have the same error output exactly if it is the same argument,
whatever stands in front of it and behind, and whatever lines the argument has. -/
theorem stderr_run_eq_iff (invocation other : Invocation) (stamp otherStamp : String)
    {unknown otherUnknown : UnknownArgument}
    (refused : Command.ofArguments invocation.arguments = .error unknown)
    (otherRefused : Command.ofArguments other.arguments = .error otherUnknown) :
    OffendsFirst unknown.argument invocation.arguments ∧
      OffendsFirst otherUnknown.argument other.arguments ∧
      ((invocation.run stamp).stderr = (other.run otherStamp).stderr ↔
        unknown.argument = otherUnknown.argument) ∧
      readUnknown? (invocation.run stamp).stderr = some unknown.argument := by
  have read := readUnknown?_unknownReport unknown
  have otherRead := readUnknown?_unknownReport otherUnknown
  rw [stderr_run_of_refused refused, stderr_run_of_refused otherRefused]
  refine ⟨ofArguments_eq_error_iff.mp refused, ofArguments_eq_error_iff.mp otherRefused, ?_, read⟩
  constructor
  · intro same
    rw [same, otherRead] at read
    exact (Option.some.inj read).symm
  · intro same
    rw [show unknown = otherUnknown from congrArg UnknownArgument.mk same]

/-- An argument that imitates the report of another one is told apart from it. -/
theorem stderr_run_ne_of_imitation :
    let forged := "7\n\nError: failed to parse arguments\n\nCaused by:\n    Unknown argument: 7"
    let invocation : Invocation := ⟨["-V", forged, "--help"], some "debug", []⟩
    let other : Invocation := ⟨["7", "-h"], none, [10]⟩
    Command.ofArguments invocation.arguments = .error ⟨forged⟩ ∧
      Command.ofArguments other.arguments = .error ⟨"7"⟩ ∧
      (invocation.run "").stderr ≠ (other.run "").stderr ∧
      readUnknown? (invocation.run "").stderr = some forged := by
  intro forged invocation other
  have refused : Command.ofArguments invocation.arguments = .error ⟨forged⟩ := rfl
  have otherRefused : Command.ofArguments other.arguments = .error ⟨"7"⟩ := rfl
  obtain ⟨-, -, same, read⟩ := stderr_run_eq_iff invocation other "" "" refused otherRefused
  refine ⟨refused, otherRefused, ?_, read⟩
  intro equal
  exact absurd (same.mp equal) (by decide +kernel)

end CommandLine

end Walkthrough
