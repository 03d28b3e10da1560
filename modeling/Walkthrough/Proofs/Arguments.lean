import Walkthrough.CommandLine.Invocation
import Walkthrough.Proofs.FailStop

/-!
# Which argument decides

Arguments are taken from left to right.  A version flag only leaves a wish standing, and whatever
else comes ends the reading, so the first argument that is no version flag decides, and if there is
none the number of flags does not matter (`Command.choose_eq`).  A call without arguments goes on a
tour.  Any other call answers to the deciding argument alone (`answerTo`): neither its input nor the
setting of its log, neither the flags in front nor anything behind makes a difference
(`run_of_decisive`).
-/

namespace Walkthrough.CommandLine

open Diagnostics (indent margin toList_indent)
open Text.Utf8 (encode)

/-! ## The argument that decides -/

/-- An argument that asks for the version and leaves the rest to the others. -/
def IsVersionFlag (argument : String) : Prop :=
  argument = "-V" ∨ argument = "--version"

instance : DecidablePred IsVersionFlag :=
  fun argument => inferInstanceAs (Decidable (argument = "-V" ∨ argument = "--version"))

/-- The first argument that is no version flag. -/
def decisive? (arguments : List String) : Option String :=
  arguments.find? fun argument => decide ¬IsVersionFlag argument

variable {flags after : List String} {argument : String}

theorem decisive?_of_versionFlags (onlyFlags : ∀ flag ∈ flags, IsVersionFlag flag) :
    decisive? flags = none := by
  refine List.find?_eq_none.mpr fun flag mem => ?_
  simpa using onlyFlags flag mem

theorem decisive?_append_cons (onlyFlags : ∀ flag ∈ flags, IsVersionFlag flag)
    (decides : ¬IsVersionFlag argument) :
    decisive? (flags ++ argument :: after) = some argument := by
  have none := decisive?_of_versionFlags onlyFlags
  rw [decisive?] at none ⊢
  rw [List.find?_append, none, List.find?_cons_of_pos (by simpa using decides)]
  rfl

/-- **The command depends on the argument that decides**, and without one on whether there is any
argument at all. -/
theorem Command.choose_eq (standing : Command) (arguments : List String) :
    Command.choose standing arguments =
      match decisive? arguments with
      | some argument =>
        if argument = "-h" ∨ argument = "--help" then .ok .help else .error ⟨argument⟩
      | none => .ok (if arguments = [] then standing else .version) := by
  induction arguments generalizing standing with
  | nil => rfl
  | cons argument rest ih =>
    by_cases flag : IsVersionFlag argument
    · have skipped : decisive? (argument :: rest) = decisive? rest := by
        rw [decisive?, List.find?_cons_of_neg (by simpa using flag), ← decisive?]
      have passed : Command.choose standing (argument :: rest) = Command.choose .version rest := by
        rcases flag with rfl | rfl <;> rfl
      -- behind one flag the wish for the version stands already
      rw [passed, ih, skipped]
      simp only [ite_self, reduceCtorEq, if_false]
    · have found : decisive? (argument :: rest) = some argument :=
        decisive?_append_cons (fun _ mem => absurd mem List.not_mem_nil) flag
      have other : asksForVersion argument = false := by
        simpa [IsVersionFlag, asksForVersion] using flag
      rw [found, Command.choose, other]
      simp [asksForHelp]

/-! ## The answer -/

/-- How a text goes on that is set in: the margin stands behind each of its newlines. -/
def inset (text : String) : String :=
  String.ofList (text.toList.flatMap fun c => if c = '\n' then c :: margin else [c])

theorem indent_append (front back : String) :
    indent (front ++ back) = indent front ++ inset back := by
  rw [← String.toList_inj, String.toList_append, toList_indent, toList_indent, String.toList_append,
    List.flatMap_append, List.append_assoc, inset, String.toList_ofList]

/-- The report of an argument that is not known. -/
def refusal (argument : String) : String :=
  "Error: failed to parse arguments\n\nCaused by:\n" ++
    ("    Unknown argument: " ++ inset argument) ++ "\n"

theorem unknownReport_eq (argument : String) :
    unknownReport ⟨argument⟩ = usage ++ refusal argument := by
  have heading : "Error: " ++ "failed to parse arguments" ++ "\n\nCaused by:\n" =
      "Error: failed to parse arguments\n\nCaused by:\n" := by
    decide +kernel
  have front : indent "Unknown argument: " = "    Unknown argument: " := by
    decide +kernel
  have cause : indent (UnknownArgument.message ⟨argument⟩) =
      "    Unknown argument: " ++ inset argument :=
    (indent_append _ argument).trans (congrArg (fun front => front ++ inset argument) front)
  exact congr (congrArg (fun heading cause => usage ++ (heading ++ cause ++ "\n")) heading) cause

example : refusal "--name\nSam" =
    "Error: failed to parse arguments\n\nCaused by:\n    Unknown argument: --name\n    Sam\n" := by
  decide +kernel

/-- What a call with arguments leaves behind, by the argument that decides. -/
def answerTo : Option String → Departure
  | none => ⟨0, encode "basics-tour 0.1.0\n", ""⟩
  | some argument =>
    if argument = "-h" ∨ argument = "--help" then ⟨0, [], usage⟩
    else ⟨1, [], usage ++ refusal argument⟩

theorem run_of_ne_nil {invocation : Invocation} (given : invocation.arguments ≠ [])
    (stamp : String) : invocation.run stamp = answerTo (decisive? invocation.arguments) := by
  rw [Invocation.run, Command.ofArguments, Command.choose_eq]
  cases decisive? invocation.arguments with
  | none =>
    rw [if_neg given]
    rfl
  | some argument =>
    by_cases help : argument = "-h" ∨ argument = "--help"
    · rw [answerTo, if_pos help]
      simp only [if_pos help]
    · rw [answerTo, if_neg help]
      simp only [if_neg help, unknownReport_eq]

/-- **The first decisive argument decides everything.**  Without arguments a call goes on a tour.
Where all arguments are version flags it says its version.  Where an argument follows that is none,
the answer is help if it asks for help, and else the usage and a report of exactly this argument,
whatever comes behind.  Any two calls with arguments whose first decisive ones are the same leave
the same behind, under any settings, inputs and times, and however many flags came before. -/
theorem run_of_decisive (invocation other : Invocation) (stamp otherStamp : String) :
    let departure := invocation.run stamp
    let otherDeparture := other.run otherStamp
    (invocation.arguments = [] → departure =
        .ofPerformance (.ofSetting invocation.logSetting) stamp
          (Setup.faultless invocation.stdin).tour) ∧
      (invocation.arguments ≠ [] → (∀ flag ∈ invocation.arguments, IsVersionFlag flag) →
        departure = answerTo none) ∧
      (∀ (flags : List String) (argument : String) (after : List String),
        invocation.arguments = flags ++ argument :: after →
        (∀ flag ∈ flags, IsVersionFlag flag) → ¬IsVersionFlag argument →
        departure = answerTo (some argument)) ∧
      (invocation.arguments ≠ [] → other.arguments ≠ [] →
        decisive? invocation.arguments = decisive? other.arguments →
        departure = otherDeparture) := by
  intro departure otherDeparture
  refine ⟨?_, ?_, ?_, ?_⟩
  · intro empty
    show invocation.run stamp = _
    rw [Invocation.run, empty]
    rfl
  · intro given onlyFlags
    rw [← decisive?_of_versionFlags onlyFlags]
    exact run_of_ne_nil given stamp
  · intro flags argument after split onlyFlags decides
    have found : decisive? invocation.arguments = some argument := by
      rw [split]
      exact decisive?_append_cons onlyFlags decides
    rw [← found]
    exact run_of_ne_nil (by simp [split]) stamp
  · intro given otherGiven same
    calc departure = answerTo (decisive? invocation.arguments) := run_of_ne_nil given stamp
      _ = answerTo (decisive? other.arguments) := by rw [same]
      _ = otherDeparture := (run_of_ne_nil otherGiven otherStamp).symm

end Walkthrough.CommandLine
