import Walkthrough.Device

/-!
# The command line

What a program is asked to do by its arguments, and what it says about its own use.
-/

namespace Walkthrough.CommandLine

/-- The name of the program. -/
def programName : String := "basics-tour"

/-- The version of the program. -/
def version : String := "0.1.0"

/-- The version as it is shown. -/
def versionLine : String := programName ++ " " ++ version ++ "\n"

/-- How the program is used. -/
def usage : String :=
  "Basics Tour - Interactive walkthrough of branching and loops\n" ++
  "\n" ++
  "Usage: basics-tour [OPTIONS]\n" ++
  "\n" ++
  "Prompts for a name and an age on standard input.\n" ++
  "\n" ++
  "Options:\n" ++
  "  -h, --help             Show this help message\n" ++
  "  -V, --version          Show version\n" ++
  "\n" ++
  "Environment:\n" ++
  "  RUST_LOG               Log filter for stderr diagnostics (default: warn)\n"

/-- What the program is asked to do. -/
inductive Command where
  | run
  | help
  | version
deriving DecidableEq

/-- An argument that the program does not know. -/
structure UnknownArgument where
  argument : String
deriving DecidableEq

/-- The wording of an unknown argument. -/
def UnknownArgument.message (unknown : UnknownArgument) : String :=
  "Unknown argument: " ++ unknown.argument

/-- An unknown argument as an error: input that is not valid. -/
def UnknownArgument.error (unknown : UnknownArgument) : DeviceError :=
  ⟨.invalidInput, unknown.message⟩

/-- Whether an argument asks for help. -/
def asksForHelp (argument : String) : Bool :=
  argument == "-h" || argument == "--help"

/-- Whether an argument asks for the version. -/
def asksForVersion (argument : String) : Bool :=
  argument == "-V" || argument == "--version"

/-- Take arguments from left to right.  A wish for help ends the reading and so does an unknown
argument; a wish for the version stands until then. -/
def Command.choose (standing : Command) : List String → Except UnknownArgument Command
  | [] => .ok standing
  | argument :: rest =>
    if asksForHelp argument then .ok .help
    else if asksForVersion argument then Command.choose .version rest
    else .error ⟨argument⟩

/-- The command that the arguments give; without arguments the program runs. -/
def Command.ofArguments (arguments : List String) : Except UnknownArgument Command :=
  Command.choose .run arguments

example : Command.ofArguments ["-V", "-h", "x"] = .ok .help := rfl

example : Command.ofArguments ["-V", "x", "-h"] = .error ⟨"x"⟩ := rfl

end Walkthrough.CommandLine
