import Walkthrough.CommandLine.Command
import Walkthrough.Diagnostics.Failure
import Walkthrough.Diagnostics.Filter
import Walkthrough.Dialogue.Performance
import Walkthrough.Tour

/-!
# Invocations

What one call of the program leaves behind: its exit code and what it wrote to its two outputs.
Of its surroundings a call sees the arguments, the setting of the log and its standard input.
-/

namespace Walkthrough.CommandLine

open Diagnostics (Entry Filter)

/-- What a call of the program sees. -/
structure Invocation where
  arguments : List String
  logSetting : Option String
  stdin : List UInt8
deriving DecidableEq

/-- What a call of the program leaves behind. -/
structure Departure where
  exitCode : Nat
  stdout : List UInt8
  stderr : String
deriving DecidableEq

/-- The target under which a tour reports. -/
def logTarget : String := "basics_tour::session"

/-- The lines of the reports that a filter shows, each behind the stamp of its time.  They are
written without colours, as they are where `NO_COLOR` is set; elsewhere the same words stand between
escape sequences. -/
def shownLog (filter : Filter) (stamp : String) (entries : List Entry) : List String :=
  (entries.filter fun entry => filter.shows logTarget entry.level).map fun entry =>
    stamp ++ " " ++ entry.line ++ "\n"

/-- What is reported about a tour that was interrupted. -/
def interruptionReport (interruption : Interruption) : String :=
  Diagnostics.failureReport interruption.message interruption.cause?

/-- What is reported about an argument that is not known: the usage comes first. -/
def unknownReport (unknown : UnknownArgument) : String :=
  usage ++ Diagnostics.failureReport "failed to parse arguments" (some unknown.error.text)

/-- What a performed tour leaves behind. -/
def Departure.ofPerformance (filter : Filter) (stamp : String) (performance : Performance Unit) :
    Departure :=
  let log := String.join (shownLog filter stamp performance.trace.entries)
  match performance.result with
  | .ok () => ⟨0, performance.trace.written, log⟩
  | .error interruption => ⟨1, performance.trace.written, log ++ interruptionReport interruption⟩

/-- What a call leaves behind; `stamp` stands for the time of every report. -/
def Invocation.run (invocation : Invocation) (stamp : String) : Departure :=
  match Command.ofArguments invocation.arguments with
  | .error unknown => ⟨1, [], unknownReport unknown⟩
  | .ok .help => ⟨0, [], usage⟩
  | .ok .version => ⟨0, Text.Utf8.encode versionLine, ""⟩
  | .ok .run =>
    .ofPerformance (.ofSetting invocation.logSetting) stamp
      (Tour.dialogue.perform (Setup.faultless invocation.stdin).console)

end Walkthrough.CommandLine
