import Walkthrough.CommandLine.Invocation

/-!
# The program

The tour on the standard streams.  What is said, understood and reported is decided by the dialogue;
this module only moves octets.
-/

namespace Walkthrough.Main

open CommandLine Diagnostics

/-- A failure of a stream as a device error. -/
def deviceError (error : IO.Error) : DeviceError :=
  match error with
  | .interrupted .. => ⟨.interrupted, toString error⟩
  | _ => ⟨.other, toString error⟩

/-- Try an action on a device. -/
def attempt (action : IO Unit) : IO (Option DeviceError) := do
  try
    action
    return none
  catch error => return some (deviceError error)

/-- Take octets from a stream up to and with a newline or to the end of the input. -/
partial def takeLine (stream : IO.FS.Stream) (taken : List UInt8) :
    IO (List UInt8 × Option DeviceError) := do
  try
    let piece ← stream.read 1
    match piece.data.toList with
    | [] => return (taken.reverse, none)
    | octet :: _ =>
      if octet == Text.Line.newline then return ((octet :: taken).reverse, none)
      else takeLine stream (octet :: taken)
  catch error =>
    let failure := deviceError error
    if failure.Fatal then return (taken.reverse, some failure) else takeLine stream taken

/-- Give octets to a stream, one at a time, so that none is given twice where it is interrupted. -/
partial def giveOctets (stream : IO.FS.Stream) : List UInt8 → IO (Option DeviceError)
  | [] => return none
  | octet :: rest => do
    match ← attempt (stream.write [octet].toByteArray) with
    | none => giveOctets stream rest
    | some failure =>
      if failure.Fatal then return some failure else giveOctets stream (octet :: rest)

/-- Hold a dialogue on the standard streams. -/
def hold (filter : Filter) {α : Type} : Dialogue α → IO (Except Interruption α)
  | .done result => return .ok result
  | .fail interruption => return .error interruption
  | .note entry next => do
    let stamp := toString (← IO.monoMsNow)
    (← IO.getStderr).putStr (String.join (shownLog filter stamp [entry]))
    hold filter next
  | .say text next => do
    match ← giveOctets (← IO.getStdout) (Text.Utf8.encode text) with
    | some error => return .error (.device error)
    | none => hold filter next
  | .flush next => do
    match ← attempt (← IO.getStdout).flush with
    | some error => return .error (.device error)
    | none => hold filter next
  | .listen next => do
    let (octets, failure) ← takeLine (← IO.getStdin) []
    match Source.answer failure octets with
    | .error interruption => return .error interruption
    | .ok line => hold filter (next line)

/-- Run the program with some arguments. -/
def start (arguments : List String) : IO UInt32 := do
  match Command.ofArguments arguments with
  | .error unknown =>
    (← IO.getStderr).putStr (unknownReport unknown)
    return 1
  | .ok .help =>
    (← IO.getStderr).putStr usage
    return 0
  | .ok .version =>
    (← IO.getStdout).putStr versionLine
    return 0
  | .ok .run =>
    match ← hold (.ofSetting (← IO.getEnv "RUST_LOG")) Tour.dialogue with
    | .ok () => return 0
    | .error interruption =>
      (← IO.getStderr).putStr (interruptionReport interruption)
      return 1

end Walkthrough.Main

/-- The program. -/
def main (arguments : List String) : IO UInt32 :=
  Walkthrough.Main.start arguments
