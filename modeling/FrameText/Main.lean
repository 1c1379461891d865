import FrameText.CommandLine.Run

/-!
# Command line

Reads the arguments and files, performs the run, and prints the listings.  Events go to the standard
error, from the level on that the arguments select.
-/

namespace FrameText

namespace CommandLine

/-- What stands for each usage error. -/
def UsageError.message : UsageError → String
  | unknownArgument => "error: unexpected argument"
  | missingValue => "error: a value is required"
  | notANumber => "error: invalid value: not a number"
  | repeated => "error: an option is given more than once"
  | unneededValue => "error: unexpected value for a switch"
  | helpRequested =>
    "Usage: fgen [-f FILE]... [-s STRING]... [-x FRAME=HEX]... [-V] [-D] [-v]... " ++
      "[--frame-size BYTES]"

/-- How important a level is, from 0 for the least. -/
def levelRank : Level → Nat
  | .trace => 0
  | .debug => 1
  | .info => 2
  | .warn => 3
  | .error => 4

/-- Whether the number of `-v` arguments selects events of a level. -/
def shows (logLevel : Nat) (level : Level) : Bool :=
  2 ≤ levelRank level + logLevel

/-- Reads a file, if it can be opened. -/
def readSource (path : Text) : IO SourceFile := do
  try
    return ⟨path, some (← IO.FS.readBinFile (String.ofList path)).data.toList⟩
  catch _ =>
    return ⟨path, none⟩

/-- Shows the events that are selected. -/
def showEvents (logLevel : Nat) (events : List Event) : IO Unit :=
  for event in events do
    if shows logLevel event.level then
      IO.eprintln (String.ofList event.line)

/-- Performs the run that arguments ask for; the answer is the exit code. -/
def perform (args : Arguments) : IO UInt32 := do
  let outcome := run {
    config := args.config
    files := ← args.files.mapM readSource
    strings := args.strings
    hex := args.hex }
  showEvents args.logLevel outcome.log
  match outcome.result with
  | .ok listings =>
    for listing in listings do
      IO.println (String.ofList ('\n' :: listing))
    return 0
  | .error e =>
    IO.eprintln (String.ofList ("Error: ".toList ++ e.message))
    return 1

end CommandLine

end FrameText

/-- Builds frames from their descriptions and lists their layers. -/
def main (args : List String) : IO UInt32 :=
  match FrameText.CommandLine.Arguments.parse (args.map String.toList) with
  | .ok args => FrameText.CommandLine.perform args
  | .error .helpRequested => do
    IO.println FrameText.CommandLine.UsageError.helpRequested.message
    return 0
  | .error e => do
    IO.eprintln e.message
    return 2
