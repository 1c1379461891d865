import FrameText.Error
import FrameText.Limits
import FrameText.Text.Blank

/-!
# Command-line arguments

* Options with a value: `-f`/`--fgen-file`, `-s`/`--fgen-string`, `-x`/`--hex`, each any number of
  times, and `--frame-size` at most once.  The value is attached (`-fNAME`, `-f=NAME`,
  `--fgen-file=NAME`) or the next argument, which must not look like an option.
* Switches: `-V`/`--verbose` and `-D`/`--dump`, each at most once, `-v` any number of times, and
  `-h`/`--help`.  One-letter switches can be joined (`-VD`).

A value that is the next argument is looked at only when the following option, or the end of the
arguments, is reached; an unknown argument in between is reported first.
-/

namespace FrameText

namespace CommandLine

/-- Why arguments are refused. -/
inductive UsageError where
  | unknownArgument
  | missingValue
  | notANumber
  /-- An option that may be given once is given again. -/
  | repeated
  /-- A switch is given a value. -/
  | unneededValue
  /-- Not an error: the arguments ask for help. -/
  | helpRequested
  deriving DecidableEq, Repr

/-- Options with a value. -/
inductive ValueOption where
  | file
  | string
  | hex
  | frameSize
  deriving DecidableEq, Repr

/-- Options without a value. -/
inductive Switch where
  | verbose
  | dump
  | logMore
  | help
  deriving DecidableEq, Repr

/-- The options of the command line. -/
inductive CommandOption where
  | valued (option : ValueOption)
  | switch (switch : Switch)
  deriving DecidableEq, Repr

/-- The option with a one-letter name. -/
def shortOption? : Char → Option CommandOption
  | 'f' => some (.valued .file)
  | 's' => some (.valued .string)
  | 'x' => some (.valued .hex)
  | 'V' => some (.switch .verbose)
  | 'D' => some (.switch .dump)
  | 'v' => some (.switch .logMore)
  | 'h' => some (.switch .help)
  | _ => none

/-- The options with a long name. -/
def longOptions : List (Text × CommandOption) := [
  ("fgen-file".toList, .valued .file),
  ("fgen-string".toList, .valued .string),
  ("hex".toList, .valued .hex),
  ("frame-size".toList, .valued .frameSize),
  ("verbose".toList, .switch .verbose),
  ("dump".toList, .switch .dump),
  ("help".toList, .switch .help)]

/-- What the arguments say. -/
structure Arguments where
  files : List Text := []
  strings : List Text := []
  hex : List Text := []
  verbose : Bool := false
  dump : Bool := false
  /-- The size of frame buffers, if one is given. -/
  givenSize : Option Nat := none
  logLevel : Nat := 0
  deriving DecidableEq, Repr

namespace Arguments

/-- The size of frame buffers. -/
def frameSize (args : Arguments) : Nat :=
  args.givenSize.getD Limits.defaultCapacity

/-- The settings that the arguments select. -/
def config (args : Arguments) : Config :=
  Config.withFrameSize { verbose := args.verbose, dump := args.dump } args.frameSize

/-- The least important level of events to show. -/
def logFilter (args : Arguments) : Text :=
  match args.logLevel with
  | 0 => "info".toList
  | 1 => "debug".toList
  | _ => "trace".toList

/-- Sets an option with a value.  The name of a file is not empty. -/
def setValue (args : Arguments) (option : ValueOption) (value : Text) :
    Except UsageError Arguments :=
  match option with
  | .file =>
    if value = [] then .error .missingValue else .ok { args with files := args.files ++ [value] }
  | .string => .ok { args with strings := args.strings ++ [value] }
  | .hex => .ok { args with hex := args.hex ++ [value] }
  | .frameSize =>
    if args.givenSize.isSome then
      .error .repeated
    else
      match Text.unsignedBelow? 10 Limits.wordBound value with
      | some size => .ok { args with givenSize := some size }
      | none => .error .notANumber

/-- Sets a switch.  The count of `-v` stays within a byte. -/
def setSwitch (args : Arguments) : Switch → Except UsageError Arguments
  | .verbose => if args.verbose then .error .repeated else .ok { args with verbose := true }
  | .dump => if args.dump then .error .repeated else .ok { args with dump := true }
  | .logMore => .ok { args with logLevel := min (args.logLevel + 1) 255 }
  | .help => .error .helpRequested

end Arguments

/-! ## Reading -/

/-- The arguments read so far, and the option that is waiting for its value or to be looked at. -/
structure Scanner where
  args : Arguments := {}
  pending : Option (ValueOption × Option Text) := none
  deriving DecidableEq, Repr

namespace Scanner

/-- Looks at the option that is waiting. -/
def flush (scanner : Scanner) : Except UsageError Arguments :=
  match scanner.pending with
  | none => .ok scanner.args
  | some (_, none) => .error .missingValue
  | some (option, some value) => scanner.args.setValue option value

/-- Reads an option with a value, which may be attached. -/
def readValued (scanner : Scanner) (option : ValueOption) (attached : Option Text) :
    Except UsageError Scanner := do
  let args ← scanner.flush
  match attached with
  | some value => return { args := ← args.setValue option value }
  | none => return { args := args, pending := some (option, none) }

/-- Reads a switch. -/
def readSwitch (scanner : Scanner) (switch : Switch) : Except UsageError Scanner := do
  return { args := ← (← scanner.flush).setSwitch switch }

/-- The value attached to a one-letter option. -/
def attachedValue? : Text → Option Text
  | [] => none
  | '=' :: value => some value
  | value => some value

/-- Reads joined one-letter options. -/
def readShort (scanner : Scanner) : Text → Except UsageError Scanner
  | [] => .ok scanner
  | c :: rest =>
    match shortOption? c with
    | none => .error .unknownArgument
    | some (.switch switch) =>
      match scanner.readSwitch switch with
      | .ok next => next.readShort rest
      | .error e => .error e
    | some (.valued option) => scanner.readValued option (attachedValue? rest)

/-- Reads a long option, given as the text behind its two hyphens. -/
def readLong (scanner : Scanner) (body : Text) : Except UsageError Scanner :=
  let (name, attached) :=
    match Text.cut? ['='] body with
    | some (name, value) => (name, some value)
    | none => (body, none)
  match longOptions.lookup name, attached with
  | none, _ => .error .unknownArgument
  | some (.valued option), attached => scanner.readValued option attached
  | some (.switch _), some _ => .error .unneededValue
  | some (.switch switch), none => scanner.readSwitch switch

/-- Reads the arguments that are left. -/
def readAll (scanner : Scanner) : List Text → Except UsageError Arguments
  | [] => scanner.flush
  | arg :: rest =>
    match arg with
    | ['-', '-'] => if rest = [] then scanner.flush else .error .unknownArgument
    | '-' :: '-' :: body =>
      match scanner.readLong body with
      | .ok next => next.readAll rest
      | .error e => .error e
    | '-' :: c :: cs =>
      match scanner.readShort (c :: cs) with
      | .ok next => next.readAll rest
      | .error e => .error e
    | _ =>
      match scanner.pending with
      | some (option, none) =>
        readAll { scanner with pending := some (option, some arg) } rest
      | _ => .error .unknownArgument

end Scanner

/-- Reads the arguments of the command line. -/
def Arguments.parse (args : List Text) : Except UsageError Arguments :=
  Scanner.readAll {} args

/-! ## Injections -/

/-- The frame name and the hex text of an injection `FRAME=HEX`. -/
def parseInjection (arg : Text) : Except Error (Text × Text) :=
  match Text.cut? ['='] arg with
  | some (name, hex) =>
    if Text.trim name = [] then .error (.keyValue arg) else .ok (Text.trim name, hex)
  | none => .error (.keyValue arg)

/-- The frame names and hex texts of all injections. -/
def parseInjections (args : List Text) : Except Error (List (Text × Text)) :=
  args.mapM parseInjection

end CommandLine

end FrameText
