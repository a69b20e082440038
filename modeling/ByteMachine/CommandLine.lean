import ByteMachine.CommandLine.Command
import ByteMachine.CommandLine.Trouble
import ByteMachine.Config.Environment
import ByteMachine.Device.Console
import ByteMachine.Device.Scripted
import ByteMachine.HexProgram
import ByteMachine.Listing
import ByteMachine.Machine.Run
import ByteMachine.Text.Utf8

/-!
# Command line

What a command shows on its two channels, which file it writes and how it ends, as a function of
the arguments, the environment, the files and the text typed on the console. What a command says is
shown without control sequences; its log, the dialogue on the console and the files it writes keep
them.
-/

namespace ByteMachine.CommandLine

open Text

/-- What a command can see. -/
structure Surroundings where
  /-- What stands at a path. -/
  spotAt : String → Spot
  /-- The environment variables. -/
  environment : Environment
  /-- The text typed on the console. -/
  input : String
  /-- How many steps a program without a step limit may take. -/
  supply : Nat

/-- What a command does. -/
structure Outcome where
  /-- The exit code. -/
  exitCode : Nat
  /-- Text on the output channel. -/
  output : String
  /-- Text on the error channel. -/
  errors : String
  /-- A file that is written: its path and its text. -/
  written : Option (String × String)
deriving DecidableEq, Repr

/-- Lines with their ends. -/
def unlines (lines : List String) : String :=
  String.join (lines.map (· ++ "\n"))

/-- The log as it is shown: with levels and in full, or else only what is out of order. -/
def shownLog (isVerbose : Bool) (log : List LogRecord) : String :=
  if isVerbose then unlines (log.map LogRecord.labelled)
  else unlines ((log.filter fun entry => entry.level = .warning).map LogRecord.text)

/-- The warnings about the environment as records of a log. -/
def environmentLog (warnings : List Config.Warning) : List LogRecord :=
  warnings.map fun warning => ⟨.warning, warning.message⟩

/-- The image in a program file. -/
def readProgram (isHex : Bool) (content : List UInt8) : Except Trouble (List UInt8) :=
  if isHex then
    match decodeUtf8 content with
    | .error failure => .error (.badValue failure.message)
    | .ok text =>
      match HexProgram.parseChars text with
      | .error problem => .error (.badValue problem.message)
      | .ok image => .ok image
  else .ok content

/-- Contents of the program file of a command. -/
def programContent (surroundings : Surroundings) (path : String) : List UInt8 :=
  match surroundings.spotAt path with
  | .file content => content
  | _ => []

/-- The settings that options of a run ask for. -/
def RunOptions.settings (options : RunOptions) : Settings where
  variant := options.variant.map Variant.code
  memorySize := options.memorySize
  strictOpcodes := if options.isLenient then some false else none
  maxSteps := options.maxSteps

/-- The line that shows all registers and flags. -/
def registerLine {δ : Type} (machine : Machine δ) : String :=
  let named (entry : String × Nat) : String :=
    String.ofList (entry.1.toList.map Char.toUpper) ++ s!"={entry.2}"
  let flags := machine.flagReport.map fun flag => (flag.1, if flag.2 then 1 else 0)
  String.intercalate " " ((machine.registerReport ++ flags).map named)

/-- What is said about a run that ended with an event. -/
def eventText (isVerbose : Bool) (event : Option Event) : String :=
  match event with
  | none => ""
  | some stop =>
    let text := stop.text?.getD ""
    if stop.reason ≠ .halted then plainLine s!"Stopped: {text}"
    else if isVerbose then plainLine text
    else ""

/-- Runs an image on a machine with the given device and reports on it, where `shown` gives what the
device has shown and `log` comes before the log of the machine. -/
def runOn {δ : Type} [Device δ] (isVerbose showsRegisters : Bool) (supply : Nat)
    (log : List LogRecord) (shown : δ → String) (machine : Machine δ) (image : List UInt8) :
    Outcome :=
  match Machine.runProgram supply image none machine with
  | .error fault stopped =>
    let verdict := (Trouble.machine fault).report isVerbose "Runtime"
    ⟨verdict.exitCode, shown stopped.device,
      shownLog isVerbose (log ++ stopped.log) ++ verdict.text, none⟩
  | .ok event stopped =>
    ⟨0, shown stopped.device ++ (if showsRegisters then registerLine stopped ++ "\n" else ""),
      shownLog isVerbose (log ++ stopped.log) ++ eventText isVerbose event, none⟩

/-- The end of a command with trouble. -/
def fail (isVerbose : Bool) (log : List LogRecord) (trouble : Trouble) : Outcome :=
  let verdict := trouble.report isVerbose ""
  ⟨verdict.exitCode, "", shownLog isVerbose log ++ verdict.text, none⟩

/-- Runs a program. -/
def runCommand (surroundings : Surroundings) (isVerbose : Bool) (options : RunOptions) : Outcome :=
  let (base, warnings) := Config.ofEnvironment surroundings.environment
  let log := environmentLog warnings
  match base.override options.settings with
  | .error problem => fail isVerbose log (.badValue problem.message)
  | .ok config =>
    match readProgram options.isHex (programContent surroundings options.program) with
    | .error trouble => fail isVerbose log trouble
    | .ok image =>
      let started : LogRecord :=
        ⟨.debug,
          s!"Running {fileName options.program} ({image.length} bytes) on {config.variantName}"⟩
      let log := log ++ [started]
      if options.inputs.isEmpty then
        runOn isVerbose options.showsRegisters surroundings.supply log Console.shown
          (Machine.start config (Console.ofInput surroundings.input)) image
      else
        runOn isVerbose options.showsRegisters surroundings.supply log
          (fun device : Scripted => unlines (device.outputs.map toString))
          (Machine.start config (Scripted.ofInputs (options.inputs.map .number))) image

/-- The text of a listing with its heading. -/
def listingText (name : String) (variant : Variant) (image : List UInt8) : String :=
  unlines
    ([s!"; Disassembly of {name}", s!"; Size: {image.length} bytes",
      s!"; Variant: {variant.code}", ""] ++
      (Listing.ofBytes variant 0 image).map Listing.Entry.line)

/-- Why nothing can be written to a spot, if so. -/
def writeError? (path : String) : Spot → Option SystemError
  | .directory => some ⟨21, "Is a directory", some path⟩
  | .astray => some ⟨2, "No such file or directory", some path⟩
  | .blocked => some ⟨20, "Not a directory", some path⟩
  | .tooLong => some ⟨36, "File name too long", some path⟩
  | .file _ => none
  | .vacant => none

/-- Lists a program. -/
def listCommand (surroundings : Surroundings) (isVerbose : Bool) (options : ListOptions) :
    Outcome :=
  let (base, warnings) := Config.ofEnvironment surroundings.environment
  let log := environmentLog warnings
  match base.override { Settings.empty with variant := options.variant.map Variant.code } with
  | .error problem => fail isVerbose log (.badValue problem.message)
  | .ok config =>
    match readProgram options.isHex (programContent surroundings options.program) with
    | .error trouble => fail isVerbose log trouble
    | .ok image =>
      let text := listingText (fileName options.program) config.variant image
      match options.output with
      | none => ⟨0, withoutControls text, shownLog isVerbose log, none⟩
      | some output =>
        let path := tidyPath output
        match writeError? path (surroundings.spotAt path) with
        | some failure => fail isVerbose log failure.trouble
        | none => ⟨0, "", shownLog isVerbose log ++ plainLine s!"Wrote {path}", some (path, text)⟩

/-- The line that shows a variant. -/
def variantLine (variant : Variant) : String :=
  let registers := String.intercalate ", " (variant.registers.map Register.name)
  let note := if variant.isTagged then "width-tagged IO" else "8-bit IO"
  padRight 6 variant.code ++ " " ++ padRight 28 variant.title ++
    s!" {registers}  ({note})"

/-- The version of the program. -/
def version : String := "1.0.0"

/-- Does what is asked for. -/
def perform (surroundings : Surroundings) (invocation : Invocation) : Outcome :=
  match invocation.command with
  | .version => ⟨0, s!"bytevm, version {version}\n", "", none⟩
  | .variants => ⟨0, unlines (Variant.all.map variantLine), "", none⟩
  | .run options => runCommand surroundings invocation.isVerbose options
  | .list options => listCommand surroundings invocation.isVerbose options

/-- Does what the arguments ask for. -/
def execute (surroundings : Surroundings) (arguments : List String) :
    Except UsageProblem Outcome :=
  (parseInvocation surroundings.spotAt arguments).map (perform surroundings)

end ByteMachine.CommandLine
