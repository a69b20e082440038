import ByteMachine.CommandLine.Arguments
import ByteMachine.CommandLine.Path
import ByteMachine.Memory
import ByteMachine.Text.Integer
import ByteMachine.Variant

/-!
# Commands

The commands that the arguments can ask for, with their options checked. A request for the version
wins over any command, but not over a switch before it that does not exist. What stands in the place
of the command and is none is read once more as switches, so the request is also heard there.

Of several things that are wrong with a command the first one found is reported: first switches that
cannot be taken apart, then the values of switches, then the program, then what is left over.
-/

namespace ByteMachine.CommandLine

/-- Options of a command that runs a program. -/
structure RunOptions where
  /-- Path of the program. -/
  program : String
  /-- The program is hexadecimal text. -/
  isHex : Bool
  /-- Variant to run it on. -/
  variant : Option Variant
  /-- Memory size. -/
  memorySize : Option Int
  /-- Step limit. -/
  maxSteps : Option Int
  /-- Inputs; without any, the program reads from the console. -/
  inputs : List Int
  /-- Unknown opcodes are skipped. -/
  isLenient : Bool
  /-- The registers are shown at the end. -/
  showsRegisters : Bool
deriving DecidableEq, Repr

/-- Options of a command that lists a program. -/
structure ListOptions where
  /-- Path of the program. -/
  program : String
  /-- The program is hexadecimal text. -/
  isHex : Bool
  /-- Variant whose instructions are listed. -/
  variant : Option Variant
  /-- Path to write the listing to. -/
  output : Option String
deriving DecidableEq, Repr

/-- What the arguments ask for. -/
inductive Command where
  /-- Show the version. -/
  | version
  /-- Run a program. -/
  | run (options : RunOptions)
  /-- List a program. -/
  | list (options : ListOptions)
  /-- Show the variants. -/
  | variants
deriving DecidableEq, Repr

/-- A command and how much it says. -/
structure Invocation where
  /-- Say more. -/
  isVerbose : Bool
  /-- What to do. -/
  command : Command
deriving DecidableEq, Repr

/-- The switches before the command. -/
inductive GlobalSwitch where
  /-- Say more. -/
  | verbose
  /-- Show the version. -/
  | version
deriving DecidableEq, Repr

/-- The switches after the command. -/
inductive CommandSwitch where
  /-- The program is hexadecimal text. -/
  | hex
  /-- Choose the variant. -/
  | variant
  /-- Choose the memory size. -/
  | memorySize
  /-- Choose the step limit. -/
  | maxSteps
  /-- Give an input. -/
  | input
  /-- Skip unknown opcodes. -/
  | lenient
  /-- Show the registers. -/
  | registers
  /-- Choose where to write. -/
  | output
deriving DecidableEq, Repr

/-- Switches before the command. -/
def globalSwitches : List (Switch GlobalSwitch) :=
  [⟨.verbose, some 'v', "verbose", false⟩, ⟨.version, none, "version", false⟩]

/-- Switches of the command that runs a program. -/
def runSwitches : List (Switch CommandSwitch) :=
  [⟨.hex, none, "hex", false⟩, ⟨.variant, none, "variant", true⟩,
    ⟨.memorySize, none, "memory-size", true⟩, ⟨.maxSteps, none, "max-steps", true⟩,
    ⟨.input, some 'i', "input", true⟩, ⟨.lenient, none, "lenient", false⟩,
    ⟨.registers, none, "registers", false⟩]

/-- Switches of the command that lists a program. -/
def listSwitches : List (Switch CommandSwitch) :=
  [⟨.hex, none, "hex", false⟩, ⟨.variant, none, "variant", true⟩,
    ⟨.output, some 'o', "output", true⟩]

/-- Reads the value of a switch that is given at most once, or else the last one. -/
def readLast {β : Type} (parsed : Parsed CommandSwitch) (key : CommandSwitch) (name : String)
    (read? : String → Option β) : Except UsageProblem (Option β) :=
  match parsed.lastValue? key with
  | none => .ok none
  | some value =>
    match read? value with
    | some meaning => .ok (some meaning)
    | none => .error (.badValue name value)

/-- A variant by its short name, whatever the case of its letters. -/
def variantOfCode? (code : String) : Option Variant :=
  Variant.all.find? fun variant => variant.code == String.ofList (code.toList.map Char.toUpper)

/-- An integer that passes a test. -/
def integerIf? (test : Int → Bool) (text : String) : Option Int :=
  (Text.integer? .decimal text).filter test

/-- Reads all inputs. -/
def readInputs (values : List String) : Except UsageProblem (List Int) :=
  values.mapM fun value =>
    match Text.integer? .decimal value with
    | some number => .ok number
    | none => .error (.badValue "--input" value)

/-- A path that has to lead to a file. -/
def filePath (spotAt : String → Spot) (path : String) : Except UsageProblem String :=
  if hasNull path then .error (.nullInPath path)
  else
    match spotAt path with
    | .file _ => .ok path
    | .directory => .error (.isDirectory path)
    | _ => .error (.notAFile path)

/-- The one path that a command takes, which has to lead to a file. -/
def programPath (spotAt : String → Spot) (plain : List String) : Except UsageProblem String :=
  match plain with
  | [] => .error (.missingArgument "PROGRAM")
  | [path] => filePath spotAt path
  | path :: extra :: _ => do
    let _ ← filePath spotAt path
    throw (.extraArgument extra)

/-- The path to write to, which has not to lead to a directory. -/
def outputPath (spotAt : String → Spot) (path : Option String) :
    Except UsageProblem (Option String) :=
  match path with
  | none => .ok none
  | some place =>
    if hasNull place then .error (.nullInPath place)
    else
      match spotAt place with
      | .directory => .error (.isDirectory place)
      | _ => .ok (some place)

/-- Reads the options of the command that runs a program. -/
def parseRun (spotAt : String → Spot) (arguments : List String) :
    Except UsageProblem RunOptions := do
  let parsed ← parseArguments runSwitches false arguments
  let variant ← readLast parsed .variant "--variant" variantOfCode?
  let memorySize ← readLast parsed .memorySize "--memory-size"
    (integerIf? fun cells => 1 ≤ cells && cells ≤ maxMemorySize)
  let maxSteps ← readLast parsed .maxSteps "--max-steps" (integerIf? fun steps => 0 ≤ steps)
  let inputs ← readInputs (parsed.values .input)
  let program ← programPath spotAt parsed.plain
  return ⟨program, parsed.has .hex, variant, memorySize, maxSteps, inputs, parsed.has .lenient,
    parsed.has .registers⟩

/-- Reads the options of the command that lists a program. Where the output is given before the
variant, it is also checked before it. -/
def parseList (spotAt : String → Spot) (arguments : List String) :
    Except UsageProblem ListOptions := do
  let parsed ← parseArguments listSwitches false arguments
  let checkedOutput := outputPath spotAt (parsed.lastValue? .output)
  if parsed.isBefore .output .variant then
    let _ ← checkedOutput
  let variant ← readLast parsed .variant "--variant" variantOfCode?
  let output ← checkedOutput
  let program ← programPath spotAt parsed.plain
  return ⟨program, parsed.has .hex, variant, output⟩

/-- Reads the arguments of the command that shows the variants, which takes none. -/
def parseVariants (arguments : List String) : Except UsageProblem Unit := do
  let parsed ← parseArguments ([] : List (Switch CommandSwitch)) false arguments
  match parsed.plain with
  | [] => return ()
  | extra :: _ => throw (.extraArgument extra)

/-- Reads a command with its arguments. -/
def parseCommand (spotAt : String → Spot) (name : String) (arguments : List String) :
    Except UsageProblem Command :=
  match name with
  | "run" => (parseRun spotAt arguments).map .run
  | "disasm" => (parseList spotAt arguments).map .list
  | "variants" => (parseVariants arguments).map fun _ => .variants
  | _ => .error (.unknownCommand name)

/-- Reads all arguments, where `spotAt` tells what stands at a path. -/
def parseInvocation (spotAt : String → Spot) (arguments : List String) :
    Except UsageProblem Invocation := do
  let parsed ← parseArguments globalSwitches true arguments
  let isVerbose := parsed.has .verbose
  if parsed.has .version then return ⟨isVerbose, .version⟩
  match parsed.plain with
  | [] => throw .missingCommand
  | name :: rest =>
    match parseCommand spotAt name rest with
    | .ok command => return ⟨isVerbose, command⟩
    | .error (.unknownCommand unknown) =>
      let again ← parseArguments globalSwitches true (name :: rest)
      if again.has .version then return ⟨isVerbose, .version⟩
      throw (.unknownCommand unknown)
    | .error problem => throw problem

end ByteMachine.CommandLine
