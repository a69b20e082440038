import ByteMachine.CommandLine

/-!
# Program entry

Looks at the file system, the environment and the console, and carries out what the command line
decides.
-/

namespace ByteMachine.CommandLine

/-- The environment variables that matter. -/
def readEnvironment : IO Environment := do
  let names := ["BYTEVM_VARIANT", "BYTEVM_MEMORY_SIZE", "BYTEVM_MAX_STEPS", "BYTEVM_STRICT_OPCODES"]
  names.filterMapM fun name => do
    return (← IO.getEnv name).map (name, ·)

/-- What an error says about the path that could not be read. -/
def spotOfError : IO.Error → Spot
  | .inappropriateType _ code _ => if code = 20 then .blocked else .directory
  | .invalidArgument _ 36 _ => .tooLong
  | _ => .vacant

/-- What stands at a path of the file system, its directory aside. -/
def inspectFile (path : String) : IO Spot := do
  try
    return .file (← IO.FS.readBinFile path).toList
  catch error => return spotOfError error

/-- What stands at a path of the file system. -/
def inspect (path : String) : IO Spot := do
  let spot ← inspectFile path
  let parent := String.intercalate "/" (pathSteps path).dropLast
  if spot = .vacant ∧ parent ≠ "" then
    return if (← inspectFile parent) = .vacant then .astray else .vacant
  else return spot

/-- The paths that a command looks at. -/
def Command.paths : Command → List String
  | .version | .variants => []
  | .run options => [options.program]
  | .list options =>
    options.program :: (options.output.map fun path => [path, tidyPath path]).getD []

/-- The rest of the text typed on the console. -/
partial def readConsole (stream : IO.FS.Stream) (typed : String) : IO String := do
  let line ← stream.getLine
  if line.isEmpty then return typed else readConsole stream (typed ++ line)

/-- Whether a command reads from the console. -/
def Command.readsConsole : Command → Bool
  | .run options => options.inputs.isEmpty
  | _ => false

/-- Carries out what the arguments ask for and gives the exit code. -/
def carryOut (arguments : List String) : IO UInt32 := do
  match parseInvocation (fun _ => .file []) arguments with
  | .error problem =>
    IO.eprintln s!"Error: {problem.message}"
    return 2
  | .ok invocation =>
    let spots ← invocation.command.paths.mapM fun path => do return (path, ← inspect path)
    let input ← if invocation.command.readsConsole then readConsole (← IO.getStdin) "" else pure ""
    let surroundings : Surroundings :=
      ⟨fun path => (spots.lookup path).getD .vacant, ← readEnvironment, input, Nat.pow 2 62⟩
    match execute surroundings arguments with
    | .error problem =>
      IO.eprintln s!"Error: {problem.message}"
      return 2
    | .ok outcome =>
      if let some (path, text) := outcome.written then IO.FS.writeFile path text
      IO.print outcome.output
      IO.eprint outcome.errors
      return UInt32.ofNat outcome.exitCode

end ByteMachine.CommandLine

/-- Runs the command line. -/
def main (arguments : List String) : IO UInt32 :=
  ByteMachine.CommandLine.carryOut arguments
