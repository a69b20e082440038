/-!
# Arguments and switches

The arguments of a command are split into switches and plain arguments. A switch is a long name
after two dashes or a letter after one; letters may be written together. A switch that takes a
value takes it from the rest of its own argument or else from the next one, whatever that looks
like. Two dashes alone end the switches.
-/

namespace ByteMachine.CommandLine

/-- What is wrong with the arguments of a command. -/
inductive UsageProblem where
  /-- There is no command. -/
  | missingCommand
  /-- There is no such command. -/
  | unknownCommand (name : String)
  /-- There is no such switch. -/
  | unknownSwitch (argument : String)
  /-- A switch lacks its value. -/
  | missingValue (switch : String)
  /-- A switch takes no value. -/
  | unexpectedValue (switch : String)
  /-- A value of a switch is not acceptable. -/
  | badValue (switch value : String)
  /-- A plain argument is missing. -/
  | missingArgument (name : String)
  /-- There are too many plain arguments. -/
  | extraArgument (argument : String)
  /-- There is no file at a path. -/
  | notAFile (path : String)
  /-- A directory stands at a path. -/
  | isDirectory (path : String)
  /-- A path holds a null character. -/
  | nullInPath (path : String)
deriving DecidableEq, Repr

/-- Wording of a usage problem. -/
def UsageProblem.message : UsageProblem → String
  | .missingCommand => "Missing command."
  | .unknownCommand name => s!"No such command '{name}'."
  | .unknownSwitch argument => s!"No such option: {argument}"
  | .missingValue switch => s!"Option '{switch}' requires an argument."
  | .unexpectedValue switch => s!"Option '{switch}' does not take a value."
  | .badValue switch value => s!"Invalid value for '{switch}': '{value}'."
  | .missingArgument name => s!"Missing argument '{name}'."
  | .extraArgument argument => s!"Got unexpected extra argument ({argument})"
  | .notAFile path => s!"File '{path}' does not exist."
  | .isDirectory path => s!"File '{path}' is a directory."
  | .nullInPath path => s!"Path '{path}' holds a null character."

/-- A switch that a command knows, identified by a key. -/
structure Switch (α : Type) where
  /-- What identifies it. -/
  key : α
  /-- Its letter, if it has one. -/
  letter : Option Char
  /-- Its long name. -/
  name : String
  /-- Whether it takes a value. -/
  takesValue : Bool

/-- A switch found in the arguments, with its value if it takes one. -/
structure Found (α : Type) where
  /-- What identifies the switch. -/
  key : α
  /-- Its value, or the empty text. -/
  value : String

/-- Arguments that have been split. -/
structure Parsed (α : Type) where
  /-- The switches in order. -/
  switches : List (Found α)
  /-- The plain arguments in order. -/
  plain : List String

/-- The switches of one argument, and the switch that waits for its value. -/
structure Cluster (α : Type) where
  /-- The switches that are complete. -/
  complete : List (Found α)
  /-- The switch that takes the next argument as its value. -/
  waiting : Option (Switch α)

variable {α : Type}

/-- Reads letters that stand together after one dash. -/
def parseLetters (known : List (Switch α)) : List Char → Except UsageProblem (Cluster α)
  | [] => .ok ⟨[], none⟩
  | letter :: rest =>
    match known.find? fun switch => switch.letter == some letter with
    | none => .error (.unknownSwitch (String.ofList ['-', letter]))
    | some switch =>
      if switch.takesValue then
        if rest.isEmpty then .ok ⟨[], some switch⟩
        else .ok ⟨[⟨switch.key, String.ofList rest⟩], none⟩
      else
        (parseLetters known rest).map fun cluster =>
          { cluster with complete := ⟨switch.key, ""⟩ :: cluster.complete }

/-- Reads a long name after two dashes, with a value after an equals sign if there is one. -/
def parseLong (known : List (Switch α)) (text : List Char) : Except UsageProblem (Cluster α) :=
  let name := String.ofList (text.takeWhile (· != '='))
  match known.find? fun switch => switch.name == name with
  | none => .error (.unknownSwitch ("--" ++ name))
  | some switch =>
    match text.dropWhile (· != '='), switch.takesValue with
    | [], true => .ok ⟨[], some switch⟩
    | [], false => .ok ⟨[⟨switch.key, ""⟩], none⟩
    | _ :: value, true => .ok ⟨[⟨switch.key, String.ofList value⟩], none⟩
    | _ :: _, false => .error (.unexpectedValue ("--" ++ name))

/-- The switches of an argument, or nothing if it is a plain one. -/
def parseSwitches? (known : List (Switch α)) (argument : String) :
    Option (Except UsageProblem (Cluster α)) :=
  match argument.toList with
  | '-' :: '-' :: name => some (parseLong known name)
  | '-' :: letter :: rest => some (parseLetters known (letter :: rest))
  | _ => none

/-- Splits arguments. A command whose switches all come first leaves everything from its first
plain argument on as it is. -/
def parseArguments (known : List (Switch α)) (switchesFirst : Bool) :
    List String → Except UsageProblem (Parsed α)
  | [] => .ok ⟨[], []⟩
  | argument :: rest =>
    if argument == "--" then .ok ⟨[], rest⟩
    else
      match parseSwitches? known argument with
      | none =>
        if switchesFirst then .ok ⟨[], argument :: rest⟩
        else
          (parseArguments known switchesFirst rest).map fun parsed =>
            { parsed with plain := argument :: parsed.plain }
      | some (.error problem) => .error problem
      | some (.ok ⟨complete, none⟩) =>
        (parseArguments known switchesFirst rest).map fun parsed =>
          { parsed with switches := complete ++ parsed.switches }
      | some (.ok ⟨complete, some switch⟩) =>
        match rest with
        | [] => .error (.missingValue ("--" ++ switch.name))
        | value :: others =>
          (parseArguments known switchesFirst others).map fun parsed =>
            { parsed with switches := complete ++ ⟨switch.key, value⟩ :: parsed.switches }

namespace Parsed

variable [DecidableEq α]

/-- Whether a switch is given. -/
def has (parsed : Parsed α) (key : α) : Bool :=
  parsed.switches.any fun found => found.key = key

/-- Whether a switch is given, and not after another one. -/
def isBefore (parsed : Parsed α) (key other : α) : Bool :=
  (parsed.switches.find? fun found => found.key = key || found.key = other).any fun found =>
    found.key = key

/-- All values of a switch, in order. -/
def values (parsed : Parsed α) (key : α) : List String :=
  (parsed.switches.filter fun found => found.key = key).map Found.value

/-- The last value of a switch. -/
def lastValue? (parsed : Parsed α) (key : α) : Option String :=
  (parsed.values key).getLast?

end Parsed

end ByteMachine.CommandLine
