import ByteMachine.Fault
import ByteMachine.Text.Control

/-!
# Reporting trouble

A command that cannot do its work says why on the error channel and ends with an exit code: 1 for
faults of the machine, 2 for what the user can mend, and 3 for everything else. Control sequences
in the wording are left out.
-/

namespace ByteMachine.CommandLine

open Text

/-- Why a command cannot do its work. -/
inductive Trouble where
  /-- The machine stopped with a fault. -/
  | machine (fault : Fault)
  /-- An argument of the command is not acceptable. -/
  | badParameter (text : String)
  /-- A file does not exist. -/
  | notFound (text : String)
  /-- An access to a file is not permitted. -/
  | notPermitted (text : String)
  /-- A value is not acceptable. -/
  | badValue (text : String)
  /-- Anything else. -/
  | internal (text : String)
deriving DecidableEq, Repr

/-- What a command says at its end, and its exit code. -/
structure Verdict where
  /-- The exit code. -/
  exitCode : Nat
  /-- Text for the error channel. -/
  text : String
deriving DecidableEq, Repr

/-- How trouble is reported. A label, if it is not empty, names the kind of fault; in detail, an
internal error is followed by the exception being handled, of which there is none. -/
def Trouble.report (trouble : Trouble) (inDetail : Bool) (label : String) : Verdict :=
  match trouble with
  | .machine fault =>
    let opening := if label.isEmpty then "Error: " else s!"{label} error: "
    ⟨1, plainLine (opening ++ fault.message)⟩
  | .badParameter text => ⟨2, plainLine s!"Error: {text}"⟩
  | .notFound text => ⟨2, plainLine s!"Error: {text}"⟩
  | .notPermitted text => ⟨2, plainLine s!"Error: {text}"⟩
  | .badValue text => ⟨2, plainLine s!"Error: {text}"⟩
  | .internal text =>
    ⟨3, plainLine s!"Internal error: {text}" ++ if inDetail then "NoneType: None\n" else ""⟩

/-- An error of the operating system. -/
structure SystemError where
  /-- Number of the error. -/
  number : Int
  /-- Wording of the error. -/
  text : String
  /-- The path concerned. -/
  path : Option String
deriving DecidableEq, Repr

namespace SystemError

/-- Wording of an error with its number and path. -/
def message (failure : SystemError) : String :=
  s!"[Errno {failure.number}] {failure.text}" ++
    match failure.path with
    | none => ""
    | some path => ": " ++ quote path

/-- The trouble that an error is. -/
def trouble (failure : SystemError) : Trouble :=
  if failure.number = 2 then .notFound failure.message
  else if failure.number = 1 ∨ failure.number = 13 then .notPermitted failure.message
  else .internal failure.message

end SystemError

end ByteMachine.CommandLine
