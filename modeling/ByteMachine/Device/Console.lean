import ByteMachine.Device
import ByteMachine.Text.Integer
import ByteMachine.Text.Line

/-!
# Console

A console asks for each number with a prompt and shows each number that is written to it. The lines
to be typed are given beforehand. An empty line is asked for again, and so is one that is no number
of the width asked for, after an error line.
-/

namespace ByteMachine

/-- A dialogue on a terminal. -/
structure Console where
  /-- The lines not yet typed. -/
  lines : List (List Char)
  /-- What the terminal shows. -/
  shown : String
deriving DecidableEq, Repr

namespace Console

/-- A dialogue in which the given text is typed. -/
def ofInput (input : String) : Console :=
  ⟨Text.terminalLines input.toList, ""⟩

/-- The prompt for a number of some width. -/
def prompt : Width → String
  | .byte => "INP: "
  | .word => "INP (word): "

/-- The failure of a read when nothing more is typed. -/
def aborted : Device.Failure := ⟨.aborted, ""⟩

/-- The number that a line gives, or the text of the error line. -/
def readLine (width : Width) (line : List Char) : Except String Nat :=
  match Text.integerOfChars? .decimal line with
  | none => .error s!"Error: {Text.quote (String.ofList line)} is not a valid integer range.\n"
  | some value =>
    if 0 ≤ value ∧ value ≤ width.limit then .ok value.toNat
    else .error s!"Error: {value} is not in the range 0<=x<={width.limit}.\n"

/-- Asks for a number until one is typed, where `shown` is on the terminal. -/
def ask (width : Width) (shown : String) :
    List (List Char) → Console × Except Device.Failure Reading
  | [] => (⟨[], shown ++ prompt width⟩, .error aborted)
  | line :: rest =>
    let echoed := shown ++ prompt width ++ String.ofList line ++ "\n"
    if line.isEmpty then ask width echoed rest
    else
      match readLine width line with
      | .ok value => (⟨rest, echoed⟩, .ok (.number value))
      | .error complaint => ask width (echoed ++ complaint) rest

end Console

instance : Device Console where
  read? width console :=
    let answer := Console.ask width console.shown console.lines
    some ⟨answer.1, answer.2, false⟩
  write? _ value console :=
    some ⟨{ console with shown := console.shown ++ s!"{value}\n" }, .ok (), false⟩

end ByteMachine
