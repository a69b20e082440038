/-!
# Control sequences

A control sequence tells a terminal how to show the text that follows it. It consists of an escape
character and an opening bracket, any parameter characters, any intermediate characters after them,
and one final character. Text that is shown elsewhere than on a terminal goes without its control
sequences; a sequence that is not complete is text like any other.
-/

namespace ByteMachine.Text

/-- A parameter character of a control sequence: a digit or one of `:;<=>?`. -/
def isParameter (c : Char) : Bool :=
  0x30 ≤ c.toNat && c.toNat ≤ 0x3F

/-- An intermediate character of a control sequence: the space or a mark before the digits. -/
def isIntermediate (c : Char) : Bool :=
  0x20 ≤ c.toNat && c.toNat ≤ 0x2F

/-- A final character of a control sequence: a letter or a mark after the digits. -/
def isFinal (c : Char) : Bool :=
  0x40 ≤ c.toNat && c.toNat ≤ 0x7E

/-- Length of what follows the opening bracket of a control sequence, if it is complete. -/
def controlTail? (text : List Char) : Option Nat :=
  let afterParameters := text.dropWhile isParameter
  match afterParameters.dropWhile isIntermediate with
  | [] => none
  | c :: rest => if isFinal c then some (text.length - rest.length) else none

/-- Length of the control sequence with which a text begins, or zero if there is none. -/
def controlLength : List Char → Nat
  | '\x1b' :: '[' :: rest =>
    match controlTail? rest with
    | some length => length + 2
    | none => 0
  | _ => 0

/-- The characters of a text that belong to no control sequence, where the first `inside` of them
belong to one that began before. -/
def dropControls : Nat → List Char → List Char
  | _, [] => []
  | inside + 1, _ :: rest => dropControls inside rest
  | 0, c :: rest =>
    match controlLength (c :: rest) with
    | 0 => c :: dropControls 0 rest
    | length + 1 => dropControls length rest

/-- A text without its control sequences. -/
def withoutControls (text : String) : String :=
  String.ofList (dropControls 0 text.toList)

/-- A line with its end, as it is shown elsewhere than on a terminal. -/
def plainLine (text : String) : String :=
  withoutControls text ++ "\n"

end ByteMachine.Text
