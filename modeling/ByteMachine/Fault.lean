import ByteMachine.Device.Reading
import ByteMachine.Register
import ByteMachine.Text.Hex

/-!
# Faults

A fault is what stops a machine or an access to it. Every fault carries what it is about, and
`Fault.message` words it.
-/

namespace ByteMachine

open Text

/-- A reason why the machine cannot do what it is asked. -/
inductive Fault where
  /-- A failure described in words only. -/
  | general (texts : List String)
  /-- An access of `width` cells at `address` leaves a memory of `size` cells; the description, if
  it is not empty, replaces the usual one. -/
  | memoryAccess (address size width : Int) (description : String)
  /-- A register that does not exist, or that the named variant lacks. -/
  | register (reference : Register.Reference) (variant : Option String)
  /-- A byte that cannot be decoded, for a reason in words. -/
  | decode (value : Int) (address : Option Int) (description : String)
  /-- A byte that is no opcode. -/
  | unknownOpcode (value : Int) (address : Option Int)
  /-- A width tag that names no width. -/
  | invalidWidth (mnemonic : String) (value : Int) (address : Option Int)
  /-- A call of a device that came to nothing. -/
  | device (operation : String) (problem : Device.Problem)
  /-- Execution was asked of a machine that has halted. -/
  | halted (description : String)
deriving DecidableEq, Repr

namespace Fault

/-- The access leaves memory. -/
def outsideMemory (address size width : Int) : Fault :=
  .memoryAccess address size width ""

/-- The machine has halted. -/
def alreadyHalted : Fault :=
  .halted "machine is halted; call reset() first"

/-- What an access of some cells is called. -/
def accessKind (width : Int) : String :=
  if width = 1 then "byte" else if width = 2 then "word" else s!"{width}-byte block"

/-- A description after the address that it concerns, if that is known. -/
def located (address : Option Int) (description : String) : String :=
  match address with
  | none => description
  | some place => s!"${hex 2 place}: {description}"

/-- Wording of a fault. -/
def message : Fault → String
  | .general texts => together texts
  | .memoryAccess address size width description =>
    if description.isEmpty then
      s!"{accessKind width} access at ${hex 4 address} is outside memory " ++
        s!"(size {size}, valid $0000-${hex 4 (size - 1)})"
    else description
  | .register reference variant =>
    match variant with
    | none => s!"unknown register id {reference.text}"
    | some name =>
      if name.isEmpty then s!"unknown register id {reference.text}"
      else s!"register {reference.text} is not available on the {name} variant"
  | .decode _ address description => located address description
  | .unknownOpcode value address => located address s!"unknown opcode ${hex 2 value}"
  | .invalidWidth mnemonic value address =>
    located address s!"invalid width tag ${hex 2 value} for {mnemonic}"
  | .device operation problem => problem.message operation
  | .halted description => description

end Fault

/-- An action on a state that gives a result, or a fault and the state as far as it got. -/
abbrev Action (σ α : Type) : Type :=
  EStateM Fault σ α

end ByteMachine
