import ByteMachine.Text.Hex

/-!
# Events

An event says why a machine came to a stop. Its text is its message, or else a wording of its
reason, which may need the numbers that the event carries.
-/

namespace ByteMachine

open Text

/-- Why a machine came to a stop. -/
inductive StopReason where
  /-- It has halted. -/
  | halted
  /-- It reached a breakpoint. -/
  | breakpoint
  /-- It wrote to a watched address. -/
  | memoryWrite
  /-- A condition on its registers holds. -/
  | condition
  /-- It has executed the one instruction it was asked to. -/
  | step
  /-- It was asked to break. -/
  | interrupt
  /-- It has executed as many instructions as allowed. -/
  | stepLimit
deriving DecidableEq, Repr

/-- A stop of a machine. -/
structure Event where
  /-- Why it stopped. -/
  reason : StopReason
  /-- The address concerned. -/
  address : Option Int
  /-- The value written, if any. -/
  value : Option Int
  /-- Wording, or the empty text. -/
  message : String
deriving DecidableEq, Repr

namespace Event

/-- Text of an event; there is none when a number that it needs is missing. -/
def text? (event : Event) : Option String :=
  if event.message.isEmpty then
    match event.reason with
    | .halted => some "Halted"
    | .breakpoint => event.address.map fun address => s!"Breakpoint at ${hex 2 address}"
    | .memoryWrite => do
      let value ← event.value
      let address ← event.address
      return s!"Write ${hex 2 value} to ${hex 2 address}"
    | .condition => some "Register condition met"
    | .step => some "Single step"
    | .interrupt => some "User interrupt"
    | .stepLimit => some "Maximum steps reached"
  else some event.message

/-- The machine was asked to break before the instruction at `pc`. -/
def interrupt (pc : Int) : Event :=
  ⟨.interrupt, some pc, none, "User interrupt"⟩

/-- A breakpoint stands at `pc`. -/
def breakpoint (pc : Int) : Event :=
  ⟨.breakpoint, some pc, none, s!"Breakpoint at ${hex 2 pc}"⟩

/-- A condition holds before the instruction at `pc`. -/
def condition (pc : Int) (description : String) : Event :=
  ⟨.condition, some pc, none, s!"Condition: {description}"⟩

/-- A value was written to a watched address. -/
def memoryWrite (address value : Int) : Event :=
  ⟨.memoryWrite, some address, some value, s!"Write ${hex 2 value} to ${hex 2 address}"⟩

/-- One instruction was executed, and the next one is at `pc`. -/
def stepped (pc : Int) : Event :=
  ⟨.step, some pc, none, s!"Step to ${hex 2 pc}"⟩

/-- The one instruction executed, at `address`, halted the machine. -/
def steppedToHalt (address : Int) : Event :=
  ⟨.halted, some address, none, s!"Halted at ${hex 2 address}"⟩

/-- A run ended because the machine halted at `address`. -/
def ranToHalt (address : Int) (steps : Nat) : Event :=
  ⟨.halted, some address, none, s!"Halted at ${hex 2 address} after {steps} steps"⟩

/-- A run ended before `pc` because it reached its limit. -/
def stepLimit (pc limit : Int) : Event :=
  ⟨.stepLimit, some pc, none, s!"Reached max steps ({limit})"⟩

end Event

end ByteMachine
