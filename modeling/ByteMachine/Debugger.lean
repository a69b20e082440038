import ByteMachine.Debugger.Condition
import ByteMachine.Debugger.Event
import ByteMachine.Variant

/-!
# Debugger

A debugger keeps breakpoints, watched addresses and conditions, and a request to break. Before an
instruction it looks at the request, the breakpoints and the conditions, in this order; after a
write it looks at the watched addresses.
-/

namespace ByteMachine

/-- Inserts a number into an increasing list, unless it is already there. -/
def insertIncreasing (number : Int) : List Int → List Int
  | [] => [number]
  | first :: rest =>
    if number < first then number :: first :: rest
    else if number = first then first :: rest
    else first :: insertIncreasing number rest

/-- Hooks into the execution of a machine. -/
structure Debugger where
  /-- Variant of the machine, if conditions are held against it. -/
  variant : Option Variant
  /-- Addresses of breakpoints, increasing. -/
  breakpoints : List Int
  /-- Watched addresses, increasing. -/
  watchpoints : List Int
  /-- Conditions by their numbers; removed ones leave a gap. -/
  conditions : List (Option Condition)
  /-- The event found last. -/
  lastEvent : Option Event
  /-- A break is asked for. -/
  breakRequested : Bool
deriving DecidableEq, Repr

namespace Debugger

/-- A debugger without hooks. -/
def empty (variant : Option Variant) : Debugger :=
  ⟨variant, [], [], [], none, false⟩

/-- An integer reduced to an address at which instructions can stand. -/
def codeAddress (address : Int) : Int := address % 256

/-- Sets a breakpoint. -/
def addBreakpoint (debugger : Debugger) (address : Int) : Debugger :=
  { debugger with breakpoints := insertIncreasing (codeAddress address) debugger.breakpoints }

/-- Removes a breakpoint. -/
def removeBreakpoint (debugger : Debugger) (address : Int) : Debugger :=
  { debugger with breakpoints := debugger.breakpoints.filter (· != codeAddress address) }

/-- There is a breakpoint at an address. -/
def hasBreakpoint (debugger : Debugger) (address : Int) : Bool :=
  debugger.breakpoints.contains (codeAddress address)

/-- Watches writes to an address. -/
def addWatchpoint (debugger : Debugger) (address : Int) : Debugger :=
  { debugger with watchpoints := insertIncreasing address debugger.watchpoints }

/-- Watches writes to an address no longer. -/
def removeWatchpoint (debugger : Debugger) (address : Int) : Debugger :=
  { debugger with watchpoints := debugger.watchpoints.filter (· != address) }

/-- The registers that a condition reads and a variant lacks. -/
def missingRegisters (variant : Option Variant) (condition : Condition) : List Register :=
  match variant with
  | none => []
  | some known => condition.operand.registers.filter fun register => !known.has register

/-- Adds a condition and gives its number. -/
def addCondition (debugger : Debugger) (condition : Condition) :
    Except Condition.Problem (Debugger × Nat) :=
  match missingRegisters debugger.variant condition with
  | [] =>
    .ok ({ debugger with conditions := debugger.conditions ++ [some condition] },
      debugger.conditions.length)
  | missing =>
    .error (.unavailable condition.operand.name missing
      ((debugger.variant.map Variant.code).getD ""))

/-- Adds the condition that a text asks for and gives its number. -/
def addConditionText (debugger : Debugger) (operand comparison : String) (constant : Constant)
    (description : String) : Except Condition.Problem (Debugger × Nat) := do
  let condition ← Condition.parse operand comparison constant description
  debugger.addCondition condition

/-- Removes the condition with a number, if there is one. -/
def removeCondition (debugger : Debugger) (number : Int) : Debugger :=
  if 0 ≤ number then { debugger with conditions := debugger.conditions.set number.toNat none }
  else debugger

/-- Pairs the conditions of a list with their numbers, from a first number on. -/
def numbered (first : Nat) : List (Option Condition) → List (Nat × Condition)
  | [] => []
  | none :: rest => numbered (first + 1) rest
  | some condition :: rest => (first, condition) :: numbered (first + 1) rest

/-- The conditions with their numbers. -/
def listConditions (debugger : Debugger) : List (Nat × Condition) :=
  numbered 0 debugger.conditions

/-- Asks for a break before the next instruction. -/
def requestBreak (debugger : Debugger) : Debugger :=
  { debugger with breakRequested := true }

/-- Takes the request for a break back. -/
def clearRequest (debugger : Debugger) : Debugger :=
  { debugger with breakRequested := false }

/-- Removes everything. -/
def clearAll (debugger : Debugger) : Debugger :=
  empty debugger.variant

/-- Keeps an event as the last one found. -/
def record (debugger : Debugger) (event : Event) : Debugger :=
  { debugger with lastEvent := some event }

/-- The first condition of a list that holds. -/
def firstHolding? (file : RegisterFile) :
    List (Option Condition) → Except Fault (Option Condition)
  | [] => .ok none
  | none :: rest => firstHolding? file rest
  | some condition :: rest => do
    if ← condition.holds file then return some condition
    else firstHolding? file rest

/-- Looks for a reason to stop before the instruction at `pc`. Finding the request uses it up. -/
def checkInstruction (debugger : Debugger) (file : RegisterFile) (pc : Int) :
    Except Fault (Debugger × Option Event) :=
  if debugger.breakRequested then
    .ok (debugger.clearRequest.record (.interrupt pc), some (.interrupt pc))
  else if debugger.breakpoints.contains pc then
    .ok (debugger.record (.breakpoint pc), some (.breakpoint pc))
  else
    (firstHolding? file debugger.conditions).map fun found =>
      match found with
      | none => (debugger, none)
      | some condition =>
        (debugger.record (.condition pc condition.description),
          some (.condition pc condition.description))

/-- Looks for a reason to stop after a write. -/
def checkWrite (debugger : Debugger) (address value : Int) : Debugger × Option Event :=
  if debugger.watchpoints.contains address then
    (debugger.record (.memoryWrite address value), some (.memoryWrite address value))
  else (debugger, none)

end Debugger

end ByteMachine
