import ByteMachine.Machine.Step

/-!
# Running a program

A run executes instructions until the machine halts, a hook of the debugger stops it, or it has
executed as many as allowed. A stop before an instruction is remembered, and the next run executes
that instruction without looking at the hooks again.

Without a limit a run may go on for ever, so it is given a supply of steps and has no event when
the supply is used up.
-/

namespace ByteMachine.Machine

variable {δ : Type}

/-- Ends a run with an event. -/
def finish (event : Event) : Action (Machine δ) (Option Event) := do
  modify fun machine => { machine with lastEvent := some event }.note (.stopped event)
  return some event

/-- Ends a run that has used up its budget, which is its limit if it has one. -/
def finishBudget (limit : Option Int) : Action (Machine δ) (Option Event) := do
  match limit with
  | none => return none
  | some steps =>
    let machine ← get
    finish (.stepLimit machine.pc.toNat steps)

/-- Looks for a reason to stop before the next instruction, unless the machine resumes there. -/
def checkBefore (resume : Option UInt8) : Action (Machine δ) (Option Event) := fun machine =>
  if resume = some machine.pc then .ok none machine
  else
    match machine.debugger.checkInstruction machine.registerFile machine.pc.toNat with
    | .error fault => .error fault machine
    | .ok (debugger, none) => .ok none { machine with debugger := debugger }
    | .ok (debugger, some event) =>
      .ok (some event) { machine with debugger := debugger, resumeAt := some machine.pc }

/-- Looks for a reason to stop after an instruction. -/
def checkAfter : Action (Machine δ) (Option Event) := fun machine =>
  match machine.writeStop, machine.status with
  | some event, _ => .ok (some event) { machine with writeStop := none }
  | none, .halted => .ok (some (.ranToHalt machine.lastAddress.toNat machine.steps)) machine
  | none, .running => .ok none machine

/-- Executes instructions as long as the budget lasts. Only the first one can resume a stop. -/
def runLoop [Device δ] (limit : Option Int) :
    Nat → Option UInt8 → Action (Machine δ) (Option Event)
  | 0, _ => finishBudget limit
  | budget + 1, resume => do
    match ← checkBefore resume with
    | some event => finish event
    | none =>
      let _ ← step
      match ← checkAfter with
      | some event => finish event
      | none => runLoop limit budget none

/-- Runs a machine. The limit is the one given, or else that of the configuration; the supply of
steps matters only where there is no limit at all. -/
def run [Device δ] (supply : Nat) (maxSteps : Option Int) : Action (Machine δ) (Option Event) := do
  let machine ← get
  if machine.status = .halted then throw .alreadyHalted
  let limit := maxSteps.or (machine.config.maxSteps.map Int.ofNat)
  set { machine with resumeAt := none }
  runLoop limit ((limit.map Int.toNat).getD supply) machine.resumeAt

/-- Loads a program into a machine that was just switched on, and runs it. -/
def runProgram [Device δ] (supply : Nat) (program : List UInt8) (maxSteps : Option Int) :
    Action (Machine δ) (Option Event) := do
  load program 0
  run supply maxSteps

end ByteMachine.Machine
