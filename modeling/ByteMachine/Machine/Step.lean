import ByteMachine.Arithmetic
import ByteMachine.Machine

/-!
# Executing an instruction

An instruction is fetched byte by byte, each fetch advancing the program counter, and checked as it
is fetched. When it fails, the machine keeps what it has done up to there and does not count the
step.
-/

namespace ByteMachine.Machine

variable {δ : Type}

/-- Changes the registers. -/
def update (change : Registers → Registers) : Action (Machine δ) Unit :=
  modify fun machine => { machine with registers := change machine.registers }

/-- Reads the byte at the program counter and advances the counter. -/
def fetch : Action (Machine δ) UInt8 := fun machine =>
  match machine.memory.readByte machine.pc.toNat with
  | .error fault => .error fault machine
  | .ok byte =>
    .ok byte { machine with registers := { machine.registers with pc := machine.pc + 1 } }

/-- Fetches the width of an instruction, which is a byte where there are no width tags. -/
def fetchWidth (opcode : Opcode) : Action (Machine δ) Width := do
  let machine ← get
  if machine.variant.isTagged then
    let tag ← fetch
    match Width.ofTag? tag with
    | some width => return width
    | none => throw (.invalidWidth opcode.mnemonic tag.toNat (some machine.pc.toNat))
  else return .byte

/-- Fetches a register number and finds the register. -/
def fetchRegister : Action (Machine δ) Register := do
  let number ← fetch
  let machine ← get
  match machine.variant.registerSet.resolve number.toNat with
  | .ok register => return register
  | .error fault => throw fault

/-- Reads memory for the program. -/
def readCell (address : UInt8) : Action (Machine δ) UInt8 := fun machine =>
  match machine.memory.readByte address.toNat with
  | .error fault => .error fault machine
  | .ok byte => .ok byte machine

/-- Writes memory for the program, minding the watched addresses. -/
def writeCell (address value : UInt8) : Action (Machine δ) Unit := fun machine =>
  match machine.memory.writeByte address.toNat value.toNat with
  | .error fault => .error fault machine
  | .ok memory =>
    let checked := machine.debugger.checkWrite address.toNat value.toNat
    .ok ()
      { machine with
        memory := memory
        debugger := checked.1
        writeStop := checked.2 }

/-- The machine after a call of its device. -/
def afterCall {α : Type} (machine : Machine δ) (reply : Device.Reply δ α) : Machine δ :=
  { machine with
    device := reply.device
    debugger :=
      if reply.requestsBreak then machine.debugger.requestBreak else machine.debugger }

/-- A reading as a number that fits a width. -/
def acceptReading (width : Width) (reading : Reading) : Except Device.Problem Nat :=
  match reading.number? with
  | none => .error (.refused reading width.limit)
  | some value =>
    if 0 ≤ value ∧ value ≤ width.limit then .ok value.toNat
    else .error (.refused reading width.limit)

/-- Reads a number from the device. -/
def readDevice [Device δ] (width : Width) : Action (Machine δ) Nat := fun machine =>
  match Device.read? width machine.device with
  | none => .error (.device (Device.readName width) .missing) machine
  | some reply =>
    match reply.result with
    | .error failure =>
      .error (.device (Device.readName width) (.failed failure)) (machine.afterCall reply)
    | .ok reading =>
      match acceptReading width reading with
      | .error problem => .error (.device (Device.readName width) problem) (machine.afterCall reply)
      | .ok value => .ok value (machine.afterCall reply)

/-- Writes a number to the device. -/
def writeDevice [Device δ] (width : Width) (value : Nat) : Action (Machine δ) Unit := fun machine =>
  match Device.write? width value machine.device with
  | none => .error (.device (Device.writeName width) .missing) machine
  | some reply =>
    match reply.result with
    | .error failure =>
      .error (.device (Device.writeName width) (.failed failure)) (machine.afterCall reply)
    | .ok () => .ok () (machine.afterCall reply)

/-- Jumps to the address that is fetched, if a test of the registers succeeds. -/
def jumpIf (test : Registers → Bool) : Action (Machine δ) Unit := do
  let target ← fetch
  update fun registers => if test registers then { registers with pc := target } else registers

/-- Executes an instruction whose opcode has been fetched. -/
def perform [Device δ] : Opcode → Action (Machine δ) Unit
  | .nop => return ()
  | .inp => do
    let width ← fetchWidth .inp
    let value ← readDevice width
    update (·.store width value)
  | .out => do
    let width ← fetchWidth .out
    let machine ← get
    writeDevice width (machine.registers.operand width)
  | .put => do
    let register ← fetchRegister
    let address ← fetch
    let machine ← get
    writeCell address (machine.registers.get register)
  | .get => do
    let register ← fetchRegister
    let address ← fetch
    let byte ← readCell address
    update (·.set register byte)
  | .add => do
    update (·.clearFlags)
    let value ← fetch
    update (·.addLiteral value)
  | .sub => do
    update (·.clearFlags)
    let value ← fetch
    update (·.subtractLiteral value)
  | .inc => do
    let width ← fetchWidth .inc
    update (·.increment width)
  | .dec => update (·.decrement)
  | .jmp => jumpIf fun _ => true
  | .jmz => jumpIf (·.flag .zero)
  | .jmn => jumpIf (·.flag .sign)
  | .halt => modify fun machine => { machine with status := .halted }

/-- Passes over a byte that is no opcode, unless that is a fault. -/
def skip (address opcode : UInt8) : Action (Machine δ) Unit := fun machine =>
  if machine.config.strictOpcodes then
    .error (.unknownOpcode opcode.toNat (some address.toNat)) machine
  else .ok () (machine.note (.skipped address opcode))

/-- Executes the instruction that begins with a byte fetched from an address. -/
def execute [Device δ] (address opcode : UInt8) : Action (Machine δ) Unit :=
  match Opcode.ofByte? opcode with
  | some known => perform known
  | none => skip address opcode

/-- Notes a fetch and lets the observer ask for a break. -/
def observe (address opcode : UInt8) (machine : Machine δ) : Machine δ :=
  let observer := machine.observer.tell address opcode
  { machine with
    observer := observer
    lastAddress := address
    debugger := if observer.wantsBreak then machine.debugger.requestBreak else machine.debugger
    journal := .fetched address opcode :: machine.journal }

/-- The event of a step that began at an address. -/
def stepEvent (address : UInt8) (machine : Machine δ) : Event :=
  match machine.status with
  | .halted => .steppedToHalt address.toNat
  | .running => .stepped machine.pc.toNat

/-- Executes one instruction, whatever the debugger says. -/
def step [Device δ] : Action (Machine δ) Event := do
  let machine ← get
  if machine.status = .halted then throw .alreadyHalted
  let address := machine.pc
  set { machine with writeStop := none }
  let opcode ← fetch
  modify (observe address opcode)
  execute address opcode
  modify fun executed => { executed with steps := executed.steps + 1 }
  return stepEvent address (← get)

end ByteMachine.Machine
