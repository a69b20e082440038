import ByteMachine.Config
import ByteMachine.Debugger
import ByteMachine.Device
import ByteMachine.Machine.Journal

/-!
# The machine

The state of a machine with its device and debugger, and the accesses to it from outside. Accesses
take integers of any size. They never count as steps and never set off a watched address.
-/

namespace ByteMachine

open Text

/-- Whether a machine can go on. -/
inductive Status where
  /-- It can execute instructions. -/
  | running
  /-- It has executed its last instruction. -/
  | halted
deriving DecidableEq, Repr

/-- Name of a status. -/
def Status.name : Status → String
  | .running => "RUNNING"
  | .halted => "HALTED"

/-- An observer is told of every fetch and may ask for a break. What it does can depend on all that
it was told before. -/
structure Observer where
  /-- The observer asks for a break, given addresses and opcodes it was told of, latest first. -/
  asks : List (UInt8 × UInt8) → Bool
  /-- What it was told so far. -/
  told : List (UInt8 × UInt8)

namespace Observer

/-- An observer that looks at the latest fetch only. -/
def ofFetch (asks : UInt8 → UInt8 → Bool) : Observer where
  asks := fun
    | [] => false
    | (address, opcode) :: _ => asks address opcode
  told := []

instance : Coe (UInt8 → UInt8 → Bool) Observer := ⟨ofFetch⟩

/-- An observer that never asks for a break. -/
def silent : Observer := ofFetch fun _ _ => false

/-- Tells an observer of a fetch. -/
def tell (observer : Observer) (address opcode : UInt8) : Observer :=
  { observer with told := (address, opcode) :: observer.told }

/-- An observer asks for a break because of what it was told. -/
def wantsBreak (observer : Observer) : Bool :=
  observer.asks observer.told

end Observer

/-- A machine with a device of type `δ`. -/
structure Machine (δ : Type) where
  /-- How it was configured. -/
  config : Config
  /-- The device for input and output. -/
  device : δ
  /-- The observer of its fetches. -/
  observer : Observer
  /-- Contents of memory. -/
  memory : Memory
  /-- Values of the registers. -/
  registers : Registers
  /-- Breakpoints, watched addresses and conditions. -/
  debugger : Debugger
  /-- Whether it can go on. -/
  status : Status
  /-- Instructions executed since the start or the last reset. -/
  steps : Nat
  /-- Address from which an opcode was fetched last. -/
  lastAddress : UInt8
  /-- The event that ended the last run. -/
  lastEvent : Option Event
  /-- Where the last run stopped before an instruction that the next run executes unchecked. -/
  resumeAt : Option UInt8
  /-- The event of a watched write by the instruction executed last. -/
  writeStop : Option Event
  /-- What has happened, the latest first. -/
  journal : List Occurrence

namespace Machine

variable {δ : Type}

/-- A machine as it is switched on. -/
def start (config : Config) (device : δ) : Machine δ where
  config := config
  device := device
  observer := .silent
  memory := .zeroed config.effectiveMemorySize
  registers := .zeroed
  debugger := .empty (some config.variant)
  status := .running
  steps := 0
  lastAddress := 0
  lastEvent := none
  resumeAt := none
  writeStop := none
  journal := []

/-- Variant of a machine. -/
def variant (machine : Machine δ) : Variant :=
  machine.config.variant

/-- The registers of a machine that can be named. -/
def registerFile (machine : Machine δ) : RegisterFile :=
  ⟨machine.variant.registerSet, machine.registers⟩

/-- The program counter. -/
def pc (machine : Machine δ) : UInt8 :=
  machine.registers.pc

/-- Notes an occurrence. -/
def note (machine : Machine δ) (occurrence : Occurrence) : Machine δ :=
  { machine with journal := occurrence :: machine.journal }

/-- Changes memory. -/
def onMemory (change : Memory → Except Fault Memory) : Action (Machine δ) Unit := fun machine =>
  match change machine.memory with
  | .error fault => .error fault machine
  | .ok memory => .ok () { machine with memory := memory }

/-- Acts on the registers. -/
def onRegisters {α : Type} (action : Action RegisterFile α) : Action (Machine δ) α := fun machine =>
  match action machine.registerFile with
  | .error fault file => .error fault { machine with registers := file.values }
  | .ok result file => .ok result { machine with registers := file.values }

/-- Writes a byte of memory. -/
def writeByte (address value : Int) : Action (Machine δ) Unit :=
  onMemory (·.writeByte address value)

/-- Writes a word of memory. -/
def writeWord (address value : Int) : Action (Machine δ) Unit :=
  onMemory (·.writeWord address value)

/-- Loads a program image. -/
def load (image : List UInt8) (address : Int) : Action (Machine δ) Unit := do
  onMemory (·.load image address)
  modify (·.note (.loaded image.length address))

/-- Fills memory with zeros. -/
def clearMemory (machine : Machine δ) : Machine δ :=
  { machine with memory := machine.memory.clear }

/-- Writes a register by its number. -/
def writeRegister (number value : Int) : Action (Machine δ) Unit :=
  onRegisters (RegisterFile.write number value)

/-- Writes the pair B:C. -/
def writePair (value : Int) : Action (Machine δ) Unit :=
  onRegisters (RegisterFile.writePair value)

/-- Sets the program counter. -/
def setPc (value : Int) : Action (Machine δ) Unit :=
  writeRegister Register.pc.number value

/-- Sets or clears the flags of a mask; setting fails for a mask that does not fit a byte. -/
def updateMask? (machine : Machine δ) (mask : Int) (on : Bool) : Option (Machine δ) :=
  (machine.registers.updateMask? mask on).map fun registers =>
    { machine with registers := registers }

/-- Clears every flag. -/
def clearFlags (machine : Machine δ) : Machine δ :=
  { machine with registers := machine.registers.clearFlags }

/-- Changes the debugger. -/
def onDebugger (machine : Machine δ) (change : Debugger → Debugger) : Machine δ :=
  { machine with debugger := change machine.debugger }

/-- Switches a machine off and on again. Its hooks stay, and so does memory unless it is to be
cleared. -/
def reset (machine : Machine δ) (clearsMemory : Bool) : Machine δ :=
  { machine with
    memory := if clearsMemory then machine.memory.clear else machine.memory
    registers := .zeroed
    debugger := machine.debugger.clearRequest
    status := .running
    steps := 0
    lastEvent := none
    resumeAt := none
    writeStop := none }

/-- The registers of a machine with their values, and the pair B:C where there are words. -/
def registerReport (machine : Machine δ) : List (String × Nat) :=
  machine.registerFile.entries.map (fun entry => (entry.1.key, entry.2.toNat)) ++
    match machine.variant with
    | .byte => []
    | .word => [("bc", machine.registers.pair)]

/-- The flags of a machine. -/
def flagReport (machine : Machine δ) : List (String × Bool) :=
  Flag.all.map fun flag => (flag.key, machine.registers.flag flag)

/-- One line about a machine. -/
def summary (machine : Machine δ) : String :=
  s!"VirtualMachine(variant={machine.variant.code}, pc=${hex 2 machine.pc.toNat}, " ++
    s!"state={machine.status.name}, steps={machine.steps})"

/-- Addresses and opcodes of all fetches, in order. -/
def trace (machine : Machine δ) : List (UInt8 × UInt8) :=
  machine.journal.reverse.filterMap Occurrence.fetch?

/-- The log of a machine, in order. -/
def log (machine : Machine δ) : List LogRecord :=
  machine.journal.reverse.map Occurrence.logRecord

end Machine

end ByteMachine
