import ByteMachine.Fault
import ByteMachine.Word

/-!
# Register file

A register file holds a byte for every register, of which only the members of its set can be
named. Flags are tested and changed by masks, which are integers of any size.
-/

namespace ByteMachine

/-- The values of all registers. -/
structure Registers where
  /-- Accumulator. -/
  a : UInt8
  /-- Second operand. -/
  b : UInt8
  /-- Low byte of the pair B:C. -/
  c : UInt8
  /-- General purpose. -/
  d : UInt8
  /-- Program counter. -/
  pc : UInt8
  /-- Flags. -/
  fl : UInt8
  /-- Index. -/
  i : UInt8
deriving DecidableEq, Repr

namespace Registers

/-- Every register holds zero. -/
def zeroed : Registers := ⟨0, 0, 0, 0, 0, 0, 0⟩

/-- Value of a register. -/
def get (registers : Registers) : Register → UInt8
  | .a => registers.a
  | .b => registers.b
  | .c => registers.c
  | .d => registers.d
  | .pc => registers.pc
  | .fl => registers.fl
  | .i => registers.i

/-- The registers with one value replaced. -/
def set (registers : Registers) (register : Register) (value : UInt8) : Registers :=
  match register with
  | .a => { registers with a := value }
  | .b => { registers with b := value }
  | .c => { registers with c := value }
  | .d => { registers with d := value }
  | .pc => { registers with pc := value }
  | .fl => { registers with fl := value }
  | .i => { registers with i := value }

/-- The pair B:C as a word. -/
def pair (registers : Registers) : Nat :=
  Word.join registers.b registers.c

/-- The registers with a word in the pair B:C. -/
def setPair (registers : Registers) (value : Int) : Registers :=
  { registers with b := Word.high value, c := Word.low value }

/-- All bits of a mask are set in the flag register. -/
def testMask (registers : Registers) (mask : Int) : Bool :=
  0 ≤ mask && registers.fl.toNat &&& mask.toNat == mask.toNat

/-- A flag is set. -/
def flag (registers : Registers) (flag : Flag) : Bool :=
  registers.testMask flag.mask.toNat

/-- Sets the bits of a mask, unless the mask does not fit a byte. -/
def setMask? (registers : Registers) (mask : Int) : Option Registers :=
  if 0 ≤ mask ∧ mask < 256 then
    some { registers with fl := registers.fl ||| UInt8.ofInt mask }
  else none

/-- Clears the bits of a mask that lie in a byte. -/
def clearMask (registers : Registers) (mask : Int) : Registers :=
  { registers with fl := registers.fl &&& ~~~(UInt8.ofInt mask) }

/-- Sets or clears the bits of a mask; setting fails for a mask that does not fit a byte. -/
def updateMask? (registers : Registers) (mask : Int) (on : Bool) : Option Registers :=
  if on then registers.setMask? mask else some (registers.clearMask mask)

/-- Clears every flag. -/
def clearFlags (registers : Registers) : Registers :=
  { registers with fl := 0 }

end Registers

/-- Wording of the refusal of a mask that does not fit the flag register. -/
def maskRefusal : String := "byte must be in range(0, 256)"

/-- The registers that a machine has, and its name in messages. -/
structure RegisterSet where
  /-- The registers that can be named, by increasing number. -/
  members : List Register
  /-- Name of the machine, if messages give one. -/
  owner : Option String
deriving DecidableEq, Repr

/-- The member of a register set with a given number. -/
def RegisterSet.resolve (registerSet : RegisterSet) (number : Int) : Except Fault Register :=
  match Register.ofNumber? number with
  | none => .error (.register (.numbered number) none)
  | some register =>
    if register ∈ registerSet.members then .ok register
    else .error (.register (.named register) registerSet.owner)

/-- A register set with the values of its registers. -/
structure RegisterFile where
  /-- The registers that can be named. -/
  layout : RegisterSet
  /-- The values of all registers. -/
  values : Registers
deriving DecidableEq, Repr

namespace RegisterFile

/-- A register file in which every register holds zero. -/
def zeroed (layout : RegisterSet) : RegisterFile :=
  ⟨layout, .zeroed⟩

/-- Reads a register by its number. -/
def read (file : RegisterFile) (number : Int) : Except Fault UInt8 :=
  (file.layout.resolve number).map file.values.get

/-- Writes the low eight bits of a value to a register. -/
def write (number value : Int) : Action RegisterFile Unit := fun file =>
  match file.layout.resolve number with
  | .error fault => .error fault file
  | .ok register => .ok () { file with values := file.values.set register (UInt8.ofInt value) }

/-- Reads the pair B:C as a word. -/
def readPair (file : RegisterFile) : Except Fault Nat := do
  let high ← file.read Register.b.number
  let low ← file.read Register.c.number
  return Word.join high low

/-- Writes a word to the pair B:C, first B and then C. -/
def writePair (value : Int) : Action RegisterFile Unit := do
  write Register.b.number (Word.high value).toNat
  write Register.c.number (Word.low value).toNat

/-- The values of the registers that can be named. -/
def entries (file : RegisterFile) : List (Register × UInt8) :=
  file.layout.members.map fun register => (register, file.values.get register)

end RegisterFile

end ByteMachine
