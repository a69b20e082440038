import ByteMachine.Fault
import ByteMachine.Word

/-!
# Memory

Memory is a row of byte cells addressed from zero. Addresses are integers that are neither wrapped
nor clamped: an access succeeds exactly when all the cells it covers exist, and a refused access
changes nothing.
-/

namespace ByteMachine

/-- The greatest number of cells that a memory may have. -/
def maxMemorySize : Nat := 65536

/-- A number of cells that a memory may have. -/
structure MemorySize where
  /-- How many cells there are. -/
  cells : Nat
  /-- A memory has at least one cell. -/
  pos : 1 ≤ cells
  /-- A memory has no more cells than allowed. -/
  le_max : cells ≤ maxMemorySize
deriving DecidableEq, Repr

namespace MemorySize

/-- The size with a given number of cells. -/
def ofInt? (cells : Int) : Option MemorySize :=
  if h : 1 ≤ cells ∧ cells ≤ (maxMemorySize : Int) then
    some ⟨cells.toNat, by omega, by omega⟩
  else none

/-- Wording of the refusal of a size. -/
def refusal (cells : Int) : String :=
  s!"Memory size must be 1-{maxMemorySize}, got {cells}"

end MemorySize

/-- A row of byte cells. -/
structure Memory where
  /-- The cells by increasing address. -/
  cells : Array UInt8
deriving DecidableEq, Repr

namespace Memory

/-- A memory in which every cell holds zero. -/
def zeroed (size : MemorySize) : Memory :=
  ⟨Array.replicate size.cells 0⟩

/-- Number of cells. -/
def size (memory : Memory) : Nat :=
  memory.cells.size

/-- The `width` cells from `address` on all exist. -/
def Covers (memory : Memory) (address : Int) (width : Nat) : Prop :=
  0 ≤ address ∧ address + width ≤ memory.size

instance (memory : Memory) (address : Int) (width : Nat) :
    Decidable (memory.Covers address width) :=
  inferInstanceAs (Decidable (_ ∧ _))

/-- The fault of an access that is not covered. -/
def refusal (memory : Memory) (address : Int) (width : Nat) : Fault :=
  .outsideMemory address memory.size width

/-- The byte in a cell that exists. -/
def cell (memory : Memory) (index : Nat) : UInt8 :=
  memory.cells.getD index 0

/-- Writes bytes into the cells from an index on. -/
def overwrite (memory : Memory) (index : Nat) : List UInt8 → Memory
  | [] => memory
  | byte :: rest => overwrite ⟨memory.cells.setIfInBounds index byte⟩ (index + 1) rest

/-- Reads one byte. -/
def readByte (memory : Memory) (address : Int) : Except Fault UInt8 :=
  if memory.Covers address 1 then .ok (memory.cell address.toNat)
  else .error (memory.refusal address 1)

/-- Writes the low eight bits of a value. -/
def writeByte (memory : Memory) (address value : Int) : Except Fault Memory :=
  if memory.Covers address 1 then .ok (memory.overwrite address.toNat [UInt8.ofInt value])
  else .error (memory.refusal address 1)

/-- Reads a word, its high byte first. -/
def readWord (memory : Memory) (address : Int) : Except Fault Nat :=
  if memory.Covers address 2 then
    .ok (Word.join (memory.cell address.toNat) (memory.cell (address.toNat + 1)))
  else .error (memory.refusal address 2)

/-- Writes the low sixteen bits of a value, the high byte first. -/
def writeWord (memory : Memory) (address value : Int) : Except Fault Memory :=
  if memory.Covers address 2 then
    .ok (memory.overwrite address.toNat [Word.high value, Word.low value])
  else .error (memory.refusal address 2)

/-- Copies a block of bytes into memory. An empty block goes anywhere. -/
def load (memory : Memory) (block : List UInt8) (address : Int) : Except Fault Memory :=
  if block.isEmpty then .ok memory
  else if memory.Covers address block.length then .ok (memory.overwrite address.toNat block)
  else .error (memory.refusal address block.length)

/-- Reads `count` bytes, or all up to the end of memory. -/
def dump (memory : Memory) (address : Int) (count : Option Int) : Except Fault (List UInt8) :=
  let wanted := count.getD (memory.size - address)
  if wanted ≤ 0 then .ok []
  else if memory.Covers address wanted.toNat then
    .ok ((memory.cells.toList.drop address.toNat).take wanted.toNat)
  else .error (memory.refusal address wanted.toNat)

/-- Fills memory with zeros. -/
def clear (memory : Memory) : Memory :=
  ⟨Array.replicate memory.size 0⟩

end Memory

end ByteMachine
