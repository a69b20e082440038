/-!
# Instruction set

An instruction is an opcode byte followed by its operand bytes. On machines with words, the
instructions for input, output and increment carry a width tag before any other operand.
-/

namespace ByteMachine

/-- Number of bits an instruction acts on. -/
inductive Width where
  /-- Eight bits. -/
  | byte
  /-- Sixteen bits. -/
  | word
deriving DecidableEq, Repr

namespace Width

/-- The byte that stands for a width in a program. -/
def tag : Width → UInt8
  | .byte => 1
  | .word => 2

/-- The width with a given tag. -/
def ofTag? (tag : UInt8) : Option Width :=
  [Width.byte, .word].find? fun width => width.tag == tag

/-- Name of a width in listings and of the operations of a device. -/
def name : Width → String
  | .byte => "byte"
  | .word => "word"

/-- Greatest value of a width. -/
def limit : Width → Nat
  | .byte => 255
  | .word => 65535

end Width

/-- How an operand byte is understood. -/
inductive OperandKind where
  /-- A width tag. -/
  | width
  /-- A literal value. -/
  | immediate
  /-- A register number. -/
  | register
  /-- A memory address or the target of a jump. -/
  | address
deriving DecidableEq, Repr

/-- Name of an operand kind. -/
def OperandKind.name : OperandKind → String
  | .width => "width"
  | .immediate => "immediate"
  | .register => "register"
  | .address => "address"

/-- An instruction without its operands. -/
inductive Opcode where
  /-- Do nothing. -/
  | nop
  /-- Read input. -/
  | inp
  /-- Write output. -/
  | out
  /-- Store a register in memory. -/
  | put
  /-- Load a register from memory. -/
  | get
  /-- Add a literal to A. -/
  | add
  /-- Subtract a literal from A. -/
  | sub
  /-- Add one. -/
  | inc
  /-- Subtract one. -/
  | dec
  /-- Jump. -/
  | jmp
  /-- Jump if the zero flag is set. -/
  | jmz
  /-- Jump if the sign flag is set. -/
  | jmn
  /-- Halt. -/
  | halt
deriving DecidableEq, Repr

namespace Opcode

/-- Every opcode, by increasing code. -/
def all : List Opcode :=
  [.nop, .inp, .out, .put, .get, .add, .sub, .inc, .dec, .jmp, .jmz, .jmn, .halt]

/-- The byte that stands for an opcode. -/
def code : Opcode → UInt8
  | .nop => 0x00
  | .inp => 0x01
  | .out => 0x02
  | .put => 0x03
  | .get => 0x04
  | .add => 0x05
  | .sub => 0x06
  | .inc => 0x07
  | .dec => 0x08
  | .jmp => 0x09
  | .jmz => 0x0A
  | .jmn => 0x0B
  | .halt => 0xFF

/-- The opcode that a byte stands for. -/
def ofByte? (byte : UInt8) : Option Opcode :=
  all.find? fun opcode => opcode.code == byte

/-- The opcode with a given code. -/
def ofInt? (code : Int) : Option Opcode :=
  all.find? fun opcode => (opcode.code.toNat : Int) == code

/-- Name of an opcode in listings. -/
def mnemonic : Opcode → String
  | .nop => "NOP"
  | .inp => "INP"
  | .out => "OUT"
  | .put => "PUT"
  | .get => "GET"
  | .add => "ADD"
  | .sub => "SUB"
  | .inc => "INC"
  | .dec => "DEC"
  | .jmp => "JMP"
  | .jmz => "JMZ"
  | .jmn => "JMN"
  | .halt => "END"

/-- Summary of what an opcode does. -/
def description : Opcode → String
  | .nop => "no operation"
  | .inp => "read input into A (or B:C)"
  | .out => "write A (or B:C) to output"
  | .put => "store register to memory"
  | .get => "load register from memory"
  | .add => "A <- A + imm"
  | .sub => "A <- A - imm"
  | .inc => "increment A (or B:C)"
  | .dec => "decrement A"
  | .jmp => "jump"
  | .jmz => "jump if zero flag set"
  | .jmn => "jump if sign flag set"
  | .halt => "halt"

/-- Whether an opcode carries a width tag on machines that have them. -/
def isSized : Opcode → Bool
  | .inp | .out | .inc => true
  | _ => false

/-- The operands of an opcode in the order of their bytes, without the width tag. -/
def operands : Opcode → List OperandKind
  | .put | .get => [.register, .address]
  | .add | .sub => [.immediate]
  | .jmp | .jmz | .jmn => [.address]
  | _ => []

/-- The operands of an opcode on a machine with or without width tags. -/
def operandKinds (tagged : Bool) (opcode : Opcode) : List OperandKind :=
  if opcode.isSized && tagged then .width :: opcode.operands else opcode.operands

/-- Number of bytes of an instruction, the opcode included. -/
def size (tagged : Bool) (opcode : Opcode) : Nat :=
  1 + (opcode.operandKinds tagged).length

end Opcode

end ByteMachine
