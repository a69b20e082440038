/-!
# Registers and flags

Every register holds one byte and has a number by which programs name it. The flag register holds
one bit for each flag.
-/

namespace ByteMachine

/-- A register of the machine. -/
inductive Register where
  /-- Accumulator. -/
  | a
  /-- Second operand, and high byte of the pair B:C. -/
  | b
  /-- Low byte of the pair B:C. -/
  | c
  /-- General purpose. -/
  | d
  /-- Program counter. -/
  | pc
  /-- Flags. -/
  | fl
  /-- Index. -/
  | i
deriving DecidableEq, Repr

namespace Register

/-- Every register, by increasing number. -/
def all : List Register := [.a, .b, .c, .d, .pc, .fl, .i]

/-- Number of a register in a program. -/
def number : Register → Nat
  | .a => 1
  | .b => 2
  | .c => 3
  | .d => 4
  | .pc => 5
  | .fl => 6
  | .i => 7

/-- The register with a given number. -/
def ofNumber? (number : Int) : Option Register :=
  all.find? fun register => (register.number : Int) == number

/-- Name of a register in listings and messages. -/
def name : Register → String
  | .a => "A"
  | .b => "B"
  | .c => "C"
  | .d => "D"
  | .pc => "PC"
  | .fl => "FL"
  | .i => "I"

/-- Name of a register in reports and conditions. -/
def key : Register → String
  | .a => "a"
  | .b => "b"
  | .c => "c"
  | .d => "d"
  | .pc => "pc"
  | .fl => "fl"
  | .i => "i"

/-- A register as a message names it. -/
inductive Reference where
  /-- A number that was asked for. -/
  | numbered (value : Int)
  /-- A register that exists. -/
  | named (register : Register)
deriving DecidableEq, Repr

namespace Reference

/-- The number referred to. -/
def value : Reference → Int
  | .numbered value => value
  | .named register => register.number

/-- Wording of a reference. -/
def text : Reference → String
  | .numbered value => toString value
  | .named register => register.name

end Reference

end Register

/-- A flag of the flag register. -/
inductive Flag where
  /-- The last result was negative. -/
  | sign
  /-- The last result was zero. -/
  | zero
  /-- The last result exceeded the signed maximum. -/
  | overflow
deriving DecidableEq, Repr

namespace Flag

/-- Every flag, by increasing bit. -/
def all : List Flag := [.sign, .zero, .overflow]

/-- Bit of a flag in the flag register. -/
def mask : Flag → UInt8
  | .sign => 1
  | .zero => 2
  | .overflow => 4

/-- Name of a flag in reports and conditions. -/
def key : Flag → String
  | .sign => "sf"
  | .zero => "zf"
  | .overflow => "of"

end Flag

end ByteMachine
