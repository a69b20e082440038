import ByteMachine.Device.Reading
import ByteMachine.Opcode

/-!
# Devices

A machine does all its input and output through a device. A device need not have every operation,
each call may fail, and a call may ask the machine to break before its next instruction. It cannot
touch the machine in any other way.
-/

namespace ByteMachine

namespace Device

/-- What a call of a device leaves behind. -/
structure Reply (δ α : Type) where
  /-- The device after the call. -/
  device : δ
  /-- The value of the call, or how it failed. -/
  result : Except Failure α
  /-- The device asks for a break. -/
  requestsBreak : Bool

/-- Name of the operation that reads a value. -/
def readName (width : Width) : String := s!"read_{width.name}"

/-- Name of the operation that writes a value. -/
def writeName (width : Width) : String := s!"write_{width.name}"

end Device

/-- The operations of a kind of device; an operation that a device lacks gives nothing. -/
class Device (δ : Type) where
  /-- Asks for a value of some width. -/
  read? : Width → δ → Option (Device.Reply δ Reading)
  /-- Hands over a value of some width. -/
  write? : Width → Nat → δ → Option (Device.Reply δ Unit)

namespace Device

variable {δ : Type} [Device δ]

/-- A device can be read and written at some width. -/
def supports (width : Width) (device : δ) : Bool :=
  (read? width device).isSome && (write? width 0 device).isSome

end Device

end ByteMachine
