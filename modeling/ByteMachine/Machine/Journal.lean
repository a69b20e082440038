import ByteMachine.Debugger.Event
import ByteMachine.Opcode

/-!
# Journal

A machine notes what happens to it. The fetches of the journal are the trace of a program, and its
entries are worded as records of a log.
-/

namespace ByteMachine

open Text

/-- How much a record of a log matters. -/
inductive Level where
  /-- Of use when looking for errors. -/
  | debug
  /-- Something is out of order. -/
  | warning
deriving DecidableEq, Repr

/-- Name of a level. -/
def Level.name : Level → String
  | .debug => "DEBUG"
  | .warning => "WARNING"

/-- A record of a log. -/
structure LogRecord where
  /-- How much it matters. -/
  level : Level
  /-- Its wording. -/
  text : String
deriving DecidableEq, Repr

/-- A record with its level in front. -/
def LogRecord.labelled (entry : LogRecord) : String :=
  s!"{entry.level.name}: {entry.text}"

/-- Something that happened to a machine. -/
inductive Occurrence where
  /-- A block of bytes was loaded. -/
  | loaded (bytes : Nat) (address : Int)
  /-- An opcode was fetched. -/
  | fetched (address opcode : UInt8)
  /-- A byte that is no opcode was skipped. -/
  | skipped (address opcode : UInt8)
  /-- A run came to a stop. -/
  | stopped (event : Event)
deriving DecidableEq, Repr

namespace Occurrence

/-- An opcode byte as the log names it. -/
def opcodeText (opcode : UInt8) : String :=
  match Opcode.ofByte? opcode with
  | some known => known.mnemonic
  | none => s!"${hex 2 opcode.toNat}"

/-- Wording of an occurrence. -/
def logRecord : Occurrence → LogRecord
  | .loaded bytes address => ⟨.debug, s!"Loaded {bytes} bytes at ${hex 2 address}"⟩
  | .fetched address opcode => ⟨.debug, s!"${hex 2 address.toNat}: {opcodeText opcode}"⟩
  | .skipped address opcode =>
    ⟨.warning, s!"${hex 2 address.toNat}: unknown opcode ${hex 2 opcode.toNat} skipped"⟩
  | .stopped event => ⟨.debug, "Stopped: " ++ event.text?.getD ""⟩

/-- Address and opcode of a fetch. -/
def fetch? : Occurrence → Option (UInt8 × UInt8)
  | .fetched address opcode => some (address, opcode)
  | _ => none

end Occurrence

end ByteMachine
