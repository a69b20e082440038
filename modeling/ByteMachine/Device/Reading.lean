import ByteMachine.Text.Quoted

/-!
# What devices give back

A device is asked for a number, but it may hand over anything, or fail. The machine takes integers,
counts a truth value as one or zero, and refuses the rest.
-/

namespace ByteMachine

/-- A value handed over by a device that was read. -/
inductive Reading where
  /-- No value at all. -/
  | nothing
  /-- A truth value. -/
  | truth (value : Bool)
  /-- An integer of any size. -/
  | number (value : Int)
  /-- A text. -/
  | text (value : String)
  /-- Any other value, which counts for nothing but its wording. -/
  | other (wording : String)
deriving DecidableEq, Repr

namespace Reading

/-- The integer that a reading stands for. -/
def number? : Reading → Option Int
  | .nothing => none
  | .truth value => some (if value then 1 else 0)
  | .number value => some value
  | .text _ => none
  | .other _ => none

/-- Wording of a reading. -/
def shown : Reading → String
  | .nothing => "None"
  | .truth value => if value then "True" else "False"
  | .number value => toString value
  | .text value => Text.quote value
  | .other wording => wording

end Reading

namespace Device

/-- The ways in which a device fails by itself. -/
inductive FailureKind where
  /-- There is no input left. -/
  | exhausted
  /-- The operating system reports an error. -/
  | system
  /-- The user ended the dialogue. -/
  | aborted
deriving DecidableEq, Repr

/-- A failure of a device. -/
structure Failure where
  /-- What kind of failure it is. -/
  kind : FailureKind
  /-- Wording of the failure. -/
  text : String
deriving DecidableEq, Repr

/-- Why a call of a device came to nothing. -/
inductive Problem where
  /-- The device does not have the operation. -/
  | missing
  /-- The device failed. -/
  | failed (failure : Failure)
  /-- The device gave a value that is not an integer from zero to `limit`. -/
  | refused (reading : Reading) (limit : Nat)
  /-- A problem described in words, which may be empty. -/
  | described (text : String)
deriving DecidableEq, Repr

/-- Wording of a problem with an operation. -/
def Problem.message (operation : String) : Problem → String
  | .missing => s!"IO plugin has no {operation}()"
  | .failed failure => s!"IO plugin {operation}() failed: {failure.text}"
  | .refused reading limit =>
    s!"IO plugin {operation}() returned {reading.shown}, expected 0-{limit}"
  | .described text => if text.isEmpty then s!"IO plugin {operation}() failed" else text

end Device

end ByteMachine
