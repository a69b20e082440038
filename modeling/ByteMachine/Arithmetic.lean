import ByteMachine.Opcode
import ByteMachine.RegisterFile

/-!
# Arithmetic

Results are stored modulo the width of the register, while flags are taken from the exact result.
Sums put the overflow flag to whether the exact result exceeds the signed maximum, and differences
put the zero flag and the sign flag. The flag register is cleared before: by increments and
decrements themselves, and for literals before the literal is fetched.
-/

namespace ByteMachine

/-- Greatest signed value of a width. -/
def Width.signedLimit : Width → Nat
  | .byte => 127
  | .word => 32767

namespace Registers

/-- Sets a flag or clears it. The mask of a flag always fits the flag register. -/
def putFlag (registers : Registers) (flag : Flag) (on : Bool) : Registers :=
  (registers.updateMask? flag.mask.toNat on).getD registers

/-- Puts the flag that tells of the exact result of a sum. -/
def flagSum (registers : Registers) (width : Width) (exact : Nat) : Registers :=
  registers.putFlag .overflow (width.signedLimit < exact)

/-- Puts the flags that tell of the exact result of a difference. -/
def flagDifference (registers : Registers) (exact : Int) : Registers :=
  (registers.putFlag .zero (exact = 0)).putFlag .sign (exact < 0)

/-- The number that an operation of some width works on: A, or the pair B:C. -/
def operand (registers : Registers) : Width → Nat
  | .byte => registers.a.toNat
  | .word => registers.pair

/-- Stores a number of some width in A or in the pair B:C. -/
def store (registers : Registers) (width : Width) (value : Nat) : Registers :=
  match width with
  | .byte => { registers with a := UInt8.ofNat value }
  | .word => registers.setPair value

/-- Adds one to A or to the pair B:C. -/
def increment (registers : Registers) (width : Width) : Registers :=
  let exact := registers.operand width + 1
  (registers.clearFlags.flagSum width exact).store width exact

/-- Subtracts one from A. -/
def decrement (registers : Registers) : Registers :=
  let exact := (registers.a.toNat : Int) - 1
  (registers.clearFlags.flagDifference exact).set .a (UInt8.ofInt exact)

/-- Puts a literal in B and adds it to A. -/
def addLiteral (registers : Registers) (value : UInt8) : Registers :=
  let exact := registers.a.toNat + value.toNat
  ((registers.set .b value).flagSum .byte exact).set .a (UInt8.ofNat exact)

/-- Puts a literal in B and subtracts it from A. -/
def subtractLiteral (registers : Registers) (value : UInt8) : Registers :=
  let exact := (registers.a.toNat : Int) - value.toNat
  ((registers.set .b value).flagDifference exact).set .a (UInt8.ofInt exact)

end Registers

/-! ## Flags as a whole -/

/-- Flag register after a sum with the given exact result. -/
def sumFlags (width : Width) (exact : Nat) : UInt8 :=
  if width.signedLimit < exact then Flag.overflow.mask else 0

/-- Flag register after a difference with the given exact result. -/
def differenceFlags (exact : Int) : UInt8 :=
  if exact = 0 then Flag.zero.mask else if exact < 0 then Flag.sign.mask else 0

namespace Registers

variable (registers : Registers)

theorem putFlag_eq (flag : Flag) (on : Bool) :
    registers.putFlag flag on =
      { registers with
        fl := if on then registers.fl ||| flag.mask else registers.fl &&& ~~~flag.mask } := by
  have fits : 0 ≤ (flag.mask.toNat : Int) ∧ (flag.mask.toNat : Int) < 256 := by
    cases flag <;> decide
  have mask_eq : UInt8.ofInt flag.mask.toNat = flag.mask := by
    cases flag <;> rfl
  cases on with
  | true => simp only [putFlag, updateMask?, setMask?, fits, mask_eq, ↓reduceIte, and_self,
      Option.getD_some]
  | false => simp only [putFlag, updateMask?, clearMask, mask_eq, Bool.false_eq_true, ↓reduceIte,
      Option.getD_some]

/-- On a flag register that was cleared, the flag of a sum stands alone. -/
theorem flagSum_clearFlags (width : Width) (exact : Nat) :
    registers.clearFlags.flagSum width exact = { registers with fl := sumFlags width exact } := by
  rw [flagSum, putFlag_eq]
  by_cases exceeds : width.signedLimit < exact
  · simp [clearFlags, sumFlags, exceeds]
  · simp [clearFlags, sumFlags, exceeds]

/-- Of the two flags of a difference, one at most is set. -/
theorem flagDifference_clearFlags (exact : Int) :
    registers.clearFlags.flagDifference exact =
      { registers with fl := differenceFlags exact } := by
  rw [flagDifference, putFlag_eq, putFlag_eq]
  by_cases zero : exact = 0
  · have apart : Flag.zero.mask &&& ~~~Flag.sign.mask = Flag.zero.mask := by decide
    simp [clearFlags, differenceFlags, zero, apart]
  · by_cases negative : exact < 0
    · simp [clearFlags, differenceFlags, zero, negative]
    · simp [clearFlags, differenceFlags, zero, negative]

theorem increment_eq (width : Width) :
    registers.increment width =
      { registers.store width (registers.operand width + 1) with
        fl := sumFlags width (registers.operand width + 1) } := by
  rw [increment, flagSum_clearFlags]
  cases width <;> rfl

theorem decrement_eq :
    registers.decrement =
      { registers with
        a := UInt8.ofInt ((registers.a.toNat : Int) - 1)
        fl := differenceFlags ((registers.a.toNat : Int) - 1) } := by
  rw [decrement, flagDifference_clearFlags]
  rfl

/-- Whatever the flags were, a sum touches no register but A, B and the flags. -/
theorem addLiteral_frame (value : UInt8) :
    ∃ fl, registers.addLiteral value =
      { registers with
        a := UInt8.ofNat (registers.a.toNat + value.toNat)
        b := value
        fl := fl } := by
  simp only [addLiteral, flagSum, putFlag_eq]
  exact ⟨_, rfl⟩

theorem subtractLiteral_frame (value : UInt8) :
    ∃ fl, registers.subtractLiteral value =
      { registers with
        a := UInt8.ofInt ((registers.a.toNat : Int) - value.toNat)
        b := value
        fl := fl } := by
  simp only [subtractLiteral, flagDifference, putFlag_eq]
  exact ⟨_, rfl⟩

theorem addLiteral_eq (value : UInt8) :
    registers.clearFlags.addLiteral value =
      { registers with
        a := UInt8.ofNat (registers.a.toNat + value.toNat)
        b := value
        fl := sumFlags .byte (registers.a.toNat + value.toNat) } := by
  have flagged := flagSum_clearFlags (registers.set .b value) .byte
    (registers.a.toNat + value.toNat)
  exact congrArg (·.set .a (UInt8.ofNat (registers.a.toNat + value.toNat))) flagged

theorem subtractLiteral_eq (value : UInt8) :
    registers.clearFlags.subtractLiteral value =
      { registers with
        a := UInt8.ofInt ((registers.a.toNat : Int) - value.toNat)
        b := value
        fl := differenceFlags ((registers.a.toNat : Int) - value.toNat) } := by
  have flagged := flagDifference_clearFlags (registers.set .b value)
    ((registers.a.toNat : Int) - value.toNat)
  exact congrArg (·.set .a (UInt8.ofInt ((registers.a.toNat : Int) - value.toNat))) flagged

end Registers

end ByteMachine
