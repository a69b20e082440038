import ByteMachine.Memory
import ByteMachine.RegisterFile
import ByteMachine.Text.Blank

/-!
# Machine variants

The two machines share their instructions and flags. They differ in the registers they have and in
whether input, output and increment carry a width tag.
-/

namespace ByteMachine

/-- One of the two machines. -/
inductive Variant where
  /-- Registers A, B, PC and FL, and bytes only. -/
  | byte
  /-- All registers, and words in the pair B:C. -/
  | word
deriving DecidableEq, Repr

namespace Variant

/-- Both variants. -/
def all : List Variant := [.byte, .word]

/-- Short name of a variant. -/
def code : Variant → String
  | .byte => "BYTE"
  | .word => "WORD"

/-- Full name of a variant. -/
def title : Variant → String
  | .byte => "BYTE (8-bit)"
  | .word => "WORD (8/16-bit)"

/-- Registers of a variant, by increasing number. -/
def registers : Variant → List Register
  | .byte => [.a, .b, .pc, .fl]
  | .word => Register.all

/-- A variant has a register. -/
def has (variant : Variant) (register : Register) : Bool :=
  variant.registers.contains register

/-- Whether input, output and increment carry a width tag. -/
def isTagged : Variant → Bool
  | .byte => false
  | .word => true

/-- Size of memory when none is asked for. -/
def defaultMemorySize : Variant → MemorySize
  | _ => ⟨255, by decide, by decide⟩

/-- The registers of a variant, under its short name. -/
def registerSet (variant : Variant) : RegisterSet :=
  ⟨variant.registers, some variant.code⟩

/-- The names of a variant in capitals, each with the variant it selects. -/
def names : List (String × Variant) :=
  [("BYTE", .byte), ("V1", .byte), ("V2", .word), ("WORD", .word)]

/-- The variant that a name selects, whatever the case of its letters and the blanks around it. The
empty name and `DEFAULT` select the larger machine. Only letters of the basic alphabet have a
capital that occurs in a name. -/
def ofName? (name : String) : Option Variant :=
  let key := String.ofList ((Text.trim name.toList).map Char.toUpper)
  match names.lookup key with
  | some variant => some variant
  | none => if key = "DEFAULT" ∨ key = "" then some .word else none

theorem ofName?_code (variant : Variant) : ofName? variant.code = some variant := by
  cases variant <;> decide

/-- Wording of the refusal of a name. -/
def refusal (name : String) : String :=
  s!"Unknown variant '{name}'. Available: " ++ String.intercalate ", " (names.map (·.1))

end Variant

end ByteMachine
