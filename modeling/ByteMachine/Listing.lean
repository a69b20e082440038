import ByteMachine.Machine
import ByteMachine.Opcode
import ByteMachine.Variant

/-!
# Listings

A listing shows the bytes of a program image as instructions, one line each. Every byte belongs to
exactly one line. Bytes that are no opcode are shown as data, and a line notes what is wrong with
its instruction: a bad operand, or operands that are cut off by the end of the image.
-/

namespace ByteMachine.Listing

open Text

/-- What can be wrong with an instruction. -/
inductive Problem where
  /-- The first byte is no opcode. -/
  | unknownOpcode
  /-- A width tag names no width. -/
  | invalidWidth
  /-- A number names no register. -/
  | unknownRegister
  /-- The variant lacks a register. -/
  | missingRegister (register : Register) (variant : Variant)
  /-- The image ends before the last operand. -/
  | truncated
deriving DecidableEq, Repr

/-- Wording of a problem. -/
def Problem.text : Problem → String
  | .unknownOpcode => "unknown opcode"
  | .invalidWidth => "invalid width tag"
  | .unknownRegister => "unknown register"
  | .missingRegister register variant => s!"no register {register.name} on {variant.code}"
  | .truncated => "truncated"

/-- A line of a listing. -/
structure Entry where
  /-- Address of the opcode. -/
  address : Int
  /-- The opcode. -/
  opcode : Int
  /-- Name of the instruction. -/
  mnemonic : String
  /-- The operand bytes. -/
  operands : List UInt8
  /-- Wording of the operands. -/
  operandText : String
  /-- All bytes of the instruction. -/
  raw : List UInt8
  /-- What is wrong, or the empty text. -/
  comment : String
deriving DecidableEq, Repr

namespace Entry

/-- Number of bytes of an entry. -/
def size (entry : Entry) : Nat :=
  entry.raw.length

/-- A byte in the column of bytes. -/
def byteText (byte : UInt8) : String :=
  hex 2 byte.toNat

/-- The column of bytes. -/
def hexColumn (entry : Entry) : String :=
  padRight 8 (String.intercalate " " (entry.raw.map byteText))

/-- The instruction with its operands. -/
def assembly (entry : Entry) : String :=
  if entry.operandText.isEmpty then entry.mnemonic else s!"{entry.mnemonic} {entry.operandText}"

/-- The line of a listing. -/
def line (entry : Entry) : String :=
  let start := s!"${hex 2 entry.address}: {entry.hexColumn}  "
  if entry.comment.isEmpty then start ++ entry.assembly
  else start ++ padRight 14 entry.assembly ++ s!" ; {entry.comment}"

end Entry

/-- Wording of an operand byte. -/
def operandText (kind : OperandKind) (value : UInt8) : String :=
  match kind with
  | .width => ((Width.ofTag? value).map Width.name).getD s!"${hex 2 value.toNat}"
  | .register => ((Register.ofNumber? value.toNat).map Register.name).getD s!"${hex 2 value.toNat}"
  | .immediate => s!"#${hex 2 value.toNat}"
  | .address => s!"${hex 2 value.toNat}"

/-- What is wrong with an operand byte. -/
def operandProblem? (variant : Variant) (kind : OperandKind) (value : UInt8) : Option Problem :=
  match kind with
  | .width => if (Width.ofTag? value).isSome then none else some .invalidWidth
  | .register =>
    match Register.ofNumber? value.toNat with
    | none => some .unknownRegister
    | some register =>
      if variant.has register then none else some (.missingRegister register variant)
  | .immediate | .address => none

/-- The operands that a byte has as the opcode of an instruction. -/
def operandKinds (variant : Variant) (opcode : UInt8) : List OperandKind :=
  ((Opcode.ofByte? opcode).map (Opcode.operandKinds variant.isTagged)).getD []

/-- What is wrong with an instruction of which some operand bytes are there, in the order of its
bytes. -/
def problems (variant : Variant) (opcode : UInt8) (operands : List UInt8) : List Problem :=
  match Opcode.ofByte? opcode with
  | none => [.unknownOpcode]
  | some known =>
    let kinds := known.operandKinds variant.isTagged
    (kinds.zip operands).filterMap (fun operand => operandProblem? variant operand.1 operand.2) ++
      if operands.length < kinds.length then [.truncated] else []

/-- The entry of an instruction. -/
def entry (variant : Variant) (address : Int) (opcode : UInt8) (operands : List UInt8) : Entry where
  address := address
  opcode := opcode.toNat
  mnemonic := ((Opcode.ofByte? opcode).map Opcode.mnemonic).getD "DB"
  operands := operands
  operandText :=
    match Opcode.ofByte? opcode with
    | none => s!"${hex 2 opcode.toNat}"
    | some _ =>
      String.intercalate ","
        (((operandKinds variant opcode).zip operands).map fun operand =>
          operandText operand.1 operand.2)
  raw := opcode :: operands
  comment := String.intercalate "; " ((problems variant opcode operands).map Problem.text)

/-- The entries of an image whose first byte has the given address. -/
def ofBytes (variant : Variant) (start : Int) : List UInt8 → List Entry
  | [] => []
  | opcode :: rest =>
    let operands := rest.take (operandKinds variant opcode).length
    entry variant start opcode operands ::
      ofBytes variant (start + 1 + operands.length) (rest.drop operands.length)
termination_by bytes => bytes.length
decreasing_by simp only [List.length_drop, List.length_cons]; omega

/-- At most `count` entries of an image, or all of them. -/
def upTo (variant : Variant) (start : Int) (count : Option Int) (bytes : List UInt8) : List Entry :=
  match count with
  | none => ofBytes variant start bytes
  | some most => (ofBytes variant start bytes).take most.toNat

/-- A position counted from the start of `length` bytes, or from their end if it is negative, kept
within them. -/
def position (length : Nat) (offset : Int) : Nat :=
  min length (if offset < 0 then offset + length else offset).toNat

/-- The bytes from one position up to another. -/
def slice (bytes : List UInt8) (first last : Int) : List UInt8 :=
  let start := position bytes.length first
  (bytes.drop start).take (position bytes.length last - start)

/-- The entry of the instruction at an offset, which may count from the end. -/
def entryAt? (variant : Variant) (bytes : List UInt8) (address offset : Int) : Option Entry :=
  let index := if offset < 0 then offset + bytes.length else offset
  if index < 0 then none
  else
    bytes[index.toNat]?.map fun opcode =>
      let count := (operandKinds variant opcode).length
      entry variant address opcode (slice bytes (offset + 1) (offset + 1 + count))

end ByteMachine.Listing

namespace ByteMachine.Machine

/-- The lines of a listing of memory from an address on. -/
def listing {δ : Type} (machine : Machine δ) (address : Int) (count : Option Int) :
    Except Fault (List String) :=
  (machine.memory.dump address none).map fun bytes =>
    (Listing.upTo machine.variant address count bytes).map Listing.Entry.line

end ByteMachine.Machine
