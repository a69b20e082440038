import ByteMachine.Proofs.Flags
import ByteMachine.Proofs.InputOutput
import ByteMachine.Proofs.Stores

/-!
# What arithmetic computes

Arithmetic stores its result modulo the width of the register and takes the flags from the exact
result, whatever they were before. It touches no other register but the program counter, and neither
memory nor the device.
-/

namespace ByteMachine

/-! ## Results modulo a width -/

theorem differenceFlags_eq (left right : Nat) :
    differenceFlags ((left : Int) - right) =
      if left = right then 2 else if left < right then 1 else 0 := by
  have zero_iff : (left : Int) - right = 0 ↔ left = right := by omega
  have negative_iff : (left : Int) - right < 0 ↔ left < right := by omega
  simp only [differenceFlags, zero_iff, negative_iff]
  rfl

namespace Registers

variable (registers : Registers)

theorem operand_increment (width : Width) :
    (registers.increment width).operand width =
      (registers.operand width + 1) % (width.limit + 1) := by
  rw [← operand_store_mod registers, increment_eq]
  cases width <;> rfl

variable {registers} {now : Registers} {a b c fl pc : UInt8}

theorem agreeBut_accumulator (now_eq : now = { registers with a := a, fl := fl, pc := pc }) :
    registers.AgreeBut [.a, .fl, .pc] now := by
  have marked := (AgreeBut.refl [.a, .fl, .pc] registers).set .fl (by decide) fl
  exact now_eq ▸ (marked.set .pc (by decide) pc).set .a (by decide) a

theorem agreeBut_literal
    (now_eq : now = { registers with a := a, b := b, fl := fl, pc := pc }) :
    registers.AgreeBut [.a, .b, .fl, .pc] now := by
  have marked := (AgreeBut.refl [.a, .b, .fl, .pc] registers).set .fl (by decide) fl
  exact now_eq ▸ ((marked.set .pc (by decide) pc).set .a (by decide) a).set .b (by decide) b

theorem agreeBut_pair
    (now_eq : now = { registers with b := b, c := c, fl := fl, pc := pc }) :
    registers.AgreeBut [.b, .c, .fl, .pc] now := by
  have marked := (AgreeBut.refl [.b, .c, .fl, .pc] registers).set .fl (by decide) fl
  exact now_eq ▸ ((marked.set .pc (by decide) pc).set .b (by decide) b).set .c (by decide) c

/-! ## Rows of the table -/

theorem increment_byte_row (now_eq : now = { registers with pc := pc }.increment .byte) :
    now.a.toNat = (registers.a.toNat + 1) % 256 ∧
      now.fl = (if registers.a.toNat + 1 > 127 then 4 else 0) ∧
      registers.AgreeBut [.a, .fl, .pc] now := by
  have result := operand_increment { registers with pc := pc } .byte
  rw [← now_eq] at result
  rw [increment_eq] at now_eq
  exact ⟨result, congrArg Registers.fl now_eq, agreeBut_accumulator now_eq⟩

theorem increment_word_row (now_eq : now = { registers with pc := pc }.increment .word) :
    now.pair = (registers.pair + 1) % 65536 ∧
      now.fl = (if registers.pair + 1 > 32767 then 4 else 0) ∧
      registers.AgreeBut [.b, .c, .fl, .pc] now := by
  have result := operand_increment { registers with pc := pc } .word
  rw [← now_eq] at result
  rw [increment_eq] at now_eq
  exact ⟨result, congrArg Registers.fl now_eq, agreeBut_pair now_eq⟩

theorem decrement_row (now_eq : now = { registers with pc := pc }.decrement) :
    (now.a.toNat : Int) = ((registers.a.toNat : Int) - 1) % 256 ∧
      now.fl = (if registers.a.toNat = 1 then 2 else if registers.a.toNat = 0 then 1 else 0) ∧
      registers.AgreeBut [.a, .fl, .pc] now := by
  rw [decrement_eq] at now_eq
  have a_eq : now.a = UInt8.ofInt ((registers.a.toNat : Int) - 1) := congrArg Registers.a now_eq
  have fl_eq : now.fl = differenceFlags ((registers.a.toNat : Int) - (1 : Nat)) :=
    congrArg Registers.fl now_eq
  refine ⟨?_, ?_, agreeBut_accumulator now_eq⟩
  · rw [a_eq, toNat_ofInt]
  · simp only [fl_eq, differenceFlags_eq, Nat.lt_one_iff]

variable {literal : UInt8}

theorem addLiteral_row (now_eq : now = { registers with pc := pc }.clearFlags.addLiteral literal) :
    now.b = literal ∧ now.a.toNat = (registers.a.toNat + literal.toNat) % 256 ∧
      now.fl = (if registers.a.toNat + literal.toNat > 127 then 4 else 0) ∧
      registers.AgreeBut [.a, .b, .fl, .pc] now := by
  rw [addLiteral_eq] at now_eq
  have a_eq : now.a = UInt8.ofNat (registers.a.toNat + literal.toNat) :=
    congrArg Registers.a now_eq
  refine ⟨congrArg Registers.b now_eq, ?_, congrArg Registers.fl now_eq, agreeBut_literal now_eq⟩
  rw [a_eq, UInt8.toNat_ofNat']

theorem subtractLiteral_row
    (now_eq : now = { registers with pc := pc }.clearFlags.subtractLiteral literal) :
    now.b = literal ∧ (now.a.toNat : Int) = ((registers.a.toNat : Int) - literal.toNat) % 256 ∧
      now.fl = (if registers.a.toNat = literal.toNat then 2
        else if registers.a.toNat < literal.toNat then 1 else 0) ∧
      registers.AgreeBut [.a, .b, .fl, .pc] now := by
  rw [subtractLiteral_eq] at now_eq
  have a_eq : now.a = UInt8.ofInt ((registers.a.toNat : Int) - literal.toNat) :=
    congrArg Registers.a now_eq
  have fl_eq : now.fl = differenceFlags ((registers.a.toNat : Int) - literal.toNat) :=
    congrArg Registers.fl now_eq
  refine ⟨congrArg Registers.b now_eq, ?_, ?_, agreeBut_literal now_eq⟩
  · rw [a_eq, toNat_ofInt]
  · rw [fl_eq, differenceFlags_eq]

end Registers

namespace Machine

variable {δ : Type} [Device δ] {machine after : Machine δ} {event : Event}

/-! ## Steps that compute -/

/-- The operands of an instruction that carries a width tag give the width that was selected. -/
theorem Consumes.width?_eq {byte : UInt8} {operands : List UInt8} {opcode : Opcode}
    (consumes : machine.Consumes byte operands after) (known : Opcode.ofByte? byte = some opcode)
    (sized : opcode.isSized = true) : machine.width? = some (widthOf operands) := by
  have inOrder := (consumes.effect_eq known).1
  have plain : opcode.operands = [] := by
    cases opcode with
    | inp | out | inc => rfl
    | _ => cases sized
  rw [Opcode.operandKinds, sized, plain] at inOrder
  unfold width?
  cases tagged : machine.variant.isTagged with
  | false =>
      rw [tagged] at inOrder
      cases inOrder
      rfl
  | true =>
      rw [tagged] at inOrder
      obtain _ | ⟨accepted, ⟨⟩⟩ := inOrder
      rename_i address tag
      rw [if_pos rfl, consumes.byteAhead?_one, Option.bind_some]
      cases found : Width.ofTag? tag with
      | none => simp [operandFault?, found] at accepted
      | some width => simp [widthOf, found]

theorem effect_of_step (stepped : step machine = .ok event after) {opcode : Opcode}
    (next : machine.nextOpcode? = some opcode) :
    ∃ byte operands, machine.Consumes byte operands after ∧ Opcode.ofByte? byte = some opcode ∧
      InOrder machine.variant opcode (opcode.operandKinds machine.variant.isTagged) operands ∧
      ∃ pc input, after.registers =
        effect { (machine.prepared opcode).registers with pc := pc } input opcode operands := by
  obtain ⟨byte, operands, consumes⟩ := consumes_of_step stepped
  have known := (nextOpcode?_of_readable consumes.readable).symm.trans next
  exact ⟨byte, operands, consumes, known, consumes.effect_eq known⟩

/-- An increment has a width, and adds one to the operand of that width. -/
theorem increment_of_step (stepped : step machine = .ok event after)
    (next : machine.nextOpcode? = some .inc) :
    ∃ width pc, machine.width? = some width ∧
      after.registers = { machine.registers with pc := pc }.increment width := by
  obtain ⟨byte, operands, consumes, known, -, pc, _, registers_eq⟩ := effect_of_step stepped next
  exact ⟨widthOf operands, pc, consumes.width?_eq known rfl, registers_eq⟩

theorem decrement_of_step (stepped : step machine = .ok event after)
    (next : machine.nextOpcode? = some .dec) :
    ∃ pc, after.registers = { machine.registers with pc := pc }.decrement := by
  obtain ⟨byte, operands, -, -, -, pc, _, registers_eq⟩ := effect_of_step stepped next
  exact ⟨pc, registers_eq⟩

/-- A sum has cleared the flags before it fetches its literal. -/
theorem sum_of_step (stepped : step machine = .ok event after)
    (next : machine.nextOpcode? = some .add) :
    ∃ literal pc, machine.byteAhead? 1 = some literal ∧
      after.registers = { machine.registers with pc := pc }.clearFlags.addLiteral literal := by
  obtain ⟨byte, operands, consumes, -, inOrder, pc, _, registers_eq⟩ :=
    effect_of_step stepped next
  obtain _ | ⟨-, ⟨⟩⟩ := inOrder
  exact ⟨_, pc, consumes.byteAhead?_one, registers_eq⟩

theorem difference_of_step (stepped : step machine = .ok event after)
    (next : machine.nextOpcode? = some .sub) :
    ∃ literal pc, machine.byteAhead? 1 = some literal ∧
      after.registers = { machine.registers with pc := pc }.clearFlags.subtractLiteral literal := by
  obtain ⟨byte, operands, consumes, -, inOrder, pc, _, registers_eq⟩ :=
    effect_of_step stepped next
  obtain _ | ⟨-, ⟨⟩⟩ := inOrder
  exact ⟨_, pc, consumes.byteAhead?_one, registers_eq⟩

/-- Arithmetic touches neither memory nor the device, and does not halt the machine. -/
theorem spared_by_arithmetic (stepped : step machine = .ok event after)
    (arithmetic : machine.computes = true) :
    after.memory = machine.memory ∧ after.status = machine.status ∧
      after.device = machine.device := by
  have other (opcode : Opcode) (plain : opcode ∉ [.inc, .dec, .add, .sub]) :
      machine.nextOpcode? ≠ some opcode := by
    intro next
    rw [computes, next] at arithmetic
    exact plain (of_decide_eq_true arithmetic)
  have running := (step_ok stepped).1
  have silent := silent_of_other running (other .inp (by decide)) (other .out (by decide))
  have going : after.status = .running := by
    cases status : after.status with
    | running => rfl
    | halted => exact absurd ((halted_of_step_iff stepped).mp status) (other .halt (by decide))
  rw [stepped] at silent
  exact ⟨(spared_of_step stepped (other .put (by decide))).memory, going.trans running.symm,
    silent.device⟩

/-! ## The table -/

/-- Arithmetic meets its table. The result is stored modulo the width of its register, and the flags
come from the exact result: overflow where a sum exceeds the signed maximum, and zero or sign by a
difference. The flags from before do not matter. Apart from the program counter, no other register
is touched, nor are memory, the status and the device. -/
theorem arithmetic_meets_table (stepped : step machine = .ok event after) :
    let before := machine.registers
    let now := after.registers
    let a := before.a.toNat
    (machine.nextOpcode? = some .inc →
      (machine.width? = some .byte ∧ now.a.toNat = (a + 1) % 256 ∧
          now.fl = (if a + 1 > 127 then 4 else 0) ∧ before.AgreeBut [.a, .fl, .pc] now) ∨
        machine.width? = some .word ∧ now.pair = (before.pair + 1) % 65536 ∧
          now.fl = (if before.pair + 1 > 32767 then 4 else 0) ∧
          before.AgreeBut [.b, .c, .fl, .pc] now) ∧
    (machine.nextOpcode? = some .dec →
      (now.a.toNat : Int) = ((a : Int) - 1) % 256 ∧
        now.fl = (if a = 1 then 2 else if a = 0 then 1 else 0) ∧
        before.AgreeBut [.a, .fl, .pc] now) ∧
    (machine.nextOpcode? = some .add →
      ∃ literal, machine.byteAhead? 1 = some literal ∧ now.b = literal ∧
        now.a.toNat = (a + literal.toNat) % 256 ∧
        now.fl = (if a + literal.toNat > 127 then 4 else 0) ∧
        before.AgreeBut [.a, .b, .fl, .pc] now) ∧
    (machine.nextOpcode? = some .sub →
      ∃ literal, machine.byteAhead? 1 = some literal ∧ now.b = literal ∧
        (now.a.toNat : Int) = ((a : Int) - literal.toNat) % 256 ∧
        now.fl = (if a = literal.toNat then 2 else if a < literal.toNat then 1 else 0) ∧
        before.AgreeBut [.a, .b, .fl, .pc] now) ∧
    (machine.computes = true →
      after.memory = machine.memory ∧ after.status = machine.status ∧
        after.device = machine.device) := by
  intro before now a
  refine ⟨?_, ?_, ?_, ?_, spared_by_arithmetic stepped⟩
  · intro next
    obtain ⟨width, pc, selected, registers_eq⟩ := increment_of_step stepped next
    cases width with
    | byte => exact Or.inl ⟨selected, Registers.increment_byte_row registers_eq⟩
    | word => exact Or.inr ⟨selected, Registers.increment_word_row registers_eq⟩
  · intro next
    obtain ⟨pc, registers_eq⟩ := decrement_of_step stepped next
    exact Registers.decrement_row registers_eq
  · intro next
    obtain ⟨literal, pc, ahead, registers_eq⟩ := sum_of_step stepped next
    exact ⟨literal, ahead, Registers.addLiteral_row registers_eq⟩
  · intro next
    obtain ⟨literal, pc, ahead, registers_eq⟩ := difference_of_step stepped next
    exact ⟨literal, ahead, Registers.subtractLiteral_row registers_eq⟩

/-- A word increment at the signed maximum, with stray bits among the flags. -/
def brimful : Machine Scripted :=
  { start (.ofVariant .word (MemorySize.ofInt? 2)) (Scripted.ofInputs []) with
    memory := ⟨#[0x07, 0x02]⟩
    registers := { Registers.zeroed with a := 9, b := 0x7F, c := 0xFF, fl := 0xF9 } }

theorem arithmetic_meets_table_at_overflow :
    ∃ event after, step brimful = .ok event after ∧ after.registers.pair = 32768 ∧
      after.registers.fl = 4 ∧ after.registers.a = 9 := by
  obtain ⟨event, after, stepped⟩ : ∃ event after, step brimful = .ok event after :=
    ⟨_, _, rfl⟩
  have wide : brimful.width? = some .word := by decide +kernel
  obtain ⟨narrow, -⟩ | ⟨-, pair_eq, fl_eq, agree⟩ :=
    (arithmetic_meets_table stepped).1 (by decide +kernel)
  · exact absurd (narrow.symm.trans wide) (by decide)
  · exact ⟨event, after, stepped, pair_eq.trans (by decide +kernel),
      fl_eq.trans (by decide +kernel), agree .a (by decide)⟩

end Machine

end ByteMachine
