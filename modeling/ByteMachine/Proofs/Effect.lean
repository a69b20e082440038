import ByteMachine.Proofs.Layout
import ByteMachine.Proofs.Session

/-!
# What changes the registers

Once it is decoded, an instruction changes the registers in a way that its operands determine,
together with what it has read. An instruction that fails has changed the program counter and the
flags at most. Neither instructions nor accesses from outside reach a register that the machine
does not have.
-/

namespace ByteMachine

/-! ## Registers that a variant does not have -/

namespace Registers

/-- The values of the registers that a variant does not have. -/
def outside (registers : Registers) (variant : Variant) : List UInt8 :=
  (Register.all.filter fun register => !variant.has register).map registers.get

variable {variant : Variant} {register : Register}

theorem outside_set (present : variant.has register = true) (registers : Registers)
    (value : UInt8) :
    (registers.set register value).outside variant = registers.outside variant := by
  cases variant with
  | word => rfl
  | byte =>
      cases register with
      | a | b | pc | fl => rfl
      | c | d | i => cases present

theorem outside_moved (registers : Registers) (pc fl : UInt8) (variant : Variant) :
    { registers with pc := pc, fl := fl }.outside variant = registers.outside variant := by
  cases variant <;> rfl

theorem outside_zeroed (variant : Variant) : ∀ value ∈ zeroed.outside variant, value = 0 := by
  intro value member
  obtain ⟨register, -, rfl⟩ := List.mem_map.mp member
  cases register <;> rfl

theorem outside_byte (registers : Registers) :
    registers.outside .byte = [registers.c, registers.d, registers.i] :=
  rfl

/-! ## Registers that stay as they are -/

/-- Every register holds the same before and after, apart from the changed ones. -/
def AgreeBut (changed : List Register) (before after : Registers) : Prop :=
  ∀ register, register ∉ changed → after.get register = before.get register

instance (changed : List Register) (before after : Registers) :
    Decidable (before.AgreeBut changed after) :=
  decidable_of_iff (∀ register ∈ Register.all, register ∉ changed →
      after.get register = before.get register)
    ⟨fun all register => all register (by cases register <;> decide),
      fun all register _ => all register⟩

theorem get_set_of_ne {register other : Register} (different : other ≠ register)
    (registers : Registers) (value : UInt8) :
    (registers.set register value).get other = registers.get other := by
  cases register <;> cases other <;> simp [get, set] at different ⊢

namespace AgreeBut

variable {changed : List Register} {before after : Registers}

theorem refl (changed : List Register) (registers : Registers) :
    registers.AgreeBut changed registers :=
  fun _ _ => rfl

theorem set (agree : before.AgreeBut changed after) (register : Register)
    (member : register ∈ changed) (value : UInt8) :
    before.AgreeBut changed (after.set register value) := by
  intro other spared
  have different : other ≠ register := fun same => spared (same ▸ member)
  exact (get_set_of_ne different after value).trans (agree other spared)

end AgreeBut

end Registers

theorem RegisterSet.has_of_resolve {variant : Variant} {number : Int} {register : Register}
    (resolved : variant.registerSet.resolve number = .ok register) :
    variant.has register = true := by
  unfold RegisterSet.resolve at resolved
  split at resolved
  · cases resolved
  · split at resolved
    · rename_i member
      cases resolved
      exact List.contains_iff_mem.mpr member
    · cases resolved

namespace Machine

variable {δ : Type}

/-! ## The effect of an instruction -/

/-- The registers after an instruction with its operands. What the instruction has read from its
device or from memory, if it reads, is `input`. -/
def effect (registers : Registers) (input : Nat) : Opcode → List UInt8 → Registers
  | .inp, operands => registers.store (widthOf operands) input
  | .get, [number, _] => registers.set (registerOf number) (UInt8.ofNat input)
  | .add, [value] => registers.addLiteral value
  | .sub, [value] => registers.subtractLiteral value
  | .inc, operands => registers.increment (widthOf operands)
  | .dec, _ => registers.decrement
  | .jmp, [target] => { registers with pc := target }
  | .jmz, [target] => if registers.flag .zero then { registers with pc := target } else registers
  | .jmn, [target] => if registers.flag .sign then { registers with pc := target } else registers
  | _, _ => registers

section Enacting

variable [Device δ] {machine after : Machine δ} {opcode : Opcode} {operands : List UInt8}
  {fault : Fault}

theorem registers_readDevice (width : Width) (machine : Machine δ) :
    (stateOf (readDevice width machine)).registers = machine.registers := by
  unfold readDevice
  split
  · rfl
  · split
    · rfl
    · split <;> rfl

theorem registers_writeDevice (width : Width) (value : Nat) (machine : Machine δ) :
    (stateOf (writeDevice width value machine)).registers = machine.registers := by
  unfold writeDevice
  split
  · rfl
  · split <;> rfl

/-- An instruction that is carried out has its effect. -/
theorem registers_of_enact (enacted : enact opcode operands machine = .ok () after) :
    ∃ input, after.registers = effect machine.registers input opcode operands := by
  unfold enact at enacted
  split at enacted
  · obtain ⟨value, middle, reading, rest⟩ := bind_ok enacted
    obtain ⟨reply, rfl⟩ := readDevice_ok reading
    cases rest
    exact ⟨value, rfl⟩
  · obtain ⟨reply, rfl⟩ := writeDevice_ok enacted
    exact ⟨0, rfl⟩
  · obtain ⟨memory, -, rfl⟩ := writeCell_ok enacted
    exact ⟨0, rfl⟩
  · obtain ⟨byte, middle, reading, rest⟩ := bind_ok enacted
    cases rest
    unfold readCell at reading
    split at reading
    · cases reading
    · cases reading
      exact ⟨byte.toNat, by simp [effect]⟩
  all_goals
    cases enacted
    refine ⟨0, ?_⟩
  -- What is left does nothing, with operands that belong to no instruction.
  any_goals rfl
  rw [effect] <;> assumption

/-- An instruction that fails once it is decoded leaves the registers alone. -/
theorem registers_of_enact_error (failed : enact opcode operands machine = .error fault after) :
    after.registers = machine.registers := by
  unfold enact at failed
  split at failed
  · have unchanged := registers_readDevice (widthOf operands) machine
    simp only [bind, EStateM.bind] at failed
    split at failed
    · cases failed
    · rename_i reading
      cases failed
      rw [reading] at unchanged
      exact unchanged
  · have unchanged := registers_writeDevice (widthOf operands)
      (machine.registers.operand (widthOf operands)) machine
    simp only [bind, EStateM.bind, get_apply] at failed
    rw [failed] at unchanged
    exact unchanged
  · simp only [bind, EStateM.bind, get_apply, writeCell] at failed
    split at failed
    · cases failed
      rfl
    · cases failed
  · simp only [bind, EStateM.bind, readCell] at failed
    split at failed
    · cases failed
    · rename_i unread
      cases failed
      split at unread
      · cases unread
        rfl
      · cases unread
  all_goals cases failed

end Enacting

/-! ## Operands in order -/

/-- The operands of an instruction are of the given kinds, and none of them is refused. -/
inductive InOrder (variant : Variant) (opcode : Opcode) : List OperandKind → List UInt8 → Prop
  | nil : InOrder variant opcode [] []
  | cons {address value : UInt8} {kind : OperandKind} {kinds : List OperandKind}
      {values : List UInt8} : operandFault? variant opcode address kind value = none →
        InOrder variant opcode kinds values →
          InOrder variant opcode (kind :: kinds) (value :: values)

section Decoding

variable {machine after : Machine δ} {variant : Variant} {opcode : Opcode} {kind : OperandKind}
  {kinds : List OperandKind} {value : UInt8} {operands : List UInt8}

theorem operandFault?_of_fetched (fetching : fetchOperand opcode kind machine = .ok value after) :
    operandFault? machine.variant opcode machine.pc kind value = none := by
  have readable := (fetchOperand_ok fetching).1
  rw [fetchOperand_eq, readable] at fetching
  dsimp only at fetching
  split at fetching
  · assumption
  · cases fetching

theorem inOrder_of_fetched (fetching : fetchOperands opcode kinds machine = .ok operands after) :
    InOrder machine.variant opcode kinds operands := by
  induction kinds generalizing machine operands with
  | nil =>
      cases fetching
      exact .nil
  | cons kind rest ih =>
      obtain ⟨value, middle, fetchedFirst, fetching⟩ := bind_ok fetching
      obtain ⟨values, last, fetchedRest, fetching⟩ := bind_ok fetching
      cases fetching
      have accepted := operandFault?_of_fetched fetchedFirst
      obtain ⟨-, rfl⟩ := fetchOperand_ok fetchedFirst
      have later : InOrder (machine.advanced 1).variant opcode rest values := ih fetchedRest
      exact .cons accepted later

/-- Fetching operands moves the program counter and changes nothing else, whether it succeeds or
not. -/
theorem registers_of_fetchOperands (opcode : Opcode) (kinds : List OperandKind)
    (machine : Machine δ) :
    ∃ pc, (stateOf (fetchOperands opcode kinds machine)).registers =
      { machine.registers with pc := pc } := by
  induction kinds generalizing machine with
  | nil => exact ⟨machine.pc, rfl⟩
  | cons kind rest ih =>
      simp only [fetchOperands, bind, EStateM.bind, fetchOperand_eq]
      cases machine.memory.readByte machine.pc.toNat with
      | error fault => exact ⟨machine.pc, rfl⟩
      | ok value =>
          dsimp only
          cases operandFault? machine.variant opcode machine.pc kind value with
          | some fault => exact ⟨machine.pc + 1, rfl⟩
          | none =>
              obtain ⟨pc, moved⟩ := ih (machine.advanced 1)
              refine ⟨pc, ?_⟩
              dsimp only
              cases fetching : fetchOperands opcode rest (machine.advanced 1) <;>
                rw [fetching] at moved <;> exact moved

/-- Decoding changes the program counter and the flags at most, whether it succeeds or not. -/
theorem registers_of_decode (byte : UInt8) (machine : Machine δ) :
    ∃ pc fl, (stateOf (decode byte machine)).registers =
      { machine.registers with pc := pc, fl := fl } := by
  unfold decode
  cases Opcode.ofByte? byte with
  | none => exact ⟨machine.pc, machine.registers.fl, rfl⟩
  | some opcode =>
      obtain ⟨pc, moved⟩ := registers_of_fetchOperands opcode
        (opcode.operandKinds machine.variant.isTagged) (machine.prepared opcode)
      refine ⟨pc, (machine.prepared opcode).registers.fl, ?_⟩
      dsimp only
      rw [moved]
      cases opcode <;> rfl

theorem loaded_of_decode {byte : UInt8} (known : Opcode.ofByte? byte = some opcode)
    (decoding : decode byte machine = .ok operands after) :
    after = (machine.prepared opcode).advanced operands.length ∧
      InOrder machine.variant opcode (opcode.operandKinds machine.variant.isTagged) operands := by
  simp only [decode, known] at decoding
  have inOrder := inOrder_of_fetched decoding
  have variant_eq : (machine.prepared opcode).variant = machine.variant := by cases opcode <;> rfl
  obtain ⟨rfl, length_eq, -⟩ := fetchOperands_ok decoding
  rw [variant_eq] at inOrder
  exact ⟨by rw [length_eq], inOrder⟩

/-- A register that is named by an operand in order is one that the machine has. -/
theorem has_registerOf {address : UInt8}
    (accepted : operandFault? variant opcode address .register value = none) :
    variant.has (registerOf value) = true := by
  unfold operandFault? at accepted
  cases resolved : variant.registerSet.resolve value.toNat with
  | error fault =>
      rw [resolved] at accepted
      cases accepted
  | ok register =>
      rw [registerOf_of_resolve resolved]
      exact RegisterSet.has_of_resolve resolved

/-- With operands in order, an instruction does not reach registers outside the machine. -/
theorem outside_effect (registers : Registers) (input : Nat)
    (inOrder : InOrder variant opcode (opcode.operandKinds variant.isTagged) operands) :
    (effect registers input opcode operands).outside variant = registers.outside variant := by
  cases variant with
  | word => rfl
  | byte =>
      cases opcode with
      | inp =>
          -- Without a width tag, the instruction acts on A.
          cases inOrder
          rfl
      | inc =>
          cases inOrder
          rw [effect, Registers.increment_eq]
          rfl
      | dec =>
          rw [effect, Registers.decrement_eq]
          rfl
      | add =>
          obtain _ | ⟨-, ⟨⟩⟩ := inOrder
          obtain ⟨fl, sum_eq⟩ := registers.addLiteral_frame _
          rw [effect, sum_eq]
          rfl
      | sub =>
          obtain _ | ⟨-, ⟨⟩⟩ := inOrder
          obtain ⟨fl, difference_eq⟩ := registers.subtractLiteral_frame _
          rw [effect, difference_eq]
          rfl
      | get =>
          obtain _ | ⟨accepted, _ | ⟨-, ⟨⟩⟩⟩ := inOrder
          exact Registers.outside_set (has_registerOf accepted) registers _
      | jmz | jmn =>
          obtain _ | ⟨-, ⟨⟩⟩ := inOrder
          rw [effect]
          split <;> rfl
      | jmp =>
          obtain _ | ⟨-, ⟨⟩⟩ := inOrder
          rfl
      | nop | out | put | halt => rfl

end Decoding

/-! ## Steps stay inside the machine -/

section Inside

variable [Device δ]

theorem outside_of_carryOut {address byte : UInt8} {operands : List UInt8}
    {machine loaded : Machine δ} (decoding : decode byte machine = .ok operands loaded) :
    (stateOf (carryOut address byte operands loaded)).registers.outside machine.variant =
      loaded.registers.outside machine.variant := by
  unfold carryOut
  cases known : Opcode.ofByte? byte with
  | none =>
      dsimp only [skip]
      split <;> rfl
  | some opcode =>
      dsimp only
      cases enacted : enact opcode operands loaded with
      | error fault after => rw [stateOf, registers_of_enact_error enacted]
      | ok done after =>
          obtain ⟨input, registers_eq⟩ := registers_of_enact enacted
          rw [stateOf, registers_eq]
          exact outside_effect loaded.registers input (loaded_of_decode known decoding).2

/-- No instruction changes a register that the machine does not have, whether it succeeds or not. -/
theorem outside_of_execute (address byte : UInt8) (machine : Machine δ) :
    (stateOf (execute address byte machine)).registers.outside machine.variant =
      machine.registers.outside machine.variant := by
  obtain ⟨pc, fl, moved⟩ := registers_of_decode byte machine
  have unchanged := Registers.outside_moved machine.registers pc fl machine.variant
  rw [← moved] at unchanged
  rw [execute_eq_decoded]
  simp only [bind, EStateM.bind]
  cases decoding : decode byte machine with
  | error fault loaded =>
      rw [decoding] at unchanged
      exact unchanged
  | ok operands loaded =>
      rw [decoding] at unchanged
      exact (outside_of_carryOut decoding).trans unchanged

/-- Nor does a step. -/
theorem outside_of_step (machine : Machine δ) :
    (stateOf (step machine)).registers.outside machine.variant =
      machine.registers.outside machine.variant := by
  cases status : machine.status with
  | halted => rw [step_of_halted status, stateOf]
  | running =>
      cases readable : machine.memory.readByte machine.pc.toNat with
      | error fault => rw [step_of_unreadable status readable, stateOf]
      | ok byte =>
          have fetched : (machine.fetched byte).registers.outside machine.variant =
              machine.registers.outside machine.variant :=
            Registers.outside_moved machine.registers (machine.pc + 1) machine.registers.fl _
          have executed := (outside_of_execute machine.pc byte (machine.fetched byte)).trans fetched
          rw [step_of_readable status readable]
          cases execution : execute machine.pc byte (machine.fetched byte) <;>
            rw [execution] at executed <;> exact executed

end Inside

/-! ## The effect of a step -/

namespace Consumes

variable [Device δ] {machine after : Machine δ} {byte : UInt8} {operands : List UInt8}

/-- A step has the effect of its instruction, on registers of which decoding has changed the
program counter and, for sums and differences, cleared the flags. -/
theorem effect_eq (consumes : machine.Consumes byte operands after) {opcode : Opcode}
    (known : Opcode.ofByte? byte = some opcode) :
    InOrder machine.variant opcode (opcode.operandKinds machine.variant.isTagged) operands ∧
      ∃ pc input, after.registers =
        effect { (machine.prepared opcode).registers with pc := pc } input opcode operands := by
  obtain ⟨loaded, executed, decoding, carried, rfl⟩ := consumes.executed
  obtain ⟨rfl, inOrder⟩ := loaded_of_decode known decoding
  simp only [carryOut, known] at carried
  obtain ⟨input, registers_eq⟩ := registers_of_enact carried
  refine ⟨inOrder, machine.pc + 1 + UInt8.ofNat operands.length, input, registers_eq.trans ?_⟩
  cases opcode <;> rfl

/-- A step over a byte that is no opcode moves the program counter. -/
theorem moved_of_unknown (consumes : machine.Consumes byte operands after)
    (unknown : Opcode.ofByte? byte = none) :
    ∃ pc, after.registers = { machine.registers with pc := pc } := by
  obtain ⟨loaded, executed, decoding, carried, rfl⟩ := consumes.executed
  simp only [decode, unknown] at decoding
  cases decoding
  simp only [carryOut, unknown, skip] at carried
  split at carried
  · cases carried
  · cases carried
    exact ⟨machine.pc + 1, rfl⟩

end Consumes

end Machine

/-! ## Accesses -/

/-- An access does not reach the registers. -/
def Access.sparesRegisters {δ : Type} : Access δ → Bool
  | .writeRegister _ _ | .writePair _ | .updateMask _ _ | .clearFlags => false
  | _ => true

theorem RegisterFile.outside_of_write {variant : Variant} {file : RegisterFile}
    (layout : file.layout = variant.registerSet) (number value : Int) :
    let written := stateOf (RegisterFile.write number value file)
    written.layout = variant.registerSet ∧
      written.values.outside variant = file.values.outside variant := by
  unfold RegisterFile.write
  rw [layout]
  cases resolved : variant.registerSet.resolve number with
  | error fault => exact ⟨layout, rfl⟩
  | ok register =>
      exact ⟨rfl, Registers.outside_set (RegisterSet.has_of_resolve resolved) _ _⟩

/-- The pair B:C is written register by register, so a machine without C keeps what it has in C. -/
theorem RegisterFile.outside_of_writePair {variant : Variant} {file : RegisterFile}
    (layout : file.layout = variant.registerSet) (value : Int) :
    (stateOf (RegisterFile.writePair value file)).values.outside variant =
      file.values.outside variant := by
  have first := outside_of_write layout Register.b.number (Word.high value).toNat
  simp only [writePair, bind, EStateM.bind]
  cases writing : RegisterFile.write Register.b.number (Word.high value).toNat file with
  | error fault middle =>
      rw [writing] at first
      exact first.2
  | ok done middle =>
      rw [writing] at first
      have second := outside_of_write first.1 Register.c.number (Word.low value).toNat
      exact second.2.trans first.2

namespace Machine

variable {δ : Type}

theorem registers_of_access {access : Access δ} (spared : access.sparesRegisters = true)
    (machine : Machine δ) : (machine.access access).registers = machine.registers := by
  cases access with
  | writeRegister | writePair | updateMask | clearFlags => cases spared
  | writeByte | writeWord =>
      simp only [Machine.access, writeByte, writeWord, onMemory]
      split <;> rfl
  | load image address =>
      simp only [Machine.access, load, bind, EStateM.bind, onMemory]
      cases machine.memory.load image address <;> rfl
  | checkInstruction pc =>
      simp only [Machine.access]
      split <;> rfl
  | clearMemory | debug | checkWrite | observe | attach => rfl

theorem outside_onRegisters {α : Type} {action : Action RegisterFile α} {machine : Machine δ}
    (keeps : (stateOf (action machine.registerFile)).values.outside machine.variant =
      machine.registers.outside machine.variant) :
    (stateOf (onRegisters action machine)).registers.outside machine.variant =
      machine.registers.outside machine.variant := by
  unfold onRegisters
  cases acted : action machine.registerFile <;> rw [acted] at keeps <;> exact keeps

/-- No access changes a register that the machine does not have. -/
theorem outside_of_access (machine : Machine δ) (access : Access δ) :
    (machine.access access).registers.outside machine.variant =
      machine.registers.outside machine.variant := by
  cases spared : access.sparesRegisters with
  | true => rw [registers_of_access spared]
  | false =>
      cases access with
      | writeRegister number value =>
          exact outside_onRegisters (RegisterFile.outside_of_write rfl number value).2
      | writePair value => exact outside_onRegisters (RegisterFile.outside_of_writePair rfl value)
      | updateMask mask on =>
          simp only [Machine.access, updateMask?, Registers.updateMask?, Registers.setMask?]
          split
          · split
            · exact Registers.outside_moved machine.registers machine.pc _ _
            · rfl
          · exact Registers.outside_moved machine.registers machine.pc _ _
      | clearFlags => exact Registers.outside_moved machine.registers machine.pc 0 _
      | _ => cases spared

end Machine

end ByteMachine
