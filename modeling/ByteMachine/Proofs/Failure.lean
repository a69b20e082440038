import ByteMachine.Proofs.Flags
import ByteMachine.Proofs.InputOutput
import ByteMachine.Proofs.Stores

/-!
# What a failing step leaves behind

A step that fails has fetched some bytes of its instruction, and the program counter has passed
them. Sums and differences have cleared the flags by then. Nothing else that a program works with
has changed, apart from what the device did when it was called.
-/

namespace ByteMachine.Machine

variable {δ : Type}

/-! ## Bytes that are taken -/

/-- The operand bytes that are taken from memory, from an address on. They end before the first cell
that does not exist, or with the first byte that is refused. -/
def operandsTaken (memory : Memory) (variant : Variant) (opcode : Opcode) :
    UInt8 → List OperandKind → List UInt8
  | _, [] => []
  | address, kind :: rest =>
    match memory.readByte address.toNat with
    | .error _ => []
    | .ok value =>
      match operandFault? variant opcode address kind value with
      | some _ => [value]
      | none => value :: operandsTaken memory variant opcode (address + 1) rest

/-- The bytes that a step takes from memory, from the program counter on: the opcode, and then its
operands in the order of the table, as far as they go. -/
def taken (machine : Machine δ) : List UInt8 :=
  match machine.memory.readByte machine.pc.toNat with
  | .error _ => []
  | .ok byte =>
    match Opcode.ofByte? byte with
    | none => [byte]
    | some opcode =>
      byte :: operandsTaken machine.memory machine.variant opcode (machine.pc + 1)
        (opcode.operandKinds machine.variant.isTagged)

section Taken

variable {machine : Machine δ} {byte : UInt8} {opcode : Opcode}

/-- The operand bytes that are taken stand one behind the other. -/
theorem operandsTaken_stand {memory : Memory} {variant : Variant} {address : UInt8}
    {kinds : List OperandKind} {index : Nat} {value : UInt8}
    (found : (operandsTaken memory variant opcode address kinds)[index]? = some value) :
    memory.readByte (address + UInt8.ofNat index).toNat = .ok value := by
  induction kinds generalizing address index with
  | nil => cases found
  | cons kind rest ih =>
      rw [operandsTaken] at found
      cases readable : memory.readByte address.toNat with
      | error fault =>
          rw [readable] at found
          cases found
      | ok first =>
          simp only [readable] at found
          cases index with
          | zero =>
              have unmoved : address + UInt8.ofNat 0 = address := UInt8.add_zero address
              have first_eq : first = value := by
                split at found <;> exact Option.some.inj found
              rw [unmoved, readable, first_eq]
          | succ index =>
              split at found
              · cases found
              · rw [← pc_add_succ]
                exact ih found

/-- So do all bytes that a step takes. -/
theorem taken_stand {index : Nat} {value : UInt8} (found : machine.taken[index]? = some value) :
    machine.memory.readByte ((machine.pc.toNat + index) % 256 : Nat) = .ok value := by
  rw [← toNat_add_ofNat]
  rw [taken] at found
  cases readable : machine.memory.readByte machine.pc.toNat with
  | error fault =>
      rw [readable] at found
      cases found
  | ok byte =>
      simp only [readable] at found
      cases index with
      | zero =>
          have unmoved : machine.pc + UInt8.ofNat 0 = machine.pc := UInt8.add_zero machine.pc
          have byte_eq : byte = value := by
            split at found <;> exact Option.some.inj found
          rw [unmoved, readable, byte_eq]
      | succ index =>
          split at found
          · cases found
          · rw [← pc_add_succ]
            exact operandsTaken_stand found

theorem taken_of_unreadable {fault : Fault}
    (unreadable : machine.memory.readByte machine.pc.toNat = .error fault) :
    machine.taken = [] := by
  rw [taken, unreadable]

theorem taken_of_unknown (readable : machine.memory.readByte machine.pc.toNat = .ok byte)
    (unknown : Opcode.ofByte? byte = none) : machine.taken = [byte] := by
  rw [taken, readable]
  simp only [unknown]

theorem taken_of_known (readable : machine.memory.readByte machine.pc.toNat = .ok byte)
    (known : Opcode.ofByte? byte = some opcode) :
    machine.taken =
      byte :: operandsTaken machine.memory machine.variant opcode (machine.pc + 1)
        (opcode.operandKinds machine.variant.isTagged) := by
  rw [taken, readable]
  simp only [known]

/-- Fetching operands moves the program counter behind those that are taken, whether it succeeds or
not. -/
theorem state_of_fetchOperands (opcode : Opcode) (kinds : List OperandKind)
    (machine : Machine δ) :
    stateOf (fetchOperands opcode kinds machine) =
      machine.advanced
        (operandsTaken machine.memory machine.variant opcode machine.pc kinds).length := by
  induction kinds generalizing machine with
  | nil => exact (advanced_zero machine).symm
  | cons kind rest ih =>
      simp only [fetchOperands, bind, EStateM.bind, fetchOperand_eq, operandsTaken]
      cases machine.memory.readByte machine.pc.toNat with
      | error fault => exact (advanced_zero machine).symm
      | ok value =>
          dsimp only
          cases operandFault? machine.variant opcode machine.pc kind value with
          | some fault => rfl
          | none =>
              have later := ih (machine.advanced 1)
              rw [advanced_advanced] at later
              dsimp only
              cases fetching : fetchOperands opcode rest (machine.advanced 1) <;>
                rw [fetching] at later <;> exact later

end Taken

/-! ## Registers after a failure -/

/-- The flags that a failing step leaves behind. Sums and differences have cleared them. -/
def flagsLeft (machine : Machine δ) : UInt8 :=
  if machine.nextOpcode? = some .add ∨ machine.nextOpcode? = some .sub then 0
  else machine.registers.fl

/-- The registers that a failing step leaves behind. -/
def registersLeft (machine : Machine δ) : Registers :=
  { machine.registers with
    pc := machine.pc + UInt8.ofNat machine.taken.length
    fl := machine.flagsLeft }

section Left

variable {machine after : Machine δ} {byte : UInt8} {opcode : Opcode} {fault : Fault}

/-- Decoding a known opcode leaves the registers as a failing step does, whether it succeeds or
not. -/
theorem registers_of_decoding (readable : machine.memory.readByte machine.pc.toNat = .ok byte)
    (known : Opcode.ofByte? byte = some opcode) :
    (stateOf (decode byte (machine.fetched byte))).registers = machine.registersLeft := by
  have next := (nextOpcode?_of_readable readable).trans known
  rw [decode_ready known, state_of_fetchOperands, ready_memory, ready_variant, registersLeft,
    flagsLeft, next, taken_of_known readable known, List.length_cons, ← pc_add_succ]
  cases opcode <;> rfl

theorem agreeBut_registersLeft (machine : Machine δ) :
    machine.registers.AgreeBut [.pc, .fl] machine.registersLeft := by
  have passed := (Registers.AgreeBut.refl [.pc, .fl] machine.registers).set .pc (by decide)
    (machine.pc + UInt8.ofNat machine.taken.length)
  exact passed.set .fl (by decide) machine.flagsLeft

/-- Where the flags are left alone, the program counter is the only register that differs. -/
theorem agreeBut_pc_iff :
    machine.registers.AgreeBut [.pc] machine.registersLeft ↔
      machine.flagsLeft = machine.registers.fl := by
  constructor
  · intro agree
    exact agree .fl (by decide)
  · intro kept register other
    cases register with
    | pc => simp at other
    | fl => exact kept
    | a | b | c | d | i => rfl

theorem flagsLeft_of_other (other : machine.computes = false) :
    machine.flagsLeft = machine.registers.fl := by
  have plain : ¬(machine.nextOpcode? = some .add ∨ machine.nextOpcode? = some .sub) := by
    rintro (next | next) <;> simp [computes, next] at other
  rw [flagsLeft, if_neg plain]

variable [Device δ]

/-- A failing step has moved the program counter behind the bytes that it has taken, and sums and
differences have cleared the flags. All other registers are as before. -/
theorem registers_of_fault (running : machine.status = .running)
    (failed : step machine = .error fault after) : after.registers = machine.registersLeft := by
  cases readable : machine.memory.readByte machine.pc.toNat with
  | error problem =>
      rw [step_of_unreadable running readable] at failed
      cases failed
      have next : machine.nextOpcode? = none := by
        simp [nextOpcode?, byteAhead?, readable, Except.toOption]
      rw [registersLeft, flagsLeft, next, taken_of_unreadable readable]
      exact congrArg Machine.registers (advanced_zero machine).symm
  | ok byte =>
      rw [step_eq_decoded running readable] at failed
      cases known : Opcode.ofByte? byte with
      | none =>
          -- There are no operands, and a byte that is refused leaves the machine as it is then.
          have next := (nextOpcode?_of_readable readable).trans known
          rw [registersLeft, flagsLeft, next, taken_of_unknown readable known]
          simp only [bind, EStateM.bind, decode, carryOut, known, skip] at failed
          split at failed
          · rename_i refused
            cases failed
            split at refused
            · cases refused
              rfl
            · cases refused
          · cases failed
      | some opcode =>
          rw [← registers_of_decoding readable known]
          simp only [bind, EStateM.bind, carryOut, known] at failed
          cases decoding : decode byte (machine.fetched byte) with
          | error problem loaded =>
              rw [decoding] at failed
              cases failed
              rfl
          | ok operands loaded =>
              simp only [decoding] at failed
              split at failed
              · rename_i unenacted
                cases failed
                exact registers_of_enact_error unenacted
              · cases failed

end Left

/-! ## What is kept -/

/-- What a program works with and a debugger watches is kept, apart from some registers. -/
structure KeepsBut (changed : List Register) (before after : Machine δ) : Prop where
  /-- The contents of memory. -/
  memory : after.memory = before.memory
  /-- Whether the machine can go on. -/
  status : after.status = before.status
  /-- The count of steps. -/
  steps : after.steps = before.steps
  /-- The event that ended the last run. -/
  lastEvent : after.lastEvent = before.lastEvent
  /-- The breakpoints. -/
  breakpoints : after.debugger.breakpoints = before.debugger.breakpoints
  /-- The watched addresses. -/
  watchpoints : after.debugger.watchpoints = before.debugger.watchpoints
  /-- The conditions. -/
  conditions : after.debugger.conditions = before.debugger.conditions
  /-- The registers that are not changed. -/
  registers : before.registers.AgreeBut changed after.registers

section Kept

variable [Device δ] {machine after : Machine δ} {fault : Fault}

/-- A failing step keeps all that its registers allow. -/
theorem keepsBut_of_fault {changed : List Register} (running : machine.status = .running)
    (failed : step machine = .error fault after)
    (agree : machine.registers.AgreeBut changed machine.registersLeft) :
    KeepsBut changed machine after := by
  obtain ⟨status_eq, steps_eq⟩ := unended_of_fault running failed
  have frame := frame_of_fault failed
  have spared := spared_of_fault running failed
  exact
    { memory := spared.memory
      status := status_eq.trans running.symm
      steps := steps_eq
      lastEvent := frame.lastEvent
      breakpoints := frame.debugger.breakpoints
      watchpoints := frame.debugger.watchpoints
      conditions := frame.debugger.conditions
      registers := registers_of_fault running failed ▸ agree }

theorem pc_of_fault (running : machine.status = .running)
    (failed : step machine = .error fault after) :
    after.pc = machine.pc + UInt8.ofNat machine.taken.length :=
  congrArg Registers.pc (registers_of_fault running failed)

theorem fl_of_fault (running : machine.status = .running)
    (failed : step machine = .error fault after) : after.registers.fl = machine.flagsLeft :=
  congrArg Registers.fl (registers_of_fault running failed)

end Kept

/-! ## Arithmetic that fails -/

section Arithmetic

variable [Device δ] {machine after : Machine δ} {fault : Fault}

/-- A decrement has no operands, so it does not fail. -/
theorem not_decrement_of_fault (running : machine.status = .running)
    (failed : step machine = .error fault after) : machine.nextOpcode? ≠ some .dec := by
  intro next
  obtain ⟨byte, readable, known⟩ := readable_of_nextOpcode? next
  rw [step_of_readable running readable, execute, known] at failed
  cases failed

/-- Of the arithmetic that can fail, only an increment leaves the flags alone. -/
theorem flagsLeft_of_arithmetic (running : machine.status = .running)
    (arithmetic : machine.computes = true) (failed : step machine = .error fault after) :
    machine.flagsLeft =
      if machine.nextOpcode? = some .inc then machine.registers.fl else 0 := by
  have failing := not_decrement_of_fault running failed
  rw [flagsLeft]
  cases next : machine.nextOpcode? with
  | none => simp [computes, next] at arithmetic
  | some opcode =>
      cases opcode with
      | inc | add | sub => rfl
      | dec => exact absurd next failing
      | _ => simp [computes, next] at arithmetic

/-- Arithmetic that fails has passed the bytes that it has taken. An increment has changed nothing
else. A sum or a difference has cleared the flags besides, so that the registers are as before only
if no flag was set. A decrement never fails. -/
theorem failed_arithmetic_keeps_all_but_flags (running : machine.status = .running)
    (arithmetic : machine.computes = true) (failed : step machine = .error fault after) :
    machine.nextOpcode? ≠ some .dec ∧ KeepsBut [.pc, .fl] machine after ∧
      after.pc = machine.pc + UInt8.ofNat machine.taken.length ∧
      after.registers.fl =
        (if machine.nextOpcode? = some .inc then machine.registers.fl else 0) ∧
      (machine.registers.AgreeBut [.pc] after.registers ↔
        machine.nextOpcode? = some .inc ∨ machine.registers.fl = 0) := by
  have flags := flagsLeft_of_arithmetic running arithmetic failed
  refine ⟨not_decrement_of_fault running failed,
    keepsBut_of_fault running failed (agreeBut_registersLeft machine), pc_of_fault running failed,
    (fl_of_fault running failed).trans flags, ?_⟩
  rw [registers_of_fault running failed, agreeBut_pc_iff, flags]
  constructor
  · intro kept
    by_cases increments : machine.nextOpcode? = some .inc
    · exact Or.inl increments
    · rw [if_neg increments] at kept
      exact Or.inr kept.symm
  · rintro (increments | unset)
    · rw [if_pos increments]
    · rw [unset, ite_self]

end Arithmetic

/-- A machine of one cell that holds a sum without its literal, in which the zero flag is set. -/
def cutSum : Machine Scripted :=
  { start (.ofVariant .byte (MemorySize.ofInt? 1)) (Scripted.ofInputs []) with
    memory := ⟨#[0x05]⟩
    registers := { Registers.zeroed with fl := Flag.zero.mask } }

theorem failed_arithmetic_keeps_all_but_flags_in_sum :
    ∃ after, step cutSum = .error (.outsideMemory 1 1 1) after ∧
      KeepsBut [.pc, .fl] cutSum after ∧ after.pc = 1 ∧ after.registers.fl = 0 := by
  obtain ⟨after, failed⟩ : ∃ after, step cutSum = .error (.outsideMemory 1 1 1) after := ⟨_, rfl⟩
  obtain ⟨-, keeps, pc_eq, fl_eq, -⟩ :=
    failed_arithmetic_keeps_all_but_flags rfl (by decide +kernel) failed
  have one : cutSum.pc + UInt8.ofNat cutSum.taken.length = 1 := by decide +kernel
  have sum : cutSum.nextOpcode? ≠ some .inc := by decide +kernel
  rw [if_neg sum] at fl_eq
  exact ⟨after, failed, keeps, pc_eq.trans one, fl_eq⟩

/-- A sum whose literal is cut off has cleared the flags, although it computes nothing. -/
theorem flags_lost_in_failed_sum :
    ¬∀ (machine after : Machine Scripted) (fault : Fault), machine.status = .running →
      machine.computes = true → step machine = .error fault after →
        after.memory = machine.memory ∧ after.status = machine.status ∧
          after.steps = machine.steps ∧ machine.registers.AgreeBut [.pc] after.registers := by
  intro always_kept
  obtain ⟨after, failed, lost⟩ : ∃ after, step cutSum = .error (.outsideMemory 1 1 1) after ∧
      after.registers.fl = 0 := ⟨_, rfl, rfl⟩
  obtain ⟨-, -, -, agree⟩ := always_kept cutSum after _ rfl (by decide +kernel) failed
  have kept : after.registers.fl = Flag.zero.mask := agree .fl (by decide)
  rw [lost] at kept
  exact absurd kept (by decide)

/-! ## Other steps that fail -/

section Scripts

variable {machine after : Machine Scripted} {fault : Fault}

/-- A failing step puts nothing out and takes one input at most. It takes none if it fails because
the device does. -/
theorem script_of_fault (running : machine.status = .running)
    (failed : step machine = .error fault after) :
    after.device.outputs = machine.device.outputs ∧
      ∃ consumed, machine.device.inputs = consumed ++ after.device.inputs ∧
        consumed.length ≤ 1 ∧
        ∀ operation failure, fault = .device operation (.failed failure) → consumed = [] := by
  have exchanges := exchanges_of_attempt running
  rw [failed] at exchanges
  cases exchanges with
  | @refuses width input rest _ _ waiting device_eq =>
      rw [device_eq, waiting]
      exact ⟨rfl, [input], rfl, Nat.le_refl 1, fun _ _ => nofun⟩
  | lacks _ _ device_eq =>
      rw [device_eq]
      exact ⟨rfl, [], rfl, Nat.zero_le 1, fun _ _ _ => rfl⟩
  | silent _ _ device_eq =>
      have device_eq : after.device = machine.device := device_eq
      rw [device_eq]
      exact ⟨rfl, [], rfl, Nat.zero_le 1, fun _ _ _ => rfl⟩

end Scripts

/-- A failing step that is no arithmetic has moved the program counter behind the bytes that it has
taken, which stand one behind the other, and has changed nothing else. With a scripted device it has
put nothing out and has taken one input at most, none if the device had none. -/
theorem failed_step_moves_only_pc :
    (∀ {δ : Type} [Device δ] {machine after : Machine δ} {fault : Fault},
      machine.status = .running → machine.computes = false → step machine = .error fault after →
        KeepsBut [.pc] machine after ∧
        after.pc = machine.pc + UInt8.ofNat machine.taken.length ∧
        ∀ index (within : index < machine.taken.length),
          machine.memory.readByte ((machine.pc.toNat + index) % 256 : Nat) =
            .ok machine.taken[index]) ∧
    ∀ {machine after : Machine Scripted} {fault : Fault},
      machine.status = .running → machine.computes = false → step machine = .error fault after →
        after.device.outputs = machine.device.outputs ∧
        ∃ consumed, machine.device.inputs = consumed ++ after.device.inputs ∧
          consumed.length ≤ 1 ∧
          ∀ operation failure, fault = .device operation (.failed failure) → consumed = [] := by
  constructor
  · intro δ _ machine after fault running other failed
    have agree := agreeBut_pc_iff.mpr (flagsLeft_of_other other)
    refine ⟨keepsBut_of_fault running failed agree, pc_of_fault running failed, ?_⟩
    intro index within
    exact taken_stand (List.getElem?_eq_getElem within)
  · intro machine after fault running _ failed
    exact script_of_fault running failed

/-- A machine with words that reads a word and finds a number which is too large for one. -/
def misfed : Machine Scripted :=
  { start (.ofVariant .word (MemorySize.ofInt? 2))
      (Scripted.ofInputs [.number 70000, .number 1]) with
    memory := ⟨#[0x01, 0x02]⟩ }

theorem failed_step_moves_only_pc_at_refusal :
    ∃ after, step misfed =
        .error (.device (Device.readName .word) (.refused (.number 70000) 65535)) after ∧
      KeepsBut [.pc] misfed after ∧ after.pc = 2 ∧ after.device.outputs = [] ∧
      ∃ consumed, misfed.device.inputs = consumed ++ after.device.inputs ∧
        consumed.length ≤ 1 := by
  obtain ⟨after, failed⟩ : ∃ after, step misfed =
      .error (.device (Device.readName .word) (.refused (.number 70000) 65535)) after := ⟨_, rfl⟩
  have other : misfed.computes = false := by decide +kernel
  have two : misfed.pc + UInt8.ofNat misfed.taken.length = 2 := by decide +kernel
  obtain ⟨keeps, pc_eq, -⟩ := failed_step_moves_only_pc.1 rfl other failed
  obtain ⟨outputs_eq, consumed, inputs_eq, few, -⟩ := failed_step_moves_only_pc.2 rfl other failed
  exact ⟨after, failed, keeps, pc_eq.trans two, outputs_eq, consumed, inputs_eq, few⟩

end ByteMachine.Machine
