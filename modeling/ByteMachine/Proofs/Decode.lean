import ByteMachine.Listing
import ByteMachine.Proofs.Cells
import ByteMachine.Proofs.Step

/-!
# Decoding by the table

The table of opcodes lists the operands that follow each opcode. To execute an instruction comes to
the same as to fetch the operands that the table lists, each one checked as it comes, and then to
carry the instruction out with these bytes, which fetches nothing more. What a step fetches, and
how it can fail, is read off this form.
-/

namespace ByteMachine.Machine

variable {δ : Type}

/-! ## Fetching operands -/

/-- The fault of an operand byte that was fetched from an address, if the byte is not in order. -/
def operandFault? (variant : Variant) (opcode : Opcode) (address : UInt8) (kind : OperandKind)
    (value : UInt8) : Option Fault :=
  match kind with
  | .width =>
    if (Width.ofTag? value).isSome then none
    else some (.invalidWidth opcode.mnemonic value.toNat (some address.toNat))
  | .register =>
    match variant.registerSet.resolve value.toNat with
    | .ok _ => none
    | .error fault => some fault
  | .immediate | .address => none

/-- Fetches an operand and checks it. -/
def fetchOperand (opcode : Opcode) (kind : OperandKind) : Action (Machine δ) UInt8 := do
  let machine ← get
  let value ← fetch
  match operandFault? machine.variant opcode machine.pc kind value with
  | none => return value
  | some fault => throw fault

/-- Fetches operands of the given kinds, one after the other. -/
def fetchOperands (opcode : Opcode) : List OperandKind → Action (Machine δ) (List UInt8)
  | [] => return []
  | kind :: rest => do
    let value ← fetchOperand opcode kind
    let values ← fetchOperands opcode rest
    return value :: values

/-- A machine about to fetch the operands of an instruction. Sums and differences have cleared the
flags by then. -/
def prepared (machine : Machine δ) : Opcode → Machine δ
  | .add | .sub => machine.clearFlags
  | _ => machine

/-- Fetches the operands of an instruction that begins with a byte; a byte that is no opcode has
none. -/
def decode (byte : UInt8) : Action (Machine δ) (List UInt8) := fun machine =>
  match Opcode.ofByte? byte with
  | some opcode =>
    fetchOperands opcode (opcode.operandKinds machine.variant.isTagged) (machine.prepared opcode)
  | none => .ok [] machine

/-! ## Carrying an instruction out -/

/-- The width that operands give, which is a byte where there is no tag. -/
def widthOf (operands : List UInt8) : Width :=
  (operands.head?.bind Width.ofTag?).getD .byte

/-- The register with a number, if there is one. -/
def registerOf (number : UInt8) : Register :=
  (Register.ofNumber? number.toNat).getD .a

/-- What an instruction does with its operands. -/
def enact [Device δ] : Opcode → List UInt8 → Action (Machine δ) Unit
  | .inp, operands => do
    let value ← readDevice (widthOf operands)
    update (·.store (widthOf operands) value)
  | .out, operands => do
    let machine ← get
    writeDevice (widthOf operands) (machine.registers.operand (widthOf operands))
  | .put, [number, address] => do
    let machine ← get
    writeCell address (machine.registers.get (registerOf number))
  | .get, [number, address] => do
    let byte ← readCell address
    update (·.set (registerOf number) byte)
  | .add, [value] => update (·.addLiteral value)
  | .sub, [value] => update (·.subtractLiteral value)
  | .inc, operands => update (·.increment (widthOf operands))
  | .dec, _ => update (·.decrement)
  | .jmp, [target] => update ({ · with pc := target })
  | .jmz, [target] =>
    update fun registers =>
      if registers.flag .zero then { registers with pc := target } else registers
  | .jmn, [target] =>
    update fun registers =>
      if registers.flag .sign then { registers with pc := target } else registers
  | .halt, _ => modify fun machine => { machine with status := .halted }
  | _, _ => return ()

/-- Carries out the instruction that begins with a byte fetched from an address. -/
def carryOut [Device δ] (address byte : UInt8) (operands : List UInt8) : Action (Machine δ) Unit :=
  match Opcode.ofByte? byte with
  | some opcode => enact opcode operands
  | none => skip address byte

/-! ## Executing is decoding and carrying out -/

section Factor

variable {machine after : Machine δ} {opcode : Opcode}

/-- A byte that is a literal or an address is in order whatever it is. -/
theorem fetchOperand_plain {kind : OperandKind} (plain : kind = .immediate ∨ kind = .address) :
    fetchOperand opcode kind = (fetch : Action (Machine δ) UInt8) := by
  funext machine
  obtain rfl | rfl := plain
  all_goals
    simp only [fetchOperand, bind, EStateM.bind, get_apply, operandFault?]
    cases fetch machine <;> rfl

theorem fetchWidth_eq (tagged : machine.variant.isTagged = true) :
    fetchWidth opcode machine =
      (fetchOperand opcode .width >>= fun tag => pure (widthOf [tag])) machine := by
  simp only [fetchWidth, fetchOperand, bind, EStateM.bind, get_apply, tagged, ↓reduceIte]
  cases fetch machine with
  | error fault after => rfl
  | ok tag after =>
      cases found : Width.ofTag? tag with
      | none => simp only [operandFault?, found]; rfl
      | some width =>
          have width_eq : widthOf [tag] = width := by simp [widthOf, found]
          simp only [operandFault?, found]
          rw [← width_eq]
          rfl

theorem registerOf_of_resolve {layout : RegisterSet} {number : UInt8} {register : Register}
    (resolved : layout.resolve number.toNat = .ok register) : registerOf number = register := by
  unfold RegisterSet.resolve at resolved
  split at resolved
  · cases resolved
  · rename_i found known
    split at resolved
    · cases resolved
      rw [registerOf, known]
      rfl
    · cases resolved

theorem fetchRegister_eq (opcode : Opcode) :
    fetchRegister =
      (fetchOperand opcode .register >>= fun number => pure (registerOf number) :
        Action (Machine δ) Register) := by
  funext machine
  simp only [fetchRegister, fetchOperand, bind, EStateM.bind, get_apply]
  cases fetching : fetch machine with
  | error fault after => rfl
  | ok number after =>
      obtain ⟨-, rfl⟩ := fetch_ok fetching
      dsimp only [operandFault?, variant]
      cases resolved : machine.config.variant.registerSet.resolve number.toNat with
      | error fault => rfl
      | ok register =>
          rw [← registerOf_of_resolve resolved]
          rfl

theorem bind_congr_at {σ α β : Type} {first second : Action σ α} {next : α → Action σ β}
    {state : σ} (same : first state = second state) :
    (first >>= next) state = (second >>= next) state := by
  simp only [bind, EStateM.bind, same]

variable [Device δ]

/-- The instructions that carry a width tag are decoded as the table says. -/
theorem perform_sized {next : Width → Action (Machine δ) Unit}
    (performs : perform opcode = fetchWidth opcode >>= next) (sized : opcode.isSized = true)
    (plain : opcode.operands = []) (unprepared : machine.prepared opcode = machine)
    (enacts : ∀ operands, enact opcode operands = next (widthOf operands)) :
    perform opcode machine =
      (fetchOperands opcode (opcode.operandKinds machine.variant.isTagged) >>= enact opcode)
        (machine.prepared opcode) := by
  rw [performs, unprepared]
  cases tagged : machine.variant.isTagged with
  | true =>
      rw [bind_congr_at (fetchWidth_eq tagged)]
      simp [Opcode.operandKinds, sized, plain, fetchOperands, enacts]
  | false =>
      -- Without tags nothing is fetched, and the table lists nothing.
      have width : fetchWidth opcode machine = (pure .byte : Action (Machine δ) Width) machine := by
        simp only [fetchWidth, bind, EStateM.bind, get_apply, tagged]
        rfl
      rw [bind_congr_at width]
      simp [Opcode.operandKinds, sized, plain, fetchOperands, enacts, widthOf]

/-- Every instruction fetches the operands that the table lists and is then carried out. -/
theorem perform_eq_decoded (opcode : Opcode) (machine : Machine δ) :
    perform opcode machine =
      (fetchOperands opcode (opcode.operandKinds machine.variant.isTagged) >>= enact opcode)
        (machine.prepared opcode) := by
  cases opcode with
  | inp => exact perform_sized rfl rfl rfl rfl fun _ => rfl
  | out => exact perform_sized rfl rfl rfl rfl fun _ => rfl
  | inc => exact perform_sized rfl rfl rfl rfl fun _ => rfl
  | put =>
      simp [Opcode.operandKinds, Opcode.isSized, Opcode.operands, fetchOperands, prepared, perform,
        fetchRegister_eq .put, fetchOperand_plain, enact]
  | get =>
      simp [Opcode.operandKinds, Opcode.isSized, Opcode.operands, fetchOperands, prepared, perform,
        fetchRegister_eq .get, fetchOperand_plain, enact]
  | add =>
      simp [Opcode.operandKinds, Opcode.isSized, Opcode.operands, fetchOperands, prepared,
        fetchOperand_plain, enact]
      rfl
  | sub =>
      simp [Opcode.operandKinds, Opcode.isSized, Opcode.operands, fetchOperands, prepared,
        fetchOperand_plain, enact]
      rfl
  | jmp =>
      simp [Opcode.operandKinds, Opcode.isSized, Opcode.operands, fetchOperands, prepared, perform,
        jumpIf, fetchOperand_plain, enact]
  | jmz =>
      simp [Opcode.operandKinds, Opcode.isSized, Opcode.operands, fetchOperands, prepared, perform,
        jumpIf, fetchOperand_plain, enact]
  | jmn =>
      simp [Opcode.operandKinds, Opcode.isSized, Opcode.operands, fetchOperands, prepared, perform,
        jumpIf, fetchOperand_plain, enact]
  | nop => rfl
  | dec => rfl
  | halt => rfl

/-- So is every byte that is executed. -/
theorem execute_eq_decoded (address byte : UInt8) :
    execute address byte =
      (decode byte >>= carryOut address byte : Action (Machine δ) Unit) := by
  funext machine
  cases known : Opcode.ofByte? byte with
  | none => simp only [execute, decode, carryOut, known, bind, EStateM.bind]
  | some opcode =>
      simp only [execute, known]
      rw [perform_eq_decoded]
      simp only [decode, carryOut, known, bind, EStateM.bind]

/-- A step whose opcode can be read decodes it and carries it out. -/
theorem step_eq_decoded {byte : UInt8} (running : machine.status = .running)
    (readable : machine.memory.readByte machine.pc.toNat = .ok byte) :
    step machine =
      match (decode byte >>= carryOut machine.pc byte) (machine.fetched byte) with
      | .error fault executed => .error fault executed
      | .ok () executed => .ok (stepEvent machine.pc executed.counted) executed.counted := by
  have stepped := step_of_readable running readable
  rw [execute_eq_decoded] at stepped
  exact stepped

end Factor

/-! ## What decoding has fetched -/

/-- A machine whose program counter has passed some more bytes. -/
def advanced (machine : Machine δ) (count : Nat) : Machine δ :=
  { machine with registers := { machine.registers with pc := machine.pc + UInt8.ofNat count } }

theorem advanced_zero (machine : Machine δ) : machine.advanced 0 = machine := by
  have unmoved : machine.pc + UInt8.ofNat 0 = machine.registers.pc := UInt8.add_zero machine.pc
  rw [advanced, unmoved]

theorem pc_add_succ (pc : UInt8) (count : Nat) :
    pc + 1 + UInt8.ofNat count = pc + UInt8.ofNat (count + 1) := by
  rw [UInt8.ofNat_add, UInt8.add_assoc, UInt8.add_comm 1]
  rfl

theorem advanced_advanced (machine : Machine δ) (count : Nat) :
    (machine.advanced 1).advanced count = machine.advanced (count + 1) := by
  have moved : (machine.advanced 1).pc + UInt8.ofNat count = machine.pc + UInt8.ofNat (count + 1) :=
    pc_add_succ machine.pc count
  rw [advanced, moved]
  rfl

section Fetched

variable {machine after : Machine δ} {opcode : Opcode} {kind : OperandKind}
  {kinds : List OperandKind} {value : UInt8} {operands : List UInt8} {fault : Fault}

/-- An operand is read from the cell at the program counter and then checked. -/
theorem fetchOperand_eq (opcode : Opcode) (kind : OperandKind) (machine : Machine δ) :
    fetchOperand opcode kind machine =
      match machine.memory.readByte machine.pc.toNat with
      | .error fault => .error fault machine
      | .ok value =>
        match operandFault? machine.variant opcode machine.pc kind value with
        | none => .ok value (machine.advanced 1)
        | some fault => .error fault (machine.advanced 1) := by
  simp only [fetchOperand, bind, EStateM.bind, get_apply, fetch]
  cases machine.memory.readByte machine.pc.toNat with
  | error fault => rfl
  | ok value =>
      dsimp only
      cases operandFault? machine.variant opcode machine.pc kind value <;> rfl

theorem fetchOperand_ok (fetching : fetchOperand opcode kind machine = .ok value after) :
    machine.memory.readByte machine.pc.toNat = .ok value ∧ after = machine.advanced 1 := by
  rw [fetchOperand_eq] at fetching
  cases readable : machine.memory.readByte machine.pc.toNat with
  | error fault =>
      rw [readable] at fetching
      cases fetching
  | ok byte =>
      rw [readable] at fetching
      dsimp only at fetching
      split at fetching
      · cases fetching
        exact ⟨rfl, rfl⟩
      · cases fetching

theorem fetchOperand_error (failed : fetchOperand opcode kind machine = .error fault after) :
    machine.memory.readByte machine.pc.toNat = .error fault ∨
      ∃ byte, operandFault? machine.variant opcode machine.pc kind byte = some fault := by
  rw [fetchOperand_eq] at failed
  cases readable : machine.memory.readByte machine.pc.toNat with
  | error problem =>
      rw [readable] at failed
      cases failed
      exact Or.inl rfl
  | ok byte =>
      rw [readable] at failed
      dsimp only at failed
      split at failed
      · cases failed
      · rename_i found
        cases failed
        exact Or.inr ⟨byte, found⟩

/-- Operands that were fetched are the bytes behind the program counter, which has passed them. -/
theorem fetchOperands_ok (fetching : fetchOperands opcode kinds machine = .ok operands after) :
    after = machine.advanced kinds.length ∧ operands.length = kinds.length ∧
      ∀ index (within : index < operands.length),
        machine.memory.readByte (machine.pc + UInt8.ofNat index).toNat = .ok operands[index] := by
  induction kinds generalizing machine operands with
  | nil =>
      cases fetching
      exact ⟨(advanced_zero _).symm, rfl, fun index within => absurd within (by simp)⟩
  | cons kind rest ih =>
      obtain ⟨value, middle, fetchedFirst, fetching⟩ := bind_ok fetching
      obtain ⟨values, last, fetchedRest, fetching⟩ := bind_ok fetching
      cases fetching
      obtain ⟨readable, rfl⟩ := fetchOperand_ok fetchedFirst
      obtain ⟨rfl, length_eq, bytes⟩ := ih fetchedRest
      refine ⟨advanced_advanced machine rest.length, by simp [length_eq], ?_⟩
      intro index within
      cases index with
      | zero =>
          have unmoved : machine.pc + UInt8.ofNat 0 = machine.pc := UInt8.add_zero machine.pc
          rw [unmoved]
          exact readable
      | succ index =>
          rw [← pc_add_succ]
          exact bytes index (by simpa using within)

/-- Fetching operands fails at a cell that does not exist or at a byte that is not in order. -/
theorem fetchOperands_error (failed : fetchOperands opcode kinds machine = .error fault after) :
    (∃ address : UInt8, machine.memory.readByte address.toNat = .error fault) ∨
      ∃ address kind byte, operandFault? machine.variant opcode address kind byte = some fault := by
  induction kinds generalizing machine with
  | nil => cases failed
  | cons kind rest ih =>
      simp only [fetchOperands, bind, EStateM.bind] at failed
      cases first : fetchOperand opcode kind machine with
      | error problem middle =>
          rw [first] at failed
          cases failed
          obtain unreadable | ⟨byte, found⟩ := fetchOperand_error first
          · exact Or.inl ⟨machine.pc, unreadable⟩
          · exact Or.inr ⟨machine.pc, kind, byte, found⟩
      | ok value middle =>
          obtain ⟨-, rfl⟩ := fetchOperand_ok first
          rw [first] at failed
          dsimp only at failed
          split at failed
          · cases failed
          · rename_i fetchedRest
            cases failed
            have later := ih fetchedRest
            exact later

end Fetched

/-! ## How an instruction can fail once it is decoded -/

section Failing

variable [Device δ] {machine after : Machine δ} {opcode : Opcode} {operands : List UInt8}
  {width : Width} {fault : Fault}

theorem readDevice_error (failed : readDevice width machine = .error fault after) :
    ∃ problem, fault = .device (Device.readName width) problem := by
  unfold readDevice at failed
  split at failed
  · cases failed
    exact ⟨_, rfl⟩
  · split at failed
    · cases failed
      exact ⟨_, rfl⟩
    · split at failed
      · cases failed
        exact ⟨_, rfl⟩
      · cases failed

theorem writeDevice_error {value : Nat}
    (failed : writeDevice width value machine = .error fault after) :
    ∃ problem, fault = .device (Device.writeName width) problem := by
  unfold writeDevice at failed
  split at failed
  · cases failed
    exact ⟨_, rfl⟩
  · split at failed
    · cases failed
      exact ⟨_, rfl⟩
    · cases failed

/-- Once decoded, an instruction fails in a call of the device or at the cell that it names. -/
theorem enact_error (failed : enact opcode operands machine = .error fault after) :
    ((opcode = .inp ∨ opcode = .out) ∧ ∃ operation problem, fault = .device operation problem) ∨
      (opcode = .get ∨ opcode = .put) ∧ ∃ number location : UInt8, operands = [number, location] ∧
        machine.memory.size ≤ location.toNat ∧
        fault = .outsideMemory location.toNat machine.memory.size 1 := by
  unfold enact at failed
  split at failed
  · simp only [bind, EStateM.bind] at failed
    split at failed
    · cases failed
    · rename_i reading
      cases failed
      obtain ⟨problem, rfl⟩ := readDevice_error reading
      exact Or.inl ⟨Or.inl rfl, _, problem, rfl⟩
  · obtain ⟨problem, rfl⟩ := writeDevice_error failed
    exact Or.inl ⟨Or.inr rfl, _, problem, rfl⟩
  · rename_i number location
    simp only [bind, EStateM.bind, get_apply, writeCell] at failed
    split at failed
    · rename_i unwritten
      cases failed
      obtain ⟨beyond, rfl⟩ := Memory.writeByte_error unwritten
      exact Or.inr ⟨Or.inr rfl, number, location, rfl, beyond, rfl⟩
    · cases failed
  · rename_i number location
    simp only [bind, EStateM.bind, readCell] at failed
    split at failed
    · cases failed
    · rename_i unread
      cases failed
      split at unread
      · rename_i unreadable
        cases unread
        obtain ⟨beyond, rfl⟩ := Memory.readByte_error unreadable
        exact Or.inr ⟨Or.inl rfl, number, location, rfl, beyond, rfl⟩
      · cases unread
  all_goals cases failed

end Failing

end ByteMachine.Machine
