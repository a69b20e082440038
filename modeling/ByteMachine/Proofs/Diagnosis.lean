import ByteMachine.Proofs.Layout

/-!
# Comments of a listing and faults of a step

A listing and a machine look at the same bytes in the same order: the opcode, then the operands as
far as memory goes. So the first problem that a listing notes is the one at which a step fails, and
where it notes none, a step is decoded and can fail only in what it does.
-/

namespace ByteMachine

/-! ## Problems in the order of the bytes -/

namespace Listing

/-- The problems of operands of the given kinds, of which some are there. -/
def operandProblems (variant : Variant) (kinds : List OperandKind) (operands : List UInt8) :
    List Problem :=
  (kinds.zip operands).filterMap (fun operand => operandProblem? variant operand.1 operand.2) ++
    if operands.length < kinds.length then [.truncated] else []

theorem problems_of_known {byte : UInt8} {opcode : Opcode}
    (known : Opcode.ofByte? byte = some opcode) (variant : Variant) (operands : List UInt8) :
    problems variant byte operands =
      operandProblems variant (opcode.operandKinds variant.isTagged) operands := by
  rw [problems, known]
  rfl

theorem problems_of_unknown {byte : UInt8} (unknown : Opcode.ofByte? byte = none)
    (variant : Variant) (operands : List UInt8) :
    problems variant byte operands = [.unknownOpcode] := by
  rw [problems, unknown]

section Operands

variable {variant : Variant} {kind : OperandKind} {kinds : List OperandKind} {value : UInt8}
  {values : List UInt8} {problem : Problem}

theorem operandProblems_nil : operandProblems variant (kind :: kinds) [] = [.truncated] := by
  simp [operandProblems]

theorem operandProblems_of_fine (fine : operandProblem? variant kind value = none) :
    operandProblems variant (kind :: kinds) (value :: values) =
      operandProblems variant kinds values := by
  simp [operandProblems, fine]

theorem operandProblems_of_wrong (wrong : operandProblem? variant kind value = some problem) :
    operandProblems variant (kind :: kinds) (value :: values) =
      problem :: operandProblems variant kinds values := by
  simp [operandProblems, wrong]

end Operands

theorem Problem.text_ne_empty (problem : Problem) : problem.text ≠ "" := by
  cases problem with
  | missingRegister register variant => cases register <;> cases variant <;> decide
  | unknownOpcode | invalidWidth | unknownRegister | truncated => decide

/-- A comment is empty just when there is no problem. -/
theorem comment_eq_empty_iff (variant : Variant) (address : Int) (byte : UInt8)
    (operands : List UInt8) :
    (entry variant address byte operands).comment = "" ↔ problems variant byte operands = [] := by
  change String.intercalate "; " ((problems variant byte operands).map Problem.text) = "" ↔ _
  cases problems variant byte operands with
  | nil => simp
  | cons problem others =>
      have worded := problem.text_ne_empty
      cases others with
      | nil => simpa using worded
      | cons next rest => simp [String.intercalate_cons_cons, worded]

/-! ## Faults that problems foretell -/

/-- The fault that a problem of an entry foretells in a memory of some size. -/
inductive Foretells (entry : Entry) (size : Nat) : Problem → Fault → Prop
  /-- A byte that is no opcode is a fault of the opcode. -/
  | unknownOpcode :
      Foretells entry size .unknownOpcode (.unknownOpcode entry.opcode (some entry.address))
  /-- A bad width tag is a fault of that operand. -/
  | invalidWidth {index : Nat} {tag : UInt8} : entry.operands[index]? = some tag →
      Foretells entry size .invalidWidth
        (.invalidWidth entry.mnemonic tag.toNat (some (entry.address + 1 + index)))
  /-- A number of no register is a fault of the register. -/
  | unknownRegister {index : Nat} {number : UInt8} : entry.operands[index]? = some number →
      Foretells entry size .unknownRegister (.register (.numbered number.toNat) none)
  /-- So is a register that the variant lacks. -/
  | missingRegister {register : Register} {variant : Variant} :
      Foretells entry size (.missingRegister register variant)
        (.register (.named register) (some variant.code))
  /-- Operands that are cut off are a fault of the first cell behind memory. -/
  | truncated : Foretells entry size .truncated (.outsideMemory size size 1)

end Listing

namespace Machine

open Listing

variable {δ : Type}

section Operand

variable {variant : Variant} {opcode : Opcode} {address value : UInt8} {kind : OperandKind}
  {problem : Problem} {fault : Fault}

theorem resolve_eq (variant : Variant) (number : Int) :
    variant.registerSet.resolve number =
      match Register.ofNumber? number with
      | none => .error (.register (.numbered number) none)
      | some register =>
        if variant.has register then .ok register
        else .error (.register (.named register) (some variant.code)) := by
  unfold RegisterSet.resolve
  cases Register.ofNumber? number with
  | none => rfl
  | some register =>
      by_cases present : register ∈ variant.registers
      · simp [Variant.has, Variant.registerSet, present]
      · simp [Variant.has, Variant.registerSet, present]

/-- An operand byte that is not in order is a bad width tag or names no register. -/
theorem operandFault?_cases (found : operandFault? variant opcode address kind value = some fault) :
    (∃ mnemonic tag place, fault = .invalidWidth mnemonic tag place) ∨ fault.ConcernsRegister := by
  unfold operandFault? at found
  cases kind with
  | width =>
      dsimp only at found
      split at found
      · cases found
      · cases found
        exact Or.inl ⟨_, _, _, rfl⟩
  | register =>
      dsimp only at found
      cases resolved : variant.registerSet.resolve value.toNat with
      | ok register =>
          rw [resolved] at found
          cases found
      | error problem =>
          rw [resolved] at found
          cases found
          exact Or.inr (RegisterSet.resolve_error resolved)
  | immediate => cases found
  | address => cases found

/-- An operand byte with which a listing finds nothing wrong is in order for the machine. -/
theorem operandFault?_of_fine (fine : operandProblem? variant kind value = none) :
    operandFault? variant opcode address kind value = none := by
  cases kind with
  | width =>
      simp only [operandProblem?] at fine
      split at fine
      · rename_i tag
        rw [operandFault?, if_pos tag]
      · cases fine
  | register =>
      simp only [operandProblem?] at fine
      rw [operandFault?, resolve_eq]
      cases found : Register.ofNumber? value.toNat with
      | none =>
          rw [found] at fine
          cases fine
      | some register =>
          rw [found] at fine
          dsimp only at fine
          split at fine
          · rename_i present
            simp [present]
          · cases fine
  | immediate => rfl
  | address => rfl

/-- An operand byte with which a listing finds something wrong is a fault of the kind foretold. -/
theorem operandFault?_of_wrong {entry : Entry} {index : Nat} (size : Nat)
    (wrong : operandProblem? variant kind value = some problem)
    (stands : entry.operands[index]? = some value) (named : entry.mnemonic = opcode.mnemonic)
    (placed : (address.toNat : Int) = entry.address + 1 + index) :
    ∃ fault, operandFault? variant opcode address kind value = some fault ∧
      Foretells entry size problem fault := by
  cases kind with
  | width =>
      simp only [operandProblem?] at wrong
      split at wrong
      · cases wrong
      · rename_i tag
        cases wrong
        rw [operandFault?, if_neg tag, ← named, placed]
        exact ⟨_, rfl, .invalidWidth stands⟩
  | register =>
      simp only [operandProblem?] at wrong
      rw [operandFault?, resolve_eq]
      cases found : Register.ofNumber? value.toNat with
      | none =>
          rw [found] at wrong
          cases wrong
          exact ⟨_, rfl, .unknownRegister stands⟩
      | some register =>
          rw [found] at wrong
          dsimp only at wrong
          split at wrong
          · cases wrong
          · rename_i absent
            cases wrong
            simp only [if_neg absent]
            exact ⟨_, rfl, .missingRegister⟩
  | immediate => cases wrong
  | address => cases wrong

/-- How an instruction can fail: at a cell that memory lacks, at an operand that is not in order, or
in a call of the device. -/
theorem perform_error [Device δ] {machine after : Machine δ}
    (failed : perform opcode machine = .error fault after) :
    (∃ place size, fault = .outsideMemory place size 1) ∨
      (∃ mnemonic tag place, fault = .invalidWidth mnemonic tag place) ∨
      fault.ConcernsRegister ∨
      (opcode = .inp ∨ opcode = .out) ∧ ∃ operation problem, fault = .device operation problem := by
  rw [perform_eq_decoded] at failed
  obtain unfetched | ⟨operands, loaded, -, unenacted⟩ := bind_error failed
  · obtain ⟨address, unreadable⟩ | ⟨address, kind, value, found⟩ := fetchOperands_error unfetched
    · exact Or.inl ⟨_, _, (Memory.readByte_error unreadable).2⟩
    · exact Or.inr ((operandFault?_cases found).imp_right Or.inl)
  · obtain called | ⟨-, number, location, -, -, beyond⟩ := enact_error unenacted
    · exact Or.inr (Or.inr (Or.inr called))
    · exact Or.inl ⟨_, _, beyond⟩

end Operand

/-! ## Decoding what is listed -/

section Decoding

variable {machine : Machine δ} {opcode : Opcode} {kinds : List OperandKind}

/-- The operands of which a listing sees the bytes: those from the program counter on, as far as
memory goes. -/
def operandsAhead (machine : Machine δ) (count : Nat) : List UInt8 :=
  (machine.memory.cells.toList.drop machine.pc.toNat).take count

theorem operandsAhead_of_end (ended : machine.memory.size ≤ machine.pc.toNat) (count : Nat) :
    machine.operandsAhead count = [] := by
  have length_eq : machine.memory.cells.toList.length = machine.memory.size := Array.length_toList
  rw [operandsAhead, List.drop_eq_nil_of_le (by omega), List.take_nil]

theorem pc_advanced (bounded : machine.memory.size ≤ 255)
    (inside : machine.pc.toNat < machine.memory.size) :
    (machine.advanced 1).pc.toNat = machine.pc.toNat + 1 := by
  have moved := toNat_add_ofNat machine.pc 1
  rw [Nat.mod_eq_of_lt (by omega)] at moved
  exact moved

theorem operandsAhead_succ (bounded : machine.memory.size ≤ 255)
    (inside : machine.pc.toNat < machine.memory.size) (count : Nat) :
    machine.operandsAhead (count + 1) =
      machine.memory.cell machine.pc.toNat :: (machine.advanced 1).operandsAhead count := by
  have inside' : machine.pc.toNat < machine.memory.cells.toList.length := by
    rw [Array.length_toList]
    exact inside
  rw [operandsAhead, operandsAhead, pc_advanced bounded inside, Memory.cell_eq_getElem inside',
    List.drop_eq_getElem_cons inside', List.take_succ_cons]
  rfl

/-- Operands with which nothing is wrong are fetched. -/
theorem fetchOperands_of_fine (opcode : Opcode) (bounded : machine.memory.size ≤ 255)
    (fine : operandProblems machine.variant kinds (machine.operandsAhead kinds.length) = []) :
    ∃ after,
      fetchOperands opcode kinds machine = .ok (machine.operandsAhead kinds.length) after := by
  induction kinds generalizing machine with
  | nil => exact ⟨machine, rfl⟩
  | cons kind rest ih =>
      by_cases inside : machine.pc.toNat < machine.memory.size
      · rw [List.length_cons, operandsAhead_succ bounded inside] at fine ⊢
        cases found :
            operandProblem? machine.variant kind (machine.memory.cell machine.pc.toNat) with
        | some problem =>
            rw [operandProblems_of_wrong found] at fine
            cases fine
        | none =>
            rw [operandProblems_of_fine found] at fine
            have advanced_bounded : (machine.advanced 1).memory.size ≤ 255 := bounded
            obtain ⟨after, fetched⟩ := ih advanced_bounded fine
            refine ⟨after, ?_⟩
            simp only [fetchOperands, bind, EStateM.bind, fetchOperand_eq,
              Memory.readByte_of_lt inside, operandFault?_of_fine found, fetched]
            rfl
      · rw [operandsAhead_of_end (Nat.le_of_not_lt inside), operandProblems_nil] at fine
        cases fine

/-- The first problem of operands is the fault with which fetching them fails. -/
theorem fetchOperands_of_wrong {entry : Entry} {index : Nat} {problem : Problem}
    {others : List Problem} (bounded : machine.memory.size ≤ 255)
    (within : machine.pc.toNat ≤ machine.memory.size)
    (named : entry.mnemonic = opcode.mnemonic)
    (placed : (machine.pc.toNat : Int) = entry.address + 1 + index)
    (listed : entry.operands.drop index = machine.operandsAhead kinds.length)
    (wrong : operandProblems machine.variant kinds (machine.operandsAhead kinds.length) =
      problem :: others) :
    ∃ fault after, fetchOperands opcode kinds machine = .error fault after ∧
      Foretells entry machine.memory.size problem fault := by
  -- The operands of the entry before the index have been fetched, and nothing was wrong with them.
  induction kinds generalizing machine index with
  | nil => cases wrong
  | cons kind rest ih =>
      by_cases inside : machine.pc.toNat < machine.memory.size
      · rw [List.length_cons, operandsAhead_succ bounded inside] at wrong listed
        have stands : entry.operands[index]? = some (machine.memory.cell machine.pc.toNat) := by
          rw [← List.head?_drop, listed, List.head?_cons]
        cases found :
            operandProblem? machine.variant kind (machine.memory.cell machine.pc.toNat) with
        | some first =>
            rw [operandProblems_of_wrong found] at wrong
            cases wrong
            obtain ⟨fault, failed, foretold⟩ :=
              operandFault?_of_wrong machine.memory.size found stands named placed
            refine ⟨fault, machine.advanced 1, ?_, foretold⟩
            simp only [fetchOperands, bind, EStateM.bind, fetchOperand_eq,
              Memory.readByte_of_lt inside, failed]
        | none =>
            rw [operandProblems_of_fine found] at wrong
            have bounded_rest : (machine.advanced 1).memory.size ≤ 255 := bounded
            have passed := pc_advanced bounded inside
            have placed_rest :
                ((machine.advanced 1).pc.toNat : Int) = entry.address + 1 + (index + 1 : Nat) := by
              rw [passed]
              omega
            have listed_rest : entry.operands.drop (index + 1) =
                (machine.advanced 1).operandsAhead rest.length := by
              rw [← List.tail_drop, listed, List.tail_cons]
            have within_rest := Nat.le_trans (Nat.le_of_eq passed) inside
            obtain ⟨fault, after, failed, foretold⟩ :=
              ih bounded_rest within_rest placed_rest listed_rest wrong
            refine ⟨fault, after, ?_, foretold⟩
            simp only [fetchOperands, bind, EStateM.bind, fetchOperand_eq,
              Memory.readByte_of_lt inside, operandFault?_of_fine found, failed]
      · have ended := Nat.le_of_not_lt inside
        have pc_eq : machine.pc.toNat = machine.memory.size := Nat.le_antisymm within ended
        rw [operandsAhead_of_end ended, operandProblems_nil] at wrong
        cases wrong
        refine ⟨machine.memory.refusal machine.pc.toNat 1, machine, ?_, ?_⟩
        · simp only [fetchOperands, bind, EStateM.bind, fetchOperand_eq,
            Memory.readByte_of_le ended]
        · rw [pc_eq]
          exact .truncated

end Decoding

/-! ## Steps on what is listed -/

section Stepping

variable {machine : Machine δ} {byte : UInt8} {opcode : Opcode} {problem : Problem}
  {others : List Problem}

/-- The entry of the instruction that begins with the byte at the program counter. -/
def shown (machine : Machine δ) (byte : UInt8) : Entry :=
  entry machine.variant machine.pc.toNat byte
    ((machine.fetched byte).operandsAhead (operandKinds machine.variant byte).length)

/-- A listing of memory has that entry at the program counter. -/
theorem entryAt?_pc (bounded : machine.memory.size ≤ 255)
    (readable : machine.memory.readByte machine.pc.toNat = .ok byte) :
    ∃ image, machine.memory.dump 0 none = .ok image ∧
      entryAt? machine.variant image machine.pc.toNat machine.pc.toNat =
        some (machine.shown byte) := by
  obtain ⟨inside, stands⟩ := Memory.readByte_ok_iff.mp readable
  have inside' : machine.pc.toNat < machine.memory.cells.toList.length := by
    rw [Array.length_toList]
    exact inside
  have passed : (machine.fetched byte).pc.toNat = machine.pc.toNat + 1 := pc_advanced bounded inside
  rw [Memory.cell_eq_getElem inside'] at stands
  refine ⟨_, Memory.dump_all (by omega), ?_⟩
  rw [entryAt?_of_lt inside', stands, shown, operandsAhead, passed]
  rfl

/-- A machine about to fetch the operands of the instruction at the program counter. -/
def ready (machine : Machine δ) (byte : UInt8) (opcode : Opcode) : Machine δ :=
  (machine.fetched byte).prepared opcode

theorem ready_memory (machine : Machine δ) (byte : UInt8) (opcode : Opcode) :
    (machine.ready byte opcode).memory = machine.memory :=
  prepared_memory (machine.fetched byte) opcode

theorem ready_variant (machine : Machine δ) (byte : UInt8) (opcode : Opcode) :
    (machine.ready byte opcode).variant = machine.variant := by
  cases opcode <;> rfl

theorem ready_pc (bounded : machine.memory.size ≤ 255)
    (inside : machine.pc.toNat < machine.memory.size) :
    (machine.ready byte opcode).pc.toNat = machine.pc.toNat + 1 := by
  rw [ready, prepared_pc]
  exact pc_advanced bounded inside

theorem decode_ready (known : Opcode.ofByte? byte = some opcode) :
    decode byte (machine.fetched byte) =
      fetchOperands opcode (opcode.operandKinds machine.variant.isTagged)
        (machine.ready byte opcode) := by
  simp only [decode, known]
  rfl

theorem mnemonic_shown (known : Opcode.ofByte? byte = some opcode) :
    (machine.shown byte).mnemonic = opcode.mnemonic := by
  simp [shown, entry, known]

/-- The operands of the entry are those ahead of the machine that is about to fetch them. -/
theorem operands_shown (known : Opcode.ofByte? byte = some opcode) :
    (machine.shown byte).operands =
      (machine.ready byte opcode).operandsAhead
        (opcode.operandKinds machine.variant.isTagged).length := by
  rw [operandsAhead, ready, prepared_memory, prepared_pc, shown, operandKinds, known]
  rfl

theorem problems_shown (known : Opcode.ofByte? byte = some opcode) :
    problems machine.variant byte (machine.shown byte).operands =
      operandProblems (machine.ready byte opcode).variant
        (opcode.operandKinds machine.variant.isTagged)
        ((machine.ready byte opcode).operandsAhead
          (opcode.operandKinds machine.variant.isTagged).length) := by
  rw [problems_of_known known, operands_shown known, ready_variant]

/-- The first problem of the operands is the fault with which decoding fails. -/
theorem decode_of_wrong (bounded : machine.memory.size ≤ 255)
    (readable : machine.memory.readByte machine.pc.toNat = .ok byte)
    (known : Opcode.ofByte? byte = some opcode)
    (wrong : problems machine.variant byte (machine.shown byte).operands = problem :: others) :
    ∃ fault after, decode byte (machine.fetched byte) = .error fault after ∧
      Foretells (machine.shown byte) machine.memory.size problem fault := by
  obtain ⟨inside, -⟩ := Memory.readByte_ok_iff.mp readable
  have passed : (machine.ready byte opcode).pc.toNat = machine.pc.toNat + 1 :=
    ready_pc bounded inside
  have placed : ((machine.ready byte opcode).pc.toNat : Int) =
      (machine.shown byte).address + 1 + (0 : Nat) := by
    rw [passed]
    rfl
  rw [problems_shown known] at wrong
  rw [← ready_memory machine byte opcode] at bounded inside
  rw [decode_ready known, ← ready_memory machine byte opcode]
  exact fetchOperands_of_wrong bounded (by omega) (mnemonic_shown known) placed
    (operands_shown known) wrong

variable [Device δ]

/-- The first problem of an instruction is the fault with which a step on it fails. -/
theorem step_of_wrong (strict : machine.config.strictOpcodes = true)
    (running : machine.status = .running) (bounded : machine.memory.size ≤ 255)
    (readable : machine.memory.readByte machine.pc.toNat = .ok byte)
    (wrong : problems machine.variant byte (machine.shown byte).operands = problem :: others) :
    ∃ fault after, step machine = .error fault after ∧
      Foretells (machine.shown byte) machine.memory.size problem fault := by
  rw [step_eq_decoded running readable]
  cases known : Opcode.ofByte? byte with
  | none =>
      rw [problems_of_unknown known] at wrong
      cases wrong
      -- A byte that is no opcode has no operands, and fails only when it is carried out.
      have strict' : (machine.fetched byte).config.strictOpcodes = true := strict
      refine ⟨.unknownOpcode byte.toNat (some machine.pc.toNat), machine.fetched byte, ?_,
        .unknownOpcode⟩
      simp only [bind, EStateM.bind, decode, carryOut, known, skip, if_pos strict']
  | some opcode =>
      obtain ⟨fault, after, failed, foretold⟩ := decode_of_wrong bounded readable known wrong
      refine ⟨fault, after, ?_, foretold⟩
      simp only [bind, EStateM.bind, failed]

/-- A step on an instruction without a problem fails only in what the instruction does. -/
theorem step_of_fine {fault : Fault} {after : Machine δ}
    (running : machine.status = .running) (bounded : machine.memory.size ≤ 255)
    (readable : machine.memory.readByte machine.pc.toNat = .ok byte)
    (fine : problems machine.variant byte (machine.shown byte).operands = [])
    (failed : step machine = .error fault after) :
    ∃ opcode, Opcode.ofByte? byte = some opcode ∧
      (((opcode = .inp ∨ opcode = .out) ∧ ∃ operation problem, fault = .device operation problem) ∨
        (opcode = .get ∨ opcode = .put) ∧ ∃ number location : UInt8,
          (machine.shown byte).operands = [number, location] ∧
          machine.memory.size ≤ location.toNat ∧
          fault = .outsideMemory location.toNat machine.memory.size 1) := by
  cases known : Opcode.ofByte? byte with
  | none =>
      rw [problems_of_unknown known] at fine
      cases fine
  | some opcode =>
      refine ⟨opcode, rfl, ?_⟩
      rw [problems_shown known] at fine
      rw [← ready_memory machine byte opcode] at bounded
      obtain ⟨loaded, decoded⟩ := fetchOperands_of_fine opcode bounded fine
      rw [← decode_ready known, ← operands_shown known] at decoded
      rw [step_eq_decoded running readable] at failed
      simp only [bind, EStateM.bind, decoded, carryOut, known] at failed
      split at failed
      · rename_i enacting
        cases failed
        have cause := enact_error enacting
        rw [(decode_ok decoded).2.1] at cause
        exact cause
      · cases failed

end Stepping

/-! ## Comments foretell steps -/

section Foretelling

variable [Device δ] {machine : Machine δ}

/-- The comment of a listing foretells the next step of a machine to which an unknown opcode is a
fault. The first problem in the comment says with which fault the step fails. Without a problem,
the step fails only in a call of the device, or at the cell that a load or a store names. -/
theorem comment_foretells_step (strict : machine.config.strictOpcodes = true)
    (running : machine.status = .running) (bounded : machine.memory.size ≤ 255)
    (inside : machine.pc.toNat < machine.memory.size) :
    ∃ image entry, machine.memory.dump 0 none = .ok image ∧
      entryAt? machine.variant image machine.pc.toNat machine.pc.toNat = some entry ∧
      (entry.comment ≠ "" → ∃ problem others fault after,
        entry.comment = String.intercalate "; " ((problem :: others).map Problem.text) ∧
          step machine = .error fault after ∧
          Foretells entry machine.memory.size problem fault) ∧
      (entry.comment = "" → ∀ fault after, step machine = .error fault after →
        ∃ opcode : Opcode, entry.mnemonic = opcode.mnemonic ∧
          (((opcode = .inp ∨ opcode = .out) ∧
              ∃ operation problem, fault = .device operation problem) ∨
            (opcode = .get ∨ opcode = .put) ∧ ∃ number location : UInt8,
              entry.operands = [number, location] ∧ machine.memory.size ≤ location.toNat ∧
              fault = .outsideMemory location.toNat machine.memory.size 1)) := by
  have readable := Memory.readByte_of_lt inside
  obtain ⟨image, dumped, listed⟩ := entryAt?_pc bounded readable
  refine ⟨image, _, dumped, listed, ?_, ?_⟩
  · intro worded
    cases found : problems machine.variant (machine.memory.cell machine.pc.toNat)
        (machine.shown (machine.memory.cell machine.pc.toNat)).operands with
    | nil => exact absurd ((comment_eq_empty_iff _ _ _ _).mpr found) worded
    | cons problem others =>
        obtain ⟨fault, after, failed, foretold⟩ :=
          step_of_wrong strict running bounded readable found
        exact ⟨problem, others, fault, after, by rw [← found]; rfl, failed, foretold⟩
  · intro unworded fault after failed
    have fine := (comment_eq_empty_iff _ _ _ _).mp unworded
    obtain ⟨opcode, known, cause⟩ := step_of_fine running bounded readable fine failed
    exact ⟨opcode, mnemonic_shown known, cause⟩

end Foretelling

theorem comment_foretells_step_at_store :
    ∃ entry problem after, entryAt? .byte [0x03, 0x09] 0 0 = some entry ∧
      entry.comment = "unknown register; truncated" ∧
      step (holding [0x03, 0x09]) = .error (.register (.numbered 0x09) none) after ∧
      Foretells entry 2 problem (.register (.numbered 0x09) none) := by
  have strict : (holding [0x03, 0x09]).config.strictOpcodes = true := rfl
  have bounded : (holding [0x03, 0x09]).memory.size ≤ 255 := by decide
  have inside : (holding [0x03, 0x09]).pc.toNat < (holding [0x03, 0x09]).memory.size := by decide
  obtain ⟨image, entry, dumped, listed, foretells, -⟩ :=
    comment_foretells_step strict rfl bounded inside
  have image_eq : (.ok [0x03, 0x09] : Except Fault (List UInt8)) = .ok image := dumped
  cases image_eq
  have comment_eq : (entryAt? .byte [0x03, 0x09] 0 0).map Entry.comment =
      some "unknown register; truncated" := by decide +kernel
  have listed' : entryAt? .byte [0x03, 0x09] 0 0 = some entry := listed
  rw [listed', Option.map_some, Option.some_inj] at comment_eq
  obtain ⟨problem, others, fault, after, worded, failed, foretold⟩ :=
    foretells (by rw [comment_eq]; decide)
  have failing : ∃ reached, step (holding [0x03, 0x09]) =
      .error (.register (.numbered 0x09) none) reached := ⟨_, rfl⟩
  obtain ⟨reached, failing⟩ := failing
  rw [failing] at failed
  cases failed
  exact ⟨entry, problem, after, listed, comment_eq, failing, foretold⟩

end Machine

end ByteMachine
