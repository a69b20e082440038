import ByteMachine.Proofs.Decode
import ByteMachine.Proofs.Run

/-!
# Layout of instructions

The program counter after a step is where the instruction jumps, or else behind as many bytes as
the table gives the instruction. Where these bytes lie in one piece, a listing of memory shows the
same instruction: as many bytes, and the operands that the step has fetched.
-/

namespace ByteMachine

/-! ## Entries of a listing -/

namespace Listing

theorem position_of_nonneg (length index : Nat) : position length index = min length index := by
  have nonneg : ¬(index : Int) < 0 := by omega
  rw [position, if_neg nonneg, Int.toNat_natCast]

theorem slice_eq {bytes : List UInt8} {start : Nat} (within : start ≤ bytes.length) (count : Nat) :
    slice bytes start ((start : Int) + count) = (bytes.drop start).take count := by
  have last : ((start : Int) + count) = ((start + count : Nat) : Int) := by omega
  rw [slice, last, position_of_nonneg, position_of_nonneg, Nat.min_eq_right within,
    List.take_eq_take_iff, List.length_drop]
  omega

/-- The entry at an offset takes its operands from the bytes behind the opcode. -/
theorem entryAt?_of_lt {bytes : List UInt8} {offset : Nat} (within : offset < bytes.length)
    (variant : Variant) (address : Int) :
    entryAt? variant bytes address offset =
      some (entry variant address bytes[offset]
        ((bytes.drop (offset + 1)).take (operandKinds variant bytes[offset]).length)) := by
  have nonneg : ¬(offset : Int) < 0 := by omega
  have next : (offset : Int) + 1 = ((offset + 1 : Nat) : Int) := by omega
  simp only [entryAt?, if_neg nonneg, Int.toNat_natCast, List.getElem?_eq_getElem within,
    Option.map_some]
  rw [next, slice_eq within]

end Listing

namespace Memory

variable {memory : Memory} {index : Nat}

/-- The whole of memory, read from its beginning. -/
theorem dump_all (some_cell : 0 < memory.size) : memory.dump 0 none = .ok memory.cells.toList := by
  have length_eq : memory.cells.toList.length = memory.size := Array.length_toList
  have covered : memory.Covers 0 memory.size := by
    unfold Covers
    omega
  have wanted : ¬(memory.size : Int) ≤ 0 := by omega
  simp only [dump, Option.getD_none, Int.sub_zero, if_neg wanted, Int.toNat_natCast, if_pos covered]
  rw [Int.toNat_zero, List.drop_zero, ← length_eq, List.take_length]

theorem cell_eq_getElem (within : index < memory.cells.toList.length) :
    memory.cell index = memory.cells.toList[index] := by
  have within' : index < memory.cells.size := by simpa using within
  simp [cell, Array.getD_eq_getD_getElem?, within']

end Memory

namespace Machine

variable {δ : Type}

/-! ## The program counter -/

/-- Number of bytes of the instruction that begins with a byte: its size by the table, or one where
the byte is no opcode. -/
def instructionSize (variant : Variant) (byte : UInt8) : Nat :=
  ((Opcode.ofByte? byte).map (Opcode.size variant.isTagged)).getD 1

/-- Where an instruction with its operands makes a machine go on, if it is a jump that is taken or a
load of the program counter. -/
def target? (machine : Machine δ) : Opcode → List UInt8 → Option UInt8
  | .jmp, [target] => some target
  | .jmz, [target] => if machine.registers.flag .zero then some target else none
  | .jmn, [target] => if machine.registers.flag .sign then some target else none
  | .get, [number, address] =>
    if registerOf number = .pc then (machine.memory.readByte address.toNat).toOption else none
  | _, _ => none

theorem instructionSize_eq (variant : Variant) (byte : UInt8) :
    instructionSize variant byte = 1 + (Listing.operandKinds variant byte).length := by
  unfold instructionSize Listing.operandKinds
  cases Opcode.ofByte? byte <;> rfl

section Counter

variable [Device δ] {machine after : Machine δ} {width : Width} {opcode : Opcode}
  {operands : List UInt8}

theorem readDevice_ok {value : Nat} (reading : readDevice width machine = .ok value after) :
    ∃ reply : Device.Reply δ Reading, after = machine.afterCall reply := by
  unfold readDevice at reading
  split at reading
  · cases reading
  · rename_i reply _
    split at reading
    · cases reading
    · split at reading
      · cases reading
      · cases reading
        exact ⟨reply, rfl⟩

theorem writeDevice_ok {value : Nat} (writing : writeDevice width value machine = .ok () after) :
    ∃ reply : Device.Reply δ Unit, after = machine.afterCall reply := by
  unfold writeDevice at writing
  split at writing
  · cases writing
  · rename_i reply _
    split at writing
    · cases writing
    · cases writing
      exact ⟨reply, rfl⟩

/-- An instruction that is carried out leaves the program counter alone, unless it makes the machine
go on elsewhere. -/
theorem pc_of_enact (enacted : enact opcode operands machine = .ok () after) :
    after.pc = (machine.target? opcode operands).getD machine.pc := by
  unfold enact at enacted
  split at enacted
  · obtain ⟨value, middle, reading, rest⟩ := bind_ok enacted
    obtain ⟨reply, rfl⟩ := readDevice_ok reading
    cases rest
    cases widthOf operands <;> rfl
  · obtain ⟨reply, rfl⟩ := writeDevice_ok enacted
    rfl
  · obtain ⟨memory, -, rfl⟩ := writeCell_ok enacted
    rfl
  · rename_i number address
    obtain ⟨byte, middle, reading, rest⟩ := bind_ok enacted
    cases rest
    unfold readCell at reading
    split at reading
    · cases reading
    · rename_i found readable
      cases reading
      rw [target?, readable]
      cases registerOf number <;> rfl
  · rename_i value
    cases enacted
    obtain ⟨fl, sum_eq⟩ := machine.registers.addLiteral_frame value
    have pc_eq := congrArg Registers.pc sum_eq
    exact pc_eq
  · rename_i value
    cases enacted
    obtain ⟨fl, difference_eq⟩ := machine.registers.subtractLiteral_frame value
    have pc_eq := congrArg Registers.pc difference_eq
    exact pc_eq
  · cases enacted
    have sum_eq := machine.registers.increment_eq (widthOf operands)
    refine (congrArg Registers.pc sum_eq).trans ?_
    cases widthOf operands <;> rfl
  · cases enacted
    have pc_eq := congrArg Registers.pc machine.registers.decrement_eq
    exact pc_eq
  · cases enacted
    rfl
  · rename_i target
    cases enacted
    rw [target?]
    dsimp only [pc]
    cases machine.registers.flag .zero <;> rfl
  · rename_i target
    cases enacted
    rw [target?]
    dsimp only [pc]
    cases machine.registers.flag .sign <;> rfl
  · cases enacted
    rfl
  · cases enacted
    rw [target?, Option.getD_none]
    all_goals assumption

end Counter

/-! ## The bytes of an instruction -/

section Bytes

variable {machine loaded : Machine δ} {byte : UInt8} {operands : List UInt8}

theorem toNat_add_ofNat (address : UInt8) (count : Nat) :
    (address + UInt8.ofNat count).toNat = (address.toNat + count) % 256 := by
  simp

theorem prepared_pc (machine : Machine δ) (opcode : Opcode) :
    (machine.prepared opcode).pc = machine.pc := by
  cases opcode <;> rfl

theorem prepared_memory (machine : Machine δ) (opcode : Opcode) :
    (machine.prepared opcode).memory = machine.memory := by
  cases opcode <;> rfl

/-- What decoding has fetched: as many bytes as the table says, from behind the opcode. -/
theorem decode_ok (decoding : decode byte machine = .ok operands loaded) :
    loaded.pc = machine.pc + UInt8.ofNat (Listing.operandKinds machine.variant byte).length ∧
      loaded.memory = machine.memory ∧
      operands.length = (Listing.operandKinds machine.variant byte).length ∧
      ∀ index (within : index < operands.length),
        machine.memory.readByte (machine.pc + UInt8.ofNat index).toNat = .ok operands[index] := by
  unfold decode at decoding
  unfold Listing.operandKinds
  cases known : Opcode.ofByte? byte with
  | none =>
      rw [known] at decoding
      cases decoding
      exact ⟨(UInt8.add_zero _).symm, rfl, rfl, fun index within => absurd within (by simp)⟩
  | some opcode =>
      rw [known] at decoding
      obtain ⟨rfl, length_eq, bytes⟩ := fetchOperands_ok decoding
      rw [prepared_pc, prepared_memory] at bytes
      exact ⟨congrArg (· + _) (prepared_pc machine opcode), prepared_memory machine opcode,
        length_eq, bytes⟩

/-- Operands that lie in one piece behind the opcode are those of a listing of memory. -/
theorem operands_eq_listed {start : Nat} (within : start + operands.length ≤ machine.memory.size)
    (bytes : ∀ index (inside : index < operands.length),
      machine.memory.readByte ((start + index : Nat) : Int) = .ok operands[index]) :
    operands = (machine.memory.cells.toList.drop start).take operands.length := by
  have length_eq : machine.memory.cells.toList.length = machine.memory.size := Array.length_toList
  apply List.ext_getElem
  · rw [List.length_take, List.length_drop]
    omega
  · intro index inside _
    have found := (Memory.readByte_ok_iff.mp (bytes index inside)).2
    rw [Memory.cell_eq_getElem (by omega)] at found
    rw [List.getElem_take, List.getElem_drop, found]

end Bytes

/-! ## Steps follow the table -/

/-- What a step that leads from one machine to another has taken from memory: the byte at the
program counter, and the operands that decoding it has fetched. With them the instruction was
carried out, which fetches nothing. -/
structure Consumes [Device δ] (machine : Machine δ) (byte : UInt8) (operands : List UInt8)
    (after : Machine δ) : Prop where
  /-- The byte stands at the program counter. -/
  readable : machine.memory.readByte machine.pc.toNat = .ok byte
  /-- The operands are fetched, and the instruction is carried out. -/
  executed : ∃ loaded executed,
    decode byte (machine.fetched byte) = .ok operands loaded ∧
      carryOut machine.pc byte operands loaded = .ok () executed ∧ after = executed.counted

section Follow

variable [Device δ] {machine after : Machine δ} {event : Event}

/-- The program counter after an instruction that is carried out. -/
theorem pc_of_carryOut {address byte : UInt8} {operands : List UInt8} {loaded executed : Machine δ}
    (carried : carryOut address byte operands loaded = .ok () executed) :
    executed.pc =
      ((Opcode.ofByte? byte).bind (loaded.target? · operands)).getD loaded.pc := by
  unfold carryOut at carried
  cases known : Opcode.ofByte? byte with
  | some opcode =>
      rw [known] at carried
      exact pc_of_enact carried
  | none =>
      rw [known] at carried
      dsimp only [skip] at carried
      split at carried
      · cases carried
      · cases carried
        rfl

omit [Device δ] in
/-- Decoding leaves the program counter behind the instruction. -/
theorem pc_of_decode {byte : UInt8} {operands : List UInt8} {loaded : Machine δ}
    (decoding : decode byte (machine.fetched byte) = .ok operands loaded) :
    loaded.pc = machine.pc + UInt8.ofNat (instructionSize machine.variant byte) := by
  rw [(decode_ok decoding).1, instructionSize_eq, Nat.add_comm 1, ← pc_add_succ]
  rfl

omit [Device δ] in
/-- Fetching the opcode and the operands changes nothing that a jump or a load looks at. -/
theorem target?_of_decode {byte : UInt8} {opcode : Opcode} {operands : List UInt8}
    {loaded : Machine δ} (known : Opcode.ofByte? byte = some opcode)
    (decoding : decode byte (machine.fetched byte) = .ok operands loaded) :
    loaded.target? opcode operands = machine.target? opcode operands := by
  simp only [decode, known] at decoding
  obtain ⟨rfl, -, -⟩ := fetchOperands_ok decoding
  cases opcode <;> rfl

namespace Consumes

variable {byte : UInt8} {operands : List UInt8}

theorem size_eq (consumes : machine.Consumes byte operands after) :
    1 + operands.length = instructionSize machine.variant byte := by
  obtain ⟨loaded, executed, decoding, -, -⟩ := consumes.executed
  rw [(decode_ok decoding).2.2.1, instructionSize_eq]
  rfl

theorem bytes (consumes : machine.Consumes byte operands after) (index : Nat)
    (within : index < operands.length) :
    machine.memory.readByte ((machine.pc.toNat + 1 + index) % 256 : Nat) = .ok operands[index] := by
  obtain ⟨loaded, executed, decoding, -, -⟩ := consumes.executed
  have fetched := (decode_ok decoding).2.2.2 index within
  have address_eq : (machine.pc + 1 + UInt8.ofNat index).toNat =
      (machine.pc.toNat + 1 + index) % 256 := by
    rw [pc_add_succ, toNat_add_ofNat]
    omega
  rw [← address_eq]
  exact fetched

theorem pc_eq (consumes : machine.Consumes byte operands after) :
    after.pc =
      ((Opcode.ofByte? byte).bind (machine.target? · operands)).getD
        (machine.pc + UInt8.ofNat (instructionSize machine.variant byte)) := by
  obtain ⟨loaded, executed, decoding, carried, rfl⟩ := consumes.executed
  have carried_pc := pc_of_carryOut carried
  rw [pc_of_decode decoding] at carried_pc
  cases known : Opcode.ofByte? byte with
  | none =>
      rw [known] at carried_pc
      exact carried_pc
  | some opcode =>
      rw [known, Option.bind_some, target?_of_decode known decoding] at carried_pc
      exact carried_pc

theorem listed (consumes : machine.Consumes byte operands after)
    (whole : machine.pc.toNat + instructionSize machine.variant byte ≤
      min 256 machine.memory.size) :
    ∃ image entry, machine.memory.dump 0 none = .ok image ∧
      Listing.entryAt? machine.variant image machine.pc.toNat machine.pc.toNat = some entry ∧
      entry.size = instructionSize machine.variant byte ∧ entry.operands = operands := by
  have size_eq := consumes.size_eq
  obtain ⟨inside, cell_eq⟩ := Memory.readByte_ok_iff.mp consumes.readable
  have inside' : machine.pc.toNat < machine.memory.cells.toList.length := by
    rw [Array.length_toList]
    exact inside
  rw [Memory.cell_eq_getElem inside'] at cell_eq
  have count_eq : (Listing.operandKinds machine.variant byte).length = operands.length := by
    have table := instructionSize_eq machine.variant byte
    omega
  have listed_eq : operands =
      (machine.memory.cells.toList.drop (machine.pc.toNat + 1)).take operands.length := by
    apply operands_eq_listed (by omega)
    intro index within
    -- An instruction in one piece ends before the program counter would come round to zero.
    have unwrapped : machine.pc.toNat + 1 + index =
        (machine.pc.toNat + 1 + index) % 256 := by omega
    rw [unwrapped]
    exact consumes.bytes index within
  refine ⟨_, _, Memory.dump_all (by omega), Listing.entryAt?_of_lt inside' _ _, ?_, ?_⟩
  · rw [cell_eq, count_eq, ← listed_eq, ← size_eq, Nat.add_comm]
    rfl
  · rw [cell_eq, count_eq, ← listed_eq]
    rfl

theorem stores_pc (consumes : machine.Consumes byte operands after) (number address : UInt8)
    (stores : Opcode.ofByte? byte = some .put) (operands_eq : operands = [number, address])
    (named : registerOf number = .pc) :
    machine.memory.writeByte address.toNat (machine.pc + 3).toNat = .ok after.memory := by
  obtain ⟨loaded, executed, decoding, carried, rfl⟩ := consumes.executed
  have behind : loaded.registers.get .pc = machine.pc + 3 := by
    have size_eq : instructionSize machine.variant byte = 3 := by
      rw [instructionSize, stores]
      rfl
    have passed := pc_of_decode decoding
    rw [size_eq] at passed
    exact passed
  simp only [carryOut, stores, operands_eq] at carried
  obtain ⟨memory, written, rfl⟩ := writeCell_ok carried
  rw [named, behind, (decode_ok decoding).2.1] at written
  exact written

end Consumes

/-- A step that succeeds has decoded its instruction and carried it out. -/
theorem consumes_of_step (stepped : step machine = .ok event after) :
    ∃ byte operands, machine.Consumes byte operands after := by
  obtain ⟨running, byte, executed, readable, execution, rfl⟩ := step_ok stepped
  rw [execute_eq_decoded] at execution
  obtain ⟨operands, loaded, decoding, carried⟩ := bind_ok execution
  exact ⟨byte, operands, readable, loaded, executed, decoding, carried, rfl⟩

/-- A step takes its instruction from memory as the table lays it out. The operands are the bytes
behind the opcode, as many as the table lists. The step goes on where the instruction makes it go
on, or else behind the instruction. A listing of memory shows the same number of bytes and the same
operands, if the instruction lies in one piece. The program counter, where it is stored, has passed
the instruction. -/
theorem step_follows_table (stepped : step machine = .ok event after) :
    ∃ byte operands, machine.Consumes byte operands after ∧
      let size := instructionSize machine.variant byte
      let opcode? := Opcode.ofByte? byte
      1 + operands.length = size ∧
      (∀ index (within : index < operands.length),
        machine.memory.readByte ((machine.pc.toNat + 1 + index) % 256 : Nat) =
          .ok operands[index]) ∧
      after.pc = (opcode?.bind (machine.target? · operands)).getD (machine.pc + UInt8.ofNat size) ∧
      (machine.pc.toNat + size ≤ min 256 machine.memory.size →
        ∃ image entry, machine.memory.dump 0 none = .ok image ∧
          Listing.entryAt? machine.variant image machine.pc.toNat machine.pc.toNat = some entry ∧
          entry.size = size ∧ entry.operands = operands) ∧
      (∀ number address, opcode? = some .put → operands = [number, address] →
        registerOf number = .pc →
          machine.memory.writeByte address.toNat (machine.pc + 3).toNat = .ok after.memory) := by
  obtain ⟨byte, operands, consumes⟩ := consumes_of_step stepped
  exact ⟨byte, operands, consumes, consumes.size_eq, consumes.bytes, consumes.pc_eq,
    consumes.listed, consumes.stores_pc⟩

theorem step_follows_table_at_store :
    ∃ event after, step (holding [0x03, 0x05, 0x02]) = .ok event after ∧
      ∃ operands, (holding [0x03, 0x05, 0x02]).Consumes 0x03 operands after ∧
        operands.length = 2 := by
  obtain ⟨event, after, stepped⟩ :
      ∃ event after, step (holding [0x03, 0x05, 0x02]) = .ok event after := ⟨_, _, rfl⟩
  obtain ⟨byte, operands, consumes, size_eq, -⟩ := step_follows_table stepped
  have stored : (.ok 0x03 : Except Fault UInt8) = .ok byte := consumes.readable
  cases stored
  have three : 1 + operands.length = 3 := size_eq
  exact ⟨event, after, stepped, operands, consumes, by omega⟩

end Follow

end Machine

end ByteMachine
