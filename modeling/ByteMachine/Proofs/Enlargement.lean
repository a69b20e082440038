import ByteMachine.Proofs.Diagnosis
import ByteMachine.Proofs.Matching

/-!
# Larger memories

A machine with more memory does the same as one with less, as long as the one with less never
leaves its memory, and it never touches the cells that only it has. A program names cells by bytes,
so no step leaves a memory of 256 cells or more.
-/

namespace ByteMachine

/-- A fault is that of an access outside memory. -/
def Fault.LeavesMemory : Fault → Prop
  | .memoryAccess .. => True
  | _ => False

/-! ## Memories with more cells -/

namespace Memory

/-- A larger memory holds the same bytes in the cells that both have. -/
structure Extends (memory larger : Memory) : Prop where
  size_le : memory.size ≤ larger.size
  cell_eq : ∀ index < memory.size, larger.cell index = memory.cell index

theorem Extends.overwrite {memory larger : Memory} {index : Nat}
    (extended : memory.Extends larger) (within : index < memory.size) (byte : UInt8) :
    (memory.overwrite index [byte]).Extends (larger.overwrite index [byte]) := by
  have within_larger := Nat.lt_of_lt_of_le within extended.size_le
  refine ⟨?_, ?_⟩
  · rw [size_overwrite, size_overwrite]
    exact extended.size_le
  · intro other inside
    rw [size_overwrite] at inside
    rw [cell_overwrite_one within, cell_overwrite_one within_larger, extended.cell_eq other inside]

/-- Two memories have come from a smaller and a larger one, and the larger has kept the cells that
the smaller lacks. -/
structure ExtendsFrom (small large memory larger : Memory) : Prop
    extends memory.Extends larger where
  size_eq : memory.size = small.size
  larger_size_eq : larger.size = large.size
  beyond : ∀ index, small.size ≤ index → larger.cell index = large.cell index

/-- Accesses that succeed in the smaller memory succeed in the larger one. -/
theorem respected_extendsFrom (small large : Memory) :
    Respected Fault.LeavesMemory (ExtendsFrom small large) where
  read := by
    intro memory larger address related
    by_cases within : address.toNat < memory.size
    · refine Or.inr ⟨memory.cell address.toNat, readByte_of_lt within, ?_⟩
      rw [readByte_of_lt (Nat.lt_of_lt_of_le within related.size_le), related.cell_eq _ within]
    · exact Or.inl ⟨_, readByte_of_le (Nat.le_of_not_lt within), Or.inl trivial⟩
  write := by
    intro memory larger address value related
    by_cases within : address.toNat < memory.size
    · have within_larger := Nat.lt_of_lt_of_le within related.size_le
      refine Or.inr ⟨_, _, writeByte_of_lt within, writeByte_of_lt within_larger, ?_⟩
      refine ⟨related.toExtends.overwrite within _, ?_, ?_, ?_⟩
      · rw [size_overwrite, related.size_eq]
      · rw [size_overwrite, related.larger_size_eq]
      · -- The write goes to a cell that the smaller memory has.
        intro index beyond
        have elsewhere : index ≠ address.toNat := by
          have size_eq := related.size_eq
          omega
        rw [cell_overwrite_one within_larger, if_neg elsewhere, related.beyond index beyond]
    · exact Or.inl ⟨_, writeByte_of_le (Nat.le_of_not_lt within), Or.inl trivial⟩

end Memory

namespace Machine

variable {δ : Type}

/-! ## Steps in a memory of 256 cells -/

section Roomy

variable {machine after : Machine δ} {fault : Fault}

theorem operandFault?_within {variant : Variant} {opcode : Opcode} {address value : UInt8}
    {kind : OperandKind} (found : operandFault? variant opcode address kind value = some fault) :
    ¬fault.LeavesMemory := by
  obtain ⟨mnemonic, tag, place, rfl⟩ | ⟨reference, owner, rfl⟩ := operandFault?_cases found
  · exact id
  · exact id

theorem decode_within {byte : UInt8} (roomy : 256 ≤ machine.memory.size)
    (failed : decode byte machine = .error fault after) : ¬fault.LeavesMemory := by
  unfold decode at failed
  split at failed
  · obtain ⟨address, unreadable⟩ | ⟨address, kind, value, found⟩ := fetchOperands_error failed
    · rw [prepared_memory] at unreadable
      have beyond := (Memory.readByte_error unreadable).1
      have small := address.toNat_lt
      omega
    · exact operandFault?_within found
  · cases failed

variable [Device δ]

theorem carryOut_within {address byte : UInt8} {operands : List UInt8}
    (roomy : 256 ≤ machine.memory.size)
    (failed : carryOut address byte operands machine = .error fault after) :
    ¬fault.LeavesMemory := by
  cases known : Opcode.ofByte? byte with
  | some opcode =>
      simp only [carryOut, known] at failed
      obtain ⟨-, operation, problem, rfl⟩ | ⟨-, number, location, -, beyond, rfl⟩ :=
        enact_error failed
      · exact id
      · have small := location.toNat_lt
        omega
  | none =>
      simp only [carryOut, known, skip] at failed
      split at failed
      · cases failed
        exact id
      · cases failed

/-- No step leaves a memory that has a cell for every byte. -/
theorem step_within (roomy : 256 ≤ machine.memory.size)
    (failed : step machine = .error fault after) : ¬fault.LeavesMemory := by
  cases status : machine.status with
  | halted =>
      rw [step_of_halted status] at failed
      cases failed
      exact id
  | running =>
      have inside : machine.pc.toNat < machine.memory.size :=
        Nat.lt_of_lt_of_le machine.pc.toNat_lt roomy
      obtain ⟨byte, readable⟩ : ∃ byte, machine.memory.readByte machine.pc.toNat = .ok byte :=
        ⟨_, Memory.readByte_of_lt inside⟩
      rw [step_eq_decoded status readable] at failed
      simp only [bind, EStateM.bind] at failed
      cases decoding : decode byte (machine.fetched byte) with
      | error problem loaded =>
          rw [decoding] at failed
          cases failed
          have roomy_fetched : 256 ≤ (machine.fetched byte).memory.size := roomy
          exact decode_within roomy_fetched decoding
      | ok operands loaded =>
          rw [decoding] at failed
          dsimp only at failed
          split at failed
          · rename_i carried
            cases failed
            refine carryOut_within ?_ carried
            rw [(decode_ok decoding).2.1]
            exact roomy
          · cases failed

end Roomy

/-! ## Calls in a larger memory -/

/-- One machine is like another but has more memory. They can differ in what neither a program nor
a call sees. -/
structure Enlarged (machine larger : Machine δ) : Prop where
  variant : machine.variant = larger.variant
  strictOpcodes : machine.config.strictOpcodes = larger.config.strictOpcodes
  maxSteps : machine.config.maxSteps = larger.config.maxSteps
  device : machine.device = larger.device
  observer : machine.observer.Agrees larger.observer
  memory : machine.memory.Extends larger.memory
  registers : machine.registers = larger.registers
  debugger : machine.debugger = larger.debugger
  status : machine.status = larger.status
  steps : machine.steps = larger.steps
  resumeAt : machine.resumeAt = larger.resumeAt

section Larger

variable {small large machine larger : Machine δ}

theorem Enlarged.matched (enlarged : small.Enlarged large) :
    Matched (Memory.ExtendsFrom small.memory large.memory) small large small large where
  configs := ⟨rfl, rfl⟩
  variant := enlarged.variant
  strictOpcodes := enlarged.strictOpcodes
  maxSteps := enlarged.maxSteps
  device := enlarged.device
  observer := enlarged.observer
  memory := ⟨enlarged.memory, rfl, rfl, fun _ _ => rfl⟩
  registers := enlarged.registers
  debugger := enlarged.debugger ▸ ⟨rfl, rfl, rfl, rfl, rfl, Or.inl rfl⟩
  status := enlarged.status
  steps := enlarged.steps
  resumeAt := enlarged.resumeAt
  lastEvent := Or.inr ⟨rfl, rfl⟩

theorem Matched.enlarged (same : small.debugger = large.debugger)
    (matched : Matched (Memory.ExtendsFrom small.memory large.memory) small large machine larger) :
    machine.Enlarged larger where
  variant := matched.variant
  strictOpcodes := matched.strictOpcodes
  maxSteps := matched.maxSteps
  device := matched.device
  observer := matched.observer
  memory := matched.memory.toExtends
  registers := matched.registers
  debugger :=
    matched.debugger.eq (matched.debugger.lastEvent.eq (congrArg Debugger.lastEvent same))
  status := matched.status
  steps := matched.steps
  resumeAt := matched.resumeAt

end Larger

/-- A machine with more memory answers every call as the one with less memory does, and keeps the
cells that only it has, as long as no call leaves the smaller memory. No step leaves a memory of 256
cells or more. -/
theorem larger_memory_answers_alike [Device δ] {small large : Machine δ}
    (enlarged : small.Enlarged large) :
    (∀ calls, (∀ fault, .error fault ∈ (series call calls small).1 → ¬fault.LeavesMemory) →
      let final := (series call calls small).2
      let larger := (series call calls large).2
      (series call calls small).1 = (series call calls large).1 ∧ final.Enlarged larger ∧
        final.memory.size = small.memory.size ∧ larger.memory.size = large.memory.size ∧
        ∀ index, small.memory.size ≤ index →
          larger.memory.cell index = large.memory.cell index) ∧
    ∀ machine : Machine δ, 256 ≤ machine.memory.size → ∀ fault after,
      step machine = .error fault after → ¬fault.LeavesMemory := by
  refine ⟨?_, fun machine roomy fault after failed => step_within roomy failed⟩
  intro calls within
  have accesses := Memory.respected_extendsFrom small.memory large.memory
  obtain ⟨answers_eq, matched⟩ :=
    series_agree (fun call => Matched.call accesses call) calls enlarged.matched within
  exact ⟨answers_eq, matched.enlarged enlarged.debugger, matched.memory.size_eq,
    matched.memory.larger_size_eq, matched.memory.beyond⟩

theorem larger_memory_answers_alike_to_halt :
    (holding [0x08, 0xFF]).Enlarged (holding [0x08, 0xFF, 0x2A]) ∧
      (series call [.step, .run 4 none, .step] (holding [0x08, 0xFF])).1 =
        (series call [.step, .run 4 none, .step] (holding [0x08, 0xFF, 0x2A])).1 := by
  have enlarged : (holding [0x08, 0xFF]).Enlarged (holding [0x08, 0xFF, 0x2A]) :=
    ⟨rfl, rfl, rfl, rfl, .refl _, ⟨by decide, by decide⟩, rfl, rfl, rfl, rfl, rfl⟩
  refine ⟨enlarged, ((larger_memory_answers_alike enlarged).1 _ ?_).1⟩
  intro fault failed
  have answers : (series call [.step, .run 4 none, .step] (holding [0x08, 0xFF])).1 =
      [.ok (some (.stepped 1)), .ok (some (.ranToHalt 1 2)), .error .alreadyHalted] := rfl
  rw [answers] at failed
  simp only [List.mem_cons, reduceCtorEq, Except.error.injEq, List.not_mem_nil, or_false,
    false_or] at failed
  subst failed
  exact id

end Machine

end ByteMachine
