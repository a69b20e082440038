import ByteMachine.Proofs.Diagnosis
import ByteMachine.Proofs.Recast

/-!
# Lenience

A strict machine fails at a byte that is no opcode. A lenient one passes over it as over an
instruction that does nothing. As long as the strict machine does not fail in this way, the two do
the same.
-/

namespace ByteMachine

/-- A fault is that of a byte which is no opcode. -/
def Fault.IsUnknownOpcode : Fault → Prop
  | .unknownOpcode .. => True
  | _ => False

/-- A configuration in which bytes that are no opcodes are skipped. -/
def Config.lenient (config : Config) : Config :=
  { config with strictOpcodes := false }

namespace Machine

variable {δ : Type}

/-! ## Steps of a lenient machine -/

/-- A machine that has passed the byte at the program counter and has counted the step. Only the
observer and the journal learn which byte it was. -/
def passed (machine : Machine δ) (byte : UInt8) : Machine δ :=
  { machine with
    observer := machine.observer.tell machine.pc byte
    registers := { machine.registers with pc := machine.pc + 1 }
    debugger :=
      if (machine.observer.tell machine.pc byte).wantsBreak then machine.debugger.requestBreak
      else machine.debugger
    steps := machine.steps + 1
    lastAddress := machine.pc
    writeStop := none
    journal := .fetched machine.pc byte :: machine.journal }

/-- A machine in which another byte stands at the program counter. -/
def patched (machine : Machine δ) (byte : UInt8) : Machine δ :=
  { machine with memory := machine.memory.overwrite machine.pc.toNat [byte] }

section Steps

variable [Device δ] {machine after : Machine δ} {byte : UInt8} {fault : Fault}

/-- The instruction that does nothing is passed. -/
theorem step_of_nop (running : machine.status = .running)
    (readable : machine.memory.readByte machine.pc.toNat = .ok Opcode.nop.code) :
    step machine = .ok (.stepped (machine.pc + 1).toNat) (machine.passed Opcode.nop.code) := by
  have executed : execute machine.pc Opcode.nop.code (machine.fetched Opcode.nop.code) =
      .ok () (machine.fetched Opcode.nop.code) := rfl
  have running_after : (machine.fetched Opcode.nop.code).counted.status = .running := running
  rw [step_of_readable running readable, executed]
  simp only [stepEvent, running_after]
  rfl

/-- A lenient machine passes a byte that is no opcode. -/
theorem step_of_unknown (lenient : machine.config.strictOpcodes = false)
    (running : machine.status = .running)
    (readable : machine.memory.readByte machine.pc.toNat = .ok byte)
    (unknown : Opcode.ofByte? byte = none) :
    step machine =
      .ok (.stepped (machine.pc + 1).toNat)
        ((machine.passed byte).note (.skipped machine.pc byte)) := by
  have lenient_fetched : (machine.fetched byte).config.strictOpcodes = false := lenient
  have executed : execute machine.pc byte (machine.fetched byte) =
      .ok () ((machine.fetched byte).note (.skipped machine.pc byte)) := by
    simp only [execute, unknown, skip, lenient_fetched]
    rfl
  have running_after :
      ((machine.fetched byte).note (.skipped machine.pc byte)).counted.status = .running := running
  rw [step_of_readable running readable, executed]
  simp only [stepEvent, running_after]
  rfl

/-- An instruction never fails for want of an opcode. -/
theorem perform_known {opcode : Opcode} (failed : perform opcode machine = .error fault after) :
    ¬fault.IsUnknownOpcode := by
  obtain ⟨_, _, rfl⟩ | ⟨_, _, _, rfl⟩ | ⟨_, _, rfl⟩ | ⟨-, _, _, rfl⟩ := perform_error failed
  all_goals exact id

/-- No step of a lenient machine fails at a byte that is no opcode. -/
theorem step_known (lenient : machine.config.strictOpcodes = false)
    (running : machine.status = .running) (failed : step machine = .error fault after) :
    ¬fault.IsUnknownOpcode := by
  cases readable : machine.memory.readByte machine.pc.toNat with
  | error problem =>
      rw [step_of_unreadable running readable] at failed
      cases failed
      obtain ⟨-, rfl⟩ := Memory.readByte_error readable
      exact id
  | ok byte =>
      cases known : Opcode.ofByte? byte with
      | none =>
          rw [step_of_unknown lenient running readable known] at failed
          cases failed
      | some opcode =>
          rw [step_of_readable running readable, execute, known] at failed
          split at failed
          · rename_i unperformed
            cases failed
            exact perform_known unperformed
          · cases failed

end Steps

/-! ## Strict and lenient machines -/

/-- A machine that passes over bytes that are no opcodes. -/
def lenient (machine : Machine δ) : Machine δ :=
  { machine with config := machine.config.lenient }

section Lenient

variable [Device δ]

/-- A lenient machine is the machine in a cast that makes no difference, except at a byte that is
no opcode. -/
theorem recasts_lenient : Recasts Fault.IsUnknownOpcode Config.lenient (id : δ → δ) where
  variant := fun _ => rfl
  maxSteps := fun _ => rfl
  readDevice := simulates_readDevice (fun recast => recast ▸ rfl) fun _ recast => recast ▸ rfl
  writeDevice := simulates_writeDevice (fun recast => recast ▸ rfl) fun _ recast => recast ▸ rfl
  skip := by
    rintro address opcode machine _ rfl
    cases strict : machine.config.strictOpcodes with
    | true =>
        simp only [skip, strict, ↓reduceIte]
        exact .excused trivial
    | false =>
        simp only [skip, strict]
        exact .ok rfl rfl

/-- A lenient machine never fails at a byte that is no opcode. -/
theorem lenient_known {machine : Machine δ} (lenient : machine.config.strictOpcodes = false)
    {calls : List Call} {fault : Fault} (failed : .error fault ∈ (series call calls machine).1) :
    ¬fault.IsUnknownOpcode := by
  cases comesFrom_of_calls failed with
  | halted => exact id
  | hook concerned =>
      obtain ⟨reference, owner, rfl⟩ := concerned
      exact id
  | attempt member failed =>
      obtain ⟨running, config_eq⟩ := running_of_attempt member
      exact step_known (config_eq ▸ lenient) running failed

/-- Lenience extends strictness. Calls to which a machine does not answer with an unknown opcode are
answered in the same way if the machine is made lenient, and leave the same machine, but for its
lenience. The lenient machine passes a byte that is no opcode, just as it passes the instruction
that does nothing if that stands in the place of the byte. It never answers with an unknown
opcode. -/
theorem lenience_extends_strictness (machine : Machine δ) :
    (∀ calls,
      (∀ fault, .error fault ∈ (series call calls machine).1 → ¬fault.IsUnknownOpcode) →
        (series call calls machine.lenient).1 = (series call calls machine).1 ∧
          (series call calls machine.lenient).2 = (series call calls machine).2.lenient) ∧
    (∀ byte, machine.status = .running →
      machine.memory.readByte machine.pc.toNat = .ok byte → Opcode.ofByte? byte = none →
        let replaced := machine.lenient.patched Opcode.nop.code
        step machine.lenient =
            .ok (.stepped (machine.pc + 1).toNat)
              ((machine.lenient.passed byte).note (.skipped machine.pc byte)) ∧
          step replaced =
            .ok (.stepped (machine.pc + 1).toNat) (replaced.passed Opcode.nop.code)) ∧
    ∀ calls fault, .error fault ∈ (series call calls machine.lenient).1 →
      ¬fault.IsUnknownOpcode := by
  refine ⟨?_, ?_, ?_⟩
  · intro calls known
    have recast : IsRecast Config.lenient id machine machine.lenient := rfl
    obtain ⟨answers_eq, machine_eq⟩ :=
      recasts_lenient.runRespected.calls calls recast (fun _ _ => trivial) known
    exact ⟨answers_eq.symm, machine_eq⟩
  · intro byte running readable unknown replaced
    obtain ⟨inside, -⟩ := Memory.readByte_ok_iff.mp readable
    exact ⟨step_of_unknown rfl running readable unknown,
      step_of_nop running (Memory.readByte_overwrite inside)⟩
  · intro calls fault failed
    exact lenient_known rfl failed

end Lenient

theorem lenience_extends_strictness_at_unknown :
    (series call [.step, .run 4 none] (holding [0x08, 0xFF, 0x2A]).lenient).1 =
        [.ok (some (.stepped 1)), .ok (some (.ranToHalt 1 2))] ∧
      ∃ after, step (holding [0x2A, 0xFF]).lenient = .ok (.stepped 1) after := by
  have answers : (series call [.step, .run 4 none] (holding [0x08, 0xFF, 0x2A])).1 =
      [.ok (some (.stepped 1)), .ok (some (.ranToHalt 1 2))] := by decide +kernel
  have known (fault : Fault)
      (failed : .error fault ∈ (series call [.step, .run 4 none] (holding [0x08, 0xFF, 0x2A])).1) :
      ¬fault.IsUnknownOpcode := by
    rw [answers] at failed
    simp at failed
  obtain ⟨answers_eq, -⟩ := (lenience_extends_strictness (holding [0x08, 0xFF, 0x2A])).1 _ known
  obtain ⟨stepped, -⟩ :=
    (lenience_extends_strictness (holding [0x2A, 0xFF])).2.1 0x2A rfl rfl (by decide)
  exact ⟨answers_eq.trans answers, _, stepped⟩

end Machine

end ByteMachine
