import ByteMachine.Proofs.Calls

/-!
# Machines that are recast

A machine is recast when its configuration and its device are replaced and everything else stays as
it is. If reads, writes and bytes that are no opcode come to the same in the new cast, then so do
all calls.
-/

namespace ByteMachine

/-- A reply in which the device is replaced. -/
def Device.Reply.onto {δ ε α : Type} (replace : δ → ε) (reply : Device.Reply δ α) :
    Device.Reply ε α :=
  ⟨replace reply.device, reply.result, reply.requestsBreak⟩

namespace Machine

variable {δ ε : Type}

/-- A machine with another configuration and another device. -/
def recast (change : Config → Config) (replace : δ → ε) (machine : Machine δ) : Machine ε :=
  { machine with
    config := change machine.config
    device := replace machine.device }

/-- The second of two machines is the first one recast. -/
abbrev IsRecast (change : Config → Config) (replace : δ → ε) (machine : Machine δ)
    (other : Machine ε) : Prop :=
  other = machine.recast change replace

/-- What a machine asks of its configuration and its device comes to the same when it is recast. -/
structure Recasts [Device δ] [Device ε] (excused : Fault → Prop) (change : Config → Config)
    (replace : δ → ε) : Prop where
  variant (config : Config) : (change config).variant = config.variant
  maxSteps (config : Config) : (change config).maxSteps = config.maxSteps
  readDevice (width : Width) :
    Simulates excused (IsRecast change replace) Eq (readDevice width) (readDevice width)
  writeDevice (width : Width) (value : Nat) :
    Simulates excused (IsRecast change replace) Eq (writeDevice width value)
      (writeDevice width value)
  skip (address opcode : UInt8) :
    Simulates excused (IsRecast change replace) Eq (skip address opcode) (skip address opcode)

theorem simulates_skip_of_strict {excused : Fault → Prop} {change : Config → Config}
    (strict : ∀ config, (change config).strictOpcodes = config.strictOpcodes) (replace : δ → ε)
    (address opcode : UInt8) :
    Simulates excused (IsRecast change replace) Eq (skip address opcode) (skip address opcode) := by
  rintro machine _ rfl
  simp only [skip, recast, strict]
  split
  · exact .error rfl
  · exact .ok rfl rfl

section Replies

variable [Device δ] [Device ε] {excused : Fault → Prop} {change : Config → Config}
  {replace : δ → ε} {width : Width}

/-- A read comes to the same if the replies are the same, but for the device that is replaced. -/
theorem simulates_readDevice_of_onto
    (replies : ∀ device,
      Device.read? width (replace device) = (Device.read? width device).map (·.onto replace)) :
    Simulates excused (IsRecast change replace) Eq (readDevice width) (readDevice width) := by
  rintro machine _ rfl
  simp only [readDevice, recast, replies]
  cases Device.read? width machine.device with
  | none => exact .error rfl
  | some reply =>
      simp only [Option.map_some, Device.Reply.onto]
      cases reply.result with
      | error failure => exact .error rfl
      | ok reading =>
          dsimp only
          cases acceptReading width reading with
          | error problem => exact .error rfl
          | ok value => exact .ok rfl rfl

/-- So does a write. -/
theorem simulates_writeDevice_of_onto {value : Nat}
    (replies : ∀ device,
      Device.write? width value (replace device) =
        (Device.write? width value device).map (·.onto replace)) :
    Simulates excused (IsRecast change replace) Eq (writeDevice width value)
      (writeDevice width value) := by
  rintro machine _ rfl
  simp only [writeDevice, recast, replies]
  cases Device.write? width value machine.device with
  | none => exact .error rfl
  | some reply =>
      simp only [Option.map_some, Device.Reply.onto]
      cases reply.result with
      | error failure => exact .error rfl
      | ok done => exact .ok rfl rfl

end Replies

namespace Recasts

variable [Device δ] [Device ε] {excused : Fault → Prop} {change : Config → Config}
  {replace : δ → ε}

theorem variant_eq (recasts : Recasts excused change replace) (machine : Machine δ) :
    (machine.recast change replace).variant = machine.variant :=
  recasts.variant machine.config

theorem registerFile_eq (recasts : Recasts excused change replace) (machine : Machine δ) :
    (machine.recast change replace).registerFile = machine.registerFile := by
  rw [registerFile, recasts.variant_eq]
  rfl

theorem respected (recasts : Recasts excused change replace) :
    StepRespected excused (fun _ => True) (IsRecast change replace) where
  variant := by
    rintro machine _ rfl
    exact (recasts.variant_eq machine).symm
  registers := fun recast => recast ▸ rfl
  status := fun recast => recast ▸ rfl
  update := by
    rintro change machine _ rfl
    exact .ok rfl rfl
  readCell := by
    rintro address machine _ rfl
    simp only [readCell, recast]
    cases machine.memory.readByte address.toNat with
    | error fault => exact .error rfl
    | ok byte => exact .ok rfl rfl
  writeCell := by
    rintro address value _ machine _ rfl
    simp only [writeCell, recast]
    cases machine.memory.writeByte address.toNat value.toNat with
    | error fault => exact .error rfl
    | ok memory => exact .ok rfl rfl
  readDevice := fun width _ => recasts.readDevice width
  writeDevice := fun width value _ => recasts.writeDevice width value
  halt := fun _ recast => recast ▸ rfl
  skip := recasts.skip
  begin := fun recast => recast ▸ rfl
  observe := fun _ _ _ _ recast => recast ▸ rfl
  count := fun recast => recast ▸ rfl

theorem runRespected (recasts : Recasts excused change replace) :
    RunRespected excused (fun _ => True) (IsRecast change replace) where
  pc := fun recast => recast ▸ rfl
  status := recasts.respected.status
  steps := fun recast => recast ▸ rfl
  maxSteps := by
    rintro machine _ rfl
    exact (recasts.maxSteps machine.config).symm
  resumeAt := fun recast => recast ▸ rfl
  check := by
    rintro machine _ rfl
    have pc_eq : (machine.recast change replace).pc = machine.pc := rfl
    have debugger_eq : (machine.recast change replace).debugger = machine.debugger := rfl
    rw [recasts.registerFile_eq, pc_eq, debugger_eq]
    cases machine.debugger.checkInstruction machine.registerFile machine.pc.toNat with
    | error fault => exact Or.inl ⟨fault, rfl, rfl⟩
    | ok answer => exact Or.inr ⟨answer.1, answer.1, answer.2, rfl, rfl, rfl⟩
  step := fun recast _ => recasts.respected.step (fun _ => trivial) _ _ recast
  store := by
    rintro machine _ _ _ rfl - -
    have store_eq : (machine.recast change replace).store? = machine.store? := by
      rw [store?, recasts.variant_eq]
      rfl
    rw [watchedStore?, watchedStore?, store_eq]
    rfl
  settle := fun recast => recast ▸ rfl
  remember := fun _ recast => recast ▸ rfl
  conclude := fun _ recast => recast ▸ rfl

end Recasts

end Machine

end ByteMachine
