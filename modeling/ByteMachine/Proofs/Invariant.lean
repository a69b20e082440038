import ByteMachine.Proofs.Effect
import ByteMachine.Proofs.Restart

/-!
# What holds in every state

Whatever is asked of a machine, and whether it does it or not, memory keeps its size, the registers
that the machine does not have stay zero, and the machine counts what it has executed since it was
reset last. It is halted just when the instruction that halts it is among that.
-/

namespace ByteMachine

namespace Machine

variable {δ : Type}

/-! ## What has been executed -/

section History

variable [Device δ]

/-- The machines in which a call executes an instruction, in order. An attempt that fails executes
none. -/
def executedBy (machine : Machine δ) (call : Call) : List (Machine δ) :=
  (machine.attempts call).filter (·.next?.isSome)

/-- The machines in which an instruction was executed since the last reset, in order, after a
machine has responded to a request. Those from before the request are given. -/
def executedAfter (machine : Machine δ) (executed : List (Machine δ)) :
    Request δ → List (Machine δ)
  | .call call => executed ++ machine.executedBy call
  | .access _ => executed
  | .reset _ => []

/-- The same after a series of requests. -/
def executedSince : List (Request δ) → List (Machine δ) → Machine δ → List (Machine δ)
  | [], executed, _ => executed
  | request :: rest, executed, machine =>
    executedSince rest (machine.executedAfter executed request) (stateOf (respond request machine))

end History

/-! ## The invariant -/

/-- What holds of a machine with a configuration that has executed some instructions since it was
last reset. -/
structure Sound (config : Config) (executed : List (Machine δ)) (machine : Machine δ) : Prop where
  config_eq : machine.config = config
  sized : machine.Sized
  /-- Registers that the machine does not have are zero. -/
  outside : ∀ value ∈ machine.registers.outside machine.variant, value = 0
  /-- The steps are counted. -/
  steps : machine.steps = executed.length
  /-- The machine has halted just when it was told to. -/
  halted : machine.status = .halted ↔ ∃ earlier ∈ executed, earlier.nextOpcode? = some .halt

namespace Sound

variable {config : Config} {executed : List (Machine δ)} {machine other : Machine δ}

theorem start (config : Config) (device : δ) : Sound config [] (Machine.start config device) where
  config_eq := rfl
  sized := Memory.size_zeroed config.effectiveMemorySize
  outside := Registers.outside_zeroed config.variant
  steps := rfl
  halted := by simp [Machine.start]

theorem reset (sound : Sound config executed machine) (clearsMemory : Bool) :
    Sound config [] (machine.reset clearsMemory) where
  config_eq := sound.config_eq
  sized := by
    refine sound.sized.of_eq rfl ?_
    cases clearsMemory with
    | true => exact Memory.size_clear _
    | false => rfl
  outside := Registers.outside_zeroed machine.variant
  steps := rfl
  halted := by simp [Machine.reset]

theorem access (sound : Sound config executed machine) (access : Access δ) :
    Sound config executed (machine.access access) := by
  have idle := idle_access machine access
  have variant_eq : (machine.access access).variant = machine.variant :=
    congrArg Config.variant idle.config
  exact
    { config_eq := idle.config.trans sound.config_eq
      sized := sound.sized.of_eq idle.config (size_of_access machine access)
      outside := by
        rw [variant_eq, outside_of_access]
        exact sound.outside
      steps := idle.steps.trans sound.steps
      halted := by
        rw [idle.status]
        exact sound.halted }

theorem of_alike (sound : Sound config executed machine) (alike : machine.Alike other) :
    Sound config executed other where
  config_eq := alike.config.symm.trans sound.config_eq
  sized := sound.sized.of_eq alike.config.symm (congrArg Memory.size alike.memory.symm)
  outside := by
    rw [← alike.registers, Machine.variant, ← alike.config]
    exact sound.outside
  steps := alike.steps.symm.trans sound.steps
  halted := by
    rw [← alike.status]
    exact sound.halted

variable [Device δ]

omit [Device δ] in
theorem none_halts (sound : Sound config executed machine) (running : machine.status = .running) :
    ¬∃ earlier ∈ executed, earlier.nextOpcode? = some .halt := by
  rw [← sound.halted, running]
  simp

/-- A step that succeeds adds itself to what was executed, and one that fails adds nothing. -/
theorem attempt (sound : Sound config executed machine) (running : machine.status = .running) :
    Sound config (executed ++ [machine].filter (·.next?.isSome)) (stateOf (step machine)) := by
  have frame := step_frame machine
  have variant_eq : (stateOf (step machine)).variant = machine.variant :=
    congrArg Config.variant frame.config
  -- Before the step nothing has halted the machine, so only this step can.
  have unhalted := sound.none_halts running
  refine
    { config_eq := frame.config.trans sound.config_eq
      sized := sound.sized.step rfl
      outside := by
        rw [variant_eq, outside_of_step]
        exact sound.outside
      steps := ?_
      halted := ?_ }
  · cases stepped : step machine with
    | ok event after =>
        simp [stateOf, next?_of_step stepped, steps_of_step stepped, sound.steps]
    | error fault after =>
        simp [stateOf, next?_of_fault stepped, (unended_of_fault running stepped).2, sound.steps]
  · cases stepped : step machine with
    | ok event after =>
        rw [stateOf, halted_of_step_iff stepped]
        simp [next?_of_step stepped, or_and_right, exists_or, unhalted]
    | error fault after =>
        simp [stateOf, next?_of_fault stepped, (unended_of_fault running stepped).1, unhalted]

/-- A call adds what it executes. -/
theorem call (sound : Sound config executed machine) (call : Call) :
    Sound config (executed ++ machine.executedBy call) (stateOf (Machine.call call machine)) := by
  -- What the call attempts comes behind what was executed before it.
  have upheld : Upheld fun (before : List (Machine δ)) now =>
      Sound config (executed ++ before.filter (·.next?.isSome)) now :=
    { attempt := by
        intro before now running sound
        rw [List.filter_append, ← List.append_assoc]
        exact sound.attempt running
      note := fun alike sound => sound.of_alike alike }
  have nothing : executed ++ ([] : List (Machine δ)).filter (·.next?.isSome) = executed :=
    List.append_nil executed
  exact upheld.call call (nothing.symm ▸ sound)

/-- Every response to a request is in order, whether the machine does what is asked or not. -/
theorem respond (sound : Sound config executed machine) (request : Request δ) :
    Sound config (machine.executedAfter executed request)
      (stateOf (Machine.respond request machine)) := by
  cases request with
  | call call =>
      have called := sound.call call
      simp only [Machine.respond, bind, EStateM.bind]
      cases answered : Machine.call call machine <;> rw [answered] at called <;> exact called
  | access access =>
      have accessed := sound.access access
      simp only [Machine.respond]
      cases machine.answer access <;> exact accessed
  | reset clearsMemory => exact sound.reset clearsMemory

theorem series (sound : Sound config executed machine) (requests : List (Request δ)) :
    Sound config (executedSince requests executed machine)
      (ByteMachine.series Machine.respond requests machine).2 := by
  induction requests generalizing executed machine with
  | nil => exact sound
  | cons request rest ih => exact ih (sound.respond request)

end Sound

/-- In every state of a machine, after any series of requests of which some may have failed, memory
is as large as configured, cells and registers hold bytes, and registers that the machine does not
have hold zero. The machine has counted the instructions that it has executed since the last reset,
and it is halted just when one of them was the one that halts it. A halted machine refuses to step
and to run, and stays as it is. -/
theorem state_invariant [Device δ] (config : Config) (device : δ) (requests : List (Request δ)) :
    let final := (series respond requests (start config device)).2
    let executed := executedSince requests [] (start config device)
    final.memory.size = config.effectiveMemorySize.cells ∧
      (∀ cell ∈ final.memory.cells, cell.toNat ≤ 255) ∧
      (∀ register, (final.registers.get register).toNat ≤ 255) ∧
      (config.variant = .byte →
        final.registers.c = 0 ∧ final.registers.d = 0 ∧ final.registers.i = 0) ∧
      final.steps = executed.length ∧
      (final.status = .halted ↔ ∃ earlier ∈ executed, earlier.nextOpcode? = some .halt) ∧
      (final.status = .halted →
        step final = .error .alreadyHalted final ∧
          ∀ supply maxSteps, run supply maxSteps final = .error .alreadyHalted final) := by
  intro final executed
  have sound : Sound config executed final := (Sound.start config device).series requests
  have byte_le (byte : UInt8) : byte.toNat ≤ 255 := Nat.le_of_lt_succ byte.toNat_lt
  refine ⟨?_, fun cell _ => byte_le cell, fun register => byte_le _, ?_, sound.steps, sound.halted,
    ?_⟩
  · rw [← sound.config_eq]
    exact sound.sized
  · intro byte
    have outside := sound.outside
    rw [Machine.variant, sound.config_eq, byte, Registers.outside_byte] at outside
    simpa using outside
  · intro halted
    exact ⟨step_of_halted halted, fun supply _ => run_of_halted halted supply⟩

example :
    (executedSince [.access (.load [0x00, 0xFF] 0), .call (.run 9 none), .call .step] []
      (start (.ofVariant .byte none) (Scripted.ofInputs []))).length = 2 := by
  decide +kernel

end Machine

end ByteMachine
