import ByteMachine.Proofs.Diagnosis
import ByteMachine.Proofs.Recast

/-!
# Exchanges with a device

A step calls its device once at most: when its instruction reads or writes, and the width of the
exchange is known. This file says what the step does with the reply, and that no other step has
anything to do with the device. A machine for bytes makes no call for words, and so it cannot tell
whether its device could answer one.
-/

namespace ByteMachine

namespace Machine

variable {δ : Type}

/-! ## The call of the next instruction -/

/-- The width of the next instruction, if that has one: the one its tag names, or a byte where there
are no tags. -/
def width? (machine : Machine δ) : Option Width :=
  if machine.variant.isTagged then (machine.byteAhead? 1).bind Width.ofTag? else some .byte

/-- The width of the next instruction, if that has the given opcode and its width is known. -/
def exchange? (machine : Machine δ) (opcode : Opcode) : Option Width :=
  if machine.nextOpcode? = some opcode then machine.width? else none

/-- The width of the value for which the next instruction asks the device, if it does. -/
abbrev reads? (machine : Machine δ) : Option Width :=
  machine.exchange? .inp

/-- The width of the value that the next instruction hands over to the device, if it does. -/
abbrev writes? (machine : Machine δ) : Option Width :=
  machine.exchange? .out

/-- A machine that has fetched an opcode, and whose program counter then stands somewhere behind
it. -/
def fetchedTo (machine : Machine δ) (opcode pc : UInt8) : Machine δ :=
  { machine.fetched opcode with registers := { machine.registers with pc := pc } }

section Width

variable {machine : Machine δ} {opcode : Opcode} {width : Width}

theorem exchange?_eq_some_iff :
    machine.exchange? opcode = some width ↔
      machine.nextOpcode? = some opcode ∧ machine.width? = some width := by
  unfold exchange?
  split <;> simp_all

/-- An instruction makes one kind of exchange at most. -/
theorem exchange?_of_other {other : Opcode} (exchanged : machine.exchange? opcode = some width)
    (different : opcode ≠ other) : machine.exchange? other = none := by
  obtain ⟨next, -⟩ := exchange?_eq_some_iff.mp exchanged
  rw [exchange?, next, if_neg fun same => different (Option.some.inj same)]

theorem exchange?_of_byte (bytes : machine.variant = .byte)
    (exchanged : machine.exchange? opcode = some width) : width = .byte := by
  obtain ⟨-, found⟩ := exchange?_eq_some_iff.mp exchanged
  rw [width?, bytes] at found
  exact (Option.some.inj found).symm

theorem fetchWidth_of_width (found : machine.width? = some width) (opcode : Opcode) (byte : UInt8) :
    ∃ pc, fetchWidth opcode (machine.fetched byte) = .ok width (machine.fetchedTo byte pc) := by
  unfold width? at found
  split at found
  · rename_i tagged
    have tagged_fetched : (machine.fetched byte).variant.isTagged = true := tagged
    obtain ⟨tag, ahead, named⟩ := Option.bind_eq_some_iff.mp found
    have readable := readByte_of_byteAhead? ahead
    have readable_fetched :
        (machine.fetched byte).memory.readByte (machine.fetched byte).pc.toNat = .ok tag := readable
    refine ⟨machine.pc + 1 + 1, ?_⟩
    simp only [fetchWidth, bind, EStateM.bind, get_apply, tagged_fetched, ↓reduceIte, fetch,
      readable_fetched, named]
    rfl
  · rename_i untagged
    cases found
    have untagged_fetched : ¬(machine.fetched byte).variant.isTagged = true := untagged
    refine ⟨machine.pc + 1, ?_⟩
    simp only [fetchWidth, bind, EStateM.bind, get_apply, untagged_fetched]
    rfl

theorem fetchWidth_of_none (unfound : machine.width? = none) (opcode : Opcode) (byte : UInt8) :
    ∃ fault pc,
      fetchWidth opcode (machine.fetched byte) = .error fault (machine.fetchedTo byte pc) ∧
        ∀ operation problem, fault ≠ .device operation problem := by
  unfold width? at unfound
  split at unfound
  · rename_i tagged
    have tagged_fetched : (machine.fetched byte).variant.isTagged = true := tagged
    cases readable : machine.memory.readByte (machine.pc + 1).toNat with
    | error fault =>
        have unreadable : (machine.fetched byte).memory.readByte (machine.fetched byte).pc.toNat =
            .error fault := readable
        refine ⟨fault, machine.pc + 1, ?_, ?_⟩
        · simp only [fetchWidth, bind, EStateM.bind, get_apply, tagged_fetched, ↓reduceIte, fetch,
            unreadable]
          rfl
        · obtain ⟨-, rfl⟩ := Memory.readByte_error readable
          intro operation problem same
          cases same
    | ok tag =>
        have unnamed : Width.ofTag? tag = none := by
          rw [byteAhead?, readable] at unfound
          exact unfound
        have readable_fetched :
            (machine.fetched byte).memory.readByte (machine.fetched byte).pc.toNat = .ok tag :=
          readable
        refine ⟨.invalidWidth opcode.mnemonic tag.toNat (some (machine.pc + 1).toNat),
          machine.pc + 1 + 1, ?_, ?_⟩
        · simp only [fetchWidth, bind, EStateM.bind, get_apply, tagged_fetched, ↓reduceIte, fetch,
            readable_fetched, unnamed]
          rfl
        · intro operation problem same
          cases same
  · cases unfound

end Width

/-! ## What a step does with the reply -/

section Steps

variable [Device δ] {machine : Machine δ} {width : Width}

/-- A step that reads stores what the device hands over, or fails as the read does. -/
theorem step_of_reads (running : machine.status = .running) (reads : machine.reads? = some width) :
    ∃ byte pc, step machine =
      match readDevice width (machine.fetchedTo byte pc) with
      | .error fault after => .error fault after
      | .ok value after =>
        let stored := { after with registers := after.registers.store width value }
        .ok (stepEvent machine.pc stored.counted) stored.counted := by
  obtain ⟨next, found⟩ := exchange?_eq_some_iff.mp reads
  obtain ⟨byte, readable, known⟩ := readable_of_nextOpcode? next
  obtain ⟨pc, fetched⟩ := fetchWidth_of_width found .inp byte
  refine ⟨byte, pc, ?_⟩
  rw [step_of_readable running readable, execute, known]
  simp only [perform, bind, EStateM.bind, fetched]
  cases readDevice width (machine.fetchedTo byte pc) with
  | error fault after => rfl
  | ok value after => rfl

/-- A step that writes hands over the operand, or fails as the write does. -/
theorem step_of_writes (running : machine.status = .running)
    (writes : machine.writes? = some width) :
    ∃ byte pc, step machine =
      match writeDevice width (machine.registers.operand width) (machine.fetchedTo byte pc) with
      | .error fault after => .error fault after
      | .ok () after => .ok (stepEvent machine.pc after.counted) after.counted := by
  obtain ⟨next, found⟩ := exchange?_eq_some_iff.mp writes
  obtain ⟨byte, readable, known⟩ := readable_of_nextOpcode? next
  obtain ⟨pc, fetched⟩ := fetchWidth_of_width found .out byte
  have operand_eq : (machine.fetchedTo byte pc).registers.operand width =
      machine.registers.operand width := by cases width <;> rfl
  refine ⟨byte, pc, ?_⟩
  rw [step_of_readable running readable, execute, known]
  cases called :
      writeDevice width (machine.registers.operand width) (machine.fetchedTo byte pc) with
  | error fault after =>
      simp only [perform, bind, EStateM.bind, get_apply, fetched, operand_eq, called]
  | ok done after =>
      simp only [perform, bind, EStateM.bind, get_apply, fetched, operand_eq, called]

/-- Instructions that neither read nor write leave the device alone. -/
theorem respected_device (device : δ) :
    Respected (fun _ => False) (fun opcode => opcode ≠ .inp ∧ opcode ≠ .out)
      fun machine other : Machine δ => machine = other ∧ machine.device = device where
  variant := fun ⟨same, _⟩ => same ▸ rfl
  registers := fun ⟨same, _⟩ => same ▸ rfl
  status := fun ⟨same, _⟩ => same ▸ rfl
  update := by
    rintro change machine _ ⟨rfl, kept⟩
    exact .ok rfl ⟨rfl, kept⟩
  readCell := by
    rintro address machine _ ⟨rfl, kept⟩
    unfold readCell
    split
    · exact .error ⟨rfl, kept⟩
    · exact .ok rfl ⟨rfl, kept⟩
  writeCell := by
    rintro address value _ machine _ ⟨rfl, kept⟩
    unfold writeCell
    split
    · exact .error ⟨rfl, kept⟩
    · exact .ok rfl ⟨rfl, kept⟩
  readDevice := fun _ permitted => absurd rfl permitted.1
  writeDevice := fun _ _ permitted => absurd rfl permitted.2
  halt := by
    rintro machine _ _ ⟨rfl, kept⟩
    exact ⟨rfl, kept⟩
  skip := by
    rintro address opcode machine _ ⟨rfl, kept⟩
    unfold skip
    split
    · exact .error ⟨rfl, kept⟩
    · exact .ok rfl ⟨rfl, kept⟩

/-- Only instructions that read or write fail on account of the device. -/
theorem execute_deviceFault {address byte : UInt8} {operation : String} {problem : Device.Problem}
    {after : Machine δ}
    (failed : execute address byte machine = .error (.device operation problem) after) :
    Opcode.ofByte? byte = some .inp ∨ Opcode.ofByte? byte = some .out := by
  unfold execute at failed
  cases known : Opcode.ofByte? byte with
  | none =>
      simp only [known, skip] at failed
      split at failed <;> cases failed
  | some opcode =>
      rw [known] at failed
      obtain ⟨_, _, other⟩ | ⟨_, _, _, other⟩ | ⟨_, _, other⟩ | ⟨reads | writes, -⟩ :=
        perform_error failed
      · cases other
      · cases other
      · cases other
      · exact Or.inl (reads ▸ rfl)
      · exact Or.inr (writes ▸ rfl)

/-- A result of a step leaves the device of the machine alone, and is no fault on account of it. -/
structure Silent (machine : Machine δ) (result : EStateM.Result Fault (Machine δ) Event) :
    Prop where
  device : (stateOf result).device = machine.device
  faultless : ∀ operation problem after, result ≠ .error (.device operation problem) after

/-- An instruction whose width is not known fails before it can call the device. -/
theorem step_of_widthless {opcode : Opcode} {next : Width → Action (Machine δ) Unit}
    (performs : perform opcode = fetchWidth opcode >>= next) (running : machine.status = .running)
    (stands : machine.nextOpcode? = some opcode) (widthless : machine.width? = none) :
    (∃ fault after, step machine = .error fault after) ∧ Silent machine (step machine) := by
  obtain ⟨byte, readable, known⟩ := readable_of_nextOpcode? stands
  obtain ⟨fault, pc, unfetched, other⟩ := fetchWidth_of_none widthless opcode byte
  have failed : step machine = .error fault (machine.fetchedTo byte pc) := by
    rw [step_of_readable running readable, execute, known]
    simp only [performs, bind, EStateM.bind, unfetched]
  rw [failed]
  refine ⟨⟨_, _, rfl⟩, rfl, ?_⟩
  intro operation problem _ same
  exact other operation problem (EStateM.Result.error.inj same).1

/-- An instruction that neither reads nor writes has nothing to do with the device. -/
theorem silent_of_other (running : machine.status = .running)
    (no_read : machine.nextOpcode? ≠ some .inp) (no_write : machine.nextOpcode? ≠ some .out) :
    Silent machine (step machine) := by
  cases readable : machine.memory.readByte machine.pc.toNat with
  | error fault =>
      rw [step_of_unreadable running readable]
      obtain ⟨-, rfl⟩ := Memory.readByte_error readable
      exact ⟨rfl, fun _ _ _ => nofun⟩
  | ok byte =>
      rw [nextOpcode?_of_readable readable] at no_read no_write
      have permitted (known : Opcode) (decoded : Opcode.ofByte? byte = some known) :
          known ≠ .inp ∧ known ≠ .out :=
        ⟨fun reads => no_read (reads ▸ decoded), fun writes => no_write (writes ▸ decoded)⟩
      -- The machine runs in lockstep with itself, and keeps its device on the way.
      have results := (respected_device machine.device).execute machine.pc byte permitted
        (machine.fetched byte) (machine.fetched byte) ⟨rfl, rfl⟩
      rw [step_of_readable running readable]
      cases execution : execute machine.pc byte (machine.fetched byte) with
      | ok done after =>
          rw [execution] at results
          cases results with
          | ok _ kept => exact ⟨kept.2, fun _ _ _ => nofun⟩
      | error fault after =>
          rw [execution] at results
          cases results with
          | error kept =>
              refine ⟨kept.2, ?_⟩
              intro operation problem _ same
              cases same
              obtain reads | writes := execute_deviceFault execution
              · exact no_read reads
              · exact no_write writes
          | excused allowed => exact allowed.elim

/-- A step that calls the device neither for a read nor for a write is silent. -/
theorem silent_of_step (running : machine.status = .running) (unread : machine.reads? = none)
    (unwritten : machine.writes? = none) : Silent machine (step machine) := by
  by_cases reads : machine.nextOpcode? = some .inp
  · rw [reads?, exchange?, if_pos reads] at unread
    exact (step_of_widthless rfl running reads unread).2
  by_cases writes : machine.nextOpcode? = some .out
  · rw [writes?, exchange?, if_pos writes] at unwritten
    exact (step_of_widthless rfl running writes unwritten).2
  exact silent_of_other running reads writes

theorem device_readDevice (width : Width) (machine : Machine δ) :
    (stateOf (readDevice width machine)).device =
      ((Device.read? width machine.device).map (·.device)).getD machine.device := by
  unfold readDevice
  cases Device.read? width machine.device with
  | none => rfl
  | some reply =>
      dsimp only
      split
      · rfl
      · split <;> rfl

theorem device_writeDevice (width : Width) (value : Nat) (machine : Machine δ) :
    (stateOf (writeDevice width value machine)).device =
      ((Device.write? width value machine.device).map (·.device)).getD machine.device := by
  unfold writeDevice
  cases Device.write? width value machine.device with
  | none => rfl
  | some reply =>
      dsimp only
      split <;> rfl

/-- The device after a step that reads is the one that its read leaves behind. -/
theorem device_of_reads (running : machine.status = .running)
    (reads : machine.reads? = some width) :
    (stateOf (step machine)).device =
      ((Device.read? width machine.device).map (·.device)).getD machine.device := by
  obtain ⟨byte, pc, stepped⟩ := step_of_reads running reads
  have left := device_readDevice width (machine.fetchedTo byte pc)
  rw [stepped]
  cases called : readDevice width (machine.fetchedTo byte pc) <;> rw [called] at left <;> exact left

/-- So it is with a step that writes. -/
theorem device_of_writes (running : machine.status = .running)
    (writes : machine.writes? = some width) :
    (stateOf (step machine)).device =
      ((Device.write? width (machine.registers.operand width) machine.device).map
        (·.device)).getD machine.device := by
  obtain ⟨byte, pc, stepped⟩ := step_of_writes running writes
  have left :=
    device_writeDevice width (machine.registers.operand width) (machine.fetchedTo byte pc)
  rw [stepped]
  cases called : writeDevice width (machine.registers.operand width) (machine.fetchedTo byte pc) <;>
    rw [called] at left <;> exact left

/-- The operation with which a step fails is the one that the step calls. -/
theorem operation_of_fault {operation : String} {problem : Device.Problem} {after : Machine δ}
    (running : machine.status = .running)
    (failed : step machine = .error (.device operation problem) after) :
    (∃ width, machine.reads? = some width ∧ operation = Device.readName width) ∨
      ∃ width, machine.writes? = some width ∧ operation = Device.writeName width := by
  cases reads : machine.reads? with
  | some width =>
      obtain ⟨byte, pc, stepped⟩ := step_of_reads running reads
      rw [stepped] at failed
      split at failed
      · rename_i called
        cases failed
        obtain ⟨_, named⟩ := readDevice_error called
        cases named
        exact Or.inl ⟨width, rfl, rfl⟩
      · cases failed
  | none =>
      cases writes : machine.writes? with
      | some width =>
          obtain ⟨byte, pc, stepped⟩ := step_of_writes running writes
          rw [stepped] at failed
          split at failed
          · rename_i called
            cases failed
            obtain ⟨_, named⟩ := writeDevice_error called
            cases named
            exact Or.inr ⟨width, rfl, rfl⟩
          · cases failed
      | none => exact absurd failed ((silent_of_step running reads writes).faultless _ _ _)

end Steps

end Machine

/-! ## Devices whose calls are recorded -/

/-- A device together with the names of the operations that were called, in order. -/
structure Recorded (δ : Type) where
  /-- The device. -/
  device : δ
  /-- The operations called so far. -/
  calls : List String

namespace Recorded

variable {δ : Type}

/-- A device of which nothing is recorded yet. -/
def fresh (device : δ) : Recorded δ :=
  ⟨device, []⟩

/-- What a call leaves behind when it is recorded. -/
def record {α : Type} (recorded : Recorded δ) (operation : String) (reply : Device.Reply δ α) :
    Device.Reply (Recorded δ) α :=
  reply.onto fun device => ⟨device, recorded.calls ++ [operation]⟩

variable [Device δ]

instance : Device (Recorded δ) where
  read? width recorded :=
    (Device.read? width recorded.device).map (recorded.record (Device.readName width))
  write? width value recorded :=
    (Device.write? width value recorded.device).map (recorded.record (Device.writeName width))

/-- A machine does not notice that the calls of its device are recorded. -/
theorem recasts : Machine.Recasts (fun _ => False) id (device : Recorded δ → δ) where
  variant := fun _ => rfl
  maxSteps := fun _ => rfl
  readDevice := fun width => Machine.simulates_readDevice_of_onto fun recorded => by
    simp only [Device.read?, Option.map_map]
    exact (congrFun Option.map_id _).symm
  writeDevice := fun width value => Machine.simulates_writeDevice_of_onto fun recorded => by
    simp only [Device.write?, Option.map_map]
    exact (congrFun Option.map_id _).symm
  skip := Machine.simulates_skip_of_strict (fun _ => rfl) _

end Recorded

/-! ## Devices for bytes only -/

/-- A device of which only the operations for bytes can be called. -/
structure BytesOnly (δ : Type) where
  /-- The device. -/
  device : δ

/-- A fault is that of a call for words that a device lacks. -/
def Fault.LacksWords (fault : Fault) : Prop :=
  fault = .device (Device.readName .word) .missing ∨
    fault = .device (Device.writeName .word) .missing

namespace BytesOnly

variable {δ : Type} [Device δ]

instance : Device (BytesOnly δ) where
  read? width limited :=
    match width with
    | .byte => (Device.read? .byte limited.device).map (·.onto mk)
    | .word => none
  write? width value limited :=
    match width with
    | .byte => (Device.write? .byte value limited.device).map (·.onto mk)
    | .word => none

/-- A machine notices that its device lacks the operations for words only when it calls one. -/
theorem recasts : Machine.Recasts Fault.LacksWords id (device : BytesOnly δ → δ) where
  variant := fun _ => rfl
  maxSteps := fun _ => rfl
  readDevice
    | .byte => Machine.simulates_readDevice_of_onto fun limited => by
        simp only [Device.read?, Option.map_map]
        exact (congrFun Option.map_id _).symm
    | .word => fun machine other _ => .excused (Or.inl rfl)
  writeDevice
    | .byte, value => Machine.simulates_writeDevice_of_onto fun limited => by
        simp only [Device.write?, Option.map_map]
        exact (congrFun Option.map_id _).symm
    | .word, value => fun machine other _ => .excused (Or.inr rfl)
  skip := Machine.simulates_skip_of_strict (fun _ => rfl) _

end BytesOnly

/-! ## Calls of a machine for bytes -/

/-- An operation of a device is one for bytes. -/
def Device.IsForBytes (operation : String) : Prop :=
  operation = readName .byte ∨ operation = writeName .byte

namespace Machine

variable {δ : Type} [Device δ]

theorem calls_of_attempt {now : Machine (Recorded δ)} (running : now.status = .running)
    (bytes : now.variant = .byte) :
    (stateOf (step now)).device.calls = now.device.calls ∨
      ∃ operation, Device.IsForBytes operation ∧
        (stateOf (step now)).device.calls = now.device.calls ++ [operation] := by
  cases reads : now.reads? with
  | some width =>
      obtain rfl := exchange?_of_byte bytes reads
      rw [device_of_reads running reads]
      simp only [Device.read?, Option.map_map]
      cases Device.read? .byte now.device.device with
      | none => exact Or.inl rfl
      | some reply => exact Or.inr ⟨_, Or.inl rfl, rfl⟩
  | none =>
      cases writes : now.writes? with
      | some width =>
          obtain rfl := exchange?_of_byte bytes writes
          rw [device_of_writes running writes]
          simp only [Device.write?, Option.map_map]
          cases Device.write? .byte (now.registers.operand .byte) now.device.device with
          | none => exact Or.inl rfl
          | some reply => exact Or.inr ⟨_, Or.inr rfl, rfl⟩
      | none => exact Or.inl (congrArg Recorded.calls (silent_of_step running reads writes).device)

/-- A machine is for bytes, and so are the calls of its device that were recorded. -/
structure CallsForBytes (machine : Machine (Recorded δ)) : Prop where
  bytes : machine.variant = .byte
  calls : ∀ operation ∈ machine.device.calls, Device.IsForBytes operation

theorem CallsForBytes.attempt {now : Machine (Recorded δ)} (running : now.status = .running)
    (holds : CallsForBytes now) : CallsForBytes (stateOf (step now)) := by
  refine ⟨(congrArg Config.variant (step_frame now).config).trans holds.bytes, ?_⟩
  obtain same | ⟨operation, for_bytes, more⟩ := calls_of_attempt running holds.bytes
  · rw [same]
    exact holds.calls
  · rw [more, List.forall_mem_append, List.forall_mem_singleton]
    exact ⟨holds.calls, for_bytes⟩

omit [Device δ] in
theorem CallsForBytes.note {now other : Machine (Recorded δ)} (alike : now.Alike other)
    (holds : CallsForBytes now) : CallsForBytes other :=
  ⟨(congrArg Config.variant alike.config).symm.trans holds.bytes, alike.device ▸ holds.calls⟩

/-- A machine for bytes calls only the operations for bytes. -/
theorem calls_for_bytes {machine : Machine δ} (bytes : machine.variant = .byte)
    (calls : List Call) :
    ∀ operation ∈ (series call calls (machine.recast id Recorded.fresh)).2.device.calls,
      Device.IsForBytes operation := by
  have first : CallsForBytes (machine.recast id Recorded.fresh) :=
    ⟨bytes, fun _ member => absurd member List.not_mem_nil⟩
  exact (kept_by_calls CallsForBytes CallsForBytes.attempt CallsForBytes.note first calls).2.calls

/-- A machine for bytes never lacks an operation for words. -/
theorem words_not_lacked {machine : Machine δ} (bytes : machine.variant = .byte)
    {calls : List Call} {fault : Fault} (failed : .error fault ∈ (series call calls machine).1) :
    ¬fault.LacksWords := by
  intro lacks
  -- The fault names an operation that is not for bytes, but no attempt calls such a one.
  obtain ⟨operation, no_bytes, rfl⟩ : ∃ operation, ¬Device.IsForBytes operation ∧
      fault = .device operation .missing := by
    obtain rfl | rfl := lacks
    · exact ⟨_, by unfold Device.IsForBytes; decide, rfl⟩
    · exact ⟨_, by unfold Device.IsForBytes; decide, rfl⟩
  cases comesFrom_of_calls failed with
  | hook concerned =>
      obtain ⟨_, _, other⟩ := concerned
      cases other
  | attempt member unperformed =>
      rename_i attempt after
      obtain ⟨running, config_eq⟩ := running_of_attempt member
      have attempt_bytes : attempt.variant = .byte :=
        (congrArg Config.variant config_eq).trans bytes
      obtain ⟨width, reads, rfl⟩ | ⟨width, writes, rfl⟩ := operation_of_fault running unperformed
      · exact no_bytes (Or.inl (congrArg Device.readName (exchange?_of_byte attempt_bytes reads)))
      · exact no_bytes (Or.inr (congrArg Device.writeName (exchange?_of_byte attempt_bytes writes)))

end Machine

end ByteMachine
