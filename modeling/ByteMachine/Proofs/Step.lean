import ByteMachine.Proofs.Hooks
import ByteMachine.Proofs.Lockstep

/-!
# What a step does

A step fetches an opcode and executes it. This file takes a step apart once, says what no step
touches, and tells from the machine before a step whether the step stores into a watched cell and
whether it halts the machine.
-/

namespace ByteMachine

/-- The state that an action leaves behind, whether it succeeds or not. -/
def stateOf {σ α : Type} : EStateM.Result Fault σ α → σ
  | .ok _ state => state
  | .error _ state => state

namespace Machine

variable {δ : Type}

/-- A machine about to execute the opcode that it has just fetched. -/
def fetched (machine : Machine δ) (opcode : UInt8) : Machine δ :=
  observe machine.pc opcode
    { machine with
      registers := { machine.registers with pc := machine.pc + 1 }
      writeStop := none }

/-- A machine with one more step counted. -/
def counted (machine : Machine δ) : Machine δ :=
  { machine with steps := machine.steps + 1 }

/-! ## The parts of a step -/

section Parts

variable [Device δ] {machine : Machine δ}

theorem step_of_unreadable {fault : Fault} (running : machine.status = .running)
    (unreadable : machine.memory.readByte machine.pc.toNat = .error fault) :
    step machine = .error fault { machine with writeStop := none } := by
  rw [step_of_running running]
  simp only [bind, EStateM.bind, fetch, pc] at unreadable ⊢
  rw [unreadable]

theorem step_of_readable {opcode : UInt8} (running : machine.status = .running)
    (readable : machine.memory.readByte machine.pc.toNat = .ok opcode) :
    step machine =
      match execute machine.pc opcode (machine.fetched opcode) with
      | .error fault executed => .error fault executed
      | .ok () executed => .ok (stepEvent machine.pc executed.counted) executed.counted := by
  have fetching :
      fetch { machine with writeStop := none } =
        .ok opcode
          { machine with
            registers := { machine.registers with pc := machine.pc + 1 }
            writeStop := none } := by
    simp only [fetch, pc] at readable ⊢
    rw [readable]
  rw [step_of_running running]
  simp only [bind, EStateM.bind, fetching, modify_apply]
  rw [← fetched]
  cases execute machine.pc opcode (machine.fetched opcode) with
  | ok value executed => rfl
  | error fault executed => rfl

/-- A step that succeeds has executed the opcode at the program counter. -/
theorem step_ok {event : Event} {after : Machine δ} (stepped : step machine = .ok event after) :
    machine.status = .running ∧
      ∃ opcode executed,
        machine.memory.readByte machine.pc.toNat = .ok opcode ∧
          execute machine.pc opcode (machine.fetched opcode) = .ok () executed ∧
          after = executed.counted := by
  cases status : machine.status with
  | halted => simp [step_of_halted status] at stepped
  | running =>
      refine ⟨rfl, ?_⟩
      cases readable : machine.memory.readByte machine.pc.toNat with
      | error fault => simp [step_of_unreadable status readable] at stepped
      | ok opcode =>
          rw [step_of_readable status readable] at stepped
          split at stepped
          · cases stepped
          · rename_i executed execution
            cases stepped
            exact ⟨opcode, executed, rfl, execution, rfl⟩

/-- A step of a machine that can go on fails at the opcode or in its execution. -/
theorem step_error {fault : Fault} {after : Machine δ} (running : machine.status = .running)
    (failed : step machine = .error fault after) :
    after = { machine with writeStop := none } ∨
      ∃ opcode, execute machine.pc opcode (machine.fetched opcode) = .error fault after := by
  cases readable : machine.memory.readByte machine.pc.toNat with
  | error problem =>
      rw [step_of_unreadable running readable] at failed
      cases failed
      exact Or.inl rfl
  | ok opcode =>
      rw [step_of_readable running readable] at failed
      split at failed
      · rename_i problem executed execution
        cases failed
        exact Or.inr ⟨opcode, execution⟩
      · cases failed

end Parts

/-! ## Properties that instructions keep -/

/-- A property of machines that the primitives of the allowed instructions keep. -/
structure Kept (allowed : Opcode → Prop) (holds : Machine δ → Prop) : Prop where
  /-- A change of the registers. -/
  update {machine : Machine δ} (registers : Registers) :
    holds machine → holds { machine with registers := registers }
  /-- A write to memory, after which the watched addresses are looked at. -/
  writeCell {machine : Machine δ} (memory : Memory) (address value : Int) :
    allowed .put → holds machine →
      holds
        { machine with
          memory := memory
          debugger := (machine.debugger.checkWrite address value).1
          writeStop := (machine.debugger.checkWrite address value).2 }
  /-- A call of the device. -/
  afterCall {machine : Machine δ} {α : Type} (reply : Device.Reply δ α) :
    holds machine → holds (machine.afterCall reply)
  /-- The end of the program. -/
  halt {machine : Machine δ} :
    allowed .halt → holds machine → holds { machine with status := .halted }
  /-- A note in the journal. -/
  note {machine : Machine δ} (occurrence : Occurrence) :
    holds machine → holds (machine.note occurrence)

namespace Kept

variable {allowed : Opcode → Prop} {holds : Machine δ → Prop}

/-- A property that is kept is a relation of a machine to itself. -/
theorem congruent (kept : Kept allowed holds) :
    Congruent allowed fun machine other : Machine δ => machine = other ∧ holds machine where
  config := fun ⟨same, _⟩ => same ▸ rfl
  device := fun ⟨same, _⟩ => same ▸ rfl
  memory := fun ⟨same, _⟩ => same ▸ rfl
  registers := fun ⟨same, _⟩ => same ▸ rfl
  status := fun ⟨same, _⟩ => same ▸ rfl
  update := by
    rintro machine _ registers ⟨rfl, before⟩
    exact ⟨rfl, kept.update registers before⟩
  writeCell := by
    rintro machine _ memory address value permitted ⟨rfl, before⟩
    exact ⟨rfl, kept.writeCell memory address value permitted before⟩
  afterCall := by
    rintro machine _ α reply ⟨rfl, before⟩
    exact ⟨rfl, kept.afterCall reply before⟩
  halt := by
    rintro machine _ permitted ⟨rfl, before⟩
    exact ⟨rfl, kept.halt permitted before⟩
  note := by
    rintro machine _ occurrence ⟨rfl, before⟩
    exact ⟨rfl, kept.note occurrence before⟩

/-- A property that the allowed instructions keep holds after the execution of one of them. -/
theorem execute [Device δ] (kept : Kept allowed holds) {machine : Machine δ}
    (address opcode : UInt8)
    (permitted : ∀ known, Opcode.ofByte? opcode = some known → allowed known)
    (before : holds machine) : holds (stateOf (Machine.execute address opcode machine)) := by
  have results :=
    kept.congruent.respected.execute address opcode permitted machine machine ⟨rfl, before⟩
  cases execution : Machine.execute address opcode machine with
  | ok value after =>
      rw [execution] at results
      cases results with
      | ok _ same => exact same.2
  | error fault after =>
      rw [execution] at results
      cases results with
      | error same => exact same.2
      | excused absurdity => exact absurdity.elim

end Kept

/-! ## What no step touches -/

/-- What is the same before and after an instruction, whether it succeeds or not. -/
structure Frame (before after : Machine δ) : Prop where
  /-- The configuration. -/
  config : after.config = before.config
  /-- The event that ended the last run. -/
  lastEvent : after.lastEvent = before.lastEvent
  /-- The place where the last run stopped. -/
  resumeAt : after.resumeAt = before.resumeAt
  /-- The hooks of the debugger. -/
  debugger : before.debugger.Hooked after.debugger

theorem Frame.refl (machine : Machine δ) : Frame machine machine :=
  ⟨rfl, rfl, rfl, .refl _⟩

theorem Frame.trans {before middle after : Machine δ} (first : Frame before middle)
    (second : Frame middle after) : Frame before after :=
  ⟨second.config.trans first.config,
    second.lastEvent.trans first.lastEvent, second.resumeAt.trans first.resumeAt,
    first.debugger.trans second.debugger⟩

theorem frame_fetched (machine : Machine δ) (opcode : UInt8) :
    Frame machine (machine.fetched opcode) :=
  ⟨rfl, rfl, rfl, (Debugger.Hooked.refl _).requestBreak_if _⟩

section Effects

variable [Device δ] {machine after : Machine δ}

/-- Executing an instruction touches neither the frame, nor the count of steps, nor the address of
the last fetch. -/
theorem execute_frame {before : Machine δ} (address opcode : UInt8) (frame : Frame before machine) :
    let executed := stateOf (execute address opcode machine)
    Frame before executed ∧ executed.steps = machine.steps ∧
      executed.lastAddress = machine.lastAddress := by
  have kept : Kept (fun _ => True) fun now : Machine δ =>
      Frame before now ∧ now.steps = machine.steps ∧ now.lastAddress = machine.lastAddress :=
    { update := fun _ ⟨frame, rest⟩ => ⟨{ frame with }, rest⟩
      writeCell := fun _ address value _ ⟨frame, rest⟩ =>
        ⟨{ frame with debugger := frame.debugger.checkWrite address value }, rest⟩
      afterCall := fun reply ⟨frame, rest⟩ =>
        ⟨{ frame with debugger := frame.debugger.requestBreak_if reply.requestsBreak }, rest⟩
      halt := fun _ ⟨frame, rest⟩ => ⟨{ frame with }, rest⟩
      note := fun _ ⟨frame, rest⟩ => ⟨{ frame with }, rest⟩ }
  exact kept.execute address opcode (fun _ _ => trivial) ⟨frame, rfl, rfl⟩

/-- No step touches the frame. -/
theorem step_frame (machine : Machine δ) : Frame machine (stateOf (step machine)) := by
  cases status : machine.status with
  | halted =>
      rw [step_of_halted status]
      exact Frame.refl machine
  | running =>
      cases stepped : step machine with
      | error fault after =>
          obtain rfl | ⟨opcode, execution⟩ := step_error status stepped
          · exact ⟨rfl, rfl, rfl, .refl _⟩
          · have frame := execute_frame machine.pc opcode (frame_fetched machine opcode)
            rw [execution] at frame
            exact frame.1
      | ok event after =>
          obtain ⟨_, opcode, executed, _, execution, rfl⟩ := step_ok stepped
          have frame := execute_frame machine.pc opcode (frame_fetched machine opcode)
          rw [execution] at frame
          exact { frame.1 with }

theorem frame_of_step {event : Event} (stepped : step machine = .ok event after) :
    Frame machine after := by
  have frame := step_frame machine
  rwa [stepped] at frame

theorem frame_of_fault {fault : Fault} (failed : step machine = .error fault after) :
    Frame machine after := by
  have frame := step_frame machine
  rwa [failed] at frame

/-- A step that succeeds is counted. -/
theorem steps_of_step {event : Event} (stepped : step machine = .ok event after) :
    after.steps = machine.steps + 1 := by
  obtain ⟨_, opcode, executed, _, execution, rfl⟩ := step_ok stepped
  have frame := execute_frame machine.pc opcode (frame_fetched machine opcode)
  rw [execution] at frame
  exact congrArg (· + 1) frame.2.1

/-- A step that succeeds has fetched its opcode from the program counter. -/
theorem lastAddress_of_step {event : Event} (stepped : step machine = .ok event after) :
    after.lastAddress = machine.pc := by
  obtain ⟨_, opcode, executed, _, execution, rfl⟩ := step_ok stepped
  have frame := execute_frame machine.pc opcode (frame_fetched machine opcode)
  rw [execution] at frame
  exact frame.2.2

end Effects

/-! ## Stores into watched cells -/

/-- The byte some cells behind the program counter, which comes round to zero. -/
def byteAhead? (machine : Machine δ) (distance : UInt8) : Option UInt8 :=
  (machine.memory.readByte (machine.pc + distance).toNat).toOption

/-- The instruction at the program counter. -/
def nextOpcode? (machine : Machine δ) : Option Opcode :=
  (machine.byteAhead? 0).bind Opcode.ofByte?

/-- The address and the byte that the next instruction stores, if it is a store. The program
counter, if that is what is stored, has passed the whole instruction. -/
def store? (machine : Machine δ) : Option (UInt8 × UInt8) :=
  if machine.nextOpcode? = some .put then do
    let number ← machine.byteAhead? 1
    let register ← (machine.variant.registerSet.resolve number.toNat).toOption
    let address ← machine.byteAhead? 2
    return (address, { machine.registers with pc := machine.pc + 3 }.get register)
  else none

/-- The store of the next instruction, if its address is watched. -/
def watchedStore? (machine : Machine δ) : Option (UInt8 × UInt8) :=
  machine.store?.filter fun store => machine.debugger.watchpoints.contains (store.1.toNat : Int)

/-- The event of a store into a watched cell. -/
def storeEvent (store : UInt8 × UInt8) : Event :=
  .memoryWrite store.1.toNat store.2.toNat

section Store

variable {machine after : Machine δ}

theorem bind_ok {σ α β : Type} {first : Action σ α} {next : α → Action σ β} {before final : σ}
    {value : β} (succeeded : (first >>= next) before = .ok value final) :
    ∃ result middle, first before = .ok result middle ∧ next result middle = .ok value final := by
  simp only [bind, EStateM.bind] at succeeded
  split at succeeded
  · rename_i result middle performed
    exact ⟨result, middle, performed, succeeded⟩
  · cases succeeded

theorem bind_error {σ α β : Type} {first : Action σ α} {next : α → Action σ β} {before final : σ}
    {fault : Fault} (failed : (first >>= next) before = .error fault final) :
    first before = .error fault final ∨
      ∃ result middle, first before = .ok result middle ∧
        next result middle = .error fault final := by
  simp only [bind, EStateM.bind] at failed
  split at failed
  · rename_i result middle performed
    exact Or.inr ⟨result, middle, performed, failed⟩
  · rename_i performed
    cases failed
    exact Or.inl performed

theorem fetch_ok {byte : UInt8} (fetching : fetch machine = .ok byte after) :
    machine.memory.readByte machine.pc.toNat = .ok byte ∧
      after = { machine with registers := { machine.registers with pc := machine.pc + 1 } } := by
  unfold fetch at fetching
  split at fetching
  · cases fetching
  · rename_i found readable
    cases fetching
    exact ⟨readable, rfl⟩

theorem fetchRegister_ok {register : Register}
    (fetching : fetchRegister machine = .ok register after) :
    ∃ number,
      machine.memory.readByte machine.pc.toNat = .ok number ∧
        machine.variant.registerSet.resolve number.toNat = .ok register ∧
        after = { machine with registers := { machine.registers with pc := machine.pc + 1 } } := by
  obtain ⟨number, middle, fetched, rest⟩ := bind_ok fetching
  obtain ⟨readable, rfl⟩ := fetch_ok fetched
  refine ⟨number, readable, ?_⟩
  obtain ⟨present, _, reading, rest⟩ := bind_ok rest
  cases reading
  dsimp only [variant] at rest ⊢
  cases resolved : machine.config.variant.registerSet.resolve number.toNat with
  | error fault =>
      rw [resolved] at rest
      cases rest
  | ok found =>
      rw [resolved] at rest
      cases rest
      exact ⟨rfl, rfl⟩

theorem writeCell_ok {address value : UInt8}
    (writing : writeCell address value machine = .ok () after) :
    ∃ memory,
      machine.memory.writeByte address.toNat value.toNat = .ok memory ∧
        after =
          { machine with
            memory := memory
            debugger := (machine.debugger.checkWrite address.toNat value.toNat).1
            writeStop := (machine.debugger.checkWrite address.toNat value.toNat).2 } := by
  unfold writeCell at writing
  split at writing
  · cases writing
  · rename_i memory written
    cases writing
    exact ⟨memory, written, rfl⟩

variable [Device δ]

/-- A store that succeeds has fetched a register and an address, and has written the register to
that address. -/
theorem perform_put_ok (performed : perform .put machine = .ok () after) :
    ∃ number register address memory,
      machine.memory.readByte machine.pc.toNat = .ok number ∧
        machine.variant.registerSet.resolve number.toNat = .ok register ∧
        machine.memory.readByte (machine.pc + 1).toNat = .ok address ∧
        let registers := { machine.registers with pc := machine.pc + 1 + 1 }
        let checked := machine.debugger.checkWrite address.toNat (registers.get register).toNat
        machine.memory.writeByte address.toNat (registers.get register).toNat = .ok memory ∧
          after =
            { machine with
              registers := registers
              memory := memory
              debugger := checked.1
              writeStop := checked.2 } := by
  obtain ⟨register, _, fetchedRegister, rest⟩ := bind_ok performed
  obtain ⟨number, readNumber, resolved, rfl⟩ := fetchRegister_ok fetchedRegister
  obtain ⟨address, _, fetchedAddress, writing⟩ := bind_ok rest
  obtain ⟨readAddress, rfl⟩ := fetch_ok fetchedAddress
  obtain ⟨memory, written, rfl⟩ := writeCell_ok writing
  exact ⟨number, register, address, memory, readNumber, resolved, readAddress, written, rfl⟩

omit [Device δ] in
theorem nextOpcode?_of_readable {byte : UInt8}
    (readable : machine.memory.readByte machine.pc.toNat = .ok byte) :
    machine.nextOpcode? = Opcode.ofByte? byte := by
  simp [nextOpcode?, byteAhead?, readable, Except.toOption]

omit [Device δ] in
theorem readByte_of_byteAhead? {distance byte : UInt8}
    (ahead : machine.byteAhead? distance = some byte) :
    machine.memory.readByte (machine.pc + distance).toNat = .ok byte := by
  unfold byteAhead? at ahead
  cases readable : machine.memory.readByte (machine.pc + distance).toNat with
  | error fault =>
      rw [readable] at ahead
      cases ahead
  | ok found =>
      rw [readable] at ahead
      cases ahead
      rfl

omit [Device δ] in
/-- A known opcode at the program counter can be read there. -/
theorem readable_of_nextOpcode? {opcode : Opcode} (next : machine.nextOpcode? = some opcode) :
    ∃ byte, machine.memory.readByte machine.pc.toNat = .ok byte ∧
      Opcode.ofByte? byte = some opcode := by
  obtain ⟨byte, ahead, known⟩ := Option.bind_eq_some_iff.mp next
  have readable := readByte_of_byteAhead? ahead
  rw [UInt8.add_zero] at readable
  exact ⟨byte, readable, known⟩

omit [Device δ] in
theorem store?_of_ne_put (other : machine.nextOpcode? ≠ some .put) : machine.store? = none := by
  simp [store?, other]

/-- The store that a machine is about to make is the one that its step makes. -/
theorem store?_of_put {opcode : UInt8} {executed : Machine δ}
    (readable : machine.memory.readByte machine.pc.toNat = .ok opcode)
    (stores : Opcode.ofByte? opcode = some .put)
    (execution : execute machine.pc opcode (machine.fetched opcode) = .ok () executed) :
    ∃ address value, machine.store? = some (address, value) ∧
      executed.writeStop =
        ((machine.fetched opcode).debugger.checkWrite address.toNat value.toNat).2 := by
  rw [execute, stores] at execution
  obtain ⟨number, register, address, memory, readNumber, resolved, readAddress, -, rfl⟩ :=
    perform_put_ok execution
  have two : machine.pc + 2 = machine.pc + 1 + 1 := by rw [UInt8.add_assoc]; rfl
  have three : machine.pc + 3 = machine.pc + 1 + 1 + 1 := by
    rw [UInt8.add_assoc, UInt8.add_assoc]
    rfl
  have numberAhead : machine.byteAhead? 1 = some number := by
    change machine.memory.readByte (machine.pc + 1).toNat = .ok number at readNumber
    rw [byteAhead?, readNumber]
    rfl
  have addressAhead : machine.byteAhead? 2 = some address := by
    change machine.memory.readByte (machine.pc + 1 + 1).toNat = .ok address at readAddress
    rw [byteAhead?, two, readAddress]
    rfl
  have found : (machine.variant.registerSet.resolve number.toNat).toOption = some register := by
    change machine.variant.registerSet.resolve number.toNat = .ok register at resolved
    rw [resolved]
    rfl
  refine ⟨address, { machine.registers with pc := machine.pc + 3 }.get register, ?_, ?_⟩
  · simp [store?, nextOpcode?_of_readable readable, stores, numberAhead, found, addressAhead]
  · rw [three]
    rfl

/-- An instruction that is no store leaves no event of a store behind. -/
theorem writeStop_of_other (machine : Machine δ) {opcode : UInt8}
    (other : Opcode.ofByte? opcode ≠ some .put) :
    (stateOf (execute machine.pc opcode (machine.fetched opcode))).writeStop = none := by
  have kept : Kept (· ≠ .put) fun now : Machine δ => now.writeStop = none :=
    { update := fun _ unset => unset
      writeCell := fun _ _ _ permitted => absurd rfl permitted
      afterCall := fun _ unset => unset
      halt := fun _ unset => unset
      note := fun _ unset => unset }
  exact kept.execute machine.pc opcode (fun known decoded same => other (same ▸ decoded)) rfl

/-- The event that a step leaves behind is that of the store into a watched cell, if the step was
one. -/
theorem writeStop_of_step {event : Event} (stepped : step machine = .ok event after) :
    after.writeStop = machine.watchedStore?.map storeEvent := by
  obtain ⟨_, opcode, executed, readable, execution, rfl⟩ := step_ok stepped
  by_cases stores : Opcode.ofByte? opcode = some .put
  · obtain ⟨address, value, stored, stop⟩ := store?_of_put readable stores execution
    have watchpoints := (frame_fetched machine opcode).debugger.watchpoints
    rw [counted, stop, Debugger.checkWrite_event, watchpoints, watchedStore?, stored,
      Option.filter_some]
    split <;> rfl
  · have unset := writeStop_of_other machine stores
    rw [execution] at unset
    rw [watchedStore?, store?_of_ne_put (nextOpcode?_of_readable readable ▸ stores)]
    exact unset

/-- Only one instruction halts a machine. -/
theorem running_of_execute (address : UInt8) {opcode : UInt8} (running : machine.status = .running)
    (other : Opcode.ofByte? opcode ≠ some .halt) :
    (stateOf (execute address opcode machine)).status = .running := by
  have kept : Kept (· ≠ .halt) fun now : Machine δ => now.status = .running :=
    { update := fun _ unset => unset
      writeCell := fun _ _ _ _ unset => unset
      afterCall := fun _ unset => unset
      halt := fun permitted => absurd rfl permitted
      note := fun _ unset => unset }
  exact kept.execute address opcode (fun known decoded same => other (same ▸ decoded)) running

/-- A step halts the machine just when its instruction is the one that does. -/
theorem halted_of_step_iff {event : Event} (stepped : step machine = .ok event after) :
    after.status = .halted ↔ machine.nextOpcode? = some .halt := by
  obtain ⟨running, opcode, executed, readable, execution, rfl⟩ := step_ok stepped
  rw [nextOpcode?_of_readable readable]
  by_cases halts : Opcode.ofByte? opcode = some .halt
  · rw [execute, halts] at execution
    cases execution
    simp [halts, counted]
  · have going : (stateOf (execute machine.pc opcode (machine.fetched opcode))).status = .running :=
      running_of_execute machine.pc running halts
    rw [execution] at going
    have status : executed.counted.status = .running := going
    simp [status, halts]

/-- A step that fails is not counted and does not halt the machine. -/
theorem unended_of_fault {fault : Fault} (running : machine.status = .running)
    (failed : step machine = .error fault after) :
    after.status = .running ∧ after.steps = machine.steps := by
  obtain rfl | ⟨opcode, execution⟩ := step_error running failed
  · exact ⟨running, rfl⟩
  · have frame := execute_frame machine.pc opcode (frame_fetched machine opcode)
    have other : Opcode.ofByte? opcode ≠ some .halt := by
      intro halts
      rw [execute, halts] at execution
      cases execution
    have going : (stateOf (execute machine.pc opcode (machine.fetched opcode))).status = .running :=
      running_of_execute machine.pc running other
    rw [execution] at frame going
    exact ⟨going, frame.2.1⟩

end Store

end Machine

end ByteMachine
