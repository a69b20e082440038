import ByteMachine.Proofs.Calls

/-!
# Matched machines

Two machines match when they differ only in what no answer depends on: where the last opcode came
from, the journal, events that are noted and not yet replaced, and memory as far as a relation
between memories allows it. Matched machines stay matched and give the same answers, step by step
and run by run.
-/

namespace ByteMachine

/-! ## Observers and debuggers that answer alike -/

/-- Two observers answer alike, whatever they are told from now on. -/
def Observer.Agrees (observer other : Observer) : Prop :=
  ∀ later, observer.asks (later ++ observer.told) = other.asks (later ++ other.told)

namespace Observer.Agrees

theorem refl (observer : Observer) : observer.Agrees observer :=
  fun _ => rfl

theorem tell {observer other : Observer} (agrees : observer.Agrees other)
    (address opcode : UInt8) :
    (observer.tell address opcode).Agrees (other.tell address opcode) := by
  intro later
  have longer := agrees (later ++ [(address, opcode)])
  simpa [Observer.tell] using longer

theorem wantsBreak {observer other : Observer} (agrees : observer.Agrees other) :
    observer.wantsBreak = other.wantsBreak :=
  agrees []

end Observer.Agrees

/-- Two notes of an event are the same, or are still what they were at first. -/
def SameOrOld (first second note other : Option Event) : Prop :=
  note = other ∨ note = first ∧ other = second

theorem SameOrOld.eq {first second note other : Option Event}
    (noted : SameOrOld first second note other) (same : first = second) : note = other := by
  obtain now | ⟨rfl, rfl⟩ := noted
  · exact now
  · exact same

/-- Two debuggers have the same hooks and the same request to break. The events that they have
found last are the same, or still those of two debuggers at first. -/
structure Debugger.Agrees (first second debugger other : Debugger) : Prop where
  variant : debugger.variant = other.variant
  breakpoints : debugger.breakpoints = other.breakpoints
  watchpoints : debugger.watchpoints = other.watchpoints
  conditions : debugger.conditions = other.conditions
  breakRequested : debugger.breakRequested = other.breakRequested
  lastEvent : SameOrOld first.lastEvent second.lastEvent debugger.lastEvent other.lastEvent

namespace Debugger.Agrees

variable {first second debugger other : Debugger}

theorem eq (agrees : Agrees first second debugger other)
    (same : debugger.lastEvent = other.lastEvent) : debugger = other := by
  cases debugger
  cases other
  obtain ⟨rfl, rfl, rfl, rfl, rfl, -⟩ := agrees
  cases same
  rfl

theorem record (agrees : Agrees first second debugger other) (event : Event) :
    Agrees first second (debugger.record event) (other.record event) :=
  { agrees with lastEvent := Or.inl rfl }

theorem clearRequest (agrees : Agrees first second debugger other) :
    Agrees first second debugger.clearRequest other.clearRequest :=
  { agrees with breakRequested := rfl }

theorem requestBreak_if {asked counterpart : Bool} (agrees : Agrees first second debugger other)
    (same : asked = counterpart) :
    Agrees first second (if asked then debugger.requestBreak else debugger)
      (if counterpart then other.requestBreak else other) := by
  subst same
  cases asked with
  | false => exact agrees
  | true => exact { agrees with breakRequested := rfl }

/-- The check after a write comes to the same. -/
theorem checkWrite (agrees : Agrees first second debugger other) (address value : Int) :
    (debugger.checkWrite address value).2 = (other.checkWrite address value).2 ∧
      Agrees first second (debugger.checkWrite address value).1
        (other.checkWrite address value).1 := by
  simp only [Debugger.checkWrite, agrees.watchpoints]
  split
  · exact ⟨rfl, agrees.record _⟩
  · exact ⟨rfl, agrees⟩

/-- So does the check before an instruction. -/
theorem checkInstruction (agrees : Agrees first second debugger other) (file : RegisterFile)
    (pc : Int) :
    (∃ fault, debugger.checkInstruction file pc = .error fault ∧
        other.checkInstruction file pc = .error fault) ∨
      ∃ checked counterpart found, debugger.checkInstruction file pc = .ok (checked, found) ∧
        other.checkInstruction file pc = .ok (counterpart, found) ∧
        Agrees first second checked counterpart := by
  simp only [Debugger.checkInstruction, agrees.breakRequested, agrees.breakpoints,
    agrees.conditions]
  split
  · exact Or.inr ⟨_, _, _, rfl, rfl, agrees.clearRequest.record _⟩
  · split
    · exact Or.inr ⟨_, _, _, rfl, rfl, agrees.record _⟩
    · cases firstHolding? file other.conditions with
      | error fault => exact Or.inl ⟨fault, rfl, rfl⟩
      | ok found =>
          cases found with
          | none => exact Or.inr ⟨_, _, _, rfl, rfl, agrees⟩
          | some condition => exact Or.inr ⟨_, _, _, rfl, rfl, agrees.record _⟩

end Debugger.Agrees

/-! ## Memories that serve a program alike -/

/-- A relation between memories that the accesses of a program respect. A fault of the first that
is excused need not be one of the second. -/
structure Memory.Respected (excused : Fault → Prop) (memories : Memory → Memory → Prop) :
    Prop where
  read {memory other : Memory} (address : UInt8) : memories memory other →
    (∃ fault, memory.readByte address.toNat = .error fault ∧
        (excused fault ∨ other.readByte address.toNat = .error fault)) ∨
      ∃ byte, memory.readByte address.toNat = .ok byte ∧ other.readByte address.toNat = .ok byte
  write {memory other : Memory} (address value : UInt8) : memories memory other →
    (∃ fault, memory.writeByte address.toNat value.toNat = .error fault ∧
        (excused fault ∨ other.writeByte address.toNat value.toNat = .error fault)) ∨
      ∃ after counterpart, memory.writeByte address.toNat value.toNat = .ok after ∧
        other.writeByte address.toNat value.toNat = .ok counterpart ∧ memories after counterpart

/-- Accesses to one and the same memory come to the same. -/
theorem Memory.respected_of_eq {memories : Memory → Memory → Prop}
    (same : ∀ {memory other : Memory}, memories memory other → memory = other)
    (kept : ∀ {memory after : Memory} {address value : Int}, memories memory memory →
      memory.writeByte address value = .ok after → memories after after) :
    Memory.Respected (fun _ => False) memories where
  read := by
    intro memory other address related
    obtain rfl := same related
    cases readable : memory.readByte address.toNat with
    | error fault => exact Or.inl ⟨fault, rfl, Or.inr rfl⟩
    | ok byte => exact Or.inr ⟨byte, rfl, rfl⟩
  write := by
    intro memory other address value related
    obtain rfl := same related
    cases written : memory.writeByte address.toNat value.toNat with
    | error fault => exact Or.inl ⟨fault, rfl, Or.inr rfl⟩
    | ok after => exact Or.inr ⟨after, after, rfl, rfl, kept related written⟩

namespace Machine

variable {δ : Type}

/-! ## Matching -/

/-- Two machines that have come from a first and a second one match. -/
structure Matched (memories : Memory → Memory → Prop) (first second machine other : Machine δ) :
    Prop where
  configs : machine.config = first.config ∧ other.config = second.config
  variant : machine.variant = other.variant
  strictOpcodes : machine.config.strictOpcodes = other.config.strictOpcodes
  maxSteps : machine.config.maxSteps = other.config.maxSteps
  device : machine.device = other.device
  observer : machine.observer.Agrees other.observer
  memory : memories machine.memory other.memory
  registers : machine.registers = other.registers
  debugger : Debugger.Agrees first.debugger second.debugger machine.debugger other.debugger
  status : machine.status = other.status
  steps : machine.steps = other.steps
  resumeAt : machine.resumeAt = other.resumeAt
  lastEvent : SameOrOld first.lastEvent second.lastEvent machine.lastEvent other.lastEvent

namespace Matched

variable {memories : Memory → Memory → Prop} {excused : Fault → Prop}
  {first second machine other : Machine δ}

theorem refl (machine : Machine δ) (same : memories machine.memory machine.memory) :
    Matched memories machine machine machine machine :=
  ⟨⟨rfl, rfl⟩, rfl, rfl, rfl, rfl, .refl _, same, rfl, ⟨rfl, rfl, rfl, rfl, rfl, Or.inl rfl⟩, rfl,
    rfl, rfl, Or.inl rfl⟩

theorem pc_eq (matched : Matched memories first second machine other) : machine.pc = other.pc :=
  congrArg Registers.pc matched.registers

theorem registerFile_eq (matched : Matched memories first second machine other) :
    machine.registerFile = other.registerFile := by
  simp only [registerFile, matched.variant, matched.registers]

theorem afterCall {α : Type} (matched : Matched memories first second machine other)
    (reply : Device.Reply δ α) :
    Matched memories first second (machine.afterCall reply) (other.afterCall reply) :=
  { matched with
    device := rfl
    debugger := matched.debugger.requestBreak_if rfl }

theorem observe (matched : Matched memories first second machine other) (address opcode : UInt8) :
    Matched memories first second (machine.observe address opcode)
      (other.observe address opcode) := by
  have told := matched.observer.tell address opcode
  exact
    { matched with
      observer := told
      debugger := matched.debugger.requestBreak_if told.wantsBreak }

theorem readByte_ok {address byte : UInt8} (accesses : Memory.Respected excused memories)
    (matched : Matched memories first second machine other)
    (readable : machine.memory.readByte address.toNat = .ok byte) :
    other.memory.readByte address.toNat = .ok byte := by
  obtain ⟨fault, failed, -⟩ | ⟨found, reading, same⟩ := accesses.read address matched.memory
  · rw [failed] at readable
    cases readable
  · rw [reading] at readable
    cases readable
    exact same

theorem byteAhead?_some {distance byte : UInt8} (accesses : Memory.Respected excused memories)
    (matched : Matched memories first second machine other)
    (ahead : machine.byteAhead? distance = some byte) : other.byteAhead? distance = some byte := by
  unfold byteAhead? at ahead ⊢
  rw [← matched.pc_eq]
  cases readable : machine.memory.readByte (machine.pc + distance).toNat with
  | error fault =>
      rw [readable] at ahead
      cases ahead
  | ok found =>
      rw [readable] at ahead
      rw [matched.readByte_ok accesses readable]
      exact ahead

/-- Matched machines are about to make the same store. -/
theorem store?_some {store : UInt8 × UInt8} (accesses : Memory.Respected excused memories)
    (matched : Matched memories first second machine other)
    (stored : machine.store? = some store) : other.store? = some store := by
  unfold store? at stored ⊢
  split at stored
  · rename_i opcode
    obtain ⟨byte, ahead, known⟩ := Option.bind_eq_some_iff.mp opcode
    obtain ⟨number, numbered, stored⟩ := Option.bind_eq_some_iff.mp stored
    obtain ⟨register, resolved, stored⟩ := Option.bind_eq_some_iff.mp stored
    obtain ⟨address, addressed, stored⟩ := Option.bind_eq_some_iff.mp stored
    have stores : other.nextOpcode? = some .put := by
      rw [nextOpcode?, matched.byteAhead?_some accesses ahead]
      exact known
    rw [if_pos stores, matched.byteAhead?_some accesses numbered,
      matched.byteAhead?_some accesses addressed, ← matched.variant, ← matched.registers,
      ← matched.pc_eq]
    simpa [resolved] using Option.some.inj stored
  · cases stored

variable [Device δ]

/-- The primitives of a step respect matching. -/
theorem respected (accesses : Memory.Respected excused memories) (first second : Machine δ) :
    StepRespected excused (fun _ => True) (Matched memories first second) where
  variant := fun matched => matched.variant
  registers := fun matched => matched.registers
  status := fun matched => matched.status
  update := by
    intro change machine other matched
    exact .ok rfl { matched with registers := congrArg change matched.registers }
  readCell := by
    intro address machine other matched
    unfold readCell
    obtain ⟨fault, failed, allowed | same⟩ | ⟨byte, readable, same⟩ :=
      accesses.read address matched.memory
    · rw [failed]
      exact .excused allowed
    · rw [failed, same]
      exact .error matched
    · rw [readable, same]
      exact .ok rfl matched
  writeCell := by
    intro address value _ machine other matched
    unfold writeCell
    obtain ⟨fault, failed, allowed | same⟩ | ⟨after, counterpart, written, same, memory⟩ :=
      accesses.write address value matched.memory
    · rw [failed]
      exact .excused allowed
    · rw [failed, same]
      exact .error matched
    · rw [written, same]
      exact .ok rfl
        { matched with
          memory := memory
          debugger := (matched.debugger.checkWrite _ _).2 }
  readDevice := fun width _ =>
    simulates_readDevice (fun matched => matched.device)
      (fun reply matched => matched.afterCall reply) width
  writeDevice := fun width value _ =>
    simulates_writeDevice (fun matched => matched.device)
      (fun reply matched => matched.afterCall reply) width value
  halt := fun _ matched => { matched with status := rfl }
  skip := by
    intro address opcode machine other matched
    simp only [skip, matched.strictOpcodes]
    split
    · exact .error matched
    · exact .ok rfl { matched with }
  begin := fun matched => { matched with }
  observe := fun address opcode _ _ matched => matched.observe address opcode
  count := fun matched => { matched with steps := congrArg (· + 1) matched.steps }

/-! ## Runs of matched machines -/

theorem watchedStore?_eq {event : Event} {after : Machine δ}
    (accesses : Memory.Respected excused memories)
    (matched : Matched memories first second machine other)
    (stepped : step machine = .ok event after) : machine.watchedStore? = other.watchedStore? := by
  have store_eq : machine.store? = other.store? := by
    -- The first machine has read its store, so the second can read it too.
    obtain ⟨-, opcode, executed, readable, execution, -⟩ := step_ok stepped
    by_cases stores : Opcode.ofByte? opcode = some .put
    · obtain ⟨address, value, stored, -⟩ := store?_of_put readable stores execution
      rw [stored, matched.store?_some accesses stored]
    · have same := matched.readByte_ok accesses readable
      rw [matched.pc_eq] at same
      rw [store?_of_ne_put (nextOpcode?_of_readable readable ▸ stores),
        store?_of_ne_put (nextOpcode?_of_readable same ▸ stores)]
  rw [watchedStore?, watchedStore?, store_eq, matched.debugger.watchpoints]

/-- The rounds of a run respect matching. -/
theorem runRespected (accesses : Memory.Respected excused memories) (first second : Machine δ) :
    RunRespected excused (fun _ => True) (Matched memories first second) where
  pc := pc_eq
  status := fun matched => matched.status
  steps := fun matched => matched.steps
  maxSteps := fun matched => matched.maxSteps
  resumeAt := fun matched => matched.resumeAt
  check := by
    intro machine other matched
    rw [matched.pc_eq, matched.registerFile_eq]
    obtain failed | ⟨checked, counterpart, found, answered, same, agrees⟩ :=
      matched.debugger.checkInstruction other.registerFile other.pc.toNat
    · exact Or.inl failed
    · exact Or.inr ⟨checked, counterpart, found, answered, same,
        { matched with debugger := agrees }⟩
  step := by
    intro machine other matched _
    exact (respected accesses first second).step (fun _ => trivial) machine other matched
  store := fun matched _ stepped => matched.watchedStore?_eq accesses stepped
  settle := fun matched => { matched with }
  remember := fun _ matched => { matched with resumeAt := rfl }
  conclude := fun _ matched => { matched with lastEvent := Or.inl rfl }

/-- Matched machines answer every call alike. -/
theorem call (accesses : Memory.Respected excused memories) (call : Call) :
    Simulates excused (Matched memories first second) Eq (Machine.call call)
      (Machine.call call) :=
  fun _ _ matched => (runRespected accesses first second).call call matched fun _ _ => trivial

end Matched

end Machine

end ByteMachine
