import ByteMachine.Proofs.Calls
import ByteMachine.Proofs.Cells

/-!
# Stores and loads

A program changes memory by storing registers into cells and in no other way. So memory is what it
was in the beginning with the stores made since then, in order, and a load brings back what was
stored last at its address. The debugger notes a store just when the address is watched.
-/

namespace ByteMachine

theorem Debugger.lastEvent_checkWrite (debugger : Debugger) (address value : Int) :
    (debugger.checkWrite address value).1.lastEvent =
      (debugger.checkWrite address value).2.or debugger.lastEvent := by
  unfold Debugger.checkWrite
  split <;> rfl

/-! ## Memory after stores -/

namespace Memory

variable {memory : Memory} {address : UInt8}

/-- Memory after stores, each of which puts a byte at an address. -/
def storing (memory : Memory) (stores : List (UInt8 × UInt8)) : Memory :=
  stores.foldl (fun now store => now.overwrite store.1.toNat [store.2]) memory

/-- The byte at an address after stores: the one stored there last, or else the one in memory. -/
def latest (memory : Memory) (stores : List (UInt8 × UInt8)) (address : UInt8) : UInt8 :=
  ((stores.reverse.find? (·.1 = address)).map Prod.snd).getD (memory.cell address.toNat)

theorem storing_append (memory : Memory) (first second : List (UInt8 × UInt8)) :
    memory.storing (first ++ second) = (memory.storing first).storing second :=
  List.foldl_append

@[simp]
theorem size_storing (memory : Memory) (stores : List (UInt8 × UInt8)) :
    (memory.storing stores).size = memory.size := by
  induction stores generalizing memory with
  | nil => rfl
  | cons store rest ih => exact (ih _).trans (size_overwrite memory _ _)

/-- A cell holds what was stored there last. -/
theorem cell_storing (within : address.toNat < memory.size) (stores : List (UInt8 × UInt8)) :
    (memory.storing stores).cell address.toNat = memory.latest stores address := by
  induction stores generalizing memory with
  | nil => rfl
  | cons store rest ih =>
      have within_next : address.toNat < (memory.overwrite store.1.toNat [store.2]).size := by
        rwa [size_overwrite]
      rw [storing, List.foldl_cons, ← storing, ih within_next, latest, latest, List.reverse_cons,
        List.find?_append]
      -- A later store to the address counts, or else this one if it goes there.
      cases rest.reverse.find? (·.1 = address) with
      | some later => rfl
      | none =>
          by_cases here : store.1 = address
          · subst here
            simp [cell_overwrite_one within]
          · have elsewhere : store.1.toNat ≠ address.toNat := fun same =>
              here (UInt8.toNat_inj.mp same)
            simp [here, cell_overwrite_ne elsewhere]

end Memory

namespace Machine

variable {δ : Type}

/-! ## Instructions that name a register and an address -/

/-- The next instruction is the given one, with a register and an address as its operands. -/
structure Names (machine : Machine δ) (opcode : Opcode) (register : Register) (address : UInt8) :
    Prop where
  opcode_eq : machine.nextOpcode? = some opcode
  register_eq : ∃ number, machine.byteAhead? 1 = some number ∧
    machine.variant.registerSet.resolve number.toNat = .ok register
  address_eq : machine.byteAhead? 2 = some address

/-- The registers when the three bytes of an instruction have been fetched. -/
def registersBehind (machine : Machine δ) : Registers :=
  { machine.registers with pc := machine.pc + 3 }

section Naming

variable {machine after : Machine δ} {opcode : Opcode} {register : Register}
  {byte number address : UInt8}

theorem pc_add_three (pc : UInt8) : pc + 1 + 1 + 1 = pc + 3 := by
  rw [UInt8.add_assoc, UInt8.add_assoc]
  rfl

theorem names_of_readable (readable : machine.memory.readByte machine.pc.toNat = .ok byte)
    (known : Opcode.ofByte? byte = some opcode)
    (numbered : machine.memory.readByte (machine.pc + 1).toNat = .ok number)
    (resolved : machine.variant.registerSet.resolve number.toNat = .ok register)
    (addressed : machine.memory.readByte (machine.pc + 1 + 1).toNat = .ok address) :
    machine.Names opcode register address := by
  have two : machine.pc + 2 = machine.pc + 1 + 1 := by rw [UInt8.add_assoc]; rfl
  refine ⟨(nextOpcode?_of_readable readable).trans known, ⟨number, ?_, resolved⟩, ?_⟩
  · rw [byteAhead?, numbered]
    rfl
  · rw [byteAhead?, two, addressed]
    rfl

/-- A store puts the register at the address. -/
theorem Names.store?_eq (names : machine.Names .put register address) :
    machine.store? = some (address, machine.registersBehind.get register) := by
  obtain ⟨number, numbered, resolved⟩ := names.register_eq
  simp [store?, names.opcode_eq, numbered, resolved, names.address_eq, Except.toOption,
    registersBehind]

theorem readCell_ok (reading : readCell address machine = .ok byte after) :
    machine.memory.readByte address.toNat = .ok byte ∧ after = machine := by
  unfold readCell at reading
  split at reading
  · cases reading
  · rename_i found readable
    cases reading
    exact ⟨readable, rfl⟩

variable [Device δ]

/-- A load that succeeds has fetched a register and an address, and has set the register to what
stands at that address. -/
theorem perform_get_ok (performed : perform .get machine = .ok () after) :
    ∃ number register address byte,
      machine.memory.readByte machine.pc.toNat = .ok number ∧
        machine.variant.registerSet.resolve number.toNat = .ok register ∧
        machine.memory.readByte (machine.pc + 1).toNat = .ok address ∧
        machine.memory.readByte address.toNat = .ok byte ∧
        let registers := { machine.registers with pc := machine.pc + 1 + 1 }
        after = { machine with registers := registers.set register byte } := by
  obtain ⟨register, _, fetchedRegister, rest⟩ := bind_ok performed
  obtain ⟨number, readNumber, resolved, rfl⟩ := fetchRegister_ok fetchedRegister
  obtain ⟨address, _, fetchedAddress, rest⟩ := bind_ok rest
  obtain ⟨readAddress, rfl⟩ := fetch_ok fetchedAddress
  obtain ⟨byte, _, reading, updating⟩ := bind_ok rest
  obtain ⟨readable, rfl⟩ := readCell_ok reading
  cases updating
  exact ⟨number, register, address, byte, readNumber, resolved, readAddress, readable, rfl⟩

/-- A step that loads sets the register that it names, and passes the instruction. -/
theorem step_of_load {event : Event} (stepped : step machine = .ok event after)
    (loads : machine.nextOpcode? = some .get) :
    ∃ register address, machine.Names .get register address ∧
      address.toNat < machine.memory.size ∧
      after.registers =
        machine.registersBehind.set register (machine.memory.cell address.toNat) ∧
      after.memory = machine.memory := by
  obtain ⟨-, byte, executed, readable, execution, rfl⟩ := step_ok stepped
  have known : Opcode.ofByte? byte = some .get :=
    (nextOpcode?_of_readable readable).symm.trans loads
  rw [execute, known] at execution
  obtain ⟨number, register, address, found, numbered, resolved, addressed, loaded, rfl⟩ :=
    perform_get_ok execution
  obtain ⟨within, cell_eq⟩ := Memory.readByte_ok_iff.mp loaded
  refine ⟨register, address, names_of_readable readable known numbered resolved addressed, within,
    ?_, rfl⟩
  rw [registersBehind, ← pc_add_three, ← cell_eq]
  rfl

end Naming

/-! ## What an attempt does to memory -/

/-- Neither memory nor what the debugger has noted is touched, and no watched store has happened. -/
structure Spared (before after : Machine δ) : Prop where
  memory : after.memory = before.memory
  noted : after.debugger.lastEvent = before.debugger.lastEvent
  unstopped : after.writeStop = none

theorem lastEvent_requestBreak_if (debugger : Debugger) (asked : Bool) :
    (if asked then debugger.requestBreak else debugger).lastEvent = debugger.lastEvent := by
  cases asked <;> rfl

theorem spared_fetched (machine : Machine δ) (opcode : UInt8) :
    Spared machine (machine.fetched opcode) :=
  ⟨rfl, lastEvent_requestBreak_if _ _, rfl⟩

theorem kept_spared (before : Machine δ) : Kept (· ≠ .put) (Spared before) where
  update := fun _ spared => { spared with }
  writeCell := fun _ _ _ permitted => absurd rfl permitted
  afterCall := fun _ spared =>
    ⟨spared.memory, (lastEvent_requestBreak_if _ _).trans spared.noted, spared.unstopped⟩
  halt := fun _ spared => { spared with }
  note := fun _ spared => { spared with }

section Attempt

variable {machine after : Machine δ} {fault : Fault}

theorem fetch_error (failed : fetch machine = .error fault after) : after = machine := by
  unfold fetch at failed
  split at failed
  · cases failed
    rfl
  · cases failed

theorem fetchRegister_error (failed : fetchRegister machine = .error fault after) :
    ∃ registers, after = { machine with registers := registers } := by
  obtain unread | ⟨number, middle, fetching, rest⟩ := bind_error failed
  · exact ⟨machine.registers, fetch_error unread⟩
  · obtain ⟨-, rfl⟩ := fetch_ok fetching
    obtain unread | ⟨present, _, reading, rest⟩ := bind_error rest
    · cases unread
    · cases reading
      dsimp only [variant] at rest
      cases resolved : machine.config.variant.registerSet.resolve number.toNat with
      | ok register =>
          rw [resolved] at rest
          cases rest
      | error problem =>
          rw [resolved] at rest
          cases rest
          exact ⟨_, rfl⟩

theorem writeCell_error {address value : UInt8}
    (failed : writeCell address value machine = .error fault after) : after = machine := by
  unfold writeCell at failed
  split at failed
  · cases failed
    rfl
  · cases failed

variable [Device δ]

/-- A store that fails has fetched some bytes at most. -/
theorem perform_put_error (failed : perform .put machine = .error fault after) :
    ∃ registers, after = { machine with registers := registers } := by
  obtain unnamed | ⟨register, _, fetchedRegister, rest⟩ := bind_error failed
  · exact fetchRegister_error unnamed
  · obtain ⟨number, -, -, rfl⟩ := fetchRegister_ok fetchedRegister
    obtain unread | ⟨address, _, fetchedAddress, rest⟩ := bind_error rest
    · exact ⟨_, fetch_error unread⟩
    · obtain ⟨-, rfl⟩ := fetch_ok fetchedAddress
      exact ⟨_, writeCell_error rest⟩

/-- An instruction that is no store spares memory, and so does one that fails. -/
theorem spared_of_execute {opcode : UInt8} {result : EStateM.Result Fault (Machine δ) Unit}
    (execution : execute machine.pc opcode (machine.fetched opcode) = result)
    (other : Opcode.ofByte? opcode = some .put → ∃ fault after, result = .error fault after) :
    Spared machine (stateOf result) := by
  have before := spared_fetched machine opcode
  by_cases stores : Opcode.ofByte? opcode = some .put
  · obtain ⟨fault, after, rfl⟩ := other stores
    rw [execute, stores] at execution
    obtain ⟨registers, rfl⟩ := perform_put_error execution
    exact { before with }
  · rw [← execution]
    exact (kept_spared machine).execute machine.pc opcode
      (fun known decoded same => stores (same ▸ decoded)) before

theorem spared_of_fault (running : machine.status = .running)
    (failed : step machine = .error fault after) : Spared machine after := by
  obtain rfl | ⟨opcode, execution⟩ := step_error running failed
  · exact ⟨rfl, rfl, rfl⟩
  · exact spared_of_execute execution fun _ => ⟨fault, after, rfl⟩

theorem spared_of_step {event : Event} (stepped : step machine = .ok event after)
    (other : machine.nextOpcode? ≠ some .put) : Spared machine after := by
  obtain ⟨-, opcode, executed, readable, execution, rfl⟩ := step_ok stepped
  rw [nextOpcode?_of_readable readable] at other
  have spared := spared_of_execute execution fun stores => absurd stores other
  exact { spared with }

/-- A step that stores puts the register that it names at the address that it names, and the
debugger notes it if the address is watched. -/
theorem step_of_store {event : Event} (stepped : step machine = .ok event after)
    (stores : machine.nextOpcode? = some .put) :
    ∃ register address, machine.Names .put register address ∧
      address.toNat < machine.memory.size ∧
      after.memory =
        machine.memory.overwrite address.toNat [machine.registersBehind.get register] ∧
      after.debugger.lastEvent = after.writeStop.or machine.debugger.lastEvent := by
  obtain ⟨-, byte, executed, readable, execution, rfl⟩ := step_ok stepped
  have known : Opcode.ofByte? byte = some .put :=
    (nextOpcode?_of_readable readable).symm.trans stores
  rw [execute, known] at execution
  obtain ⟨number, register, address, memory, numbered, resolved, addressed, written, rfl⟩ :=
    perform_put_ok execution
  obtain ⟨within, rfl⟩ := Memory.writeByte_ok written
  refine ⟨register, address, names_of_readable readable known numbered resolved addressed, within,
    ?_, ?_⟩
  · rw [registersBehind, ← pc_add_three]
    rfl
  · have noted := (spared_fetched machine byte).noted
    exact noted ▸ Debugger.lastEvent_checkWrite _ _ _

/-- A step makes the store of its instruction, if that is a store, and changes nothing else in
memory. -/
theorem memory_of_step {event : Event} (stepped : step machine = .ok event after) :
    after.memory = machine.memory.storing machine.store?.toList := by
  by_cases stores : machine.nextOpcode? = some .put
  · obtain ⟨register, address, names, -, memory_eq, -⟩ := step_of_store stepped stores
    rw [names.store?_eq]
    exact memory_eq
  · rw [store?_of_ne_put stores]
    exact (spared_of_step stepped stores).memory

/-- What an attempt makes the debugger note: the store of the instruction, if that is executed and
its address is watched. -/
def noted? (machine : Machine δ) : Option Event :=
  if machine.next?.isSome then machine.watchedStore?.map storeEvent else none

theorem noted_of_attempt (running : machine.status = .running) :
    (stateOf (step machine)).writeStop = machine.noted? ∧
      (stateOf (step machine)).debugger.lastEvent =
        machine.noted?.or machine.debugger.lastEvent := by
  cases stepped : step machine with
  | error fault after =>
      have spared := spared_of_fault running stepped
      rw [noted?, next?_of_fault stepped]
      exact ⟨spared.unstopped, spared.noted⟩
  | ok event after =>
      have stop := writeStop_of_step stepped
      rw [noted?, next?_of_step stepped, Option.isSome_some, if_pos rfl]
      refine ⟨stop, ?_⟩
      rw [← stop]
      by_cases stores : machine.nextOpcode? = some .put
      · obtain ⟨-, -, -, -, -, noted⟩ := step_of_store stepped stores
        exact noted
      · have spared := spared_of_step stepped stores
        rw [spared.unstopped]
        exact spared.noted

end Attempt

/-! ## Memory after calls -/

section Following

variable [Device δ]

/-- The machines in which calls that are made one after the other execute an instruction, in order.
An attempt that fails executes none. -/
def executions (calls : List Call) (machine : Machine δ) : List (Machine δ) :=
  (allAttempts calls machine).filter (·.next?.isSome)

/-- The memory of a machine is that in the beginning with the stores of the instructions that were
executed since then, and so it was before each of them. -/
structure Follows (initial : Memory) (executed : List (Machine δ)) (machine : Machine δ) :
    Prop where
  memory : machine.memory = initial.storing (executed.filterMap store?)
  before : ∀ earlier now later, executed = earlier ++ now :: later →
    now.memory = initial.storing (earlier.filterMap store?)

variable {initial : Memory} {executed : List (Machine δ)} {machine after : Machine δ}

theorem Follows.step {event : Event} (follows : Follows initial executed machine)
    (stepped : Machine.step machine = .ok event after) :
    Follows initial (executed ++ [machine]) after where
  memory := by
    rw [memory_of_step stepped, follows.memory, filterMap_concat, Memory.storing_append]
  before := by
    intro earlier now later split_eq
    obtain ⟨between, rfl, last_eq⟩ | ⟨between, executed_eq, rest_eq⟩ :=
      List.append_eq_append_iff.mp split_eq
    · obtain ⟨rfl, rest⟩ | ⟨_, -, none_left⟩ := List.cons_eq_append_iff.mp last_eq
      · cases rest
        rw [List.append_nil]
        exact follows.memory
      · simp at none_left
    · obtain ⟨rfl, rest⟩ | ⟨passed, rfl, -⟩ := List.cons_eq_append_iff.mp rest_eq
      · cases rest
        rw [List.append_nil] at executed_eq
        exact executed_eq ▸ follows.memory
      · exact follows.before earlier now passed executed_eq

/-- Memory follows the stores of the instructions that calls execute. -/
theorem follows_calls (calls : List Call) (machine : Machine δ) :
    Follows machine.memory (executions calls machine) (series call calls machine).2 := by
  have upheld : Upheld fun (before : List (Machine δ)) now =>
      Follows machine.memory (before.filter (·.next?.isSome)) now :=
    { attempt := by
        intro before now running follows
        rw [List.filter_append]
        cases stepped : Machine.step now with
        | ok event after =>
            have succeeded : [now].filter (·.next?.isSome) = [now] := by
              simp [next?_of_step stepped]
            rw [succeeded]
            exact follows.step stepped
        | error fault after =>
            have failed : [now].filter (·.next?.isSome) = [] := by
              simp [next?_of_fault stepped]
            rw [failed, List.append_nil]
            exact ⟨(spared_of_fault running stepped).memory.trans follows.memory, follows.before⟩
      note := by
        intro before now other alike follows
        exact ⟨alike.memory.symm.trans follows.memory, follows.before⟩ }
  have nothing :
      Follows machine.memory (([] : List (Machine δ)).filter (·.next?.isSome)) machine :=
    ⟨rfl, fun earlier now later split_eq => by simp at split_eq⟩
  exact upheld.calls calls nothing

theorem step_of_executed {calls : List Call} {machine now : Machine δ}
    (member : now ∈ executions calls machine) :
    ∃ event, step now = .ok event (stateOf (step now)) :=
  step_of_isSome (List.mem_filter.mp member).2

/-- Memory changes only by stores. After calls, of which some may have stopped or failed, it is the
memory before them with the stores that were executed, in order, each of a register as it was when
the instruction had been fetched. So a load that was executed sets its register to the byte that
was stored last at its address, or to the byte that stood there in the beginning, passes the
instruction, and changes no other register and no cell. Of all attempts, the debugger notes just the
stores to addresses that are watched at that moment. -/
theorem memory_follows_stores (machine : Machine δ) (calls : List Call) :
    let executed := executions calls machine
    (series call calls machine).2.memory = machine.memory.storing (executed.filterMap store?) ∧
    (∀ now ∈ executed, now.nextOpcode? = some .put →
      ∃ register address, now.Names .put register address ∧
        address.toNat < machine.memory.size ∧
        now.store? = some (address, now.registersBehind.get register)) ∧
    (∀ earlier now later, executed = earlier ++ now :: later → now.nextOpcode? = some .get →
      ∃ register address, now.Names .get register address ∧
        (stateOf (step now)).registers =
          now.registersBehind.set register
            (machine.memory.latest (earlier.filterMap store?) address) ∧
        (stateOf (step now)).memory = now.memory) ∧
    ∀ now ∈ allAttempts calls machine,
      (stateOf (step now)).writeStop = now.noted? ∧
        (stateOf (step now)).debugger.lastEvent = now.noted?.or now.debugger.lastEvent := by
  intro executed
  have follows := follows_calls calls machine
  refine ⟨follows.memory, ?_, ?_, ?_⟩
  · intro now member stores
    obtain ⟨earlier, later, split_eq⟩ := List.append_of_mem member
    obtain ⟨event, stepped⟩ := step_of_executed member
    obtain ⟨register, address, names, within, -⟩ := step_of_store stepped stores
    rw [follows.before earlier now later split_eq, Memory.size_storing] at within
    exact ⟨register, address, names, within, names.store?_eq⟩
  · intro earlier now later split_eq loads
    have member : now ∈ executed := split_eq ▸ List.mem_append_right _ List.mem_cons_self
    obtain ⟨event, stepped⟩ := step_of_executed member
    obtain ⟨register, address, names, within, registers_eq, memory_eq⟩ := step_of_load stepped loads
    have memory_now := follows.before earlier now later split_eq
    rw [memory_now, Memory.size_storing] at within
    rw [memory_now, Memory.cell_storing within] at registers_eq
    exact ⟨register, address, names, registers_eq, memory_eq⟩
  · intro now attempted
    exact noted_of_attempt (running_of_attempt attempted).1

end Following

/-- A program that stores its program counter in a cell and loads it from there. -/
def storeAndLoad : Machine Scripted :=
  holding [0x03, 0x05, 0x06, 0x04, 0x01, 0x06, 0x00]

theorem memory_follows_stores_and_loads :
    let calls := [.step, .run 0 (some 1)]
    (series call calls storeAndLoad).2.memory = storeAndLoad.memory.storing [(6, 3)] ∧
      ∃ earlier now register address, executions calls storeAndLoad = [earlier, now] ∧
        now.Names .get register address ∧
        (stateOf (step now)).registers =
          now.registersBehind.set register (storeAndLoad.memory.latest [(6, 3)] address) := by
  intro calls
  obtain ⟨memory_eq, -, loaded, -⟩ := memory_follows_stores storeAndLoad calls
  have executed : (executions calls storeAndLoad).map (fun now => (now.nextOpcode?, now.store?)) =
      [(some .put, some (6, 3)), (some .get, none)] := by decide +kernel
  obtain ⟨earlier, rest, split_eq, opcodes, rest_eq⟩ := List.map_eq_cons_iff.mp executed
  obtain ⟨now, none_left, rfl, loads, nothing⟩ := List.map_eq_cons_iff.mp rest_eq
  obtain rfl := List.map_eq_nil_iff.mp nothing
  simp only [Prod.mk.injEq] at opcodes loads
  rw [split_eq] at memory_eq
  obtain ⟨register, address, names, registers_eq, -⟩ := loaded [earlier] now [] split_eq loads.1
  simp only [List.filterMap_cons, opcodes.2, loads.2, List.filterMap_nil] at memory_eq registers_eq
  exact ⟨memory_eq, earlier, now, register, address, split_eq, names, registers_eq⟩

end Machine

end ByteMachine
