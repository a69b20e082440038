import ByteMachine.Proofs.Exchange

/-!
# The fault of a step

Whether a step fails, and with which fault, is settled before it begins. There is a fixed order of
checks, and the first one that applies names the fault: whether the machine has halted, whether the
opcode can be read and is known, and then what the instruction needs, operand by operand, down to
the device that it calls or the cell that it names.
-/

namespace ByteMachine

/-! ## Single checks -/

/-- The fault of an access to a cell, if the cell does not exist. -/
def Memory.absence? (memory : Memory) (address : Nat) : Option Fault :=
  if memory.size ≤ address then some (.outsideMemory address memory.size 1) else none

section Absence

variable {memory : Memory} {address : Nat}

theorem Memory.absence?_of_lt (within : address < memory.size) :
    memory.absence? address = none := by
  rw [absence?, if_neg (Nat.not_le_of_lt within)]

theorem Memory.absence?_of_le (beyond : memory.size ≤ address) :
    memory.absence? address = some (.outsideMemory address memory.size 1) := by
  rw [absence?, if_pos beyond]

end Absence

/-- The fault of a width tag that was found at an address, if it is neither of the two tags. -/
def Opcode.tagFault? (opcode : Opcode) (tag : UInt8) (address : Nat) : Option Fault :=
  if tag = 1 ∨ tag = 2 then none
  else some (.invalidWidth opcode.mnemonic tag.toNat (some address))

/-- The fault of a register number, if no register has it or the variant lacks that register. -/
def Variant.numberFault? (variant : Variant) (number : UInt8) : Option Fault :=
  match Register.ofNumber? number.toNat with
  | none => some (.register (.numbered number.toNat) none)
  | some register =>
    if variant.has register then none
    else some (.register (.named register) (some variant.code))

/-- A reading is an integer from zero to the limit of a width. -/
def Reading.fits (reading : Reading) (width : Width) : Bool :=
  reading.number?.any fun value : Int => 0 ≤ value ∧ value ≤ width.limit

namespace Device

variable {δ : Type} [Device δ]

/-- The fault of a read, if the device lacks the operation, fails, or gives a value that does not
fit. -/
def readFault? (width : Width) (device : δ) : Option Fault :=
  match read? width device with
  | none => some (.device (readName width) .missing)
  | some reply =>
    match reply.result with
    | .error failure => some (.device (readName width) (.failed failure))
    | .ok reading =>
      if reading.fits width then none
      else some (.device (readName width) (.refused reading width.limit))

/-- The fault of a write, if the device lacks the operation or fails. -/
def writeFault? (width : Width) (value : Nat) (device : δ) : Option Fault :=
  match write? width value device with
  | none => some (.device (writeName width) .missing)
  | some reply =>
    match reply.result with
    | .error failure => some (.device (writeName width) (.failed failure))
    | .ok () => none

end Device

namespace Machine

variable {δ : Type}

/-! ## The checks of a step -/

/-- The address some cells behind the program counter, which comes round to zero. -/
def ahead (machine : Machine δ) (distance : Nat) : Nat :=
  (machine.pc.toNat + distance) % 256

/-- The byte some cells behind the program counter, if the cell exists. -/
def cellAhead (machine : Machine δ) (distance : Nat) : UInt8 :=
  machine.memory.cell (machine.ahead distance)

/-- The fault of a fetch some cells behind the program counter. -/
def absentAhead? (machine : Machine δ) (distance : Nat) : Option Fault :=
  machine.memory.absence? (machine.ahead distance)

/-- The fault of the width tag, where there are tags. -/
def widthFault? (machine : Machine δ) (opcode : Opcode) : Option Fault :=
  match machine.variant with
  | .byte => none
  | .word =>
    (machine.absentAhead? 1).or (opcode.tagFault? (machine.cellAhead 1) (machine.ahead 1))

/-- The width that the tag selects, which is a byte where there are no tags. -/
def widthAhead (machine : Machine δ) : Width :=
  match machine.variant with
  | .byte => .byte
  | .word => if machine.cellAhead 1 = 2 then .word else .byte

/-- The fault of the next instruction, if that has an opcode: the first check that applies. -/
def instructionFault? [Device δ] (machine : Machine δ) : Opcode → Option Fault
  | .inp => (machine.widthFault? .inp).or (Device.readFault? machine.widthAhead machine.device)
  | .out =>
    (machine.widthFault? .out).or
      (Device.writeFault? machine.widthAhead (machine.registers.operand machine.widthAhead)
        machine.device)
  | .inc => machine.widthFault? .inc
  | .put | .get =>
    (machine.absentAhead? 1).or <|
      (machine.variant.numberFault? (machine.cellAhead 1)).or <|
        (machine.absentAhead? 2).or (machine.memory.absence? (machine.cellAhead 2).toNat)
  | .add | .sub | .jmp | .jmz | .jmn => machine.absentAhead? 1
  | .nop | .dec | .halt => none

/-- The fault of the next step: the first check that applies. -/
def fault? [Device δ] (machine : Machine δ) : Option Fault :=
  match machine.status with
  | .halted => some .alreadyHalted
  | .running =>
    (machine.absentAhead? 0).or <|
      match Opcode.ofByte? (machine.cellAhead 0) with
      | some opcode => machine.instructionFault? opcode
      | none =>
        if machine.config.strictOpcodes then
          some (.unknownOpcode (machine.cellAhead 0).toNat (some machine.pc.toNat))
        else none

/-! ## The fault of a result -/

/-- The fault of a result, if it is one. -/
def faultOf {σ α : Type} : EStateM.Result Fault σ α → Option Fault
  | .ok _ _ => none
  | .error fault _ => some fault

section Laws

variable {α : Type} {machine : Machine δ} {opcode : Opcode}

/-- A change of the registers does not fail. -/
theorem faultOf_bind_update (first : Action (Machine δ) α)
    (change : α → Registers → Registers) :
    faultOf ((first >>= fun value => update (change value)) machine) = faultOf (first machine) := by
  simp only [bind, EStateM.bind]
  cases first machine <;> rfl

theorem faultOf_get_bind (next : Machine δ → Action (Machine δ) α) :
    faultOf ((get >>= next) machine) = faultOf (next machine machine) :=
  rfl

/-- What follows a fetch is of account only if the cell exists. -/
theorem faultOf_fetch_bind (next : UInt8 → Action (Machine δ) α) :
    faultOf ((fetch >>= next) machine) =
      (machine.memory.absence? machine.pc.toNat).or
        (faultOf (next (machine.memory.cell machine.pc.toNat) (machine.advanced 1))) := by
  by_cases within : machine.pc.toNat < machine.memory.size
  · simp only [bind, EStateM.bind, fetch, Memory.readByte_of_lt within,
      Memory.absence?_of_lt within]
    rfl
  · have beyond := Nat.le_of_not_lt within
    simp only [bind, EStateM.bind, fetch, Memory.readByte_of_le beyond,
      Memory.absence?_of_le beyond]
    rfl

theorem faultOf_readCell (address : UInt8) :
    faultOf (readCell address machine) = machine.memory.absence? address.toNat := by
  by_cases within : address.toNat < machine.memory.size
  · simp only [readCell, Memory.readByte_of_lt within, Memory.absence?_of_lt within]
    rfl
  · have beyond := Nat.le_of_not_lt within
    simp only [readCell, Memory.readByte_of_le beyond, Memory.absence?_of_le beyond]
    rfl

theorem faultOf_writeCell (address value : UInt8) :
    faultOf (writeCell address value machine) = machine.memory.absence? address.toNat := by
  by_cases within : address.toNat < machine.memory.size
  · simp only [writeCell, Memory.writeByte_of_lt within, Memory.absence?_of_lt within]
    rfl
  · have beyond := Nat.le_of_not_lt within
    simp only [writeCell, Memory.writeByte_of_le beyond, Memory.absence?_of_le beyond]
    rfl

/-- What follows a register number is of account only if the variant has the register. -/
theorem faultOf_fetchRegister_bind (next : Register → Action (Machine δ) α) :
    faultOf ((fetchRegister >>= next) machine) =
      ((machine.memory.absence? machine.pc.toNat).or <|
        (machine.variant.numberFault? (machine.memory.cell machine.pc.toNat)).or <|
          faultOf (next (registerOf (machine.memory.cell machine.pc.toNat))
            (machine.advanced 1))) := by
  rw [fetchRegister, bind_assoc, faultOf_fetch_bind]
  have variant_eq : (machine.advanced 1).variant = machine.variant := rfl
  simp only [bind, EStateM.bind, get_apply, variant_eq, resolve_eq, Variant.numberFault?,
    registerOf]
  cases Register.ofNumber? (machine.memory.cell machine.pc.toNat).toNat with
  | none => rfl
  | some register =>
      by_cases present : machine.variant.has register = true
      · simp only [if_pos present]
        rfl
      · simp only [if_neg present]
        rfl

theorem ofTag?_eq (tag : UInt8) :
    Width.ofTag? tag =
      if tag = 1 then some .byte else if tag = 2 then some .word else none := by
  simp only [Width.ofTag?, List.find?, Width.tag]
  grind

/-- Where there are tags, a width is a byte that is fetched and looked up. -/
theorem fetchWidth_bind_of_word (words : machine.variant = .word)
    (next : Width → Action (Machine δ) α) :
    (fetchWidth opcode >>= next) machine =
      (fetch >>= fun tag =>
        match Width.ofTag? tag with
        | some width => next width
        | none => throw (.invalidWidth opcode.mnemonic tag.toNat (some machine.pc.toNat)))
        machine := by
  have tagged : machine.variant.isTagged = true := by rw [words]; rfl
  simp only [fetchWidth, bind, EStateM.bind, get_apply, tagged, ↓reduceIte]
  cases fetch machine with
  | error fault after => rfl
  | ok tag after =>
      dsimp only
      cases Width.ofTag? tag <;> rfl

/-- What follows a width is of account only if the tag is one of the two, where there are tags. -/
theorem faultOf_fetchWidth_bind (next : Width → Action (Machine δ) α) :
    faultOf ((fetchWidth opcode >>= next) machine) =
      match machine.variant with
      | .byte => faultOf (next .byte machine)
      | .word =>
        (machine.memory.absence? machine.pc.toNat).or <|
          (opcode.tagFault? (machine.memory.cell machine.pc.toNat) machine.pc.toNat).or <|
            faultOf (next (if machine.memory.cell machine.pc.toNat = 2 then .word else .byte)
              (machine.advanced 1)) := by
  cases variant_eq : machine.variant with
  | byte =>
      simp only [fetchWidth, bind, EStateM.bind, get_apply, variant_eq]
      rfl
  | word =>
      rw [fetchWidth_bind_of_word variant_eq, faultOf_fetch_bind, ofTag?_eq, Opcode.tagFault?]
      by_cases one : machine.memory.cell machine.pc.toNat = 1
      · simp [one]
      · by_cases two : machine.memory.cell machine.pc.toNat = 2
        · simp [two]
        · simp only [one, two, ↓reduceIte, or_self]
          rfl

theorem fits_or_refused (width : Width) (reading : Reading) :
    (reading.fits width = true ∧ ∃ value, acceptReading width reading = .ok value) ∨
      reading.fits width = false ∧
        acceptReading width reading = .error (.refused reading width.limit) := by
  unfold Reading.fits acceptReading
  cases reading.number? with
  | none => exact Or.inr ⟨rfl, rfl⟩
  | some value =>
      by_cases fits : 0 ≤ value ∧ value ≤ width.limit
      · exact Or.inl ⟨decide_eq_true fits, value.toNat, if_pos fits⟩
      · exact Or.inr ⟨decide_eq_false fits, if_neg fits⟩

variable [Device δ]

theorem faultOf_readDevice (width : Width) :
    faultOf (readDevice width machine) = Device.readFault? width machine.device := by
  simp only [readDevice, Device.readFault?]
  cases Device.read? width machine.device with
  | none => rfl
  | some reply =>
      dsimp only
      cases reply.result with
      | error failure => rfl
      | ok reading =>
          obtain ⟨fits, value, accepted⟩ | ⟨unfit, refused⟩ := fits_or_refused width reading
          · simp only [accepted, fits]
            rfl
          · simp only [refused, unfit]
            rfl

theorem faultOf_writeDevice (machine : Machine δ) (width : Width) (value : Nat) :
    faultOf (writeDevice width value machine) =
      Device.writeFault? width value machine.device := by
  simp only [writeDevice, Device.writeFault?]
  cases Device.write? width value machine.device with
  | none => rfl
  | some reply =>
      dsimp only
      cases reply.result <;> rfl

end Laws

/-! ## Faults of instructions -/

section Instructions

theorem ahead_zero (machine : Machine δ) : machine.ahead 0 = machine.pc.toNat :=
  Nat.mod_eq_of_lt machine.pc.toNat_lt

theorem pc_fetched (machine : Machine δ) (byte : UInt8) :
    (machine.fetched byte).pc.toNat = machine.ahead 1 :=
  toNat_add_ofNat machine.pc 1

theorem pc_cleared (machine : Machine δ) (byte : UInt8) :
    (machine.fetched byte).clearFlags.pc.toNat = machine.ahead 1 :=
  pc_fetched machine byte

theorem pc_fetched_advanced (machine : Machine δ) (byte : UInt8) :
    ((machine.fetched byte).advanced 1).pc.toNat = machine.ahead 2 := by
  have passed := toNat_add_ofNat machine.pc 2
  rw [← pc_add_succ] at passed
  exact passed

/-- An instruction with one literal or address fails only where that cannot be fetched. -/
theorem faultOf_literal {machine now : Machine δ} (placed : now.pc.toNat = machine.ahead 1)
    (stored : now.memory = machine.memory) (change : UInt8 → Registers → Registers) :
    faultOf ((fetch >>= fun value => update (change value)) now) = machine.absentAhead? 1 := by
  rw [faultOf_fetch_bind, placed, stored]
  exact Option.or_none

/-- What follows the width of an instruction is of account only if the tag is in order. -/
theorem faultOf_fetchWidth_fetched (machine : Machine δ) (byte : UInt8) (opcode : Opcode) {α : Type}
    (next : Width → Action (Machine δ) α) :
    ∃ pc, faultOf ((fetchWidth opcode >>= next) (machine.fetched byte)) =
      (machine.widthFault? opcode).or
        (faultOf (next machine.widthAhead (machine.fetchedTo byte pc))) := by
  have variant_eq : (machine.fetched byte).variant = machine.variant := rfl
  rw [faultOf_fetchWidth_bind, pc_fetched, variant_eq, widthFault?, widthAhead]
  cases machine.variant with
  | byte => exact ⟨machine.pc + 1, rfl⟩
  | word =>
      refine ⟨machine.pc + 1 + 1, ?_⟩
      rw [Option.or_assoc]
      rfl

variable [Device δ]

/-- An instruction whose opcode was fetched fails at the first of its checks that applies. -/
theorem faultOf_perform (machine : Machine δ) (byte : UInt8) (opcode : Opcode) :
    faultOf (perform opcode (machine.fetched byte)) = machine.instructionFault? opcode := by
  cases opcode with
  | nop | dec | halt => rfl
  | jmp | jmz | jmn => exact faultOf_literal (pc_fetched machine byte) rfl _
  | add => exact faultOf_literal (pc_cleared machine byte) rfl fun value => (·.addLiteral value)
  | sub =>
      exact faultOf_literal (pc_cleared machine byte) rfl fun value => (·.subtractLiteral value)
  | inp =>
      obtain ⟨pc, checked⟩ := faultOf_fetchWidth_fetched machine byte .inp fun width =>
        readDevice width >>= fun value => update (·.store width value)
      rw [faultOf_bind_update, faultOf_readDevice] at checked
      exact checked
  | out =>
      obtain ⟨pc, checked⟩ := faultOf_fetchWidth_fetched machine byte .out fun width =>
        get >>= fun now => writeDevice width (now.registers.operand width)
      have operand_eq : (machine.fetchedTo byte pc).registers.operand machine.widthAhead =
          machine.registers.operand machine.widthAhead := by
        cases machine.widthAhead <;> rfl
      have called := faultOf_writeDevice (machine.fetchedTo byte pc) machine.widthAhead
        ((machine.fetchedTo byte pc).registers.operand machine.widthAhead)
      rw [operand_eq] at called
      exact checked.trans (congrArg (machine.widthFault? .out).or called)
  | inc =>
      obtain ⟨pc, checked⟩ := faultOf_fetchWidth_fetched machine byte .inc fun width =>
        update (·.increment width)
      exact checked.trans Option.or_none
  | put =>
      rw [perform, faultOf_fetchRegister_bind, faultOf_fetch_bind, pc_fetched, pc_fetched_advanced,
        faultOf_get_bind, faultOf_writeCell]
      rfl
  | get =>
      rw [perform, faultOf_fetchRegister_bind, faultOf_fetch_bind, pc_fetched, pc_fetched_advanced,
        faultOf_bind_update, faultOf_readCell]
      rfl

/-- A byte that was fetched fails as the instruction that it begins, or because it begins none. -/
theorem faultOf_execute (machine : Machine δ) (byte : UInt8) :
    faultOf (execute machine.pc byte (machine.fetched byte)) =
      match Opcode.ofByte? byte with
      | some opcode => machine.instructionFault? opcode
      | none =>
        if machine.config.strictOpcodes then
          some (.unknownOpcode byte.toNat (some machine.pc.toNat))
        else none := by
  unfold execute
  cases Opcode.ofByte? byte with
  | some opcode => exact faultOf_perform machine byte opcode
  | none =>
      have config_eq : (machine.fetched byte).config = machine.config := rfl
      simp only [skip, config_eq]
      split <;> rfl

/-- A step fails at the first check that applies, and succeeds if there is none. -/
theorem faultOf_step (machine : Machine δ) : faultOf (step machine) = machine.fault? := by
  unfold fault?
  cases status : machine.status with
  | halted =>
      rw [step_of_halted status]
      rfl
  | running =>
      rw [absentAhead?, cellAhead, ahead_zero]
      by_cases within : machine.pc.toNat < machine.memory.size
      · have executed := faultOf_execute machine (machine.memory.cell machine.pc.toNat)
        rw [step_of_readable status (Memory.readByte_of_lt within), Memory.absence?_of_lt within,
          Option.none_or, ← executed]
        cases execute machine.pc _ (machine.fetched _) <;> rfl
      · have beyond := Nat.le_of_not_lt within
        rw [step_of_unreadable status (Memory.readByte_of_le beyond), Memory.absence?_of_le beyond]
        rfl

end Instructions

/-! ## Faults of registers -/

section Registers

variable {machine : Machine δ} {reference : Register.Reference} {owner : Option String}

/-- A fault of a register number carries that number. -/
theorem value_of_numberFault? {variant : Variant} {number : UInt8}
    (found : variant.numberFault? number = some (.register reference owner)) :
    reference.value = number.toNat := by
  unfold Variant.numberFault? at found
  split at found
  · cases found
    rfl
  · rename_i register known
    split at found
    · cases found
    · cases found
      have number_eq : (register.number : Int) = number.toNat := by
        simpa using List.find?_some known
      exact number_eq

theorem absence?_ne_register (memory : Memory) (address : Nat) :
    memory.absence? address ≠ some (.register reference owner) := by
  unfold Memory.absence?
  split <;> exact nofun

theorem widthFault?_ne_register (opcode : Opcode) :
    machine.widthFault? opcode ≠ some (.register reference owner) := by
  unfold widthFault?
  cases machine.variant with
  | byte => exact nofun
  | word =>
      rw [ne_eq, Option.or_eq_some_iff, not_or]
      refine ⟨absence?_ne_register _ _, ?_⟩
      rintro ⟨-, tagged⟩
      unfold Opcode.tagFault? at tagged
      split at tagged <;> cases tagged

variable [Device δ]

theorem readFault?_ne_register (width : Width) (device : δ) :
    Device.readFault? width device ≠ some (.register reference owner) := by
  unfold Device.readFault?
  split
  · exact nofun
  · split
    · exact nofun
    · split <;> exact nofun

theorem writeFault?_ne_register (width : Width) (value : Nat) (device : δ) :
    Device.writeFault? width value device ≠ some (.register reference owner) := by
  unfold Device.writeFault?
  split
  · exact nofun
  · split <;> exact nofun

/-- Of all checks, only that of a register number finds a fault of a register. -/
theorem numberFault?_of_fault? (found : machine.fault? = some (.register reference owner)) :
    machine.variant.numberFault? (machine.cellAhead 1) = some (.register reference owner) := by
  unfold fault? at found
  split at found
  · cases found
  · obtain absent | ⟨-, found⟩ := Option.or_eq_some_iff.mp found
    · exact absurd absent (absence?_ne_register _ _)
    · split at found
      · rename_i opcode _
        cases opcode with
        | nop | dec | halt => cases found
        | add | sub | jmp | jmz | jmn => exact absurd found (absence?_ne_register _ _)
        | inc => exact absurd found (widthFault?_ne_register _)
        | inp =>
            obtain untagged | ⟨-, unread⟩ := Option.or_eq_some_iff.mp found
            · exact absurd untagged (widthFault?_ne_register _)
            · exact absurd unread (readFault?_ne_register _ _)
        | out =>
            obtain untagged | ⟨-, unwritten⟩ := Option.or_eq_some_iff.mp found
            · exact absurd untagged (widthFault?_ne_register _)
            · exact absurd unwritten (writeFault?_ne_register _ _ _)
        | put | get =>
            obtain absent | ⟨-, found⟩ := Option.or_eq_some_iff.mp found
            · exact absurd absent (absence?_ne_register _ _)
            · obtain numbered | ⟨-, found⟩ := Option.or_eq_some_iff.mp found
              · exact numbered
              · obtain absent | ⟨-, absent⟩ := Option.or_eq_some_iff.mp found
                · exact absurd absent (absence?_ne_register _ _)
                · exact absurd absent (absence?_ne_register _ _)
      · split at found <;> cases found

end Registers

/-! ## Exact faults -/

/-- A step fails with just the fault that the first check names, and it succeeds just when no check
applies. A fault of a register carries the number that stands behind the opcode. -/
theorem step_fails_at_first_check [Device δ] (machine : Machine δ) :
    (∀ fault, (∃ after, step machine = .error fault after) ↔ machine.fault? = some fault) ∧
      ((∃ event after, step machine = .ok event after) ↔ machine.fault? = none) ∧
      ∀ reference owner after, step machine = .error (.register reference owner) after →
        reference.value = (machine.cellAhead 1).toNat := by
  have checked := faultOf_step machine
  refine ⟨?_, ?_, ?_⟩
  · intro fault
    rw [← checked]
    cases step machine <;> simp [faultOf]
  · rw [← checked]
    cases step machine <;> simp [faultOf]
  · intro reference owner after failed
    rw [failed] at checked
    exact value_of_numberFault? (numberFault?_of_fault? checked.symm)

-- The number is looked at before the address, which is cut off here.
example : (holding [0x03, 0x09]).fault? = some (.register (.numbered 0x09) none) := by
  decide +kernel

end Machine

end ByteMachine
