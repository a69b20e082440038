import ByteMachine.Proofs.Diagnosis
import ByteMachine.Proofs.Matching

/-!
# Programs for both variants

The larger machine has three registers more than the smaller one, and its instructions for input,
output and increment carry a width. A program that uses none of these is portable: it runs on both
machines alike, and the larger one keeps what its own registers hold.
-/

namespace ByteMachine

/-! ## Registers that both machines have -/

namespace Registers

variable {register : Register}

/-- Registers of which those that only the larger machine has are taken from `spare`. -/
def withSpare (registers spare : Registers) : Registers :=
  { registers with c := spare.c, d := spare.d, i := spare.i }

theorem get_withSpare (shared : Variant.byte.has register = true) (registers spare : Registers) :
    (registers.withSpare spare).get register = registers.get register := by
  cases register with
  | a | b | pc | fl => rfl
  | c | d | i => simp [Variant.has, Variant.registers] at shared

theorem set_withSpare (shared : Variant.byte.has register = true) (registers spare : Registers)
    (value : UInt8) :
    (registers.withSpare spare).set register value =
      (registers.set register value).withSpare spare := by
  cases register with
  | a | b | pc | fl => rfl
  | c | d | i => simp [Variant.has, Variant.registers] at shared

theorem putFlag_withSpare (registers spare : Registers) (flag : Flag) (on : Bool) :
    (registers.withSpare spare).putFlag flag on = (registers.putFlag flag on).withSpare spare := by
  rw [putFlag_eq, putFlag_eq]
  rfl

/-- Sums and differences with a literal take no notice of the other registers. -/
theorem addLiteral_withSpare (registers spare : Registers) (value : UInt8) :
    (registers.withSpare spare).addLiteral value =
      (registers.addLiteral value).withSpare spare := by
  simp only [addLiteral, flagSum, set_withSpare (show Variant.byte.has .b = true from rfl),
    putFlag_withSpare, set_withSpare (show Variant.byte.has .a = true from rfl)]
  rfl

theorem subtractLiteral_withSpare (registers spare : Registers) (value : UInt8) :
    (registers.withSpare spare).subtractLiteral value =
      (registers.subtractLiteral value).withSpare spare := by
  simp only [subtractLiteral, flagDifference,
    set_withSpare (show Variant.byte.has .b = true from rfl), putFlag_withSpare,
    set_withSpare (show Variant.byte.has .a = true from rfl)]
  rfl

theorem decrement_withSpare (registers spare : Registers) :
    (registers.withSpare spare).decrement = registers.decrement.withSpare spare := by
  rw [decrement_eq, decrement_eq]
  rfl

end Registers

/-- A number is not that of a register that only the larger machine has. -/
def SharedNumber (number : UInt8) : Prop :=
  number ≠ 3 ∧ number ≠ 4 ∧ number ≠ 7

theorem SharedNumber.has {number : UInt8} {register : Register} (shared : SharedNumber number)
    (named : Register.ofNumber? number.toNat = some register) :
    Variant.byte.has register = true := by
  have found : (register.number : Int) = number.toNat := by simpa using List.find?_some named
  have number_eq : register.number = number.toNat := by omega
  obtain ⟨no_c, no_d, no_i⟩ := shared
  have excluded (other : UInt8) (ne : number ≠ other) : register.number ≠ other.toNat := by
    rw [number_eq]
    exact fun same => ne (UInt8.toNat_inj.mp same)
  cases register with
  | a | b | pc | fl => rfl
  | c => exact absurd rfl (excluded 3 no_c)
  | d => exact absurd rfl (excluded 4 no_d)
  | i => exact absurd rfl (excluded 7 no_i)

/-- Such a number names the same register on both machines, or none on either. -/
theorem SharedNumber.resolve {number : UInt8} (shared : SharedNumber number) :
    (∃ fault, Variant.byte.registerSet.resolve number.toNat = .error fault ∧
        Variant.word.registerSet.resolve number.toNat = .error fault) ∨
      ∃ register, Variant.byte.has register = true ∧
        Variant.byte.registerSet.resolve number.toNat = .ok register ∧
        Variant.word.registerSet.resolve number.toNat = .ok register := by
  rw [Machine.resolve_eq, Machine.resolve_eq]
  cases named : Register.ofNumber? number.toNat with
  | none => exact Or.inl ⟨_, rfl, rfl⟩
  | some register =>
      have present := shared.has named
      have present_word : Variant.word.has register = true := by cases register <;> rfl
      exact Or.inr ⟨register, present, if_pos present, if_pos present_word⟩

/-- A condition reads only registers that both machines have. -/
def Condition.Shared (condition : Condition) : Prop :=
  ∀ register ∈ condition.operand.registers, Variant.byte.has register = true

theorem Condition.Shared.holds_eq {condition : Condition} (shared : condition.Shared)
    (registers spare : Registers) :
    condition.holds ⟨Variant.byte.registerSet, registers⟩ =
      condition.holds ⟨Variant.word.registerSet, registers.withSpare spare⟩ := by
  unfold Condition.holds Operand.value
  cases operand : condition.operand with
  | register which =>
      have present : Variant.byte.has which = true :=
        shared which (by simp [operand, Operand.registers])
      have present_word : Variant.word.has which = true := by cases which <;> rfl
      simp only [Debugger.Fits.read_ok present, Debugger.Fits.read_ok present_word,
        Registers.get_withSpare present]
  | pair =>
      have absent := shared .c (by simp [operand, Operand.registers])
      simp [Variant.has, Variant.registers] at absent
  | flag which => rfl

/-! ## Debuggers with the same hooks -/

namespace Debugger

/-- Two debuggers have the same hooks and the same request to break, whatever machines they are
for. -/
structure SameHooks (debugger other : Debugger) : Prop where
  breakpoints : debugger.breakpoints = other.breakpoints
  watchpoints : debugger.watchpoints = other.watchpoints
  conditions : debugger.conditions = other.conditions
  breakRequested : debugger.breakRequested = other.breakRequested

theorem firstHolding?_congr {file other : RegisterFile} {conditions : List (Option Condition)}
    (same : ∀ condition, some condition ∈ conditions →
      condition.holds file = condition.holds other) :
    firstHolding? file conditions = firstHolding? other conditions := by
  induction conditions with
  | nil => rfl
  | cons first rest ih =>
      have rest_eq := ih fun condition member => same condition (List.mem_cons_of_mem _ member)
      cases first with
      | none => exact rest_eq
      | some condition =>
          rw [firstHolding?, firstHolding?, same condition List.mem_cons_self, rest_eq]

namespace SameHooks

variable {debugger other : Debugger}

theorem requestBreak_if {asked counterpart : Bool} (same : debugger.SameHooks other)
    (asked_eq : asked = counterpart) :
    SameHooks (if asked then debugger.requestBreak else debugger)
      (if counterpart then other.requestBreak else other) := by
  subst asked_eq
  cases asked with
  | false => exact same
  | true => exact { same with breakRequested := rfl }

theorem checkWrite (same : debugger.SameHooks other) (address value : Int) :
    SameHooks (debugger.checkWrite address value).1 (other.checkWrite address value).1 := by
  unfold Debugger.checkWrite
  rw [same.watchpoints]
  split
  · exact { same with }
  · exact same

/-- The check before an instruction comes to the same where the conditions do. -/
theorem checkInstruction {file counterpart : RegisterFile} (same : debugger.SameHooks other)
    (holds_eq : ∀ condition, some condition ∈ debugger.conditions →
      condition.holds file = condition.holds counterpart) (pc : Int) :
    (∃ fault, debugger.checkInstruction file pc = .error fault ∧
        other.checkInstruction counterpart pc = .error fault) ∨
      ∃ checked checked' found, debugger.checkInstruction file pc = .ok (checked, found) ∧
        other.checkInstruction counterpart pc = .ok (checked', found) ∧
        checked.SameHooks checked' ∧ checked.conditions = debugger.conditions := by
  simp only [Debugger.checkInstruction, firstHolding?_congr holds_eq, ← same.breakRequested,
    ← same.breakpoints, ← same.conditions]
  split
  · exact Or.inr ⟨_, _, _, rfl, rfl, { same with breakRequested := rfl }, rfl⟩
  · split
    · exact Or.inr ⟨_, _, _, rfl, rfl, { same with }, rfl⟩
    · cases firstHolding? counterpart debugger.conditions with
      | error fault => exact Or.inl ⟨fault, rfl, rfl⟩
      | ok found =>
          cases found with
          | none => exact Or.inr ⟨_, _, _, rfl, rfl, same, rfl⟩
          | some condition => exact Or.inr ⟨_, _, _, rfl, rfl, { same with }, rfl⟩

end SameHooks

end Debugger

namespace Machine

variable {δ ε : Type}

/-! ## Machines of both variants -/

/-- A machine of the smaller variant and one of the larger agree in all that both have. The other
registers of the larger one hold what they do in `spare`. -/
structure Widened (spare : Registers) (machine : Machine δ) (other : Machine ε) : Prop where
  byte : machine.variant = .byte
  word : other.variant = .word
  strictOpcodes : machine.config.strictOpcodes = other.config.strictOpcodes
  maxSteps : machine.config.maxSteps = other.config.maxSteps
  observer : machine.observer.Agrees other.observer
  memory : machine.memory = other.memory
  registers : other.registers = machine.registers.withSpare spare
  hooks : machine.debugger.SameHooks other.debugger
  conditions : ∀ condition, some condition ∈ machine.debugger.conditions → condition.Shared
  status : machine.status = other.status
  steps : machine.steps = other.steps
  resumeAt : machine.resumeAt = other.resumeAt

/-- The instruction at the program counter means the same to both variants: it carries no width
and names no register that only the larger machine has. -/
def Portable (machine : Machine δ) : Prop :=
  machine.nextOpcode? ∉ [some .inp, some .out, some .inc] ∧
    (machine.nextOpcode? ∈ [some .get, some .put] →
      machine.byteAhead? 1 ∉ [some 3, some 4, some 7])

instance (machine : Machine δ) : Decidable machine.Portable :=
  inferInstanceAs (Decidable (_ ∧ _))

theorem Portable.unsized {machine : Machine δ} {opcode : Opcode} (portable : machine.Portable)
    (next : machine.nextOpcode? = some opcode) : opcode.isSized = false := by
  have uncommon := portable.1
  rw [next] at uncommon
  cases opcode with
  | inp | out | inc => simp at uncommon
  | _ => rfl

theorem Portable.shared {machine : Machine δ} {opcode : Opcode} {number : UInt8}
    (portable : machine.Portable) (next : machine.nextOpcode? = some opcode)
    (names : opcode = .get ∨ opcode = .put) (ahead : machine.byteAhead? 1 = some number) :
    SharedNumber number := by
  have uncommon : machine.byteAhead? 1 ∉ [some 3, some 4, some 7] := by
    apply portable.2
    rw [next]
    obtain rfl | rfl := names <;> simp
  rw [ahead] at uncommon
  simpa [SharedNumber] using uncommon

namespace Widened

variable {excused : Fault → Prop} {spare : Registers} {machine : Machine δ} {other : Machine ε}

theorem pc_eq (widened : Widened spare machine other) : machine.pc = other.pc :=
  (congrArg Registers.pc widened.registers).symm

theorem update {change : Registers → Registers}
    (spared : ∀ registers,
      change (registers.withSpare spare) = (change registers).withSpare spare) :
    Simulates excused (Widened spare) Eq (Machine.update change : Action (Machine δ) Unit)
      (Machine.update change : Action (Machine ε) Unit) := by
  refine simulates_modify ?_
  intro machine other widened
  exact { widened with registers := by rw [widened.registers, spared] }

theorem readCell (address : UInt8) :
    Simulates excused (Widened spare) Eq (Machine.readCell address : Action (Machine δ) UInt8)
      (Machine.readCell address : Action (Machine ε) UInt8) := by
  intro machine other widened
  simp only [Machine.readCell, widened.memory]
  cases other.memory.readByte address.toNat with
  | error fault => exact .error widened
  | ok byte => exact .ok rfl widened

theorem fetch :
    Simulates excused (Widened spare) Eq (Machine.fetch : Action (Machine δ) UInt8)
      (Machine.fetch : Action (Machine ε) UInt8) := by
  intro machine other widened
  rw [fetch_eq, fetch_eq, widened.pc_eq]
  refine simulates_bind_eq (readCell other.pc) ?_ machine other widened
  intro byte
  exact simulates_bind_eq (update fun _ => rfl) fun _ => simulates_pure rfl

theorem jumpIf {test : Registers → Bool}
    (spared : ∀ registers, test (registers.withSpare spare) = test registers) :
    Simulates excused (Widened spare) Eq (Machine.jumpIf test : Action (Machine δ) Unit)
      (Machine.jumpIf test : Action (Machine ε) Unit) := by
  refine simulates_bind_eq fetch fun target => update ?_
  intro registers
  rw [spared]
  cases test registers <;> rfl

theorem writeCell (address value : UInt8) :
    Simulates excused (Widened spare) Eq (Machine.writeCell address value : Action (Machine δ) Unit)
      (Machine.writeCell address value : Action (Machine ε) Unit) := by
  intro machine other widened
  simp only [Machine.writeCell, widened.memory]
  cases other.memory.writeByte address.toNat value.toNat with
  | error fault => exact .error widened
  | ok memory =>
      have hooks := widened.hooks.checkWrite address.toNat value.toNat
      have conditions_eq := ((Debugger.Hooked.refl machine.debugger).checkWrite address.toNat
        value.toNat).conditions
      exact .ok rfl
        { widened with
          memory := rfl
          hooks := hooks
          conditions := conditions_eq ▸ widened.conditions }

theorem skip (address opcode : UInt8) :
    Simulates excused (Widened spare) Eq (Machine.skip address opcode : Action (Machine δ) Unit)
      (Machine.skip address opcode : Action (Machine ε) Unit) := by
  intro machine other widened
  simp only [Machine.skip, widened.strictOpcodes]
  split
  · exact .error widened
  · exact .ok rfl { widened with }

/-- A register number that is shared is fetched alike. -/
theorem fetchRegister (widened : Widened spare machine other)
    (shared : ∀ number, machine.memory.readByte machine.pc.toNat = .ok number →
      SharedNumber number) :
    Corresponds excused (Widened spare)
      (fun register counterpart => register = counterpart ∧ Variant.byte.has register = true)
      (Machine.fetchRegister machine) (Machine.fetchRegister other) := by
  refine (fetch machine other widened).bind ?_
  intro number fetched _ fetchedOther fetching same widened_fetched
  cases same
  have resolved := (shared number (fetch_ok fetching).1).resolve
  simp only [bind, EStateM.bind, get_apply, widened_fetched.byte, widened_fetched.word]
  obtain ⟨fault, failed, failed'⟩ | ⟨register, present, found, found'⟩ := resolved
  · rw [failed, failed']
    exact .error widened_fetched
  · rw [found, found']
    exact .ok ⟨rfl, present⟩ widened_fetched

variable [Device δ] [Device ε]

/-- Instructions that are portable come to the same. -/
theorem perform (widened : Widened spare machine other) {opcode : Opcode}
    (unsized : opcode.isSized = false)
    (shared : opcode = .get ∨ opcode = .put → ∀ number,
      machine.memory.readByte machine.pc.toNat = .ok number → SharedNumber number) :
    Corresponds excused (Widened spare) Eq (Machine.perform opcode machine)
      (Machine.perform opcode other) := by
  cases opcode with
  | inp | out | inc => cases unsized
  | nop => exact .ok rfl widened
  | put =>
      refine (widened.fetchRegister (shared (Or.inr rfl))).bind ?_
      rintro register named _ namedOther - ⟨rfl, present⟩ widened_named
      refine simulates_bind_eq fetch ?_ named namedOther widened_named
      intro address
      refine simulates_bind simulates_get ?_
      intro loaded loadedOther widened_loaded
      rw [widened_loaded.registers, Registers.get_withSpare present]
      exact writeCell address _
  | get =>
      refine (widened.fetchRegister (shared (Or.inl rfl))).bind ?_
      rintro register named _ namedOther - ⟨rfl, present⟩ widened_named
      refine simulates_bind_eq fetch ?_ named namedOther widened_named
      intro address
      refine simulates_bind_eq (readCell address) ?_
      intro byte
      exact update fun registers => Registers.set_withSpare present registers spare byte
  | add =>
      refine simulates_bind_eq (update fun _ => rfl) ?_ machine other widened
      intro _
      refine simulates_bind_eq fetch fun value => update fun registers => ?_
      exact registers.addLiteral_withSpare spare value
  | sub =>
      refine simulates_bind_eq (update fun _ => rfl) ?_ machine other widened
      intro _
      refine simulates_bind_eq fetch fun value => update fun registers => ?_
      exact registers.subtractLiteral_withSpare spare value
  | dec => exact update (·.decrement_withSpare spare) machine other widened
  | jmp => exact jumpIf (fun _ => rfl) machine other widened
  | jmz => exact jumpIf (fun _ => rfl) machine other widened
  | jmn => exact jumpIf (fun _ => rfl) machine other widened
  | halt => exact .ok rfl { widened with status := rfl }

omit [Device δ] [Device ε] in
theorem fetched (widened : Widened spare machine other) (opcode : UInt8) :
    Widened spare (machine.fetched opcode) (other.fetched opcode) := by
  have told := widened.observer.tell machine.pc opcode
  have hooks := widened.hooks.requestBreak_if told.wantsBreak
  have conditions_eq := (frame_fetched machine opcode).debugger.conditions
  rw [Machine.fetched, Machine.fetched, ← widened.pc_eq]
  exact
    { widened with
      observer := told
      registers := by rw [widened.registers]; rfl
      hooks := hooks
      conditions := conditions_eq ▸ widened.conditions }

/-- What is fetched as a portable instruction is executed alike. -/
theorem execute (widened : Widened spare machine other) (portable : machine.Portable) {byte : UInt8}
    (readable : machine.memory.readByte machine.pc.toNat = .ok byte) :
    Corresponds excused (Widened spare) Eq
      (Machine.execute machine.pc byte (machine.fetched byte))
      (Machine.execute machine.pc byte (other.fetched byte)) := by
  have next := nextOpcode?_of_readable readable
  unfold Machine.execute
  cases known : Opcode.ofByte? byte with
  | none => exact skip machine.pc byte _ _ (widened.fetched byte)
  | some opcode =>
      rw [known] at next
      refine (widened.fetched byte).perform (portable.unsized next) ?_
      intro names number ahead
      have ahead_eq : machine.byteAhead? 1 = some number := by
        change machine.memory.readByte (machine.pc + 1).toNat = .ok number at ahead
        rw [byteAhead?, ahead]
        rfl
      exact portable.shared next names ahead_eq

/-- A step whose instruction is portable comes to the same. -/
theorem step (widened : Widened spare machine other) (portable : machine.Portable) :
    Corresponds excused (Widened spare) Eq (Machine.step machine) (Machine.step other) := by
  have status_eq := widened.status
  cases running : machine.status with
  | halted =>
      rw [running] at status_eq
      rw [step_of_halted running, step_of_halted status_eq.symm]
      exact .error widened
  | running =>
      rw [running] at status_eq
      cases readable : machine.memory.readByte machine.pc.toNat with
      | error fault =>
          have readable' := readable
          rw [widened.memory, widened.pc_eq] at readable'
          rw [step_of_unreadable running readable, step_of_unreadable status_eq.symm readable']
          exact .error { widened with }
      | ok byte =>
          have readable' := readable
          rw [widened.memory, widened.pc_eq] at readable'
          have executes : Corresponds excused (Widened spare) Eq _ _ :=
            widened.execute portable readable
          rw [step_of_readable running readable, step_of_readable status_eq.symm readable',
            ← widened.pc_eq]
          generalize Machine.execute machine.pc byte (machine.fetched byte) = left at executes ⊢
          generalize Machine.execute machine.pc byte (other.fetched byte) = right at executes ⊢
          cases executes with
          | ok same executed =>
              refine .ok ?_ { executed with steps := congrArg (· + 1) executed.steps }
              have pc_eq := executed.pc_eq
              simp only [stepEvent, counted, pc, executed.status] at pc_eq ⊢
              rw [pc_eq]
          | error executed => exact .error executed
          | excused allowed => exact .excused allowed

omit [Device δ] [Device ε] in
theorem byteAhead?_eq (widened : Widened spare machine other) (distance : UInt8) :
    machine.byteAhead? distance = other.byteAhead? distance := by
  rw [byteAhead?, byteAhead?, widened.memory, widened.pc_eq]

omit [Device δ] [Device ε] in
/-- A portable instruction makes the same store on both machines. -/
theorem store?_eq (widened : Widened spare machine other) (portable : machine.Portable) :
    machine.store? = other.store? := by
  have next_eq : machine.nextOpcode? = other.nextOpcode? := by
    rw [nextOpcode?, nextOpcode?, widened.byteAhead?_eq]
  simp only [store?, ← next_eq, ← widened.byteAhead?_eq, widened.byte, widened.word]
  split
  · rename_i stores
    cases ahead : machine.byteAhead? 1 with
    | none => rfl
    | some number =>
        simp only [Option.bind_eq_bind, Option.bind_some]
        obtain ⟨fault, failed, failed'⟩ | ⟨register, present, found, found'⟩ :=
          (portable.shared stores (Or.inr rfl) ahead).resolve
        · rw [failed, failed']
          rfl
        · have value_eq : { machine.registers with pc := machine.pc + 3 }.get register =
              { other.registers with pc := other.pc + 3 }.get register := by
            rw [widened.registers, ← widened.pc_eq]
            exact (Registers.get_withSpare present _ spare).symm
          simp only [found, found', Except.toOption, Option.bind_some, value_eq]
  · rfl

/-- The rounds of a run come to the same as long as its instructions are portable. -/
theorem runRespected (excused : Fault → Prop) (spare : Registers) :
    RunRespected excused Portable (Widened spare : Machine δ → Machine ε → Prop) where
  pc := pc_eq
  status := fun widened => widened.status
  steps := fun widened => widened.steps
  maxSteps := fun widened => widened.maxSteps
  resumeAt := fun widened => widened.resumeAt
  check := by
    intro machine other widened
    have holds_eq (condition : Condition)
        (member : some condition ∈ machine.debugger.conditions) :
        condition.holds machine.registerFile = condition.holds other.registerFile := by
      rw [registerFile, registerFile, widened.byte, widened.word, widened.registers]
      exact (widened.conditions condition member).holds_eq machine.registers spare
    rw [← widened.pc_eq]
    obtain failed | ⟨checked, checked', found, answered, same, hooks, conditions_eq⟩ :=
      widened.hooks.checkInstruction holds_eq machine.pc.toNat
    · exact Or.inl failed
    · exact Or.inr ⟨checked, checked', found, answered, same,
        { widened with hooks := hooks, conditions := conditions_eq ▸ widened.conditions }⟩
  step := fun widened portable => widened.step portable
  store := by
    intro machine after other event widened portable _
    rw [watchedStore?, watchedStore?, widened.store?_eq portable, widened.hooks.watchpoints]
  settle := fun widened => { widened with }
  remember := fun _ widened => { widened with resumeAt := rfl }
  conclude := fun _ widened => { widened with }

end Widened

/-- A program that is portable runs on both variants alike. Every call has the same answer, the
machines go on agreeing in all that both have, and the larger machine keeps its own registers. -/
theorem portable_program_runs_alike [Device δ] [Device ε] {spare : Registers} {small : Machine δ}
    {large : Machine ε} (widened : Widened spare small large) (calls : List Call)
    (portable : ∀ attempt ∈ allAttempts calls small, attempt.Portable) :
    let final := (series call calls small).2
    let other := (series call calls large).2
    (series call calls small).1 = (series call calls large).1 ∧ Widened spare final other ∧
      other.registers.c = large.registers.c ∧ other.registers.d = large.registers.d ∧
      other.registers.i = large.registers.i := by
  obtain ⟨answers_eq, widened_last⟩ :=
    (Widened.runRespected (fun _ => False) spare).calls calls widened portable fun _ _ => id
  refine ⟨answers_eq, widened_last, ?_⟩
  rw [widened_last.registers, widened.registers]
  exact ⟨rfl, rfl, rfl⟩

/-- A machine of the larger variant in whose memory a program stands alone. -/
def holdingWide (program : List UInt8) (spare : Registers) : Machine Scripted :=
  { start (.ofVariant .word none) (Scripted.ofInputs []) with
    memory := ⟨program.toArray⟩
    registers := Registers.zeroed.withSpare spare }

theorem portable_program_runs_alike_to_halt :
    let program : List UInt8 := [0x08, 0x03, 0x05, 0x03, 0xFF]
    let spare : Registers := ⟨0, 0, 3, 4, 0, 0, 7⟩
    let calls : List Call := [.step, .run 4 none, .step]
    Widened spare (holding program) (holdingWide program spare) ∧
      (∀ attempt ∈ allAttempts calls (holding program), attempt.Portable) ∧
      (series call calls (holding program)).1 =
        (series call calls (holdingWide program spare)).1 := by
  intro program spare calls
  have widened : Widened spare (holding program) (holdingWide program spare) :=
    ⟨rfl, rfl, rfl, rfl, .refl _, rfl, rfl, ⟨rfl, rfl, rfl, rfl⟩,
      fun _ member => absurd member List.not_mem_nil, rfl, rfl, rfl⟩
  have portable : ∀ attempt ∈ allAttempts calls (holding program), attempt.Portable := by
    decide +kernel
  exact ⟨widened, portable, (portable_program_runs_alike widened calls portable).1⟩

end Machine

end ByteMachine
